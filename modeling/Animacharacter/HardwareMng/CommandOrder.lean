import Animacharacter.HardwareMng.ControllerSteps
import Animacharacter.HardwareMng.StaleMotion

set_option autoImplicit false

namespace Animacharacter.HardwareMng

open StepSystem

section Holding

variable {Item Held : Type} (held : Item → List Held)

-- What no item brings anew is held in the same order as before.
theorem held_sublist (after before : List Item)
    (old : ∀ (index : Nat) (item : Item), after[index]? = some item → held item ≠ [] → before[index]? = some item) :
    (after.flatMap held).Sublist (before.flatMap held) := by
  induction after generalizing before with
  | nil => exact List.nil_sublist _
  | cons item rest ih =>
      rw [List.flatMap_cons]
      cases before with
      | nil =>
          have none : held item = [] := by
            by_contra some
            cases old 0 item rfl some
          rw [none, List.nil_append]
          exact ih [] fun index other present some => old (index + 1) other present some
      | cons first others =>
          have later := ih others fun index other present some => old (index + 1) other present some
          rw [List.flatMap_cons]
          by_cases none : held item = []
          · rw [none, List.nil_append]
            exact later.trans (List.sublist_append_right _ _)
          · have same := Option.some.inj (old 0 item rfl none)
            rw [same]
            exact (List.Sublist.refl _).append later

theorem held_by_one (items : List Item) (index : Nat) (item : Item) (present : items[index]? = some item)
    (alone : ∀ (other : Nat) (found : Item), items[other]? = some found → other ≠ index → held found = []) :
    items.flatMap held = held item := by
  induction items generalizing index with
  | nil => cases present
  | cons first rest ih =>
      rw [List.flatMap_cons]
      cases index with
      | zero =>
          cases present
          have others : rest.flatMap held = [] := by
            refine List.flatMap_eq_nil_iff.mpr fun found member => ?_
            obtain ⟨other, inside⟩ := List.mem_iff_getElem?.mp member
            exact alone (other + 1) found inside (Nat.succ_ne_zero other)
          rw [others, List.append_nil]
      | succ index =>
          have none := alone 0 first rfl (Nat.zero_ne_add_one index)
          rw [none, List.nil_append]
          exact ih index present fun other found inside apart =>
            alone (other + 1) found inside fun same => apart (Nat.succ.inj same)

end Holding

namespace ThreadedController

-- The commands that control was given, those that a thread has taken for it, and
-- those still in the queue.
def line (mc : ThreadedController) : List Received :=
  mc.controlled.flatMap ControlCall.commands ++ mc.loop.threads.flatMap Place.taken ++ mc.incoming

structure Follows (after mc : ThreadedController) : Prop where
  commandGroup : after.commandGroup = mc.commandGroup
  line : after.line.Sublist mc.line

theorem jobs_follow (after mc : ThreadedController) (commandGroup : after.commandGroup = mc.commandGroup)
    (incoming : after.incoming = mc.incoming) (controlled : after.controlled = mc.controlled)
    (jobs : ∀ (number : Nat) (place : FlushPlace), after.loop.threads[number]? = some (.inJob place) →
      mc.loop.threads[number]? = some (.inJob place)) : after.Follows mc := by
  refine ⟨commandGroup, ?_⟩
  have taken := held_sublist Place.taken after.loop.threads mc.loop.threads fun number place present some => by
    obtain ⟨received, member⟩ := List.exists_mem_of_ne_nil _ some
    obtain ⟨flushing, rfl⟩ := taken_in_job place received member
    exact jobs number flushing present
  rw [ThreadedController.line, ThreadedController.line, incoming, controlled]
  exact ((List.Sublist.refl _).append taken).append (List.Sublist.refl _)

theorem within_follow (mc : ThreadedController) (loop : Loop FlushPlace) (within : loop.Within mc.loop) :
    ({ mc with loop } : ThreadedController).Follows mc := jobs_follow _ mc rfl rfl rfl within.jobs

theorem reconcile_follow (mc : ThreadedController) (outcome : Outcome) (stage : Stage) :
    (mc.reconcileStep outcome stage).1.Follows mc := by
  have kept (after : ThreadedController) (commandGroup : after.commandGroup = mc.commandGroup)
      (incoming : after.incoming = mc.incoming) (controlled : after.controlled = mc.controlled)
      (threads : after.loop.threads = mc.loop.threads) : after.Follows mc :=
    jobs_follow after mc commandGroup incoming controlled fun number place present => threads ▸ present
  have paused (value : Bool) := within_follow mc _ (Loop.set_loop_paused_within mc.loop value)
  cases stage with
  | startThread toRunning =>
      exact jobs_follow _ mc rfl rfl rfl fun number place present => Loop.start_thread_jobs mc.loop _ number place present
  | clearWait toRunning => exact paused true
  | pauseRunning toRunning => exact paused true
  | pause => exact paused true
  | resume => exact paused false
  | setWait => exact paused false
  | startLoop toRunning =>
      simp only [reconcileStep]
      split <;> exact kept _ rfl rfl rfl rfl
  | requestStop =>
      simp only [reconcileStep]
      split <;> exact kept _ rfl rfl rfl rfl
  | initializeHw toRunning =>
      cases outcome with
      | returned result => cases result <;> exact kept _ rfl rfl rfl rfl
      | raised raised => exact kept _ rfl rfl rfl rfl
  | deinitializeHw =>
      cases outcome with
      | returned result => cases result <;> exact kept _ rfl rfl rfl rfl
      | raised raised => exact kept _ rfl rfl rfl rfl
  | _ => exact kept _ rfl rfl rfl rfl

-- The only thread that is alive is the only one to have taken commands.
theorem others_hold_nothing (loop : Loop FlushPlace) (one : loop.OneLive) (number : Nat) (place : Place FlushPlace)
    (present : loop.threads[number]? = some place) (alive : place.live = true) (other : Nat) (found : Place FlushPlace)
    (inside : loop.threads[other]? = some found) (apart : other ≠ number) : Place.taken found = [] := by
  by_contra some
  obtain ⟨received, member⟩ := List.exists_mem_of_ne_nil _ some
  obtain ⟨flushing, rfl⟩ := taken_in_job found received member
  have held := one number ((Loop.live_at_iff loop number).mpr ⟨place, present, alive⟩)
  have also := one other ((Loop.live_at_iff loop other).mpr ⟨_, inside, rfl⟩)
  rw [held] at also
  cases also
  exact apart rfl

-- A flush lays commands of the queue by for control, and hands them over.
theorem moved_follow (after mc : ThreadedController) (number : Nat) (old target : Place FlushPlace) (one : mc.loop.OneLive)
    (present : mc.loop.threads[number]? = some old) (alive : old.live = true)
    (loop : after.loop = mc.loop.moveTo number target) (commandGroup : after.commandGroup = mc.commandGroup)
    (carried : (after.controlled.flatMap ControlCall.commands ++ Place.taken target ++ after.incoming).Sublist
      (mc.controlled.flatMap ControlCall.commands ++ Place.taken old ++ mc.incoming)) : after.Follows mc := by
  refine ⟨commandGroup, ?_⟩
  have alone := others_hold_nothing mc.loop one number old present alive
  have before := held_by_one Place.taken mc.loop.threads number old present alone
  have now : (mc.loop.moveTo number target).threads.flatMap Place.taken = Place.taken target := by
    refine held_by_one Place.taken _ number target (Loop.move_to_self mc.loop number old target present) ?_
    intro other found inside apart
    rw [Loop.move_to_other mc.loop number other target apart.symm] at inside
    exact alone other found inside apart
  rw [ThreadedController.line, ThreadedController.line, loop, now, before]
  exact carried

theorem flush_follow (mc : ThreadedController) (number activation : Nat) (call : CallResult) (place : FlushPlace)
    (one : mc.loop.OneLive) (present : mc.loop.threads[number]? = some (.inJob place)) :
    (mc.flushStep number activation call place).Follows mc := by
  have moves (after : ThreadedController) (target : Place FlushPlace) :=
    moved_follow after mc number (.inJob place) target one present rfl
  have drops (target : Place FlushPlace) (nothing : Place.taken target = []) : (mc.moveTo number target).Follows mc := by
    refine moves _ target rfl rfl ?_
    rw [nothing]
    exact ((List.Sublist.refl _).append (List.nil_sublist _)).append (List.Sublist.refl _)
  have keeps (target : Place FlushPlace) (same : Place.taken target = Place.taken (.inJob place)) :
      (mc.moveTo number target).Follows mc := by
    refine moves _ target rfl rfl ?_
    rw [same]
    exact List.Sublist.refl _
  cases place with
  | checkInitialized =>
      refine drops _ ?_
      split
      · rfl
      · exact after_job_taken _
  | readSize => exact drops _ rfl
  | takeCommands left commands =>
      cases left with
      | zero => exact keeps _ rfl
      | succ left =>
          simp only [flushStep]
          cases queue : mc.incoming with
          | nil => exact keeps _ rfl
          | cons command rest =>
              refine moves _ (.inJob (.takeCommands left (commands ++ [command]))) rfl rfl ?_
              simp [Place.taken, queue, moveTo]
  | configUpdates commands =>
      cases call with
      | returned => exact keeps _ rfl
      | raised raised => exact drops _ rfl
      | exits => exact drops _ (after_job_taken .exits)
  | read commands =>
      cases call with
      | returned =>
          refine moves _ (.inJob .control) rfl rfl ?_
          simp [Place.taken, flushStep, entersControl]
      | raised raised => exact drops _ rfl
      | exits => exact drops _ (after_job_taken .exits)
  | control =>
      refine drops _ ?_
      cases call with
      | returned => exact after_job_taken (.returned none)
      | raised raised => rfl
      | exits => exact after_job_taken .exits
  | raised raised =>
      refine moves _ (Place.afterJob (.returned (some (exceptBranch raised).2))) rfl rfl ?_
      rw [after_job_taken]
      exact List.Sublist.refl _

theorem thread_follow (mc after : ThreadedController) (number activation : Nat) (call : CallResult)
    (handler : HandlerResult) (one : mc.loop.OneLive)
    (moved : mc.threadStep number activation call handler = some after) : after.Follows mc := by
  simp only [threadStep] at moved
  split at moved
  · rename_i present
    cases moved
    exact moved_follow _ mc number .released _ one present rfl rfl rfl (List.Sublist.refl _)
  · rename_i place present
    cases moved
    exact flush_follow mc number activation call place one present
  · obtain ⟨loop, stepped, rfl⟩ := Option.map_eq_some_iff.mp moved
    exact within_follow mc loop (Loop.thread_step_within mc.loop loop number handler stepped)

end ThreadedController

namespace ThreadedNode

-- What a step does to the line of a controller's commands.
inductive Carried (node : ThreadedNode) (action : ThreadedAction) (mc changed : ThreadedController) : Prop where
  | follows (silent : node.dispatching action = none) (follows : changed.Follows mc)
  | dispatched (frame : Int × ℚ) (named : node.dispatching action = some frame)
      (result : changed = if frame.1 ∈ mc.commandGroup then
        { mc with incoming := mc.incoming ++ [⟨⟨frame.1, frame.2⟩, node.activations⟩] } else mc)

theorem turned_carried (node : ThreadedNode) (action : ThreadedAction) (index : Nat) (mc changed : ThreadedController)
    (one : mc.loop.OneLive) (turned : node.Turned action index mc changed) : node.Carried action mc changed := by
  cases turned with
  | turn pass outcome main task order result =>
      rw [main, result]
      exact .follows (by simp [dispatching, task]) (ThreadedController.reconcile_follow mc outcome pass.stage)
  | thread number call handler taken moved =>
      rw [taken]
      exact .follows rfl (ThreadedController.thread_follow mc changed number node.activations call handler one moved)
  | goal silent goal result =>
      rw [result]
      exact .follows silent ⟨rfl, .refl _⟩
  | loop silent loop within result =>
      rw [result]
      exact .follows silent (ThreadedController.within_follow mc loop within)
  | dispatched frame named result => exact .dispatched frame named result

theorem step_carried (node after : ThreadedNode) (action : ThreadedAction)
    (guarded : ∀ mc ∈ node.controllers, mc.Guarded) (moved : node.step action = some after) :
    ∀ changed ∈ after.controllers, ∃ mc ∈ node.controllers, node.Carried action mc changed := by
  intro changed member
  obtain ⟨index, found⟩ := List.mem_iff_getElem?.mp member
  obtain ⟨mc, present, turned⟩ := turned_from node after action (step_turned node after action moved) index changed found
  have inside := List.mem_of_getElem? present
  exact ⟨mc, inside, turned_carried node action index mc changed (guarded mc inside).one turned⟩

-- The id and value pairs that a step takes from a message, while the node is active.
def accepting (node : ThreadedNode) : ThreadedAction → List (Int × ℚ)
  | .motionframe ids values => if node.isActive then ids.zip values else []
  | _ => []

def pending (node : ThreadedNode) : List (Int × ℚ) :=
  match node.task with
  | .dispatching frames => frames
  | _ => []

section Pending

variable (node : ThreadedNode)

theorem signal_pending (pass : StagedPass) (signal : Signal) : (node.handleLoopSignal pass signal).pending = [] := by
  simp only [handleLoopSignal]
  split
  · split <;> rfl
  · rfl

theorem pass_pending (pass : StagedPass) (outcome : Outcome) : (node.passStep pass outcome).pending = [] := by
  simp only [passStep]
  split
  · simp only [endPass]
    split
    · rfl
    · split <;> rfl
  · split
    · rename_i mc _
      cases next : (mc.reconcileStep outcome pass.stage).2 with
      | stage stage => rfl
      | nextController => rfl
      | signal signal => exact signal_pending _ pass signal
    · rfl

theorem request_stops_pending (origin : Origin) (rest : List Nat) : (node.requestStopsStep origin rest).pending = [] := by
  cases rest with
  | nil => rfl
  | cons index rest =>
      simp only [requestStopsStep]
      split
      · split <;> rfl
      · rfl

theorem set_waits_pending (origin : Origin) (rest : List Nat) : (node.setWaitsStep origin rest).pending = [] := by
  cases rest with
  | nil => rfl
  | cons index rest =>
      simp only [setWaitsStep]
      split <;> rfl

theorem joins_pending (origin : Origin) (rest : List Nat) : (node.joinsStep origin rest).pending = [] := by
  cases rest with
  | nil => rfl
  | cons index rest =>
      simp only [joinsStep]
      split
      · cases origin <;> rfl
      · rfl

end Pending

-- What a step accepts is pending, and what it dispatches is so no longer.
theorem step_pending (node after : ThreadedNode) (action : ThreadedAction) (moved : node.step action = some after) :
    (node.dispatching action).toList ++ after.pending = node.pending ++ node.accepting action := by
  have callback (last : ThreadedNode) (moved : node.callback last = some after) : node.pending = [] ∧ last = after := by
    simp only [ThreadedNode.callback] at moved
    split at moved
    · rename_i idle
      exact ⟨by rw [pending, idle], Option.some.inj moved⟩
    · cases moved
  have started (last : ThreadedNode) (moved : node.callback last = some after) (none : last.pending = []) :
      after.pending = node.pending ++ [] := by
    obtain ⟨idle, rfl⟩ := callback last moved
    rw [none, idle, List.append_nil]
  have beside (task : after.task = node.task) : after.pending = node.pending ++ [] := by
    rw [pending, pending, task, List.append_nil]
  cases action with
  | reconcileTimer => exact started _ moved rfl
  | configure => exact started _ moved rfl
  | activate => exact started _ moved rfl
  | deactivate => exact started _ moved rfl
  | cleanup => exact started _ moved rfl
  | shutdown => exact started _ moved rfl
  | motionframe ids values =>
      obtain ⟨idle, rfl⟩ := callback _ moved
      rw [idle, motionframeCallback, accepting]
      split
      · rfl
      · exact idle
  | main outcome =>
      cases task : node.task with
      | idle => simp [step, mainStep, task] at moved
      | exited code => simp [step, mainStep, task] at moved
      | dispatching frames =>
          simp only [step, mainStep, task, Option.some.injEq] at moved
          subst moved
          cases frames with
          | nil => simp [dispatching, accepting, pending, task, dispatchStep]
          | cons frame rest => simp [dispatching, accepting, pending, task, dispatchStep]
      | reconciling pass =>
          simp only [step, mainStep, task, Option.some.injEq] at moved
          rw [← moved, pass_pending]
          simp [dispatching, accepting, pending, task]
      | requestStops origin rest =>
          simp only [step, mainStep, task, Option.some.injEq] at moved
          rw [← moved, request_stops_pending]
          simp [dispatching, accepting, pending, task]
      | setWaits origin rest =>
          simp only [step, mainStep, task, Option.some.injEq] at moved
          rw [← moved, set_waits_pending]
          simp [dispatching, accepting, pending, task]
      | joins origin rest =>
          simp only [step, mainStep, task, Option.some.injEq] at moved
          rw [← moved, joins_pending]
          simp [dispatching, accepting, pending, task]
  | thread index number call handler =>
      simp only [step, threadStep, Option.bind_eq_some_iff, Option.map_eq_some_iff] at moved
      obtain ⟨mc, present, changed, moved, rfl⟩ := moved
      apply beside
      cases mc.emits number with
      | none => rfl
      | some signal =>
          simp only [Option.elim_some, handleLoopSignalInLoop]
          split
          · split <;> rfl
          · rfl
  | requestStop index =>
      simp only [step, onLoop, Option.bind_eq_some_iff, Option.map_eq_some_iff] at moved
      obtain ⟨mc, present, loop, moved, rfl⟩ := moved
      exact beside rfl
  | finishStop index =>
      simp only [step, onLoop, Option.bind_eq_some_iff, Option.map_eq_some_iff] at moved
      obtain ⟨mc, present, loop, moved, rfl⟩ := moved
      exact beside rfl

end ThreadedNode

def Received.pair (received : Received) : Int × ℚ := (received.command.id, received.command.value)

-- The node, with the pairs of the messages it has received while active and the
-- commands it has dispatched.
structure DispatchRun where
  node : ThreadedNode
  accepted : List (Int × ℚ)
  dispatched : List Received
deriving DecidableEq

namespace DispatchRun

def step (run : DispatchRun) (action : ThreadedAction) : Option DispatchRun :=
  (run.node.step action).map fun node =>
    ⟨node, run.accepted ++ run.node.accepting action, run.dispatched ++
      (run.node.dispatching action).toList.map fun frame => ⟨⟨frame.1, frame.2⟩, run.node.activations⟩⟩

-- The dispatched commands with an id of the group.
def dispatchedTo (run : DispatchRun) (commandGroup : List Int) : List Received :=
  run.dispatched.filter fun received => received.command.id ∈ commandGroup

structure InLine (run : DispatchRun) : Prop where
  guarded : run.node.HooksGuarded
  pending : run.dispatched.map Received.pair ++ run.node.pending = run.accepted
  lines : ∀ mc ∈ run.node.controllers, mc.line.Sublist (run.dispatchedTo mc.commandGroup)

def start (run : DispatchRun) : Prop := threadedManager.start run.node ∧ run.accepted = [] ∧ run.dispatched = []

end DispatchRun

def dispatchRun : System DispatchRun ThreadedAction where
  start := DispatchRun.start
  step := DispatchRun.step

namespace DispatchRun

theorem init_in_line (run : DispatchRun) (started : dispatchRun.start run) : run.InLine := by
  obtain ⟨fresh, accepted, dispatched⟩ := started
  refine ⟨ThreadedNode.init_guarded run.node fresh, ?_, fun mc member => ?_⟩
  · rw [accepted, dispatched, ThreadedNode.pending, fresh.2.2.2.1]
    rfl
  · obtain ⟨commandGroup, rfl⟩ := fresh.1 mc member
    exact List.nil_sublist _

-- A dispatched command enters the queues of the groups that hold its id, so it
-- comes after everything else there.
theorem carried_line (run : DispatchRun) (action : ThreadedAction) (after : DispatchRun) (mc changed : ThreadedController)
    (carried : run.node.Carried action mc changed) (line : mc.line.Sublist (run.dispatchedTo mc.commandGroup))
    (result : after.dispatched = run.dispatched ++
      (run.node.dispatching action).toList.map fun frame => ⟨⟨frame.1, frame.2⟩, run.node.activations⟩) :
    changed.line.Sublist (after.dispatchedTo changed.commandGroup) := by
  cases carried with
  | follows silent follows =>
      rw [silent, Option.toList_none, List.map_nil, List.append_nil] at result
      rw [dispatchedTo, result, follows.commandGroup]
      exact follows.line.trans line
  | dispatched frame named moved =>
      rw [named, Option.toList_some, List.map_singleton] at result
      rw [dispatchedTo, result, List.filter_append, moved]
      split
      · rename_i held
        have added : [(⟨⟨frame.1, frame.2⟩, run.node.activations⟩ : Received)].filter
            (fun received => received.command.id ∈ mc.commandGroup) =
            [⟨⟨frame.1, frame.2⟩, run.node.activations⟩] := by
          rw [List.filter_cons_of_pos (by simpa using held), List.filter_nil]
        rw [added, ThreadedController.line, ← List.append_assoc]
        exact line.append (.refl _)
      · exact line.trans (List.sublist_append_left _ _)

theorem step_in_line (run after : DispatchRun) (action : ThreadedAction) (good : run.InLine)
    (moved : run.step action = some after) : after.InLine := by
  obtain ⟨node, stepped, rfl⟩ := Option.map_eq_some_iff.mp moved
  refine ⟨ThreadedNode.step_guarded run.node node action good.guarded stepped, ?_, fun changed member => ?_⟩
  · have moves := ThreadedNode.step_pending run.node node action stepped
    have paired (frames : List (Int × ℚ)) :
        (frames.map fun frame => (⟨⟨frame.1, frame.2⟩, run.node.activations⟩ : Received)).map Received.pair = frames := by
      rw [List.map_map]
      exact List.map_id frames
    rw [List.map_append, paired, List.append_assoc, moves, ← List.append_assoc, good.pending]
  · obtain ⟨mc, inside, carried⟩ :=
      ThreadedNode.step_carried run.node node action good.guarded.controllers stepped changed member
    exact carried_line run action _ mc changed carried (good.lines mc inside) rfl

theorem reached_in_line (run : DispatchRun) (reached : Reached dispatchRun anyAction run) : run.InLine :=
  reached_invariant dispatchRun anyAction InLine init_in_line
    (fun source action target good _ moved => step_in_line source target action good moved) run reached

end DispatchRun

-- The pairs of the messages received while the node is active are dispatched in
-- their order; however its threads interleave, the controls of a controller are
-- given commands that were dispatched to it, in that order and none of them twice.
theorem controlled_in_dispatch_order (run : DispatchRun) (reached : Reached dispatchRun anyAction run) :
    run.dispatched.map Received.pair ++ run.node.pending = run.accepted ∧
      ∀ mc ∈ run.node.controllers,
        (mc.controlled.flatMap ControlCall.commands).Sublist (run.dispatchedTo mc.commandGroup) := by
  have good := DispatchRun.reached_in_line run reached
  refine ⟨good.pending, fun mc member => ?_⟩
  have front : (mc.controlled.flatMap ControlCall.commands).Sublist mc.line :=
    (List.sublist_append_left _ _).trans (List.sublist_append_left _ _)
  exact front.trans (good.lines mc member)

-- The first iteration loses its command to a warning of the read; the second one
-- controls two.
def warnedFirst : List ThreadedAction :=
  broughtUp ++ [.motionframe [1] [90]] ++ List.replicate 2 mainReturns ++ List.replicate 6 threadReturns ++
    [.thread 0 0 (.raised (.controllerWarning 3 "no reading")) .returned] ++ List.replicate 6 threadReturns ++
    [.motionframe [1, 2] [45, 30]] ++ List.replicate 3 mainReturns ++ List.replicate 8 threadReturns

theorem controlled_in_dispatch_order_warned :
    ∃ run : DispatchRun, run.accepted = [(1, 90), (1, 45), (2, 30)] ∧ ∃ mc ∈ run.node.controllers,
      mc.controlled = [⟨1, [⟨⟨1, 45⟩, 1⟩, ⟨⟨2, 30⟩, 1⟩]⟩] ∧
      (mc.controlled.flatMap ControlCall.commands).Sublist (run.dispatchedTo mc.commandGroup) := by
  obtain ⟨run, reached, accepted, mc, member, controlled⟩ := replay_exists dispatchRun anyAction warnedFirst
    ⟨oneController, [], []⟩
    (fun run => run.accepted = [(1, 90), (1, 45), (2, 30)] ∧ ∃ mc ∈ run.node.controllers,
      mc.controlled = [⟨1, [⟨⟨1, 45⟩, 1⟩, ⟨⟨2, 30⟩, 1⟩]⟩])
    ⟨one_controller_starts, rfl, rfl⟩ (by decide +kernel)
  exact ⟨run, accepted, mc, member, controlled, (controlled_in_dispatch_order run reached).2 mc member⟩

end Animacharacter.HardwareMng
