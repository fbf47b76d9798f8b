import Animacharacter.HardwareMng.ThreadedNode

set_option autoImplicit false

namespace Animacharacter.HardwareMng

open StepSystem

def FlushPlace.inside : FlushPlace → Bool
  | .checkInitialized | .raised _ => false
  | _ => true

namespace ThreadedController

structure Guarded (mc : ThreadedController) : Prop where
  one : mc.loop.OneLive
  inside : ∀ (number : Nat) (place : FlushPlace), mc.loop.threads[number]? = some (.inJob place) → place.inside = true →
    mc.initialized = true

-- What the reconciler may rely on at a stage of the controller's turn.
def StageFact (mc : ThreadedController) : Stage → Prop
  | .initializeHw _ => mc.initialized = false
  | .clearWait _ | .startThread _ => mc.loop.thread = .created
  | .checkDeinitializeHw | .deinitializeHw => mc.loop.isRunning = false
  | _ => True

def NextFact (mc : ThreadedController) : Next → Prop
  | .stage stage => mc.StageFact stage
  | .nextController | .signal _ => True

-- No thread and no flag has risen, and the descriptor's thread is the same.
structure Quieter (after mc : ThreadedController) : Prop where
  thread : after.loop.thread = mc.loop.thread
  live : ∀ number, after.loop.liveAt number = true → mc.loop.liveAt number = true
  initialized : after.initialized = true → mc.initialized = true

theorem quieter_running (after mc : ThreadedController) (quieter : after.Quieter mc)
    (stopped : mc.loop.isRunning = false) : after.loop.isRunning = false := by
  refine Bool.eq_false_iff.mpr fun running => ?_
  have before := Loop.running_before after.loop mc.loop quieter.thread quieter.live running
  rw [stopped] at before
  cases before

theorem quieter_fact (after mc : ThreadedController) (quieter : after.Quieter mc) (stage : Stage)
    (fact : mc.StageFact stage) : after.StageFact stage := by
  cases stage with
  | initializeHw toRunning =>
      exact Bool.eq_false_iff.mpr fun ready => absurd (quieter.initialized ready) (Bool.eq_false_iff.mp fact)
  | clearWait toRunning => exact quieter.thread.trans fact
  | startThread toRunning => exact quieter.thread.trans fact
  | checkDeinitializeHw => exact quieter_running after mc quieter fact
  | deinitializeHw => exact quieter_running after mc quieter fact
  | _ => trivial

theorem within_quieter (mc : ThreadedController) (loop : Loop FlushPlace) (within : loop.Within mc.loop) :
    ({ mc with loop } : ThreadedController).Quieter mc := ⟨within.thread, within.live, fun ready => ready⟩

theorem within_guarded (mc : ThreadedController) (loop : Loop FlushPlace) (within : loop.Within mc.loop)
    (guarded : mc.Guarded) : ({ mc with loop } : ThreadedController).Guarded :=
  ⟨Loop.within_one_live loop mc.loop within guarded.one,
    fun number place present => guarded.inside number place (within.jobs number place present)⟩

theorem moved_quieter (after mc : ThreadedController) (number : Nat) (old target : Place FlushPlace)
    (present : mc.loop.threads[number]? = some old) (alive : old.live = true)
    (loop : after.loop = mc.loop.moveTo number target) (initialized : after.initialized = true → mc.initialized = true) :
    after.Quieter mc := by
  refine ⟨by rw [loop]; rfl, fun other live => ?_, initialized⟩
  rw [loop] at live
  exact Loop.move_to_live mc.loop number old target present alive other live

-- The moving thread is the only one alive, so its own place decides.
theorem moved_guarded (after mc : ThreadedController) (number : Nat) (old target : Place FlushPlace)
    (present : mc.loop.threads[number]? = some old) (alive : old.live = true)
    (loop : after.loop = mc.loop.moveTo number target) (guarded : mc.Guarded)
    (inside : ∀ place, target = .inJob place → place.inside = true → after.initialized = true) : after.Guarded := by
  have held := guarded.one number ((Loop.live_at_iff _ number).mpr ⟨old, present, alive⟩)
  constructor
  · intro other live
    rw [loop] at live ⊢
    exact guarded.one other (Loop.move_to_live mc.loop number old target present alive other live)
  · intro other place found within
    rw [loop] at found
    by_cases same : number = other
    · subst same
      rw [Loop.move_to_self mc.loop number old target present] at found
      exact inside place (Option.some.inj found) within
    · rw [Loop.move_to_other mc.loop number other target same] at found
      have also := guarded.one other ((Loop.live_at_iff _ other).mpr ⟨_, found, rfl⟩)
      rw [held] at also
      cases also
      exact absurd rfl same

theorem flush_step_moves (mc : ThreadedController) (number activation : Nat) (call : CallResult) (place : FlushPlace) :
    ∃ target, (mc.flushStep number activation call place).loop = mc.loop.moveTo number target ∧
      ((mc.flushStep number activation call place).initialized = true → mc.initialized = true) ∧
      ∀ next, target = .inJob next → next.inside = true →
        (mc.flushStep number activation call place).initialized = mc.initialized ∧
          (place.inside = true ∨ mc.initialized = true) := by
  cases place with
  | checkInitialized =>
      refine ⟨_, rfl, fun ready => ready, fun next entered inside => ⟨rfl, .inr ?_⟩⟩
      by_contra cold
      rw [if_neg cold] at entered
      cases entered
  | readSize => exact ⟨_, rfl, fun ready => ready, fun _ _ _ => ⟨rfl, .inl rfl⟩⟩
  | takeCommands left commands =>
      cases left with
      | zero => exact ⟨_, rfl, fun ready => ready, fun _ _ _ => ⟨rfl, .inl rfl⟩⟩
      | succ left =>
          simp only [flushStep]
          cases mc.incoming with
          | nil => exact ⟨_, rfl, fun ready => ready, fun _ _ _ => ⟨rfl, .inl rfl⟩⟩
          | cons command rest => exact ⟨_, rfl, fun ready => ready, fun _ _ _ => ⟨rfl, .inl rfl⟩⟩
  | configUpdates commands => exact ⟨_, rfl, fun ready => ready, fun _ _ _ => ⟨rfl, .inl rfl⟩⟩
  | read commands =>
      cases call with
      | returned => exact ⟨_, rfl, fun ready => ready, fun _ _ _ => ⟨rfl, .inl rfl⟩⟩
      | raised raised => exact ⟨_, rfl, fun ready => ready, fun _ _ _ => ⟨rfl, .inl rfl⟩⟩
      | exits => exact ⟨_, rfl, fun ready => ready, fun _ _ _ => ⟨rfl, .inl rfl⟩⟩
  | control => exact ⟨_, rfl, fun ready => ready, fun _ _ _ => ⟨rfl, .inl rfl⟩⟩
  | raised raised =>
      refine ⟨_, rfl, fun ready => (Bool.and_eq_true_iff.mp ready).1, fun next left => ?_⟩
      exact absurd left (Loop.after_job_outside _ next)

theorem thread_guarded (mc after : ThreadedController) (number activation : Nat) (call : CallResult)
    (handler : HandlerResult) (guarded : mc.Guarded) (moved : mc.threadStep number activation call handler = some after) :
    after.Guarded ∧ after.Quieter mc := by
  have outside (moved : (mc.loop.threadStep number handler).map (fun loop => { mc with loop }) = some after) :
      after.Guarded ∧ after.Quieter mc := by
    obtain ⟨loop, stepped, rfl⟩ := Option.map_eq_some_iff.mp moved
    have within := Loop.thread_step_within mc.loop loop number handler stepped
    exact ⟨within_guarded mc loop within guarded, within_quieter mc loop within⟩
  simp only [threadStep] at moved
  split at moved
  · rename_i present
    cases moved
    exact ⟨moved_guarded _ mc number .released _ present rfl rfl guarded (by simp [FlushPlace.inside]),
      moved_quieter _ mc number .released _ present rfl rfl fun ready => ready⟩
  · rename_i place present
    cases moved
    obtain ⟨target, loop, flag, entered⟩ := flush_step_moves mc number activation call place
    refine ⟨moved_guarded _ mc number _ target present rfl loop guarded fun next same inside => ?_,
      moved_quieter _ mc number _ target present rfl loop flag⟩
    obtain ⟨kept, source⟩ := entered next same inside
    rw [kept]
    exact source.elim (guarded.inside number place present) fun ready => ready
  · exact outside moved

theorem after_observe_fact (mc : ThreadedController) (again : Bool) (actual : ControllerState) :
    mc.NextFact (mc.afterObserve again actual) := by
  simp only [afterObserve]
  split
  · split <;> trivial
  · split
    · trivial
    · split <;> trivial

theorem after_initialized_fact (mc : ThreadedController) (toRunning : Bool) : mc.NextFact (afterInitialized toRunning) := by
  cases toRunning <;> trivial

-- With no thread alive the flag may change either way.
theorem stopped_guarded (mc : ThreadedController) (initialized : Bool) (guarded : mc.Guarded)
    (stopped : mc.loop.isRunning = false) : ({ mc with initialized } : ThreadedController).Guarded := by
  refine ⟨guarded.one, fun number place present _ => ?_⟩
  have running := Loop.one_live_running mc.loop guarded.one number ((Loop.live_at_iff _ number).mpr ⟨_, present, rfl⟩)
  rw [stopped] at running
  cases running

theorem initialize_guarded (mc : ThreadedController) (outcome : Outcome) (toRunning : Bool) (guarded : mc.Guarded) :
    (mc.initializeHw toRunning outcome).1.Guarded ∧
      (mc.initializeHw toRunning outcome).1.NextFact (mc.initializeHw toRunning outcome).2 := by
  cases outcome with
  | returned result =>
      cases result with
      | true => exact ⟨⟨guarded.one, fun _ _ _ _ => rfl⟩, trivial⟩
      | false => exact ⟨guarded, after_initialized_fact mc toRunning⟩
  | raised raised => exact ⟨guarded, trivial⟩

theorem deinitialize_guarded (mc : ThreadedController) (outcome : Outcome) (guarded : mc.Guarded)
    (stopped : mc.loop.isRunning = false) :
    (mc.deinitializeHw outcome).1.Guarded ∧ (mc.deinitializeHw outcome).1.NextFact (mc.deinitializeHw outcome).2 := by
  cases outcome with
  | returned result =>
      cases result with
      | true => exact ⟨stopped_guarded mc false guarded stopped, trivial⟩
      | false => exact ⟨guarded, trivial⟩
  | raised raised => exact ⟨guarded, trivial⟩

theorem reconcile_guarded (mc : ThreadedController) (outcome : Outcome) (stage : Stage) (guarded : mc.Guarded)
    (fact : mc.StageFact stage) :
    (mc.reconcileStep outcome stage).1.Guarded ∧
      (mc.reconcileStep outcome stage).1.NextFact (mc.reconcileStep outcome stage).2 := by
  have paused (value : Bool) : ({ mc with loop := mc.loop.setLoopPaused value } : ThreadedController).Guarded :=
    within_guarded mc _ (Loop.set_loop_paused_within mc.loop value) guarded
  cases stage with
  | observe again | observeRunning again hwInit | join => exact ⟨guarded, trivial⟩
  | observePaused again hwInit loopRunning => exact ⟨guarded, after_observe_fact mc again _⟩
  | checkInitialized toRunning =>
      refine ⟨guarded, ?_⟩
      by_cases ready : mc.initialized = true
      · rw [reconcileStep, if_pos ready]
        trivial
      · rw [reconcileStep, if_neg ready]
        exact Bool.eq_false_iff.mpr ready
  | initializeHw toRunning => exact initialize_guarded mc outcome toRunning guarded
  | checkRunning toRunning =>
      refine ⟨guarded, ?_⟩
      by_cases running : mc.loop.isRunning = true
      · rw [reconcileStep, if_pos running]
        trivial
      · rw [reconcileStep, if_neg running]
        trivial
  | startLoop toRunning =>
      by_cases running : mc.loop.isRunning = true
      · rw [reconcileStep, if_pos running]
        exact ⟨guarded, after_initialized_fact mc toRunning⟩
      · rw [reconcileStep, if_neg running]
        have made := Loop.make_thread_one_live mc.loop guarded.one (Bool.eq_false_iff.mpr running)
        exact ⟨⟨made, guarded.inside⟩, rfl⟩
  | clearWait toRunning => exact ⟨paused true, fact⟩
  | startThread toRunning =>
      have started := Loop.start_thread_one_live mc.loop (outcome = .returned true) guarded.one fact
      refine ⟨⟨started, fun number place present => ?_⟩, after_initialized_fact _ toRunning⟩
      exact guarded.inside number place (Loop.start_thread_jobs mc.loop _ number place present)
  | pauseRunning toRunning => exact ⟨paused true, after_initialized_fact _ toRunning⟩
  | pause => exact ⟨paused true, trivial⟩
  | resume => exact ⟨paused false, trivial⟩
  | checkStopping | checkStopped =>
      refine ⟨guarded, ?_⟩
      by_cases running : mc.loop.isRunning = true
      · rw [reconcileStep, if_pos running]
        trivial
      · rw [reconcileStep, if_neg running]
        exact Bool.eq_false_iff.mpr running
  | requestStop =>
      by_cases running : mc.loop.isRunning = true
      · rw [reconcileStep, if_pos running]
        have within : mc.loop.clearRun.Within mc.loop := Loop.same_threads_within _ _ rfl rfl
        exact ⟨within_guarded mc _ within guarded, trivial⟩
      · rw [reconcileStep, if_neg running]
        exact ⟨guarded, trivial⟩
  | setWait => exact ⟨paused false, trivial⟩
  | checkDeinitializeHw =>
      refine ⟨guarded, ?_⟩
      by_cases ready : mc.initialized = true
      · rw [reconcileStep, if_pos ready]
        exact fact
      · rw [reconcileStep, if_neg ready]
        trivial
  | deinitializeHw => exact deinitialize_guarded mc outcome guarded fact

def reads (mc : ThreadedController) (number : Nat) : Prop :=
  ∃ commands, mc.loop.threads[number]? = some (.inJob (.read commands))

def controls (mc : ThreadedController) (number : Nat) : Prop := mc.loop.threads[number]? = some (.inJob .control)

theorem guarded_single (mc : ThreadedController) (guarded : mc.Guarded) (number other : Nat)
    (alive : mc.loop.liveAt number = true) (also : mc.loop.liveAt other = true) : number = other := by
  have held := guarded.one number alive
  rw [guarded.one other also] at held
  exact (ThreadObject.started.inj held).symm

theorem in_job_live (mc : ThreadedController) (number : Nat) (place : FlushPlace)
    (present : mc.loop.threads[number]? = some (.inJob place)) : mc.loop.liveAt number = true :=
  (Loop.live_at_iff _ number).mpr ⟨_, present, rfl⟩

theorem moved_guarded_quieter (mc after : ThreadedController) (activation : Nat) (guarded : mc.Guarded)
    (moved : mc.Moved activation after) : after.Guarded ∧ after.Quieter mc := by
  cases moved with
  | thread number call handler moved => exact thread_guarded mc after number activation call handler guarded moved
  | loop loop within result =>
      rw [result]
      exact ⟨within_guarded mc loop within guarded, within_quieter mc loop within⟩

theorem handled_guarded (mc after : ThreadedController) (activation : Nat) (guarded : mc.Guarded)
    (handled : mc.Handled activation after) : after.Guarded := by
  cases handled with
  | goal goal result =>
      rw [result]
      exact ⟨guarded.one, guarded.inside⟩
  | loop loop within result =>
      rw [result]
      exact within_guarded mc loop within guarded
  | received command result =>
      rw [result]
      exact ⟨guarded.one, guarded.inside⟩

end ThreadedController

namespace ThreadedNode

structure HooksGuarded (node : ThreadedNode) : Prop where
  controllers : ∀ mc ∈ node.controllers, mc.Guarded
  turn : ∀ pass index rest mc, node.task = .reconciling pass → pass.rest = index :: rest →
    node.controllers[index]? = some mc → mc.StageFact pass.stage

theorem rest_guarded (node : ThreadedNode) (controllers : ∀ mc ∈ node.controllers, mc.Guarded) (rest : node.AtRest) :
    node.HooksGuarded := by
  refine ⟨controllers, fun pass index later mc task _ _ => ?_⟩
  rw [rest pass task]
  trivial

theorem turn_guarded (node : ThreadedNode) (pass : StagedPass) (index : Nat) (rest : List Nat) (mc : ThreadedController)
    (outcome : Outcome) (good : node.HooksGuarded) (task : node.task = .reconciling pass)
    (order : pass.rest = index :: rest) (present : node.controllers[index]? = some mc) :
    ((node.setController index (mc.reconcileStep outcome pass.stage).1).goOn pass
      (mc.reconcileStep outcome pass.stage).2).HooksGuarded := by
  obtain ⟨guarded, facts⟩ := ThreadedController.reconcile_guarded mc outcome pass.stage
    (good.controllers mc (List.mem_of_getElem? present)) (good.turn pass index rest mc task order present)
  have controllers := set_all ThreadedController.Guarded node.controllers index _ good.controllers guarded
  cases next : (mc.reconcileStep outcome pass.stage).2 with
  | stage stage =>
      refine ⟨controllers, fun later turned others other same here found => ?_⟩
      cases same
      rw [order] at here
      cases here
      rw [goOn, setController, List.getElem?_set_self (List.getElem?_eq_some_iff.mp present).1] at found
      cases found
      rw [next] at facts
      exact facts
  | nextController => exact rest_guarded _ controllers (next_rest _ pass)
  | signal signal =>
      refine rest_guarded _ ?_ (signal_rest _ pass signal)
      rw [go_on_controllers]
      exact controllers

theorem beside_guarded (node after : ThreadedNode) (index : Nat) (mc changed : ThreadedController)
    (good : node.HooksGuarded) (present : node.controllers[index]? = some mc)
    (moved : mc.Moved node.activations changed) (task : after.task = node.task)
    (controllers : after.controllers = node.controllers.set index changed) : after.HooksGuarded := by
  obtain ⟨guarded, quieter⟩ := ThreadedController.moved_guarded_quieter mc changed node.activations
    (good.controllers mc (List.mem_of_getElem? present)) moved
  constructor
  · rw [controllers]
    exact set_all ThreadedController.Guarded node.controllers index changed good.controllers guarded
  · intro pass turned rest other here order found
    rw [task] at here
    rw [controllers] at found
    by_cases same : index = turned
    · subst same
      rw [List.getElem?_set_self (List.getElem?_eq_some_iff.mp present).1] at found
      cases found
      exact ThreadedController.quieter_fact changed mc quieter pass.stage (good.turn pass index rest mc here order present)
    · rw [List.getElem?_set_ne same] at found
      exact good.turn pass turned rest other here order found

theorem step_guarded (node after : ThreadedNode) (action : ThreadedAction) (good : node.HooksGuarded)
    (moved : node.step action = some after) : after.HooksGuarded := by
  cases step_cases node after action moved with
  | turn pass index rest mc outcome task order present result =>
      rw [result]
      exact turn_guarded node pass index rest mc outcome good task order present
  | beside index mc changed present moved task activations controllers =>
      exact beside_guarded node after index mc changed good present moved task controllers
  | executor rest activations controllers =>
      refine rest_guarded after (fun changed member => ?_) rest
      obtain ⟨mc, inside, handled⟩ := controllers changed member
      exact ThreadedController.handled_guarded mc changed node.activations (good.controllers mc inside) handled
  | activated taken result =>
      rw [result]
      refine rest_guarded _ (fun changed member => ?_) (start_rest _ (.lifecycle (some true)) false)
      obtain ⟨mc, inside, rfl⟩ := List.mem_map.mp member
      exact ThreadedController.handled_guarded mc _ node.activations (good.controllers mc inside) (.goal .RUNNING rfl)

def inHook (node : ThreadedNode) (index : Nat) : Prop :=
  ∃ pass rest, node.task = .reconciling pass ∧ pass.rest = index :: rest ∧
    (pass.stage = .deinitializeHw ∨ ∃ toRunning, pass.stage = .initializeHw toRunning)

structure HooksExclude (node : ThreadedNode) : Prop where
  apart : ∀ index mc number, node.inHook index → node.controllers[index]? = some mc → ¬ mc.reads number ∧ ¬ mc.controls number
  oneThread : ∀ mc ∈ node.controllers, ∀ number other, mc.loop.liveAt number = true → mc.loop.liveAt other = true →
    number = other
  oneControl : ∀ mc ∈ node.controllers, ∀ number other, mc.controls number → mc.controls other → number = other
  initialized : ∀ mc ∈ node.controllers, ∀ number, mc.controls number → mc.initialized = true

theorem hook_apart (node : ThreadedNode) (good : node.HooksGuarded) (index : Nat) (mc : ThreadedController) (number : Nat)
    (place : FlushPlace) (hook : node.inHook index) (present : node.controllers[index]? = some mc)
    (inside : place.inside = true) : mc.loop.threads[number]? ≠ some (.inJob place) := by
  intro flushing
  have guarded := good.controllers mc (List.mem_of_getElem? present)
  obtain ⟨pass, rest, task, here, stage⟩ := hook
  have fact := good.turn pass index rest mc task here present
  rcases stage with lowering | ⟨toRunning, raising⟩
  · rw [lowering] at fact
    have alive := ThreadedController.in_job_live mc number place flushing
    have running := Loop.one_live_running mc.loop guarded.one number alive
    exact absurd running (Bool.eq_false_iff.mp fact)
  · rw [raising] at fact
    exact absurd (guarded.inside number place flushing inside) (Bool.eq_false_iff.mp fact)

theorem guarded_exclude (node : ThreadedNode) (good : node.HooksGuarded) : node.HooksExclude where
  apart := fun index mc number hook present =>
    ⟨fun ⟨commands, reading⟩ => hook_apart node good index mc number (.read commands) hook present rfl reading,
      hook_apart node good index mc number .control hook present rfl⟩
  oneThread := fun mc member number other => ThreadedController.guarded_single mc (good.controllers mc member) number other
  oneControl := fun mc member number other controlling also =>
    ThreadedController.guarded_single mc (good.controllers mc member) number other
      (ThreadedController.in_job_live mc number .control controlling)
      (ThreadedController.in_job_live mc other .control also)
  initialized := fun mc member number controlling => (good.controllers mc member).inside number .control controlling rfl

theorem init_guarded (node : ThreadedNode) (started : threadedManager.start node) : node.HooksGuarded := by
  obtain ⟨fresh, _, _, idle, _⟩ := started
  refine rest_guarded node (fun mc member => ?_) fun pass task => ?_
  · obtain ⟨commandGroup, rfl⟩ := fresh mc member
    exact ⟨fun number alive => by simp [ThreadedController.init, Loop.init, Loop.liveAt] at alive,
      fun number place present => by simp [ThreadedController.init, Loop.init] at present⟩
  · rw [idle] at task
    cases task

end ThreadedNode

-- In every reachable state of the node with its threads no hook of a controller
-- runs beside its read or control, and control runs once at a time, initialized.
theorem hooks_exclude (node : ThreadedNode) (reached : Reached threadedManager anyAction node) : node.HooksExclude :=
  ThreadedNode.guarded_exclude node
    (reached_invariant threadedManager anyAction ThreadedNode.HooksGuarded ThreadedNode.init_guarded
      (fun source action target good _ moved => ThreadedNode.step_guarded source target action good moved) node reached)

def mainReturns : ThreadedAction := .main (.returned true)

def threadReturns : ThreadedAction := .thread 0 0 .returned .returned

-- Configure and activate one controller, up to its thread past the wait.
def broughtUp : List ThreadedAction :=
  [.configure] ++ List.replicate 10 mainReturns ++ List.replicate 2 threadReturns ++
    [.activate] ++ List.replicate 5 mainReturns

-- Its control raises; the reconciler calls initialize_hw while the thread is
-- still to clear the run event.
def crashed : List ThreadedAction :=
  broughtUp ++ List.replicate 6 threadReturns ++
    [.thread 0 0 (.raised (.controllerError 7 "no answer from the servo bus")) .returned, threadReturns, .reconcileTimer] ++
    List.replicate 4 mainReturns

def oneController : ThreadedNode := ⟨[ThreadedController.init [1, 2]], false, false, .idle, 0⟩

theorem one_controller_starts : threadedManager.start oneController := by
  refine ⟨fun mc member => ⟨[1, 2], List.mem_singleton.mp member⟩, rfl, rfl, rfl, rfl⟩

theorem hooks_exclude_crashed :
    ∃ node : ThreadedNode, node.task = .reconciling ⟨.initializeHw true, [0], .timer, false⟩ ∧
      (∃ mc ∈ node.controllers, mc.loop.isRunning = true) ∧ node.HooksExclude := by
  obtain ⟨node, reached, task, running⟩ := replay_exists threadedManager anyAction crashed oneController
    (fun node => node.task = .reconciling ⟨.initializeHw true, [0], .timer, false⟩ ∧
      ∃ mc ∈ node.controllers, mc.loop.isRunning = true) one_controller_starts (by decide +kernel)
  exact ⟨node, task, running, hooks_exclude node reached⟩

end Animacharacter.HardwareMng
