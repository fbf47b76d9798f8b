import Animacharacter.HardwareMng.Reconciler

set_option autoImplicit false

namespace Animacharacter.HardwareMng

open StepSystem

namespace Node

def AllUninitialized (node : Node) : Prop := ∀ mc ∈ node.controllers, mc.goal = .UNINITIALIZED

-- No descriptor holds a thread whose start failed.
def AllStarted (node : Node) : Prop := ∀ mc ∈ node.controllers, mc.loop.thread ≠ .created

instance (node : Node) : Decidable node.AllUninitialized := inferInstanceAs (Decidable (∀ mc ∈ _, _))

instance (node : Node) : Decidable node.AllStarted := inferInstanceAs (Decidable (∀ mc ∈ _, _))

-- Once the handler has run the goals are down, and no pass has armed anything since.
def Disarmed (node : Node) : Prop := node.handled = true → node.AllUninitialized ∧ node.armed = []

instance (node : Node) : Decidable node.Disarmed := inferInstanceAs (Decidable (_ → _))

end Node

def Outcome.fatal : Outcome → Bool
  | .raised cause => (Node.reconcileSignal cause).name = SIG_CONTROLLER_FATAL
  | .returned _ => false

def fatalFlush : Option Raised → Bool
  | some (.controllerFatal _ _) => true
  | _ => false

-- The fatal signal that starts the shutdown comes from the reconciler, at a
-- time when every thread object of a loop has been started.
def reconcilerDelivers (node : Node) : NodeAction → Prop
  | .main outcome => node.shutdownRequested = false → outcome.fatal = true → node.AllStarted
  | .loop index outcome => node.shutdownRequested = false → fatalFlush outcome = true →
      (node.controllers[index]?.any fun mc => mc.initialized) = false
  | _ => True

instance (node : Node) : (action : NodeAction) → Decidable (reconcilerDelivers node action)
  | .main _ => inferInstanceAs (Decidable (_ → _ → _))
  | .loop _ _ => inferInstanceAs (Decidable (_ → _ → _))
  | .reconcileTimer | .configure | .activate | .deactivate | .cleanup | .shutdown | .loopEnds _ =>
      inferInstanceAs (Decidable True)

structure Calm (node : Node) : Prop where
  handled : node.handled = false
  shutdownRequested : node.shutdownRequested = false
  armed : node.armed = []

structure Before (node : Node) : Prop extends Calm node where
  task : node.task = .idle ∨ ∃ pass, node.task = .reconciling pass ∧ pass.exiting = false

structure Stopping (node : Node) : Prop where
  handled : node.handled = false
  shutdownRequested : node.shutdownRequested = true
  armed : node.armed = []
  task : ∃ origin joins, node.task = .stopAll origin joins
  started : node.AllStarted

def Lowering : Turn → Prop
  | .observe | .stop | .join | .deinitializeHw => True
  | _ => False

structure After (node : Node) : Prop where
  shutdownRequested : node.shutdownRequested = true
  lowered : node.AllUninitialized
  armed : node.armed = []
  task : node.task = .exited HWMNG_CONTROLLER_FATAL ∨
    ∃ pass, node.task = .reconciling pass ∧ pass.exiting = true ∧ Lowering pass.turn

def FatalInvariant (node : Node) : Prop := Before node ∨ Stopping node ∨ After node

theorem request_loop_stop_thread (loop : LoopDescriptor) : loop.requestLoopStop.thread = loop.thread := by
  simp only [LoopDescriptor.requestLoopStop]
  split <;> rfl

theorem calm_record (node : Node) (event : Event) (calm : Calm node) : Calm (node.record event) :=
  ⟨calm.handled, calm.shutdownRequested, by simp [Node.record, calm.handled, calm.armed]⟩

theorem calm_set (node : Node) (index : Nat) (mc : ManagedController) (calm : Calm node) :
    Calm (node.setController index mc) := ⟨calm.handled, calm.shutdownRequested, calm.armed⟩

theorem turn_before (node : Node) (pass : Pass) (turn : Turn) (calm : Calm node) (going : pass.exiting = false) :
    Before (node.turnTo pass turn) :=
  ⟨⟨calm.handled, calm.shutdownRequested, calm.armed⟩, .inr ⟨_, rfl, going⟩⟩

theorem next_before (node : Node) (pass : Pass) (calm : Calm node) (going : pass.exiting = false) :
    Before (node.nextController pass) :=
  ⟨⟨calm.handled, calm.shutdownRequested, calm.armed⟩, .inr ⟨_, rfl, going⟩⟩

theorem after_initialize_before (node : Node) (pass : Pass) (toRunning : Bool) (calm : Calm node)
    (going : pass.exiting = false) : Before (node.afterInitializeHw pass toRunning) := by
  cases toRunning with
  | true => exact turn_before node pass .check calm going
  | false => exact next_before node pass calm going

theorem begin_shutdown_started (node : Node) (started : node.AllStarted) : node.beginShutdown.AllStarted := by
  intro mc member
  simp only [Node.beginShutdown, List.mem_map] at member
  obtain ⟨source, inside, rfl⟩ := member
  simp only [request_loop_stop_thread]
  exact started source inside

theorem signal_before (node : Node) (pass : Pass) (raised : Raised) (calm : Calm node) (going : pass.exiting = false)
    (started : (Outcome.raised raised).fatal = true → node.AllStarted) :
    Before (node.handleLoopSignal pass (Node.reconcileSignal raised)) ∨
      Stopping (node.handleLoopSignal pass (Node.reconcileSignal raised)) := by
  by_cases fatal : (Node.reconcileSignal raised).name = SIG_CONTROLLER_FATAL
  · right
    have begun := begin_shutdown_started node (started (by simp [Outcome.fatal, fatal]))
    simp only [Node.handleLoopSignal, fatal, if_true, calm.shutdownRequested, Bool.false_eq_true, if_false]
    exact ⟨calm.handled, rfl, calm.armed, ⟨_, _, rfl⟩, begun⟩
  · left
    simp only [Node.handleLoopSignal, fatal, if_false]
    exact next_before node pass calm going

theorem observe_before (node : Node) (pass : Pass) (mc : ManagedController) (calm : Calm node)
    (going : pass.exiting = false) : Before (node.observe pass mc) := by
  simp only [Node.observe]
  split
  · exact next_before node pass calm going
  · split <;> exact turn_before node pass _ calm going

theorem initialize_before (node : Node) (pass : Pass) (index : Nat) (mc : ManagedController) (toRunning : Bool)
    (outcome : Outcome) (calm : Calm node) (going : pass.exiting = false)
    (started : outcome.fatal = true → node.AllStarted) :
    Before (node.initializeHw pass index mc toRunning outcome) ∨
      Stopping (node.initializeHw pass index mc toRunning outcome) := by
  have called := calm_record node (.initializeHw index) calm
  simp only [Node.initializeHw]
  split
  · exact .inl (turn_before node pass _ calm going)
  · split
    · exact .inl (turn_before _ pass _ (calm_set _ index _ called) going)
    · exact .inl (after_initialize_before _ pass toRunning called going)
    · exact signal_before _ pass _ called going started

theorem start_before (node : Node) (pass : Pass) (index : Nat) (mc : ManagedController) (toRunning : Bool)
    (outcome : Outcome) (calm : Calm node) (going : pass.exiting = false) :
    Before (node.start pass index mc toRunning outcome) := by
  simp only [Node.start]
  split
  · exact after_initialize_before _ pass toRunning (calm_set node index _ calm) going
  · exact after_initialize_before _ pass toRunning (calm_set _ index _ (calm_record node _ calm)) going

theorem deinitialize_before (node : Node) (pass : Pass) (index : Nat) (mc : ManagedController) (outcome : Outcome)
    (calm : Calm node) (going : pass.exiting = false) (started : outcome.fatal = true → node.AllStarted) :
    Before (node.deinitializeHw pass index mc outcome) ∨ Stopping (node.deinitializeHw pass index mc outcome) := by
  simp only [Node.deinitializeHw]
  split
  · split
    · exact .inl (next_before _ pass (calm_set node index _ calm) going)
    · exact .inl (next_before node pass calm going)
    · exact signal_before node pass _ calm going started
  · exact .inl (next_before node pass calm going)

theorem controller_step_before (node : Node) (pass : Pass) (index : Nat) (mc : ManagedController) (outcome : Outcome)
    (calm : Calm node) (going : pass.exiting = false) (started : outcome.fatal = true → node.AllStarted) :
    Before (node.controllerStep pass index mc outcome) ∨ Stopping (node.controllerStep pass index mc outcome) := by
  have recorded := calm_record node (.resumeLoop index) calm
  simp only [Node.controllerStep]
  cases pass.turn with
  | observe => exact .inl (observe_before node pass mc calm going)
  | initializeHw toRunning => exact initialize_before node pass index mc toRunning outcome calm going started
  | start toRunning => exact .inl (start_before node pass index mc toRunning outcome calm going)
  | check =>
      left
      dsimp only
      split
      · exact turn_before node pass _ calm going
      · exact next_before node pass calm going
  | pause => exact .inl (next_before _ pass (calm_set node index _ calm) going)
  | resume => exact .inl (next_before _ pass (calm_set _ index _ recorded) going)
  | stop =>
      left
      dsimp only
      split
      · exact turn_before _ pass _ (calm_set node index _ calm) going
      · exact turn_before node pass _ calm going
  | join =>
      left
      dsimp only
      split
      · exact next_before node pass calm going
      · exact turn_before node pass _ calm going
  | deinitializeHw => exact deinitialize_before node pass index mc outcome calm going started

theorem main_before (node next : Node) (outcome : Outcome) (before : Before node)
    (delivers : reconcilerDelivers node (.main outcome)) (moved : node.mainStep outcome = some next) :
    Before next ∨ Stopping next := by
  have started : outcome.fatal = true → node.AllStarted := delivers before.shutdownRequested
  rcases before.task with idle | ⟨pass, reconciling, going⟩
  · simp [Node.mainStep, idle] at moved
  · simp only [Node.mainStep, reconciling] at moved
    split at moved
    · cases moved
      left
      simp only [Node.endPass, going, Bool.false_eq_true, if_false]
      split
      · exact ⟨⟨before.handled, before.shutdownRequested, before.armed⟩, .inl rfl⟩
      · exact ⟨⟨before.handled, before.shutdownRequested, before.armed⟩, .inl rfl⟩
    · split at moved
      · cases moved
        exact controller_step_before node pass _ _ outcome before.toCalm going started
      · cases moved
        exact .inl (next_before node pass before.toCalm going)

theorem set_goal_all_lowered (node : Node) : (node.setGoalAll .UNINITIALIZED).AllUninitialized := by
  intro mc member
  simp only [Node.setGoalAll, List.mem_map] at member
  obtain ⟨source, _, rfl⟩ := member
  rfl

-- With every thread started no join raises, and the handler gets to the goals.
theorem main_stopping (node next : Node) (outcome : Outcome) (stopping : Stopping node)
    (moved : node.mainStep outcome = some next) : Stopping next ∨ After next := by
  obtain ⟨origin, joins, task⟩ := stopping.task
  simp only [Node.mainStep, task, Option.some.injEq] at moved
  subst moved
  cases joins with
  | nil =>
      right
      exact ⟨stopping.shutdownRequested, set_goal_all_lowered node, stopping.armed, .inr ⟨_, rfl, rfl, trivial⟩⟩
  | cons index rest =>
      left
      have waits : Stopping { node with task := .stopAll origin rest } :=
        ⟨stopping.handled, stopping.shutdownRequested, stopping.armed, ⟨_, _, rfl⟩, stopping.started⟩
      simp only [Node.stopAllStep]
      split
      · rename_i mc present
        have joinable : mc.loop.joinRaises = false := by
          simpa [LoopDescriptor.joinRaises] using stopping.started mc (List.mem_of_getElem? present)
        rw [joinable]
        exact waits
      · exact waits

theorem turn_after (node : Node) (pass : Pass) (turn : Turn) (after : After node) (exiting : pass.exiting = true)
    (lowering : Lowering turn) : After (node.turnTo pass turn) :=
  ⟨after.shutdownRequested, after.lowered, after.armed, .inr ⟨_, rfl, exiting, lowering⟩⟩

theorem next_after (node : Node) (pass : Pass) (after : After node) (exiting : pass.exiting = true) :
    After (node.nextController pass) :=
  ⟨after.shutdownRequested, after.lowered, after.armed, .inr ⟨_, rfl, exiting, trivial⟩⟩

theorem set_after (node : Node) (index : Nat) (mc : ManagedController) (after : After node)
    (lowered : mc.goal = .UNINITIALIZED) : After (node.setController index mc) :=
  ⟨after.shutdownRequested, set_all _ node.controllers index mc after.lowered lowered, after.armed, after.task⟩

theorem controller_step_after (node : Node) (pass : Pass) (index : Nat) (mc : ManagedController) (outcome : Outcome)
    (after : After node) (exiting : pass.exiting = true) (lowering : Lowering pass.turn)
    (lowered : mc.goal = .UNINITIALIZED) : After (node.controllerStep pass index mc outcome) := by
  simp only [Node.controllerStep]
  cases turn : pass.turn with
  | observe =>
      simp only [Node.observe, lowered]
      split
      · exact next_after node pass after exiting
      · exact turn_after node pass .stop after exiting trivial
  | stop =>
      dsimp only
      split
      · exact turn_after _ pass .join (set_after node index { mc with loop := mc.loop.requestLoopStop } after lowered)
          exiting trivial
      · exact turn_after node pass .deinitializeHw after exiting trivial
  | join =>
      dsimp only
      split
      · exact next_after node pass after exiting
      · exact turn_after node pass .deinitializeHw after exiting trivial
  | deinitializeHw =>
      simp only [Node.deinitializeHw]
      split
      · split
        · exact next_after _ pass (set_after node index { mc with initialized := false } after lowered) exiting
        · exact next_after node pass after exiting
        · simp only [Node.handleLoopSignal, after.shutdownRequested, if_true, ite_self]
          exact next_after node pass after exiting
      · exact next_after node pass after exiting
  | initializeHw _ => simp [turn, Lowering] at lowering
  | start _ => simp [turn, Lowering] at lowering
  | check => simp [turn, Lowering] at lowering
  | pause => simp [turn, Lowering] at lowering
  | resume => simp [turn, Lowering] at lowering

theorem main_after (node next : Node) (outcome : Outcome) (after : After node)
    (moved : node.mainStep outcome = some next) : After next := by
  rcases after.task with gone | ⟨pass, reconciling, exiting, lowering⟩
  · simp [Node.mainStep, gone] at moved
  · simp only [Node.mainStep, reconciling] at moved
    split at moved
    · cases moved
      simp only [Node.endPass, exiting, if_true]
      exact ⟨after.shutdownRequested, after.lowered, after.armed, .inl rfl⟩
    · split at moved
      · rename_i mc present
        cases moved
        exact controller_step_after node pass _ mc outcome after exiting lowering
          (after.lowered mc (List.mem_of_getElem? present))
      · cases moved
        exact next_after node pass after exiting

theorem main_invariant (node next : Node) (outcome : Outcome) (inv : FatalInvariant node)
    (delivers : reconcilerDelivers node (.main outcome)) (moved : node.mainStep outcome = some next) :
    FatalInvariant next := by
  rcases inv with before | stopping | after
  · rcases main_before node next outcome before delivers moved with still | begun
    · exact .inl still
    · exact .inr (.inl begun)
  · exact .inr (main_stopping node next outcome stopping moved)
  · exact .inr (.inr (main_after node next outcome after moved))

theorem callback_invariant (node next : Node) (goal : Option ControllerState) (origin : Origin)
    (inv : FatalInvariant node)
    (moved : node.callback ((goal.elim node node.setGoalAll).startPass origin false) = some next) :
    FatalInvariant next := by
  simp only [Node.callback] at moved
  split at moved
  · rename_i idle
    cases moved
    rcases inv with before | stopping | after
    · left
      cases goal <;>
        exact ⟨⟨before.handled, before.shutdownRequested, before.armed⟩, .inr ⟨_, rfl, rfl⟩⟩
    · obtain ⟨origin, joins, task⟩ := stopping.task
      simp [idle] at task
    · rcases after.task with gone | ⟨pass, reconciling, _⟩
      · simp [idle] at gone
      · simp [idle] at reconciling
  · cases moved

theorem set_invariant (node : Node) (index : Nat) (mc replaced : ManagedController) (inv : FatalInvariant node)
    (present : node.controllers[index]? = some mc) (sameGoal : replaced.goal = mc.goal)
    (started : mc.loop.thread ≠ .created → replaced.loop.thread ≠ .created) :
    FatalInvariant (node.setController index replaced) := by
  have member := List.mem_of_getElem? present
  rcases inv with before | stopping | after
  · exact .inl ⟨calm_set node index replaced before.toCalm, before.task⟩
  · exact .inr (.inl ⟨stopping.handled, stopping.shutdownRequested, stopping.armed, stopping.task,
      set_all _ node.controllers index replaced stopping.started (started (stopping.started mc member))⟩)
  · exact .inr (.inr (set_after node index replaced after (sameGoal.trans (after.lowered mc member))))

theorem loop_iteration_fatal (mc : ManagedController) (outcome : Option Raised) (signal : Signal)
    (signalled : (mc.loopIteration outcome).2 = some signal) (fatal : signal.name = SIG_CONTROLLER_FATAL) :
    mc.initialized = true ∧ fatalFlush outcome = true := by
  simp only [ManagedController.loopIteration] at signalled
  split at signalled
  · cases signalled
  · rename_i initialized
    refine ⟨by simpa using initialized, ?_⟩
    cases outcome with
    | none => cases signalled
    | some raised =>
        cases raised with
        | controllerFatal code description => rfl
        | controllerWarning code description =>
            cases signalled
            exact absurd fatal (show ¬ SIG_CONTOLLER_WARNING = SIG_CONTROLLER_FATAL by decide)
        | controllerError code description =>
            cases signalled
            exact absurd fatal (show ¬ SIG_CONTROLLER_ERROR = SIG_CONTROLLER_FATAL by decide)
        | exception text =>
            cases signalled
            exact absurd fatal (show ¬ SIG_CONTROLLER_GENERIC_EXCEPTION = SIG_CONTROLLER_FATAL by decide)

theorem running_some (node next : Node) (after : Option Node) (moved : node.running after = some next) :
    after = some next := by
  simp only [Node.running] at moved
  split at moved
  · cases moved
  · exact moved

theorem loop_invariant (node next : Node) (index : Nat) (outcome : Option Raised) (inv : FatalInvariant node)
    (delivers : reconcilerDelivers node (.loop index outcome)) (moved : node.loopStep index outcome = some next) :
    FatalInvariant next := by
  simp only [Node.loopStep] at moved
  split at moved
  · rename_i mc present
    split at moved
    · cases moved
      have unmade (started : mc.loop.thread ≠ .created) : (mc.iterated outcome).1.loop.thread ≠ .created := by
        rcases mc.iterated_thread outcome with same | leaving
        · rwa [same]
        · simp [leaving]
      have kept := set_invariant node index mc (mc.iterated outcome).1 inv present (mc.iterated_goal outcome) unmade
      cases signalled : (mc.iterated outcome).2 with
      | none => exact kept
      | some signal =>
          simp only [Option.elim, Node.handleLoopSignalInLoop]
          split
          · rename_i fatal
            obtain ⟨initialized, flushed⟩ := loop_iteration_fatal mc outcome signal (mc.iterated_signal outcome ▸ signalled) fatal
            split
            · exact kept
            · rename_i quiet
              have missing := delivers (by simpa [Node.setController] using quiet) flushed
              simp [present, initialized] at missing
          · exact kept
    · cases moved
  · cases moved

theorem loop_ends_invariant (node next : Node) (index : Nat) (inv : FatalInvariant node)
    (moved : node.loopEnds index = some next) : FatalInvariant next := by
  simp only [Node.loopEnds] at moved
  split at moved
  · rename_i mc present
    split at moved
    · cases moved
      exact set_invariant node index mc _ inv present rfl (fun _ ended => by cases ended)
    · cases moved
  · cases moved

theorem fatal_step_invariant (node next : Node) (action : NodeAction) (inv : FatalInvariant node)
    (delivers : reconcilerDelivers node action) (moved : node.step action = some next) : FatalInvariant next := by
  cases action with
  | reconcileTimer => exact callback_invariant node next none .timer inv moved
  | configure => exact callback_invariant node next (some .INITIALIZED) (.lifecycle none) inv moved
  | activate => exact callback_invariant node next (some .RUNNING) (.lifecycle (some true)) inv moved
  | deactivate => exact callback_invariant node next (some .INITIALIZED) (.lifecycle (some false)) inv moved
  | cleanup => exact callback_invariant node next (some .UNINITIALIZED) (.lifecycle none) inv moved
  | shutdown => exact callback_invariant node next (some .UNINITIALIZED) (.lifecycle (some false)) inv moved
  | main outcome => exact main_invariant node next outcome inv delivers moved
  | loop index outcome => exact loop_invariant node next index outcome inv delivers (running_some node next _ moved)
  | loopEnds index => exact loop_ends_invariant node next index inv (running_some node next _ moved)

theorem invariant_disarmed (node : Node) (inv : FatalInvariant node) : node.Disarmed := by
  intro handled
  rcases inv with before | stopping | after
  · simp [before.handled] at handled
  · simp [stopping.handled] at handled
  · exact ⟨after.lowered, after.armed⟩

-- A fatal signal of the reconciler disarms the node for good, as long as every
-- loop's thread object has been started.
theorem fatal_signal_disarms (node : Node) (reached : Reached hardwareManager reconcilerDelivers node) :
    node.Disarmed := by
  refine invariant_disarmed node (reached_invariant hardwareManager reconcilerDelivers FatalInvariant ?_ ?_ node reached)
  · rintro initial ⟨_, _, quiet, idle, unhandled, unarmed⟩
    exact .inl ⟨⟨unhandled, quiet, unarmed⟩, .inl idle⟩
  · intro source action target inv delivers moved
    exact fatal_step_invariant source target action inv delivers moved

def coldNode (count : Nat) : Node := ⟨List.replicate count ManagedController.init, false, false, .idle, false, []⟩

theorem cold_node_start (count : Nat) : hardwareManager.start (coldNode count) :=
  ⟨fun _ member => List.eq_of_mem_replicate member, rfl, rfl, rfl, rfl, rfl⟩

def succeeds : NodeAction := .main (.returned true)

-- Two controllers are brought up; the second fails fatally while it is taken down.
def fatalCleanup : List NodeAction :=
  [.activate] ++ List.replicate 11 succeeds ++ [.cleanup, succeeds, succeeds, .loopEnds 0] ++
    List.replicate 4 succeeds ++ [.loopEnds 1, succeeds, .main (.raised (.controllerFatal 7 "no response"))] ++
    List.replicate 6 succeeds

theorem fatal_signal_disarms_cleanup :
    ∃ node : Node, (node.task = .exited HWMNG_CONTROLLER_FATAL ∧ node.handled = true) ∧ node.Disarmed := by
  obtain ⟨node, reached, ends⟩ := replay_exists hardwareManager reconcilerDelivers fatalCleanup (coldNode 2)
    (fun node : Node => node.task = .exited HWMNG_CONTROLLER_FATAL ∧ node.handled = true) (cold_node_start 2) (by decide)
  exact ⟨node, ends, fatal_signal_disarms node reached⟩

-- The loop's own thread delivers the signal; the next timer brings the
-- controller up again.
def fatalLoop : List NodeAction :=
  [.activate] ++ List.replicate 6 succeeds ++ [.loop 0 (some (.controllerFatal 7 "no response")), .loopEnds 0] ++
    [.reconcileTimer] ++ List.replicate 5 succeeds

theorem fatal_loop_rearmed :
    ∃ node, Reached hardwareManager anyAction node ∧ node.handled = true ∧
      node.controllers = [⟨.RUNNING, true, ⟨.alive, true, true⟩⟩] ∧
      node.armed = [.initializeHw 0, .startLoop 0, .resumeLoop 0] ∧ ¬ node.Disarmed :=
  replay_exists hardwareManager anyAction fatalLoop (coldNode 1)
    (fun node : Node => node.handled = true ∧ node.controllers = [⟨.RUNNING, true, ⟨.alive, true, true⟩⟩] ∧
      node.armed = [.initializeHw 0, .startLoop 0, .resumeLoop 0] ∧ ¬ node.Disarmed)
    (cold_node_start 1) (by decide)

end Animacharacter.HardwareMng
