import Animacharacter.HardwareMng.Pass

set_option autoImplicit false

namespace Animacharacter.HardwareMng

open StepSystem

namespace Node

def turnAt (node : Node) (pass : Pass) (index : Nat) (mc : ManagedController) (turn : Turn) : Node :=
  (node.setController index mc).turnTo pass turn

def afterTurn (node : Node) (pass : Pass) (index : Nat) (result : ManagedController × Option Raised) : Node :=
  match result.2 with
  | none => (node.setController index result.1).nextController pass
  | some raised => (node.setController index result.1).handleLoopSignal pass (reconcileSignal raised)

section Turns

variable (node : Node) (pass : Pass) (index : Nat) (rest : List Nat) (order : pass.rest = index :: rest)
  (inside : index < node.controllers.length)

theorem turn_at_controller (mc : ManagedController) (turn : Turn) (inside : index < node.controllers.length) :
    (node.turnAt pass index mc turn).controllers[index]? = some mc :=
  List.getElem?_set_self inside

theorem turn_at_set (mc after : ManagedController) (turn next : Turn) :
    ((node.turnAt pass index mc turn).setController index after).turnTo { pass with turn } next =
      node.turnAt pass index after next := by
  simp [turnAt, setController, turnTo]

theorem turn_at_next (mc after : ManagedController) (turn : Turn) :
    ((node.turnAt pass index mc turn).setController index after).nextController { pass with turn } =
      (node.setController index after).nextController pass := by
  simp [turnAt, setController, turnTo, nextController]

theorem turn_at_record (mc : ManagedController) (turn : Turn) (event : Event) (fresh : node.handled = false) :
    (node.turnAt pass index mc turn).record event = node.turnAt pass index mc turn := by
  simp [record, turnAt, turnTo, setController, fresh]

include order inside

theorem turn_step (mc : ManagedController) (turn : Turn) (outcome : Outcome) (after : Node)
    (result : (node.turnAt pass index mc turn).controllerStep { pass with turn } index mc outcome = after) :
    Runs hardwareManager anyAction (node.turnAt pass index mc turn) after := by
  have present := turn_at_controller node pass index mc turn inside
  have moved : (node.turnAt pass index mc turn).mainStep outcome = some after := by
    obtain ⟨first, order, origin, exiting⟩ := pass
    cases order
    simp only [turnAt, turnTo, mainStep] at present result ⊢
    rw [present]
    exact congrArg some result
  exact Relation.ReflTransGen.single ⟨.main outcome, trivial, moved⟩

theorem start_runs (mc : ManagedController) (toRunning : Bool) (calls : Calls) (fresh : node.handled = false) :
    Runs hardwareManager anyAction (node.turnAt pass index mc (.start toRunning))
      ((node.setController index (mc.started calls)).afterInitializeHw pass toRunning) := by
  refine turn_step node pass index rest order inside mc (.start toRunning) (.returned calls.startsThread) _ ?_
  simp only [controllerStep, start, ManagedController.started, turn_at_record node pass index mc _ _ fresh]
  cases toRunning <;> split <;> simp [afterInitializeHw, turnAt, setController, turnTo, nextController]

theorem initialize_runs (mc : ManagedController) (toRunning : Bool) (calls : Calls) (fresh : node.handled = false) :
    Runs hardwareManager anyAction (node.turnAt pass index mc (.initializeHw toRunning))
      (match (mc.stepToInitialized .UNINITIALIZED calls).2 with
        | none => (node.setController index (mc.stepToInitialized .UNINITIALIZED calls).1).afterInitializeHw pass toRunning
        | some raised => node.afterTurn pass index ((mc.stepToInitialized .UNINITIALIZED calls).1, some raised)) := by
  have step := turn_step node pass index rest order inside mc (.initializeHw toRunning) calls.initializeHw
  have begun (ready : ManagedController) (moved : (node.turnAt pass index mc (.initializeHw toRunning)).controllerStep
      { pass with turn := .initializeHw toRunning } index mc calls.initializeHw =
        node.turnAt pass index ready (.start toRunning)) :=
    (step _ moved).trans (start_runs node pass index rest order inside ready toRunning calls fresh)
  have recorded := turn_at_record node pass index mc (.initializeHw toRunning) (.initializeHw index) fresh
  by_cases hot : mc.initialized = true
  · rw [ManagedController.stepToInitialized, if_pos hot]
    exact begun mc (by simp [controllerStep, initializeHw, hot, turnAt, turnTo])
  · rw [ManagedController.stepToInitialized, if_neg hot]
    cases outcome : calls.initializeHw with
    | returned result =>
        cases result with
        | true =>
            refine begun { mc with initialized := true } ?_
            simp only [controllerStep, initializeHw, hot, outcome, recorded, turn_at_set]
            rfl
        | false =>
            refine step _ ?_
            simp only [controllerStep, initializeHw, hot, outcome, recorded]
            cases toRunning <;> rfl
    | raised raised =>
        refine step _ ?_
        simp only [controllerStep, initializeHw, hot, outcome, recorded, afterTurn, handleLoopSignal]
        rfl

theorem deinitialize_runs (mc : ManagedController) (calls : Calls) (stopped : mc.loop.isRunning = false) :
    Runs hardwareManager anyAction (node.turnAt pass index mc .deinitializeHw)
      (node.afterTurn pass index (mc.deinitializeStopped calls)) := by
  refine turn_step node pass index rest order inside mc .deinitializeHw calls.deinitializeHw _ ?_
  simp only [controllerStep, deinitializeHw, ManagedController.deinitializeStopped, stopped, Bool.false_eq_true, if_false]
  split
  · cases calls.deinitializeHw with
    | returned result =>
        cases result with
        | true =>
            simp only [turn_at_next]
            rfl
        | false => rfl
    | raised raised => rfl
  · rfl

omit order in
-- The thread of a stopped loop ends while the reconciler is in the join.
theorem ends_runs (mc : ManagedController) (running : mc.loop.isRunning = true) (stopping : mc.loop.run = false) :
    Runs hardwareManager anyAction (node.turnAt pass index mc .join)
      (node.turnAt pass index { mc with loop := { mc.loop with thread := .ended } } .join) := by
  have present := turn_at_controller node pass index mc .join inside
  have moved : (node.turnAt pass index mc .join).loopEnds index =
      some (node.turnAt pass index { mc with loop := { mc.loop with thread := .ended } } .join) := by
    simp only [loopEnds, present, running, stopping, Bool.not_false, Bool.and_self, if_true]
    simp [turnAt, setController, turnTo]
  exact Relation.ReflTransGen.single ⟨.loopEnds index, trivial, moved⟩

theorem stop_runs (mc : ManagedController) (calls : Calls) (kept : calls.lastFails = false) :
    Runs hardwareManager anyAction (node.turnAt pass index mc .stop)
      (node.afterTurn pass index (mc.stepToUninitialized calls)) := by
  by_cases running : mc.loop.isRunning = true
  · have requested : (node.turnAt pass index mc .stop).controllerStep { pass with turn := .stop } index mc (.returned true) =
        node.turnAt pass index { mc with loop := mc.loop.requestLoopStop } .join := by
      simp only [controllerStep, running, if_true, turn_at_set]
    have first := turn_step node pass index rest order inside mc .stop (.returned true) _ requested
    have alive : mc.loop.requestLoopStop.isRunning = true := by
      rw [LoopDescriptor.requestLoopStop, if_pos running]
      exact running
    have cleared : mc.loop.requestLoopStop.run = false := by
      rw [LoopDescriptor.requestLoopStop, if_pos running]
    refine first.trans ?_
    cases ends : calls.endsInTime with
    | true =>
        have ended := ends_runs node pass index inside { mc with loop := mc.loop.requestLoopStop } alive cleared
        have stopped : mc.stopLoop calls =
            { mc with loop := { mc.loop.requestLoopStop with thread := .ended } } := by
          simp [ManagedController.stopLoop, ends, kept]
        rw [ManagedController.stepToUninitialized, if_pos running, stopped]
        refine ended.trans (.trans ?_ (deinitialize_runs node pass index rest order inside _ calls rfl))
        exact turn_step node pass index rest order inside _ .join (.returned true) _ rfl
    | false =>
        have stays : mc.stopLoop calls = { mc with loop := mc.loop.requestLoopStop } := by
          simp [ManagedController.stopLoop, ends]
        rw [ManagedController.stepToUninitialized, if_pos running, stays, ManagedController.deinitializeStopped, if_pos alive]
        refine turn_step node pass index rest order inside _ .join (.returned true) _ ?_
        simp only [controllerStep, alive, if_true]
        rfl
  · rw [ManagedController.stepToUninitialized, if_neg running]
    refine .trans ?_ (deinitialize_runs node pass index rest order inside mc calls (Bool.eq_false_iff.mpr running))
    refine turn_step node pass index rest order inside mc .stop (.returned true) _ ?_
    simp only [controllerStep, running, Bool.false_eq_true, if_false]
    rfl

theorem resume_runs (mc : ManagedController) (fresh : node.handled = false) :
    Runs hardwareManager anyAction (node.turnAt pass index mc .resume) (node.afterTurn pass index (mc.resumed, none)) := by
  refine turn_step node pass index rest order inside mc .resume (.returned true) _ ?_
  simp only [controllerStep, turn_at_record node pass index mc _ _ fresh, turn_at_next]
  rfl

theorem to_running_runs (mc : ManagedController) (calls : Calls) (fresh : node.handled = false) :
    Runs hardwareManager anyAction (node.turnAt pass index mc (.initializeHw true))
      (node.afterTurn pass index (mc.stepToRunning .UNINITIALIZED calls)) := by
  have runs := initialize_runs node pass index rest order inside mc true calls fresh
  simp only [ManagedController.stepToRunning]
  generalize mc.stepToInitialized .UNINITIALIZED calls = stepped at runs ⊢
  obtain ⟨ready, left⟩ := stepped
  cases left with
  | some raised => exact runs
  | none =>
      refine Relation.ReflTransGen.trans runs ?_
      by_cases arrived : ready.actualState = .INITIALIZED
      · simp only [if_pos arrived]
        refine .trans ?_ (resume_runs node pass index rest order inside ready fresh)
        refine turn_step node pass index rest order inside ready .check (.returned true) _ ?_
        simp only [controllerStep, if_pos arrived]
        rfl
      · simp only [if_neg arrived]
        refine turn_step node pass index rest order inside ready .check (.returned true) _ ?_
        simp only [controllerStep, if_neg arrived]
        rfl

theorem to_initialized_runs (mc : ManagedController) (calls : Calls) (fresh : node.handled = false) :
    Runs hardwareManager anyAction (node.turnAt pass index mc (.initializeHw false))
      (node.afterTurn pass index (mc.stepToInitialized .UNINITIALIZED calls)) := by
  have runs := initialize_runs node pass index rest order inside mc false calls fresh
  generalize mc.stepToInitialized .UNINITIALIZED calls = stepped at runs ⊢
  obtain ⟨ready, left⟩ := stepped
  cases left with
  | some raised => exact runs
  | none => exact runs

-- One turn of a pass is a run of the node in which, apart from a stopped loop's
-- thread that ends, only the executor's thread acts.
theorem turn_runs (mc : ManagedController) (calls : Calls) (kept : calls.lastFails = false) (fresh : node.handled = false) :
    Runs hardwareManager anyAction (node.turnAt pass index mc .observe) (node.afterTurn pass index (mc.reconcile calls)) := by
  have step := turn_step node pass index rest order inside mc .observe (.returned true)
  simp only [controllerStep, observe] at step
  rw [ManagedController.reconcile]
  by_cases reached : mc.actualState = mc.goal
  · rw [if_pos reached] at step ⊢
    exact step _ rfl
  · rw [if_neg reached] at step ⊢
    cases goal : mc.goal with
    | UNINITIALIZED =>
        rw [goal] at step
        exact (step _ rfl).trans (stop_runs node pass index rest order inside mc calls kept)
    | INITIALIZED =>
        cases actual : mc.actualState with
        | UNINITIALIZED =>
            rw [goal, actual] at step
            exact (step _ rfl).trans (to_initialized_runs node pass index rest order inside mc calls fresh)
        | INITIALIZED => exact absurd (actual.trans goal.symm) reached
        | RUNNING =>
            rw [goal, actual] at step
            refine (step _ rfl).trans (turn_step node pass index rest order inside mc .pause (.returned true) _ ?_)
            simp only [controllerStep, turn_at_next]
            rfl
    | RUNNING =>
        cases actual : mc.actualState with
        | UNINITIALIZED =>
            rw [goal, actual] at step
            exact (step _ rfl).trans (to_running_runs node pass index rest order inside mc calls fresh)
        | INITIALIZED =>
            rw [goal, actual] at step
            exact (step _ rfl).trans (resume_runs node pass index rest order inside mc fresh)
        | RUNNING => exact absurd (actual.trans goal.symm) reached

end Turns

def atPass (node : Node) (rest : List Nat) (origin : Origin) (exiting : Bool) : Node :=
  { node with task := .reconciling ⟨.observe, rest, origin, exiting⟩ }

theorem set_controller_id (node : Node) (index : Nat) (mc : ManagedController)
    (present : node.controllers[index]? = some mc) : node.setController index mc = node := by
  obtain ⟨inside, same⟩ := List.getElem?_eq_some_iff.mp present
  simp [setController, ← same]

theorem quiet_signal (node : Node) (pass : Pass) (signal : Signal)
    (quiet : node.shutdownRequested = true ∨ signal.name ≠ SIG_CONTROLLER_FATAL) :
    node.handleLoopSignal pass signal = node.nextController pass := by
  simp only [handleLoopSignal]
  rcases quiet with requested | other
  · rw [requested]
    split <;> rfl
  · rw [if_neg other]

-- A pass that returns is a run of the node, turn by turn.
theorem pass_runs (calls shutdown : Nat → Calls) (origin : Origin) (exiting : Bool) (rest : List Nat) (node : Node)
    (kept : ∀ index, (calls index).lastFails = false) (fresh : node.handled = false)
    (returns : (node.reconcileWith (handleInPass shutdown) calls rest).2 = .returned) :
    Runs hardwareManager anyAction (node.atPass rest origin exiting)
      ((node.reconcileWith (handleInPass shutdown) calls rest).1.atPass [] origin exiting) := by
  induction rest generalizing node with
  | nil => exact .refl
  | cons head rest ih =>
      cases present : node.controllers[head]? with
      | none =>
          rw [reconcile_with_absent _ calls node head rest present] at returns ⊢
          refine .trans (.single ⟨.main (.returned true), trivial, ?_⟩) (ih node fresh returns)
          change (node.atPass (head :: rest) origin exiting).mainStep (.returned true) = _
          simp only [atPass, mainStep, present]
          rfl
      | some mc =>
          have inside := (List.getElem?_eq_some_iff.mp present).1
          have turn := turn_runs node ⟨.observe, head :: rest, origin, exiting⟩ head rest rfl inside mc (calls head)
            (kept head) fresh
          rw [turnAt, set_controller_id node head mc present] at turn
          refine Relation.ReflTransGen.trans turn ?_
          cases left : (mc.reconcile (calls head)).2 with
          | none =>
              rw [reconcile_with_calm _ calls node head rest mc present left] at returns ⊢
              rw [afterTurn, left]
              exact ih _ fresh returns
          | some raised =>
              rw [afterTurn, left]
              by_cases quiet : (node.setController head (mc.reconcile (calls head)).1).shutdownRequested = true ∨
                  (reconcileSignal raised).name ≠ SIG_CONTROLLER_FATAL
              · have handled := handle_quiet shutdown _ (reconcileSignal raised) quiet
                rw [reconcile_with_handled _ calls node head rest mc raised _ present left handled] at returns ⊢
                simp only [quiet_signal _ _ _ quiet]
                exact ih _ fresh returns
              · obtain ⟨running, fatal⟩ := not_or.mp quiet
                exact absurd returns (reconcile_with_left _ calls node head rest mc raised present left
                  (handle_fatal shutdown _ _ (Bool.eq_false_iff.mpr running) (Classical.not_not.mp fatal)))

end Node

end Animacharacter.HardwareMng
