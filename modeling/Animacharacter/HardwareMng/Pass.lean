import Mathlib.Data.List.Range
import Animacharacter.HardwareMng.Reconciler

set_option autoImplicit false

namespace Animacharacter.HardwareMng

-- What the calls of one controller's turn do while the loop threads only react
-- to stops: `lastFails` says that a stopped loop's last iteration crashed.
structure Calls where
  initializeHw : Outcome
  startsThread : Bool
  endsInTime : Bool
  lastFails : Bool
  deinitializeHw : Outcome
deriving DecidableEq

inductive Left where
  | returned
  | systemExit (code : Int)
  | runtimeError
deriving DecidableEq

namespace ManagedController

def stopLoop (mc : ManagedController) (calls : Calls) : ManagedController :=
  let requested := { mc with loop := mc.loop.requestLoopStop }
  if calls.endsInTime then
    { requested with
      loop := { requested.loop with thread := .ended }
      initialized := mc.initialized && !calls.lastFails }
  else requested

-- The second half of _step_to_initialized: the loop is started paused, or paused.
def started (mc : ManagedController) (calls : Calls) : ManagedController :=
  if mc.loop.isRunning then { mc with loop := mc.loop.setLoopPaused true }
  else { mc with loop := mc.loop.startLoop true calls.startsThread }

def stepToInitialized (mc : ManagedController) (actual : ControllerState) (calls : Calls) : ManagedController × Option Raised :=
  match actual with
  | .UNINITIALIZED =>
      if mc.initialized then (mc.started calls, none)
      else
        match calls.initializeHw with
        | .returned true => (started { mc with initialized := true } calls, none)
        | .returned false => (mc, none)
        | .raised raised => (mc, some raised)
  | .RUNNING => ({ mc with loop := mc.loop.setLoopPaused true }, none)
  | .INITIALIZED => (mc, none)

def resumed (mc : ManagedController) : ManagedController := { mc with loop := mc.loop.setLoopPaused false }

def stepToRunning (mc : ManagedController) (actual : ControllerState) (calls : Calls) : ManagedController × Option Raised :=
  match actual with
  | .UNINITIALIZED =>
      let stepped := mc.stepToInitialized actual calls
      match stepped.2 with
      | some raised => (stepped.1, some raised)
      | none => if stepped.1.actualState = .INITIALIZED then (stepped.1.resumed, none) else (stepped.1, none)
  | .INITIALIZED => (mc.resumed, none)
  | .RUNNING => (mc, none)

-- The rest of _step_to_uninitialized: a loop that still runs ends it.
def deinitializeStopped (mc : ManagedController) (calls : Calls) : ManagedController × Option Raised :=
  if mc.loop.isRunning then (mc, none)
  else if mc.initialized then
    match calls.deinitializeHw with
    | .returned true => ({ mc with initialized := false }, none)
    | .returned false => (mc, none)
    | .raised raised => (mc, some raised)
  else (mc, none)

def stepToUninitialized (mc : ManagedController) (calls : Calls) : ManagedController × Option Raised :=
  let stopped := if mc.loop.isRunning then mc.stopLoop calls else mc
  stopped.deinitializeStopped calls

def reconcile (mc : ManagedController) (calls : Calls) : ManagedController × Option Raised :=
  let actual := mc.actualState
  if actual = mc.goal then (mc, none)
  else
    match mc.goal with
    | .RUNNING => mc.stepToRunning actual calls
    | .INITIALIZED => mc.stepToInitialized actual calls
    | .UNINITIALIZED => mc.stepToUninitialized calls

end ManagedController

namespace Node

def reconcileWith (handle : Node → Signal → Node × Left) (calls : Nat → Calls) : Node → List Nat → Node × Left
  | node, [] => (node, .returned)
  | node, index :: rest =>
      match node.controllers[index]? with
      | none => reconcileWith handle calls node rest
      | some mc =>
          let stepped := mc.reconcile (calls index)
          let after := node.setController index stepped.1
          match stepped.2 with
          | none => reconcileWith handle calls after rest
          | some raised =>
              match handle after (reconcileSignal raised) with
              | (handled, .returned) => reconcileWith handle calls handled rest
              | left => left

def joinAll (node : Node) (calls : Nat → Calls) : Node :=
  { node with controllers := node.controllers.mapIdx fun index mc =>
      if mc.loop.isRunning && (calls index).endsInTime then { mc with loop := { mc.loop with thread := .ended } } else mc }

-- handle_loop_signal on the executor's thread. In the pass it makes itself a
-- shutdown has been requested, and a signal changes nothing.
def handleInPass (calls : Nat → Calls) (node : Node) (signal : Signal) : Node × Left :=
  if signal.name = SIG_CONTROLLER_FATAL then
    if node.shutdownRequested then (node, .returned)
    else
      let stopping := node.beginShutdown
      if stopping.controllers.any fun mc => mc.loop.joinRaises then (stopping, .runtimeError)
      else
        let stopped := (stopping.joinAll calls).setGoalAll .UNINITIALIZED
        let final := stopped.reconcileWith (fun node _ => (node, .returned)) calls (List.range stopped.controllers.length)
        (final.1, .systemExit HWMNG_CONTROLLER_FATAL)
  else (node, .returned)

-- A pass of the node's reconciler; `shutdown` is what the calls do once the
-- fatal handler takes everything down.
def reconcilePass (node : Node) (calls shutdown : Nat → Calls) : Node × Left :=
  node.reconcileWith (handleInPass shutdown) calls (List.range node.controllers.length)

end Node

namespace ManagedController

@[simp] theorem start_loop_running (loop : LoopDescriptor) (paused : Bool) : (loop.startLoop paused true).isRunning = true := by
  by_cases running : loop.isRunning = true
  · rw [LoopDescriptor.startLoop, if_pos running]
    exact running
  · rw [LoopDescriptor.startLoop, if_neg running]
    rfl

theorem start_loop_paused (loop : LoopDescriptor) (started : Bool) (stopped : loop.isRunning = false) :
    (loop.startLoop true started).isPaused = true := by
  simp [LoopDescriptor.startLoop, stopped, LoopDescriptor.isPaused]

theorem actual_running (mc : ManagedController) :
    mc.actualState = .RUNNING ↔ mc.initialized = true ∧ mc.loop.isRunning = true ∧ mc.loop.isPaused = false := by
  simp only [actualState]
  cases mc.initialized <;> cases mc.loop.isRunning <;> cases mc.loop.isPaused <;> simp

theorem actual_initialized (mc : ManagedController) :
    mc.actualState = .INITIALIZED ↔ mc.initialized = true ∧ mc.loop.isRunning = true ∧ mc.loop.isPaused = true := by
  simp only [actualState]
  cases mc.initialized <;> cases mc.loop.isRunning <;> cases mc.loop.isPaused <;> simp

theorem actual_uninitialized (mc : ManagedController) :
    mc.actualState = .UNINITIALIZED ↔ mc.initialized = false ∨ mc.loop.isRunning = false := by
  simp only [actualState]
  cases mc.initialized <;> cases mc.loop.isRunning <;> cases mc.loop.isPaused <;> simp

end ManagedController

namespace Node

def fatalAt (node : Node) (calls : Nat → Calls) (index : Nat) : Bool :=
  (node.controllers[index]?).any fun mc =>
    (mc.reconcile (calls index)).2.any fun raised => (reconcileSignal raised).name = SIG_CONTROLLER_FATAL

theorem set_controller_other (node : Node) (index other : Nat) (mc : ManagedController) (distinct : index ≠ other) :
    (node.setController index mc).controllers[other]? = node.controllers[other]? :=
  List.getElem?_set_ne distinct

theorem set_controller_same (node : Node) (index : Nat) (mc after : ManagedController)
    (present : node.controllers[index]? = some mc) : (node.setController index after).controllers[index]? = some after :=
  List.getElem?_set_self (List.getElem?_eq_some_iff.mp present).1

theorem fatal_at_other (node : Node) (calls : Nat → Calls) (index other : Nat) (mc : ManagedController)
    (distinct : index ≠ other) : (node.setController index mc).fatalAt calls other = node.fatalAt calls other := by
  simp only [fatalAt, set_controller_other node index other mc distinct]

theorem handle_quiet (calls : Nat → Calls) (node : Node) (signal : Signal)
    (quiet : node.shutdownRequested = true ∨ signal.name ≠ SIG_CONTROLLER_FATAL) :
    handleInPass calls node signal = (node, .returned) := by
  simp only [handleInPass]
  rcases quiet with requested | other
  · rw [requested]
    split <;> rfl
  · rw [if_neg other]

theorem handle_fatal (calls : Nat → Calls) (node : Node) (signal : Signal) (running : node.shutdownRequested = false)
    (fatal : signal.name = SIG_CONTROLLER_FATAL) : (handleInPass calls node signal).2 ≠ .returned := by
  simp only [handleInPass, if_pos fatal, running, Bool.false_eq_true, if_false]
  split <;> simp

section Turns

variable (handle : Node → Signal → Node × Left) (calls : Nat → Calls) (node : Node) (head : Nat) (rest : List Nat)

theorem reconcile_with_absent (absent : node.controllers[head]? = none) :
    node.reconcileWith handle calls (head :: rest) = node.reconcileWith handle calls rest := by
  simp only [reconcileWith, absent]

theorem reconcile_with_calm (mc : ManagedController) (present : node.controllers[head]? = some mc)
    (calm : (mc.reconcile (calls head)).2 = none) :
    node.reconcileWith handle calls (head :: rest) =
      (node.setController head (mc.reconcile (calls head)).1).reconcileWith handle calls rest := by
  simp only [reconcileWith, present, calm]

theorem reconcile_with_handled (mc : ManagedController) (raised : Raised) (handled : Node)
    (present : node.controllers[head]? = some mc) (left : (mc.reconcile (calls head)).2 = some raised)
    (returns : handle (node.setController head (mc.reconcile (calls head)).1) (reconcileSignal raised) = (handled, .returned)) :
    node.reconcileWith handle calls (head :: rest) = handled.reconcileWith handle calls rest := by
  simp only [reconcileWith, present, left, returns]

theorem reconcile_with_left (mc : ManagedController) (raised : Raised) (present : node.controllers[head]? = some mc)
    (left : (mc.reconcile (calls head)).2 = some raised)
    (leaves : (handle (node.setController head (mc.reconcile (calls head)).1) (reconcileSignal raised)).2 ≠ .returned) :
    (node.reconcileWith handle calls (head :: rest)).2 ≠ .returned := by
  simp only [reconcileWith, present, left]
  split
  · rename_i handled
    rw [handled] at leaves
    exact absurd rfl leaves
  · exact leaves

end Turns

theorem reconcile_with_quiet (handle : Node → Signal → Node × Left) (calls : Nat → Calls) (rest : List Nat) (node : Node)
    (unique : rest.Nodup)
    (returns : ∀ later index mc raised, index ∈ rest → node.controllers[index]? = some mc →
      later.shutdownRequested = node.shutdownRequested → (mc.reconcile (calls index)).2 = some raised →
      handle later (reconcileSignal raised) = (later, .returned)) :
    (node.reconcileWith handle calls rest).2 = .returned ∧
      ∀ index, (node.reconcileWith handle calls rest).1.controllers[index]? =
        (node.controllers[index]?).map fun mc => if index ∈ rest then (mc.reconcile (calls index)).1 else mc := by
  induction rest generalizing node with
  | nil => exact ⟨rfl, fun index => by simp [reconcileWith]⟩
  | cons head rest ih =>
      obtain ⟨fresh, unique⟩ := List.nodup_cons.mp unique
      cases present : node.controllers[head]? with
      | none =>
          rw [reconcile_with_absent handle calls node head rest present]
          obtain ⟨left, controllers⟩ := ih node unique fun later index mc raised member =>
            returns later index mc raised (List.mem_cons_of_mem head member)
          refine ⟨left, fun index => ?_⟩
          rw [controllers index]
          by_cases same : index = head
          · rw [same, present]
            rfl
          · simp [same]
      | some mc =>
          have after := ih (node.setController head (mc.reconcile (calls head)).1) unique
            (fun later index other raised member found => by
              have distinct : head ≠ index := fun same => fresh (same ▸ member)
              rw [set_controller_other node head index _ distinct] at found
              exact returns later index other raised (List.mem_cons_of_mem head member) found)
          have turned : node.reconcileWith handle calls (head :: rest) =
              (node.setController head (mc.reconcile (calls head)).1).reconcileWith handle calls rest := by
            cases left : (mc.reconcile (calls head)).2 with
            | none => exact reconcile_with_calm handle calls node head rest mc present left
            | some raised =>
                exact reconcile_with_handled handle calls node head rest mc raised _ present left
                  (returns (node.setController head (mc.reconcile (calls head)).1) head mc raised List.mem_cons_self present rfl left)
          rw [turned]
          refine ⟨after.1, fun index => ?_⟩
          rw [after.2 index]
          by_cases same : head = index
          · subst same
            rw [set_controller_same node head mc _ present, present]
            simp [fresh]
          · rw [set_controller_other node head index _ same]
            simp [Ne.symm same]

-- Before the shutdown, a fatal turn anywhere keeps the pass from returning.
theorem reconcile_with_fatal (calls shutdown : Nat → Calls) (rest : List Nat) (node : Node) (unique : rest.Nodup)
    (running : node.shutdownRequested = false) (index : Nat) (member : index ∈ rest)
    (fatal : node.fatalAt calls index = true) :
    (node.reconcileWith (handleInPass shutdown) calls rest).2 ≠ .returned := by
  induction rest generalizing node with
  | nil => cases member
  | cons head rest ih =>
      obtain ⟨fresh, unique⟩ := List.nodup_cons.mp unique
      cases present : node.controllers[head]? with
      | none =>
          rw [reconcile_with_absent _ calls node head rest present]
          rcases List.mem_cons.mp member with here | later
          · simp [fatalAt, here, present] at fatal
          · exact ih node unique running later fatal
      | some mc =>
          have others (later : index ∈ rest) :
              ((node.setController head (mc.reconcile (calls head)).1).reconcileWith (handleInPass shutdown) calls rest).2 ≠
                .returned := by
            have distinct : head ≠ index := fun same => fresh (same ▸ later)
            refine ih (node.setController head (mc.reconcile (calls head)).1) unique running later ?_
            rw [fatal_at_other node calls head index _ distinct]
            exact fatal
          cases left : (mc.reconcile (calls head)).2 with
          | none =>
              rw [reconcile_with_calm _ calls node head rest mc present left]
              rcases List.mem_cons.mp member with here | later
              · simp [fatalAt, here, present, left] at fatal
              · exact others later
          | some raised =>
              by_cases named : (reconcileSignal raised).name = SIG_CONTROLLER_FATAL
              · exact reconcile_with_left _ calls node head rest mc raised present left
                  (handle_fatal shutdown _ (reconcileSignal raised) running named)
              · rw [reconcile_with_handled _ calls node head rest mc raised _ present left
                  (handle_quiet shutdown _ (reconcileSignal raised) (.inr named))]
                rcases List.mem_cons.mp member with here | later
                · simp [fatalAt, here, present, left, named] at fatal
                · exact others later

end Node

end Animacharacter.HardwareMng
