import Animacharacter.HardwareMng.Pass

set_option autoImplicit false

namespace Animacharacter.HardwareMng

-- Every stop_loop that is called ends the thread and every deinitialize_hw works.
def Calls.tearDown (calls : Calls) : Prop := calls.endsInTime = true ∧ calls.deinitializeHw = .returned true

def ManagedController.Down (mc : ManagedController) : Prop := mc.loop.isRunning = false ∧ mc.initialized = false

def ManagedController.Matched (mc : ManagedController) : Prop := mc.initialized = mc.loop.isRunning

instance (mc : ManagedController) : Decidable mc.Down := inferInstanceAs (Decidable (_ ∧ _))

instance (mc : ManagedController) : Decidable mc.Matched := inferInstanceAs (Decidable (_ = _))

namespace ManagedController

theorem stop_loop_down (mc : ManagedController) (calls : Calls) (ends : calls.endsInTime = true) :
    (mc.stopLoop calls).loop.isRunning = false := by
  simp only [stopLoop, ends, if_true]
  rfl

theorem deinitialize_stopped_down (mc : ManagedController) (calls : Calls) (stopped : mc.loop.isRunning = false)
    (works : calls.deinitializeHw = .returned true) :
    (mc.deinitializeStopped calls).2 = none ∧ (mc.deinitializeStopped calls).1.Down := by
  simp only [deinitializeStopped, stopped, Bool.false_eq_true, if_false, works]
  split
  · exact ⟨rfl, stopped, rfl⟩
  · rename_i cold
    exact ⟨rfl, stopped, Bool.eq_false_iff.mpr cold⟩

theorem step_to_uninitialized_down (mc : ManagedController) (calls : Calls) (down : calls.tearDown) :
    (mc.stepToUninitialized calls).2 = none ∧ (mc.stepToUninitialized calls).1.Down := by
  refine deinitialize_stopped_down _ calls ?_ down.2
  by_cases running : mc.loop.isRunning = true
  · rw [if_pos running]
    exact stop_loop_down mc calls down.1
  · rw [if_neg running]
    exact Bool.eq_false_iff.mpr running

-- The derived state UNINITIALIZED covers three of the four combinations, and the
-- turn is skipped in all of them.
theorem teardown_turn (mc : ManagedController) (calls : Calls) (goal : mc.goal = .UNINITIALIZED) (down : calls.tearDown) :
    (mc.reconcile calls).2 = none ∧ ((mc.reconcile calls).1.Down ↔ mc.Matched) := by
  simp only [reconcile, goal]
  by_cases skipped : mc.actualState = .UNINITIALIZED
  · rw [if_pos skipped]
    refine ⟨rfl, ?_⟩
    have folded := (actual_uninitialized mc).mp skipped
    simp only [Down, Matched]
    cases initialized : mc.initialized <;> cases running : mc.loop.isRunning <;> simp_all
  · rw [if_neg skipped]
    obtain ⟨calm, after⟩ := step_to_uninitialized_down mc calls down
    refine ⟨calm, iff_of_true after ?_⟩
    rw [actual_uninitialized, not_or] at skipped
    simp only [Bool.not_eq_false] at skipped
    rw [Matched, skipped.1, skipped.2]

end ManagedController

namespace Node

theorem set_goal_all_get (node : Node) (goal : ControllerState) (index : Nat) :
    (node.setGoalAll goal).controllers[index]? = (node.controllers[index]?).map fun mc => { mc with goal } :=
  List.getElem?_map

theorem mem_iff_get (node : Node) (holds : ManagedController → Prop) :
    (∀ mc ∈ node.controllers, holds mc) ↔ ∀ (index : Nat) mc, node.controllers[index]? = some mc → holds mc := by
  constructor
  · intro every index mc present
    exact every mc (List.mem_of_getElem? present)
  · intro every mc member
    obtain ⟨index, present⟩ := List.mem_iff_getElem?.mp member
    exact every index mc present

theorem teardown_complete_iff (node : Node) (calls shutdown : Nat → Calls) (succeed : ∀ index, (calls index).tearDown) :
    (∀ mc ∈ ((node.setGoalAll .UNINITIALIZED).reconcilePass calls shutdown).1.controllers, mc.Down) ↔
      ∀ mc ∈ node.controllers, mc.Matched := by
  have turns := (reconcile_with_quiet (handleInPass shutdown) calls
    (List.range (node.setGoalAll .UNINITIALIZED).controllers.length) (node.setGoalAll .UNINITIALIZED) List.nodup_range
    (fun later index mc raised _ present _ left => by
      rw [set_goal_all_get] at present
      obtain ⟨before, _, rfl⟩ := Option.map_eq_some_iff.mp present
      rw [(ManagedController.teardown_turn _ (calls index) rfl (succeed index)).1] at left
      cases left)).2
  have turned (index : Nat) (mc : ManagedController) (present : node.controllers[index]? = some mc) :
      ((node.setGoalAll .UNINITIALIZED).reconcilePass calls shutdown).1.controllers[index]? =
        some (({ mc with goal := .UNINITIALIZED } : ManagedController).reconcile (calls index)).1 := by
    have inside := (List.getElem?_eq_some_iff.mp present).1
    rw [reconcilePass, turns index, set_goal_all_get, present]
    simp [setGoalAll, inside]
  have own (index : Nat) (mc : ManagedController) :=
    (ManagedController.teardown_turn { mc with goal := .UNINITIALIZED } (calls index) rfl (succeed index)).2
  rw [mem_iff_get, mem_iff_get]
  constructor
  · intro down index mc present
    exact (own index mc).mp (down index _ (turned index mc present))
  · intro paired index after present
    cases before : node.controllers[index]? with
    | none =>
        rw [reconcilePass, turns index, set_goal_all_get, before] at present
        cases present
    | some mc =>
        rw [turned index mc before, Option.some.injEq] at present
        rw [← present]
        exact (own index mc).mpr (paired index mc before)

def workingTeardown : Calls := ⟨.returned true, true, true, false, .returned true⟩

def nodeOf (controllers : List ManagedController) : Node := ⟨controllers, false, false, .idle, false, []⟩

-- A running controller and a paused one, and one that was never started.
def runningPausedFresh : Node :=
  nodeOf [⟨.RUNNING, true, ⟨.alive, true, true⟩⟩, ⟨.INITIALIZED, true, ⟨.alive, true, false⟩⟩, ManagedController.init]

theorem teardown_complete_running :
    (runningPausedFresh.controllers.map ManagedController.actualState) = [.RUNNING, .INITIALIZED, .UNINITIALIZED] ∧
      ∀ mc ∈ ((runningPausedFresh.setGoalAll .UNINITIALIZED).reconcilePass (fun _ => workingTeardown)
        (fun _ => workingTeardown)).1.controllers, mc.Down :=
  ⟨rfl, (teardown_complete_iff _ _ _ (fun _ => ⟨rfl, rfl⟩)).mpr (by decide)⟩

-- Initialized hardware whose loop has been stopped, and a loop that runs on
-- hardware that is not initialized, are both left as they are.
theorem teardown_incomplete :
    ((nodeOf [⟨.RUNNING, true, ⟨.ended, false, true⟩⟩]).setGoalAll .UNINITIALIZED).reconcilePass
        (fun _ => workingTeardown) (fun _ => workingTeardown) =
      (nodeOf [⟨.UNINITIALIZED, true, ⟨.ended, false, true⟩⟩], .returned) ∧
    ((nodeOf [⟨.RUNNING, false, ⟨.alive, false, true⟩⟩]).setGoalAll .UNINITIALIZED).reconcilePass
        (fun _ => workingTeardown) (fun _ => workingTeardown) =
      (nodeOf [⟨.UNINITIALIZED, false, ⟨.alive, false, true⟩⟩], .returned) := by
  decide

end Node

end Animacharacter.HardwareMng
