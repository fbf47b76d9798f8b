import Animacharacter.HardwareMng.Pass

set_option autoImplicit false

namespace Animacharacter.HardwareMng

namespace ManagedController

structure Works (mc : ManagedController) (calls : Calls) : Prop where
  initializes : mc.initialized = false → calls.initializeHw = .returned true
  starts : mc.loop.isRunning = false → calls.startsThread = true

theorem started_arrives (mc : ManagedController) (calls : Calls) (hot : mc.initialized = true)
    (starts : mc.loop.isRunning = false → calls.startsThread = true) :
    (mc.started calls).actualState = .INITIALIZED ∧ (mc.started calls).goal = mc.goal := by
  rw [started, actual_initialized]
  by_cases running : mc.loop.isRunning = true
  · rw [if_pos running]
    exact ⟨⟨hot, running, rfl⟩, rfl⟩
  · have stopped := Bool.eq_false_iff.mpr running
    rw [if_neg running, starts stopped]
    exact ⟨⟨hot, start_loop_running mc.loop true, start_loop_paused mc.loop true stopped⟩, rfl⟩

theorem step_to_initialized_arrives (mc : ManagedController) (calls : Calls) (works : mc.Works calls) :
    (mc.stepToInitialized .UNINITIALIZED calls).2 = none ∧
      (mc.stepToInitialized .UNINITIALIZED calls).1.actualState = .INITIALIZED ∧
      (mc.stepToInitialized .UNINITIALIZED calls).1.goal = mc.goal := by
  by_cases hot : mc.initialized = true
  · rw [stepToInitialized, if_pos hot]
    exact ⟨rfl, started_arrives mc calls hot works.starts⟩
  · rw [stepToInitialized, if_neg hot, works.initializes (Bool.eq_false_iff.mpr hot)]
    exact ⟨rfl, started_arrives { mc with initialized := true } calls rfl works.starts⟩

theorem works_converges (mc : ManagedController) (calls : Calls) (works : mc.Works calls)
    (goal : mc.goal ≠ .UNINITIALIZED) :
    (mc.reconcile calls).2 = none ∧ (mc.reconcile calls).1.actualState = mc.goal := by
  simp only [reconcile]
  by_cases reached : mc.actualState = mc.goal
  · rw [if_pos reached]
    exact ⟨rfl, reached⟩
  · rw [if_neg reached]
    cases target : mc.goal with
    | UNINITIALIZED => exact absurd target goal
    | INITIALIZED =>
        cases actual : mc.actualState with
        | UNINITIALIZED =>
            obtain ⟨calm, arrives, _⟩ := step_to_initialized_arrives mc calls works
            exact ⟨calm, arrives⟩
        | INITIALIZED => exact absurd (actual.trans target.symm) reached
        | RUNNING =>
            obtain ⟨hot, running, _⟩ := (actual_running mc).mp actual
            exact ⟨rfl, (actual_initialized _).mpr ⟨hot, running, rfl⟩⟩
    | RUNNING =>
        cases actual : mc.actualState with
        | UNINITIALIZED =>
            obtain ⟨calm, arrives, _⟩ := step_to_initialized_arrives mc calls works
            obtain ⟨hot, running, _⟩ := (actual_initialized _).mp arrives
            simp only [stepToRunning, calm, arrives, if_true]
            exact ⟨trivial, (actual_running _).mpr ⟨hot, running, rfl⟩⟩
        | INITIALIZED =>
            obtain ⟨hot, running, _⟩ := (actual_initialized mc).mp actual
            exact ⟨rfl, (actual_running _).mpr ⟨hot, running, rfl⟩⟩
        | RUNNING => exact absurd (actual.trans target.symm) reached

theorem reconcile_raises (mc : ManagedController) (calls : Calls) (goal : mc.goal ≠ .UNINITIALIZED) (raised : Raised) :
    (mc.reconcile calls).2 = some raised ↔ mc.initialized = false ∧ calls.initializeHw = .raised raised := by
  by_cases hot : mc.initialized = true
  · have calm (actual : ControllerState) : (mc.stepToInitialized actual calls).2 = none := by
      cases actual <;> simp [stepToInitialized, hot]
    have quiet : (mc.reconcile calls).2 = none := by
      simp only [reconcile]
      by_cases reached : mc.actualState = mc.goal
      · rw [if_pos reached]
      · rw [if_neg reached]
        cases target : mc.goal with
        | UNINITIALIZED => exact absurd target goal
        | INITIALIZED => exact calm mc.actualState
        | RUNNING =>
            cases mc.actualState with
            | UNINITIALIZED =>
                simp only [stepToRunning, calm]
                split <;> rfl
            | INITIALIZED => rfl
            | RUNNING => rfl
    simp [quiet, hot]
  · have cold := Bool.eq_false_iff.mpr hot
    have actual := (actual_uninitialized mc).mpr (.inl cold)
    have away : ¬ mc.actualState = mc.goal := fun same => goal (same.symm.trans actual)
    have stepped : (mc.stepToInitialized .UNINITIALIZED calls).2 = some raised ↔ calls.initializeHw = .raised raised := by
      simp only [stepToInitialized, cold, Bool.false_eq_true, if_false]
      cases calls.initializeHw with
      | returned result => cases result <;> simp
      | raised other => simp
    have turn : (mc.reconcile calls).2 = (mc.stepToInitialized .UNINITIALIZED calls).2 := by
      rw [reconcile]
      simp only [if_neg away]
      rw [actual]
      cases target : mc.goal with
      | UNINITIALIZED => exact absurd target goal
      | INITIALIZED => rfl
      | RUNNING =>
          simp only [stepToRunning]
          cases left : (mc.stepToInitialized .UNINITIALIZED calls).2 with
          | none =>
              simp only
              split <;> rfl
          | some other => rfl
    rw [turn, stepped]
    simp [cold]

end ManagedController

namespace Node

def crashes (node : Node) (calls : Nat → Calls) : Prop :=
  ∃ index mc text, node.controllers[index]? = some mc ∧ mc.initialized = false ∧
    (calls index).initializeHw = .raised (.exception text)

theorem crashes_iff_fatal (node : Node) (calls : Nat → Calls) (goals : ∀ mc ∈ node.controllers, mc.goal ≠ .UNINITIALIZED)
    (short : ∀ index code description, (calls index).initializeHw ≠ .raised (.controllerFatal code description)) :
    node.crashes calls ↔ ∃ index, node.fatalAt calls index = true := by
  constructor
  · rintro ⟨index, mc, text, present, cold, raises⟩
    have left := (ManagedController.reconcile_raises mc (calls index) (goals mc (List.mem_of_getElem? present)) _).mpr ⟨cold, raises⟩
    exact ⟨index, by simp [fatalAt, present, left, reconcileSignal]⟩
  · rintro ⟨index, fatal⟩
    obtain ⟨mc, present, turn⟩ := (Option.any_eq_true _ _).mp fatal
    obtain ⟨raised, left, named⟩ := (Option.any_eq_true _ _).mp turn
    obtain ⟨cold, raises⟩ := (ManagedController.reconcile_raises mc (calls index) (goals mc (List.mem_of_getElem? present)) raised).mp left
    cases raised with
    | controllerWarning code description =>
        exact absurd (of_decide_eq_true named) (show SIG_CONTOLLER_WARNING ≠ SIG_CONTROLLER_FATAL by decide)
    | controllerError code description =>
        exact absurd (of_decide_eq_true named) (show SIG_CONTROLLER_ERROR ≠ SIG_CONTROLLER_FATAL by decide)
    | controllerFatal code description => exact absurd raises (short index code description)
    | exception text => exact ⟨index, mc, text, present, cold, raises⟩

-- A controller whose own calls work reaches its goal in one pass, exactly when
-- no other one's initialize_hw crashes or a shutdown is already under way.
theorem pass_converges_iff (node : Node) (calls shutdown : Nat → Calls)
    (goals : ∀ mc ∈ node.controllers, mc.goal ≠ .UNINITIALIZED)
    (short : ∀ index code description, (calls index).initializeHw ≠ .raised (.controllerFatal code description))
    (index : Nat) (mc : ManagedController) (present : node.controllers[index]? = some mc) (works : mc.Works (calls index)) :
    ((node.reconcilePass calls shutdown).2 = .returned ∧
      ((node.reconcilePass calls shutdown).1.controllers[index]?).map ManagedController.actualState = some mc.goal) ↔
      node.shutdownRequested = true ∨ ¬ node.crashes calls := by
  constructor
  · rintro ⟨returned, _⟩
    by_cases requested : node.shutdownRequested = true
    · exact .inl requested
    · refine .inr fun crashed => ?_
      obtain ⟨other, fatal⟩ := (crashes_iff_fatal node calls goals short).mp crashed
      obtain ⟨otherMc, found, _⟩ := (Option.any_eq_true _ _).mp fatal
      exact reconcile_with_fatal calls shutdown (List.range node.controllers.length) node List.nodup_range
        (Bool.eq_false_iff.mpr requested) other (List.mem_range.mpr (List.getElem?_eq_some_iff.mp found).1) fatal returned
  · intro spared
    have turns := reconcile_with_quiet (handleInPass shutdown) calls (List.range node.controllers.length) node
      List.nodup_range (fun later other otherMc raised _ found same left => by
        refine handle_quiet shutdown later (reconcileSignal raised) ?_
        rcases spared with requested | calm
        · exact .inl (same.trans requested)
        · refine .inr fun named => calm ((crashes_iff_fatal node calls goals short).mpr ⟨other, ?_⟩)
          simp [fatalAt, found, left, named])
    have inside := (List.getElem?_eq_some_iff.mp present).1
    refine ⟨turns.1, ?_⟩
    rw [reconcilePass, turns.2 index, present]
    simp [inside, (ManagedController.works_converges mc (calls index) works (goals mc (List.mem_of_getElem? present))).2]

def bringUp : Calls := ⟨.returned true, true, true, false, .returned true⟩

def toRunning : ManagedController := { ManagedController.init with goal := .RUNNING }

-- Two controllers to bring up; the second one's initialize_hw answers otherwise.
def pairToRun : Node := ⟨[toRunning, toRunning], false, false, .idle, false, []⟩

def secondAnswers (answer : Outcome) (index : Nat) : Calls :=
  if index = 1 then { bringUp with initializeHw := answer } else bringUp

theorem pass_converges_beside_error :
    (pairToRun.reconcilePass (secondAnswers (.raised (.controllerError 3 "init failed"))) fun _ => bringUp).2 = .returned ∧
      (((pairToRun.reconcilePass (secondAnswers (.raised (.controllerError 3 "init failed"))) fun _ => bringUp).1.controllers)[0]?).map
        ManagedController.actualState = some .RUNNING := by
  refine (pass_converges_iff pairToRun _ _ (by decide) ?_ 0 toRunning rfl ⟨fun _ => rfl, fun _ => rfl⟩).mpr (.inr ?_)
  · intro index code description
    by_cases second : index = 1 <;> simp [secondAnswers, second, bringUp]
  · rintro ⟨index, mc, text, _, _, raises⟩
    by_cases second : index = 1 <;> simp [secondAnswers, second, bringUp] at raises

-- A serial-port error of the second one: the first is taken down again and the
-- process exits.
theorem pass_crash_takes_all_down :
    pairToRun.reconcilePass (secondAnswers (.raised (.exception "could not open port /dev/ttyUSB0"))) (fun _ => bringUp) =
      ({ pairToRun with
          controllers := [⟨.UNINITIALIZED, true, ⟨.ended, false, true⟩⟩, ManagedController.init]
          shutdownRequested := true }, .systemExit HWMNG_CONTROLLER_FATAL) := by
  decide

end Node

end Animacharacter.HardwareMng
