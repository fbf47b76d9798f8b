import Mathlib.Algebra.Order.Monoid.Defs
import Mathlib.Tactic.Abel
import Mathlib.Tactic.GCongr
import Animacharacter.Library.StepSystem

set_option autoImplicit false

namespace FailureDetector

open StepSystem

variable {Time : Type} [AddCommMonoid Time] [LinearOrder Time] [IsOrderedAddMonoid Time]

-- How far apart beats are sent, how long one is on its way, how long one that
-- arrived lasts, and how far apart the checks are.
structure Timing (Time : Type) [AddCommMonoid Time] [LinearOrder Time] where
  gap : Time
  latency : Time
  window : Time
  period : Time
  gap_nonneg : 0 ≤ gap
  latency_nonneg : 0 ≤ latency
  window_nonneg : 0 ≤ window
  period_nonneg : 0 ≤ period

-- A sender of beats, the link (the beats on it by when they were sent) and the
-- monitor with its deadline.
structure Detector (Time : Type) where
  clock : Time
  alive : Bool
  lastSent : Time
  inFlight : List Time
  deadline : Time
  lastCheck : Time
  suspected : Bool
deriving DecidableEq

inductive Action (Time : Type) where
  | wait (until_ : Time)
  | beat
  | crash
  | deliver (index : Nat)
  | check

namespace Detector

-- Time passes only while nobody is late.
def MayWait (timing : Timing Time) (state : Detector Time) (until_ : Time) : Prop :=
  state.clock ≤ until_ ∧ (state.alive = true → until_ ≤ state.lastSent + timing.gap) ∧
    (∀ sent ∈ state.inFlight, until_ ≤ sent + timing.latency) ∧ until_ ≤ state.lastCheck + timing.period

instance (timing : Timing Time) (state : Detector Time) (until_ : Time) : Decidable (state.MayWait timing until_) :=
  inferInstanceAs (Decidable (_ ∧ _ ∧ _ ∧ _))

def delivered (timing : Timing Time) (state : Detector Time) (index : Nat) : Detector Time :=
  { state with inFlight := state.inFlight.eraseIdx index, deadline := state.clock + timing.window, suspected := false }

def checked (state : Detector Time) : Detector Time :=
  { state with lastCheck := state.clock, suspected := state.suspected || decide (state.deadline < state.clock) }

def step (timing : Timing Time) (state : Detector Time) : Action Time → Option (Detector Time)
  | .wait until_ => if state.MayWait timing until_ then some { state with clock := until_ } else none
  | .beat =>
      if state.alive then some { state with lastSent := state.clock, inFlight := state.inFlight ++ [state.clock] }
      else none
  | .crash => some { state with alive := false }
  | .deliver index => if index < state.inFlight.length then some (state.delivered timing index) else none
  | .check => some state.checked

def init (timing : Timing Time) (time : Time) : Detector Time :=
  ⟨time, true, time, [], time + timing.window, time, false⟩

end Detector

open Detector

def detector (timing : Timing Time) : System (Detector Time) (Action Time) where
  start state := ∃ time, state = init timing time
  step := Detector.step timing

-- What any run keeps, whether or not the window leaves room for a late beat.
structure Timely (timing : Timing Time) (state : Detector Time) : Prop where
  sent : ∀ sent ∈ state.inFlight, sent ≤ state.clock
  lastSent : state.lastSent ≤ state.clock
  lastCheck : state.lastCheck ≤ state.clock
  deadline : state.deadline ≤ state.clock + timing.window
  punctual : state.alive = true → state.clock ≤ state.lastSent + timing.gap
  onTheWay : ∀ sent ∈ state.inFlight, state.clock ≤ sent + timing.latency
  checks : state.clock ≤ state.lastCheck + timing.period
  noticed : state.suspected = true ∨ state.lastCheck ≤ state.deadline

theorem init_timely (timing : Timing Time)
    (time : Time) : Timely timing (init timing time) := by
  constructor
  · intro sent inside
    cases inside
  · exact le_refl time
  · exact le_refl time
  · exact le_refl _
  · exact fun _ => le_add_of_nonneg_right timing.gap_nonneg
  · intro sent inside
    cases inside
  · exact le_add_of_nonneg_right timing.period_nonneg
  · exact .inr (le_add_of_nonneg_right timing.window_nonneg)

theorem wait_timely (timing : Timing Time) (state : Detector Time) (until_ : Time) (timely : Timely timing state)
    (may : state.MayWait timing until_) : Timely timing { state with clock := until_ } := by
  obtain ⟨forward, urgent, pending, due⟩ := may
  constructor
  · exact fun sent inside => (timely.sent sent inside).trans forward
  · exact timely.lastSent.trans forward
  · exact timely.lastCheck.trans forward
  · calc state.deadline ≤ state.clock + timing.window := timely.deadline
      _ ≤ until_ + timing.window := by gcongr
  · exact urgent
  · exact pending
  · exact due
  · exact timely.noticed

theorem beat_timely (timing : Timing Time) (state : Detector Time)
    (timely : Timely timing state) :
    Timely timing { state with lastSent := state.clock, inFlight := state.inFlight ++ [state.clock] } := by
  constructor
  · intro sent inside
    rcases List.mem_append.mp inside with before | fresh
    · exact timely.sent sent before
    · exact (List.mem_singleton.mp fresh).le
  · exact le_refl _
  · exact timely.lastCheck
  · exact timely.deadline
  · exact fun _ => le_add_of_nonneg_right timing.gap_nonneg
  · intro sent inside
    rcases List.mem_append.mp inside with before | fresh
    · exact timely.onTheWay sent before
    · rw [List.mem_singleton.mp fresh]
      exact le_add_of_nonneg_right timing.latency_nonneg
  · exact timely.checks
  · exact timely.noticed

theorem delivered_timely (timing : Timing Time) (state : Detector Time) (index : Nat) (timely : Timely timing state) :
    Timely timing (state.delivered timing index) := by
  constructor
  · exact fun sent inside => timely.sent sent (List.mem_of_mem_eraseIdx inside)
  · exact timely.lastSent
  · exact timely.lastCheck
  · exact le_refl _
  · exact timely.punctual
  · exact fun sent inside => timely.onTheWay sent (List.mem_of_mem_eraseIdx inside)
  · exact timely.checks
  · exact .inr (timely.lastCheck.trans (le_add_of_nonneg_right timing.window_nonneg))

theorem checked_timely (timing : Timing Time) (state : Detector Time)
    (timely : Timely timing state) : Timely timing state.checked := by
  constructor
  · exact timely.sent
  · exact timely.lastSent
  · exact le_refl _
  · exact timely.deadline
  · exact timely.punctual
  · exact timely.onTheWay
  · exact le_add_of_nonneg_right timing.period_nonneg
  · rcases lt_or_ge state.deadline state.clock with late | inTime
    · exact .inl (by simp [checked, late])
    · exact .inr inTime

theorem step_timely (timing : Timing Time)
    (source : Detector Time) (action : Action Time) (target : Detector Time) (timely : Timely timing source)
    (moved : source.step timing action = some target) : Timely timing target := by
  cases action with
  | wait until_ =>
      simp only [Detector.step, Option.ite_none_right_eq_some, Option.some.injEq] at moved
      obtain ⟨may, rfl⟩ := moved
      exact wait_timely timing source until_ timely may
  | beat =>
      simp only [Detector.step, Option.ite_none_right_eq_some, Option.some.injEq] at moved
      obtain ⟨_, rfl⟩ := moved
      exact beat_timely timing source timely
  | crash =>
      cases moved
      exact { timely with punctual := fun running => absurd running (by simp) }
  | deliver index =>
      simp only [Detector.step, Option.ite_none_right_eq_some, Option.some.injEq] at moved
      obtain ⟨_, rfl⟩ := moved
      exact delivered_timely timing source index timely
  | check =>
      cases moved
      exact checked_timely timing source timely

-- A running sender's next beat comes in time: the one that is due to be sent,
-- or one that is on its way.
structure Trusted (timing : Timing Time) (state : Detector Time) : Prop where
  unsuspected : state.suspected = false
  arrives : state.lastSent + timing.gap + timing.latency ≤ state.deadline ∨
    ∃ sent ∈ state.inFlight, sent + timing.latency ≤ state.deadline

theorem trusted_in_time (timing : Timing Time) (state : Detector Time) (timely : Timely timing state)
    (running : state.alive = true) (trusted : Trusted timing state) : state.clock ≤ state.deadline := by
  rcases trusted.arrives with due | ⟨sent, inside, due⟩
  · calc state.clock ≤ state.lastSent + timing.gap := timely.punctual running
      _ ≤ state.lastSent + timing.gap + timing.latency := le_add_of_nonneg_right timing.latency_nonneg
      _ ≤ state.deadline := due
  · exact (timely.onTheWay sent inside).trans due

theorem delivered_trusted (timing : Timing Time) (margin : timing.gap + timing.latency ≤ timing.window)
    (state : Detector Time) (index : Nat) (timely : Timely timing state) :
    Trusted timing (state.delivered timing index) := by
  refine ⟨rfl, .inl ?_⟩
  calc state.lastSent + timing.gap + timing.latency = state.lastSent + (timing.gap + timing.latency) := add_assoc _ _ _
    _ ≤ state.clock + timing.window := add_le_add timely.lastSent margin

theorem step_trusted (timing : Timing Time) (margin : timing.gap + timing.latency ≤ timing.window)
    (source : Detector Time) (action : Action Time) (target : Detector Time) (timely : Timely timing source)
    (trusted : source.alive = true → Trusted timing source) (moved : source.step timing action = some target)
    (running : target.alive = true) : Trusted timing target := by
  cases action with
  | wait until_ =>
      simp only [Detector.step, Option.ite_none_right_eq_some, Option.some.injEq] at moved
      obtain ⟨_, rfl⟩ := moved
      exact ⟨(trusted running).unsuspected, (trusted running).arrives⟩
  | beat =>
      simp only [Detector.step, Option.ite_none_right_eq_some, Option.some.injEq] at moved
      obtain ⟨_, rfl⟩ := moved
      refine ⟨(trusted running).unsuspected, .inr ?_⟩
      rcases (trusted running).arrives with due | ⟨sent, inside, due⟩
      · refine ⟨source.clock, List.mem_append_right _ (List.mem_singleton.mpr rfl), ?_⟩
        calc source.clock + timing.latency ≤ source.lastSent + timing.gap + timing.latency := by
              gcongr
              exact timely.punctual running
          _ ≤ source.deadline := due
      · exact ⟨sent, List.mem_append_left _ inside, due⟩
  | crash =>
      cases moved
      cases running
  | deliver index =>
      simp only [Detector.step, Option.ite_none_right_eq_some, Option.some.injEq] at moved
      obtain ⟨_, rfl⟩ := moved
      exact delivered_trusted timing margin source index timely
  | check =>
      cases moved
      have inTime := trusted_in_time timing source timely running (trusted running)
      refine ⟨?_, (trusted running).arrives⟩
      simp [checked, (trusted running).unsuspected, not_lt.mpr inTime]

theorem reached_timely (timing : Timing Time)
    (state : Detector Time) (reached : Reached (detector timing) anyAction state) : Timely timing state := by
  apply reached_invariant (detector timing) anyAction (Timely timing) _ _ state reached
  · intro state started
    obtain ⟨time, rfl⟩ := started
    exact init_timely timing time
  · intro source action target timely _ moved
    exact step_timely timing source action target timely moved

-- Accuracy: a window that covers the gap and the latency never runs out on a
-- sender that is alive.
theorem alive_unsuspected (timing : Timing Time)
    (margin : timing.gap + timing.latency ≤ timing.window) (state : Detector Time)
    (reached : Reached (detector timing) anyAction state) (running : state.alive = true) :
    state.clock ≤ state.deadline ∧ state.suspected = false := by
  have both : Timely timing state ∧ (state.alive = true → Trusted timing state) := by
    apply reached_invariant (detector timing) anyAction _ _ _ state reached
    · intro state started
      obtain ⟨time, rfl⟩ := started
      refine ⟨init_timely timing time, fun _ => ⟨rfl, .inl ?_⟩⟩
      calc time + timing.gap + timing.latency = time + (timing.gap + timing.latency) := add_assoc _ _ _
        _ ≤ time + timing.window := by gcongr
    · intro source action target inv _ moved
      exact ⟨step_timely timing source action target inv.1 moved,
        step_trusted timing margin source action target inv.1 inv.2 moved⟩
  exact ⟨trusted_in_time timing state both.1 running (both.2 running), (both.2 running).unsuspected⟩

-- What holds behind a crash at `time`.
structure Fading (timing : Timing Time) (time : Time) (state : Detector Time) : Prop where
  dead : state.alive = false
  sent : ∀ sent ∈ state.inFlight, sent ≤ time
  deadline : state.deadline ≤ time + timing.latency + timing.window

theorem step_fading (timing : Timing Time) (time : Time) (source : Detector Time) (action : Action Time)
    (target : Detector Time) (timely : Timely timing source) (fading : Fading timing time source)
    (moved : source.step timing action = some target) : Fading timing time target := by
  cases action with
  | wait until_ =>
      simp only [Detector.step, Option.ite_none_right_eq_some, Option.some.injEq] at moved
      obtain ⟨_, rfl⟩ := moved
      exact ⟨fading.dead, fading.sent, fading.deadline⟩
  | beat =>
      simp only [Detector.step, fading.dead] at moved
      cases moved
  | crash =>
      cases moved
      exact ⟨rfl, fading.sent, fading.deadline⟩
  | deliver index =>
      simp only [Detector.step, Option.ite_none_right_eq_some, Option.some.injEq] at moved
      obtain ⟨inside, rfl⟩ := moved
      refine ⟨fading.dead, fun sent member => fading.sent sent (List.mem_of_mem_eraseIdx member), ?_⟩
      have member := List.getElem_mem inside
      calc source.clock + timing.window ≤ source.inFlight[index] + timing.latency + timing.window := by
            gcongr
            exact timely.onTheWay _ member
        _ ≤ time + timing.latency + timing.window := by
            gcongr
            exact fading.sent _ member
  | check =>
      cases moved
      exact ⟨fading.dead, fading.sent, fading.deadline⟩

-- Completeness: a sender that is dead is suspected after its last beat has
-- arrived, has run out, and one more check was made.
theorem dead_suspected (timing : Timing Time)
    (source target : Detector Time) (reached : Reached (detector timing) anyAction source)
    (dead : source.alive = false) (runs : Runs (detector timing) anyAction source target)
    (passed : source.clock + timing.latency + timing.window + timing.period < target.clock) :
    target.suspected = true := by
  have timely := reached_timely timing source reached
  have fading : Fading timing source.clock source := by
    refine ⟨dead, timely.sent, timely.deadline.trans ?_⟩
    gcongr
    exact le_add_of_nonneg_right timing.latency_nonneg
  have both : Timely timing target ∧ Fading timing source.clock target := by
    apply runs_invariant (detector timing) anyAction _ _ source target runs ⟨timely, fading⟩
    intro before action after inv _ moved
    exact ⟨step_timely timing before action after inv.1 moved,
      step_fading timing source.clock before action after inv.1 inv.2 moved⟩
  rcases both.1.noticed with suspected | unnoticed
  · exact suspected
  · have early : target.clock ≤ source.clock + timing.latency + timing.window + timing.period :=
      calc target.clock ≤ target.lastCheck + timing.period := both.1.checks
        _ ≤ target.deadline + timing.period := by gcongr
        _ ≤ source.clock + timing.latency + timing.window + timing.period := by
            gcongr
            exact both.2.deadline
    exact absurd early (not_le.mpr passed)

end FailureDetector
