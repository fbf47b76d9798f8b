import Mathlib.Algebra.Order.Field.Basic
import Mathlib.Data.Rat.Defs
import Mathlib.Algebra.Order.Ring.Rat
import Mathlib.Tactic.Linarith
import Mathlib.Tactic.Ring
import Animacharacter.Behaviors.Engine

set_option autoImplicit false

namespace Animacharacter.Behaviors

-- `ended` says that an exception has left the thread.
structure BehaviorThread (Gen Time : Type) where
  behavior : BehaviorInstance Gen Time
  running : Bool
  tickPeriod : Option Time
  nextTick : Option Time
  ended : Bool

-- What time.monotonic gives in one call of _tick_sleep, before and after the sleep.
structure TickCall (Time : Type) where
  now : Time
  nowAfter : Time

-- One iteration of _run, with what the clock and the behavior give in it.
structure Turn (Time : Type) where
  now : Time
  next : Stepped Time
  tick : TickCall Time

section Source

variable {Gen Time : Type} [Field Time] [LinearOrder Time]

namespace BehaviorThread

def init (behavior : BehaviorInstance Gen Time) : BehaviorThread Gen Time := ⟨behavior, true, none, none, false⟩

-- The tick that is slept for, after a change of the frequency and the initialization.
def due (thread : BehaviorThread Gen Time) (period now : Time) : Time :=
  if thread.tickPeriod ≠ some period then now + period else thread.nextTick.getD (now + period)

def sleepTime (thread : BehaviorThread Gen Time) (period now : Time) : Time := thread.due period now - now

def tickSleep (thread : BehaviorThread Gen Time) (freq : Time) (call : TickCall Time) : BehaviorThread Gen Time :=
  if freq ≤ 0 then thread
  else
    let period := 1 / freq
    let next := thread.due period call.now + period
    { thread with
      tickPeriod := some period
      nextTick := some (if next < call.nowAfter then call.nowAfter + period else next) }

def handleAction (thread : BehaviorThread Gen Time) (action : BehaviorActionType × Time) (tick : TickCall Time) :
    BehaviorThread Gen Time :=
  match action.1 with
  | .STOP => { thread with behavior := { thread.behavior with done := true }, running := false }
  | .CONTINUE | .SLEEP => thread
  | .TICK => thread.tickSleep action.2 tick

def goesOn (thread : BehaviorThread Gen Time) : Bool := !thread.ended && thread.running && !thread.behavior.done

def turned (thread : BehaviorThread Gen Time) (turn : Turn Time) : BehaviorThread Gen Time :=
  if thread.goesOn then
    match thread.behavior.step turn.now turn.next with
    | .error _ => { thread with ended := true }
    | .ok action => thread.handleAction (action.getD (.CONTINUE, 0)) turn.tick
  else thread

-- The frequency that an iteration calls _tick_sleep with, if it does.
def tickFreq (thread : BehaviorThread Gen Time) (turn : Turn Time) : Option Time :=
  if thread.goesOn then
    match thread.behavior.step turn.now turn.next with
    | .ok (some (.TICK, freq)) => some freq
    | _ => none
  else none

-- The recovery at the end of _tick_sleep.
def Overruns (thread : BehaviorThread Gen Time) (freq : Time) (call : TickCall Time) : Prop :=
  thread.due (1 / freq) call.now + 1 / freq < call.nowAfter

def NoOverrun (freq : Time) : BehaviorThread Gen Time → List (TickCall Time) → Prop
  | _, [] => True
  | thread, call :: rest => ¬ thread.Overruns freq call ∧ NoOverrun freq (thread.tickSleep freq call) rest

-- The clock does not go back, and a sleep returns no earlier than requested.
def Timed (freq : Time) : BehaviorThread Gen Time → Time → List (TickCall Time) → Prop
  | _, _, [] => True
  | thread, clock, call :: rest =>
      clock ≤ call.now ∧ call.now ≤ call.nowAfter ∧
        (0 < thread.sleepTime (1 / freq) call.now → call.now + thread.sleepTime (1 / freq) call.now ≤ call.nowAfter) ∧
          Timed freq (thread.tickSleep freq call) call.nowAfter rest

def ticks (freq : Time) : BehaviorThread Gen Time → List (TickCall Time) → List (Option Time)
  | _, [] => []
  | thread, call :: rest => (thread.tickSleep freq call).nextTick :: ticks freq (thread.tickSleep freq call) rest

-- The calls of _tick_sleep in a run, _next_tick after each of them, and that
-- they all have one frequency.
def tickCalls : BehaviorThread Gen Time → List (Turn Time) → List (TickCall Time)
  | _, [] => []
  | thread, turn :: rest =>
      match thread.tickFreq turn with
      | some _ => turn.tick :: tickCalls (thread.turned turn) rest
      | none => tickCalls (thread.turned turn) rest

def runTicks : BehaviorThread Gen Time → List (Turn Time) → List (Option Time)
  | _, [] => []
  | thread, turn :: rest =>
      match thread.tickFreq turn with
      | some _ => (thread.turned turn).nextTick :: runTicks (thread.turned turn) rest
      | none => runTicks (thread.turned turn) rest

def OneFrequency (freq : Time) : BehaviorThread Gen Time → List (Turn Time) → Prop
  | _, [] => True
  | thread, turn :: rest =>
      (∀ called ∈ thread.tickFreq turn, called = freq) ∧ OneFrequency freq (thread.turned turn) rest

-- Each tick is no earlier than the end of its call and at most one period after
-- it, and without an overrun all of them lie on the grid of the first.
structure PhaseLocked (freq : Time) (thread : BehaviorThread Gen Time) (calls : List (TickCall Time)) : Prop where
  ahead : ∀ (place : Nat) (call : TickCall Time), calls[place]? = some call →
    ∃ next, (ticks freq thread calls)[place]? = some (some next) ∧ call.nowAfter ≤ next ∧ next ≤ call.nowAfter + 1 / freq
  grid : NoOverrun freq thread calls → ∃ first, ∀ place < calls.length,
    (ticks freq thread calls)[place]? = some (some (first + place * (1 / freq)))

end BehaviorThread

end Source

namespace BehaviorThread

section Ticking

variable {Gen Time : Type} [Field Time] [LinearOrder Time]

theorem tick_sleep_period (thread : BehaviorThread Gen Time) (freq : Time) (call : TickCall Time) (positive : 0 < freq) :
    (thread.tickSleep freq call).tickPeriod = some (1 / freq) := by
  rw [tickSleep, if_neg (not_le.mpr positive)]

theorem tick_sleep_next (thread : BehaviorThread Gen Time) (freq : Time) (call : TickCall Time) (positive : 0 < freq) :
    (thread.tickSleep freq call).nextTick =
      some (if thread.due (1 / freq) call.now + 1 / freq < call.nowAfter then call.nowAfter + 1 / freq
        else thread.due (1 / freq) call.now + 1 / freq) := by
  rw [tickSleep, if_neg (not_le.mpr positive)]

theorem tick_sleep_on_time (thread : BehaviorThread Gen Time) (freq : Time) (call : TickCall Time) (positive : 0 < freq)
    (kept : ¬ thread.Overruns freq call) :
    (thread.tickSleep freq call).nextTick = some (thread.due (1 / freq) call.now + 1 / freq) := by
  rw [Overruns] at kept
  rw [tick_sleep_next thread freq call positive, if_neg kept]

theorem due_scheduled (thread : BehaviorThread Gen Time) (period now tick : Time)
    (same : thread.tickPeriod = some period) (next : thread.nextTick = some tick) : thread.due period now = tick := by
  rw [due, if_neg (not_not.mpr same), next]
  rfl

variable [IsStrictOrderedRing Time]

theorem due_reached (thread : BehaviorThread Gen Time) (freq : Time) (call : TickCall Time)
    (later : call.now ≤ call.nowAfter)
    (slept : 0 < thread.sleepTime (1 / freq) call.now →
      call.now + thread.sleepTime (1 / freq) call.now ≤ call.nowAfter) :
    thread.due (1 / freq) call.now ≤ call.nowAfter := by
  by_cases sleeps : 0 < thread.sleepTime (1 / freq) call.now
  · have woken := slept sleeps
    rw [sleepTime] at woken
    linarith
  · rw [sleepTime] at sleeps
    linarith

theorem tick_sleep_ahead (thread : BehaviorThread Gen Time) (freq : Time) (call : TickCall Time) (positive : 0 < freq)
    (reached : thread.due (1 / freq) call.now ≤ call.nowAfter) :
    ∃ next, (thread.tickSleep freq call).nextTick = some next ∧ call.nowAfter ≤ next ∧
      next ≤ call.nowAfter + 1 / freq := by
  have period : 0 < 1 / freq := one_div_pos.mpr positive
  rw [tick_sleep_next thread freq call positive]
  refine ⟨_, rfl, ?_⟩
  split
  · exact ⟨by linarith, le_refl _⟩
  · rename_i kept
    exact ⟨not_lt.mp kept, by linarith⟩

theorem ticks_ahead (freq : Time) (positive : 0 < freq) (calls : List (TickCall Time)) (thread : BehaviorThread Gen Time)
    (clock : Time) (timed : Timed freq thread clock calls) (place : Nat) (call : TickCall Time)
    (made : calls[place]? = some call) :
    ∃ next, (ticks freq thread calls)[place]? = some (some next) ∧ call.nowAfter ≤ next ∧
      next ≤ call.nowAfter + 1 / freq := by
  induction calls generalizing thread clock place with
  | nil => cases made
  | cons first rest ih =>
      obtain ⟨_, later, slept, timed⟩ := timed
      cases place with
      | zero =>
          cases made
          obtain ⟨next, found, bounds⟩ :=
            tick_sleep_ahead thread freq call positive (due_reached thread freq call later slept)
          exact ⟨next, congrArg some found, bounds⟩
      | succ place => exact ih (thread.tickSleep freq first) first.nowAfter timed place made

omit [IsStrictOrderedRing Time] in
-- From a tick on, without an overrun, the ticks follow it at one period each.
theorem ticks_on_grid (freq : Time) (positive : 0 < freq) (calls : List (TickCall Time))
    (thread : BehaviorThread Gen Time) (tick : Time) (same : thread.tickPeriod = some (1 / freq))
    (next : thread.nextTick = some tick) (kept : NoOverrun freq thread calls) (place : Nat)
    (inside : place < calls.length) :
    (ticks freq thread calls)[place]? = some (some (tick + (place + 1) * (1 / freq))) := by
  induction calls generalizing thread tick place with
  | nil => cases inside
  | cons call rest ih =>
      have after := tick_sleep_on_time thread freq call positive kept.1
      rw [due_scheduled thread (1 / freq) call.now tick same next] at after
      cases place with
      | zero =>
          rw [ticks, List.getElem?_cons_zero, after]
          norm_num
      | succ place =>
          rw [ticks, List.getElem?_cons_succ, ih (thread.tickSleep freq call) (tick + 1 / freq)
            (tick_sleep_period thread freq call positive) after kept.2 place (Nat.lt_of_succ_lt_succ inside)]
          push_cast
          ring_nf

-- From any state of the thread, so also after an overrun or another frequency.
theorem ticking_phase_locked (freq : Time) (positive : 0 < freq) (thread : BehaviorThread Gen Time) (clock : Time)
    (calls : List (TickCall Time)) (timed : Timed freq thread clock calls) : PhaseLocked freq thread calls := by
  apply PhaseLocked.mk
  · exact ticks_ahead freq positive calls thread clock timed
  · intro kept
    cases calls with
    | nil => exact ⟨0, fun place inside => absurd inside (Nat.not_lt_zero place)⟩
    | cons call rest =>
        have first := tick_sleep_on_time thread freq call positive kept.1
        refine ⟨thread.due (1 / freq) call.now + 1 / freq, ?_⟩
        intro place inside
        cases place with
        | zero =>
            rw [ticks, List.getElem?_cons_zero, first]
            norm_num
        | succ place =>
            rw [ticks, List.getElem?_cons_succ, ticks_on_grid freq positive rest (thread.tickSleep freq call) _
              (tick_sleep_period thread freq call positive) first kept.2 place (Nat.lt_of_succ_lt_succ inside)]
            push_cast
            rfl

end Ticking

section Runs

variable {Gen Time : Type} [Field Time] [LinearOrder Time]

theorem turned_without_tick (thread : BehaviorThread Gen Time) (turn : Turn Time) (silent : thread.tickFreq turn = none) :
    (thread.turned turn).tickPeriod = thread.tickPeriod ∧ (thread.turned turn).nextTick = thread.nextTick := by
  rw [tickFreq] at silent
  rw [turned]
  split
  · rename_i on
    rw [if_pos on] at silent
    cases stepped : thread.behavior.step turn.now turn.next with
    | error raised => exact ⟨rfl, rfl⟩
    | ok action =>
        rw [stepped] at silent
        cases action with
        | none => exact ⟨rfl, rfl⟩
        | some action =>
            obtain ⟨kind, arg⟩ := action
            cases kind with
            | STOP => exact ⟨rfl, rfl⟩
            | CONTINUE => exact ⟨rfl, rfl⟩
            | SLEEP => exact ⟨rfl, rfl⟩
            | TICK => cases silent
  · exact ⟨rfl, rfl⟩

theorem turned_tick (thread : BehaviorThread Gen Time) (turn : Turn Time) (freq : Time)
    (ticks : thread.tickFreq turn = some freq) : thread.turned turn = thread.tickSleep freq turn.tick := by
  rw [tickFreq] at ticks
  split at ticks
  · rename_i on
    rw [turned, if_pos on]
    split at ticks
    · rename_i stepped
      cases ticks
      rw [stepped]
      rfl
    · cases ticks
  · cases ticks

-- tick_sleep reads nothing of a thread but its schedule.
theorem ticks_schedule (freq : Time) (calls : List (TickCall Time)) (thread other : BehaviorThread Gen Time)
    (period : other.tickPeriod = thread.tickPeriod) (next : other.nextTick = thread.nextTick) :
    ticks freq other calls = ticks freq thread calls := by
  induction calls generalizing thread other with
  | nil => rfl
  | cons call rest ih =>
      have same : (other.tickSleep freq call).tickPeriod = (thread.tickSleep freq call).tickPeriod ∧
          (other.tickSleep freq call).nextTick = (thread.tickSleep freq call).nextTick := by
        simp only [tickSleep, due, period, next]
        split
        · exact ⟨period, next⟩
        · exact ⟨rfl, rfl⟩
      rw [ticks, ticks, same.2, ih (thread.tickSleep freq call) (other.tickSleep freq call) same.1 same.2]

-- The ticks of a run are those of its calls of _tick_sleep, one after the other.
theorem run_ticks (freq : Time) (turns : List (Turn Time)) (thread : BehaviorThread Gen Time)
    (single : OneFrequency freq thread turns) : runTicks thread turns = ticks freq thread (tickCalls thread turns) := by
  induction turns generalizing thread with
  | nil => rfl
  | cons turn rest ih =>
      obtain ⟨only, single⟩ := single
      rw [runTicks, tickCalls]
      cases ticking : thread.tickFreq turn with
      | none =>
          obtain ⟨period, next⟩ := turned_without_tick thread turn ticking
          exact (ih (thread.turned turn) single).trans
            (ticks_schedule freq (tickCalls (thread.turned turn) rest) thread (thread.turned turn) period next)
      | some called =>
          have same := turned_tick thread turn called ticking
          rw [only called ticking] at same
          simp only [ticks, ← same, ih (thread.turned turn) single]

end Runs

-- Two ticks at 2 Hz of which the first wakes a quarter of a second late.
theorem ticking_phase_locked_late : PhaseLocked (2 : ℚ) (init ⟨(), 0, 0, false⟩) [⟨0, 3 / 4⟩, ⟨4 / 5, 1⟩] :=
  ticking_phase_locked 2 (by norm_num) (init ⟨(), 0, 0, false⟩) 0 [⟨0, 3 / 4⟩, ⟨4 / 5, 1⟩]
    (by norm_num [Timed, sleepTime, due, init, tickSleep])

end BehaviorThread

end Animacharacter.Behaviors
