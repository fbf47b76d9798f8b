import Animacharacter.SerialDevice.Device

set_option autoImplicit false

namespace Animacharacter.SerialDevice

inductive WaitStatus where
  | looping (remaining : Nat)
  | returned (value : Nat)
deriving DecidableEq, Repr

-- A call of waitPacket: the clock when it is entered, at the reading of each
-- round of its loop, and what available() says in that round. The clock counts
-- on where millis() wraps.
structure WaitCall where
  timeoutMs : UInt64
  start : Nat
  clock : Nat → Nat
  available : Nat → Bool
  entered : start ≤ clock 0
  nondecreasing : ∀ round, clock round ≤ clock (round + 1)

def loopTest (remaining : Nat) : WaitStatus := if remaining = 0 then .returned 0 else .looping remaining

namespace WaitCall

def elapsed (call : WaitCall) (round : Nat) : Nat := elapsedSince (millis (call.clock round)) (millis call.start)

def remaining (call : WaitCall) (round : Nat) : Nat :=
  timeLeft (waitPacket (millis call.start) call.timeoutMs.toNat) (millis (call.clock round))

def afterRounds (call : WaitCall) : Nat → WaitStatus
  | 0 => loopTest call.timeoutMs.toNat
  | round + 1 =>
      match call.afterRounds round with
      | .returned value => .returned value
      | .looping _ =>
          if call.available round then .returned (call.remaining round) else loopTest (call.remaining round)

def deadline (call : WaitCall) : Nat := call.start + call.timeoutMs.toNat

def FirstPast (call : WaitCall) (round : Nat) : Prop :=
  call.deadline ≤ call.clock round ∧ ∀ earlier < round, call.clock earlier < call.deadline

def Remains (call : WaitCall) (value : Nat) : Prop := 1 ≤ value ∧ value ≤ call.timeoutMs.toNat

-- A call without a timeout looks for no packet.
def ArrivedBy (call : WaitCall) (round : Nat) : Prop :=
  call.timeoutMs ≠ 0 ∧ ∃ earlier ≤ round, call.available earlier = true

def EndsAt (call : WaitCall) (round : Nat) : Prop :=
  ∃ value, call.afterRounds (round + 1) = .returned value ∧
    (call.ArrivedBy round → call.Remains value) ∧ (¬ call.ArrivedBy round → value = 0)

-- The first round at or past the deadline is the last one, at the latest; and a
-- packet that arrives by then is reported with the time that is left.
structure Respects (call : WaitCall) : Prop where
  ends : ∀ round, call.FirstPast round → call.EndsAt round
  reports : ∀ round, (∀ earlier ≤ round, call.clock earlier < call.deadline) → call.available round = true →
    ∃ value, call.afterRounds (round + 1) = .returned value ∧ call.Remains value

-- What the round at or past the deadline needs, when it is reached.
def Lands (call : WaitCall) (round : Nat) : Prop :=
  call.timeoutMs = 0 ∨ (∃ earlier < round, call.available earlier = true) ∨
    (call.available round = true ∧ call.elapsed round < call.timeoutMs.toNat) ∨
    (call.available round = false ∧ call.elapsed round = call.timeoutMs.toNat)

theorem clock_from_start (call : WaitCall) (round : Nat) : call.start ≤ call.clock round := by
  induction round with
  | zero => exact call.entered
  | succ round ih => exact Nat.le_trans ih (call.nondecreasing round)

theorem elapsed_mod (call : WaitCall) (round : Nat) :
    call.elapsed round = (call.clock round - call.start) % 2 ^ 32 := by
  have later := call.clock_from_start round
  simp only [elapsed, elapsedSince, millis]
  generalize call.clock round = now at later ⊢
  generalize call.start = start at later ⊢
  omega

theorem remaining_value (call : WaitCall) (round : Nat) :
    call.remaining round = (call.timeoutMs.toNat + 2 ^ 64 - call.elapsed round) % 2 ^ 64 := rfl

theorem elapsed_small (call : WaitCall) (round : Nat) : call.elapsed round < 2 ^ 32 := by
  rw [elapsed_mod]
  exact Nat.mod_lt _ (by decide)

theorem remains_iff (call : WaitCall) (round : Nat) :
    call.Remains (call.remaining round) ↔ call.elapsed round < call.timeoutMs.toNat := by
  have bound : call.timeoutMs.toNat < 2 ^ 64 := call.timeoutMs.toNat_lt
  have small := call.elapsed_small round
  rw [Remains, remaining_value]
  generalize call.elapsed round = elapsed at small ⊢
  generalize call.timeoutMs.toNat = timeout at bound ⊢
  omega

theorem remaining_zero_iff (call : WaitCall) (round : Nat) :
    call.remaining round = 0 ↔ call.elapsed round = call.timeoutMs.toNat := by
  have bound : call.timeoutMs.toNat < 2 ^ 64 := call.timeoutMs.toNat_lt
  have small := call.elapsed_small round
  rw [remaining_value]
  generalize call.elapsed round = elapsed at small ⊢
  generalize call.timeoutMs.toNat = timeout at bound ⊢
  omega

theorem before_deadline (call : WaitCall) (round : Nat) (early : call.clock round < call.deadline) :
    call.elapsed round < call.timeoutMs.toNat := by
  have later := call.clock_from_start round
  rw [elapsed_mod]
  simp only [deadline] at early
  generalize call.clock round = now at later early ⊢
  generalize call.timeoutMs.toNat = timeout at early ⊢
  generalize call.start = start at later early ⊢
  omega

theorem timeout_zero_iff (call : WaitCall) : call.timeoutMs.toNat = 0 ↔ call.timeoutMs = 0 :=
  ⟨fun zero => UInt64.toNat_inj.mp zero, fun zero => by rw [zero]; rfl⟩

theorem returns_left (call : WaitCall) (round left : Nat) (looping : call.afterRounds round = .looping left)
    (arrived : call.available round = true) : call.afterRounds (round + 1) = .returned (call.remaining round) := by
  simp only [afterRounds, looping, arrived, if_true]

theorem tests_left (call : WaitCall) (round left : Nat) (looping : call.afterRounds round = .looping left)
    (absent : call.available round = false) : call.afterRounds (round + 1) = loopTest (call.remaining round) := by
  simp only [afterRounds, looping, absent, Bool.false_eq_true, if_false]

theorem returned_stays (call : WaitCall) (round value : Nat) (returned : call.afterRounds round = .returned value) :
    call.afterRounds (round + 1) = .returned value := by
  rw [afterRounds, returned]

theorem without_timeout (call : WaitCall) (zero : call.timeoutMs = 0) (round : Nat) :
    call.afterRounds round = .returned 0 := by
  induction round with
  | zero => rw [afterRounds, call.timeout_zero_iff.mpr zero]; rfl
  | succ round ih => exact call.returned_stays round 0 ih

-- Up to the deadline the loop goes on until the first packet.
theorem rounds_before (call : WaitCall) (timed : call.timeoutMs ≠ 0) (round : Nat)
    (early : ∀ earlier < round, call.clock earlier < call.deadline) :
    (∃ value, call.afterRounds round = .returned value ∧ call.Remains value ∧
      ∃ earlier < round, call.available earlier = true) ∨
    (∃ left, call.afterRounds round = .looping left ∧ ∀ earlier < round, call.available earlier = false) := by
  induction round with
  | zero =>
      have positive : call.timeoutMs.toNat ≠ 0 := fun zero => timed (call.timeout_zero_iff.mp zero)
      refine .inr ⟨call.timeoutMs.toNat, ?_, nofun⟩
      rw [afterRounds, loopTest, if_neg positive]
  | succ round ih =>
      have inTime := call.before_deadline round (early round (Nat.lt_succ_self round))
      rcases ih (fun earlier before => early earlier (Nat.lt_succ_of_lt before)) with
        ⟨value, returned, remains, arrival⟩ | ⟨left, looping, quiet⟩
      · obtain ⟨earlier, before, arrived⟩ := arrival
        exact .inl ⟨value, call.returned_stays round value returned, remains, earlier, Nat.lt_succ_of_lt before, arrived⟩
      · cases arrived : call.available round with
        | true =>
            exact .inl ⟨call.remaining round, call.returns_left round left looping arrived,
              (call.remains_iff round).mpr inTime, round, Nat.lt_succ_self round, arrived⟩
        | false =>
            have positive : call.remaining round ≠ 0 :=
              fun zero => Nat.ne_of_lt inTime ((call.remaining_zero_iff round).mp zero)
            refine .inr ⟨call.remaining round, ?_, fun earlier before => ?_⟩
            · rw [call.tests_left round left looping arrived, loopTest, if_neg positive]
            · rcases Nat.lt_succ_iff_lt_or_eq.mp before with old | rfl
              · exact quiet earlier old
              · exact arrived

theorem returned_ends (call : WaitCall) (round left : Nat) (returned : call.afterRounds (round + 1) = .returned left) :
    call.EndsAt round ↔ (call.ArrivedBy round → call.Remains left) ∧ (¬ call.ArrivedBy round → left = 0) := by
  constructor
  · rintro ⟨value, also, remains⟩
    rw [returned] at also
    cases also
    exact remains
  · intro remains
    exact ⟨left, returned, remains⟩

-- The deadline's round, when no earlier one has seen a packet. The difference is
-- unsigned, so the time left is zero only if the clock is read at the deadline.
theorem deadline_round (call : WaitCall) (timed : call.timeoutMs ≠ 0) (round left : Nat)
    (looping : call.afterRounds round = .looping left) (quiet : ∀ earlier < round, call.available earlier = false) :
    call.EndsAt round ↔
      (call.available round = true ∧ call.elapsed round < call.timeoutMs.toNat) ∨
        (call.available round = false ∧ call.elapsed round = call.timeoutMs.toNat) := by
  cases arrived : call.available round with
  | true =>
      have by_then : call.ArrivedBy round := ⟨timed, round, Nat.le_refl round, arrived⟩
      rw [call.returned_ends round _ (call.returns_left round left looping arrived), call.remains_iff]
      simp [by_then]
  | false =>
      have missing : ¬ call.ArrivedBy round := by
        rintro ⟨_, earlier, before, seen⟩
        rcases Nat.lt_or_eq_of_le before with old | rfl
        · rw [quiet earlier old] at seen
          cases seen
        · rw [arrived] at seen
          cases seen
      have tested := call.tests_left round left looping arrived
      rw [← call.remaining_zero_iff]
      by_cases spent : call.remaining round = 0
      · rw [loopTest, if_pos spent] at tested
        rw [call.returned_ends round 0 tested]
        simp [missing, spent]
      · rw [loopTest, if_neg spent] at tested
        apply iff_of_false
        · rintro ⟨value, returned, _⟩
          rw [tested] at returned
          cases returned
        · simp [spent]

theorem wait_respects (call : WaitCall) : call.Respects ↔ ∀ round, call.FirstPast round → call.Lands round := by
  constructor
  · intro respects round past
    by_cases zero : call.timeoutMs = 0
    · exact .inl zero
    · rcases call.rounds_before zero round past.2 with ⟨_, _, _, arrival⟩ | ⟨left, looping, quiet⟩
      · exact .inr (.inl arrival)
      · exact .inr (.inr ((call.deadline_round zero round left looping quiet).mp (respects.ends round past)))
  · intro lands
    constructor
    · intro round past
      by_cases zero : call.timeoutMs = 0
      · rw [call.returned_ends round 0 (call.without_timeout zero (round + 1))]
        exact ⟨fun arrived => absurd zero arrived.1, fun _ => rfl⟩
      · rcases call.rounds_before zero round past.2 with ⟨value, returned, remains, arrival⟩ | ⟨left, looping, quiet⟩
        · obtain ⟨earlier, before, arrived⟩ := arrival
          rw [call.returned_ends round value (call.returned_stays round value returned)]
          exact ⟨fun _ => remains, fun missing => absurd ⟨zero, earlier, Nat.le_of_lt before, arrived⟩ missing⟩
        · apply (call.deadline_round zero round left looping quiet).mpr
          rcases lands round past with none | ⟨earlier, before, arrived⟩ | landed
          · exact absurd none zero
          · rw [quiet earlier before] at arrived
            cases arrived
          · exact landed
    · intro round early arrived
      have timed : call.timeoutMs ≠ 0 := by
        intro zero
        have inTime := call.before_deadline round (early round (Nat.le_refl round))
        rw [call.timeout_zero_iff.mpr zero] at inTime
        exact Nat.not_lt_zero _ inTime
      rcases call.rounds_before timed (round + 1) (fun earlier before => early earlier (Nat.le_of_lt_succ before)) with
        ⟨value, returned, remains, _⟩ | ⟨_, _, quiet⟩
      · exact ⟨value, returned, remains⟩
      · rw [quiet round (Nat.lt_succ_self round)] at arrived
        cases arrived

-- A clock that is read at 4, 8, 12, ... by a call entered at 0.
def everyFourth (timeoutMs : UInt64) (available : Nat → Bool) : WaitCall where
  timeoutMs := timeoutMs
  start := 0
  clock round := 4 * (round + 1)
  available := available
  entered := Nat.zero_le _
  nondecreasing _ := by omega

theorem jumped_deadline : (everyFourth 3 fun _ => false).FirstPast 0 ∧
    (everyFourth 3 fun _ => false).afterRounds 1 = .looping (2 ^ 64 - 1) ∧
    (everyFourth 3 fun _ => true).afterRounds 1 = .returned (2 ^ 64 - 1) ∧
    ¬ (everyFourth 3 fun _ => false).Respects ∧ ¬ (everyFourth 3 fun _ => true).Respects := by
  have past (available : Nat → Bool) : (everyFourth 3 available).FirstPast 0 :=
    ⟨by show 0 + 3 ≤ 4; decide, nofun⟩
  have without : (everyFourth 3 fun _ => false).afterRounds 1 = .looping (2 ^ 64 - 1) := by decide +kernel
  have withPacket : (everyFourth 3 fun _ => true).afterRounds 1 = .returned (2 ^ 64 - 1) := by decide +kernel
  have timed : (everyFourth 3 fun _ => true).timeoutMs ≠ 0 := by
    show (3 : UInt64) ≠ 0
    decide
  refine ⟨past _, without, withPacket, fun respects => ?_, fun respects => ?_⟩
  · obtain ⟨value, returned, _⟩ := respects.ends 0 (past _)
    rw [without] at returned
    cases returned
  · obtain ⟨value, returned, arrived, _⟩ := respects.ends 0 (past _)
    rw [withPacket] at returned
    injection returned with same
    have bound : value ≤ 3 := (arrived ⟨timed, 0, Nat.le_refl 0, rfl⟩).2
    omega

end WaitCall

end Animacharacter.SerialDevice
