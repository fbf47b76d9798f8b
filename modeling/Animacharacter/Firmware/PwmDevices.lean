import Mathlib.Algebra.Order.Floor.Semiring
import Mathlib.Data.Rat.Floor
import Mathlib.Tactic.Linarith
import Mathlib.Tactic.Ring
import Animacharacter.Firmware.Quad2DLerper

set_option autoImplicit false

namespace Animacharacter.Firmware

def MAX_12BIT_PWM_VALUE : UInt16 := 4095

-- The macro of constrain on pulses.
def constrainPulse (amt low high : UInt16) : UInt16 := if amt < low then low else if high < amt then high else amt

structure PWM12Device where
  channel : UInt16
  pulselen : UInt16
  minPulse : UInt16
  maxPulse : UInt16
deriving DecidableEq

namespace PWM12Device

def writePulse (device : PWM12Device) (pulse : UInt16) : PWM12Device :=
  { device with pulselen := constrainPulse pulse device.minPulse device.maxPulse }

def init (channel : UInt16) : PWM12Device := ⟨channel, 0, 0, MAX_12BIT_PWM_VALUE⟩

def initLimits (channel minPulse maxPulse : UInt16) : PWM12Device :=
  let device : PWM12Device := ⟨channel, 0,
    if minPulse < MAX_12BIT_PWM_VALUE then minPulse else MAX_12BIT_PWM_VALUE,
    if maxPulse < MAX_12BIT_PWM_VALUE then maxPulse else MAX_12BIT_PWM_VALUE⟩
  device.writePulse device.minPulse

@[simp] theorem write_pulse_min (device : PWM12Device) (pulse : UInt16) :
    (device.writePulse pulse).minPulse = device.minPulse := rfl

@[simp] theorem write_pulse_max (device : PWM12Device) (pulse : UInt16) :
    (device.writePulse pulse).maxPulse = device.maxPulse := rfl

@[simp] theorem write_pulse_channel (device : PWM12Device) (pulse : UInt16) :
    (device.writePulse pulse).channel = device.channel := rfl

end PWM12Device

theorem constrain_pulse_low (amt low high : UInt16) (ordered : low ≤ high) : low ≤ constrainPulse amt low high := by
  rw [constrainPulse]
  split
  · exact UInt16.le_refl low
  · rename_i above
    split
    · exact ordered
    · exact UInt16.not_lt.mp above

theorem constrain_pulse_high (amt low high : UInt16) (ordered : low ≤ high) : constrainPulse amt low high ≤ high := by
  rw [constrainPulse]
  split
  · exact ordered
  · split
    · exact UInt16.le_refl high
    · rename_i below
      exact UInt16.not_lt.mp below

theorem constrain_pulse_between (amt low high : UInt16) (above : low ≤ amt) (below : amt ≤ high) :
    constrainPulse amt low high = amt := by
  rw [constrainPulse, if_neg (UInt16.not_lt.mpr above), if_neg (UInt16.not_lt.mpr below)]

section Source

variable {K IN_T : Type} [Field K] [LinearOrder K] [FloorSemiring K]

-- The floats are taken as exact numbers.
structure PWMServo (K IN_T : Type) extends PWM12Device where
  inputMap : IN_T → UInt16
  lerpAmount : K
  smoothPulse : K

-- The input map of the constructors that take none.
def defaultInputMap (input : Int16) : UInt16 :=
  (if input < 0 then 0 else if 4095 < input then 4095 else input).toUInt16

namespace PWMServo

def init (device : PWM12Device) (inputMap : IN_T → UInt16) : PWMServo K IN_T := ⟨device, inputMap, 0.5, 0⟩

def setLerp (servo : PWMServo K IN_T) (val : K) : PWMServo K IN_T := { servo with lerpAmount := constrain val 0 1 }

-- A float is cut off where it becomes an integer.
def readSmoothPulse (servo : PWMServo K IN_T) : UInt16 := UInt16.ofNat ⌊servo.smoothPulse⌋₊

def updateSmoothPulse (servo : PWMServo K IN_T) (dt : K) : PWMServo K IN_T :=
  { servo with
    smoothPulse := servo.smoothPulse + dt * ((servo.pulselen.toNat : K) - servo.smoothPulse) * servo.lerpAmount }

def move (servo : PWMServo K IN_T) (input : IN_T) : PWMServo K IN_T :=
  { servo with toPWM12Device := servo.toPWM12Device.writePulse (servo.inputMap input) }

-- The turn of one servo in driveServos, and the pulse for the driver.
def drive (servo : PWMServo K IN_T) (dt : K) : PWMServo K IN_T × UInt16 :=
  if servo.lerpAmount = 1 then (servo, servo.pulselen)
  else
    let servo := servo.updateSmoothPulse dt
    (servo, servo.readSmoothPulse)

end PWMServo

structure SetPWM where
  channel : UInt16
  on : UInt16
  off : UInt16
deriving DecidableEq

def driveServos (dt : K) : List (PWMServo K IN_T) → List (PWMServo K IN_T) × List SetPWM
  | [] => ([], [])
  | servo :: rest =>
      let driven := servo.drive dt
      let others := driveServos dt rest
      (driven.1 :: others.1, ⟨servo.channel, 0, driven.2⟩ :: others.2)

inductive ServoAction (IN_T : Type) where
  | move (index : Nat) (input : IN_T)
  | driveServos

-- The servos with the calls of every driveServos so far.
structure ServoRun (K IN_T : Type) where
  servos : List (PWMServo K IN_T)
  cycles : List (List SetPWM)

namespace ServoRun

def act (run : ServoRun K IN_T) : ServoAction IN_T → ServoRun K IN_T
  | .move index input => { run with servos := run.servos.modify index fun servo => servo.move input }
  | .driveServos =>
      let driven := Firmware.driveServos 1 run.servos
      ⟨driven.1, run.cycles ++ [driven.2]⟩

def after (servos : List (PWMServo K IN_T)) (history : List (ServoAction IN_T)) : ServoRun K IN_T :=
  history.foldl act ⟨servos, []⟩

def PulsesWithin (index : Nat) (low high : UInt16) (run : ServoRun K IN_T) : Prop :=
  ∀ cycle ∈ run.cycles, ∀ call ∈ cycle[index]?, low ≤ call.off ∧ call.off ≤ high

instance (index : Nat) (low high : UInt16) (run : ServoRun K IN_T) : Decidable (run.PulsesWithin index low high) :=
  inferInstanceAs (Decidable (∀ _ ∈ _, ∀ _ ∈ _, _ ∧ _))

-- At the first driveServos, one step of the smoothing from 0 reaches the lower limit.
def FirstDriveReaches (index : Nat) (run : ServoRun K IN_T) : List (ServoAction IN_T) → Prop
  | [] => True
  | .move other input :: rest => FirstDriveReaches index (run.act (.move other input)) rest
  | .driveServos :: _ => ∀ servo ∈ run.servos[index]?,
      (servo.minPulse.toNat : K) ≤ servo.lerpAmount * (servo.pulselen.toNat : K)

instance decidableFirstDriveReaches (index : Nat) :
    (history : List (ServoAction IN_T)) → (run : ServoRun K IN_T) → Decidable (run.FirstDriveReaches index history)
  | [], _ => inferInstanceAs (Decidable True)
  | .move other input :: rest, run => decidableFirstDriveReaches index rest (run.act (.move other input))
  | .driveServos :: _, _ => inferInstanceAs (Decidable (∀ _ ∈ _, _ ≤ _))

end ServoRun

end Source

namespace PWMServo

-- As the constructors and set_lerp leave a servo.
inductive PoweredOn {K IN_T : Type} [Field K] [LinearOrder K] : PWMServo K IN_T → Prop where
  | channel (channel : UInt16) (inputMap : IN_T → UInt16) : PoweredOn (init (.init channel) inputMap)
  | limits (channel minPulse maxPulse : UInt16) (inputMap : IN_T → UInt16) :
      PoweredOn (init (.initLimits channel minPulse maxPulse) inputMap)
  | lerp (servo : PWMServo K IN_T) (val : K) (powered : PoweredOn servo) : PoweredOn (servo.setLerp val)

-- The smoothed pulse never leaves the range from 0 to the upper limit.
structure Bounded {K IN_T : Type} [Field K] [LinearOrder K] (servo : PWMServo K IN_T) : Prop where
  ordered : servo.minPulse ≤ servo.maxPulse
  low : servo.minPulse ≤ servo.pulselen
  high : servo.pulselen ≤ servo.maxPulse
  lerpLow : 0 ≤ servo.lerpAmount
  lerpHigh : servo.lerpAmount ≤ 1
  smoothLow : 0 ≤ servo.smoothPulse
  smoothHigh : servo.smoothPulse ≤ servo.maxPulse.toNat

def Reached {K IN_T : Type} [Field K] [LinearOrder K] (servo : PWMServo K IN_T) : Prop :=
  servo.lerpAmount = 1 ∨ (servo.minPulse.toNat : K) ≤ servo.smoothPulse

section Smoothing

variable {K IN_T : Type} [Field K] [LinearOrder K] [IsStrictOrderedRing K]

-- One step of the smoothing stays between bounds of the two pulses.
theorem smoothing_between (smooth pulse amount low high : K) (amountLow : 0 ≤ amount) (amountHigh : amount ≤ 1)
    (atSmooth : low ≤ smooth ∧ smooth ≤ high) (atPulse : low ≤ pulse ∧ pulse ≤ high) :
    low ≤ smooth + 1 * (pulse - smooth) * amount ∧ smooth + 1 * (pulse - smooth) * amount ≤ high := by
  have mean : smooth + 1 * (pulse - smooth) * amount = smooth * (1 - amount) + pulse * amount + smooth * 0 := by ring
  have convex : Weights.Convex ⟨1 - amount, amount, 0⟩ :=
    ⟨sub_nonneg.mpr amountHigh, amountLow, le_refl 0, by simp⟩
  rw [mean]
  exact mean_between _ convex smooth pulse smooth low high atSmooth atPulse atSmooth

theorem set_lerp_range (servo : PWMServo K IN_T) (val : K) :
    0 ≤ (servo.setLerp val).lerpAmount ∧ (servo.setLerp val).lerpAmount ≤ 1 := by
  simp only [setLerp, constrain]
  split
  · simp
  · rename_i above
    split
    · simp
    · rename_i below
      exact ⟨not_lt.mp above, not_lt.mp below⟩

omit [IsStrictOrderedRing K] in
theorem powered_smooth (servo : PWMServo K IN_T) (powered : servo.PoweredOn) : servo.smoothPulse = 0 := by
  induction powered with
  | channel channel inputMap => rfl
  | limits channel minPulse maxPulse inputMap => rfl
  | lerp servo val powered ih => exact ih

theorem powered_lerp (servo : PWMServo K IN_T) (powered : servo.PoweredOn) :
    0 ≤ servo.lerpAmount ∧ servo.lerpAmount ≤ 1 := by
  cases powered with
  | channel channel inputMap =>
      simp only [init]
      exact ⟨by linarith [one_half_pos (α := K)], by linarith [one_half_lt_one (α := K)]⟩
  | limits channel minPulse maxPulse inputMap =>
      simp only [init]
      exact ⟨by linarith [one_half_pos (α := K)], by linarith [one_half_lt_one (α := K)]⟩
  | lerp servo val powered => exact set_lerp_range servo val

omit [IsStrictOrderedRing K] in
theorem powered_pulse (servo : PWMServo K IN_T) (powered : servo.PoweredOn) (ordered : servo.minPulse ≤ servo.maxPulse) :
    servo.minPulse ≤ servo.pulselen ∧ servo.pulselen ≤ servo.maxPulse := by
  induction powered with
  | channel channel inputMap => exact ⟨UInt16.le_refl 0, UInt16.le_iff_toNat_le.mpr (Nat.zero_le _)⟩
  | limits channel minPulse maxPulse inputMap =>
      exact ⟨constrain_pulse_low _ _ _ ordered, constrain_pulse_high _ _ _ ordered⟩
  | lerp servo val powered ih => exact ih ordered

theorem powered_bounded (servo : PWMServo K IN_T) (powered : servo.PoweredOn)
    (ordered : servo.minPulse ≤ servo.maxPulse) : servo.Bounded := by
  have pulse := powered_pulse servo powered ordered
  have lerp := powered_lerp servo powered
  have zero := powered_smooth servo powered
  exact ⟨ordered, pulse.1, pulse.2, lerp.1, lerp.2, zero.ge, zero ▸ Nat.cast_nonneg _⟩

omit [IsStrictOrderedRing K] in
theorem move_bounded (servo : PWMServo K IN_T) (input : IN_T) (bounded : servo.Bounded) : (servo.move input).Bounded :=
  ⟨bounded.ordered, constrain_pulse_low _ _ _ bounded.ordered, constrain_pulse_high _ _ _ bounded.ordered,
    bounded.lerpLow, bounded.lerpHigh, bounded.smoothLow, bounded.smoothHigh⟩

theorem update_between (servo : PWMServo K IN_T) (low : K) (bounded : servo.Bounded) (atSmooth : low ≤ servo.smoothPulse)
    (atPulse : low ≤ servo.pulselen.toNat) :
    low ≤ (servo.updateSmoothPulse 1).smoothPulse ∧ (servo.updateSmoothPulse 1).smoothPulse ≤ servo.maxPulse.toNat :=
  smoothing_between _ _ _ _ _ bounded.lerpLow bounded.lerpHigh ⟨atSmooth, bounded.smoothHigh⟩
    ⟨atPulse, Nat.cast_le.mpr (UInt16.le_iff_toNat_le.mp bounded.high)⟩

theorem update_bounded (servo : PWMServo K IN_T) (bounded : servo.Bounded) : (servo.updateSmoothPulse 1).Bounded := by
  have smooth := update_between servo 0 bounded bounded.smoothLow (Nat.cast_nonneg _)
  exact ⟨bounded.ordered, bounded.low, bounded.high, bounded.lerpLow, bounded.lerpHigh, smooth.1, smooth.2⟩

variable [FloorSemiring K]

omit [IsStrictOrderedRing K] in
theorem drive_direct (servo : PWMServo K IN_T) (dt : K) (direct : servo.lerpAmount = 1) :
    servo.drive dt = (servo, servo.pulselen) := by
  rw [drive, if_pos direct]

omit [IsStrictOrderedRing K] in
theorem drive_smoothed (servo : PWMServo K IN_T) (dt : K) (smoothed : servo.lerpAmount ≠ 1) :
    servo.drive dt = (servo.updateSmoothPulse dt, (servo.updateSmoothPulse dt).readSmoothPulse) := by
  rw [drive, if_neg smoothed]

omit [IsStrictOrderedRing K] [FloorSemiring K] in
theorem update_reached (servo : PWMServo K IN_T) (dt : K) (smoothed : servo.lerpAmount ≠ 1) :
    (servo.updateSmoothPulse dt).Reached ↔ (servo.minPulse.toNat : K) ≤ (servo.updateSmoothPulse dt).smoothPulse :=
  or_iff_right smoothed

theorem drive_bounded (servo : PWMServo K IN_T) (bounded : servo.Bounded) : (servo.drive 1).1.Bounded := by
  by_cases direct : servo.lerpAmount = 1
  · rw [drive_direct servo 1 direct]
    exact bounded
  · rw [drive_smoothed servo 1 direct]
    exact update_bounded servo bounded

theorem drive_reached (servo : PWMServo K IN_T) (bounded : servo.Bounded) (reached : servo.Reached) :
    (servo.drive 1).1.Reached := by
  by_cases direct : servo.lerpAmount = 1
  · rw [drive_direct servo 1 direct]
    exact reached
  · rw [drive_smoothed servo 1 direct, update_reached servo 1 direct]
    have pulse : (servo.minPulse.toNat : K) ≤ servo.pulselen.toNat :=
      Nat.cast_le.mpr (UInt16.le_iff_toNat_le.mp bounded.low)
    exact (update_between servo _ bounded (reached.resolve_left direct) pulse).1

theorem drive_first_reached (servo : PWMServo K IN_T) (bounded : servo.Bounded) (zero : servo.smoothPulse = 0) :
    (servo.drive 1).1.Reached ↔ (servo.minPulse.toNat : K) ≤ servo.lerpAmount * servo.pulselen.toNat := by
  by_cases direct : servo.lerpAmount = 1
  · rw [drive_direct servo 1 direct, direct, one_mul]
    exact iff_of_true (.inl direct) (Nat.cast_le.mpr (UInt16.le_iff_toNat_le.mp bounded.low))
  · rw [drive_smoothed servo 1 direct, update_reached servo 1 direct, updateSmoothPulse, zero, sub_zero, zero_add,
      one_mul, mul_comm]

theorem smooth_pulse_exact (servo : PWMServo K IN_T) (bounded : servo.Bounded) :
    servo.readSmoothPulse.toNat = ⌊servo.smoothPulse⌋₊ := by
  have bound : ⌊servo.smoothPulse⌋₊ ≤ servo.maxPulse.toNat :=
    Nat.cast_le.mp ((Nat.floor_le bounded.smoothLow).trans bounded.smoothHigh)
  rw [readSmoothPulse, UInt16.toNat_ofNat', Nat.mod_eq_of_lt (lt_of_le_of_lt bound servo.maxPulse.toNat_lt)]

theorem drive_pulse_within (servo : PWMServo K IN_T) (bounded : servo.Bounded) :
    (servo.minPulse ≤ (servo.drive 1).2 ∧ (servo.drive 1).2 ≤ servo.maxPulse) ↔ (servo.drive 1).1.Reached := by
  by_cases direct : servo.lerpAmount = 1
  · rw [drive_direct servo 1 direct]
    exact iff_of_true ⟨bounded.low, bounded.high⟩ (.inl direct)
  · rw [drive_smoothed servo 1 direct, update_reached servo 1 direct]
    have updated := update_bounded servo bounded
    have high : (servo.updateSmoothPulse 1).readSmoothPulse ≤ servo.maxPulse := by
      rw [UInt16.le_iff_toNat_le, smooth_pulse_exact _ updated]
      exact Nat.cast_le.mp ((Nat.floor_le updated.smoothLow).trans updated.smoothHigh)
    rw [and_iff_left high, UInt16.le_iff_toNat_le, smooth_pulse_exact _ updated]
    exact Nat.le_floor_iff updated.smoothLow

def acted (index : Nat) (servo : PWMServo K IN_T) : ServoAction IN_T → PWMServo K IN_T
  | .move other input => if other = index then servo.move input else servo
  | .driveServos => (servo.drive 1).1

omit [IsStrictOrderedRing K] in
theorem acted_limits (index : Nat) (servo : PWMServo K IN_T) (action : ServoAction IN_T) :
    (servo.acted index action).minPulse = servo.minPulse ∧ (servo.acted index action).maxPulse = servo.maxPulse := by
  cases action with
  | move other input =>
      rw [acted]
      split
      · exact ⟨rfl, rfl⟩
      · exact ⟨rfl, rfl⟩
  | driveServos =>
      rw [acted, drive]
      split
      · exact ⟨rfl, rfl⟩
      · exact ⟨rfl, rfl⟩

theorem acted_bounded (index : Nat) (servo : PWMServo K IN_T) (action : ServoAction IN_T) (bounded : servo.Bounded) :
    (servo.acted index action).Bounded := by
  cases action with
  | move other input =>
      rw [acted]
      split
      · exact move_bounded servo input bounded
      · exact bounded
  | driveServos => exact drive_bounded servo bounded

theorem acted_reached (index : Nat) (servo : PWMServo K IN_T) (action : ServoAction IN_T) (bounded : servo.Bounded)
    (reached : servo.Reached) : (servo.acted index action).Reached := by
  cases action with
  | move other input =>
      rw [acted]
      split
      · exact reached
      · exact reached
  | driveServos => exact drive_reached servo bounded reached

end Smoothing

end PWMServo

namespace ServoRun

section Runs

variable {K IN_T : Type} [Field K] [LinearOrder K] [FloorSemiring K]

theorem drive_servos_servo (dt : K) (servos : List (PWMServo K IN_T)) (index : Nat) :
    (driveServos dt servos).1[index]? = (servos[index]?).map fun servo => (servo.drive dt).1 := by
  induction servos generalizing index with
  | nil => rfl
  | cons servo rest ih =>
      cases index with
      | zero => rfl
      | succ index => exact ih index

theorem drive_servos_call (dt : K) (servos : List (PWMServo K IN_T)) (index : Nat) :
    (driveServos dt servos).2[index]? = (servos[index]?).map fun servo => ⟨servo.channel, 0, (servo.drive dt).2⟩ := by
  induction servos generalizing index with
  | nil => rfl
  | cons servo rest ih =>
      cases index with
      | zero => rfl
      | succ index => exact ih index

theorem act_servo (run : ServoRun K IN_T) (action : ServoAction IN_T) (index : Nat) (servo : PWMServo K IN_T)
    (found : run.servos[index]? = some servo) : (run.act action).servos[index]? = some (servo.acted index action) := by
  cases action with
  | move other input =>
      rw [act, List.getElem?_modify, found, PWMServo.acted]
      split <;> rfl
  | driveServos =>
      rw [act, drive_servos_servo, found]
      rfl

theorem cycles_kept (history : List (ServoAction IN_T)) (run : ServoRun K IN_T) (cycle : List SetPWM)
    (inside : cycle ∈ run.cycles) : cycle ∈ (history.foldl act run).cycles := by
  induction history generalizing run with
  | nil => exact inside
  | cons action rest ih =>
      apply ih
      cases action with
      | move other input => exact inside
      | driveServos => exact List.mem_append_left _ inside

variable [IsStrictOrderedRing K]

-- A driveServos keeps the pulses within the limits just when it reaches the lower one.
theorem drive_within (run : ServoRun K IN_T) (index : Nat) (servo : PWMServo K IN_T)
    (found : run.servos[index]? = some servo) (bounded : servo.Bounded)
    (within : run.PulsesWithin index servo.minPulse servo.maxPulse) :
    (run.act .driveServos).PulsesWithin index servo.minPulse servo.maxPulse ↔ (servo.drive 1).1.Reached := by
  have call : (driveServos 1 run.servos).2[index]? = some ⟨servo.channel, 0, (servo.drive 1).2⟩ := by
    rw [drive_servos_call, found]
    rfl
  rw [← PWMServo.drive_pulse_within servo bounded]
  apply Iff.intro
  · intro all
    exact all _ (List.mem_append_right _ (List.mem_singleton.mpr rfl)) _ call
  · intro last cycle inside made member
    rcases List.mem_append.mp inside with before | now
    · exact within cycle before made member
    · rw [List.mem_singleton.mp now, call] at member
      cases member
      exact last

theorem reached_run (history : List (ServoAction IN_T)) (run : ServoRun K IN_T) (index : Nat) (servo : PWMServo K IN_T)
    (found : run.servos[index]? = some servo) (bounded : servo.Bounded) (reached : servo.Reached)
    (within : run.PulsesWithin index servo.minPulse servo.maxPulse) :
    (history.foldl act run).PulsesWithin index servo.minPulse servo.maxPulse := by
  induction history generalizing run servo with
  | nil => exact within
  | cons action rest ih =>
      obtain ⟨low, high⟩ := PWMServo.acted_limits index servo action
      have next : (run.act action).PulsesWithin index servo.minPulse servo.maxPulse := by
        cases action with
        | move other input => exact within
        | driveServos =>
            exact (drive_within run index servo found bounded within).mpr (PWMServo.drive_reached servo bounded reached)
      have later := ih (run.act action) (servo.acted index action) (act_servo run action index servo found)
        (PWMServo.acted_bounded index servo action bounded) (PWMServo.acted_reached index servo action bounded reached)
      rw [low, high] at later
      exact later next

theorem first_drive_run (history : List (ServoAction IN_T)) (run : ServoRun K IN_T) (index : Nat)
    (servo : PWMServo K IN_T) (found : run.servos[index]? = some servo) (bounded : servo.Bounded)
    (zero : servo.smoothPulse = 0) (within : run.PulsesWithin index servo.minPulse servo.maxPulse) :
    (history.foldl act run).PulsesWithin index servo.minPulse servo.maxPulse ↔ run.FirstDriveReaches index history := by
  induction history generalizing run servo with
  | nil => exact iff_of_true within trivial
  | cons action rest ih =>
      cases action with
      | move other input =>
          obtain ⟨low, high⟩ := PWMServo.acted_limits index servo (.move other input)
          have still : (servo.acted index (.move other input)).smoothPulse = 0 := by
            rw [PWMServo.acted]
            split
            · exact zero
            · exact zero
          have later := ih (run.act (.move other input)) (servo.acted index (.move other input))
            (act_servo run (.move other input) index servo found)
            (PWMServo.acted_bounded index servo (.move other input) bounded) still
          rw [low, high] at later
          exact later within
      | driveServos =>
          have first := drive_within run index servo found bounded within
          have meets : run.FirstDriveReaches index (.driveServos :: rest) ↔ (servo.drive 1).1.Reached := by
            rw [FirstDriveReaches, found, PWMServo.drive_first_reached servo bounded zero]
            simp
          rw [meets]
          apply Iff.intro
          · intro all
            apply first.mp
            intro cycle inside call made
            exact all cycle (cycles_kept rest (run.act .driveServos) cycle inside) call made
          · intro reached
            obtain ⟨low, high⟩ := PWMServo.acted_limits index servo .driveServos
            have later := reached_run rest (run.act .driveServos) index (servo.acted index .driveServos)
              (act_servo run .driveServos index servo found)
              (PWMServo.acted_bounded index servo .driveServos bounded) reached
            rw [low, high] at later
            exact later (first.mpr reached)

end Runs

end ServoRun

-- Every pulse for a servo lies within its limits exactly when the first
-- driveServos already smooths from 0 up to the lower limit.
theorem servo_pulses_within_iff {K IN_T : Type} [Field K] [LinearOrder K] [IsStrictOrderedRing K] [FloorSemiring K]
    (servos : List (PWMServo K IN_T)) (index : Nat) (servo : PWMServo K IN_T) (found : servos[index]? = some servo)
    (powered : servo.PoweredOn) (ordered : servo.minPulse ≤ servo.maxPulse) (history : List (ServoAction IN_T)) :
    (ServoRun.after servos history).PulsesWithin index servo.minPulse servo.maxPulse ↔
      ServoRun.FirstDriveReaches index ⟨servos, []⟩ history := by
  apply ServoRun.first_drive_run history ⟨servos, []⟩ index servo found (PWMServo.powered_bounded servo powered ordered)
    (PWMServo.powered_smooth servo powered)
  intro cycle inside
  cases inside

def mouthLeft : PWMServo ℚ Int16 := .init (.initLimits 9 220 325) defaultInputMap

theorem servo_pulses_within_mouth :
    (ServoRun.after [mouthLeft.setLerp (9 / 10)] [.move 0 300, .driveServos, .move 0 220, .driveServos]).PulsesWithin 0
      220 325 :=
  (servo_pulses_within_iff [mouthLeft.setLerp (9 / 10)] 0 (mouthLeft.setLerp (9 / 10)) rfl
    (.lerp mouthLeft (9 / 10) (.limits 9 220 325 defaultInputMap)) (by decide) _).mpr (by decide +kernel)

-- With the lerp amount of setup its first pulse is 11.
theorem first_pulse_below_limit :
    (ServoRun.after [mouthLeft.setLerp (1 / 20)] [.driveServos]).cycles = [[⟨9, 0, 11⟩]] ∧
      ¬ (ServoRun.after [mouthLeft.setLerp (1 / 20)] [.driveServos]).PulsesWithin 0 220 325 := by
  decide +kernel

end Animacharacter.Firmware
