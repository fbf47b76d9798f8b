import Mathlib.Data.Rat.Floor
import Mathlib.Tactic.Linarith
import Animacharacter.Mcudrivers.FlushUpdates

set_option autoImplicit false

namespace Animacharacter.Mcudrivers

open PyNumber

-- int() of a number that is finite: towards zero.
def truncate (value : ℚ) : Int := value.num.tdiv value.den

theorem truncate_floor (value : ℚ) (nonneg : 0 ≤ value) : truncate value = ⌊value⌋ := by
  rw [truncate, Int.tdiv_eq_ediv_of_nonneg (Rat.num_nonneg.mpr nonneg), Rat.floor_def']

theorem truncate_ceil (value : ℚ) (negative : value < 0) : truncate value = ⌈value⌉ := by
  have opposite := truncate_floor (-value) (by linarith)
  rw [truncate, Rat.neg_num, Rat.neg_den, Int.neg_tdiv, ← truncate] at opposite
  rw [← neg_neg (truncate value), opposite, Int.floor_neg, neg_neg]

theorem truncate_nonneg (value : ℚ) : 0 ≤ truncate value ↔ -1 < value := by
  rcases le_or_gt 0 value with nonneg | negative
  · rw [truncate_floor value nonneg]
    exact ⟨fun _ => by linarith, fun _ => Int.floor_nonneg.mpr nonneg⟩
  · rw [truncate_ceil value negative, Int.le_iff_lt_add_one, ← sub_lt_iff_lt_add, Int.lt_ceil]
    norm_num

def Between (lo hi : Int) (value : ℚ) : Prop := lo ≤ value ∧ value ≤ hi

theorem truncate_between (lo hi : Int) (value : ℚ) (inside : Between lo hi value) :
    lo ≤ truncate value ∧ truncate value ≤ hi := by
  obtain ⟨low, high⟩ := inside
  rcases le_or_gt 0 value with nonneg | negative
  · rw [truncate_floor value nonneg]
    exact ⟨Int.le_floor.mpr low, Int.cast_le.mp ((Int.floor_le value).trans high)⟩
  · rw [truncate_ceil value negative]
    exact ⟨Int.cast_le.mp (low.trans (Int.le_ceil value)), Int.ceil_le.mpr high⟩

theorem clamp_below (value : ℚ) (lo hi : Int) (below : value < lo) : clamp value lo hi = lo := by
  simp [clamp, lt, ofInt, below]

theorem clamp_above (value : ℚ) (lo hi : Int) (inside : lo ≤ value) (above : hi < value) : clamp value lo hi = hi := by
  simp [clamp, lt, ofInt, not_lt.mpr inside, above]

theorem clamp_inside (value : ℚ) (lo hi : Int) (low : lo ≤ value) (high : value ≤ hi) : clamp value lo hi = value := by
  simp [clamp, lt, ofInt, not_lt.mpr low, not_lt.mpr high]

theorem clamp_between (value : ℚ) (lo hi : Int) (ordered : lo ≤ hi) : Between lo hi (clamp value lo hi) := by
  have bounds : (lo : ℚ) ≤ hi := Int.cast_le.mpr ordered
  rcases lt_or_ge value lo with below | inside
  · rw [clamp_below value lo hi below]
    exact ⟨le_refl _, bounds⟩
  rcases lt_or_ge (hi : ℚ) value with above | within
  · rw [clamp_above value lo hi inside above]
    exact ⟨bounds, le_refl _⟩
  · rw [clamp_inside value lo hi inside within]
    exact ⟨inside, within⟩

-- What every write keeps of the axes.
structure Axes.Clamped (axes : Axes ℚ) : Prop where
  ledR : 0 ≤ axes.ledR ∧ axes.ledR ≤ 1
  ledG : 0 ≤ axes.ledG ∧ axes.ledG ≤ 1
  ledB : 0 ≤ axes.ledB ∧ axes.ledB ≤ 1
  ledL1 : 0 ≤ axes.ledL1 ∧ axes.ledL1 ≤ 1
  ledL2 : 0 ≤ axes.ledL2 ∧ axes.ledL2 ≤ 1
  mouth : Between 0 1 axes.mouth
  earLeft : Between (-1) 1 axes.earLeft
  earRight : Between (-1) 1 axes.earRight
  neckTilt : Between (-1) 1 axes.neckTilt
  neckPitch : Between (-1) 1 axes.neckPitch
  eyeLeft : Between (-EYE_YAW_RANGE_DEG) EYE_YAW_RANGE_DEG axes.eyeLeft
  eyeRight : Between (-EYE_YAW_RANGE_DEG) EYE_YAW_RANGE_DEG axes.eyeRight
  eyesPitch : Between (-EYE_PITCH_RANGE_DEG) EYE_PITCH_RANGE_DEG axes.eyesPitch
  lidLeft : Between 0 LID_WIDENESS_MAX_DEG axes.lidLeftWideness
  lidRight : Between 0 LID_WIDENESS_MAX_DEG axes.lidRightWideness
  eyesOpen : Between 0 1 axes.eyesOpen

theorem topwm8_within (value : ℚ) (duty : Int) (mapped : topwm8 value = some duty) : 0 ≤ duty ∧ duty ≤ 1 := by
  obtain ⟨number, _, rfl⟩ := Option.map_eq_some_iff.mp mapped
  exact ⟨by omega, by omega⟩

theorem topwm12_within (value : ℚ) (duty : Int) (mapped : topwm12 value = some duty) : 0 ≤ duty ∧ duty ≤ 1 := by
  obtain ⟨number, _, rfl⟩ := Option.map_eq_some_iff.mp mapped
  exact ⟨by omega, by omega⟩

theorem init_clamped : Axes.Clamped (.init : Axes ℚ) := by
  constructor <;> simp [Axes.init, Between, ofInt, EYE_YAW_RANGE_DEG, EYE_PITCH_RANGE_DEG, LID_WIDENESS_MAX_DEG] <;>
    norm_num

theorem write_axis_clamped (axes after : Axes ℚ) (axis : Axis) (val : ℚ) (inv : axes.Clamped)
    (written : axes.writeAxis axis val = some after) : after.Clamped := by
  cases axis <;> simp only [Axes.writeAxis, Option.map_eq_some_iff, Option.some.injEq] at written
  case LED_R =>
    obtain ⟨duty, mapped, rfl⟩ := written
    exact { inv with ledR := topwm12_within val duty mapped }
  case LED_G =>
    obtain ⟨duty, mapped, rfl⟩ := written
    exact { inv with ledG := topwm12_within val duty mapped }
  case LED_B =>
    obtain ⟨duty, mapped, rfl⟩ := written
    exact { inv with ledB := topwm12_within val duty mapped }
  case LED_L1 =>
    obtain ⟨duty, mapped, rfl⟩ := written
    exact { inv with ledL1 := topwm8_within val duty mapped }
  case LED_L2 =>
    obtain ⟨duty, mapped, rfl⟩ := written
    exact { inv with ledL2 := topwm8_within val duty mapped }
  all_goals subst written
  case MOUTH => exact { inv with mouth := clamp_between _ _ _ (by decide) }
  case EAR_L => exact { inv with earLeft := clamp_between _ _ _ (by decide) }
  case EAR_R => exact { inv with earRight := clamp_between _ _ _ (by decide) }
  case NECK_TILT => exact { inv with neckTilt := clamp_between _ _ _ (by decide) }
  case NECK_PITCH => exact { inv with neckPitch := clamp_between _ _ _ (by decide) }
  case EYE_L => exact { inv with eyeLeft := clamp_between _ _ _ (by decide) }
  case EYE_R => exact { inv with eyeRight := clamp_between _ _ _ (by decide) }
  case EYES_PITCH => exact { inv with eyesPitch := clamp_between _ _ _ (by decide) }
  case LID_L => exact { inv with lidLeft := clamp_between _ _ _ (by decide) }
  case LID_R => exact { inv with lidRight := clamp_between _ _ _ (by decide) }
  case EYES_OPEN =>
    refine { inv with eyesOpen := ?_ }
    simp only [Between, ofInt]
    split <;> norm_num

theorem axes_of_clamped (writes : List (Axis × ℚ)) : (axesOf writes).Clamped := by
  induction writes using List.reverseRecOn with
  | nil => exact init_clamped
  | append_singleton writes write ih =>
      rw [axesOf, List.foldl_append, ← axesOf, List.foldl_cons, List.foldl_nil]
      cases written : (axesOf writes).writeAxis write.1 write.2 with
      | none => exact ih
      | some after => exact write_axis_clamped _ after write.1 write.2 ih written

theorem scaled_between (lo hi scale : Int) (value : ℚ) (inside : Between lo hi value) (positive : 0 ≤ scale) :
    Between (lo * scale) (hi * scale) (value * scale) := by
  have factor : (0 : ℚ) ≤ scale := Int.cast_nonneg positive
  simp only [Between, Int.cast_mul]
  exact ⟨mul_le_mul_of_nonneg_right inside.1 factor, mul_le_mul_of_nonneg_right inside.2 factor⟩

theorem opened_between (hi : Int) (value eyesOpen : ℚ) (inside : Between 0 hi value) (opened : Between 0 1 eyesOpen) :
    Between 0 hi (value * eyesOpen) := by
  simp only [Between, Int.cast_zero, Int.cast_one] at inside opened ⊢
  exact ⟨mul_nonneg inside.1 opened.1, (mul_le_of_le_one_right inside.1 opened.2).trans inside.2⟩

def neckLeft (axes : Axes ℚ) : Int :=
  truncate (NECK_L_OFFSET - axes.neckTilt * NECK_TILT_SCALE + axes.neckPitch * NECK_PITCH_SCALE)

def neckRight (axes : Axes ℚ) : Int :=
  truncate (NECK_R_OFFSET + axes.neckTilt * NECK_TILT_SCALE + axes.neckPitch * NECK_PITCH_SCALE)

theorem neck_mot (axes : Axes ℚ) : neckLeftMot axes.neckTilt axes.neckPitch = some (neckLeft axes) ∧
    neckRightMot axes.neckTilt axes.neckPitch = some (neckRight axes) := ⟨rfl, rfl⟩

theorem neck_within (axes : Axes ℚ) (inv : axes.Clamped) :
    (65 ≤ neckLeft axes ∧ neckLeft axes ≤ 235) ∧ 185 ≤ neckRight axes ∧ neckRight axes ≤ 355 := by
  obtain ⟨tiltLow, tiltHigh⟩ := inv.neckTilt
  obtain ⟨pitchLow, pitchHigh⟩ := inv.neckPitch
  norm_num at tiltLow tiltHigh pitchLow pitchHigh
  apply And.intro
  · apply truncate_between 65 235
    simp only [Between, NECK_L_OFFSET, NECK_TILT_SCALE, NECK_PITCH_SCALE]
    norm_num
    exact ⟨by linarith, by linarith⟩
  · apply truncate_between 185 355
    simp only [Between, NECK_R_OFFSET, NECK_TILT_SCALE, NECK_PITCH_SCALE]
    norm_num
    exact ⟨by linarith, by linarith⟩

-- The fields of the motion packet.
def motionFields (axes : Axes ℚ) : List Int :=
  [truncate (axes.mouth * MOUTH_INPUT_SCALE), truncate (axes.earLeft * EARS_INPUT_SCALE),
    truncate (axes.earRight * EARS_INPUT_SCALE), truncate (axes.lidLeftWideness * axes.eyesOpen),
    truncate (axes.lidRightWideness * axes.eyesOpen), truncate axes.eyeLeft, truncate axes.eyeRight,
    truncate axes.eyesPitch, neckLeft axes, neckRight axes]

def ledFields (axes : Axes ℚ) : List Int := [axes.ledR, axes.ledG, axes.ledB, axes.ledL1, axes.ledL2]

theorem pack_motion_fields (axes : Axes ℚ) : packMotion axes (neckLeft axes) (neckRight axes) =
    mpPacker.pack ((motionFields axes).map Struct.Arg.int) := rfl

theorem pack_leds_fields (axes : Axes ℚ) : packLeds axes = ledsPacker.pack ((ledFields axes).map Struct.Arg.int) := rfl

-- The ears go from -127 to 127, and their fields are unsigned bytes.
theorem ear_fits (ear : ℚ) (inside : Between (-1) 1 ear) :
    (0 ≤ truncate (ear * EARS_INPUT_SCALE) ∧ truncate (ear * EARS_INPUT_SCALE) < 256) ↔ -1 / 127 < ear := by
  have high : truncate (ear * EARS_INPUT_SCALE) ≤ 127 :=
    (truncate_between (-127) 127 _ (scaled_between (-1) 1 127 ear inside (by decide))).2
  rw [and_iff_left (by omega), truncate_nonneg, EARS_INPUT_SCALE, div_lt_iff₀ (by norm_num)]
  norm_num

theorem pack_motion_iff (axes : Axes ℚ) (inv : axes.Clamped) :
    (packMotion axes (neckLeft axes) (neckRight axes)).isSome = true ↔
      -1 / 127 < axes.earLeft ∧ -1 / 127 < axes.earRight := by
  have mouth := truncate_between 0 255 _ (scaled_between 0 1 255 axes.mouth inv.mouth (by decide))
  have lidLeft := truncate_between 0 60 _ (opened_between _ _ _ inv.lidLeft inv.eyesOpen)
  have lidRight := truncate_between 0 60 _ (opened_between _ _ _ inv.lidRight inv.eyesOpen)
  have eyeLeft := truncate_between (-60) 60 _ inv.eyeLeft
  have eyeRight := truncate_between (-60) 60 _ inv.eyeRight
  have eyesPitch := truncate_between (-30) 30 _ inv.eyesPitch
  have neck := neck_within axes inv
  rw [pack_motion_fields, Struct.Format.pack, Struct.pack_from_iff, ← ear_fits _ inv.earLeft, ← ear_fits _ inv.earRight]
  simp only [mpPacker, motionFields, List.map_cons, List.map_nil, List.forall₂_cons, List.forall₂_nil_left_iff,
    and_true,
    Struct.pack_unsigned_byte_iff, Struct.pack_short_iff, MOUTH_INPUT_SCALE]
  apply Iff.intro
  · intro fits
    exact ⟨fits.2.1, fits.2.2.1⟩
  · intro ears
    refine ⟨?_, ears.1, ears.2, ?_⟩
    · omega
    · omega

theorem pack_leds_fits (axes : Axes ℚ) (inv : axes.Clamped) : (packLeds axes).isSome = true := by
  have ledR := inv.ledR
  have ledG := inv.ledG
  have ledB := inv.ledB
  have ledL1 := inv.ledL1
  have ledL2 := inv.ledL2
  rw [pack_leds_fields, Struct.Format.pack, Struct.pack_from_iff]
  simp only [ledsPacker, ledFields, List.map_cons, List.map_nil, List.forall₂_cons, List.forall₂_nil_left_iff,
    and_true,
    Struct.pack_short_iff]
  omega

def lastWritten (axis : Axis) (writes : List (Axis × ℚ)) : Option ℚ :=
  (writes.reverse.find? fun write => write.1 = axis).map Prod.snd

theorem last_written_snoc (axis : Axis) (writes : List (Axis × ℚ)) (write : Axis × ℚ) :
    lastWritten axis (writes ++ [write]) = if write.1 = axis then some write.2 else lastWritten axis writes := by
  rw [lastWritten, List.reverse_append, List.reverse_singleton, List.singleton_append, List.find?_cons]
  by_cases same : write.1 = axis <;> simp [same, lastWritten]

theorem last_written_mem (axis : Axis) (writes : List (Axis × ℚ)) (val : ℚ) (last : val ∈ lastWritten axis writes) :
    ∃ write ∈ writes, write.1 = axis := by
  obtain ⟨write, found, _⟩ := Option.map_eq_some_iff.mp last
  exact ⟨write, List.mem_reverse.mp (List.mem_of_find?_eq_some found), by simpa using List.find?_some found⟩

theorem write_axis_ok (axes : Axes ℚ) (axis : Axis) (val : ℚ) : ∃ after, axes.writeAxis axis val = some after := by
  cases axis <;> exact ⟨_, rfl⟩

-- An axis that only its own writes change has the value that the last of them left.
theorem axes_of_last (axis : Axis) (read : Axes ℚ → ℚ) (mapped : ℚ → ℚ)
    (own : ∀ (axes : Axes ℚ) (val : ℚ) (after : Axes ℚ), axes.writeAxis axis val = some after → read after = mapped val)
    (others : ∀ (axes : Axes ℚ) (other : Axis) (val : ℚ) (after : Axes ℚ), other ≠ axis →
      axes.writeAxis other val = some after → read after = read axes)
    (writes : List (Axis × ℚ)) : read (axesOf writes) = ((lastWritten axis writes).map mapped).getD (read .init) := by
  induction writes using List.reverseRecOn with
  | nil => rfl
  | append_singleton writes write ih =>
      obtain ⟨after, written⟩ := write_axis_ok (axesOf writes) write.1 write.2
      rw [HeadMcuDriver.axes_of_snoc writes write.1 write.2 after written, last_written_snoc]
      by_cases same : write.1 = axis
      · rw [if_pos same, Option.map_some, Option.getD_some]
        exact own _ write.2 after (same ▸ written)
      · rw [if_neg same, ← ih]
        exact others _ write.1 write.2 after same written

theorem ear_last (ear : Axis) (read : Axes ℚ → ℚ)
    (isEar : ear = .EAR_L ∧ read = Axes.earLeft ∨ ear = .EAR_R ∧ read = Axes.earRight) (writes : List (Axis × ℚ)) :
    read (axesOf writes) = ((lastWritten ear writes).map (clamp · (-1) 1)).getD 0 := by
  have ofLast := axes_of_last ear read (clamp · (-1) 1)
  rcases isEar with ⟨rfl, rfl⟩ | ⟨rfl, rfl⟩
  all_goals
    refine ofLast ?_ ?_ writes
    · intro axes val after written
      cases written
      rfl
    · intro axes other val after distinct written
      cases other <;> first | exact absurd rfl distinct | cases written; rfl

theorem ear_clamped (last : Option ℚ) :
    -1 / 127 < (last.map (clamp · (-1) 1)).getD (0 : ℚ) ↔ ∀ val ∈ last, -1 / 127 < val := by
  cases last with
  | none =>
      apply iff_of_true
      · norm_num
      · simp
  | some val =>
      simp only [Option.map_some, Option.getD_some, Option.mem_some_iff, forall_eq']
      rcases lt_or_ge val (-1 : Int) with below | inside
      · rw [clamp_below val (-1) 1 below]
        norm_num at below ⊢
        linarith
      rcases lt_or_ge ((1 : Int) : ℚ) val with above | within
      · rw [clamp_above val (-1) 1 inside above]
        norm_num at above ⊢
        linarith
      · rw [clamp_inside val (-1) 1 inside within]

namespace HeadMcuDriver

def writeAll (driver : HeadMcuDriver ℚ) (writes : List (Axis × ℚ)) : HeadMcuDriver ℚ :=
  writes.foldl (fun driver write => driver.write write.1 write.2) driver

-- A flush without writes meanwhile, up to the end of its packing phase; false
-- where the phase fails.
def packingPhase (driver : HeadMcuDriver ℚ) (broken : Packet → List UInt8) : HeadMcuDriver ℚ × Bool :=
  if driver.dirty .motion = false ∧ driver.dirty .leds = false then (driver, true)
  else
    match neckLeftMot driver.axes.neckTilt driver.axes.neckPitch,
      neckRightMot driver.axes.neckTilt driver.axes.neckPitch with
    | some neckLeft, some neckRight =>
        match driver.packInto .motion (packMotion driver.axes neckLeft neckRight) broken with
        | (driver, false) => (driver, false)
        | (driver, true) => driver.packInto .leds (packLeds driver.axes) broken
    | _, _ => (driver, false)

theorem write_all_snoc (driver : HeadMcuDriver ℚ) (writes : List (Axis × ℚ)) (write : Axis × ℚ) :
    driver.writeAll (writes ++ [write]) = (driver.writeAll writes).write write.1 write.2 := by
  simp only [writeAll, List.foldl_append, List.foldl_cons, List.foldl_nil]

theorem write_ok (driver : HeadMcuDriver ℚ) (axis : Axis) (val : ℚ) :
    ∃ after, driver.axes.writeAxis axis val = some after ∧ (driver.write axis val).axes = after ∧
      ∀ packet, (driver.write axis val).dirty packet = (driver.dirty packet || decide (packet = axis.packet)) := by
  obtain ⟨after, written⟩ := write_axis_ok driver.axes axis val
  refine ⟨after, written, ?_, ?_⟩
  · simp only [write, written, setDirty]
  · intro packet
    simp only [write, written, setDirty]
    by_cases same : packet = axis.packet <;> simp [same]

theorem write_all_axes (writes : List (Axis × ℚ)) : (writeAll .init writes).axes = axesOf writes := by
  induction writes using List.reverseRecOn with
  | nil => rfl
  | append_singleton writes write ih =>
      obtain ⟨after, written, axes, _⟩ := write_ok (writeAll .init writes) write.1 write.2
      rw [write_all_snoc, axes, axes_of_snoc writes write.1 write.2 after (ih ▸ written)]

theorem write_all_dirty (writes : List (Axis × ℚ)) (packet : Packet) :
    (writeAll .init writes).dirty packet = writes.any fun write => decide (packet = write.1.packet) := by
  induction writes using List.reverseRecOn with
  | nil => rfl
  | append_singleton writes write ih =>
      obtain ⟨after, _, _, dirty⟩ := write_ok (writeAll .init writes) write.1 write.2
      rw [write_all_snoc, dirty packet, ih, List.any_append, List.any_cons, List.any_nil, Bool.or_false]

theorem packing_phase_iff (driver : HeadMcuDriver ℚ) (broken : Packet → List UInt8) (inv : driver.axes.Clamped) :
    (driver.packingPhase broken).2 = true ↔
      (driver.dirty .motion = true → -1 / 127 < driver.axes.earLeft ∧ -1 / 127 < driver.axes.earRight) := by
  rw [← pack_motion_iff driver.axes inv]
  obtain ⟨ledBytes, leds⟩ := Option.isSome_iff_exists.mp (pack_leds_fits driver.axes inv)
  obtain ⟨left, right⟩ := neck_mot driver.axes
  cases motion : driver.dirty .motion with
  | false => cases lit : driver.dirty .leds <;> simp [packingPhase, packInto, motion, lit, left, right, leds]
  | true =>
      cases packed : packMotion driver.axes (neckLeft driver.axes) (neckRight driver.axes) with
      | none => simp [packingPhase, packInto, motion, left, right, packed]
      | some bytes =>
          cases lit : driver.dirty .leds <;>
            simp [packingPhase, packInto, motion, lit, left, right, leds, packed, setBuffer]

def advances (driver : HeadMcuDriver ℚ) (broken : Packet → List UInt8) : Nat → Option (HeadMcuDriver ℚ)
  | 0 => some driver
  | moves + 1 => (driver.advance .success broken).bind fun next => next.advances broken moves

-- The driver where flush, with nothing written meanwhile, has come to pack.
def beforePacking (driver : HeadMcuDriver ℚ) : HeadMcuDriver ℚ :=
  { driver with
    pc := .pack (neckLeft driver.axes) (neckRight driver.axes)
    begunSince := true }

theorem flush_advances (driver : HeadMcuDriver ℚ) (broken : Packet → List UInt8)
    (dirty : driver.dirty .motion = true ∨ driver.dirty .leds = true) :
    ∃ moves, driver.flush.advances broken moves =
      some (driver.beforePacking.packPhase (neckLeft driver.axes) (neckRight driver.axes) broken) := by
  obtain ⟨left, right⟩ := neck_mot driver.axes
  cases motion : driver.dirty .motion with
  | true =>
      refine ⟨5, ?_⟩
      simp only [advances, flush, motion, if_true, advance, left, right, Option.bind_some, beforePacking]
  | false =>
      have lit : driver.dirty .leds = true := by simpa [motion] using dirty
      refine ⟨6, ?_⟩
      simp [advances, flush, motion, lit, advance, left, right, beforePacking]

-- It goes on to the sends if the packing phase succeeds, and returns if it fails.
theorem flush_packing_phase (driver : HeadMcuDriver ℚ) (broken : Packet → List UInt8)
    (dirty : driver.dirty .motion = true ∨ driver.dirty .leds = true) :
    ∃ moves after, driver.flush.advances broken moves = some after ∧
      after.pc = if (driver.packingPhase broken).2 then .test .motion else .idle := by
  obtain ⟨moves, advanced⟩ := flush_advances driver broken dirty
  refine ⟨moves, _, advanced, ?_⟩
  obtain ⟨left, right⟩ := neck_mot driver.axes
  cases motion : driver.dirty .motion with
  | false =>
      have lit : driver.dirty .leds = true := by simpa [motion] using dirty
      cases leds : packLeds driver.axes <;>
        simp [beforePacking, packPhase, packingPhase, packInto, motion, lit, left, right, leds, complete]
  | true =>
      cases packed : packMotion driver.axes (neckLeft driver.axes) (neckRight driver.axes) with
      | none => simp [beforePacking, packPhase, packingPhase, packInto, motion, left, right, packed, complete]
      | some bytes =>
          cases lit : driver.dirty .leds <;> cases leds : packLeds driver.axes <;>
            simp [beforePacking, packPhase, packingPhase, packInto, motion, lit, left, right, leds, packed, setBuffer,
              complete]

theorem next_flush_packs (writes : List (Axis × ℚ)) (broken : Packet → List UInt8) :
    ((writeAll .init writes).packingPhase broken).2 = true ↔
      ∀ ear ∈ [Axis.EAR_L, Axis.EAR_R], ∀ val ∈ lastWritten ear writes, -1 / 127 < val := by
  have clamped := axes_of_clamped writes
  rw [packing_phase_iff _ broken (write_all_axes writes ▸ clamped), write_all_axes,
    ear_last .EAR_L Axes.earLeft (.inl ⟨rfl, rfl⟩), ear_last .EAR_R Axes.earRight (.inr ⟨rfl, rfl⟩), ear_clamped, ear_clamped, write_all_dirty]
  simp only [List.mem_cons, List.not_mem_nil, or_false, forall_eq_or_imp, forall_eq]
  apply Iff.intro
  · intro packs
    -- A write of an ear makes the motion packet dirty.
    have dirty (ear : Axis) (motion : ear.packet = .motion) (val : ℚ) (last : val ∈ lastWritten ear writes) :
        (writes.any fun write => decide (Packet.motion = write.1.packet)) = true := by
      obtain ⟨write, member, same⟩ := last_written_mem ear writes val last
      exact List.any_eq_true.mpr ⟨write, member, decide_eq_true (same ▸ motion).symm⟩
    apply And.intro
    · intro val last
      exact (packs (dirty .EAR_L rfl val last)).1 val last
    · intro val last
      exact (packs (dirty .EAR_R rfl val last)).2 val last
  · intro ears _
    exact ears

-- Both ears are documented to go down to -1.
theorem ear_back_never_packs : ((writeAll .init [(.EAR_L, -1)]).packingPhase fun _ => []).2 = false := by
  decide +kernel

end HeadMcuDriver

end Animacharacter.Mcudrivers
