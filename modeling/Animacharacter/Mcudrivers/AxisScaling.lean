import Mathlib.Tactic.NormNum
import Animacharacter.Mcudrivers.PacketRanges

set_option autoImplicit false

namespace Animacharacter.Mcudrivers

open PyNumber

-- The axes that are written with brightness or wideness from 0 to 1, with the
-- place of their field in the packet and its full scale.
def scaledField : Axis → Option (Nat × Int)
  | .LED_R => some (0, 4095)
  | .LED_G => some (1, 4095)
  | .LED_B => some (2, 4095)
  | .LED_L1 => some (3, 255)
  | .LED_L2 => some (4, 255)
  | .LID_L => some (3, LID_WIDENESS_MAX_DEG)
  | .LID_R => some (4, LID_WIDENESS_MAX_DEG)
  | _ => none

def Packet.format : Packet → Struct.Format
  | .motion => mpPacker
  | .leds => ledsPacker

def Packet.fields : Packet → Axes ℚ → List Int
  | .motion => motionFields
  | .leds => ledFields

def transmitted (packet : Packet) (bytes : List UInt8) (place : Nat) : Option Struct.Arg :=
  (packet.format.unpackFrom bytes 0).bind fun args => args[place]?

theorem encode_fields (packet : Packet) (axes : Axes ℚ) :
    encode packet axes = packet.format.pack ((packet.fields axes).map Struct.Arg.int) := by
  cases packet with
  | motion => exact pack_motion_fields axes
  | leds => exact pack_leds_fields axes

theorem transmitted_encode (packet : Packet) (axes : Axes ℚ) (bytes : List UInt8) (place : Nat)
    (encoded : encode packet axes = some bytes) :
    transmitted packet bytes place = ((packet.fields axes)[place]?).map Struct.Arg.int := by
  have packed := encode_fields packet axes ▸ encoded
  have unpacked := Struct.Format.unpack_pack packet.format ((packet.fields axes).map Struct.Arg.int) [] bytes [] packed
  rw [List.nil_append, List.append_nil, List.length_nil] at unpacked
  rw [transmitted, unpacked, Option.bind_some, List.getElem?_map]

-- Below 1 the duty is cut off before it is scaled, and at 1 it is capped at 1.
theorem topwm_unit (val : ℚ) (scale : Int) (low : 0 ≤ val) (high : val ≤ 1) (positive : 0 < scale) :
    min (max (truncate val * scale) 0) 1 = if val < 1 then 0 else 1 := by
  rw [truncate_floor val low]
  split
  · rename_i below
    have zero : ⌊val⌋ = 0 := Int.floor_eq_zero_iff.mpr ⟨low, below⟩
    simp [zero]
  · rename_i above
    have one : val = 1 := le_antisymm high (not_lt.mp above)
    rw [one, Int.floor_one, one_mul]
    omega

theorem lid_unit (val : ℚ) (low : 0 ≤ val) (high : val ≤ 1) :
    truncate (clamp (val * (1 / 2)) 0 LID_WIDENESS_MAX_DEG * 1) = 0 := by
  have wideness : clamp (val * (1 / 2)) 0 LID_WIDENESS_MAX_DEG = val * (1 / 2) := by
    apply clamp_inside
    · simpa using low
    · norm_num [LID_WIDENESS_MAX_DEG]
      linarith
  rw [wideness, mul_one, truncate_floor _ (by linarith)]
  exact Int.floor_eq_zero_iff.mpr ⟨by linarith, by linarith⟩

theorem written_field (axes after : Axes ℚ) (axis : Axis) (place : Nat) (scale : Int)
    (scaled : scaledField axis = some (place, scale)) (val : ℚ) (low : 0 ≤ val) (high : val ≤ 1)
    (opened : axis.packet = .motion → axes.eyesOpen = 1) (written : axes.writeAxis axis val = some after) :
    ∃ field, (axis.packet.fields after)[place]? = some field ∧ (field = 0 ∨ field = 1 ∧ val = 1) := by
  have led (full : Int) (positive : 0 < full) : min (max (truncate val * full) 0) 1 = 0 ∨
      min (max (truncate val * full) 0) 1 = 1 ∧ val = 1 := by
    rw [topwm_unit val full low high positive]
    split
    · exact .inl rfl
    · rename_i above
      exact .inr ⟨rfl, le_antisymm high (not_lt.mp above)⟩
  have lid (eyesOpen : ℚ) (open_ : eyesOpen = 1) :
      truncate (clamp (val * (1 / 2)) 0 LID_WIDENESS_MAX_DEG * eyesOpen) = 0 := by
    rw [open_]
    exact lid_unit val low high
  cases axis <;> cases scaled <;> cases written
  case LED_R => exact ⟨_, rfl, led 4095 (by decide)⟩
  case LED_G => exact ⟨_, rfl, led 4095 (by decide)⟩
  case LED_B => exact ⟨_, rfl, led 4095 (by decide)⟩
  case LED_L1 => exact ⟨_, rfl, led 255 (by decide)⟩
  case LED_L2 => exact ⟨_, rfl, led 255 (by decide)⟩
  case LID_L => exact ⟨_, rfl, .inl (lid axes.eyesOpen (opened rfl))⟩
  case LID_R => exact ⟨_, rfl, .inl (lid axes.eyesOpen (opened rfl))⟩

-- Such a field is the scaled value only where that is below 1.
theorem field_scaled_iff (val : ℚ) (scale field : Int) (low : 0 ≤ val) (large : 1 < scale)
    (cut : field = 0 ∨ field = 1 ∧ val = 1) : field = ⌊val * scale⌋ ↔ val < 1 / scale := by
  have factor : (1 : ℚ) < scale := by exact_mod_cast large
  have positive : (0 : ℚ) < scale := by linarith
  rcases cut with zero | ⟨one, top⟩
  · rw [zero, eq_comm, Int.floor_eq_zero_iff, Set.mem_Ico, and_iff_right (mul_nonneg low positive.le),
      lt_div_iff₀ positive]
  · rw [one, top, one_mul, Int.floor_intCast, lt_div_iff₀ positive, one_mul]
    apply iff_of_false
    · omega
    · linarith

namespace HeadMcuDriver

theorem pack_into_packed (driver : HeadMcuDriver ℚ) (packet : Packet) (packed : Option (List UInt8))
    (broken : Packet → List UInt8) (dirty : driver.dirty packet = true)
    (packs : (driver.packInto packet packed broken).2 = true) :
    packed = some ((driver.packInto packet packed broken).1.buffer packet) := by
  cases packed with
  | none => simp [packInto, dirty] at packs
  | some bytes => simp [packInto, dirty, setBuffer]

theorem pack_into_frame (driver : HeadMcuDriver ℚ) (packet other : Packet) (packed : Option (List UInt8))
    (broken : Packet → List UInt8) (apart : other ≠ packet) :
    let after := (driver.packInto packet packed broken).1
    after.axes = driver.axes ∧ after.dirty = driver.dirty ∧ after.buffer other = driver.buffer other := by
  simp only [packInto]
  split
  · cases packed with
    | none => simp [setBuffer, apart]
    | some bytes => simp [setBuffer, apart]
  · exact ⟨rfl, rfl, rfl⟩

theorem packing_phase_buffer (driver : HeadMcuDriver ℚ) (broken : Packet → List UInt8) (packet : Packet)
    (dirty : driver.dirty packet = true) (packs : (driver.packingPhase broken).2 = true) :
    encode packet driver.axes = some ((driver.packingPhase broken).1.buffer packet) := by
  obtain ⟨left, right⟩ := neck_mot driver.axes
  have some_dirty : ¬ (driver.dirty .motion = false ∧ driver.dirty .leds = false) := by
    intro clean
    cases packet with
    | motion => rw [clean.1] at dirty; cases dirty
    | leds => rw [clean.2] at dirty; cases dirty
  rw [packingPhase, if_neg some_dirty] at packs ⊢
  simp only [left, right] at packs ⊢
  have motion := pack_into_packed driver .motion (packMotion driver.axes (neckLeft driver.axes) (neckRight driver.axes))
    broken
  obtain ⟨sameAxes, sameDirty, _⟩ := pack_into_frame driver .motion .leds
    (packMotion driver.axes (neckLeft driver.axes) (neckRight driver.axes)) broken (by decide)
  cases first : driver.packInto .motion (packMotion driver.axes (neckLeft driver.axes) (neckRight driver.axes)) broken with
  | mk next packed =>
      rw [first] at packs motion sameAxes sameDirty
      cases packed with
      | false => cases packs
      | true =>
          cases packet with
          | motion =>
              obtain ⟨_, _, kept⟩ := pack_into_frame next .leds .motion (packLeds next.axes) broken (by decide)
              simp only [encode, left, right]
              rw [kept]
              exact motion dirty rfl
          | leds =>
              rw [← sameAxes]
              exact pack_into_packed next .leds (packLeds next.axes) broken (sameDirty ▸ dirty) packs

-- The field is the scaled value exactly where that is cut off to 0.
theorem scaled_field_iff (driver : HeadMcuDriver ℚ) (axis : Axis) (place : Nat) (scale : Int)
    (scaled : scaledField axis = some (place, scale)) (val : ℚ) (low : 0 ≤ val) (high : val ≤ 1)
    (opened : axis.packet = .motion → driver.axes.eyesOpen = 1) (broken : Packet → List UInt8)
    (packs : ((driver.write axis val).packingPhase broken).2 = true) :
    transmitted axis.packet (((driver.write axis val).packingPhase broken).1.buffer axis.packet) place =
      some (.int ⌊val * scale⌋) ↔ val < 1 / scale := by
  obtain ⟨after, written, axes, marked⟩ := write_ok driver axis val
  obtain ⟨field, found, cut⟩ := written_field driver.axes after axis place scale scaled val low high opened written
  have dirty : (driver.write axis val).dirty axis.packet = true := by
    rw [marked axis.packet]
    simp
  have encoded := packing_phase_buffer (driver.write axis val) broken axis.packet dirty packs
  rw [axes] at encoded
  have large : 1 < scale := by
    cases axis <;> cases scaled <;> decide
  rw [transmitted_encode axis.packet after _ place encoded, found, ← field_scaled_iff val scale field low large cut]
  simp

theorem scaled_field_dark : transmitted .leds
    (((init.write .LED_R 0).packingPhase fun _ => []).1.buffer .leds) 0 = some (.int ⌊(0 : ℚ) * 4095⌋) :=
  (scaled_field_iff .init .LED_R 0 4095 rfl 0 (by decide) (by decide) (fun motion => by cases motion) (fun _ => [])
    (by decide +kernel)).mpr (by norm_num)

-- At the upper end LEDs come out at 1 and lids closed.
theorem full_scale_not_transmitted :
    transmitted .leds (((init.write .LED_R 1).packingPhase fun _ => []).1.buffer .leds) 0 = some (.int 1) ∧
      transmitted .leds (((init.write .LED_L1 1).packingPhase fun _ => []).1.buffer .leds) 3 = some (.int 1) ∧
      transmitted .motion (((init.write .LID_L (1 : ℚ)).packingPhase fun _ => []).1.buffer .motion) 3 = some (.int 0) ∧
      transmitted .leds (((init.write .LED_R 1).packingPhase fun _ => []).1.buffer .leds) 0 ≠
        some (.int ⌊(1 : ℚ) * 4095⌋) := by
  decide +kernel

end HeadMcuDriver

end Animacharacter.Mcudrivers
