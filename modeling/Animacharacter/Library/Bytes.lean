import Mathlib.Data.List.Basic
import Mathlib.Algebra.Group.Nat.Defs

set_option autoImplicit false

namespace Bytes

def le32 (value : Nat) : List UInt8 :=
  [UInt8.ofNat value, UInt8.ofNat (value / 2 ^ 8), UInt8.ofNat (value / 2 ^ 16), UInt8.ofNat (value / 2 ^ 24)]

def byteAt (bytes : List UInt8) (index : Nat) : Nat := (bytes.getD index 0).toNat

def rd32 (bytes : List UInt8) : Nat :=
  byteAt bytes 0 + byteAt bytes 1 * 2 ^ 8 + byteAt bytes 2 * 2 ^ 16 + byteAt bytes 3 * 2 ^ 24

@[simp] theorem le32_length (value : Nat) : (le32 value).length = 4 := rfl

theorem rd32_le32 (value : Nat) (rest : List UInt8) (bound : value < 2 ^ 32) : rd32 (le32 value ++ rest) = value := by
  simp only [rd32, byteAt, le32, List.cons_append, List.getD_cons_zero, List.getD_cons_succ, UInt8.toNat_ofNat']
  omega

theorem drop_le32 (value : Nat) (rest : List UInt8) : (le32 value ++ rest).drop 4 = rest := rfl

-- memcpy(buffer + offset, data, length of data)
def writeAt (buffer : List UInt8) (offset : Nat) (data : List UInt8) : List UInt8 :=
  buffer.take offset ++ data ++ buffer.drop (offset + data.length)

theorem write_at_length (buffer data : List UInt8) (offset : Nat) (fits : offset + data.length ≤ buffer.length) :
    (writeAt buffer offset data).length = buffer.length := by
  simp only [writeAt, List.length_append, List.length_take, List.length_drop]
  omega

theorem write_at_nothing (buffer : List UInt8) (offset : Nat) : writeAt buffer offset [] = buffer := by
  rw [writeAt, List.append_nil, List.length_nil, Nat.add_zero, List.take_append_drop]

def Agree (left right : List UInt8) (offset count : Nat) : Prop :=
  ∀ index, offset ≤ index → index < offset + count → left[index]? = right[index]?

theorem write_at_inside (buffer data : List UInt8) (offset index : Nat) (fits : offset + data.length ≤ buffer.length)
    (lower : offset ≤ index) (upper : index < offset + data.length) :
    (writeAt buffer offset data)[index]? = data[index - offset]? := by
  have headLength : (buffer.take offset).length = offset := by
    rw [List.length_take]
    omega
  rw [writeAt, List.append_assoc, List.getElem?_append_right (by omega), headLength,
    List.getElem?_append_left (by omega)]

theorem write_at_outside (buffer data : List UInt8) (offset index : Nat) (fits : offset + data.length ≤ buffer.length)
    (outside : index < offset ∨ offset + data.length ≤ index) :
    (writeAt buffer offset data)[index]? = buffer[index]? := by
  have headLength : (buffer.take offset).length = offset := by
    rw [List.length_take]
    omega
  rw [writeAt, List.append_assoc]
  rcases outside with before | after
  · rw [List.getElem?_append_left (by omega), List.getElem?_take_of_lt before]
  · rw [List.getElem?_append_right (by omega), headLength, List.getElem?_append_right (by omega), List.getElem?_drop]
    congr 1
    omega

-- Writing a piece of `source` at its own offset only ever increases agreement.
theorem write_at_agrees (buffer source : List UInt8) (offset count : Nat)
    (inside : offset + count ≤ source.length) (fits : offset + count ≤ buffer.length) :
    Agree (writeAt buffer offset ((source.drop offset).take count)) source offset count := by
  intro index lower upper
  have size : ((source.drop offset).take count).length = count := by
    rw [List.length_take, List.length_drop]
    omega
  rw [write_at_inside buffer _ offset index (by omega) lower (by omega), List.getElem?_take_of_lt (by omega),
    List.getElem?_drop]
  congr 1
  omega

theorem write_at_keeps_agreement (buffer source : List UInt8) (offset count start length : Nat)
    (inside : offset + count ≤ source.length) (fits : offset + count ≤ buffer.length)
    (agreed : Agree buffer source start length) :
    Agree (writeAt buffer offset ((source.drop offset).take count)) source start length := by
  intro index lower upper
  have size : ((source.drop offset).take count).length = count := by
    rw [List.length_take, List.length_drop]
    omega
  by_cases hit : offset ≤ index ∧ index < offset + count
  · exact write_at_agrees buffer source offset count inside fits index hit.1 hit.2
  · rw [write_at_outside buffer _ offset index (by omega) (by omega)]
    exact agreed index lower upper

theorem agree_join (left right : List UInt8) (middle count : Nat)
    (first : Agree left right 0 middle) (second : Agree left right middle count) :
    Agree left right 0 (middle + count) := by
  intro index lower upper
  by_cases early : index < middle
  · exact first index lower (by omega)
  · exact second index (by omega) (by omega)

theorem agree_take (left right : List UInt8) (agreed : Agree left right 0 right.length) :
    left.take right.length = right := by
  apply List.ext_getElem?
  intro index
  by_cases inside : index < right.length
  · rw [List.getElem?_take_of_lt inside]
    exact agreed index (Nat.zero_le _) (by omega)
  · rw [List.getElem?_eq_none (by rw [List.length_take]; omega), List.getElem?_eq_none (by omega)]

end Bytes
