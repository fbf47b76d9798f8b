import Mathlib.Data.List.Induction
import Mathlib.Algebra.Group.Nat.Defs

set_option autoImplicit false

namespace BigEndian

-- The lowest `width` base-256 digits of a number, the most significant first.
def toBytes : Nat → Nat → List UInt8
  | 0, _ => []
  | width + 1, value => toBytes width (value / 256) ++ [UInt8.ofNat value]

def fromBytes (bytes : List UInt8) : Nat := bytes.foldl (fun value byte => value * 256 + byte.toNat) 0

@[simp] theorem to_bytes_length (width value : Nat) : (toBytes width value).length = width := by
  induction width generalizing value with
  | zero => rfl
  | succ width ih =>
      rw [toBytes, List.length_append, ih]
      rfl

theorem from_bytes_snoc (bytes : List UInt8) (byte : UInt8) :
    fromBytes (bytes ++ [byte]) = fromBytes bytes * 256 + byte.toNat := by
  simp only [fromBytes, List.foldl_append, List.foldl_cons, List.foldl_nil]

theorem from_to_bytes (width value : Nat) (bound : value < 256 ^ width) : fromBytes (toBytes width value) = value := by
  induction width generalizing value with
  | zero =>
      have zero : value = 0 := Nat.lt_one_iff.mp bound
      rw [zero]
      rfl
  | succ width ih =>
      have quotient : value / 256 < 256 ^ width := by
        rw [Nat.pow_succ, Nat.mul_comm] at bound
        exact Nat.div_lt_of_lt_mul bound
      rw [toBytes, from_bytes_snoc, ih (value / 256) quotient, UInt8.toNat_ofNat']
      omega

theorem from_bytes_bound (bytes : List UInt8) : fromBytes bytes < 256 ^ bytes.length := by
  induction bytes using List.reverseRecOn with
  | nil => exact Nat.one_pos
  | append_singleton bytes byte ih =>
      have digit := byte.toNat_lt
      rw [from_bytes_snoc, List.length_append, List.length_singleton, Nat.pow_succ]
      omega

theorem to_from_bytes (bytes : List UInt8) : toBytes bytes.length (fromBytes bytes) = bytes := by
  induction bytes using List.reverseRecOn with
  | nil => rfl
  | append_singleton bytes byte ih =>
      have digit := byte.toNat_lt
      have high : (fromBytes bytes * 256 + byte.toNat) / 256 = fromBytes bytes := by omega
      have low : UInt8.ofNat (fromBytes bytes * 256 + byte.toNat) = byte := by
        apply UInt8.toNat_inj.mp
        rw [UInt8.toNat_ofNat']
        omega
      rw [from_bytes_snoc, List.length_append, List.length_singleton, toBytes, high, low, ih]

end BigEndian
