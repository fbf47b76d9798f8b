import Mathlib.Algebra.Group.Int.Defs
import Mathlib.Data.List.Forall2
import Animacharacter.Library.BigEndian
import Animacharacter.Library.Bytes

set_option autoImplicit false

namespace Struct

open BigEndian Bytes

inductive ByteOrder where
  | little
  | big
deriving DecidableEq, Repr

namespace ByteOrder

def write (order : ByteOrder) (width value : Nat) : List UInt8 :=
  match order with
  | .little => (toBytes width value).reverse
  | .big => toBytes width value

def read (order : ByteOrder) (bytes : List UInt8) : Nat :=
  match order with
  | .little => fromBytes bytes.reverse
  | .big => fromBytes bytes

@[simp] theorem write_length (order : ByteOrder) (width value : Nat) : (order.write width value).length = width := by
  cases order <;> simp [write]

theorem read_write (order : ByteOrder) (width value : Nat) (bound : value < 256 ^ width) :
    order.read (order.write width value) = value := by
  cases order <;> simp [read, write, from_to_bytes width value bound]

theorem read_bound (order : ByteOrder) (bytes : List UInt8) : order.read bytes < 256 ^ bytes.length := by
  cases order with
  | little =>
      have bound := from_bytes_bound bytes.reverse
      rwa [List.length_reverse] at bound
  | big => exact from_bytes_bound bytes

end ByteOrder

inductive Code where
  | B
  | H
  | h
  | f
deriving DecidableEq, Repr

-- A float is the bits that it has as a float32.
inductive Arg where
  | int (value : Int)
  | float32 (bits : UInt32)
deriving DecidableEq, Repr

def Code.size : Code → Nat
  | .B => 1
  | .H | .h => 2
  | .f => 4

-- Without a mark or with "@" each field is aligned to its size, the bytes in
-- between are zero, and the order is the machine's.
structure Format where
  aligned : Bool
  order : ByteOrder
  codes : List Code

-- `none` stands for struct.error.
def packField (order : ByteOrder) : Code → Arg → Option (List UInt8)
  | .B, .int value => if 0 ≤ value ∧ value < 2 ^ 8 then some (order.write 1 value.toNat) else none
  | .H, .int value => if 0 ≤ value ∧ value < 2 ^ 16 then some (order.write 2 value.toNat) else none
  | .h, .int value =>
      if -2 ^ 15 ≤ value ∧ value < 2 ^ 15 then some (order.write 2 (value % 2 ^ 16).toNat) else none
  | .f, .float32 bits => some (order.write 4 bits.toNat)
  | _, _ => none

def readField (order : ByteOrder) (code : Code) (bytes : List UInt8) : Arg :=
  match code with
  | .B | .H => .int (order.read bytes)
  | .h => .int (if order.read bytes < 2 ^ 15 then order.read bytes else order.read bytes - 2 ^ 16)
  | .f => .float32 (UInt32.ofNat (order.read bytes))

def gap (aligned : Bool) (offset : Nat) (code : Code) : Nat :=
  if aligned then (code.size - offset % code.size) % code.size else 0

def sizeFrom (aligned : Bool) : Nat → List Code → Nat
  | offset, [] => offset
  | offset, code :: codes => sizeFrom aligned (offset + gap aligned offset code + code.size) codes

def packFrom (aligned : Bool) (order : ByteOrder) : Nat → List Code → List Arg → Option (List UInt8)
  | _, [], [] => some []
  | offset, code :: codes, arg :: args => do
      let field ← packField order code arg
      let rest ← packFrom aligned order (offset + gap aligned offset code + code.size) codes args
      return List.replicate (gap aligned offset code) 0 ++ field ++ rest
  | _, _, _ => none

def readFrom (aligned : Bool) (order : ByteOrder) : Nat → List Code → List UInt8 → List Arg
  | _, [], _ => []
  | offset, code :: codes, bytes =>
      let inner := bytes.drop (gap aligned offset code)
      readField order code (inner.take code.size) ::
        readFrom aligned order (offset + gap aligned offset code + code.size) codes (inner.drop code.size)

namespace Format

def calcsize (format : Format) : Nat := sizeFrom format.aligned 0 format.codes

def pack (format : Format) (args : List Arg) : Option (List UInt8) := packFrom format.aligned format.order 0 format.codes args

def packInto (format : Format) (buffer : List UInt8) (offset : Nat) (args : List Arg) : Option (List UInt8) :=
  match format.pack args with
  | none => none
  | some bytes => if offset + bytes.length ≤ buffer.length then some (writeAt buffer offset bytes) else none

def unpackFrom (format : Format) (buffer : List UInt8) (offset : Nat) : Option (List Arg) :=
  if offset + format.calcsize ≤ buffer.length then
    some (readFrom format.aligned format.order 0 format.codes (buffer.drop offset))
  else none

end Format

theorem pack_field_length (order : ByteOrder) (code : Code) (arg : Arg) (field : List UInt8)
    (packed : packField order code arg = some field) : field.length = code.size := by
  cases code <;> cases arg <;> simp only [packField, Option.ite_none_right_eq_some, Option.some.injEq, reduceCtorEq] at packed
  case f.float32 => rw [← packed, ByteOrder.write_length, Code.size]
  all_goals rw [← packed.2, ByteOrder.write_length, Code.size]

theorem read_pack_field (order : ByteOrder) (code : Code) (arg : Arg) (field : List UInt8)
    (packed : packField order code arg = some field) : readField order code field = arg := by
  cases code <;> cases arg <;> simp only [packField, Option.ite_none_right_eq_some, Option.some.injEq, reduceCtorEq] at packed
  case f.float32 bits =>
    rw [← packed, readField, ByteOrder.read_write _ _ _ bits.toNat_lt, UInt32.ofNat_toNat]
  case B.int value =>
    obtain ⟨range, rfl⟩ := packed
    simp only [readField]
    rw [ByteOrder.read_write _ _ _ (by omega)]
    congr 1
    omega
  case H.int value =>
    obtain ⟨range, rfl⟩ := packed
    simp only [readField]
    rw [ByteOrder.read_write _ _ _ (by omega)]
    congr 1
    omega
  case h.int value =>
    obtain ⟨range, rfl⟩ := packed
    simp only [readField]
    rw [ByteOrder.read_write _ _ _ (by omega)]
    congr 1
    split <;> omega

theorem pack_unsigned_byte_iff (order : ByteOrder) (value : Int) :
    (packField order .B (.int value)).isSome = true ↔ 0 ≤ value ∧ value < 256 := by
  rw [packField, Option.isSome_ite]
  omega

theorem pack_short_iff (order : ByteOrder) (value : Int) :
    (packField order .h (.int value)).isSome = true ↔ -32768 ≤ value ∧ value < 32768 := by
  rw [packField, Option.isSome_ite]
  omega

theorem pack_from_iff (aligned : Bool) (order : ByteOrder) (codes : List Code) (args : List Arg) (offset : Nat) :
    (packFrom aligned order offset codes args).isSome = true ↔
      List.Forall₂ (fun code arg => (packField order code arg).isSome = true) codes args := by
  induction codes generalizing args offset with
  | nil => cases args <;> simp [packFrom]
  | cons code codes ih =>
      cases args with
      | nil => simp [packFrom]
      | cons arg args =>
          have later := ih args (offset + gap aligned offset code + code.size)
          rw [List.forall₂_cons, ← later]
          cases field : packField order code arg <;> simp [packFrom, field]
          cases packFrom aligned order (offset + gap aligned offset code + code.size) codes args <;> simp

-- Packing a list of fields needs an argument for the first one, which comes
-- behind its gap and before the others.
theorem pack_from_cons (aligned : Bool) (order : ByteOrder) (code : Code) (codes : List Code) (args : List Arg)
    (offset : Nat) (bytes : List UInt8) (packed : packFrom aligned order offset (code :: codes) args = some bytes) :
    ∃ arg others field rest, args = arg :: others ∧ packField order code arg = some field ∧
      packFrom aligned order (offset + gap aligned offset code + code.size) codes others = some rest ∧
      bytes = List.replicate (gap aligned offset code) 0 ++ field ++ rest := by
  cases args with
  | nil => cases packed
  | cons arg others =>
      simp only [packFrom, Option.bind_eq_bind, Option.bind_eq_some_iff, Option.pure_def, Option.some.injEq] at packed
      obtain ⟨field, first, rest, later, made⟩ := packed
      exact ⟨arg, others, field, rest, rfl, first, later, made.symm⟩

theorem pack_from_length (aligned : Bool) (order : ByteOrder) (codes : List Code) (args : List Arg) (offset : Nat)
    (bytes : List UInt8) (packed : packFrom aligned order offset codes args = some bytes) :
    offset + bytes.length = sizeFrom aligned offset codes := by
  induction codes generalizing args offset bytes with
  | nil =>
      cases args with
      | nil =>
          cases packed
          rfl
      | cons arg args => cases packed
  | cons code codes ih =>
      obtain ⟨arg, others, field, rest, rfl, first, later, rfl⟩ :=
        pack_from_cons aligned order code codes args offset bytes packed
      rw [sizeFrom, ← ih others _ rest later, List.length_append, List.length_append, List.length_replicate,
        pack_field_length order code arg field first]
      omega

theorem read_pack_from (aligned : Bool) (order : ByteOrder) (codes : List Code) (args : List Arg) (offset : Nat)
    (bytes after : List UInt8) (packed : packFrom aligned order offset codes args = some bytes) :
    readFrom aligned order offset codes (bytes ++ after) = args := by
  induction codes generalizing args offset bytes with
  | nil =>
      cases args with
      | nil => rfl
      | cons arg args => cases packed
  | cons code codes ih =>
      obtain ⟨arg, others, field, rest, rfl, first, later, rfl⟩ :=
        pack_from_cons aligned order code codes args offset bytes packed
      have size := pack_field_length order code arg field first
      have inner : (List.replicate (gap aligned offset code) 0 ++ field ++ rest ++ after).drop (gap aligned offset code) =
          field ++ (rest ++ after) := by
        rw [List.append_assoc, List.append_assoc]
        exact List.drop_left' List.length_replicate
      rw [readFrom, inner, List.take_left' size, List.drop_left' size, read_pack_field order code arg field first,
        ih others _ rest later]

namespace Format

theorem pack_length (format : Format) (args : List Arg) (bytes : List UInt8) (packed : format.pack args = some bytes) :
    bytes.length = format.calcsize := by
  have := pack_from_length format.aligned format.order format.codes args 0 bytes packed
  rwa [Nat.zero_add] at this

theorem unpack_pack (format : Format) (args : List Arg) (before bytes after : List UInt8)
    (packed : format.pack args = some bytes) :
    format.unpackFrom (before ++ bytes ++ after) before.length = some args := by
  have size := pack_length format args bytes packed
  have inside : before.length + format.calcsize ≤ (before ++ bytes ++ after).length := by
    simp only [List.length_append]
    omega
  rw [unpackFrom, if_pos inside, List.append_assoc, List.drop_left,
    read_pack_from format.aligned format.order format.codes args 0 bytes after packed]

end Format

end Struct
