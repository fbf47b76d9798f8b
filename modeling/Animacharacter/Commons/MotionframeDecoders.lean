import Animacharacter.Commons.UdpMotionframeSchema

set_option autoImplicit false

namespace Animacharacter.Commons

open Struct Bytes

section Items

variable {Item : Type}

-- Assignment to an index of a preallocated list or array; `none` stands for IndexError.
def setItem (out : List Item) (index : Nat) (item : Item) : Option (List Item) :=
  if index < out.length then some (out.set index item) else none

theorem set_next_item (done : List Item) (blank item : Item) (room : Nat) :
    setItem (done ++ List.replicate (room + 1) blank) done.length item =
      some (done ++ [item] ++ List.replicate room blank) := by
  have inside : done.length < (done ++ List.replicate (room + 1) blank).length := by
    rw [List.length_append, List.length_replicate]
    omega
  rw [setItem, if_pos inside, List.set_append_right _ _ (Nat.le_refl _), Nat.sub_self, List.replicate_succ,
    List.set_cons_zero, List.append_assoc, List.singleton_append]

end Items

-- The tuples that unpack_from returns; its values are widened float32.
def readPair : List Arg → Option (Int × UInt32)
  | [.int id, .float32 value] => some (id, value)
  | _ => none

-- The loop of decode_motionframe_packet at the index i, with so many rounds to go.
def fillTuples (packer : Format) (data : List UInt8) :
    Nat → Nat → Nat → List (Int × UInt32) → Option (List (Int × UInt32))
  | 0, _, _, out => some out
  | rounds + 1, i, offset, out => do
      let args ← packer.unpackFrom data offset
      let pair ← readPair args
      let out ← setItem out i pair
      fillTuples packer data rounds (i + 1) (offset + packer.calcsize) out

def decodeMotionframePacketTuples (order : ByteOrder) (data : List UInt8) : Option (List (Int × UInt32)) :=
  let n := data.length / (packer order).calcsize
  fillTuples (packer order) data n 0 0 (List.replicate n (-1, 0))

-- An array('H') refuses what is no unsigned short; `none` stands for OverflowError.
def unsignedShort (value : Int) : Option UInt16 :=
  if 0 ≤ value ∧ value < 65536 then some (UInt16.ofNat value.toNat) else none

-- The loop of decode_motionframe_packet_into_arrays.
def fillArrays (packer : Format) (data : List UInt8) :
    Nat → Nat → Nat → List UInt16 → List UInt32 → Option (List UInt16 × List UInt32)
  | 0, _, _, ids, vals => some (ids, vals)
  | rounds + 1, i, offset, ids, vals => do
      let args ← packer.unpackFrom data offset
      let pair ← readPair args
      let idVal ← unsignedShort pair.1
      let ids ← setItem ids i idVal
      let vals ← setItem vals i pair.2
      fillArrays packer data rounds (i + 1) (offset + packer.calcsize) ids vals

def decodeMotionframePacketIntoArrays (order : ByteOrder) (data : List UInt8) :
    Option (List UInt16 × List UInt32) :=
  let n := data.length / (packer order).calcsize
  fillArrays (packer order) data n 0 0 (List.replicate n 0) (List.replicate n 0)

def Record.pair (record : Record) : Int × UInt32 := (record.id.toNat, record.value)

@[simp] theorem pair_value (record : Record) : record.pair.2 = record.value := rfl

@[simp] theorem read_pair_args (record : Record) : readPair record.args = some record.pair := rfl

@[simp] theorem read_record_args (record : Record) : readRecord record.args = some record := by
  simp [readRecord, Record.args]

@[simp] theorem unsigned_short_id (record : Record) : unsignedShort record.pair.1 = some record.id := by
  have small := record_id_range record
  simp [unsignedShort, Record.pair, small]

-- A round that has its eight bytes reads a record, whatever the bytes are.
theorem unpack_from_record (order : ByteOrder) (data : List UInt8) (offset : Nat)
    (fits : offset + (packer order).calcsize ≤ data.length) :
    ∃ record : Record, (packer order).unpackFrom data offset = some record.args := by
  have bound : order.read ((data.drop offset).take 2) < 256 ^ 2 :=
    Nat.lt_of_lt_of_le (order.read_bound _) (Nat.pow_le_pow_right (by decide) (List.length_take_le 2 _))
  refine ⟨⟨UInt16.ofNat (order.read ((data.drop offset).take 2)),
    UInt32.ofNat (order.read ((data.drop (offset + 4)).take 4))⟩, ?_⟩
  rw [Format.unpackFrom, if_pos fits]
  simp [packer, Record.args, readFrom, readField, gap, Code.size]
  omega

theorem fill_arrays_round (packer : Format) (data : List UInt8) (rounds offset index : Nat) (record : Record)
    (ids : List UInt16) (vals : List UInt32) (blankId : UInt16) (blankVal : UInt32) (idsFilled : ids.length = index)
    (valsFilled : vals.length = index) (read : packer.unpackFrom data offset = some record.args) :
    fillArrays packer data (rounds + 1) index offset (ids ++ List.replicate (rounds + 1) blankId)
        (vals ++ List.replicate (rounds + 1) blankVal) =
      fillArrays packer data rounds (index + 1) (offset + packer.calcsize)
        (ids ++ [record.id] ++ List.replicate rounds blankId)
        (vals ++ [record.value] ++ List.replicate rounds blankVal) := by
  have storedId := set_next_item ids blankId record.id rounds
  have storedValue := set_next_item vals blankVal record.value rounds
  rw [idsFilled] at storedId
  rw [valsFilled] at storedValue
  rw [fillArrays, read, Option.bind_eq_bind, Option.bind_some, read_pair_args, Option.bind_eq_bind, Option.bind_some,
    unsigned_short_id, Option.bind_eq_bind, Option.bind_some, storedId, Option.bind_eq_bind, Option.bind_some,
    pair_value, storedValue, Option.bind_eq_bind, Option.bind_some]

-- The records that lie in the rounds to go, and what both loops make of them.
theorem rounds_agree (order : ByteOrder) (data : List UInt8) (rounds offset : Nat)
    (tuples : List (Int × UInt32)) (ids : List UInt16) (vals : List UInt32)
    (paired : ids.length = tuples.length ∧ vals.length = tuples.length)
    (fits : offset + rounds * (packer order).calcsize ≤ data.length) :
    ∃ records : List Record, records.length = rounds ∧
      unpackRecords (packer order) data rounds offset = some records ∧
      fillTuples (packer order) data rounds tuples.length offset (tuples ++ List.replicate rounds (-1, 0)) =
        some (tuples ++ records.map Record.pair) ∧
      fillArrays (packer order) data rounds tuples.length offset (ids ++ List.replicate rounds 0)
        (vals ++ List.replicate rounds 0) = some (ids ++ records.map Record.id, vals ++ records.map Record.value) := by
  induction rounds generalizing offset tuples ids vals with
  | zero => exact ⟨[], rfl, rfl, rfl, rfl⟩
  | succ rounds ih =>
      rw [Nat.succ_mul] at fits
      obtain ⟨record, read⟩ := unpack_from_record order data offset (by omega)
      obtain ⟨records, count, unpacked, tupled, arrayed⟩ :=
        ih (offset + (packer order).calcsize) (tuples ++ [record.pair]) (ids ++ [record.id]) (vals ++ [record.value])
          (by simp [paired]) (by omega)
      refine ⟨record :: records, by rw [List.length_cons, count], ?_, ?_, ?_⟩
      · simp only [unpackRecords, read, read_record_args, unpacked, Option.bind_eq_bind, Option.bind_some, Option.pure_def]
      · rw [List.length_append, List.length_singleton] at tupled
        rw [List.map_cons, List.append_cons]
        simp only [fillTuples, read, read_pair_args, set_next_item, Option.bind_eq_bind, Option.bind_some]
        exact tupled
      · rw [List.length_append, List.length_singleton] at arrayed
        rw [List.map_cons, List.map_cons, List.append_cons, List.append_cons vals,
          fill_arrays_round (packer order) data rounds offset tuples.length record ids vals 0 0 paired.1 paired.2 read]
        exact arrayed

theorem decoders_agree (order : ByteOrder) (data : List UInt8) :
    ∃ records : List Record, records.length = data.length / (packer order).calcsize ∧
      decodeMotionframePacket order data = some records ∧
      decodeMotionframePacketTuples order data = some (records.map Record.pair) ∧
      decodeMotionframePacketIntoArrays order data = some (records.map Record.id, records.map Record.value) :=
  rounds_agree order data (data.length / (packer order).calcsize) 0 [] [] [] ⟨rfl, rfl⟩
    (by rw [Nat.zero_add]; exact Nat.div_mul_le_self _ _)

-- What the decoders return for a packet is what was encoded, and for any other
-- bytes the records that fit in them; a trailing part of a record is left out.
theorem motionframe_decoders (order : ByteOrder) :
    (∀ motionframe : List Record, ∃ data, encodeMotionframePacket order motionframe = some data ∧
      decodeMotionframePacketTuples order data = some (motionframe.map Record.pair) ∧
      decodeMotionframePacketIntoArrays order data = some (motionframe.map Record.id, motionframe.map Record.value)) ∧
    ∀ data : List UInt8, ∃ records : List Record, records.length = data.length / (packer order).calcsize ∧
      decodeMotionframePacketTuples order data = some (records.map Record.pair) ∧
      decodeMotionframePacketIntoArrays order data = some (records.map Record.id, records.map Record.value) := by
  constructor
  · intro motionframe
    refine ⟨motionframe.flatMap (paddedRecord order), encode_packet order motionframe, ?_⟩
    have whole := decode_encode_packet order motionframe
    rw [encode_packet, Option.bind_some] at whole
    obtain ⟨records, _, decoded, tuples, arrays⟩ := decoders_agree order (motionframe.flatMap (paddedRecord order))
    rw [whole] at decoded
    cases decoded
    exact ⟨tuples, arrays⟩
  · intro data
    obtain ⟨records, count, _, tuples, arrays⟩ := decoders_agree order data
    exact ⟨records, count, tuples, arrays⟩

end Animacharacter.Commons
