import Animacharacter.Library.Struct

set_option autoImplicit false

namespace Animacharacter.Commons

open Struct Bytes

-- The value is the bits of a float32.
structure Record where
  id : UInt16
  value : UInt32
deriving DecidableEq, Repr

-- struct.Struct("Hf"), on a machine of either byte order.
def packer (order : ByteOrder) : Format := ⟨true, order, [.H, .f]⟩

def Record.args (record : Record) : List Arg := [.int record.id.toNat, .float32 record.value]

-- The loop of encode_motionframe_packet from an offset on; `none` stands for struct.error.
def packRecords (packer : Format) : List UInt8 → Nat → List Record → Option (List UInt8)
  | buff, _, [] => some buff
  | buff, offset, record :: rest =>
      match packer.packInto buff offset record.args with
      | none => none
      | some buff => packRecords packer buff (offset + packer.calcsize) rest

def encodeRecords (packer : Format) (motionframe : List Record) : Option (List UInt8) :=
  packRecords packer (List.replicate (motionframe.length * packer.calcsize) 0) 0 motionframe

def encodeMotionframePacket (order : ByteOrder) (motionframe : List Record) : Option (List UInt8) :=
  encodeRecords (packer order) motionframe

def readRecord : List Arg → Option Record
  | [.int id, .float32 value] => some ⟨UInt16.ofNat id.toNat, value⟩
  | _ => none

-- The loop of decode_motionframe_packet; the remaining bytes are too few for a record.
def unpackRecords (packer : Format) (data : List UInt8) : Nat → Nat → Option (List Record)
  | 0, _ => some []
  | count + 1, offset => do
      let args ← packer.unpackFrom data offset
      let record ← readRecord args
      let rest ← unpackRecords packer data count (offset + packer.calcsize)
      return record :: rest

def decodeRecords (packer : Format) (data : List UInt8) : Option (List Record) :=
  unpackRecords packer data (data.length / packer.calcsize) 0

def decodeMotionframePacket (order : ByteOrder) (data : List UInt8) : Option (List Record) :=
  decodeRecords (packer order) data

-- The layout of the packet: six bytes a record, its id at +0 and its value at +2.
structure PacketLayout (order : ByteOrder) (motionframe : List Record) (data : List UInt8) : Prop where
  size : data.length = 6 * motionframe.length
  id : ∀ (index : Nat) (record : Record), motionframe[index]? = some record →
    (data.drop (6 * index)).take 2 = order.write 2 record.id.toNat
  value : ∀ (index : Nat) (record : Record), motionframe[index]? = some record →
    (data.drop (6 * index + 2)).take 4 = order.write 4 record.value.toNat

theorem write_at_zeros (done record : List UInt8) (room : Nat) :
    writeAt (done ++ List.replicate (record.length + room) 0) done.length record =
      done ++ record ++ List.replicate room 0 := by
  have zeros : List.replicate (record.length + room) (0 : UInt8) =
      List.replicate record.length 0 ++ List.replicate room 0 := by rw [List.replicate_append_replicate]
  have skipped : (done ++ (List.replicate record.length (0 : UInt8) ++ List.replicate room 0)).drop
      (done.length + record.length) = List.replicate room 0 := by
    rw [← List.append_assoc]
    exact List.drop_left' (by rw [List.length_append, List.length_replicate])
  rw [writeAt, zeros, List.take_left, skipped]

theorem pack_records_fill (packer : Format) (layout : Record → List UInt8)
    (packed : ∀ record, packer.pack record.args = some (layout record)) (motionframe : List Record) (done : List UInt8) :
    packRecords packer (done ++ List.replicate (motionframe.length * packer.calcsize) 0) done.length motionframe =
      some (done ++ motionframe.flatMap layout) := by
  induction motionframe generalizing done with
  | nil => simp [packRecords]
  | cons record rest ih =>
      have size := packer.pack_length record.args (layout record) (packed record)
      have room : (record :: rest).length * packer.calcsize = (layout record).length + rest.length * packer.calcsize := by
        rw [size, List.length_cons, Nat.succ_mul, Nat.add_comm]
      have fits : done.length + (layout record).length ≤
          (done ++ List.replicate ((layout record).length + rest.length * packer.calcsize) (0 : UInt8)).length := by
        rw [List.length_append, List.length_replicate]
        omega
      have next := ih (done ++ layout record)
      rw [List.length_append, size] at next
      simp only [packRecords, Format.packInto, packed, room, if_pos fits, write_at_zeros]
      rw [next, List.flatMap_cons, List.append_assoc]

theorem encode_records (packer : Format) (layout : Record → List UInt8)
    (packed : ∀ record, packer.pack record.args = some (layout record)) (motionframe : List Record) :
    encodeRecords packer motionframe = some (motionframe.flatMap layout) :=
  pack_records_fill packer layout packed motionframe []

theorem records_length (layout : Record → List UInt8) (size : Nat) (fixed : ∀ record, (layout record).length = size)
    (motionframe : List Record) : (motionframe.flatMap layout).length = size * motionframe.length := by
  induction motionframe with
  | nil => rfl
  | cons record rest ih =>
      rw [List.flatMap_cons, List.length_append, ih, fixed, List.length_cons, Nat.mul_succ, Nat.add_comm]

theorem unpack_records (packer : Format) (layout : Record → List UInt8)
    (packed : ∀ record, packer.pack record.args = some (layout record)) (motionframe : List Record) (done : List UInt8) :
    unpackRecords packer (done ++ motionframe.flatMap layout) motionframe.length done.length = some motionframe := by
  induction motionframe generalizing done with
  | nil => rfl
  | cons record rest ih =>
      have size := packer.pack_length record.args (layout record) (packed record)
      have read := packer.unpack_pack record.args done (layout record) (rest.flatMap layout) (packed record)
      have known : readRecord record.args = some record := by simp [readRecord, Record.args]
      have next := ih (done ++ layout record)
      rw [List.length_append, size] at next
      rw [List.flatMap_cons, ← List.append_assoc, List.length_cons]
      simp only [unpackRecords, read, known, next, Option.bind_eq_bind, Option.bind_some, Option.pure_def]

theorem decode_encode_records (packer : Format) (layout : Record → List UInt8) (filled : 0 < packer.calcsize)
    (packed : ∀ record, packer.pack record.args = some (layout record)) (motionframe : List Record) :
    (encodeRecords packer motionframe).bind (decodeRecords packer) = some motionframe := by
  have fixed (record : Record) := packer.pack_length record.args (layout record) (packed record)
  rw [encode_records packer layout packed, Option.bind_some, decodeRecords,
    records_length layout packer.calcsize fixed, Nat.mul_div_cancel_left _ filled]
  exact unpack_records packer layout packed motionframe []

-- The record as native alignment lays it out: two bytes of padding after the id.
def paddedRecord (order : ByteOrder) (record : Record) : List UInt8 :=
  order.write 2 record.id.toNat ++ [0, 0] ++ order.write 4 record.value.toNat

def packedRecord (order : ByteOrder) (record : Record) : List UInt8 :=
  order.write 2 record.id.toNat ++ order.write 4 record.value.toNat

theorem record_id_range (record : Record) : (record.id.toNat : Int) < 65536 := by
  have := record.id.toNat_lt
  omega

theorem pack_padded (order : ByteOrder) (record : Record) :
    (packer order).pack record.args = some (paddedRecord order record) := by
  have small := record_id_range record
  simp [Format.pack, packer, Record.args, packFrom, packField, gap, Code.size, small, paddedRecord]

theorem pack_packed (order : ByteOrder) (record : Record) :
    (Format.mk false order [.H, .f]).pack record.args = some (packedRecord order record) := by
  have small := record_id_range record
  simp [Format.pack, Record.args, packFrom, packField, gap, small, packedRecord]

theorem decode_encode_packet (order : ByteOrder) (motionframe : List Record) :
    (encodeMotionframePacket order motionframe).bind (decodeMotionframePacket order) = some motionframe :=
  decode_encode_records (packer order) (paddedRecord order) (show 0 < 8 by decide) (pack_padded order) motionframe

theorem records_from (layout : Record → List UInt8) (size : Nat) (fixed : ∀ record, (layout record).length = size)
    (motionframe : List Record) (index : Nat) (record : Record) (found : motionframe[index]? = some record) :
    ∃ after, (motionframe.flatMap layout).drop (size * index) = layout record ++ after := by
  induction motionframe generalizing index with
  | nil => cases found
  | cons first rest ih =>
      cases index with
      | zero =>
          cases found
          exact ⟨rest.flatMap layout, by rw [Nat.mul_zero, List.drop_zero, List.flatMap_cons]⟩
      | succ index =>
          obtain ⟨after, tail⟩ := ih index found
          refine ⟨after, ?_⟩
          rw [List.flatMap_cons, Nat.mul_succ, Nat.add_comm, ← List.drop_drop, List.drop_left' (fixed first), tail]

-- Without alignment, as with "<Hf", the packet has the layout.
theorem unaligned_layout (order : ByteOrder) (motionframe : List Record) :
    ∃ data, encodeRecords ⟨false, order, [.H, .f]⟩ motionframe = some data ∧ PacketLayout order motionframe data := by
  have fixed (record : Record) : (packedRecord order record).length = 6 := by simp [packedRecord]
  refine ⟨_, encode_records _ _ (pack_packed order) motionframe, ?_, ?_, ?_⟩
  · exact records_length _ 6 fixed motionframe
  · intro index record found
    obtain ⟨after, here⟩ := records_from _ 6 fixed motionframe index record found
    rw [here, packedRecord, List.append_assoc]
    exact List.take_left' (order.write_length 2 _)
  · intro index record found
    obtain ⟨after, here⟩ := records_from _ 6 fixed motionframe index record found
    rw [← List.drop_drop, here, packedRecord, List.append_assoc, List.drop_left' (order.write_length 2 _)]
    exact List.take_left' (order.write_length 4 _)

theorem encode_packet (order : ByteOrder) (motionframe : List Record) :
    encodeMotionframePacket order motionframe = some (motionframe.flatMap (paddedRecord order)) :=
  encode_records (packer order) (paddedRecord order) (pack_padded order) motionframe

theorem motionframe_layout (machine wire : ByteOrder) (motionframe : List Record) :
    (∃ data, encodeMotionframePacket machine motionframe = some data ∧ PacketLayout wire motionframe data) ↔
      motionframe = [] := by
  constructor
  · rintro ⟨data, encoded, layout⟩
    rw [encode_packet, Option.some.injEq] at encoded
    have fixed (record : Record) : (paddedRecord machine record).length = 8 := by simp [paddedRecord]
    have size := layout.size
    rw [← encoded, records_length _ 8 fixed] at size
    exact List.length_eq_zero_iff.mp (by omega)
  · rintro rfl
    refine ⟨[], rfl, rfl, ?_, ?_⟩
    · intro index record found
      cases found
    · intro index record found
      cases found

-- Id 3 and the value 1.0: the value starts at +4, after two zero bytes.
theorem one_record_padded :
    encodeMotionframePacket .little [⟨3, 0x3f800000⟩] = some [3, 0, 0, 0, 0, 0, 0x80, 0x3f] ∧
      ∀ wire, ¬ PacketLayout wire [⟨3, 0x3f800000⟩] [3, 0, 0, 0, 0, 0, 0x80, 0x3f] := by
  refine ⟨by decide, fun wire layout => ?_⟩
  exact absurd layout.size (by decide)

end Animacharacter.Commons
