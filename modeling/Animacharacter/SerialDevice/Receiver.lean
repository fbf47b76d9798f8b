import Mathlib.Order.Interval.Finset.Nat
import Animacharacter.Library.StepSystem
import Animacharacter.SerialDevice.Handlers

set_option autoImplicit false

namespace Animacharacter.SerialDevice

open Bytes StepSystem

-- A packet as SerialTransfer leaves it: `rxBuff` is the memory from its receive
-- buffer on, and `bytesRead` tells how much of it the packet has filled.
structure RxPacket where
  id : Nat
  bytesRead : UInt8
  rxBuff : Nat → UInt8

namespace RxPacket

def recvBytes (packet : RxPacket) (start count : Nat) : List UInt8 :=
  (List.range count).map fun index => packet.rxBuff (start + index)

-- `bytesRead - 4` as a uint32_t, which wraps for a packet without an offset.
def announced (packet : RxPacket) : Nat × Nat :=
  (rd32 (packet.recvBytes 0 4), (packet.bytesRead.toNat + 2 ^ 32 - 4) % 2 ^ 32)

def clamped (packet : RxPacket) (RxBuffSize : Nat) : Nat × Nat :=
  let offset := min packet.announced.1 RxBuffSize
  (offset, min packet.announced.2 (RxBuffSize - offset))

def handleLargeTxBegin (ctx : LargeRxCtx) (now : Nat) (packet : RxPacket) : Handled :=
  SerialDevice.handleLargeTxBegin ctx now (packet.recvBytes 0 4)

-- The chunk is copied out of the receive buffer whatever was read into it.
def handleLargeTxChunk (ctx : LargeRxCtx) (now : Nat) (packet : RxPacket) : Handled :=
  let ctx := dropStale ctx now
  if ctx.state ≠ .RECVING then ignored ctx
  else
    match ctx.RxBuff with
    | none => ignored { ctx with timer := ctx.timer.fire now, state := .READY }
    | some buffer =>
        let range := packet.clamped buffer.length
        ⟨{ ctx with
            RxBuff := some (writeAt buffer range.1 (packet.recvBytes 4 range.2))
            timer := ctx.timer.start now },
          some ⟨PACKID_LARGETX_ACK, le32 range.2⟩, none⟩

def handleLargeTxEnd (ctx : LargeRxCtx) (now : Nat) (packet : RxPacket) : Handled :=
  SerialDevice.handleLargeTxEnd ctx now (packet.recvBytes 0 1)

def dispatch (ctx : LargeRxCtx) (now : Nat) (packet : RxPacket) : Handled :=
  if packet.id = PACKID_LARGETX_BEGIN then handleLargeTxBegin ctx now packet
  else if packet.id = PACKID_LARGETX_CHUNK then handleLargeTxChunk ctx now packet
  else if packet.id = PACKID_LARGETX_END then handleLargeTxEnd ctx now packet
  else ignored ctx

theorem recv_bytes_length (packet : RxPacket) (start count : Nat) : (packet.recvBytes start count).length = count := by
  simp [recvBytes]

-- A chunk packet that holds its offset is handled as the bytes it was sent with.
theorem handle_chunk_payload (ctx : LargeRxCtx) (now : Nat) (packet : RxPacket) (whole : 4 ≤ packet.bytesRead.toNat) :
    handleLargeTxChunk ctx now packet =
      SerialDevice.handleLargeTxChunk ctx now (packet.recvBytes 0 packet.bytesRead.toNat) := by
  have small := packet.bytesRead.toNat_lt
  have size : (packet.bytesRead.toNat + 2 ^ 32 - 4) % 2 ^ 32 = packet.bytesRead.toNat - 4 := by omega
  have offset : rd32 (packet.recvBytes 0 packet.bytesRead.toNat) = rd32 (packet.recvBytes 0 4) := by
    have index (place : Nat) (inside : place < 4) :
        byteAt (packet.recvBytes 0 packet.bytesRead.toNat) place = byteAt (packet.recvBytes 0 4) place := by
      have also : place < packet.bytesRead.toNat := Nat.lt_of_lt_of_le inside whole
      simp [byteAt, recvBytes, List.getD_eq_getElem?_getD, inside, also]
    simp only [rd32, index 0 (by decide), index 1 (by decide), index 2 (by decide), index 3 (by decide)]
  have data (count : Nat) (fits : count ≤ packet.bytesRead.toNat - 4) :
      ((packet.recvBytes 0 packet.bytesRead.toNat).drop 4).take count = packet.recvBytes 4 count := by
    apply List.ext_getElem?
    intro place
    by_cases inside : place < count
    · have also : 4 + place < packet.bytesRead.toNat := by omega
      simp [recvBytes, List.getElem?_take_of_lt inside, List.getElem?_drop, inside, also]
    · rw [List.getElem?_eq_none (by rw [List.length_take]; omega),
        List.getElem?_eq_none (by rw [recv_bytes_length]; omega)]
  unfold handleLargeTxChunk SerialDevice.handleLargeTxChunk
  generalize dropStale ctx now = live
  obtain ⟨timer, state, RxBuff, RecvHandler, ExpectedSize⟩ := live
  cases RxBuff with
  | none => rfl
  | some buffer =>
      simp only [clamped, announced, size, offset, recv_bytes_length]
      rw [data _ (Nat.min_le_left _ _)]

theorem announced_clamped (packet : RxPacket) (size index : Nat) (inside : index < size) :
    (packet.clamped size).1 ≤ index ∧ index < (packet.clamped size).1 + (packet.clamped size).2 ↔
      packet.announced.1 ≤ index ∧ index < packet.announced.1 + packet.announced.2 := by
  simp only [clamped]
  omega

theorem clamped_fits (packet : RxPacket) (size : Nat) : (packet.clamped size).1 + (packet.clamped size).2 ≤ size := by
  simp only [clamped]
  omega

end RxPacket

-- A memcpy of _handleLargeTxChunk: `count` bytes from the fifth received byte on,
-- to RxBuff + offset.
structure Copy where
  RxBuffSize : Nat
  bytesRead : UInt8
  offset : Nat
  count : Nat
deriving DecidableEq, Repr

def Copy.range (copy : Copy) : Finset Nat := Finset.Ico copy.offset (copy.offset + copy.count)

namespace RxPacket

def memcpyOf (ctx : LargeRxCtx) (now : Nat) (packet : RxPacket) : Option Copy :=
  if packet.id = PACKID_LARGETX_CHUNK ∧ (dropStale ctx now).state = .RECVING then
    ctx.RxBuff.map fun buffer =>
      ⟨buffer.length, packet.bytesRead, (packet.clamped buffer.length).1, (packet.clamped buffer.length).2⟩
  else none

def copied (ctx : LargeRxCtx) (now : Nat) (packet : RxPacket) : Finset Nat :=
  (packet.memcpyOf ctx now).elim ∅ Copy.range

end RxPacket

def beginAccepted (handled : Handled) : Bool := handled.reply = some ⟨PACKID_LARGETX_BEGIN_RESP, [1]⟩

-- The receiving device. Since the last accepted BEGIN, or since another buffer
-- was bound: `chunks` are the ranges that chunk packets have announced, `written`
-- the bytes copied to, and `before` is what RxBuff held then. `calls` has the size
-- of every call of RecvHandler with the bytes written until it, `copies` every memcpy.
structure Receiver where
  ctx : LargeRxCtx
  clock : Nat
  chunks : List (Nat × Nat)
  written : Finset Nat
  before : List UInt8
  calls : List (Nat × Finset Nat)
  copies : List Copy

inductive ReceiverAction where
  | tick (ms : Nat)
  | configLargeRx (buffer : Option (List UInt8))
  | receive (packet : RxPacket)

namespace Receiver

def handled (receiver : Receiver) (packet : RxPacket) : Handled :=
  packet.dispatch receiver.ctx (millis receiver.clock)

-- poll calls no handler for a packet without payload.
def receive (receiver : Receiver) (packet : RxPacket) : Receiver :=
  if packet.bytesRead = 0 then receiver
  else
    let handled := receiver.handled packet
    let written := receiver.written ∪ packet.copied receiver.ctx (millis receiver.clock)
    { ctx := handled.ctx
      clock := receiver.clock
      chunks :=
        if beginAccepted handled then []
        else if packet.id = PACKID_LARGETX_CHUNK then packet.announced :: receiver.chunks
        else receiver.chunks
      written := if beginAccepted handled then ∅ else written
      before := if beginAccepted handled then receiver.ctx.bytes else receiver.before
      calls := receiver.calls ++ (handled.received.map fun (_, size, _) => (size, written)).toList
      copies := receiver.copies ++ (packet.memcpyOf receiver.ctx (millis receiver.clock)).toList }

def configLargeRx (receiver : Receiver) (buffer : Option (List UInt8)) : Receiver :=
  { receiver with
    ctx := { receiver.ctx with RxBuff := buffer }
    chunks := []
    written := ∅
    before := buffer.getD [] }

-- The size of a buffer is a uint32_t.
def step (receiver : Receiver) : ReceiverAction → Option Receiver
  | .tick ms => some { receiver with clock := receiver.clock + ms }
  | .configLargeRx buffer => if (buffer.getD []).length < 2 ^ 32 then some (receiver.configLargeRx buffer) else none
  | .receive packet => some (receiver.receive packet)

end Receiver

-- Before the first packet nothing is being received; a buffer may be bound or not.
def largeReceiver : System Receiver ReceiverAction where
  start receiver := receiver.ctx.state = .READY ∧ receiver.calls = [] ∧ receiver.copies = []
  step := Receiver.step

theorem drop_stale_buffer (ctx : LargeRxCtx) (now : Nat) : (dropStale ctx now).RxBuff = ctx.RxBuff := by
  unfold dropStale
  split <;> rfl

theorem drop_stale_recving (ctx : LargeRxCtx) (now : Nat) (live : (dropStale ctx now).state = .RECVING) :
    dropStale ctx now = ctx := by
  simp only [dropStale] at live ⊢
  split at live
  · cases live
  · rename_i running
    rw [if_neg running]

namespace RxPacket

theorem copied_none (ctx : LargeRxCtx) (now : Nat) (packet : RxPacket) (none : packet.memcpyOf ctx now = none) :
    packet.copied ctx now = ∅ := by
  rw [copied, none]
  rfl

theorem memcpy_other (ctx : LargeRxCtx) (now : Nat) (packet : RxPacket) (other : packet.id ≠ PACKID_LARGETX_CHUNK) :
    packet.memcpyOf ctx now = none := by
  rw [memcpyOf, if_neg fun both => other both.1]

end RxPacket

end Animacharacter.SerialDevice
