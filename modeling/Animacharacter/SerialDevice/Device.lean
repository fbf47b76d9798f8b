import Animacharacter.Library.Bytes

set_option autoImplicit false

namespace Animacharacter.SerialDevice

open Bytes

def LARGERX_CHUNK_TIMEOUT_MS : Nat := 3000
def LARGE_TRANSFER_SEND_RETRY_AMOUNT : Nat := 5

def PACKID_LARGETX_BEGIN : Nat := 215
def PACKID_LARGETX_CHUNK : Nat := 216
def PACKID_LARGETX_BEGIN_RESP : Nat := 217
def PACKID_LARGETX_ACK : Nat := 218
def PACKID_LARGETX_END : Nat := 219

-- sizeof(txf.packet.txBuff): SerialTransfer carries payloads of up to 254 bytes.
def TX_BUFF_SIZE : Nat := 254

structure Packet where
  id : Nat
  payload : List UInt8
deriving DecidableEq, Repr

-- millis() and every `unsigned long` difference of it wrap at 32 bits.
def millis (clock : Nat) : Nat := clock % 2 ^ 32

def elapsedSince (now start : Nat) : Nat := (now + 2 ^ 32 - start) % 2 ^ 32

structure Timer where
  duration : Nat
  startTime : Nat
deriving DecidableEq, Repr

def Timer.start (timer : Timer) (now : Nat) : Timer := { timer with startTime := now }

def Timer.timedOut (timer : Timer) (now : Nat) : Bool := timer.duration ≤ elapsedSince now timer.startTime

def Timer.fire (timer : Timer) (now : Nat) : Timer := { timer with startTime := elapsedSince now timer.duration }

-- txObj and txBytes append to the tx buffer; on overflow they return 0 and
-- append nothing, and streamChunk does not look at what they return.
def txAppend (txBuff bytes : List UInt8) : List UInt8 :=
  if bytes.length + txBuff.length > TX_BUFF_SIZE then txBuff else txBuff ++ bytes

def txObj (txBuff obj : List UInt8) : List UInt8 := txAppend txBuff obj

def txBytes (txBuff bytes : List UInt8) : List UInt8 := txAppend txBuff bytes

def beginPacket (buffSize : Nat) : Packet := ⟨PACKID_LARGETX_BEGIN, le32 buffSize⟩

def chunkPacket (offset : Nat) (chunk : List UInt8) : Packet :=
  ⟨PACKID_LARGETX_CHUNK, txBytes (txObj [] (le32 offset)) chunk⟩

def endPacket (packId : UInt8) : Packet := ⟨PACKID_LARGETX_END, [packId]⟩

theorem tx_append_room (txBuff bytes : List UInt8) (room : bytes.length + txBuff.length ≤ TX_BUFF_SIZE) :
    txAppend txBuff bytes = txBuff ++ bytes := by
  rw [txAppend, if_neg (Nat.not_lt.mpr room)]

theorem tx_append_full (txBuff bytes : List UInt8) (full : TX_BUFF_SIZE < bytes.length + txBuff.length) :
    txAppend txBuff bytes = txBuff := by
  rw [txAppend, if_pos full]

theorem tx_obj_offset (offset : Nat) : txObj [] (le32 offset) = le32 offset :=
  tx_append_room [] (le32 offset) (show 4 ≤ 254 by decide)

theorem chunk_packet_fits (offset : Nat) (chunk : List UInt8) (fits : chunk.length + 4 ≤ TX_BUFF_SIZE) :
    chunkPacket offset chunk = ⟨PACKID_LARGETX_CHUNK, le32 offset ++ chunk⟩ := by
  rw [chunkPacket, tx_obj_offset, txBytes, tx_append_room (le32 offset) chunk fits]

theorem chunk_packet_overflow (offset : Nat) (chunk : List UInt8) (overflow : TX_BUFF_SIZE < chunk.length + 4) :
    chunkPacket offset chunk = ⟨PACKID_LARGETX_CHUNK, le32 offset⟩ := by
  rw [chunkPacket, tx_obj_offset, txBytes, tx_append_full (le32 offset) chunk overflow]

inductive LargeRxState where
  | READY
  | RECVING
deriving DecidableEq, Repr

-- RxBuffSize is the length of the bound buffer.
structure LargeRxCtx where
  timer : Timer
  state : LargeRxState
  RxBuff : Option (List UInt8)
  RecvHandler : Bool
  ExpectedSize : Nat
deriving DecidableEq, Repr

-- What a handler does: the new context, the packet it sends back and the
-- arguments (buffer, size, packId) of the call to RecvHandler.
structure Handled where
  ctx : LargeRxCtx
  reply : Option Packet
  received : Option (List UInt8 × Nat × UInt8)
deriving DecidableEq, Repr

def ignored (ctx : LargeRxCtx) : Handled := ⟨ctx, none, none⟩

def dropStale (ctx : LargeRxCtx) (now : Nat) : LargeRxCtx :=
  if ctx.timer.timedOut now then { ctx with state := .READY } else ctx

def handleLargeTxBegin (ctx : LargeRxCtx) (now : Nat) (payload : List UInt8) : Handled :=
  let ctx := dropStale ctx now
  if ctx.state ≠ .READY then ignored ctx
  else
    let size := rd32 payload
    let ctx := { ctx with ExpectedSize := size }
    match ctx.RxBuff with
    | none => ⟨ctx, some ⟨PACKID_LARGETX_BEGIN_RESP, [0]⟩, none⟩
    | some buffer =>
        if buffer.length < size then ⟨ctx, some ⟨PACKID_LARGETX_BEGIN_RESP, [0]⟩, none⟩
        else
          ⟨{ ctx with state := .RECVING, timer := ctx.timer.start now },
            some ⟨PACKID_LARGETX_BEGIN_RESP, [1]⟩, none⟩

-- payload.length is txf.packet.bytesRead; a chunk packet holds at least its offset.
def handleLargeTxChunk (ctx : LargeRxCtx) (now : Nat) (payload : List UInt8) : Handled :=
  let ctx := dropStale ctx now
  if ctx.state ≠ .RECVING then ignored ctx
  else
    match ctx.RxBuff with
    | none => ignored { ctx with timer := ctx.timer.fire now, state := .READY }
    | some buffer =>
        let offset := min (rd32 payload) buffer.length
        let chunkSize := min (payload.length - 4) (buffer.length - offset)
        ⟨{ ctx with
            RxBuff := some (writeAt buffer offset ((payload.drop 4).take chunkSize))
            timer := ctx.timer.start now },
          some ⟨PACKID_LARGETX_ACK, le32 chunkSize⟩, none⟩

def handleLargeTxEnd (ctx : LargeRxCtx) (now : Nat) (payload : List UInt8) : Handled :=
  let ctx := dropStale ctx now
  if ctx.state ≠ .RECVING then ignored ctx
  else
    let packId := payload.headD 0
    ⟨{ ctx with timer := ctx.timer.fire now, state := .READY }, none,
      if ctx.RecvHandler then some (ctx.RxBuff.getD [], ctx.ExpectedSize, packId) else none⟩

def dispatch (ctx : LargeRxCtx) (now : Nat) (packet : Packet) : Handled :=
  if packet.id = PACKID_LARGETX_BEGIN then handleLargeTxBegin ctx now packet.payload
  else if packet.id = PACKID_LARGETX_CHUNK then handleLargeTxChunk ctx now packet.payload
  else if packet.id = PACKID_LARGETX_END then handleLargeTxEnd ctx now packet.payload
  else ignored ctx

-- waitPacket(timeoutMs): `start`, its argument and the local `remaining`.
structure Wait where
  start : Nat
  timeoutMs : Nat
  remaining : Nat
deriving DecidableEq, Repr

def waitPacket (now timeoutMs : Nat) : Wait := ⟨now, timeoutMs, timeoutMs⟩

-- max((uint64_t)0, timeoutMs - elapsed) is the wrapped uint64 difference.
def timeLeft (wait : Wait) (now : Nat) : Nat :=
  (wait.timeoutMs + 2 ^ 64 - elapsedSince now wait.start) % 2 ^ 64

inductive Waited where
  | timedOut
  | again (wait : Wait)
  | matched (packet : Packet)
deriving DecidableEq, Repr

-- One turn of the loops of waitPacket and waitPacketOfId, entered with a
-- non-zero `remaining`; `arrived` is what available() reads in this turn.
def waitPacketOfId (packId now : Nat) (wait : Wait) (arrived : Option Packet) : Waited :=
  let remaining := timeLeft wait now
  match arrived with
  | none => .again { wait with remaining := remaining }
  | some packet =>
      if remaining = 0 then .timedOut
      else if packet.id = packId then .matched packet
      else .again (waitPacket now remaining)

end Animacharacter.SerialDevice
