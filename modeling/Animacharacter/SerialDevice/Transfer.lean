import Animacharacter.Library.StepSystem
import Animacharacter.SerialDevice.Device

set_option autoImplicit false

namespace Animacharacter.SerialDevice

open Bytes StepSystem

structure Call where
  buffer : List UInt8
  packId : UInt8
  timeoutMs : Nat
  chunkSize : UInt8
  size_fits : buffer.length < 2 ^ 32
deriving DecidableEq, Repr

def Call.size (call : Call) : Nat := call.buffer.length

def Call.actualChunkSize (call : Call) (offset : Nat) : Nat := min call.chunkSize.toNat (call.size - offset)

def Call.chunk (call : Call) (offset : Nat) : List UInt8 :=
  (call.buffer.drop offset).take (call.actualChunkSize offset)

-- Which transmission a packet is, or answers: the number of the sendLarge call
-- and the offset of the chunk. It travels beside the packet for the proofs;
-- neither device reads it.
inductive Request where
  | begin (transfer : Nat)
  | chunk (transfer offset : Nat)
  | finish (transfer : Nat)
deriving DecidableEq, Repr

def Request.transfer : Request → Nat
  | .begin transfer => transfer
  | .chunk transfer _ => transfer
  | .finish transfer => transfer

structure Frame where
  packet : Packet
  request : Request
deriving DecidableEq, Repr

structure Delivery where
  buffer : List UInt8
  expectedSize : Nat
  packId : UInt8
  transfer : Nat
deriving DecidableEq, Repr

-- Where the sending device stands: outside sendLarge, in the wait of
-- streamBegin, or in the wait of the i-th try of streamChunk.
inductive SenderPc where
  | idle
  | beginWait (wait : Wait)
  | ackWait (offset attempt : Nat) (wait : Wait)
deriving DecidableEq, Repr

structure StreamCtx where
  buffSize : Nat
  initiated : Bool
deriving DecidableEq, Repr

structure State where
  clock : Nat
  calls : List Call
  returned : List Nat
  pc : SenderPc
  streamCtx : StreamCtx
  largeRxCtx : LargeRxCtx
  forward : List Frame
  reverse : List Frame
  delivered : List Delivery
deriving DecidableEq, Repr

inductive Action where
  | tick (ms : Nat)
  | sendLarge (call : Call)
  | senderPoll (arrived : Bool)
  | senderIdlePoll
  | receiverPoll
  | loseForward (index : Nat)
  | loseReverse (index : Nat)
deriving Repr

def State.now (state : State) : Nat := millis state.clock

-- The sendLarge call in progress is the last one made.
def State.transfer (state : State) : Nat := state.calls.length - 1

def transmit (state : State) (packet : Packet) (request : Request) : State :=
  { state with forward := state.forward ++ [⟨packet, request⟩] }

def finishCall (state : State) (result : Nat) : State :=
  { state with pc := .idle, returned := state.returned ++ [result] }

def streamBegin (state : State) (call : Call) : State :=
  { transmit state (beginPacket call.size) (.begin state.transfer) with
    streamCtx := { state.streamCtx with buffSize := call.size }
    pc := .beginWait (waitPacket state.now call.timeoutMs) }

-- One turn of the retry loop of streamChunk up to its wait.
def sendChunk (state : State) (call : Call) (offset attempt : Nat) : State :=
  { transmit state (chunkPacket offset (call.chunk offset)) (.chunk state.transfer offset) with
    pc := .ackWait offset attempt (waitPacket state.now call.timeoutMs) }

def streamChunk (state : State) (call : Call) (offset : Nat) : State :=
  if state.streamCtx.initiated = false then finishCall state 0
  else if (offset + call.actualChunkSize offset) % 2 ^ 32 > state.streamCtx.buffSize then finishCall state 0
  else sendChunk state call offset 0

def streamEnd (state : State) (call : Call) : State :=
  if state.streamCtx.initiated = false then state
  else
    let sent := transmit state (endPacket call.packId) (.finish state.transfer)
    { sent with streamCtx := { state.streamCtx with initiated := false } }

-- The test of sendLarge's while loop, and what follows it.
def sendRest (state : State) (call : Call) (offset : Nat) : State :=
  if offset < call.size then streamChunk state call offset else finishCall (streamEnd state call) offset

def afterBegin (state : State) (call : Call) : Waited → State
  | .timedOut => finishCall state 0
  | .again wait => { state with pc := .beginWait wait }
  | .matched packet =>
      let transfOk := packet.payload.headD 0 != 0
      let begun := { state with streamCtx := { state.streamCtx with initiated := transfOk } }
      if transfOk then sendRest begun call 0 else finishCall begun 0

def afterAck (state : State) (call : Call) (offset attempt : Nat) : Waited → State
  | .timedOut =>
      if attempt + 1 < LARGE_TRANSFER_SEND_RETRY_AMOUNT then sendChunk state call offset (attempt + 1)
      else finishCall { state with streamCtx := { state.streamCtx with initiated := false } } 0
  | .again wait => { state with pc := .ackWait offset attempt wait }
  | .matched _ => sendRest state call (offset + call.actualChunkSize offset)

def awaited : SenderPc → Option (Nat × Wait)
  | .idle => none
  | .beginWait wait => some (PACKID_LARGETX_BEGIN_RESP, wait)
  | .ackWait _ _ wait => some (PACKID_LARGETX_ACK, wait)

def resume (state : State) (call : Call) (waited : Waited) : State :=
  match state.pc with
  | .idle => state
  | .beginWait _ => afterBegin state call waited
  | .ackWait offset attempt _ => afterAck state call offset attempt waited

def senderPoll (state : State) (arrived : Bool) : Option State :=
  match awaited state.pc, state.calls[state.transfer]? with
  | some (packId, wait), some call =>
      if wait.remaining = 0 then some (resume state call .timedOut)
      else if arrived then
        match state.reverse with
        | [] => none
        | frame :: rest =>
            let polled := { state with reverse := rest }
            some (resume polled call (waitPacketOfId packId state.now wait (some frame.packet)))
      else some (resume state call (waitPacketOfId packId state.now wait none))
  | _, _ => none

def deliver (state : State) (request : Request) (handled : Handled) : State :=
  { state with
    largeRxCtx := handled.ctx
    reverse := state.reverse ++ (handled.reply.map (⟨·, request⟩)).toList
    delivered := state.delivered ++
      (handled.received.map fun (buffer, size, packId) => ⟨buffer, size, packId, request.transfer⟩).toList }

def receiverPoll (state : State) : Option State :=
  match state.forward with
  | [] => none
  | frame :: rest =>
      let polled := { state with forward := rest }
      some (deliver polled frame.request (dispatch state.largeRxCtx state.now frame.packet))

def step (state : State) : Action → Option State
  | .tick ms => some { state with clock := state.clock + ms }
  | .sendLarge call =>
      if state.pc = .idle then
        let called := { state with calls := state.calls ++ [call] }
        some (streamBegin called call)
      else none
  | .senderPoll arrived => senderPoll state arrived
  | .senderIdlePoll => if state.pc = .idle then some { state with reverse := state.reverse.tail } else none
  | .receiverPoll => receiverPoll state
  | .loseForward index => some { state with forward := state.forward.eraseIdx index }
  | .loseReverse index => some { state with reverse := state.reverse.eraseIdx index }

def started (state : State) : Prop :=
  state.calls = [] ∧ state.pc = .idle ∧ state.forward = [] ∧ state.reverse = [] ∧ state.delivered = [] ∧
    state.largeRxCtx.state = .READY

def largeTransfer : System State Action := ⟨started, step⟩

end Animacharacter.SerialDevice
