import Animacharacter.SerialDevice.Handlers

set_option autoImplicit false

namespace Animacharacter.SerialDevice

open Bytes StepSystem

def Request.opens : Request → Bool
  | .begin _ => true
  | _ => false

def Integrity (state : State) : Prop :=
  ∀ delivery ∈ state.delivered, ∀ call ∈ state.calls[delivery.transfer]?,
    delivery.buffer.take call.size = call.buffer

instance (state : State) : Decidable (Integrity state) :=
  inferInstanceAs (Decidable (∀ delivery ∈ state.delivered, ∀ call ∈ state.calls[delivery.transfer]?,
    delivery.buffer.take call.size = call.buffer))

-- A packet in flight is the one its request makes the sender build.
def Genuine (calls : List Call) (frame : Frame) : Prop :=
  ∃ call, calls[frame.request.transfer]? = some call ∧
    match frame.request with
    | .begin _ => frame.packet = beginPacket call.size
    | .chunk _ offset =>
        (offset < call.size ∧ call.fitsTxBuff) ∧ frame.packet = chunkPacket offset (call.chunk offset)
    | .finish _ => frame.packet = endPacket call.packId

-- The link is FIFO: transfers follow each other, each one behind its begin packet.
def Follows (first second : Frame) : Prop :=
  first.request.transfer ≤ second.request.transfer ∧
    (second.request.opens = true → first.request.transfer < second.request.transfer)

def Stored (state : State) (call : Call) : Prop := Agree state.largeRxCtx.bytes call.buffer 0 call.size

-- sendLarge stands at `offset`: everything before it is stored, and what is
-- still on its way belongs to chunks of this very transfer.
structure Sending (state : State) (call : Call) (offset : Nat) : Prop where
  current : state.calls[state.transfer]? = some call
  fits : call.fitsTxBuff
  bound : offset ≤ call.size
  room : call.size ≤ state.largeRxCtx.bytes.length
  before : Agree state.largeRxCtx.bytes call.buffer 0 offset
  chunks : ∀ frame ∈ state.forward, ∃ at_offset, frame.request = .chunk state.transfer at_offset
  acks : ∀ frame ∈ state.reverse, ∀ at_offset, frame.request = .chunk state.transfer at_offset →
    Agree state.largeRxCtx.bytes call.buffer at_offset (call.actualChunkSize at_offset)

structure Inv (state : State) : Prop where
  genuine : ∀ frame ∈ state.forward, Genuine state.calls frame
  fifo : state.forward.Pairwise Follows
  oneTransfer : ∀ first ∈ state.forward, ∀ second ∈ state.forward, first.request.opens = false →
    second.request.opens = false → first.request.transfer = second.request.transfer
  finished : ∀ frame ∈ state.forward, ∀ transfer, frame.request = .finish transfer →
    ∀ call ∈ state.calls[transfer]?, Stored state call
  answered : ∀ frame ∈ state.reverse, frame.request.transfer < state.calls.length
  opening : ∀ wait, state.pc = .beginWait wait → ∀ frame, frame ∈ state.forward ∨ frame ∈ state.reverse →
    frame.request.transfer = state.transfer → frame.request.opens = true
  accepted : ∀ wait, state.pc = .beginWait wait → ∀ frame ∈ state.reverse, frame.request = .begin state.transfer →
    frame.packet.payload.headD 0 ≠ 0 →
      state.forward = [] ∧ ∀ call ∈ state.calls[state.transfer]?, call.size ≤ state.largeRxCtx.bytes.length
  sending : ∀ offset attempt wait, state.pc = .ackWait offset attempt wait →
    ∃ call, offset < call.size ∧ Sending state call offset
  known : ∀ delivery ∈ state.delivered, delivery.transfer < state.calls.length
  integrity : Integrity state

def pendingRequest (state : State) : Option Request :=
  match state.pc with
  | .idle => none
  | .beginWait _ => some (.begin state.transfer)
  | .ackWait offset _ _ => some (.chunk state.transfer offset)

-- An answer that lets sendLarge go on: an acceptance or an ack.
def goesOn (packId : Nat) (packet : Packet) : Prop :=
  packet.id = packId ∧ (packId = PACKID_LARGETX_BEGIN_RESP → packet.payload.headD 0 ≠ 0)

instance (packId : Nat) (packet : Packet) : Decidable (goesOn packId packet) := inferInstanceAs (Decidable (_ ∧ (_ → _)))

def answersPending (state : State) : Prop :=
  ∀ frame ∈ state.reverse.head?, ∀ expected ∈ awaited state.pc, goesOn expected.1 frame.packet →
    pendingRequest state = some frame.request

instance (state : State) : Decidable (answersPending state) :=
  inferInstanceAs (Decidable (∀ frame ∈ state.reverse.head?, ∀ expected ∈ awaited state.pc,
    goesOn expected.1 frame.packet → pendingRequest state = some frame.request))

-- The chunks of an accepted call fit the tx buffer.
def acceptedFits (state : State) : Prop :=
  ∀ frame ∈ state.reverse.head?, ∀ expected ∈ awaited state.pc, expected.1 = PACKID_LARGETX_BEGIN_RESP →
    goesOn expected.1 frame.packet → ∀ call ∈ state.calls[state.transfer]?, call.fitsTxBuff

instance (state : State) : Decidable (acceptedFits state) :=
  inferInstanceAs (Decidable (∀ frame ∈ state.reverse.head?, ∀ expected ∈ awaited state.pc,
    expected.1 = PACKID_LARGETX_BEGIN_RESP → goesOn expected.1 frame.packet →
      ∀ call ∈ state.calls[state.transfer]?, call.fitsTxBuff))

-- No stale answer lets sendLarge go on, and accepted chunks fit.
def undisturbed (state : State) : Action → Prop
  | .senderPoll arrived => arrived = true → answersPending state ∧ acceptedFits state
  | _ => True

instance : ∀ (state : State) (action : Action), Decidable (undisturbed state action)
  | state, .senderPoll arrived => inferInstanceAs (Decidable (arrived = true → answersPending state ∧ acceptedFits state))
  | _, .tick _ | _, .sendLarge _ | _, .senderIdlePoll | _, .receiverPoll | _, .loseForward _ | _, .loseReverse _ =>
      inferInstanceAs (Decidable True)

theorem stored_room (state : State) (call : Call) (stored : Stored state call) :
    call.size ≤ state.largeRxCtx.bytes.length := by
  by_cases empty : call.size = 0
  · omega
  · have last := stored (call.size - 1) (Nat.zero_le _) (by omega)
    have inside : call.size - 1 < call.buffer.length := by
      unfold Call.size at empty ⊢
      omega
    rw [List.getElem?_eq_getElem inside] at last
    have found := (List.getElem?_eq_some_iff.mp last).1
    omega

theorem inv_started (state : State) (initial : started state) : Inv state := by
  obtain ⟨calls, idle, forward, reverse, delivered, _⟩ := initial
  constructor <;> simp [calls, idle, forward, reverse, Integrity, delivered]

theorem inv_shrink (state : State) (forward reverse : List Frame) (inv : Inv state)
    (fewer : forward.Sublist state.forward) (fewerAnswers : reverse.Sublist state.reverse) :
    Inv { state with forward := forward, reverse := reverse } := by
  refine
    { genuine := fun frame member => inv.genuine frame (fewer.subset member)
      fifo := inv.fifo.sublist fewer
      oneTransfer := fun first inFirst second inSecond =>
        inv.oneTransfer first (fewer.subset inFirst) second (fewer.subset inSecond)
      finished := fun frame member => inv.finished frame (fewer.subset member)
      answered := fun frame member => inv.answered frame (fewerAnswers.subset member)
      opening := ?_
      accepted := ?_
      sending := ?_
      known := inv.known
      integrity := inv.integrity }
  · intro wait waiting frame member
    exact inv.opening wait waiting frame (member.imp (fewer.subset ·) (fewerAnswers.subset ·))
  · intro wait waiting frame member request accepted
    obtain ⟨empty, room⟩ := inv.accepted wait waiting frame (fewerAnswers.subset member) request accepted
    exact ⟨List.eq_nil_of_subset_nil (empty ▸ fewer.subset), room⟩
  · intro offset attempt wait waiting
    obtain ⟨call, inside, sending⟩ := inv.sending offset attempt wait waiting
    exact ⟨call, inside, sending.current, sending.fits, sending.bound, sending.room, sending.before,
      fun frame member => sending.chunks frame (fewer.subset member),
      fun frame member => sending.acks frame (fewerAnswers.subset member)⟩

theorem inv_idle (state : State) (inv : Inv state) (returned : List Nat) (streamCtx : StreamCtx) :
    Inv { state with pc := .idle, returned := returned, streamCtx := streamCtx } :=
  { inv with
    opening := fun _ waiting => by cases waiting
    accepted := fun _ waiting => by cases waiting
    sending := fun _ _ _ waiting => by cases waiting }

theorem inv_unread (state : State) (inv : Inv state) (clock : Nat) (streamCtx : StreamCtx) :
    Inv { state with clock := clock, streamCtx := streamCtx } :=
  { inv with
    sending := by
      intro offset attempt wait waiting
      obtain ⟨call, inside, sending⟩ := inv.sending offset attempt wait waiting
      exact ⟨call, inside, { sending with }⟩ }

end Animacharacter.SerialDevice
