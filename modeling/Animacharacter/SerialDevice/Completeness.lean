import Animacharacter.SerialDevice.Receiver

set_option autoImplicit false

namespace Animacharacter.SerialDevice

open Bytes StepSystem

namespace Receiver

-- Whenever RecvHandler was called, every byte it was given had been written
-- since the last accepted BEGIN.
def Complete (receiver : Receiver) : Prop := ∀ call ∈ receiver.calls, ∀ index < call.1, index ∈ call.2

-- The payload fits the bound buffer, as a BEGIN sees to, and the chunks cover it.
def Covered (receiver : Receiver) : Prop :=
  receiver.ctx.ExpectedSize ≤ receiver.ctx.bytes.length ∧
    ∀ index < receiver.ctx.ExpectedSize, ∃ chunk ∈ receiver.chunks, chunk.1 ≤ index ∧ index < chunk.1 + chunk.2

def coveredEnd (receiver : Receiver) : ReceiverAction → Prop
  | .tick _ | .configLargeRx _ => True
  | .receive packet =>
      packet.bytesRead ≠ 0 → packet.id = PACKID_LARGETX_END →
        (dropStale receiver.ctx (millis receiver.clock)).state = .RECVING →
          receiver.ctx.RecvHandler = true → receiver.Covered

instance (receiver : Receiver) : Decidable receiver.Complete :=
  inferInstanceAs (Decidable (∀ call ∈ receiver.calls, ∀ index < call.1, index ∈ call.2))

instance (receiver : Receiver) : Decidable receiver.Covered :=
  inferInstanceAs (Decidable (_ ∧ ∀ index < receiver.ctx.ExpectedSize, ∃ chunk ∈ receiver.chunks,
    chunk.1 ≤ index ∧ index < chunk.1 + chunk.2))

instance (receiver : Receiver) : (action : ReceiverAction) → Decidable (receiver.coveredEnd action)
  | .tick _ | .configLargeRx _ => inferInstanceAs (Decidable True)
  | .receive _ => inferInstanceAs (Decidable (_ → _ → _ → _ → _))

-- An open transfer: of the bound buffer the bytes written are those its chunks
-- announce, and the others are as they were at its BEGIN.
structure Open (receiver : Receiver) : Prop where
  inside : ∀ index ∈ receiver.written, index < receiver.ctx.bytes.length
  marked : ∀ index < receiver.ctx.bytes.length, index ∈ receiver.written ↔
    ∃ chunk ∈ receiver.chunks, chunk.1 ≤ index ∧ index < chunk.1 + chunk.2
  stale : ∀ index < receiver.ctx.bytes.length, index ∉ receiver.written →
    receiver.ctx.bytes[index]? = receiver.before[index]?

def Reassembling (receiver : Receiver) : Prop := receiver.ctx.state = .RECVING → receiver.Open

theorem open_covered (receiver : Receiver) (opened : receiver.Open) :
    receiver.Covered ↔ ∀ index < receiver.ctx.ExpectedSize, index ∈ receiver.written := by
  constructor
  · rintro ⟨fits, covered⟩ index below
    exact (opened.marked index (Nat.lt_of_lt_of_le below fits)).mpr (covered index below)
  · intro full
    have fits : receiver.ctx.ExpectedSize ≤ receiver.ctx.bytes.length := by
      by_contra short
      have last := opened.inside _ (full receiver.ctx.bytes.length (Nat.lt_of_not_le short))
      exact Nat.lt_irrefl _ last
    exact ⟨fits, fun index below => (opened.marked index (Nat.lt_of_lt_of_le below fits)).mp (full index below)⟩

theorem fresh_open (receiver : Receiver) (chunks : receiver.chunks = []) (written : receiver.written = ∅)
    (before : receiver.before = receiver.ctx.bytes) : receiver.Open := by
  constructor
  · intro index member
    simp [written] at member
  · intro index _
    simp [chunks, written]
  · intro index _ _
    rw [before]

inductive Received (receiver : Receiver) (packet : RxPacket) : Prop where
  | closed (ready : (receiver.receive packet).ctx.state = .READY)
      (silent : (receiver.receive packet).calls = receiver.calls)
      (exempt : receiver.coveredEnd (.receive packet))
  | begun (chunks : (receiver.receive packet).chunks = []) (written : (receiver.receive packet).written = ∅)
      (before : (receiver.receive packet).before = (receiver.receive packet).ctx.bytes)
      (silent : (receiver.receive packet).calls = receiver.calls)
      (exempt : receiver.coveredEnd (.receive packet))
  | stored (live : receiver.ctx.state = .RECVING) (buffer : List UInt8) (bound : receiver.ctx.RxBuff = some buffer)
      (after : receiver.receive packet = { receiver with
        ctx := (receiver.receive packet).ctx
        chunks := packet.announced :: receiver.chunks
        written := receiver.written ∪ Finset.Ico (packet.clamped buffer.length).1
          ((packet.clamped buffer.length).1 + (packet.clamped buffer.length).2)
        copies := (receiver.receive packet).copies })
      (rebound : (receiver.receive packet).ctx.RxBuff = some
        (writeAt buffer (packet.clamped buffer.length).1 (packet.recvBytes 4 (packet.clamped buffer.length).2)))
      (exempt : receiver.coveredEnd (.receive packet))
  | unheard (same : receiver.receive packet = receiver) (exempt : receiver.coveredEnd (.receive packet))
  | ended (live : receiver.ctx.state = .RECVING) (ready : (receiver.receive packet).ctx.state = .READY)
      (called : (receiver.receive packet).calls =
        receiver.calls ++ [(receiver.ctx.ExpectedSize, receiver.written)])
      (condition : receiver.coveredEnd (.receive packet) ↔ receiver.Covered)

theorem exempt_id (receiver : Receiver) (packet : RxPacket) (id : packet.id ≠ PACKID_LARGETX_END) :
    receiver.coveredEnd (.receive packet) := fun _ same => absurd same id

theorem exempt_ready (receiver : Receiver) (packet : RxPacket)
    (ready : (dropStale receiver.ctx (millis receiver.clock)).state = .READY) :
    receiver.coveredEnd (.receive packet) := by
  intro _ _ live
  rw [ready] at live
  cases live

theorem received_unheard (receiver : Receiver) (packet : RxPacket)
    (result : receiver.handled packet = ignored receiver.ctx) (id : packet.id ≠ PACKID_LARGETX_CHUNK)
    (exempt : receiver.coveredEnd (.receive packet)) : receiver.Received packet := by
  have none := packet.memcpy_other receiver.ctx (millis receiver.clock) id
  have nothing := packet.copied_none receiver.ctx (millis receiver.clock) none
  refine .unheard ?_ exempt
  unfold receive
  split
  · rfl
  · simp [result, ignored, beginAccepted, none, nothing]

theorem received_closed (receiver : Receiver) (packet : RxPacket) (filled : packet.bytesRead ≠ 0)
    (ready : (receiver.handled packet).ctx.state = .READY) (silent : (receiver.handled packet).received = none)
    (exempt : receiver.coveredEnd (.receive packet)) : receiver.Received packet :=
  .closed (by rw [receive, if_neg filled]; exact ready) (by rw [receive, if_neg filled]; simp [silent]) exempt

theorem received_begin (receiver : Receiver) (packet : RxPacket) (filled : packet.bytesRead ≠ 0)
    (id : packet.id = PACKID_LARGETX_BEGIN) : receiver.Received packet := by
  have exempt := exempt_id receiver packet (by rw [id]; decide)
  have other : packet.id ≠ PACKID_LARGETX_CHUNK := by rw [id]; decide
  have result : receiver.handled packet =
      SerialDevice.handleLargeTxBegin receiver.ctx (millis receiver.clock) (packet.recvBytes 0 4) := by
    simp only [handled, RxPacket.dispatch, if_pos id, RxPacket.handleLargeTxBegin]
  cases phase : (dropStale receiver.ctx (millis receiver.clock)).state with
  | RECVING =>
      refine received_unheard receiver packet ?_ other exempt
      rw [result, SerialDevice.handleLargeTxBegin, drop_stale_recving _ _ phase]
      rw [drop_stale_recving _ _ phase] at phase
      simp [phase]
  | READY =>
      have bytes := drop_stale_buffer receiver.ctx (millis receiver.clock)
      cases bound : receiver.ctx.RxBuff with
      | none =>
          refine received_closed receiver packet filled ?_ ?_ exempt <;>
            simp [result, SerialDevice.handleLargeTxBegin, phase, bytes, bound]
      | some buffer =>
          by_cases small : buffer.length < rd32 (packet.recvBytes 0 4)
          · refine received_closed receiver packet filled ?_ ?_ exempt <;>
              simp [result, SerialDevice.handleLargeTxBegin, phase, bytes, bound, small]
          · refine .begun ?_ ?_ ?_ ?_ exempt <;>
              simp [receive, filled, result, SerialDevice.handleLargeTxBegin, phase, bytes, bound, small,
                beginAccepted, LargeRxCtx.bytes]

theorem received_chunk (receiver : Receiver) (packet : RxPacket) (filled : packet.bytesRead ≠ 0)
    (id : packet.id = PACKID_LARGETX_CHUNK) : receiver.Received packet := by
  have exempt := exempt_id receiver packet (by rw [id]; decide)
  have result : receiver.handled packet =
      RxPacket.handleLargeTxChunk receiver.ctx (millis receiver.clock) packet := by
    simp only [handled, RxPacket.dispatch, id, if_neg (show ¬ PACKID_LARGETX_CHUNK = PACKID_LARGETX_BEGIN by decide), if_true]
  cases phase : (dropStale receiver.ctx (millis receiver.clock)).state with
  | READY =>
      refine received_closed receiver packet filled ?_ ?_ exempt <;>
        simp [result, RxPacket.handleLargeTxChunk, phase, ignored]
  | RECVING =>
      have live := drop_stale_recving _ _ phase
      have recving : receiver.ctx.state = .RECVING := live ▸ phase
      cases bound : receiver.ctx.RxBuff with
      | none =>
          refine received_closed receiver packet filled ?_ ?_ exempt <;>
            simp [result, RxPacket.handleLargeTxChunk, live, recving, bound, ignored]
      | some buffer =>
          refine .stored recving buffer bound ?_ ?_ exempt <;>
            simp [receive, filled, result, RxPacket.handleLargeTxChunk, live, recving, bound, beginAccepted, id,
              RxPacket.copied, RxPacket.memcpyOf, Copy.range,
              show ¬ PACKID_LARGETX_ACK = PACKID_LARGETX_BEGIN_RESP by decide]

theorem received_end (receiver : Receiver) (packet : RxPacket) (filled : packet.bytesRead ≠ 0)
    (id : packet.id = PACKID_LARGETX_END) : receiver.Received packet := by
  have result : receiver.handled packet =
      SerialDevice.handleLargeTxEnd receiver.ctx (millis receiver.clock) (packet.recvBytes 0 1) := by
    simp only [handled, RxPacket.dispatch, id, if_neg (show ¬ PACKID_LARGETX_END = PACKID_LARGETX_BEGIN by decide),
      if_neg (show ¬ PACKID_LARGETX_END = PACKID_LARGETX_CHUNK by decide), if_true, RxPacket.handleLargeTxEnd]
  cases phase : (dropStale receiver.ctx (millis receiver.clock)).state with
  | READY =>
      refine received_closed receiver packet filled ?_ ?_ (exempt_ready receiver packet phase) <;>
        simp [result, SerialDevice.handleLargeTxEnd, phase, ignored]
  | RECVING =>
      have live := drop_stale_recving _ _ phase
      have recving : receiver.ctx.state = .RECVING := live ▸ phase
      have none := packet.memcpy_other receiver.ctx (millis receiver.clock) (by rw [id]; decide)
      have nothing := packet.copied_none receiver.ctx (millis receiver.clock) none
      cases handler : receiver.ctx.RecvHandler with
      | false =>
          have exempt : receiver.coveredEnd (.receive packet) := by
            intro _ _ _ assigned
            rw [handler] at assigned
            cases assigned
          refine received_closed receiver packet filled ?_ ?_ exempt <;>
            simp [result, SerialDevice.handleLargeTxEnd, live, recving, handler]
      | true =>
          refine .ended recving ?_ ?_ ?_
          · simp [receive, filled, result, SerialDevice.handleLargeTxEnd, live, recving]
          · simp [receive, filled, result, SerialDevice.handleLargeTxEnd, live, recving, handler, nothing]
          · simp only [coveredEnd, id, phase, handler, ne_eq, filled, not_false_eq_true, true_imp_iff]

theorem received_cases (receiver : Receiver) (packet : RxPacket) : receiver.Received packet := by
  by_cases empty : packet.bytesRead = 0
  · exact .unheard (by rw [receive, if_pos empty]) (fun filled => absurd empty filled)
  · by_cases begins : packet.id = PACKID_LARGETX_BEGIN
    · exact received_begin receiver packet empty begins
    · by_cases chunk : packet.id = PACKID_LARGETX_CHUNK
      · exact received_chunk receiver packet empty chunk
      · by_cases ends : packet.id = PACKID_LARGETX_END
        · exact received_end receiver packet empty ends
        · refine received_unheard receiver packet ?_ chunk (exempt_id receiver packet ends)
          simp only [handled, RxPacket.dispatch, if_neg begins, if_neg chunk, if_neg ends]

theorem stored_open (receiver next : Receiver) (packet : RxPacket) (buffer : List UInt8)
    (bound : receiver.ctx.RxBuff = some buffer) (opened : receiver.Open)
    (after : next = { receiver with
      ctx := next.ctx
      chunks := packet.announced :: receiver.chunks
      written := receiver.written ∪ Finset.Ico (packet.clamped buffer.length).1
        ((packet.clamped buffer.length).1 + (packet.clamped buffer.length).2)
      copies := next.copies })
    (rebound : next.ctx.RxBuff = some
      (writeAt buffer (packet.clamped buffer.length).1 (packet.recvBytes 4 (packet.clamped buffer.length).2))) :
    next.Open := by
  have fits := packet.clamped_fits buffer.length
  have data : (packet.recvBytes 4 (packet.clamped buffer.length).2).length = (packet.clamped buffer.length).2 :=
    packet.recv_bytes_length 4 _
  have bytes : receiver.ctx.bytes = buffer := by rw [LargeRxCtx.bytes, bound, Option.getD_some]
  have changed : next.ctx.bytes =
      writeAt buffer (packet.clamped buffer.length).1 (packet.recvBytes 4 (packet.clamped buffer.length).2) := by
    rw [LargeRxCtx.bytes, rebound, Option.getD_some]
  have length : next.ctx.bytes.length = buffer.length := by
    rw [changed]
    exact write_at_length _ _ _ (by rw [data]; exact fits)
  obtain ⟨inside, marked, stale⟩ := opened
  rw [bytes] at inside marked stale
  constructor
  · rw [length, after]
    intro index member
    rcases Finset.mem_union.mp member with earlier | now
    · exact inside index earlier
    · have range := Finset.mem_Ico.mp now
      omega
  · rw [length, after]
    intro index below
    simp only [Finset.mem_union, Finset.mem_Ico, packet.announced_clamped buffer.length index below,
      marked index below, List.mem_cons, exists_eq_or_imp]
    exact or_comm
  · rw [length, changed, after]
    intro index below fresh
    simp only [Finset.mem_union, Finset.mem_Ico, not_or] at fresh
    rw [write_at_outside _ _ _ _ (by rw [data]; exact fits) (by rw [data]; omega)]
    exact stale index below fresh.1

theorem received_reassembling (receiver : Receiver) (packet : RxPacket) (inv : receiver.Reassembling) :
    (receiver.receive packet).Reassembling := by
  intro recving
  cases received_cases receiver packet with
  | closed ready _ _ =>
      rw [ready] at recving
      cases recving
  | ended _ ready _ _ =>
      rw [ready] at recving
      cases recving
  | begun chunks written before _ _ => exact fresh_open _ chunks written before
  | unheard same _ =>
      rw [same] at recving ⊢
      exact inv recving
  | stored live buffer bound after rebound _ =>
      exact stored_open receiver _ packet buffer bound (inv live) after rebound

-- RecvHandler is called with unwritten bytes exactly at an END that the chunks do not cover.
theorem received_complete (receiver : Receiver) (packet : RxPacket) (inv : receiver.Reassembling)
    (complete : receiver.Complete) :
    (receiver.receive packet).Complete ↔ receiver.coveredEnd (.receive packet) := by
  have quiet (silent : (receiver.receive packet).calls = receiver.calls) : (receiver.receive packet).Complete := by
    rw [Complete, silent]
    exact complete
  cases received_cases receiver packet with
  | closed _ silent exempt => exact iff_of_true (quiet silent) exempt
  | begun _ _ _ silent exempt => exact iff_of_true (quiet silent) exempt
  | unheard same exempt => exact iff_of_true (quiet (by rw [same])) exempt
  | stored _ _ _ after _ exempt => exact iff_of_true (quiet (by rw [after])) exempt
  | ended live _ called condition =>
      rw [condition, open_covered receiver (inv live), Complete, called]
      constructor
      · intro every
        exact every (receiver.ctx.ExpectedSize, receiver.written) (by simp)
      · intro full call known
        rcases List.mem_append.mp known with earlier | last
        · exact complete call earlier
        · rw [List.mem_singleton.mp last]
          exact full

theorem step_complete (source target : Receiver) (action : ReceiverAction) (inv : source.Reassembling)
    (complete : source.Complete) (moved : source.step action = some target) :
    target.Reassembling ∧ (target.Complete ↔ source.coveredEnd action) := by
  cases action with
  | tick ms =>
      cases moved
      refine ⟨fun recving => ?_, iff_of_true complete trivial⟩
      obtain ⟨inside, marked, stale⟩ := inv recving
      exact ⟨inside, marked, stale⟩
  | configLargeRx buffer =>
      simp only [step] at moved
      split at moved
      · cases moved
        exact ⟨fun _ => fresh_open _ rfl rfl rfl, iff_of_true complete trivial⟩
      · cases moved
  | receive packet =>
      cases moved
      exact ⟨received_reassembling source packet inv, received_complete source packet inv complete⟩

theorem reached_complete (receiver : Receiver) (reached : Reached largeReceiver coveredEnd receiver) :
    receiver.Reassembling ∧ receiver.Complete := by
  apply reached_invariant largeReceiver coveredEnd (fun state => state.Reassembling ∧ state.Complete) _ _ receiver
    reached
  · intro state started
    refine ⟨fun recving => ?_, fun call known => ?_⟩
    · rw [started.1] at recving
      cases recving
    · rw [started.2.1] at known
      cases known
  · intro source action target inv covered moved
    obtain ⟨kept, complete⟩ := step_complete source target action inv.1 inv.2 moved
    exact ⟨kept, complete.mpr covered⟩

theorem reception_complete (receiver : Receiver) (reached : Reached largeReceiver coveredEnd receiver) :
    receiver.Complete ∧ ∀ action next, receiver.step action = some next →
      (next.Complete ↔ receiver.coveredEnd action) := by
  obtain ⟨inv, complete⟩ := reached_complete receiver reached
  exact ⟨complete, fun action next moved => (step_complete receiver next action inv complete moved).2⟩

-- What RecvHandler is given of an open transfer beyond the written bytes is
-- what RxBuff held before it.
theorem unwritten_left_over (receiver : Receiver) (reached : Reached largeReceiver coveredEnd receiver)
    (recving : receiver.ctx.state = .RECVING) (index : Nat) (inside : index < receiver.ctx.bytes.length)
    (fresh : index ∉ receiver.written) : receiver.ctx.bytes[index]? = receiver.before[index]? :=
  ((reached_complete receiver reached).1 recving).stale index inside fresh

def packetOf (id : Nat) (payload : List UInt8) : RxPacket where
  id := id
  bytesRead := payload.length.toUInt8
  rxBuff index := payload.getD index 0

def idleReceiver : Receiver where
  ctx := ⟨⟨LARGERX_CHUNK_TIMEOUT_MS, 0⟩, .READY, some [9, 9, 9], true, 0⟩
  clock := 0
  chunks := []
  written := ∅
  before := []
  calls := []
  copies := []

-- Two chunks, out of order and one of them past the buffer, between BEGIN and END;
-- the packet without payload does not get to a handler.
def twoChunks : List ReceiverAction :=
  [.receive (packetOf PACKID_LARGETX_BEGIN (le32 3)), .receive (packetOf PACKID_LARGETX_CHUNK (le32 2 ++ [3, 4])),
    .tick 10, .receive (packetOf PACKID_LARGETX_CHUNK []), .receive (packetOf PACKID_LARGETX_CHUNK (le32 0 ++ [1, 2])),
    .receive (packetOf PACKID_LARGETX_END [6])]

theorem reception_complete_two_chunks : ∃ receiver : Receiver,
    (receiver.calls = [(3, {0, 1, 2})] ∧ receiver.ctx.bytes = [1, 2, 3]) ∧ receiver.Complete := by
  obtain ⟨receiver, reached, ends⟩ := replay_exists largeReceiver coveredEnd twoChunks idleReceiver
    (fun receiver => receiver.calls = [(3, {0, 1, 2})] ∧ receiver.ctx.bytes = [1, 2, 3])
    ⟨rfl, rfl, rfl⟩ (by decide +kernel)
  exact ⟨receiver, ends, (reception_complete receiver reached).1⟩

def endAtOnce : List ReceiverAction :=
  [.receive (packetOf PACKID_LARGETX_BEGIN (le32 3)), .receive (packetOf PACKID_LARGETX_END [6])]

theorem empty_transfer_handled : ∃ receiver : Receiver, Reached largeReceiver anyAction receiver ∧
    (receiver.calls = [(3, ∅)] ∧ receiver.ctx.bytes = [9, 9, 9] ∧ ¬ receiver.Complete) :=
  replay_exists largeReceiver anyAction endAtOnce idleReceiver
    (fun receiver => receiver.calls = [(3, ∅)] ∧ receiver.ctx.bytes = [9, 9, 9] ∧ ¬ receiver.Complete)
    ⟨rfl, rfl, rfl⟩ (by decide +kernel)

end Receiver

end Animacharacter.SerialDevice
