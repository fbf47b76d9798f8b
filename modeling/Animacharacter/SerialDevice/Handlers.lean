import Animacharacter.SerialDevice.Transfer

set_option autoImplicit false

namespace Animacharacter.SerialDevice

open Bytes

def Call.fitsTxBuff (call : Call) : Prop := min call.chunkSize.toNat call.size + 4 ≤ TX_BUFF_SIZE

instance (call : Call) : Decidable call.fitsTxBuff := inferInstanceAs (Decidable (_ ≤ _))

def LargeRxCtx.bytes (ctx : LargeRxCtx) : List UInt8 := ctx.RxBuff.getD []

theorem chunk_length (call : Call) (offset : Nat) : (call.chunk offset).length = call.actualChunkSize offset := by
  simp only [Call.chunk, Call.actualChunkSize, Call.size, List.length_take, List.length_drop]
  omega

theorem chunk_inside (call : Call) (offset : Nat) (inside : offset ≤ call.size) :
    offset + call.actualChunkSize offset ≤ call.size := by
  simp only [Call.actualChunkSize]
  omega

theorem chunk_packet_of_call (call : Call) (offset : Nat) (fits : call.fitsTxBuff) :
    chunkPacket offset (call.chunk offset) = ⟨PACKID_LARGETX_CHUNK, le32 offset ++ call.chunk offset⟩ := by
  apply chunk_packet_fits
  rw [chunk_length]
  simp only [Call.fitsTxBuff, Call.actualChunkSize] at fits ⊢
  omega

@[simp] theorem bytes_mk (timer : Timer) (state : LargeRxState) (RxBuff : Option (List UInt8)) (RecvHandler : Bool)
    (ExpectedSize : Nat) : LargeRxCtx.bytes ⟨timer, state, RxBuff, RecvHandler, ExpectedSize⟩ = RxBuff.getD [] := rfl

theorem drop_stale_bytes (ctx : LargeRxCtx) (now : Nat) : (dropStale ctx now).bytes = ctx.bytes := by
  unfold dropStale
  split <;> rfl

theorem dispatch_begin (ctx : LargeRxCtx) (now : Nat) (payload : List UInt8) :
    dispatch ctx now ⟨PACKID_LARGETX_BEGIN, payload⟩ = handleLargeTxBegin ctx now payload := by
  rw [dispatch, if_pos rfl]

theorem dispatch_chunk (ctx : LargeRxCtx) (now : Nat) (payload : List UInt8) :
    dispatch ctx now ⟨PACKID_LARGETX_CHUNK, payload⟩ = handleLargeTxChunk ctx now payload := by
  rw [dispatch, if_neg (show ¬ PACKID_LARGETX_CHUNK = PACKID_LARGETX_BEGIN by decide), if_pos rfl]

theorem dispatch_end (ctx : LargeRxCtx) (now : Nat) (payload : List UInt8) :
    dispatch ctx now ⟨PACKID_LARGETX_END, payload⟩ = handleLargeTxEnd ctx now payload := by
  rw [dispatch, if_neg (show ¬ PACKID_LARGETX_END = PACKID_LARGETX_BEGIN by decide),
    if_neg (show ¬ PACKID_LARGETX_END = PACKID_LARGETX_CHUNK by decide), if_pos rfl]

structure BeginHandled (ctx : LargeRxCtx) (size : Nat) (handled : Handled) : Prop where
  bytes : handled.ctx.bytes = ctx.bytes
  received : handled.received = none
  accepted : ∀ packet, handled.reply = some packet → packet.payload.headD 0 ≠ 0 → size ≤ ctx.bytes.length

theorem handle_begin (ctx : LargeRxCtx) (now size : Nat) (bound : size < 2 ^ 32) :
    BeginHandled ctx size (dispatch ctx now (beginPacket size)) := by
  have read : rd32 (le32 size) = size := by simpa using rd32_le32 size [] bound
  have same := drop_stale_bytes ctx now
  rw [beginPacket, dispatch_begin]
  unfold handleLargeTxBegin
  generalize dropStale ctx now = live at same ⊢
  obtain ⟨timer, state, RxBuff, RecvHandler, ExpectedSize⟩ := live
  rw [bytes_mk] at same
  cases state with
  | RECVING => exact ⟨same, rfl, by simp [ignored]⟩
  | READY =>
      simp only [ne_eq, not_true, if_false, read]
      cases RxBuff with
      | none => exact ⟨same, rfl, by simp⟩
      | some buffer =>
          have bytes : buffer = ctx.bytes := same
          by_cases small : buffer.length < size
          · simp only [if_pos small]
            exact ⟨same, rfl, by simp⟩
          · simp only [if_neg small]
            exact ⟨same, rfl, fun _ _ _ => by rw [← bytes]; omega⟩

structure ChunkHandled (ctx : LargeRxCtx) (call : Call) (offset : Nat) (handled : Handled) : Prop where
  length : handled.ctx.bytes.length = ctx.bytes.length
  received : handled.received = none
  kept : call.size ≤ ctx.bytes.length → ∀ start count, Agree ctx.bytes call.buffer start count →
    Agree handled.ctx.bytes call.buffer start count
  stored : call.size ≤ ctx.bytes.length → handled.reply ≠ none →
    Agree handled.ctx.bytes call.buffer offset (call.actualChunkSize offset)

theorem chunk_ignored (ctx next : LargeRxCtx) (call : Call) (offset : Nat) (same : next.bytes = ctx.bytes) :
    ChunkHandled ctx call offset (ignored next) := by
  refine ⟨congrArg List.length same, rfl, ?_, fun _ replied => absurd rfl replied⟩
  intro _ start count agreed
  change Agree next.bytes _ _ _
  rwa [same]

theorem chunk_unclamped (buffer : List UInt8) (call : Call) (offset : Nat) (inside : offset < call.size)
    (room : call.size ≤ buffer.length) :
    writeAt buffer (min offset buffer.length)
        ((call.chunk offset).take (min (call.actualChunkSize offset) (buffer.length - min offset buffer.length))) =
      writeAt buffer offset ((call.buffer.drop offset).take (call.actualChunkSize offset)) := by
  have finish := chunk_inside call offset (Nat.le_of_lt inside)
  rw [Nat.min_eq_left (by omega : offset ≤ buffer.length), Nat.min_eq_left (by omega),
    List.take_of_length_le (Nat.le_of_eq (chunk_length call offset)), Call.chunk]

theorem handle_chunk (ctx : LargeRxCtx) (now : Nat) (call : Call) (offset : Nat) (fits : call.fitsTxBuff)
    (inside : offset < call.size) :
    ChunkHandled ctx call offset (dispatch ctx now (chunkPacket offset (call.chunk offset))) := by
  have read : rd32 (le32 offset ++ call.chunk offset) = offset :=
    rd32_le32 offset _ (Nat.lt_trans inside call.size_fits)
  have payload : (le32 offset ++ call.chunk offset).length - 4 = call.actualChunkSize offset := by
    rw [List.length_append, chunk_length, le32_length]
    omega
  have finish := chunk_inside call offset (Nat.le_of_lt inside)
  have same := drop_stale_bytes ctx now
  rw [chunk_packet_of_call call offset fits, dispatch_chunk]
  unfold handleLargeTxChunk
  generalize dropStale ctx now = live at same ⊢
  obtain ⟨timer, state, RxBuff, RecvHandler, ExpectedSize⟩ := live
  rw [bytes_mk] at same
  cases state with
  | READY => exact chunk_ignored ctx _ call offset same
  | RECVING =>
      simp only [ne_eq, not_true, if_false, read, payload, drop_le32]
      cases RxBuff with
      | none => exact chunk_ignored ctx _ call offset same
      | some buffer =>
          have bytes : buffer = ctx.bytes := same
          refine ⟨?_, rfl, ?_, ?_⟩
          · rw [bytes_mk, Option.getD_some, ← bytes]
            apply write_at_length
            rw [List.length_take]
            omega
          · intro room start count agreed
            rw [← bytes] at room agreed
            rw [bytes_mk, Option.getD_some, chunk_unclamped buffer call offset inside room]
            exact write_at_keeps_agreement buffer call.buffer offset _ start count finish
              (Nat.le_trans finish room) agreed
          · intro room _
            rw [← bytes] at room
            rw [bytes_mk, Option.getD_some, chunk_unclamped buffer call offset inside room]
            exact write_at_agrees buffer call.buffer offset _ finish (Nat.le_trans finish room)

-- The overflowing chunk is acknowledged although nothing of it is stored.
theorem handle_overflowing_chunk (timer : Timer) (buffer : List UInt8) (RecvHandler : Bool)
    (now ExpectedSize offset : Nat) (chunk : List UInt8) (overflow : TX_BUFF_SIZE < chunk.length + 4)
    (live : timer.timedOut now = false) :
    dispatch ⟨timer, .RECVING, some buffer, RecvHandler, ExpectedSize⟩ now (chunkPacket offset chunk) =
      ⟨⟨timer.start now, .RECVING, some buffer, RecvHandler, ExpectedSize⟩, some ⟨PACKID_LARGETX_ACK, le32 0⟩, none⟩ := by
  rw [chunk_packet_overflow offset chunk overflow, dispatch_chunk]
  unfold handleLargeTxChunk dropStale
  generalize rd32 (le32 offset) = start
  simp only [live, Bool.false_eq_true, if_false, ne_eq, not_true, le32_length, Nat.sub_self, Nat.zero_min,
    List.take_zero, write_at_nothing]

structure EndHandled (ctx : LargeRxCtx) (handled : Handled) : Prop where
  bytes : handled.ctx.bytes = ctx.bytes
  reply : handled.reply = none
  received : ∀ buffer size packId, handled.received = some (buffer, size, packId) → buffer = ctx.bytes

theorem handle_end (ctx : LargeRxCtx) (now : Nat) (packId : UInt8) :
    EndHandled ctx (dispatch ctx now (endPacket packId)) := by
  have same := drop_stale_bytes ctx now
  rw [endPacket, dispatch_end]
  unfold handleLargeTxEnd
  generalize dropStale ctx now = live at same ⊢
  obtain ⟨timer, state, RxBuff, RecvHandler, ExpectedSize⟩ := live
  rw [bytes_mk] at same
  cases state with
  | READY => exact ⟨same, rfl, by simp [ignored]⟩
  | RECVING =>
      simp only [ne_eq, not_true, if_false]
      refine ⟨same, rfl, ?_⟩
      intro buffer size id received
      cases RecvHandler with
      | false => cases received
      | true =>
          rw [if_pos rfl, Option.some.injEq, Prod.mk.injEq] at received
          exact received.1.symm.trans same

end Animacharacter.SerialDevice
