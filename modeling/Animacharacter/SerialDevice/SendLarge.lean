import Animacharacter.SerialDevice.StreamSender

set_option autoImplicit false

namespace Animacharacter.SerialDevice.StreamSender

structure ChunkCall where
  offset : UInt32
  size : UInt32
  outcome : StreamOpOutcome
deriving DecidableEq, Repr

-- What a call of sendLarge has done when it returns.
structure LargeSent where
  chunks : List ChunkCall
  ret : UInt32
  ctx : StreamCtx
deriving DecidableEq, Repr

def actualChunkSize (size offset : UInt32) (chunkSize : UInt8) : UInt32 := min chunkSize.toUInt32 (size - offset)

-- The while loop of sendLarge from the chunk of this index on, for as many of its
-- tests as there is fuel; `acks` says for each chunk which tries are answered.
def sendChunks (size : UInt32) (chunkSize : UInt8) (acks : Nat → Nat → Bool) :
    Nat → Nat → UInt32 → StreamCtx → Option LargeSent
  | 0, _, _, _ => none
  | fuel + 1, index, offset, ctx =>
      if offset < size then
        let part := actualChunkSize size offset chunkSize
        match streamChunk part offset (acks index) ctx with
        | (ctx, _, .OK) =>
            (sendChunks size chunkSize acks fuel (index + 1) (offset + part) ctx).map fun sent =>
              { sent with chunks := ⟨offset, part, .OK⟩ :: sent.chunks }
        | (ctx, _, outcome) => some ⟨[⟨offset, part, outcome⟩], 0, ctx⟩
      else some ⟨[], offset, (streamEnd ctx).1⟩

def sendLarge (size : UInt32) (chunkSize : UInt8) (answer : Option Bool) (acks : Nat → Nat → Bool) (ctx : StreamCtx)
    (fuel : Nat) : Option LargeSent :=
  match streamBegin size answer ctx with
  | (ctx, .OK) => sendChunks size chunkSize acks fuel 0 0 ctx
  | (ctx, _) => some ⟨[], 0, ctx⟩

-- The chunks follow each other from the start to the stop, and all were reported OK.
def Partitions : Nat → Nat → List ChunkCall → Prop
  | start, stop, [] => start = stop
  | start, stop, chunk :: rest =>
      chunk.offset.toNat = start ∧ 0 < chunk.size.toNat ∧ chunk.outcome = .OK ∧
        Partitions (start + chunk.size.toNat) stop rest

structure Returns (size : UInt32) (chunkSize : UInt8) (answer : Option Bool) (acks : Nat → Nat → Bool)
    (ctx : StreamCtx) : Prop where
  ends : ∃ fuel, (sendLarge size chunkSize answer acks ctx fuel).isSome = true
  result : ∀ fuel sent, sendLarge size chunkSize answer acks ctx fuel = some sent →
    (sent.ret = 0 ∨ sent.ret = size) ∧ (sent.ret = size → Partitions 0 size.toNat sent.chunks)

def AckFails (acks : Nat → Nat → Bool) (index : Nat) : Prop :=
  ∀ i < LARGE_TRANSFER_SEND_RETRY_AMOUNT, acks index i = false

theorem tries_fail (acks : Nat → Bool) (left i : Nat) :
    (sendTries acks left i).2 = false ↔ ∀ tried < left, acks (i + tried) = false := by
  induction left generalizing i with
  | zero => exact iff_of_true rfl nofun
  | succ left ih =>
      rw [sendTries]
      cases acked : acks i with
      | true =>
          apply iff_of_false
          · simp
          · intro fails
            have first := fails 0 (Nat.succ_pos left)
            rw [Nat.add_zero, acked] at first
            cases first
      | false =>
          have later := ih (i + 1)
          simp only [Bool.false_eq_true, if_false]
          rw [later]
          constructor
          · intro fails tried inside
            cases tried with
            | zero => exact acked
            | succ tried =>
                have next := fails tried (Nat.lt_of_succ_lt_succ inside)
                rwa [Nat.add_assoc, Nat.add_comm 1] at next
          · intro fails tried inside
            have next := fails (tried + 1) (Nat.succ_lt_succ inside)
            rwa [Nat.add_assoc, Nat.add_comm 1]

theorem stream_chunk_fails (acks : Nat → Bool) (ctx : StreamCtx) (offset part : UInt32) (initiated : ctx.initiated = true)
    (passes : ¬ ctx.buffSize < offset + part) (fails : ∀ i < LARGE_TRANSFER_SEND_RETRY_AMOUNT, acks i = false) :
    ∃ sent, streamChunk part offset acks ctx = ({ ctx with initiated := false }, sent, .TIMED_OUT) := by
  have tried : (sendTries acks LARGE_TRANSFER_SEND_RETRY_AMOUNT 0).2 = false :=
    (tries_fail acks _ 0).mpr (fun i inside => by rw [Nat.zero_add]; exact fails i inside)
  have result : sendTries acks LARGE_TRANSFER_SEND_RETRY_AMOUNT 0 =
      ((sendTries acks LARGE_TRANSFER_SEND_RETRY_AMOUNT 0).1, false) := Prod.ext rfl tried
  refine ⟨(sendTries acks LARGE_TRANSFER_SEND_RETRY_AMOUNT 0).1, ?_⟩
  rw [streamChunk, if_neg (by simp [initiated]), if_neg passes, result]

theorem stream_chunk_acked (acks : Nat → Bool) (ctx : StreamCtx) (offset part : UInt32) (initiated : ctx.initiated = true)
    (passes : ¬ ctx.buffSize < offset + part) (acked : ¬ ∀ i < LARGE_TRANSFER_SEND_RETRY_AMOUNT, acks i = false) :
    ∃ sent, streamChunk part offset acks ctx = (ctx, sent, .OK) := by
  have tried : (sendTries acks LARGE_TRANSFER_SEND_RETRY_AMOUNT 0).2 = true := by
    rw [← Bool.not_eq_false, tries_fail]
    intro fails
    exact acked (fun i inside => by simpa using fails i inside)
  have result : sendTries acks LARGE_TRANSFER_SEND_RETRY_AMOUNT 0 =
      ((sendTries acks LARGE_TRANSFER_SEND_RETRY_AMOUNT 0).1, true) := Prod.ext rfl tried
  refine ⟨(sendTries acks LARGE_TRANSFER_SEND_RETRY_AMOUNT 0).1, ?_⟩
  rw [streamChunk, if_neg (by simp [initiated]), if_neg passes, result]

theorem umin_to_nat (a b : UInt32) : (min a b).toNat = min a.toNat b.toNat := by
  change (if a ≤ b then a else b).toNat = _
  split
  · rename_i below
    exact (Nat.min_eq_left (UInt32.le_iff_toNat_le.mp below)).symm
  · rename_i above
    exact (Nat.min_eq_right (Nat.le_of_lt (UInt32.lt_iff_toNat_lt.mp (UInt32.not_le.mp above)))).symm

theorem part_to_nat (size offset : UInt32) (chunkSize : UInt8) (inside : offset < size) :
    (actualChunkSize size offset chunkSize).toNat = min chunkSize.toNat (size.toNat - offset.toNat) := by
  have room : offset.toNat ≤ size.toNat := Nat.le_of_lt (UInt32.lt_iff_toNat_lt.mp inside)
  rw [actualChunkSize, umin_to_nat, UInt32.toNat_sub_of_le _ _ (UInt32.le_iff_toNat_le.mpr room), UInt8.toNat_toUInt32]

theorem next_offset (size offset : UInt32) (chunkSize : UInt8) (inside : offset < size) :
    (offset + actualChunkSize size offset chunkSize).toNat =
      offset.toNat + min chunkSize.toNat (size.toNat - offset.toNat) := by
  have part := part_to_nat size offset chunkSize inside
  have room : offset.toNat < size.toNat := UInt32.lt_iff_toNat_lt.mp inside
  have range : size.toNat < 2 ^ 32 := size.toNat_lt
  rw [UInt32.toNat_add, part, Nat.mod_eq_of_lt]
  generalize offset.toNat = at_ at room ⊢
  omega

section Loop

variable (size : UInt32) (chunkSize : UInt8) (acks : Nat → Nat → Bool)

-- The stream that sendLarge has begun.
structure Opened (ctx : StreamCtx) : Prop where
  initiated : ctx.initiated = true
  sized : ctx.buffSize = size

theorem loop_over (fuel index : Nat) (offset : UInt32) (ctx : StreamCtx) (ended : ¬ offset < size) :
    sendChunks size chunkSize acks (fuel + 1) index offset ctx = some ⟨[], offset, (streamEnd ctx).1⟩ := by
  rw [sendChunks, if_neg ended]

theorem chunk_passes (offset : UInt32) (ctx : StreamCtx) (opened : Opened size ctx) (inside : offset < size) :
    ¬ ctx.buffSize < offset + actualChunkSize size offset chunkSize := by
  have next := next_offset size offset chunkSize inside
  have room : offset.toNat < size.toNat := UInt32.lt_iff_toNat_lt.mp inside
  intro beyond
  rw [opened.sized, UInt32.lt_iff_toNat_lt, next] at beyond
  omega

theorem loop_fails (fuel index : Nat) (offset : UInt32) (ctx : StreamCtx) (opened : Opened size ctx)
    (inside : offset < size) (fails : AckFails acks index) :
    ∃ ended, sendChunks size chunkSize acks (fuel + 1) index offset ctx =
      some ⟨[⟨offset, actualChunkSize size offset chunkSize, .TIMED_OUT⟩], 0, ended⟩ := by
  obtain ⟨sent, done⟩ := stream_chunk_fails (acks index) ctx offset (actualChunkSize size offset chunkSize)
    opened.initiated (chunk_passes size chunkSize offset ctx opened inside) fails
  refine ⟨{ ctx with initiated := false }, ?_⟩
  simp only [sendChunks, if_pos inside, done]

theorem loop_acked (fuel index : Nat) (offset : UInt32) (ctx : StreamCtx) (opened : Opened size ctx)
    (inside : offset < size) (acked : ¬ AckFails acks index) :
    sendChunks size chunkSize acks (fuel + 1) index offset ctx =
      (sendChunks size chunkSize acks fuel (index + 1) (offset + actualChunkSize size offset chunkSize) ctx).map
        fun sent => { sent with chunks := ⟨offset, actualChunkSize size offset chunkSize, .OK⟩ :: sent.chunks } := by
  obtain ⟨sent, done⟩ := stream_chunk_acked (acks index) ctx offset (actualChunkSize size offset chunkSize)
    opened.initiated (chunk_passes size chunkSize offset ctx opened inside) acked
  simp only [sendChunks, if_pos inside, done]

-- With a positive chunk size every chunk brings the offset nearer to the size.
theorem loop_ends (positive : 0 < chunkSize.toNat) (left index : Nat) (offset : UInt32) (ctx : StreamCtx)
    (opened : Opened size ctx) (enough : size.toNat - offset.toNat ≤ left) :
    (sendChunks size chunkSize acks (left + 1) index offset ctx).isSome = true := by
  induction left generalizing index offset with
  | zero =>
      have ended : ¬ offset < size := by
        rw [UInt32.lt_iff_toNat_lt]
        omega
      rw [loop_over size chunkSize acks 0 index offset ctx ended]
      rfl
  | succ left ih =>
      by_cases inside : offset < size
      · by_cases fails : AckFails acks index
        · obtain ⟨ended, done⟩ := loop_fails size chunkSize acks (left + 1) index offset ctx opened inside fails
          rw [done]
          rfl
        · have next := next_offset size offset chunkSize inside
          have room : offset.toNat < size.toNat := UInt32.lt_iff_toNat_lt.mp inside
          rw [loop_acked size chunkSize acks (left + 1) index offset ctx opened inside fails, Option.isSome_map]
          apply ih
          omega
      · rw [loop_over size chunkSize acks (left + 1) index offset ctx inside]
        rfl

theorem loop_result (positive : 0 < chunkSize.toNat) (fuel index : Nat) (offset : UInt32) (ctx : StreamCtx)
    (sent : LargeSent) (opened : Opened size ctx) (before : offset.toNat ≤ size.toNat)
    (done : sendChunks size chunkSize acks fuel index offset ctx = some sent) :
    (sent.ret = 0 ∨ sent.ret = size) ∧ (sent.ret = size → Partitions offset.toNat size.toNat sent.chunks) := by
  induction fuel generalizing index offset sent with
  | zero => cases done
  | succ fuel ih =>
      by_cases inside : offset < size
      · have part := part_to_nat size offset chunkSize inside
        have next := next_offset size offset chunkSize inside
        have room : offset.toNat < size.toNat := UInt32.lt_iff_toNat_lt.mp inside
        by_cases fails : AckFails acks index
        · obtain ⟨ended, failed⟩ := loop_fails size chunkSize acks fuel index offset ctx opened inside fails
          rw [failed] at done
          cases done
          refine ⟨.inl rfl, fun whole => ?_⟩
          rw [← whole] at room
          exact absurd room (Nat.not_lt_zero _)
        · rw [loop_acked size chunkSize acks fuel index offset ctx opened inside fails, Option.map_eq_some_iff] at done
          obtain ⟨rest, later, rfl⟩ := done
          have nearer : (offset + actualChunkSize size offset chunkSize).toNat ≤ size.toNat := by
            rw [next]
            omega
          obtain ⟨value, parts⟩ := ih (index + 1) _ rest nearer later
          have filled : 0 < (actualChunkSize size offset chunkSize).toNat := by
            rw [part]
            omega
          refine ⟨value, fun whole => ⟨rfl, filled, rfl, ?_⟩⟩
          have tail := parts whole
          rwa [next, ← part] at tail
      · rw [loop_over size chunkSize acks fuel index offset ctx inside] at done
        cases done
        have stop : offset = size := by
          apply UInt32.toNat_inj.mp
          rw [UInt32.lt_iff_toNat_lt] at inside
          omega
        exact ⟨.inr stop, fun _ => congrArg UInt32.toNat stop⟩

-- With the chunk size 0 the offset stays, and only a chunk that fails ends the loop.
theorem loop_stalls (zero : chunkSize = 0) (fuel index : Nat) (offset : UInt32) (ctx : StreamCtx)
    (sent : LargeSent) (opened : Opened size ctx) (inside : offset < size)
    (done : sendChunks size chunkSize acks fuel index offset ctx = some sent) :
    sent.ret = 0 ∧ ∃ failed, AckFails acks failed := by
  induction fuel generalizing index offset sent with
  | zero => cases done
  | succ fuel ih =>
      by_cases fails : AckFails acks index
      · obtain ⟨ended, failed⟩ := loop_fails size chunkSize acks fuel index offset ctx opened inside fails
        rw [failed] at done
        cases done
        exact ⟨rfl, index, fails⟩
      · have next := next_offset size offset chunkSize inside
        rw [zero, UInt8.toNat_zero, Nat.zero_min, Nat.add_zero, ← zero] at next
        rw [loop_acked size chunkSize acks fuel index offset ctx opened inside fails, Option.map_eq_some_iff] at done
        obtain ⟨rest, later, rfl⟩ := done
        apply ih (index + 1) _ rest ?_ later
        rw [UInt32.lt_iff_toNat_lt, next]
        exact UInt32.lt_iff_toNat_lt.mp inside

theorem loop_fails_at (failed : Nat) (fails : AckFails acks failed) (left index : Nat) (offset : UInt32)
    (ctx : StreamCtx) (opened : Opened size ctx) (reaches : index + left = failed) :
    (sendChunks size chunkSize acks (left + 1) index offset ctx).isSome = true := by
  induction left generalizing index offset with
  | zero =>
      by_cases inside : offset < size
      · obtain ⟨ended, done⟩ := loop_fails size chunkSize acks 0 index offset ctx opened inside
          (by rwa [← reaches] at fails)
        rw [done]
        rfl
      · rw [loop_over size chunkSize acks 0 index offset ctx inside]
        rfl
  | succ left ih =>
      by_cases inside : offset < size
      · by_cases now : AckFails acks index
        · obtain ⟨ended, done⟩ := loop_fails size chunkSize acks (left + 1) index offset ctx opened inside now
          rw [done]
          rfl
        · rw [loop_acked size chunkSize acks (left + 1) index offset ctx opened inside now, Option.isSome_map]
          apply ih
          omega
      · rw [loop_over size chunkSize acks (left + 1) index offset ctx inside]
        rfl

end Loop

section Returning

variable (size : UInt32) (chunkSize : UInt8) (answer : Option Bool) (acks : Nat → Nat → Bool) (ctx : StreamCtx)

theorem begin_refused (refused : answer ≠ some true) (fuel : Nat) :
    ∃ ended, sendLarge size chunkSize answer acks ctx fuel = some ⟨[], 0, ended⟩ := by
  cases answer with
  | none => exact ⟨_, rfl⟩
  | some transfOk =>
      cases transfOk with
      | true => exact absurd rfl refused
      | false => exact ⟨_, rfl⟩

theorem begin_accepted (fuel : Nat) :
    sendLarge size chunkSize (some true) acks ctx fuel = sendChunks size chunkSize acks fuel 0 0 ⟨size, true⟩ := rfl

theorem large_result (fuel : Nat) (sent : LargeSent)
    (done : sendLarge size chunkSize answer acks ctx fuel = some sent) :
    (sent.ret = 0 ∨ sent.ret = size) ∧ (sent.ret = size → Partitions 0 size.toNat sent.chunks) := by
  by_cases accepted : answer = some true
  · rw [accepted, begin_accepted] at done
    have opened : Opened size ⟨size, true⟩ := ⟨rfl, rfl⟩
    by_cases positive : 0 < chunkSize.toNat
    · exact loop_result size chunkSize acks positive fuel 0 0 ⟨size, true⟩ sent opened (Nat.zero_le _) done
    · have zero : chunkSize = 0 := UInt8.toNat_inj.mp (Nat.eq_zero_of_not_pos positive)
      by_cases inside : 0 < size
      · have stalled := (loop_stalls size chunkSize acks zero fuel 0 0 ⟨size, true⟩ sent opened inside done).1
        refine ⟨.inl stalled, fun whole => ?_⟩
        rw [← whole, stalled] at inside
        exact absurd inside (UInt32.lt_irrefl 0)
      · cases fuel with
        | zero => cases done
        | succ fuel =>
            have empty : (0 : UInt32) = size := by
              apply UInt32.toNat_inj.mp
              rw [UInt32.lt_iff_toNat_lt] at inside
              exact (Nat.eq_zero_of_not_pos inside).symm
            rw [loop_over size chunkSize acks fuel 0 0 ⟨size, true⟩ inside] at done
            cases done
            exact ⟨.inl rfl, fun _ => congrArg UInt32.toNat empty⟩
  · obtain ⟨ended, refused⟩ := begin_refused size chunkSize answer acks ctx accepted fuel
    rw [refused] at done
    cases done
    exact ⟨.inl rfl, fun whole => congrArg UInt32.toNat whole⟩

-- A chunk size of 0 makes no progress: only a failing chunk, or a stream that is
-- not begun, brings sendLarge back.
theorem send_large_returns :
    Returns size chunkSize answer acks ctx ↔
      size = 0 ∨ chunkSize ≠ 0 ∨ answer ≠ some true ∨ ∃ failed, AckFails acks failed := by
  constructor
  · intro returns
    by_contra stuck
    simp only [not_or, not_not] at stuck
    obtain ⟨filled, zero, accepted, acked⟩ := stuck
    obtain ⟨fuel, ended⟩ := returns.ends
    obtain ⟨sent, done⟩ := Option.isSome_iff_exists.mp ended
    rw [accepted, begin_accepted] at done
    have inside : 0 < size := by
      rw [UInt32.lt_iff_toNat_lt]
      exact Nat.pos_of_ne_zero (fun none => filled (UInt32.toNat_inj.mp none))
    exact acked (loop_stalls size chunkSize acks zero fuel 0 0 ⟨size, true⟩ sent ⟨rfl, rfl⟩ inside done).2
  · intro condition
    refine ⟨?_, large_result size chunkSize answer acks ctx⟩
    by_cases accepted : answer = some true
    · have opened : Opened size ⟨size, true⟩ := ⟨rfl, rfl⟩
      rw [accepted]
      simp only [begin_accepted]
      rcases condition with empty | positive | refused | ⟨failed, fails⟩
      · refine ⟨1, ?_⟩
        rw [loop_over size chunkSize acks 0 0 0 ⟨size, true⟩ (by rw [empty]; exact UInt32.lt_irrefl 0)]
        rfl
      · refine ⟨size.toNat + 1, ?_⟩
        apply loop_ends size chunkSize acks _ size.toNat 0 0 ⟨size, true⟩ opened (Nat.sub_le _ _)
        exact Nat.pos_of_ne_zero (fun zero => positive (UInt8.toNat_inj.mp zero))
      · exact absurd accepted refused
      · exact ⟨failed + 1, loop_fails_at size chunkSize acks failed fails failed 0 0 ⟨size, true⟩ opened (Nat.zero_add _)⟩
    · obtain ⟨ended, done⟩ := begin_refused size chunkSize answer acks ctx accepted 0
      refine ⟨0, ?_⟩
      rw [done]
      rfl

end Returning

-- One byte in chunks of none, to a peer that accepts and answers everything.
theorem zero_chunks_never_return :
    (∀ fuel, sendLarge 1 0 (some true) (fun _ _ => true) ⟨0, false⟩ fuel = none) ∧
      ¬ Returns 1 0 (some true) (fun _ _ => true) ⟨0, false⟩ := by
  have never (fuel : Nat) : sendLarge 1 0 (some true) (fun _ _ => true) ⟨0, false⟩ fuel = none := by
    rw [Option.eq_none_iff_forall_ne_some]
    intro sent done
    have inside : (0 : UInt32) < 1 := by decide
    obtain ⟨_, failed, fails⟩ := loop_stalls 1 0 (fun _ _ => true) rfl fuel 0 0 ⟨1, true⟩ sent ⟨rfl, rfl⟩ inside done
    have unanswered : true = false := fails 0 (by decide)
    cases unanswered
  refine ⟨never, fun returns => ?_⟩
  obtain ⟨fuel, ended⟩ := returns.ends
  rw [never] at ended
  cases ended

end Animacharacter.SerialDevice.StreamSender
