import Animacharacter.Library.StepSystem
import Animacharacter.SerialDevice.Device

set_option autoImplicit false

namespace Animacharacter.SerialDevice.StreamSender

open Bytes StepSystem

inductive Target where
  | avr
  | esp32
deriving DecidableEq, Repr

def Target.sizeT : Target → Nat
  | .avr => 2 ^ 16
  | .esp32 => 2 ^ 32

inductive StreamOpOutcome where
  | OK
  | TIMED_OUT
  | NOT_INITIATED
  | REFUSED
  | CHUNK_OUT_OF_BOUNDS
deriving DecidableEq, Repr

structure StreamCtx where
  buffSize : UInt32
  initiated : Bool
deriving DecidableEq, Repr

-- The bytes of a buffer, which is the memory from a pointer on.
def bytesFrom (buffer : Nat → UInt8) (count : Nat) : List UInt8 := (List.range count).map buffer

-- txBytes(buff, size): the list holds the txBuffNextIdx bytes that send() will
-- take. The test is made in size_t; what a copy writes past txBuff is not followed.
def txBytes (target : Target) (txBuff : List UInt8) (buff : Nat → UInt8) (size : Nat) : List UInt8 :=
  if (size + txBuff.length) % target.sizeT > TX_BUFF_SIZE then txBuff
  else (txBuff ++ bytesFrom buff size).take ((size + txBuff.length) % target.sizeT)

-- The tx buffer is clear; the uint32_t size is converted to the size_t of txBytes.
def chunkPayload (target : Target) (buffer : Nat → UInt8) (size offset : UInt32) : List UInt8 :=
  txBytes target (txObj [] (le32 offset.toNat)) buffer (size.toNat % target.sizeT)

-- `answer` is the BEGIN_RESP that waitPacketOfId gets within its timeout, if it gets one.
def streamBegin (buffSize : UInt32) (answer : Option Bool) (ctx : StreamCtx) : StreamCtx × StreamOpOutcome :=
  let ctx := { ctx with buffSize := buffSize }
  match answer with
  | none => (ctx, .TIMED_OUT)
  | some transfOk => ({ ctx with initiated := transfOk }, if transfOk then .OK else .REFUSED)

-- The for loop of streamChunk with so many tries left: how often the packet is
-- sent, and whether its ACK has arrived.
def sendTries (acks : Nat → Bool) : Nat → Nat → Nat × Bool
  | 0, _ => (0, false)
  | left + 1, i => if acks i then (1, true) else ((sendTries acks left (i + 1)).1 + 1, (sendTries acks left (i + 1)).2)

-- The CHUNK packets are the same in every try, so the number of them is returned.
def streamChunk (size offset : UInt32) (acks : Nat → Bool) (ctx : StreamCtx) : StreamCtx × Nat × StreamOpOutcome :=
  if ctx.initiated = false then (ctx, 0, .NOT_INITIATED)
  else if ctx.buffSize < offset + size then (ctx, 0, .CHUNK_OUT_OF_BOUNDS)
  else
    match sendTries acks LARGE_TRANSFER_SEND_RETRY_AMOUNT 0 with
    | (sent, true) => (ctx, sent, .OK)
    | (sent, false) => ({ ctx with initiated := false }, sent, .TIMED_OUT)

def streamEnd (ctx : StreamCtx) : StreamCtx × StreamOpOutcome :=
  if ctx.initiated = false then (ctx, .NOT_INITIATED) else ({ ctx with initiated := false }, .OK)

-- A CHUNK packet on the wire: the size of the accepted stream it was sent in,
-- the arguments of its streamChunk and its payload.
structure ChunkSent where
  accepted : Option UInt32
  buffer : Nat → UInt8
  size : UInt32
  offset : UInt32
  payload : List UInt8

-- `accepted` is the size of the last accepted stream, until its end, its time-out
-- or a refused streamBegin.
structure Sender where
  ctx : StreamCtx
  accepted : Option UInt32
  chunks : List ChunkSent

inductive SenderCall where
  | streamBegin (buffSize : UInt32) (answer : Option Bool)
  | streamChunk (buffer : Nat → UInt8) (size offset : UInt32) (acks : Nat → Bool)
  | streamEnd

namespace Sender

def step (target : Target) (sender : Sender) : SenderCall → Option Sender
  | .streamBegin buffSize answer => some { sender with
      ctx := (StreamSender.streamBegin buffSize answer sender.ctx).1
      accepted :=
        match answer with
        | none => sender.accepted
        | some transfOk => if transfOk then some buffSize else none }
  | .streamChunk buffer size offset acks =>
      let done := StreamSender.streamChunk size offset acks sender.ctx
      some { sender with
        ctx := done.1
        accepted := if done.2.2 = .TIMED_OUT then none else sender.accepted
        chunks := sender.chunks ++ List.replicate done.2.1
          ⟨sender.accepted, buffer, size, offset, chunkPayload target buffer size offset⟩ }
  | .streamEnd => some { sender with
      ctx := (StreamSender.streamEnd sender.ctx).1
      accepted := if (StreamSender.streamEnd sender.ctx).2 = .OK then none else sender.accepted }

end Sender

def streamSender (target : Target) : System Sender SenderCall where
  start sender := sender.ctx = ⟨0, false⟩ ∧ sender.accepted = none ∧ sender.chunks = []
  step := Sender.step target

structure ChunkSent.Guarded (sent : ChunkSent) : Prop where
  inside : ∃ total, sent.accepted = some total ∧ sent.offset.toNat + sent.size.toNat ≤ total.toNat
  whole : sent.payload = le32 sent.offset.toNat ++ bytesFrom sent.buffer sent.size.toNat

def Sender.AllGuarded (sender : Sender) : Prop := ∀ sent ∈ sender.chunks, sent.Guarded

-- For a chunk that passes the two tests of streamChunk: it fits the packet, its
-- end is no more than a uint32_t, and the size tested against is the accepted
-- one, or the chunk lies within that one too.
def Sender.fits (sender : Sender) : SenderCall → Prop
  | .streamBegin _ _ | .streamEnd => True
  | .streamChunk _ size offset _ =>
      sender.ctx.initiated = true → offset + size ≤ sender.ctx.buffSize →
        size.toNat + 4 ≤ TX_BUFF_SIZE ∧ offset.toNat + size.toNat < 2 ^ 32 ∧
          ∀ total ∈ sender.accepted, total = sender.ctx.buffSize ∨ offset.toNat + size.toNat ≤ total.toNat

-- The range of `total` is the Option, not all of UInt32.
instance (sender : Sender) : (call : SenderCall) → Decidable (sender.fits call)
  | .streamBegin _ _ | .streamEnd => inferInstanceAs (Decidable True)
  | .streamChunk _ size offset _ =>
      have : Decidable (∀ total ∈ sender.accepted,
          total = sender.ctx.buffSize ∨ offset.toNat + size.toNat ≤ total.toNat) :=
        Option.decidableForallMem sender.accepted
      inferInstanceAs (Decidable (_ → _ → size.toNat + 4 ≤ TX_BUFF_SIZE ∧ offset.toNat + size.toNat < 2 ^ 32 ∧ _))

theorem bytes_from_length (buffer : Nat → UInt8) (count : Nat) : (bytesFrom buffer count).length = count := by
  rw [bytesFrom, List.length_map, List.length_range]

theorem size_t_range (target : Target) : 2 ^ 16 ≤ target.sizeT := by
  cases target <;> decide

theorem chunk_payload_fits (target : Target) (buffer : Nat → UInt8) (size offset : UInt32)
    (fits : size.toNat + 4 ≤ TX_BUFF_SIZE) :
    chunkPayload target buffer size offset = le32 offset.toNat ++ bytesFrom buffer size.toNat := by
  have range := size_t_range target
  have bound : size.toNat + 4 ≤ 254 := fits
  have whole : (le32 offset.toNat ++ bytesFrom buffer size.toNat).length = size.toNat + 4 := by
    rw [List.length_append, le32_length, bytes_from_length, Nat.add_comm]
  rw [chunkPayload, tx_obj_offset, Nat.mod_eq_of_lt (by omega), txBytes, le32_length, Nat.mod_eq_of_lt (by omega),
    if_neg (Nat.not_lt.mpr fits), List.take_of_length_le (Nat.le_of_eq whole)]

theorem chunk_payload_length (target : Target) (buffer : Nat → UInt8) (size offset : UInt32) :
    (chunkPayload target buffer size offset).length ≤ TX_BUFF_SIZE := by
  rw [chunkPayload, tx_obj_offset, txBytes]
  split
  · rw [le32_length]
    decide
  · rename_i room
    exact Nat.le_trans (List.length_take_le _ _) (Nat.not_lt.mp room)

theorem chunk_payload_whole (target : Target) (buffer : Nat → UInt8) (size offset : UInt32) :
    chunkPayload target buffer size offset = le32 offset.toNat ++ bytesFrom buffer size.toNat ↔
      size.toNat + 4 ≤ TX_BUFF_SIZE := by
  constructor
  · intro whole
    have bound := chunk_payload_length target buffer size offset
    rw [whole, List.length_append, le32_length, bytes_from_length] at bound
    omega
  · exact chunk_payload_fits target buffer size offset

-- The sum in the test is one of uint32_t.
theorem guard_sum (offset size buffSize : UInt32) (passed : offset + size ≤ buffSize)
    (inside : offset.toNat + size.toNat < 2 ^ 32) : offset.toNat + size.toNat ≤ buffSize.toNat := by
  have sum : (offset + size).toNat = offset.toNat + size.toNat := by
    rw [UInt32.toNat_add]
    exact Nat.mod_eq_of_lt inside
  rw [← sum]
  exact UInt32.le_iff_toNat_le.mp passed

theorem sends_once (acks : Nat → Bool) (left i : Nat) : 0 < (sendTries acks (left + 1) i).1 := by
  rw [sendTries]
  split
  · exact Nat.one_pos
  · exact Nat.succ_pos _

theorem chunk_sent_iff (size offset : UInt32) (acks : Nat → Bool) (ctx : StreamCtx) :
    0 < (streamChunk size offset acks ctx).2.1 ↔ ctx.initiated = true ∧ offset + size ≤ ctx.buffSize := by
  unfold streamChunk
  split
  · rename_i closed
    simp [closed]
  · rename_i opened
    split
    · rename_i beyond
      apply iff_of_false (Nat.lt_irrefl 0)
      rintro ⟨_, passed⟩
      exact UInt32.not_le.mpr beyond passed
    · rename_i passed
      apply iff_of_true
      · have once := sends_once acks 4 0
        split
        · rename_i sent tried
          rw [LARGE_TRANSFER_SEND_RETRY_AMOUNT] at tried
          rwa [tried] at once
        · rename_i sent tried
          rw [LARGE_TRANSFER_SEND_RETRY_AMOUNT] at tried
          rwa [tried] at once
      · exact ⟨by simpa using opened, UInt32.not_lt.mp passed⟩

-- What a streamChunk that passes the tests of its two guards transmits.
theorem chunk_guarded (target : Target) (accepted : Option UInt32) (buffer : Nat → UInt8)
    (size offset buffSize : UInt32) (opened : accepted.isSome = true) (passed : offset + size ≤ buffSize) :
    ChunkSent.Guarded ⟨accepted, buffer, size, offset, chunkPayload target buffer size offset⟩ ↔
      size.toNat + 4 ≤ TX_BUFF_SIZE ∧ offset.toNat + size.toNat < 2 ^ 32 ∧
        ∀ total ∈ accepted, total = buffSize ∨ offset.toNat + size.toNat ≤ total.toNat := by
  obtain ⟨total, rfl⟩ := Option.isSome_iff_exists.mp opened
  constructor
  · rintro ⟨⟨_, known, inside⟩, whole⟩
    cases known
    refine ⟨(chunk_payload_whole target buffer size offset).mp whole, Nat.lt_of_le_of_lt inside total.toNat_lt, ?_⟩
    intro other known
    cases known
    exact .inr inside
  · rintro ⟨fits, unwrapped, within⟩
    refine ⟨⟨total, rfl, ?_⟩, chunk_payload_fits target buffer size offset fits⟩
    rcases within total rfl with rfl | inside
    · exact guard_sum offset size total passed unwrapped
    · exact inside

namespace Sender

-- The flag that streamChunk tests is set while a stream is accepted.
structure Tracked (sender : Sender) : Prop where
  initiated : sender.ctx.initiated = true ↔ sender.accepted.isSome = true

theorem step_tracked (target : Target) (source next : Sender) (call : SenderCall) (tracked : source.Tracked)
    (moved : source.step target call = some next) : next.Tracked := by
  constructor
  cases call with
  | streamBegin buffSize answer =>
      cases moved
      cases answer with
      | none => exact tracked.initiated
      | some transfOk => cases transfOk <;> simp [StreamSender.streamBegin]
  | streamChunk buffer size offset acks =>
      cases moved
      simp only [StreamSender.streamChunk]
      split
      · simpa using tracked.initiated
      · split
        · simpa using tracked.initiated
        · split
          · simpa using tracked.initiated
          · simp
  | streamEnd =>
      cases moved
      simp only [StreamSender.streamEnd]
      split
      · simpa using tracked.initiated
      · simp

theorem guarded_append (sender : Sender) (sent : ChunkSent) (count : Nat) (guarded : sender.AllGuarded)
    (some : 0 < count) (ctx : StreamCtx) (accepted : Option UInt32) :
    AllGuarded ⟨ctx, accepted, sender.chunks ++ List.replicate count sent⟩ ↔ sent.Guarded := by
  constructor
  · intro all
    exact all sent (List.mem_append_right _ (List.mem_replicate.mpr ⟨Nat.ne_of_gt some, rfl⟩))
  · intro fresh other member
    rcases List.mem_append.mp member with old | new
    · exact guarded other old
    · rw [List.eq_of_mem_replicate new]
      exact fresh

theorem step_guarded (target : Target) (source next : Sender) (call : SenderCall) (tracked : source.Tracked)
    (guarded : source.AllGuarded) (moved : source.step target call = some next) :
    next.AllGuarded ↔ source.fits call := by
  cases call with
  | streamBegin buffSize answer =>
      cases moved
      exact iff_of_true guarded trivial
  | streamEnd =>
      cases moved
      exact iff_of_true guarded trivial
  | streamChunk buffer size offset acks =>
      cases moved
      have sent := chunk_sent_iff size offset acks source.ctx
      by_cases passed : source.ctx.initiated = true ∧ offset + size ≤ source.ctx.buffSize
      · rw [guarded_append source _ _ guarded (sent.mpr passed),
          chunk_guarded target source.accepted buffer size offset source.ctx.buffSize
            (tracked.initiated.mp passed.1) passed.2]
        exact ⟨fun condition _ _ => condition, fun fits => fits passed.1 passed.2⟩
      · have none : (StreamSender.streamChunk size offset acks source.ctx).2.1 = 0 :=
          Nat.eq_zero_of_not_pos (fun some => passed (sent.mp some))
        rw [none, List.replicate_zero, List.append_nil]
        exact iff_of_true guarded (fun initiated inside => absurd ⟨initiated, inside⟩ passed)

theorem reached_tracked (target : Target) (sender : Sender)
    (reached : Reached (streamSender target) fits sender) : sender.Tracked ∧ sender.AllGuarded := by
  apply reached_invariant (streamSender target) fits (fun sender => sender.Tracked ∧ sender.AllGuarded) ?_ ?_ sender
    reached
  · rintro initial ⟨ctx, accepted, chunks⟩
    refine ⟨⟨by simp [ctx, accepted]⟩, fun sent member => ?_⟩
    rw [chunks] at member
    cases member
  · intro source call next inv fits moved
    exact ⟨step_tracked target source next call inv.1 moved,
      (step_guarded target source next call inv.1 inv.2 moved).mpr fits⟩

theorem sender_guarded (target : Target) (sender : Sender) (reached : Reached (streamSender target) fits sender) :
    sender.AllGuarded ∧ ∀ call next, sender.step target call = some next →
      (next.AllGuarded ↔ sender.fits call) := by
  obtain ⟨tracked, guarded⟩ := reached_tracked target sender reached
  exact ⟨guarded, fun call next moved => step_guarded target sender next call tracked guarded moved⟩

def idleSender : Sender where
  ctx := ⟨0, false⟩
  accepted := none
  chunks := []

-- A stream of 16 bytes whose second chunk gets its ACK at the second try.
def twoChunkStream : List SenderCall :=
  [.streamBegin 16 (some true), .streamChunk (fun _ => 1) 10 0 (fun _ => true),
    .streamChunk (fun _ => 2) 6 10 (fun i => i = 1), .streamEnd]

theorem sender_guarded_two_chunks : ∃ sender : Sender,
    sender.chunks.map (fun sent => sent.payload.length) = [14, 10, 10] ∧ sender.AllGuarded := by
  obtain ⟨sender, reached, payloads⟩ := replay_exists (streamSender .avr) fits twoChunkStream idleSender
    (fun sender => sender.chunks.map (fun sent => sent.payload.length) = [14, 10, 10])
    ⟨rfl, rfl, rfl⟩ (by decide +kernel)
  exact ⟨sender, payloads, (sender_guarded .avr sender reached).1⟩

-- A chunk of 16 bytes at 2^32 - 8, in a stream of 16 bytes: the sum wraps to 8.
def wrappedChunk : List SenderCall :=
  [.streamBegin 16 (some true), .streamChunk (fun _ => 1) 16 4294967288 (fun _ => true)]

-- A chunk of 251 bytes does not fit after its offset, and only the offset is sent.
def longChunk : List SenderCall :=
  [.streamBegin 251 (some true), .streamChunk (fun _ => 1) 251 0 (fun _ => true)]

theorem unguarded_chunks :
    (∃ sender : Sender, Reached (streamSender .esp32) anyAction sender ∧
      (∃ sent ∈ sender.chunks, sent.accepted = some 16 ∧ sent.offset = 4294967288 ∧ sent.size = 16) ∧
      ¬ sender.AllGuarded) ∧
    ∃ sender : Sender, Reached (streamSender .esp32) anyAction sender ∧
      (∃ sent ∈ sender.chunks, sent.size = 251 ∧ sent.payload = [0, 0, 0, 0]) ∧ ¬ sender.AllGuarded := by
  constructor
  · obtain ⟨sender, reached, sent, member, accepted, offset, size⟩ :=
      replay_exists (streamSender .esp32) anyAction wrappedChunk idleSender
        (fun sender => ∃ sent ∈ sender.chunks, sent.accepted = some 16 ∧ sent.offset = 4294967288 ∧ sent.size = 16)
        ⟨rfl, rfl, rfl⟩ (by decide +kernel)
    refine ⟨sender, reached, ⟨sent, member, accepted, offset, size⟩, fun guarded => ?_⟩
    obtain ⟨total, known, inside⟩ := (guarded sent member).inside
    rw [accepted] at known
    cases known
    rw [offset, size] at inside
    exact absurd inside (by decide)
  · obtain ⟨sender, reached, sent, member, size, payload⟩ :=
      replay_exists (streamSender .esp32) anyAction longChunk idleSender
        (fun sender => ∃ sent ∈ sender.chunks, sent.size = 251 ∧ sent.payload = [0, 0, 0, 0])
        ⟨rfl, rfl, rfl⟩ (by decide +kernel)
    refine ⟨sender, reached, ⟨sent, member, size, payload⟩, fun guarded => ?_⟩
    have lengths := congrArg List.length (guarded sent member).whole
    rw [payload, size, List.length_append, le32_length, bytes_from_length] at lengths
    exact absurd lengths (by decide)

end Sender

end Animacharacter.SerialDevice.StreamSender
