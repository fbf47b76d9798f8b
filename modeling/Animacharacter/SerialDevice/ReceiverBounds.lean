import Animacharacter.SerialDevice.Completeness

set_option autoImplicit false

namespace Animacharacter.SerialDevice

open Bytes StepSystem

structure Copy.InBounds (copy : Copy) : Prop where
  inside : copy.offset + copy.count ≤ copy.RxBuffSize
  announced : copy.count ≤ (copy.bytesRead.toNat + 2 ^ 32 - 4) % 2 ^ 32
  received : ∀ index < copy.count, 4 + index < copy.bytesRead.toNat

namespace Receiver

def Bounded (receiver : Receiver) : Prop := ∀ copy ∈ receiver.copies, copy.InBounds

-- A chunk taken into a bound buffer holds its offset, or names one past the buffer.
def offsetHeld (receiver : Receiver) : ReceiverAction → Prop
  | .tick _ | .configLargeRx _ => True
  | .receive packet =>
      packet.bytesRead ≠ 0 → packet.id = PACKID_LARGETX_CHUNK →
        (dropStale receiver.ctx (millis receiver.clock)).state = .RECVING →
          ∀ buffer ∈ receiver.ctx.RxBuff, 4 ≤ packet.bytesRead.toNat ∨ buffer.length ≤ packet.announced.1

instance (receiver : Receiver) : (action : ReceiverAction) → Decidable (receiver.offsetHeld action)
  | .tick _ | .configLargeRx _ => inferInstanceAs (Decidable True)
  | .receive packet => inferInstanceAs (Decidable (_ → _ → _ →
      ∀ buffer ∈ receiver.ctx.RxBuff, 4 ≤ packet.bytesRead.toNat ∨ buffer.length ≤ packet.announced.1))

end Receiver

namespace RxPacket

theorem begin_buffer (ctx : LargeRxCtx) (now : Nat) (packet : RxPacket) :
    (packet.handleLargeTxBegin ctx now).ctx.RxBuff = ctx.RxBuff := by
  have same := drop_stale_buffer ctx now
  unfold RxPacket.handleLargeTxBegin SerialDevice.handleLargeTxBegin
  generalize dropStale ctx now = live at same ⊢
  obtain ⟨timer, state, RxBuff, RecvHandler, ExpectedSize⟩ := live
  dsimp only at same ⊢
  subst same
  split
  · rfl
  · cases ctx.RxBuff with
    | none => rfl
    | some buffer =>
        dsimp only
        split <;> rfl

theorem end_buffer (ctx : LargeRxCtx) (now : Nat) (packet : RxPacket) :
    (packet.handleLargeTxEnd ctx now).ctx.RxBuff = ctx.RxBuff := by
  have same := drop_stale_buffer ctx now
  unfold RxPacket.handleLargeTxEnd SerialDevice.handleLargeTxEnd
  generalize dropStale ctx now = live at same ⊢
  obtain ⟨timer, state, RxBuff, RecvHandler, ExpectedSize⟩ := live
  dsimp only at same ⊢
  subst same
  split <;> rfl

theorem chunk_buffer (ctx : LargeRxCtx) (now : Nat) (packet : RxPacket) :
    (packet.handleLargeTxChunk ctx now).ctx.RxBuff =
      if (dropStale ctx now).state = .RECVING then
        ctx.RxBuff.map fun buffer =>
          writeAt buffer (packet.clamped buffer.length).1 (packet.recvBytes 4 (packet.clamped buffer.length).2)
      else ctx.RxBuff := by
  have same := drop_stale_buffer ctx now
  unfold RxPacket.handleLargeTxChunk
  generalize dropStale ctx now = live at same ⊢
  obtain ⟨timer, state, RxBuff, RecvHandler, ExpectedSize⟩ := live
  dsimp only at same ⊢
  subst same
  cases state with
  | READY => simp [ignored]
  | RECVING => cases ctx.RxBuff <;> simp [ignored]

-- The buffer after a packet is the one before it with the copied bytes in place.
theorem dispatch_copies (ctx : LargeRxCtx) (now : Nat) (packet : RxPacket) :
    (packet.dispatch ctx now).ctx.RxBuff =
      match packet.memcpyOf ctx now with
      | none => ctx.RxBuff
      | some copy => ctx.RxBuff.map fun buffer => writeAt buffer copy.offset (packet.recvBytes 4 copy.count) := by
  by_cases chunk : packet.id = PACKID_LARGETX_CHUNK
  · have other : packet.id ≠ PACKID_LARGETX_BEGIN := by
      rw [chunk]
      decide
    rw [dispatch, if_neg other, if_pos chunk, chunk_buffer]
    by_cases live : (dropStale ctx now).state = .RECVING
    · rw [memcpyOf, if_pos live, if_pos ⟨chunk, live⟩]
      cases ctx.RxBuff with
      | none => simp only [Option.map_none]
      | some buffer => simp only [Option.map_some]
    · have quiet : ¬ (packet.id = PACKID_LARGETX_CHUNK ∧ (dropStale ctx now).state = .RECVING) := fun both => live both.2
      rw [memcpyOf, if_neg live, if_neg quiet]
  · have quiet : ¬ (packet.id = PACKID_LARGETX_CHUNK ∧ (dropStale ctx now).state = .RECVING) := fun both => chunk both.1
    rw [memcpyOf, if_neg quiet]
    dsimp only
    unfold dispatch
    split
    · exact begin_buffer ctx now packet
    · split
      · exact end_buffer ctx now packet
      · rfl

-- For fewer than four bytes the difference wraps, and only the room in the
-- destination limits the copy.
theorem copy_in_bounds (packet : RxPacket) (RxBuffSize : Nat) (filled : packet.bytesRead ≠ 0) :
    Copy.InBounds ⟨RxBuffSize, packet.bytesRead, (packet.clamped RxBuffSize).1, (packet.clamped RxBuffSize).2⟩ ↔
      4 ≤ packet.bytesRead.toNat ∨ RxBuffSize ≤ packet.announced.1 := by
  have range : packet.bytesRead.toNat < 256 := packet.bytesRead.toNat_lt
  have positive : packet.bytesRead.toNat ≠ 0 := fun zero => filled (UInt8.toNat_inj.mp zero)
  have inside := packet.clamped_fits RxBuffSize
  have size : packet.announced.2 = (packet.bytesRead.toNat + 2 ^ 32 - 4) % 2 ^ 32 := rfl
  have start : (packet.clamped RxBuffSize).1 = min packet.announced.1 RxBuffSize := rfl
  have count : (packet.clamped RxBuffSize).2 = min packet.announced.2 (RxBuffSize - (packet.clamped RxBuffSize).1) := rfl
  generalize packet.clamped RxBuffSize = clamped at inside start count ⊢
  generalize packet.announced = announced at size start count ⊢
  generalize packet.bytesRead = bytesRead at *
  constructor
  · intro bounded
    by_contra short
    have some : 0 < clamped.2 := by omega
    have first : 4 + 0 < bytesRead.toNat := bounded.received 0 some
    omega
  · intro held
    refine ⟨inside, ?_, fun index taken => ?_⟩
    · dsimp only
      omega
    · dsimp only at taken ⊢
      omega

end RxPacket

namespace Receiver

theorem bounded_logged (receiver next : Receiver) (copy : Option Copy) (bounded : receiver.Bounded)
    (copies : next.copies = receiver.copies ++ copy.toList) : next.Bounded ↔ ∀ logged ∈ copy, logged.InBounds := by
  rw [Bounded, copies]
  constructor
  · intro all logged member
    exact all logged (List.mem_append_right _ (Option.mem_toList.mpr member))
  · intro fresh logged member
    rcases List.mem_append.mp member with old | new
    · exact bounded logged old
    · exact fresh logged (Option.mem_toList.mp new)

theorem receive_bounded (receiver : Receiver) (packet : RxPacket) (filled : packet.bytesRead ≠ 0) :
    (∀ logged ∈ packet.memcpyOf receiver.ctx (millis receiver.clock), logged.InBounds) ↔
      receiver.offsetHeld (.receive packet) := by
  unfold RxPacket.memcpyOf
  by_cases taken : packet.id = PACKID_LARGETX_CHUNK ∧ (dropStale receiver.ctx (millis receiver.clock)).state = .RECVING
  · rw [if_pos taken]
    constructor
    · intro inBounds _ _ _ buffer bound
      exact (packet.copy_in_bounds buffer.length filled).mp (inBounds _ (Option.mem_map_of_mem _ bound))
    · intro held logged member
      obtain ⟨buffer, bound, rfl⟩ := Option.mem_map.mp member
      exact (packet.copy_in_bounds buffer.length filled).mpr (held filled taken.1 taken.2 buffer bound)
  · rw [if_neg taken]
    exact iff_of_true nofun (fun _ chunk live => absurd ⟨chunk, live⟩ taken)

theorem step_bounded (source target : Receiver) (action : ReceiverAction) (bounded : source.Bounded)
    (moved : source.step action = some target) : target.Bounded ↔ source.offsetHeld action := by
  cases action with
  | tick ms =>
      cases moved
      exact iff_of_true bounded trivial
  | configLargeRx buffer =>
      simp only [step] at moved
      split at moved
      · cases moved
        exact iff_of_true bounded trivial
      · cases moved
  | receive packet =>
      cases moved
      by_cases empty : packet.bytesRead = 0
      · rw [receive, if_pos empty]
        exact iff_of_true bounded (fun filled => absurd empty filled)
      · rw [bounded_logged source _ (packet.memcpyOf source.ctx (millis source.clock)) bounded
          (by rw [receive, if_neg empty])]
        exact receive_bounded source packet empty

theorem receiver_bounded (receiver : Receiver) (reached : Reached largeReceiver offsetHeld receiver) :
    receiver.Bounded ∧ ∀ action next, receiver.step action = some next →
      (next.Bounded ↔ receiver.offsetHeld action) := by
  have bounded : receiver.Bounded := by
    apply reached_invariant largeReceiver offsetHeld Bounded ?_ ?_ receiver reached
    · intro initial started copy logged
      rw [started.2.2] at logged
      cases logged
    · intro source action target inv held moved
      exact (step_bounded source target action inv moved).mpr held
  exact ⟨bounded, fun action next moved => step_bounded receiver next action bounded moved⟩

def chunkPastBuffer : List ReceiverAction :=
  [.receive (packetOf PACKID_LARGETX_BEGIN (le32 3)), .receive (packetOf PACKID_LARGETX_CHUNK (le32 2 ++ [3, 4]))]

theorem receiver_bounded_past_buffer : ∃ receiver : Receiver, receiver.copies = [⟨3, 6, 2, 1⟩] ∧ receiver.Bounded := by
  obtain ⟨receiver, reached, copies⟩ := replay_exists largeReceiver offsetHeld chunkPastBuffer idleReceiver
    (fun receiver => receiver.copies = [⟨3, 6, 2, 1⟩]) ⟨rfl, rfl, rfl⟩ (by decide +kernel)
  exact ⟨receiver, copies, (receiver_bounded receiver reached).1⟩

-- A chunk of one byte: the three bytes of RxBuff are filled from beyond it.
def chunkOfOneByte : List ReceiverAction :=
  [.receive (packetOf PACKID_LARGETX_BEGIN (le32 3)), .receive (packetOf PACKID_LARGETX_CHUNK [0])]

theorem short_chunk_reads_on : ∃ receiver : Receiver, Reached largeReceiver anyAction receiver ∧
    receiver.copies = [⟨3, 1, 0, 3⟩] ∧ ¬ receiver.Bounded := by
  obtain ⟨receiver, reached, copies⟩ := replay_exists largeReceiver anyAction chunkOfOneByte idleReceiver
    (fun receiver => receiver.copies = [⟨3, 1, 0, 3⟩]) ⟨rfl, rfl, rfl⟩ (by decide +kernel)
  refine ⟨receiver, reached, copies, fun bounded => ?_⟩
  have first := (bounded ⟨3, 1, 0, 3⟩ (by rw [copies]; exact List.mem_singleton_self _)).received 0 (by decide)
  exact absurd first (by decide)

end Receiver

end Animacharacter.SerialDevice
