import Animacharacter.Authmsg.Protocol

set_option autoImplicit false

namespace Animacharacter.Authmsg

structure SecureWireProtocol where
  psk : List UInt8
  sendSequence : Nat
  lastReceivedSequence : Nat
deriving DecidableEq

namespace SecureWireProtocol

def init (psk : List UInt8) : SecureWireProtocol := ⟨psk, 0, 0⟩

-- The counter is advanced before the packet is encoded.
def pack (proto : SecureWireProtocol) (msg : List UInt8) : SecureWireProtocol × Except Raised (List UInt8) :=
  let proto := { proto with sendSequence := proto.sendSequence + 1 }
  (proto, encodePacket proto.sendSequence msg proto.psk)

def unpackRaise (proto : SecureWireProtocol) (data : List UInt8) : Except Raised (SecureWireProtocol × List UInt8) := do
  let (sequence, msg) ← decodePacket data proto.psk (some proto.lastReceivedSequence)
  return ({ proto with lastReceivedSequence := sequence }, msg)

-- The except clause names three of the exceptions.
def unpack (proto : SecureWireProtocol) (data : List UInt8) :
    SecureWireProtocol × Except Raised (Option (List UInt8)) :=
  match proto.unpackRaise data with
  | .ok (next, msg) => (next, .ok (some msg))
  | .error (.FramingError _) | .error (.AuthenticationError _) | .error (.SequenceError _) => (proto, .ok none)
  | .error raised => (proto, .error raised)

inductive Unpacked (proto : SecureWireProtocol) (data : List UInt8)
    (unpacked : SecureWireProtocol × Except Raised (Option (List UInt8))) : Prop where
  | accepted (sequence : Nat) (payload : List UInt8)
      (result : unpacked = ({ proto with lastReceivedSequence := sequence }, .ok (some payload)))
      (made : data = packet proto.psk sequence payload) (fits : sequence < 256 ^ SEQUENCE_SIZE)
      (fresh : proto.lastReceivedSequence < sequence)
  | rejected (result : unpacked = (proto, .ok none))

theorem unpack_cases (proto : SecureWireProtocol) (data : List UInt8) : Unpacked proto data (proto.unpack data) := by
  simp only [unpack, unpackRaise]
  cases decode_packet_cases data proto.psk proto.lastReceivedSequence with
  | accepted sequence payload result made fits fresh =>
      rw [result]
      exact .accepted sequence payload rfl made fits fresh
  | short text result =>
      rw [result]
      exact .rejected rfl
  | forged text result =>
      rw [result]
      exact .rejected rfl
  | stale text result =>
      rw [result]
      exact .rejected rfl

theorem unpack_packet (proto : SecureWireProtocol) (sequence : Nat) (payload : List UInt8)
    (fits : sequence < 256 ^ SEQUENCE_SIZE) (fresh : proto.lastReceivedSequence < sequence) :
    proto.unpack (packet proto.psk sequence payload) =
      ({ proto with lastReceivedSequence := sequence }, .ok (some payload)) := by
  simp only [unpack, unpackRaise, decode_packet_packet proto.psk payload sequence _ fits, if_neg (Nat.not_le_of_lt fresh)]
  rfl

theorem unpack_psk (proto : SecureWireProtocol) (data : List UInt8) : (proto.unpack data).1.psk = proto.psk := by
  cases unpack_cases proto data with
  | accepted sequence payload result _ _ _ => rw [result]
  | rejected result => rw [result]

theorem unpack_counter (proto : SecureWireProtocol) (data : List UInt8) :
    proto.lastReceivedSequence ≤ (proto.unpack data).1.lastReceivedSequence := by
  cases unpack_cases proto data with
  | accepted sequence payload result _ _ fresh =>
      rw [result]
      exact Nat.le_of_lt fresh
  | rejected result =>
      have same : (proto.unpack data).1 = proto := by rw [result]
      exact Nat.le_of_eq (congrArg lastReceivedSequence same.symm)

-- One input of a run of unpack, what came back, and the counter around it.
structure Reception where
  data : List UInt8
  before : Nat
  result : Except Raised (Option (List UInt8))
  after : Nat

def Reception.accepted (reception : Reception) : Bool :=
  match reception.result with
  | .ok (some _) => true
  | _ => false

def unpackAll (proto : SecureWireProtocol) : List (List UInt8) → List Reception
  | [] => []
  | data :: rest =>
      let unpacked := proto.unpack data
      ⟨data, proto.lastReceivedSequence, unpacked.2, unpacked.1.lastReceivedSequence⟩ :: unpackAll unpacked.1 rest

structure Sent where
  msg : List UInt8
  frame : List UInt8

-- The frames of a run of pack. A pack that raises makes none.
def packAll (proto : SecureWireProtocol) : List (List UInt8) → List Sent
  | [] => []
  | msg :: rest =>
      let packed := proto.pack msg
      match packed.2 with
      | .ok frame => ⟨msg, frame⟩ :: packAll packed.1 rest
      | .error _ => packAll packed.1 rest

inductive Sound (psk : List UInt8) (reception : Reception) : Prop where
  | accepted (payload : List UInt8) (result : reception.result = .ok (some payload))
      (made : reception.data = packet psk reception.after payload) (fits : reception.after < 256 ^ SEQUENCE_SIZE)
      (fresh : reception.before < reception.after)
  | rejected (result : reception.result = .ok none) (same : reception.after = reception.before)

-- Each reception is an unpack of a protocol further on in the run.
theorem unpack_all_member (inputs : List (List UInt8)) (proto : SecureWireProtocol) (reception : Reception)
    (member : reception ∈ proto.unpackAll inputs) : ∃ (before : SecureWireProtocol) (data : List UInt8),
      before.psk = proto.psk ∧ proto.lastReceivedSequence ≤ before.lastReceivedSequence ∧
        reception = ⟨data, before.lastReceivedSequence, (before.unpack data).2,
          (before.unpack data).1.lastReceivedSequence⟩ := by
  induction inputs generalizing proto with
  | nil => cases member
  | cons data rest ih =>
      cases List.mem_cons.mp member with
      | inl here => exact ⟨proto, data, rfl, Nat.le_refl _, here⟩
      | inr later =>
          obtain ⟨before, input, secret, above, made⟩ := ih (proto.unpack data).1 later
          exact ⟨before, input, secret.trans (unpack_psk proto data), Nat.le_trans (unpack_counter proto data) above, made⟩

theorem unpack_all_sound (inputs : List (List UInt8)) (proto : SecureWireProtocol) (reception : Reception)
    (member : reception ∈ proto.unpackAll inputs) : Sound proto.psk reception := by
  obtain ⟨before, data, secret, _, made⟩ := unpack_all_member inputs proto reception member
  subst made
  rw [← secret]
  cases unpack_cases before data with
  | accepted sequence payload result made fits fresh =>
      rw [result]
      exact .accepted payload rfl made fits fresh
  | rejected result =>
      rw [result]
      exact .rejected rfl rfl

theorem unpack_all_above (inputs : List (List UInt8)) (proto : SecureWireProtocol) (reception : Reception)
    (member : reception ∈ proto.unpackAll inputs) (accepted : reception.accepted = true) :
    proto.lastReceivedSequence < reception.after := by
  obtain ⟨before, data, _, above, made⟩ := unpack_all_member inputs proto reception member
  subst made
  cases unpack_cases before data with
  | accepted sequence payload result made fits fresh =>
      rw [result]
      exact Nat.lt_of_le_of_lt above fresh
  | rejected result => simp [Reception.accepted, result] at accepted

theorem accepted_increase (inputs : List (List UInt8)) (proto : SecureWireProtocol) :
    (((proto.unpackAll inputs).filter Reception.accepted).map Reception.after).Pairwise (· < ·) := by
  induction inputs generalizing proto with
  | nil => exact .nil
  | cons data rest ih =>
      have later := ih (proto.unpack data).1
      simp only [unpackAll, List.filter_cons]
      split
      · refine List.pairwise_cons.mpr ⟨fun sequence member => ?_, later⟩
        obtain ⟨reception, kept, rfl⟩ := List.mem_map.mp member
        obtain ⟨present, accepted⟩ := List.mem_filter.mp kept
        exact unpack_all_above rest (proto.unpack data).1 reception present accepted
      · exact later

-- An accepted input is the packet of its own sequence number, so it comes once.
theorem accepted_once (inputs : List (List UInt8)) (proto : SecureWireProtocol) :
    (((proto.unpackAll inputs).filter Reception.accepted).map Reception.data).Nodup := by
  have increase := accepted_increase inputs proto
  rw [List.pairwise_map] at increase
  rw [List.Nodup, List.pairwise_map]
  refine List.Pairwise.imp_of_mem (fun {first second} one other less same => ?_) increase
  obtain ⟨firstMember, firstAccepted⟩ := List.mem_filter.mp one
  obtain ⟨secondMember, secondAccepted⟩ := List.mem_filter.mp other
  cases unpack_all_sound inputs proto first firstMember with
  | rejected result _ => simp [Reception.accepted, result] at firstAccepted
  | accepted firstPayload _ firstMade firstFits _ =>
      cases unpack_all_sound inputs proto second secondMember with
      | rejected result _ => simp [Reception.accepted, result] at secondAccepted
      | accepted secondPayload _ secondMade secondFits _ =>
          rw [firstMade, secondMade] at same
          have equal := (packet_injective proto.psk _ _ _ _ firstFits secondFits same).1
          exact absurd equal (Nat.ne_of_lt less)

theorem pack_ok (proto : SecureWireProtocol) (msg frame : List UInt8) (packed : (proto.pack msg).2 = .ok frame) :
    frame = packet proto.psk (proto.sendSequence + 1) msg ∧ proto.sendSequence + 1 < 256 ^ SEQUENCE_SIZE := by
  simp only [pack] at packed
  by_cases fits : proto.sendSequence + 1 < 256 ^ SEQUENCE_SIZE
  · rw [encode_packet_ok _ _ _ fits] at packed
    cases packed
    exact ⟨rfl, fits⟩
  · rw [encode_packet_overflow _ _ _ fits] at packed
    cases packed

-- Some of the frames of a sender, in their order, reach a receiver that is not
-- ahead of it. The induction is on the sender's messages.
theorem packed_delivered (messages : List (List UInt8)) (sender receiver : SecureWireProtocol) (sub : List Sent)
    (shared : sender.psk = receiver.psk) (behind : receiver.lastReceivedSequence ≤ sender.sendSequence)
    (chosen : sub.Sublist (sender.packAll messages)) :
    (receiver.unpackAll (sub.map Sent.frame)).map Reception.result = sub.map fun sent => .ok (some sent.msg) := by
  induction messages generalizing sender receiver sub with
  | nil =>
      cases chosen
      rfl
  | cons msg rest ih =>
      simp only [packAll] at chosen
      split at chosen
      · rename_i frame packed
        cases chosen with
        | cons _ skipped => exact ih (sender.pack msg).1 receiver sub shared (Nat.le_succ_of_le behind) skipped
        | @cons_cons taken _ _ others =>
            obtain ⟨made, fits⟩ := pack_ok sender msg frame packed
            rw [shared] at made
            have unpacked := unpack_packet receiver (sender.sendSequence + 1) msg fits (Nat.lt_succ_of_le behind)
            have later := ih (sender.pack msg).1 { receiver with lastReceivedSequence := sender.sendSequence + 1 } taken
              shared (Nat.le_refl _) others
            simp only [List.map_cons, unpackAll, made, unpacked, later]
      · exact ih (sender.pack msg).1 receiver sub shared (Nat.le_succ_of_le behind) chosen

theorem framing_fresh_and_complete (psk : List UInt8) (messages inputs : List (List UInt8)) :
    (∀ reception ∈ (init psk).unpackAll inputs, ∃ result, reception.result = .ok result) ∧
    ((((init psk).unpackAll inputs).filter Reception.accepted).map Reception.after).Pairwise (· < ·) ∧
    ((((init psk).unpackAll inputs).filter Reception.accepted).map Reception.data).Nodup ∧
    (∀ reception ∈ (init psk).unpackAll inputs, reception.accepted = false → reception.after = reception.before) ∧
    ∀ sub : List Sent, sub.Sublist ((init psk).packAll messages) → inputs = sub.map Sent.frame →
      ((init psk).unpackAll inputs).map Reception.result = sub.map fun sent => .ok (some sent.msg) := by
  refine ⟨fun reception member => ?_, accepted_increase inputs _, accepted_once inputs _,
    fun reception member refused => ?_, fun sub chosen fed => ?_⟩
  · cases unpack_all_sound inputs (init psk) reception member with
    | accepted payload result _ _ _ => exact ⟨some payload, result⟩
    | rejected result _ => exact ⟨none, result⟩
  · cases unpack_all_sound inputs (init psk) reception member with
    | accepted payload result _ _ _ => simp [Reception.accepted, result] at refused
    | rejected _ same => exact same
  · rw [fed]
    exact packed_delivered messages (init psk) (init psk) sub rfl (Nat.le_refl _) chosen

end SecureWireProtocol

end Animacharacter.Authmsg
