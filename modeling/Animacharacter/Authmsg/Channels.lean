import Animacharacter.Library.StepSystem
import Animacharacter.Authmsg.WireProtocol

set_option autoImplicit false

namespace Animacharacter.Authmsg

open StepSystem

inductive Endpoint where
  | A
  | B
deriving DecidableEq

def Endpoint.other : Endpoint → Endpoint
  | .A => .B
  | .B => .A

inductive Channel where
  | TCP
  | UDP
deriving DecidableEq

structure Packed where
  sender : Endpoint
  channel : Channel
  payload : List UInt8
  frame : List UInt8
deriving DecidableEq

structure Accepted where
  receiver : Endpoint
  channel : Channel
  payload : List UInt8
deriving DecidableEq

-- The four protocol objects of a session, every frame ever sent, and every
-- payload that an unpack has returned.
structure Network where
  peers : Endpoint → Channel → SecureWireProtocol
  sent : List Packed
  accepted : List Accepted

inductive NetworkAction where
  | send (sender : Endpoint) (channel : Channel) (msg : List UInt8)
  | deliver (receiver : Endpoint) (channel : Channel) (data : List UInt8)

namespace Network

def setPeer (network : Network) (endpoint : Endpoint) (channel : Channel) (proto : SecureWireProtocol) : Network :=
  { network with peers := fun other otherChannel =>
      if other = endpoint ∧ otherChannel = channel then proto else network.peers other otherChannel }

def send (network : Network) (sender : Endpoint) (channel : Channel) (msg : List UInt8) : Network :=
  let packed := (network.peers sender channel).pack msg
  let after := network.setPeer sender channel packed.1
  match packed.2 with
  | .ok frame => { after with sent := network.sent ++ [⟨sender, channel, msg, frame⟩] }
  | .error _ => after

def deliver (network : Network) (receiver : Endpoint) (channel : Channel) (data : List UInt8) : Network :=
  let unpacked := (network.peers receiver channel).unpack data
  let after := network.setPeer receiver channel unpacked.1
  match unpacked.2 with
  | .ok (some payload) => { after with accepted := network.accepted ++ [⟨receiver, channel, payload⟩] }
  | _ => after

def step (network : Network) : NetworkAction → Option Network
  | .send sender channel msg => some (network.send sender channel msg)
  | .deliver receiver channel data => some (network.deliver receiver channel data)

def Authentic (network : Network) : Prop :=
  ∀ accepted ∈ network.accepted, ∃ packed ∈ network.sent,
    packed.sender = accepted.receiver.other ∧ packed.channel = accepted.channel ∧ packed.payload = accepted.payload

instance (network : Network) : Decidable network.Authentic :=
  inferInstanceAs (Decidable (∀ _ ∈ _, ∃ _ ∈ _, _))

end Network

-- The session secret keys both channels of both endpoints.
def session : System Network NetworkAction where
  start network := (∃ secret, ∀ endpoint channel, network.peers endpoint channel = SecureWireProtocol.init secret) ∧
    network.sent = [] ∧ network.accepted = []
  step := Network.step

-- The adversary delivers any bytes at any time, but a packet whose signature is
-- valid under the key is one that an endpoint has encoded.
def unforged (network : Network) : NetworkAction → Prop
  | .send _ _ _ => True
  | .deliver receiver channel data =>
      MIN_PACKET_SIZE ≤ data.length →
      validateSignature (network.peers receiver channel).psk (BigEndian.fromBytes (headerOf data)) (payloadOf data)
        (tagOf data) = .ok true →
      ∃ packed ∈ network.sent, packed.frame = data

-- A frame that comes back to its sender, or on another channel than its own,
-- has a sequence number that the receiver has passed.
def onCourse (network : Network) : NetworkAction → Prop
  | .send _ _ _ => True
  | .deliver receiver channel data =>
      (∃ packed ∈ network.sent, packed.frame = data) →
      (∃ packed ∈ network.sent, packed.frame = data ∧ packed.sender = receiver.other ∧ packed.channel = channel) ∨
        BigEndian.fromBytes (headerOf data) ≤ (network.peers receiver channel).lastReceivedSequence

instance (network : Network) : (action : NetworkAction) → Decidable (unforged network action)
  | .send _ _ _ => inferInstanceAs (Decidable True)
  | .deliver _ _ _ => inferInstanceAs (Decidable (_ → _ → ∃ _ ∈ _, _))

instance (network : Network) : (action : NetworkAction) → Decidable (onCourse network action)
  | .send _ _ _ => inferInstanceAs (Decidable True)
  | .deliver _ _ _ => inferInstanceAs (Decidable ((∃ _ ∈ _, _) → (∃ _ ∈ _, _) ∨ _))

def unforgedOnCourse (network : Network) (action : NetworkAction) : Prop :=
  unforged network action ∧ onCourse network action

instance (network : Network) (action : NetworkAction) : Decidable (unforgedOnCourse network action) :=
  inferInstanceAs (Decidable (_ ∧ _))

structure SessionInvariant (secret : List UInt8) (network : Network) : Prop where
  keyed : ∀ endpoint channel, (network.peers endpoint channel).psk = secret
  encoded : ∀ packed ∈ network.sent, ∃ sequence, sequence < 256 ^ SEQUENCE_SIZE ∧
    packed.frame = packet secret sequence packed.payload

theorem packet_validates (psk payload : List UInt8) (sequence : Nat) (fits : sequence < 256 ^ SEQUENCE_SIZE) :
    validateSignature psk (BigEndian.fromBytes (headerOf (packet psk sequence payload)))
      (payloadOf (packet psk sequence payload)) (tagOf (packet psk sequence payload)) = .ok true := by
  rw [header_of_packet, BigEndian.from_to_bytes _ _ fits, payload_of_packet, tag_of_packet,
    validate_signature_ok _ _ _ _ fits, decide_eq_true rfl]

theorem set_peer_psk (network : Network) (secret : List UInt8) (endpoint : Endpoint) (channel : Channel)
    (proto : SecureWireProtocol) (keyed : ∀ other otherChannel, (network.peers other otherChannel).psk = secret)
    (same : proto.psk = secret) (other : Endpoint) (otherChannel : Channel) :
    ((network.setPeer endpoint channel proto).peers other otherChannel).psk = secret := by
  simp only [Network.setPeer]
  split
  · exact same
  · exact keyed other otherChannel

theorem send_invariant (secret : List UInt8) (network : Network) (sender : Endpoint) (channel : Channel)
    (msg : List UInt8) (inv : SessionInvariant secret network) :
    SessionInvariant secret (network.send sender channel msg) := by
  have keyed := set_peer_psk network secret sender channel ((network.peers sender channel).pack msg).1 inv.keyed
    (inv.keyed sender channel)
  simp only [Network.send]
  split
  · rename_i frame packed
    obtain ⟨made, fits⟩ := SecureWireProtocol.pack_ok (network.peers sender channel) msg frame packed
    refine ⟨keyed, fun one member => ?_⟩
    rcases List.mem_append.mp member with earlier | last
    · exact inv.encoded one earlier
    · cases List.mem_singleton.mp last
      exact ⟨_, fits, by rw [made, inv.keyed]⟩
  · exact ⟨keyed, inv.encoded⟩

-- Every unpack returns: a delivery accepts one payload or changes nothing that
-- the counters of the other objects or the lists show.
inductive Delivery (network : Network) (receiver : Endpoint) (channel : Channel) (data : List UInt8) (next : Network) :
    Prop where
  | accepted (sequence : Nat) (payload : List UInt8)
      (result : next = { network.setPeer receiver channel
          { network.peers receiver channel with lastReceivedSequence := sequence } with
        accepted := network.accepted ++ [⟨receiver, channel, payload⟩] })
      (made : data = packet (network.peers receiver channel).psk sequence payload) (fits : sequence < 256 ^ SEQUENCE_SIZE)
      (fresh : (network.peers receiver channel).lastReceivedSequence < sequence)
  | rejected (result : next = network.setPeer receiver channel (network.peers receiver channel))

theorem deliver_cases (network : Network) (receiver : Endpoint) (channel : Channel) (data : List UInt8) :
    Delivery network receiver channel data (network.deliver receiver channel data) := by
  simp only [Network.deliver]
  cases SecureWireProtocol.unpack_cases (network.peers receiver channel) data with
  | accepted sequence payload result made fits fresh =>
      rw [result]
      exact .accepted sequence payload rfl made fits fresh
  | rejected result =>
      rw [result]
      exact .rejected rfl

theorem deliver_invariant (secret : List UInt8) (network : Network) (receiver : Endpoint) (channel : Channel)
    (data : List UInt8) (inv : SessionInvariant secret network) :
    SessionInvariant secret (network.deliver receiver channel data) := by
  have kept (proto : SecureWireProtocol) (same : proto.psk = (network.peers receiver channel).psk) :=
    set_peer_psk network secret receiver channel proto inv.keyed (same.trans (inv.keyed receiver channel))
  cases deliver_cases network receiver channel data with
  | accepted sequence payload result _ _ _ =>
      rw [result]
      exact ⟨kept _ rfl, inv.encoded⟩
  | rejected result =>
      rw [result]
      exact ⟨kept _ rfl, inv.encoded⟩

theorem deliver_authentic (secret : List UInt8) (network : Network) (receiver : Endpoint) (channel : Channel)
    (data : List UInt8) (inv : SessionInvariant secret network) (authentic : network.Authentic)
    (genuine : unforged network (.deliver receiver channel data))
    (course : onCourse network (.deliver receiver channel data)) :
    (network.deliver receiver channel data).Authentic := by
  cases deliver_cases network receiver channel data with
  | rejected result =>
      rw [result]
      exact authentic
  | accepted sequence payload result made fits fresh =>
      rw [result]
      intro one member
      rcases List.mem_append.mp member with earlier | last
      · exact authentic one earlier
      · cases List.mem_singleton.mp last
        have long : MIN_PACKET_SIZE ≤ data.length := by
          rw [made, packet_length, MIN_PACKET_SIZE]
          omega
        have read : BigEndian.fromBytes (headerOf data) = sequence := by
          rw [made, header_of_packet, BigEndian.from_to_bytes _ _ fits]
        have valid := packet_validates (network.peers receiver channel).psk payload sequence fits
        rw [← made] at valid
        rcases course (genuine long valid) with ⟨packed, member, same, sender, own⟩ | stale
        · obtain ⟨number, _, frame⟩ := inv.encoded packed member
          refine ⟨packed, member, sender, own, ?_⟩
          rw [← payload_of_packet secret packed.payload number, ← frame, same, made, payload_of_packet]
        · rw [read] at stale
          exact absurd stale (Nat.not_le_of_lt fresh)

theorem send_authentic (network : Network) (sender : Endpoint) (channel : Channel) (msg : List UInt8)
    (authentic : network.Authentic) : (network.send sender channel msg).Authentic := by
  simp only [Network.send]
  split
  · intro one member
    obtain ⟨packed, present, matching⟩ := authentic one member
    exact ⟨packed, List.mem_append_left _ present, matching⟩
  · exact authentic

theorem session_invariant (allowed : Network → NetworkAction → Prop) (network : Network)
    (reached : Reached session allowed network) : ∃ secret, SessionInvariant secret network := by
  apply reached_invariant session allowed (fun network => ∃ secret, SessionInvariant secret network) _ _ network reached
  · rintro initial ⟨⟨secret, keyed⟩, silent, _⟩
    refine ⟨secret, fun endpoint channel => ?_, fun packed member => ?_⟩
    · rw [keyed]
      rfl
    · rw [silent] at member
      cases member
  · rintro source action target ⟨secret, inv⟩ _ moved
    cases action with
    | send sender channel msg =>
        cases moved
        exact ⟨secret, send_invariant secret source sender channel msg inv⟩
    | deliver receiver channel data =>
        cases moved
        exact ⟨secret, deliver_invariant secret source receiver channel data inv⟩

-- Fresh frames are taken from wherever they come: the signature covers neither
-- the sender nor the channel.
theorem off_course_accepted (network : Network) (packed : Packed) (receiver : Endpoint) (channel : Channel)
    (reached : Reached session unforged network) (member : packed ∈ network.sent)
    (fresh : (network.peers receiver channel).lastReceivedSequence < BigEndian.fromBytes (headerOf packed.frame)) :
    ⟨receiver, channel, packed.payload⟩ ∈ (network.deliver receiver channel packed.frame).accepted := by
  obtain ⟨secret, inv⟩ := session_invariant unforged network reached
  obtain ⟨sequence, fits, frame⟩ := inv.encoded packed member
  rw [frame, header_of_packet, BigEndian.from_to_bytes _ _ fits] at fresh
  have keyed := inv.keyed receiver channel
  have unpacked := SecureWireProtocol.unpack_packet (network.peers receiver channel) sequence packed.payload fits fresh
  rw [keyed, ← frame] at unpacked
  simp only [Network.deliver, unpacked]
  exact List.mem_append_right _ (List.mem_singleton_self _)

theorem accepted_payloads_authentic (network : Network) (reached : Reached session unforgedOnCourse network) :
    network.Authentic := by
  suffices both : network.Authentic ∧ ∃ secret, SessionInvariant secret network from both.1
  refine reached_invariant session unforgedOnCourse
    (fun network => network.Authentic ∧ ∃ secret, SessionInvariant secret network) ?_ ?_ network reached
  · rintro initial started
    refine ⟨fun one member => ?_, session_invariant unforgedOnCourse initial ⟨initial, started, .refl⟩⟩
    rw [started.2.2] at member
    cases member
  · rintro source action target ⟨authentic, secret, inv⟩ ⟨genuine, course⟩ moved
    cases action with
    | send sender channel msg =>
        cases moved
        exact ⟨send_authentic source sender channel msg authentic, secret, send_invariant secret source sender channel msg inv⟩
    | deliver receiver channel data =>
        cases moved
        exact ⟨deliver_authentic secret source receiver channel data inv authentic genuine course,
          secret, deliver_invariant secret source receiver channel data inv⟩

def freshSession (secret : List UInt8) : Network := ⟨fun _ _ => SecureWireProtocol.init secret, [], []⟩

theorem fresh_session_start (secret : List UInt8) : session.start (freshSession secret) :=
  ⟨⟨secret, fun _ _ => rfl⟩, rfl, rfl⟩

theorem send_fits (network : Network) (sender : Endpoint) (channel : Channel) (msg : List UInt8)
    (fits : (network.peers sender channel).sendSequence + 1 < 256 ^ SEQUENCE_SIZE) :
    network.send sender channel msg =
      { network.setPeer sender channel
          { network.peers sender channel with sendSequence := (network.peers sender channel).sendSequence + 1 } with
        sent := network.sent ++ [⟨sender, channel, msg,
          packet (network.peers sender channel).psk ((network.peers sender channel).sendSequence + 1) msg⟩] } := by
  simp only [Network.send, SecureWireProtocol.pack, encode_packet_ok _ _ _ fits]

theorem deliver_fresh (network : Network) (receiver : Endpoint) (channel : Channel) (sequence : Nat)
    (payload : List UInt8) (fits : sequence < 256 ^ SEQUENCE_SIZE)
    (fresh : (network.peers receiver channel).lastReceivedSequence < sequence) :
    network.deliver receiver channel (packet (network.peers receiver channel).psk sequence payload) =
      { network.setPeer receiver channel
          { network.peers receiver channel with lastReceivedSequence := sequence } with
        accepted := network.accepted ++ [⟨receiver, channel, payload⟩] } := by
  rw [Network.deliver, SecureWireProtocol.unpack_packet (network.peers receiver channel) sequence payload fits fresh]

theorem first_frame_delivered (secret msg : List UInt8) (sender receiver : Endpoint) (channel taken : Channel) :
    let sent := (freshSession secret).send sender channel msg
    sent.sent = [⟨sender, channel, msg, packet secret 1 msg⟩] ∧
      (sent.deliver receiver taken (packet secret 1 msg)).sent = sent.sent ∧
      (sent.deliver receiver taken (packet secret 1 msg)).accepted = [⟨receiver, taken, msg⟩] := by
  have one : 0 + 1 < 256 ^ SEQUENCE_SIZE := by decide
  have opened := send_fits (freshSession secret) sender channel msg one
  have waiting : (((freshSession secret).send sender channel msg).peers receiver taken).psk = secret ∧
      (((freshSession secret).send sender channel msg).peers receiver taken).lastReceivedSequence = 0 := by
    rw [opened]
    simp only [Network.setPeer]
    split
    · exact ⟨rfl, rfl⟩
    · exact ⟨rfl, rfl⟩
  have delivered := deliver_fresh ((freshSession secret).send sender channel msg) receiver taken 1 msg one
    (by rw [waiting.2]; exact Nat.one_pos)
  rw [waiting.1] at delivered
  refine ⟨by rw [opened]; rfl, ?_⟩
  rw [delivered, opened]
  exact ⟨rfl, rfl⟩

theorem first_delivery_runs (allowed : Network → NetworkAction → Prop) (sender receiver : Endpoint) (channel taken : Channel)
    (sends : allowed (freshSession [7]) (.send sender channel [1]))
    (delivers : allowed ((freshSession [7]).send sender channel [1]) (.deliver receiver taken (packet [7] 1 [1]))) :
    Reached session allowed
      (((freshSession [7]).send sender channel [1]).deliver receiver taken (packet [7] 1 [1])) := by
  refine ⟨freshSession [7], fresh_session_start [7], ?_⟩
  exact (Relation.ReflTransGen.refl.tail ⟨_, sends, rfl⟩).tail ⟨_, delivers, rfl⟩

theorem first_delivery_unforged (sender receiver : Endpoint) (channel taken : Channel) :
    unforged ((freshSession [7]).send sender channel [1]) (.deliver receiver taken (packet [7] 1 [1])) := by
  intro _ _
  rw [(first_frame_delivered [7] [1] sender receiver channel taken).1]
  exact ⟨_, List.mem_singleton_self _, rfl⟩

theorem own_channel_authentic :
    ∃ network : Network, network.accepted = [⟨.A, .TCP, [1]⟩] ∧ network.Authentic := by
  obtain ⟨sent, _, accepted⟩ := first_frame_delivered [7] [1] .B .A .TCP .TCP
  have course : onCourse ((freshSession [7]).send .B .TCP [1]) (.deliver .A .TCP (packet [7] 1 [1])) := by
    intro _
    rw [sent]
    exact .inl ⟨_, List.mem_singleton_self _, rfl, rfl, rfl⟩
  have reached := first_delivery_runs unforgedOnCourse .B .A .TCP .TCP ⟨trivial, trivial⟩
    ⟨first_delivery_unforged .B .A .TCP .TCP, course⟩
  exact ⟨_, accepted, accepted_payloads_authentic _ reached⟩

-- A's own frame comes back to it; B's TCP frame is replayed to A on UDP.
theorem off_course_frames_accepted :
    (∃ network, Reached session unforged network ∧
      (∀ packed ∈ network.sent, packed.sender = .A) ∧ network.accepted = [⟨.A, .TCP, [1]⟩] ∧ ¬ network.Authentic) ∧
    ∃ network, Reached session unforged network ∧
      (∀ packed ∈ network.sent, packed.channel = .TCP) ∧ network.accepted = [⟨.A, .UDP, [1]⟩] ∧ ¬ network.Authentic := by
  constructor
  · obtain ⟨sent, kept, accepted⟩ := first_frame_delivered [7] [1] .A .A .TCP .TCP
    refine ⟨_, first_delivery_runs unforged .A .A .TCP .TCP trivial (first_delivery_unforged .A .A .TCP .TCP), ?_, accepted, ?_⟩
    · simp [kept, sent]
    · simp [Network.Authentic, kept, sent, accepted, Endpoint.other]
  · obtain ⟨sent, kept, accepted⟩ := first_frame_delivered [7] [1] .B .A .TCP .UDP
    refine ⟨_, first_delivery_runs unforged .B .A .TCP .UDP trivial (first_delivery_unforged .B .A .TCP .UDP), ?_, accepted, ?_⟩
    · simp [kept, sent]
    · simp [Network.Authentic, kept, sent, accepted]

end Animacharacter.Authmsg
