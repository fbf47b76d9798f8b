import Mathlib.Data.List.Infix
import Animacharacter.Authmsg.Channels

set_option autoImplicit false

namespace Animacharacter.Authmsg

open StepSystem

namespace Network

def sentOn (network : Network) (sender : Endpoint) (channel : Channel) : List Packed :=
  network.sent.filter fun packed => packed.sender = sender ∧ packed.channel = channel

def payloadsSent (network : Network) (sender : Endpoint) (channel : Channel) : List (List UInt8) :=
  (network.sentOn sender channel).map Packed.payload

def payloadsAccepted (network : Network) (receiver : Endpoint) (channel : Channel) : List (List UInt8) :=
  (network.accepted.filter fun accepted => accepted.receiver = receiver ∧ accepted.channel = channel).map
    Accepted.payload

-- What a send puts on its channel, and what a delivery takes from it.
def packed (network : Network) (sender : Endpoint) (channel : Channel) (msg : List UInt8) : List (List UInt8) :=
  match ((network.peers sender channel).pack msg).2 with
  | .ok _ => [msg]
  | .error _ => []

def unpacked (network : Network) (receiver : Endpoint) (channel : Channel) (data : List UInt8) : List (List UInt8) :=
  match ((network.peers receiver channel).unpack data).2 with
  | .ok (some payload) => [payload]
  | _ => []

theorem send_payloads (network : Network) (sender other : Endpoint) (channel otherChannel : Channel)
    (msg : List UInt8) : (network.send sender channel msg).payloadsSent other otherChannel =
      network.payloadsSent other otherChannel ++
        if other = sender ∧ otherChannel = channel then network.packed sender channel msg else [] := by
  rw [Network.send, packed]
  cases ((network.peers sender channel).pack msg).2 with
  | error raised => simp [payloadsSent, sentOn, setPeer]
  | ok frame =>
      by_cases own : other = sender ∧ otherChannel = channel
      · simp [payloadsSent, sentOn, own]
      · have apart : ¬ (sender = other ∧ channel = otherChannel) := fun same => own ⟨same.1.symm, same.2.symm⟩
        rw [if_neg own, List.append_nil]
        simp [payloadsSent, sentOn, apart]

theorem send_accepted (network : Network) (sender other : Endpoint) (channel otherChannel : Channel)
    (msg : List UInt8) : (network.send sender channel msg).payloadsAccepted other otherChannel =
      network.payloadsAccepted other otherChannel := by
  rw [Network.send]
  cases ((network.peers sender channel).pack msg).2 with
  | error raised => rfl
  | ok frame => rfl

theorem deliver_payloads (network : Network) (receiver other : Endpoint) (channel otherChannel : Channel)
    (data : List UInt8) : (network.deliver receiver channel data).payloadsAccepted other otherChannel =
      network.payloadsAccepted other otherChannel ++
        if other = receiver ∧ otherChannel = channel then network.unpacked receiver channel data else [] := by
  rw [Network.deliver, unpacked]
  cases ((network.peers receiver channel).unpack data).2 with
  | error raised => simp [payloadsAccepted, setPeer]
  | ok taken =>
      cases taken with
      | none => simp [payloadsAccepted, setPeer]
      | some payload =>
          by_cases own : other = receiver ∧ otherChannel = channel
          · simp [payloadsAccepted, own]
          · have apart : ¬ (receiver = other ∧ channel = otherChannel) := fun same => own ⟨same.1.symm, same.2.symm⟩
            rw [if_neg own, List.append_nil]
            simp [payloadsAccepted, apart]

theorem deliver_sent (network : Network) (receiver other : Endpoint) (channel otherChannel : Channel)
    (data : List UInt8) : (network.deliver receiver channel data).payloadsSent other otherChannel =
      network.payloadsSent other otherChannel := by
  rw [Network.deliver]
  cases ((network.peers receiver channel).unpack data).2 with
  | error raised => rfl
  | ok taken =>
      cases taken with
      | none => rfl
      | some payload => rfl

end Network

open Network

-- The k-th frame of a channel carries the number k, and a receiver has accepted
-- some of the first ones, up to the number that it has come to.
structure Numbered (secret : List UInt8) (network : Network) : Prop where
  keyed : ∀ endpoint channel, (network.peers endpoint channel).psk = secret
  counted : ∀ sender channel, (network.peers sender channel).sendSequence < 256 ^ SEQUENCE_SIZE →
    (network.sentOn sender channel).length = (network.peers sender channel).sendSequence
  bounded : ∀ sender channel, (network.sentOn sender channel).length < 256 ^ SEQUENCE_SIZE
  numbered : ∀ sender channel index packed, (network.sentOn sender channel)[index]? = some packed →
    packed.frame = packet secret (index + 1) packed.payload
  ordered : ∀ receiver channel, (network.payloadsAccepted receiver channel).Sublist
    ((network.payloadsSent receiver.other channel).take (network.peers receiver channel).lastReceivedSequence)

theorem fresh_numbered (network : Network) (secret : List UInt8)
    (keyed : ∀ endpoint channel, network.peers endpoint channel = SecureWireProtocol.init secret)
    (silent : network.sent = []) (unheard : network.accepted = []) : Numbered secret network := by
  constructor
  · intro endpoint channel
    rw [keyed]
    rfl
  · intro sender channel _
    rw [keyed, sentOn, silent]
    rfl
  · intro sender channel
    rw [sentOn, silent]
    exact Nat.pow_pos (by decide)
  · intro sender channel index packed found
    rw [sentOn, silent] at found
    cases found
  · intro receiver channel
    rw [payloadsAccepted, unheard]
    exact List.nil_sublist _

theorem set_peer_get (network : Network) (endpoint other : Endpoint) (channel otherChannel : Channel)
    (proto : SecureWireProtocol) : (network.setPeer endpoint channel proto).peers other otherChannel =
      if other = endpoint ∧ otherChannel = channel then proto else network.peers other otherChannel := rfl

theorem sent_on_append (network after : Network) (packed : Packed) (sent : after.sent = network.sent ++ [packed])
    (sender : Endpoint) (channel : Channel) : after.sentOn sender channel =
      if packed.sender = sender ∧ packed.channel = channel then network.sentOn sender channel ++ [packed]
      else network.sentOn sender channel := by
  rw [sentOn, sent, List.filter_append, ← sentOn]
  by_cases own : packed.sender = sender ∧ packed.channel = channel
  · simp [own]
  · simp [own]

-- The counters after a pack, which counts also when it raises.
def CountsUp (network after : Network) (sender : Endpoint) (channel : Channel) : Prop :=
  ∀ other otherChannel, after.peers other otherChannel =
    if other = sender ∧ otherChannel = channel then
      { network.peers sender channel with sendSequence := (network.peers sender channel).sendSequence + 1 }
    else network.peers other otherChannel

theorem counts_up_received (network after : Network) (sender other : Endpoint) (channel otherChannel : Channel)
    (counts : CountsUp network after sender channel) :
    (after.peers other otherChannel).lastReceivedSequence = (network.peers other otherChannel).lastReceivedSequence ∧
      (after.peers other otherChannel).psk = (network.peers other otherChannel).psk := by
  rw [counts other otherChannel]
  split
  · rename_i own
    rw [own.1, own.2]
    exact ⟨rfl, rfl⟩
  · exact ⟨rfl, rfl⟩

theorem frame_sent_numbered (secret : List UInt8) (network after : Network) (sender : Endpoint) (channel : Channel)
    (msg frame : List UInt8) (inv : Numbered secret network) (counts : CountsUp network after sender channel)
    (sent : after.sent = network.sent ++ [⟨sender, channel, msg, frame⟩])
    (accepted : after.accepted = network.accepted)
    (made : frame = packet secret ((network.peers sender channel).sendSequence + 1) msg)
    (fits : (network.peers sender channel).sendSequence + 1 < 256 ^ SEQUENCE_SIZE) : Numbered secret after := by
  have counted := inv.counted sender channel (Nat.lt_of_succ_lt fits)
  have sentOn := sent_on_append network after ⟨sender, channel, msg, frame⟩ sent
  have received (other : Endpoint) (otherChannel : Channel) :=
    counts_up_received network after sender other channel otherChannel counts
  constructor
  · intro other otherChannel
    exact (received other otherChannel).2.trans (inv.keyed other otherChannel)
  · intro other otherChannel small
    rw [counts other otherChannel] at small ⊢
    rw [sentOn other otherChannel]
    by_cases own : other = sender ∧ otherChannel = channel
    · obtain ⟨rfl, rfl⟩ := own
      simp [counted]
    · rw [if_neg own] at small ⊢
      rw [if_neg (fun same => own ⟨same.1.symm, same.2.symm⟩)]
      exact inv.counted other otherChannel small
  · intro other otherChannel
    rw [sentOn other otherChannel]
    split
    · rename_i own
      obtain ⟨rfl, rfl⟩ := own
      rw [List.length_append, counted]
      exact fits
    · exact inv.bounded other otherChannel
  · intro other otherChannel index one found
    rw [sentOn other otherChannel] at found
    split at found
    · rename_i own
      obtain ⟨rfl, rfl⟩ := own
      by_cases old : index < (network.sentOn sender channel).length
      · rw [List.getElem?_append_left old] at found
        exact inv.numbered sender channel index one found
      · rw [List.getElem?_append_right (Nat.le_of_not_lt old), List.getElem?_singleton] at found
        split at found
        · cases found
          have last : index = (network.peers sender channel).sendSequence := by omega
          rw [last]
          exact made
        · cases found
    · exact inv.numbered other otherChannel index one found
  · intro receiver otherChannel
    have heard : after.payloadsAccepted receiver otherChannel = network.payloadsAccepted receiver otherChannel := by
      rw [payloadsAccepted, accepted, payloadsAccepted]
    rw [heard, (received receiver otherChannel).1, payloadsSent, sentOn receiver.other otherChannel]
    refine (inv.ordered receiver otherChannel).trans ?_
    split
    · rw [List.map_append]
      exact ((List.prefix_append _ _).take _).sublist
    · exact List.Sublist.refl _

theorem frame_refused_numbered (secret : List UInt8) (network after : Network) (sender : Endpoint) (channel : Channel)
    (inv : Numbered secret network) (counts : CountsUp network after sender channel) (sent : after.sent = network.sent)
    (accepted : after.accepted = network.accepted)
    (large : ¬ (network.peers sender channel).sendSequence + 1 < 256 ^ SEQUENCE_SIZE) : Numbered secret after := by
  have sentOn (other : Endpoint) (otherChannel : Channel) :
      after.sentOn other otherChannel = network.sentOn other otherChannel := by
    rw [Network.sentOn, sent, Network.sentOn]
  have received (other : Endpoint) (otherChannel : Channel) :=
    counts_up_received network after sender other channel otherChannel counts
  constructor
  · intro other otherChannel
    exact (received other otherChannel).2.trans (inv.keyed other otherChannel)
  · intro other otherChannel small
    rw [counts other otherChannel] at small ⊢
    rw [sentOn other otherChannel]
    split at small
    · exact absurd small large
    · rename_i own
      rw [if_neg own]
      exact inv.counted other otherChannel small
  · intro other otherChannel
    rw [sentOn other otherChannel]
    exact inv.bounded other otherChannel
  · intro other otherChannel index one found
    rw [sentOn other otherChannel] at found
    exact inv.numbered other otherChannel index one found
  · intro receiver otherChannel
    have heard : after.payloadsAccepted receiver otherChannel = network.payloadsAccepted receiver otherChannel := by
      rw [payloadsAccepted, accepted, payloadsAccepted]
    rw [heard, (received receiver otherChannel).1, payloadsSent, sentOn receiver.other otherChannel]
    exact inv.ordered receiver otherChannel

theorem send_numbered (secret : List UInt8) (network : Network) (sender : Endpoint) (channel : Channel)
    (msg : List UInt8) (inv : Numbered secret network) : Numbered secret (network.send sender channel msg) := by
  simp only [Network.send]
  cases packed : ((network.peers sender channel).pack msg).2 with
  | ok frame =>
      obtain ⟨made, fits⟩ := SecureWireProtocol.pack_ok (network.peers sender channel) msg frame packed
      rw [inv.keyed] at made
      exact frame_sent_numbered secret network _ sender channel msg frame inv (fun _ _ => rfl) rfl rfl made fits
  | error raised =>
      refine frame_refused_numbered secret network _ sender channel inv (fun _ _ => rfl) rfl rfl ?_
      intro fits
      rw [SecureWireProtocol.pack, encode_packet_ok _ _ _ fits] at packed
      cases packed

theorem next_taken (earlier sent : List (List UInt8)) (payload : List UInt8) (last index : Nat)
    (ordered : earlier.Sublist (sent.take last)) (later : last ≤ index) (found : sent[index]? = some payload) :
    (earlier ++ [payload]).Sublist (sent.take (index + 1)) := by
  have next : sent.take (index + 1) = sent.take index ++ [payload] := by
    rw [List.take_add_one, found, Option.toList_some]
  rw [next]
  exact (ordered.trans (List.take_sublist_take_left later)).append (List.Sublist.refl _)

-- A frame with a fresh number that verifies is the one of its own channel with
-- that number.
theorem fresh_frame_sent (secret : List UInt8) (network : Network) (receiver : Endpoint) (channel : Channel)
    (sequence : Nat) (payload data : List UInt8) (inv : Numbered secret network)
    (made : data = packet secret sequence payload) (fits : sequence < 256 ^ SEQUENCE_SIZE)
    (fresh : (network.peers receiver channel).lastReceivedSequence < sequence)
    (genuine : unforged network (.deliver receiver channel data))
    (course : onCourse network (.deliver receiver channel data)) :
    BigEndian.fromBytes (headerOf data) = sequence ∧
      ∃ index packed, (network.sentOn receiver.other channel)[index]? = some packed ∧ sequence = index + 1 ∧
        packed.payload = payload ∧ packed.frame = data := by
  have long : MIN_PACKET_SIZE ≤ data.length := by
    rw [made, packet_length, MIN_PACKET_SIZE]
    omega
  have read : BigEndian.fromBytes (headerOf data) = sequence := by
    rw [made, header_of_packet, BigEndian.from_to_bytes _ _ fits]
  have valid := packet_validates secret payload sequence fits
  rw [← made, ← inv.keyed receiver channel] at valid
  refine ⟨read, ?_⟩
  rcases course (genuine long valid) with ⟨packed, present, same, own⟩ | stale
  · have listed : packed ∈ network.sentOn receiver.other channel :=
      List.mem_filter.mpr ⟨present, by simp [own]⟩
    obtain ⟨index, found⟩ := List.getElem?_of_mem listed
    have short : index + 1 < 256 ^ SEQUENCE_SIZE := by
      have inside := (List.getElem?_eq_some_iff.mp found).1
      have bounded := inv.bounded receiver.other channel
      omega
    have equal : packet secret sequence payload = packet secret (index + 1) packed.payload := by
      rw [← made, ← same]
      exact inv.numbered receiver.other channel index packed found
    obtain ⟨number, rfl⟩ := packet_injective secret _ _ _ _ fits short equal
    exact ⟨index, packed, found, number, rfl, same⟩
  · rw [read] at stale
    exact absurd stale (Nat.not_le_of_lt fresh)

-- An accepted frame is the next one, or one behind it, of its own channel.
theorem accepted_numbered (secret : List UInt8) (network : Network) (receiver : Endpoint) (channel : Channel)
    (index : Nat) (packed : Packed) (inv : Numbered secret network)
    (found : (network.sentOn receiver.other channel)[index]? = some packed)
    (fresh : (network.peers receiver channel).lastReceivedSequence < index + 1) :
    Numbered secret { network.setPeer receiver channel
        { network.peers receiver channel with lastReceivedSequence := index + 1 } with
      accepted := network.accepted ++ [⟨receiver, channel, packed.payload⟩] } := by
  have taken : (network.payloadsSent receiver.other channel)[index]? = some packed.payload := by
    rw [payloadsSent, List.getElem?_map, found]
    rfl
  constructor
  · exact set_peer_psk network secret receiver channel _ inv.keyed (inv.keyed receiver channel)
  · intro other otherChannel small
    simp only [set_peer_get] at small ⊢
    split at small
    · rename_i same
      rw [if_pos same, same.1, same.2]
      exact inv.counted receiver channel small
    · rename_i apart
      rw [if_neg apart]
      exact inv.counted other otherChannel small
  · exact inv.bounded
  · exact inv.numbered
  · intro other otherChannel
    have ordered := inv.ordered other otherChannel
    change List.Sublist _ (List.take _ (network.payloadsSent other.other otherChannel))
    simp only [payloadsAccepted, List.filter_append, List.map_append, set_peer_get] at ordered ⊢
    by_cases here : other = receiver ∧ otherChannel = channel
    · obtain ⟨rfl, rfl⟩ := here
      have later : (network.peers other otherChannel).lastReceivedSequence ≤ index := Nat.le_of_lt_succ fresh
      have heard := next_taken _ _ _ _ _ ordered later taken
      simpa using heard
    · have apart : ¬ (receiver = other ∧ channel = otherChannel) :=
        fun same => here ⟨same.1.symm, same.2.symm⟩
      rw [if_neg here]
      simpa [apart] using ordered

theorem deliver_numbered (secret : List UInt8) (network : Network) (receiver : Endpoint) (channel : Channel)
    (data : List UInt8) (inv : Numbered secret network) (genuine : unforged network (.deliver receiver channel data))
    (course : onCourse network (.deliver receiver channel data)) :
    Numbered secret (network.deliver receiver channel data) := by
  cases deliver_cases network receiver channel data with
  | accepted sequence payload result made fits fresh =>
      rw [inv.keyed] at made
      obtain ⟨_, index, packed, found, rfl, rfl, _⟩ :=
        fresh_frame_sent secret network receiver channel sequence payload data inv made fits fresh genuine course
      rw [result]
      exact accepted_numbered secret network receiver channel index packed inv found fresh
  | rejected result =>
      have unchanged : network.setPeer receiver channel (network.peers receiver channel) = network := by
        have same : (network.setPeer receiver channel (network.peers receiver channel)).peers = network.peers := by
          funext other otherChannel
          rw [set_peer_get]
          split
          · rename_i here
            rw [here.1, here.2]
          · rfl
        exact congrArg (fun peers => ({ network with peers := peers } : Network)) same
      rw [result, unchanged]
      exact inv

namespace Network

theorem deliver_others (network : Network) (receiver other : Endpoint) (channel otherChannel : Channel)
    (data : List UInt8) (apart : ¬ (other = receiver ∧ otherChannel = channel)) :
    (network.deliver receiver channel data).peers other otherChannel = network.peers other otherChannel := by
  cases deliver_cases network receiver channel data with
  | accepted sequence payload result _ _ _ =>
      rw [result]
      exact if_neg apart
  | rejected result =>
      rw [result]
      exact if_neg apart

theorem send_received (network : Network) (sender other : Endpoint) (channel otherChannel : Channel)
    (msg : List UInt8) : ((network.send sender channel msg).peers other otherChannel).lastReceivedSequence =
      (network.peers other otherChannel).lastReceivedSequence := by
  have counted : ((network.setPeer sender channel ((network.peers sender channel).pack msg).1).peers other
      otherChannel).lastReceivedSequence = (network.peers other otherChannel).lastReceivedSequence := by
    rw [set_peer_get]
    split
    · rename_i own
      rw [own.1, own.2]
      rfl
    · rfl
  rw [Network.send]
  cases ((network.peers sender channel).pack msg).2 with
  | error raised => exact counted
  | ok frame => exact counted

end Network

-- A delivery of the next frame of a channel takes its payload.
theorem next_frame_taken (secret : List UInt8) (network : Network) (receiver : Endpoint) (channel : Channel)
    (packed : Packed) (inv : Numbered secret network)
    (next : (network.sentOn receiver.other channel)[(network.peers receiver channel).lastReceivedSequence]? =
      some packed) :
    network.unpacked receiver channel packed.frame = [packed.payload] ∧
      ((network.deliver receiver channel packed.frame).peers receiver channel).lastReceivedSequence =
        (network.peers receiver channel).lastReceivedSequence + 1 := by
  have made := inv.numbered receiver.other channel _ packed next
  have inside := (List.getElem?_eq_some_iff.mp next).1
  have bounded := inv.bounded receiver.other channel
  have fits : (network.peers receiver channel).lastReceivedSequence + 1 < 256 ^ SEQUENCE_SIZE := by omega
  have unpacked := SecureWireProtocol.unpack_packet (network.peers receiver channel) _ packed.payload fits
    (Nat.lt_succ_self _)
  rw [inv.keyed, ← made] at unpacked
  constructor
  · rw [Network.unpacked, unpacked]
  · rw [Network.deliver, unpacked]
    simp [Network.setPeer]

theorem session_numbered (network : Network) (reached : Reached session unforgedOnCourse network) :
    ∃ secret, Numbered secret network := by
  apply reached_invariant session unforgedOnCourse (fun network => ∃ secret, Numbered secret network)
    _ _ network reached
  · intro initial started
    obtain ⟨⟨secret, keyed⟩, silent, unheard⟩ := started
    exact ⟨secret, fresh_numbered initial secret keyed silent unheard⟩
  · intro source action target numbered allowed moved
    obtain ⟨secret, inv⟩ := numbered
    obtain ⟨genuine, course⟩ := allowed
    cases action with
    | send sender channel msg =>
        cases moved
        exact ⟨secret, send_numbered secret source sender channel msg inv⟩
    | deliver receiver channel data =>
        cases moved
        exact ⟨secret, deliver_numbered secret source receiver channel data inv genuine course⟩

-- What a receiver takes from a channel is what the other side has put on it, in
-- the order of the sends, with some of it missing and none of it twice.
theorem accepted_in_send_order (network : Network) (reached : Reached session unforgedOnCourse network)
    (receiver : Endpoint) (channel : Channel) :
    (network.payloadsAccepted receiver channel).Sublist (network.payloadsSent receiver.other channel) := by
  obtain ⟨secret, inv⟩ := session_numbered network reached
  exact (inv.ordered receiver channel).trans (List.take_sublist _ _)

def threeSent (sender : Endpoint) (channel : Channel) (first second third : List UInt8) : Network :=
  (((freshSession [7]).send sender channel first).send sender channel second).send sender channel third

def numberedFrames (secret : List UInt8) (sender : Endpoint) (channel : Channel) (msgs : List (List UInt8)) : List Packed :=
  msgs.mapIdx fun index msg => ⟨sender, channel, msg, packet secret (index + 1) msg⟩

theorem send_counted (network : Network) (sender : Endpoint) (channel : Channel) (msg secret : List UInt8) (count : Nat)
    (keyed : network.peers sender channel = ⟨secret, count, 0⟩) (fits : count + 1 < 256 ^ SEQUENCE_SIZE) :
    (network.send sender channel msg).sent =
        network.sent ++ [⟨sender, channel, msg, packet secret (count + 1) msg⟩] ∧
      (network.send sender channel msg).accepted = network.accepted ∧
      (network.send sender channel msg).peers sender channel = ⟨secret, count + 1, 0⟩ ∧
      (network.send sender channel msg).peers sender.other channel = network.peers sender.other channel := by
  have apart : ¬ (sender.other = sender ∧ channel = channel) := by cases sender <;> simp [Endpoint.other]
  rw [send_fits network sender channel msg (by rw [keyed]; exact fits), keyed]
  exact ⟨rfl, rfl, if_pos ⟨rfl, rfl⟩, if_neg apart⟩

theorem three_sent (sender : Endpoint) (channel : Channel) (first second third : List UInt8) :
    (threeSent sender channel first second third).sent = numberedFrames [7] sender channel [first, second, third] ∧
      (threeSent sender channel first second third).accepted = [] ∧
      (threeSent sender channel first second third).peers sender.other channel = SecureWireProtocol.init [7] := by
  obtain ⟨sentOne, acceptedOne, one, otherOne⟩ := send_counted (freshSession [7]) sender channel first [7] 0 rfl (by decide)
  obtain ⟨sentTwo, acceptedTwo, two, otherTwo⟩ := send_counted _ sender channel second [7] 1 one (by decide)
  obtain ⟨sentThree, acceptedThree, _, otherThree⟩ := send_counted _ sender channel third [7] 2 two (by decide)
  refine ⟨?_, acceptedThree.trans (acceptedTwo.trans acceptedOne), otherThree.trans (otherTwo.trans otherOne)⟩
  rw [threeSent, sentThree, sentTwo, sentOne]
  rfl

def firstTaken : Network := (threeSent .B .TCP [1] [2] [3]).deliver .A .TCP (packet [7] 1 [1])

def secondLost : Network := firstTaken.deliver .A .TCP (packet [7] 3 [3])

theorem first_taken : firstTaken =
    { (threeSent .B .TCP [1] [2] [3]).setPeer .A .TCP ⟨[7], 0, 1⟩ with accepted := [⟨.A, .TCP, [1]⟩] } := by
  obtain ⟨_, unheard, waiting⟩ := three_sent .B .TCP [1] [2] [3]
  have fresh : ((threeSent .B .TCP [1] [2] [3]).peers .A .TCP).lastReceivedSequence < 1 := by
    rw [show (threeSent .B .TCP [1] [2] [3]).peers .A .TCP = SecureWireProtocol.init [7] from waiting]
    exact Nat.one_pos
  have delivered := deliver_fresh (threeSent .B .TCP [1] [2] [3]) .A .TCP 1 [1] (by decide) fresh
  rw [show (threeSent .B .TCP [1] [2] [3]).peers .A .TCP = SecureWireProtocol.init [7] from waiting, unheard] at delivered
  exact delivered

theorem third_taken : secondLost =
    { firstTaken.setPeer .A .TCP ⟨[7], 0, 3⟩ with accepted := [⟨.A, .TCP, [1]⟩, ⟨.A, .TCP, [3]⟩] } := by
  have waiting : firstTaken.peers .A .TCP = ⟨[7], 0, 1⟩ := by
    rw [first_taken]
    rfl
  have delivered := deliver_fresh firstTaken .A .TCP 3 [3] (by decide) (by rw [waiting]; decide)
  rw [waiting] at delivered
  rw [secondLost, delivered, first_taken]
  rfl

theorem own_frame_on_course (network : Network) (receiver : Endpoint) (channel : Channel) (packed : Packed)
    (present : packed ∈ network.sent) (own : packed.sender = receiver.other ∧ packed.channel = channel) :
    unforgedOnCourse network (.deliver receiver channel packed.frame) :=
  ⟨fun _ _ => ⟨packed, present, rfl⟩, fun _ => .inl ⟨packed, present, rfl, own⟩⟩

theorem second_lost_reached : Reached session unforgedOnCourse secondLost := by
  obtain ⟨sent, _, _⟩ := three_sent .B .TCP [1] [2] [3]
  have sends : Runs session unforgedOnCourse (freshSession [7]) (threeSent .B .TCP [1] [2] [3]) :=
    ((Relation.ReflTransGen.single ⟨.send .B .TCP [1], ⟨trivial, trivial⟩, rfl⟩).tail
      ⟨.send .B .TCP [2], ⟨trivial, trivial⟩, rfl⟩).tail ⟨.send .B .TCP [3], ⟨trivial, trivial⟩, rfl⟩
  have still : firstTaken.sent = numberedFrames [7] .B .TCP [[1], [2], [3]] := by
    rw [first_taken]
    exact sent
  have first := own_frame_on_course (threeSent .B .TCP [1] [2] [3]) .A .TCP ⟨.B, .TCP, [1], packet [7] 1 [1]⟩
    (by rw [sent]; exact List.mem_cons_self) ⟨rfl, rfl⟩
  have third := own_frame_on_course firstTaken .A .TCP ⟨.B, .TCP, [3], packet [7] 3 [3]⟩
    (by rw [still]; exact List.mem_cons_of_mem _ (List.mem_cons_of_mem _ List.mem_cons_self)) ⟨rfl, rfl⟩
  exact ⟨freshSession [7], fresh_session_start [7], (sends.tail ⟨_, first, rfl⟩).tail ⟨_, third, rfl⟩⟩

theorem accepted_in_send_order_lost :
    secondLost.payloadsAccepted .A .TCP = [[1], [3]] ∧ secondLost.payloadsSent .B .TCP = [[1], [2], [3]] ∧
      (secondLost.payloadsAccepted .A .TCP).Sublist (secondLost.payloadsSent .B .TCP) := by
  obtain ⟨sent, _, _⟩ := three_sent .B .TCP [1] [2] [3]
  refine ⟨?_, ?_, accepted_in_send_order secondLost second_lost_reached .A .TCP⟩
  · rw [payloadsAccepted, third_taken]
    rfl
  · rw [payloadsSent, sentOn, third_taken, first_taken]
    change ((threeSent .B .TCP [1] [2] [3]).sent.filter _).map Packed.payload = _
    rw [sent]
    rfl

end Animacharacter.Authmsg
