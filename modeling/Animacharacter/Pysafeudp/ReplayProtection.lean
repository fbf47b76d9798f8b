import Mathlib.Data.List.Count
import Animacharacter.Library.StepSystem
import Animacharacter.Pysafeudp.SafeUdpSock

set_option autoImplicit false

namespace Animacharacter.Pysafeudp

open StepSystem

-- A socket and the from_addr of the recv that runs on it, if one does.
structure Party where
  sock : SafeUdpSock
  receiving : Option (Option SocketAddress)

-- A payload that a recv has returned, with the send call that made its frame.
structure Returned where
  party : Nat
  source : SocketAddress
  frame : Frame
  call : Option Nat
deriving DecidableEq

-- The sockets of a pre-shared secret, the frames of the send calls in their order,
-- every frame whose payload a recv has returned, and what recv has raised at a
-- datagram.
structure Network where
  parties : List Party
  sent : List Frame
  returned : List Returned
  raised : List Raised

-- `answers` is what gethostbyname says during the action. `copyOf` is the send call
-- whose frame a datagram has been copied from, if it is a copy; recv does not see it.
inductive NetworkAction where
  | send (index : Nat) (answers : String → Option UInt32) (data : List UInt8) (toAddr : Option SocketAddress)
  | setPeer (index : Nat) (answers : String → Option UInt32) (peerAddr : Option SocketAddress)
  | overrideOutbound (index : Nat) (answers : String → Option UInt32) (peer : SocketAddress) (val : Int)
  | recv (index : Nat) (answers : String → Option UInt32) (recvFrom : RecvFrom)
  | datagram (index : Nat) (answers : String → Option UInt32) (data : List UInt8) (address : UInt32) (port : Nat)
      (copyOf : Option Nat)
  | connectionReset (index : Nat)
  | timeout (index : Nat)

namespace SafeUdpSock

def inbound (sock : SafeUdpSock) (address : SocketAddress) : Int := (sock.tracker address).inbound

def signed (sock : SafeUdpSock) (frame : Frame) (sig : List UInt8) : Bool :=
  match seqNumBytes frame.seqNum with
  | .ok number => sock.genHmac (frame.payload ++ number) = sig
  | .error _ => false

def seqNumOf (codec : Msgpack) (data : List UInt8) : Int :=
  ((frameFields codec (data.take MAX_RECV_BUFF_SIZE)).map fun fields => fields.1.seqNum).getD 0

end SafeUdpSock

namespace Network

open SafeUdpSock

def setSock (network : Network) (index : Nat) (party : Party) (sock : SafeUdpSock) : Network :=
  { network with parties := network.parties.set index { party with sock := sock } }

def setReceiving (network : Network) (index : Nat) (party : Party) (receiving : Option (Option SocketAddress)) : Network :=
  { network with parties := network.parties.set index { party with receiving := receiving } }

def send (codec : Msgpack) (network : Network) (index : Nat) (party : Party) (answers : String → Option UInt32)
    (data : List UInt8) (toAddr : Option SocketAddress) : Network :=
  match party.sock.send codec answers data toAddr with
  | (sock, .ok (_, frame, _)) => { network.setSock index party sock with sent := network.sent ++ [frame] }
  | (sock, .error _) => network.setSock index party sock

def overrideOutbound (network : Network) (index : Nat) (party : Party) (answers : String → Option UInt32)
    (peer : SocketAddress) (val : Int) : Network :=
  match resolvePeer answers peer with
  | .ok resolved => network.setSock index party (party.sock.overrideOutboundSeqnum resolved val)
  | .error _ => network

def recv (network : Network) (index : Nat) (party : Party) (answers : String → Option UInt32) (recvFrom : RecvFrom) :
    Network :=
  match party.sock.recvFilter answers recvFrom with
  | .ok fromAddr => network.setReceiving index party (some fromAddr)
  | .error _ => network

def datagram (codec : Msgpack) (network : Network) (index : Nat) (party : Party) (fromAddr : Option SocketAddress)
    (answers : String → Option UInt32) (data : List UInt8) (source : SocketAddress) (copyOf : Option Nat) : Network :=
  match party.sock.recvDatagram codec answers fromAddr data source with
  | (sock, .ok none) => network.setSock index party sock
  | (sock, .ok (some payload)) =>
      { network with
        parties := network.parties.set index ⟨sock, none⟩
        returned := ⟨index, source, ⟨seqNumOf codec data, payload⟩, copyOf⟩ :: network.returned }
  | (sock, .error raised) =>
      { network with
        parties := network.parties.set index ⟨sock, none⟩
        raised := raised :: network.raised }

def step (codec : Msgpack) (network : Network) : NetworkAction → Option Network
  | .send index answers data toAddr =>
      (network.parties[index]?).map fun party => network.send codec index party answers data toAddr
  | .setPeer index answers peerAddr =>
      (network.parties[index]?).map fun party => network.setSock index party (party.sock.setPeer answers peerAddr).1
  | .overrideOutbound index answers peer val =>
      (network.parties[index]?).map fun party => network.overrideOutbound index party answers peer val
  | .recv index answers recvFrom =>
      (network.parties[index]?).bind fun party =>
        if party.receiving = none then some (network.recv index party answers recvFrom) else none
  | .datagram index answers data address port copyOf =>
      (network.parties[index]?).bind fun party => party.receiving.map fun fromAddr =>
        network.datagram codec index party fromAddr answers data ⟨.ip address, port⟩ copyOf
  | .connectionReset index => (network.parties[index]?).bind fun party => party.receiving.map fun _ => network
  | .timeout index =>
      (network.parties[index]?).bind fun party => party.receiving.map fun _ => network.setReceiving index party none

def returns (network : Network) (index call : Nat) : Nat :=
  network.returned.countP fun returned => returned.party = index ∧ returned.call = some call

def returnsElsewhere (network : Network) (index : Nat) (source : SocketAddress) (call : Nat) : Nat :=
  network.returned.countP fun returned =>
    returned.party = index ∧ returned.call = some call ∧ returned.source ≠ source

def Protected (network : Network) : Prop :=
  network.raised = [] ∧ ∀ index call, network.returns index call ≤ 1

-- Only what is copied from the frame of a send call has a valid signature.
def unforged (codec : Msgpack) (network : Network) : NetworkAction → Prop
  | .datagram index _ data _ _ copyOf =>
      ∀ party ∈ network.parties[index]?, ∀ fields ∈ frameFields codec (data.take MAX_RECV_BUFF_SIZE),
        (copyOf.bind fun call => network.sent[call]?) ≠ some fields.1 → party.sock.signed fields.1 fields.2 = false
  | _ => True

-- No recv takes a frame whose number is above the counter of the address it
-- comes from and whose send call's frame it has returned from another address.
def noForeignReplay (codec : Msgpack) (network : Network) : NetworkAction → Prop
  | .datagram index _ data address port copyOf =>
      ∀ party ∈ network.parties[index]?, ∀ fromAddr ∈ party.receiving,
        (fromAddr = none ∨ fromAddr = some ⟨.ip address, port⟩) →
          ∀ fields ∈ frameFields codec (data.take MAX_RECV_BUFF_SIZE),
            party.sock.inbound ⟨.ip address, port⟩ < fields.1.seqNum →
              ∀ call ∈ copyOf, network.returnsElsewhere index ⟨.ip address, port⟩ call ≠ 0 →
                party.sock.signed fields.1 fields.2 = false
  | _ => True

def unforgedDirect (codec : Msgpack) (network : Network) (action : NetworkAction) : Prop :=
  network.unforged codec action ∧ network.noForeignReplay codec action

instance (codec : Msgpack) (network : Network) : (action : NetworkAction) → Decidable (network.unforged codec action)
  | .datagram _ _ _ _ _ _ => inferInstanceAs (Decidable (∀ _ ∈ _, ∀ _ ∈ _, _ → _))
  | .send _ _ _ _ | .setPeer _ _ _ | .overrideOutbound _ _ _ _ | .recv _ _ _ | .connectionReset _ | .timeout _ =>
      inferInstanceAs (Decidable True)

instance (codec : Msgpack) (network : Network) : (action : NetworkAction) → Decidable (network.noForeignReplay codec action)
  | .datagram _ _ _ _ _ _ => inferInstanceAs (Decidable (∀ _ ∈ _, ∀ _ ∈ _, _ → ∀ _ ∈ _, _))
  | .send _ _ _ _ | .setPeer _ _ _ | .overrideOutbound _ _ _ _ | .recv _ _ _ | .connectionReset _ | .timeout _ =>
      inferInstanceAs (Decidable True)

instance (codec : Msgpack) (network : Network) (action : NetworkAction) :
    Decidable (network.unforgedDirect codec action) := inferInstanceAs (Decidable (_ ∧ _))

end Network

-- Sockets made with one secret, none of which is used yet.
def safeUdp (codec : Msgpack) : System Network NetworkAction where
  start network := (∃ secret, ∀ party ∈ network.parties, party = ⟨.init secret, none⟩) ∧
    network.sent = [] ∧ network.returned = [] ∧ network.raised = []
  step := Network.step codec

namespace SafeUdpSock

@[simp] theorem populate_tracker (sock : SafeUdpSock) (resolved address : SocketAddress) :
    (sock.populateSeqnumEntry resolved).tracker address = sock.tracker address := by
  unfold populateSeqnumEntry
  split
  · rfl
  · rename_i missing
    by_cases same : resolved = address
    · subst same
      simp [tracker, missing]
    · simp [tracker, same]

@[simp] theorem set_tracker_tracker (sock : SafeUdpSock) (resolved address : SocketAddress) (entry : SeqNumTracker) :
    (sock.setTracker resolved entry).tracker address = if resolved = address then entry else sock.tracker address := by
  simp only [tracker, setTracker, Dict.get_set]
  split <;> rfl

@[simp] theorem populate_secret (sock : SafeUdpSock) (resolved : SocketAddress) :
    (sock.populateSeqnumEntry resolved).secret = sock.secret := by
  unfold populateSeqnumEntry
  split <;> rfl

theorem increment_inbound (sock : SafeUdpSock) (resolved address : SocketAddress) :
    (sock.incrementOutboundSeqnum resolved).inbound address = sock.inbound address := by
  by_cases same : resolved = address <;> simp [incrementOutboundSeqnum, inbound, same]

theorem override_inbound (sock : SafeUdpSock) (resolved address : SocketAddress) (val : Int) :
    (sock.overrideOutboundSeqnum resolved val).inbound address = sock.inbound address := by
  by_cases same : resolved = address <;> simp [overrideOutboundSeqnum, inbound, same]

theorem set_inbound_inbound (sock : SafeUdpSock) (resolved address : SocketAddress) (val : Int) :
    (sock.setInboundSeqnum resolved val).inbound address = if resolved = address then val else sock.inbound address := by
  by_cases same : resolved = address <;> simp [setInboundSeqnum, inbound, same]

theorem send_inbound (codec : Msgpack) (answers : String → Option UInt32) (sock : SafeUdpSock) (data : List UInt8)
    (toAddr : Option SocketAddress) (address : SocketAddress) :
    (sock.send codec answers data toAddr).1.inbound address = sock.inbound address := by
  simp only [send]
  split
  · rfl
  · split
    · rfl
    · exact increment_inbound sock _ address

theorem set_peer_inbound (answers : String → Option UInt32) (sock : SafeUdpSock) (peerAddr : Option SocketAddress)
    (address : SocketAddress) : (sock.setPeer answers peerAddr).1.inbound address = sock.inbound address := by
  unfold setPeer
  split
  · rfl
  · split <;> rfl

theorem as_int_bound (value : MsgObject) (number : Int) (read : value.asInt = some number) :
    number < 256 ^ SEQ_NUM_SIZE_BYTES := by
  have width : (256 : Int) ^ SEQ_NUM_SIZE_BYTES = 2 ^ 64 := by decide
  rw [width]
  cases value <;> simp only [MsgObject.asInt, Option.some.injEq, reduceCtorEq] at read
  case int known =>
    rw [← read]
    exact known.upper
  case bool flag =>
    rw [← read]
    cases flag <;> decide

theorem frame_fields_bound (codec : Msgpack) (data : List UInt8) (frame : Frame) (sig : List UInt8)
    (read : frameFields codec data = some (frame, sig)) : frame.seqNum < 256 ^ SEQ_NUM_SIZE_BYTES := by
  simp only [frameFields, Option.bind_eq_bind, Option.bind_eq_some_iff, Option.pure_def, Option.some.injEq,
    Prod.mk.injEq] at read
  obtain ⟨⟨first, second, third⟩, _, number, asInt, _, _, _, _, made, _⟩ := read
  rw [← made]
  exact as_int_bound first number asInt

-- What decoding a datagram does to the counters: nothing, or the counter of its
-- source goes up to the number of a signed frame.
inductive Decoded (codec : Msgpack) (sock : SafeUdpSock) (data : List UInt8) (source : SocketAddress)
    (result : SafeUdpSock × Except Raised (Option (List UInt8))) : Prop where
  | rejected (outcome : result.2 = .ok none) (same : ∀ address, result.1.inbound address = sock.inbound address)
      (stale : ∀ fields ∈ frameFields codec data, sock.signed fields.1 fields.2 = true →
        fields.1.seqNum ≤ sock.inbound source)
  | accepted (frame : Frame) (sig : List UInt8) (fields : frameFields codec data = some (frame, sig))
      (genuine : sock.signed frame sig = true) (fresh : sock.inbound source < frame.seqNum)
      (outcome : result.2 = .ok (some frame.payload))
      (counted : ∀ address, result.1.inbound address = if source = address then frame.seqNum else sock.inbound address)

theorem decode_frame_cases (codec : Msgpack) (answers : String → Option UInt32) (sock : SafeUdpSock) (data : List UInt8)
    (address : UInt32) (port : Nat) (floor : 0 ≤ sock.inbound ⟨.ip address, port⟩) :
    Decoded codec sock data ⟨.ip address, port⟩ (sock.decodeFrame codec answers data ⟨.ip address, port⟩) := by
  cases fields : frameFields codec data with
  | none =>
      refine .rejected ?_ ?_ ?_ <;> simp [decodeFrame, fields]
  | some both =>
      obtain ⟨frame, sig⟩ := both
      have bound := frame_fields_bound codec data frame sig fields
      have numeric : resolvePeer answers ⟨.ip address, port⟩ = .ok ⟨.ip address, port⟩ := rfl
      have known : ((sock.populateSeqnumEntry ⟨.ip address, port⟩).tracker ⟨.ip address, port⟩).inbound =
          sock.inbound ⟨.ip address, port⟩ := by rw [populate_tracker, inbound]
      have kept (other : SocketAddress) : (sock.populateSeqnumEntry ⟨.ip address, port⟩).inbound other =
          sock.inbound other := by rw [inbound, populate_tracker, inbound]
      by_cases stale : frame.seqNum ≤ sock.inbound ⟨.ip address, port⟩
      · have result : sock.decodeFrame codec answers data ⟨.ip address, port⟩ =
            (sock.populateSeqnumEntry ⟨.ip address, port⟩, .ok none) := by
          simp only [decodeFrame, fields, numeric, known, if_pos stale]
        rw [result]
        refine .rejected rfl kept ?_
        intro both same _
        rw [fields] at same
        cases Option.some.inj same
        exact stale
      · have fresh := Int.not_le.mp stale
        have bytes : seqNumBytes frame.seqNum = .ok (BigEndian.toBytes SEQ_NUM_SIZE_BYTES frame.seqNum.toNat) := by
          rw [seqNumBytes, if_neg (by omega), if_pos bound]
        have mac (message : List UInt8) : (sock.populateSeqnumEntry ⟨.ip address, port⟩).genHmac message =
            sock.genHmac message := by rw [genHmac, genHmac, populate_secret]
        by_cases genuine : sock.genHmac (frame.payload ++ BigEndian.toBytes SEQ_NUM_SIZE_BYTES frame.seqNum.toNat) = sig
        · have result : sock.decodeFrame codec answers data ⟨.ip address, port⟩ =
              ((sock.populateSeqnumEntry ⟨.ip address, port⟩).setInboundSeqnum ⟨.ip address, port⟩ frame.seqNum,
                .ok (some frame.payload)) := by
            simp only [decodeFrame, fields, numeric, known, if_neg stale, bytes, mac, if_pos genuine]
          rw [result]
          refine .accepted frame sig fields ?_ fresh rfl ?_
          · simp only [signed, bytes, genuine, decide_true]
          · intro other
            rw [set_inbound_inbound, kept]
        · have result : sock.decodeFrame codec answers data ⟨.ip address, port⟩ =
              (sock.populateSeqnumEntry ⟨.ip address, port⟩, .ok none) := by
            simp only [decodeFrame, fields, numeric, known, if_neg stale, bytes, mac, if_neg genuine]
          rw [result]
          refine .rejected rfl kept ?_
          intro both same valid
          rw [fields] at same
          cases Option.some.inj same
          simp [signed, bytes, genuine] at valid

end SafeUdpSock

namespace Network

open SafeUdpSock

-- The counter of an address is at least zero, and at least the number of every
-- frame that has been returned from the address; and a returned frame is that of
-- its send call.
structure Guarded (network : Network) : Prop where
  floor : ∀ (index : Nat) (party : Party), network.parties[index]? = some party →
    ∀ address, 0 ≤ party.sock.inbound address
  ceiling : ∀ returned ∈ network.returned, ∀ party : Party, network.parties[returned.party]? = some party →
    returned.frame.seqNum ≤ party.sock.inbound returned.source
  traced : ∀ returned ∈ network.returned, ∀ call ∈ returned.call, network.sent[call]? = some returned.frame

def Kept (network next : Network) : Prop :=
  ∀ (index : Nat) (party : Party), next.parties[index]? = some party → ∃ before : Party,
    network.parties[index]? = some before ∧ ∀ address, party.sock.inbound address = before.sock.inbound address

theorem kept_refl (network : Network) : network.Kept network := by
  intro index party found
  exact ⟨party, found, fun _ => rfl⟩

theorem set_found (members : List Party) (index other : Nat) (party changed : Party)
    (found : (members.set index changed)[other]? = some party) :
    (other = index ∧ party = changed) ∨ (other ≠ index ∧ members[other]? = some party) := by
  by_cases same : other = index
  · subst same
    have inside : other < members.length := by
      have := (List.getElem?_eq_some_iff.mp found).1
      rwa [List.length_set] at this
    rw [List.getElem?_set_self inside] at found
    exact .inl ⟨rfl, (Option.some.inj found).symm⟩
  · rw [List.getElem?_set_ne (Ne.symm same)] at found
    exact .inr ⟨same, found⟩

theorem kept_set (network next : Network) (index : Nat) (party changed : Party)
    (found : network.parties[index]? = some party) (after : next.parties = network.parties.set index changed)
    (same : ∀ address, changed.sock.inbound address = party.sock.inbound address) : network.Kept next := by
  intro other one known
  rw [after] at known
  rcases set_found _ _ _ _ _ known with ⟨rfl, rfl⟩ | ⟨_, before⟩
  · exact ⟨party, found, same⟩
  · exact ⟨one, before, fun _ => rfl⟩

-- What an action does: no counter moves and nothing is returned, or one party
-- returns a fresh signed frame.
inductive Stepped (codec : Msgpack) (network : Network) (action : NetworkAction) (next : Network) : Prop where
  | quiet (kept : network.Kept next) (returned : next.returned = network.returned)
      (raised : next.raised = network.raised) (sent : network.sent <+: next.sent)
      (exempt : network.noForeignReplay codec action)
  | delivered (index : Nat) (source : SocketAddress) (frame : Frame) (copyOf : Option Nat)
      (counted : ∀ (other : Nat) (party : Party), next.parties[other]? = some party → ∃ before : Party,
        network.parties[other]? = some before ∧ ∀ address, party.sock.inbound address =
          if other = index ∧ source = address then frame.seqNum else before.sock.inbound address)
      (fresh : ∃ party : Party, network.parties[index]? = some party ∧ party.sock.inbound source < frame.seqNum)
      (returned : next.returned = ⟨index, source, frame, copyOf⟩ :: network.returned)
      (raised : next.raised = network.raised) (sent : next.sent = network.sent)
      (genuine : network.unforged codec action → (copyOf.bind fun call => network.sent[call]?) = some frame)
      (condition : network.noForeignReplay codec action ↔
        ∀ call ∈ copyOf, network.returnsElsewhere index source call = 0)

theorem datagram_stepped (codec : Msgpack) (network : Network) (index : Nat) (party : Party)
    (fromAddr : Option SocketAddress) (answers : String → Option UInt32) (data : List UInt8) (address : UInt32)
    (port : Nat) (copyOf : Option Nat) (inv : network.Guarded) (found : network.parties[index]? = some party)
    (running : party.receiving = some fromAddr) :
    network.Stepped codec (.datagram index answers data address port copyOf)
      (network.datagram codec index party fromAddr answers data ⟨.ip address, port⟩ copyOf) := by
  have alone (one : Party) (member : one ∈ network.parties[index]?) : one = party := by
    rw [found] at member
    exact (Option.some.inj member).symm
  have filter (one : Option SocketAddress) (member : one ∈ party.receiving) : one = fromAddr := by
    rw [running] at member
    exact (Option.some.inj member).symm
  by_cases taken : fromAddr = none ∨ fromAddr = some ⟨.ip address, port⟩
  · rcases decoded : party.sock.decodeFrame codec answers (data.take MAX_RECV_BUFF_SIZE) ⟨.ip address, port⟩
      with ⟨sock, outcome⟩
    have cases := decode_frame_cases codec answers party.sock (data.take MAX_RECV_BUFF_SIZE) address port
      (inv.floor index party found _)
    rw [decoded] at cases
    cases cases with
    | rejected none same stale =>
        subst none
        have result : network.datagram codec index party fromAddr answers data ⟨.ip address, port⟩ copyOf =
            network.setSock index party sock := by
          simp only [datagram, recvDatagram, if_pos taken, decoded]
        rw [result]
        refine .quiet (kept_set network _ index party _ found rfl same) rfl rfl (List.prefix_refl _) ?_
        intro one member _ _ _ fields read fresh _ _ _
        rw [alone one member] at fresh ⊢
        by_cases genuine : party.sock.signed fields.1 fields.2 = true
        · exact absurd fresh (Int.not_lt.mpr (stale fields read genuine))
        · exact Bool.eq_false_iff.mpr genuine
    | accepted frame sig fields genuine fresh payload counted =>
        subst payload
        have number : seqNumOf codec data = frame.seqNum := by simp only [seqNumOf, fields, Option.map_some, Option.getD_some]
        have result : network.datagram codec index party fromAddr answers data ⟨.ip address, port⟩ copyOf =
            { network with
              parties := network.parties.set index ⟨{ sock with latestSender := ⟨.ip address, port⟩ }, none⟩
              returned := ⟨index, ⟨.ip address, port⟩, frame, copyOf⟩ :: network.returned } := by
          simp only [datagram, recvDatagram, if_pos taken, decoded, number]
        rw [result]
        refine .delivered index ⟨.ip address, port⟩ frame copyOf ?_ ⟨party, found, fresh⟩ rfl rfl rfl ?_ ?_
        · intro other one known
          rcases set_found _ _ _ _ _ known with ⟨rfl, rfl⟩ | ⟨distinct, before⟩
          · refine ⟨party, found, fun address => ?_⟩
            simp only [true_and]
            exact counted address
          · exact ⟨one, before, fun _ => by simp only [distinct, false_and, if_false]⟩
        · intro unforged
          by_contra foreign
          exact absurd genuine (Bool.eq_false_iff.mp (unforged party found (frame, sig) fields foreign))
        · constructor
          · intro direct call copied
            by_contra again
            exact absurd genuine
              (Bool.eq_false_iff.mp (direct party found fromAddr running taken (frame, sig) fields fresh call copied again))
          · exact fun first _ _ _ _ _ _ _ _ call copied again => absurd (first call copied) again
  · have result : network.datagram codec index party fromAddr answers data ⟨.ip address, port⟩ copyOf =
        network.setSock index party party.sock := by
      simp only [datagram, recvDatagram, if_neg taken]
    rw [result]
    refine .quiet (kept_set network _ index party _ found rfl fun _ => rfl) rfl rfl (List.prefix_refl _) ?_
    intro one member other from' passes
    rw [alone one member] at from'
    rw [filter other from'] at passes
    exact absurd passes taken

theorem step_stepped (codec : Msgpack) (network next : Network) (action : NetworkAction) (inv : network.Guarded)
    (moved : network.step codec action = some next) : network.Stepped codec action next := by
  cases action with
  | send index answers data toAddr =>
      obtain ⟨party, found, rfl⟩ := Option.map_eq_some_iff.mp moved
      have same := send_inbound codec answers party.sock data toAddr
      unfold send
      split
      · rename_i sock destination frame encoded sent
        rw [sent] at same
        exact .quiet (kept_set network _ index party _ found rfl same) rfl rfl (List.prefix_append _ _) trivial
      · rename_i sock raised sent
        rw [sent] at same
        exact .quiet (kept_set network _ index party _ found rfl same) rfl rfl (List.prefix_refl _) trivial
  | setPeer index answers peerAddr =>
      obtain ⟨party, found, rfl⟩ := Option.map_eq_some_iff.mp moved
      have same := set_peer_inbound answers party.sock peerAddr
      exact .quiet (kept_set network _ index party _ found rfl same) rfl rfl (List.prefix_refl _) trivial
  | overrideOutbound index answers peer val =>
      obtain ⟨party, found, rfl⟩ := Option.map_eq_some_iff.mp moved
      unfold overrideOutbound
      split
      · rename_i resolved _
        have same (address : SocketAddress) := override_inbound party.sock resolved address val
        exact .quiet (kept_set network _ index party _ found rfl same) rfl rfl (List.prefix_refl _) trivial
      · exact .quiet (kept_refl network) rfl rfl (List.prefix_refl _) trivial
  | recv index answers recvFrom =>
      obtain ⟨party, found, called⟩ := Option.bind_eq_some_iff.mp moved
      split at called
      · cases called
        unfold recv
        split
        · exact .quiet (kept_set network _ index party _ found rfl fun _ => rfl) rfl rfl (List.prefix_refl _) trivial
        · exact .quiet (kept_refl network) rfl rfl (List.prefix_refl _) trivial
      · cases called
  | datagram index answers data address port copyOf =>
      obtain ⟨party, found, taken⟩ := Option.bind_eq_some_iff.mp moved
      obtain ⟨fromAddr, running, rfl⟩ := Option.map_eq_some_iff.mp taken
      exact datagram_stepped codec network index party fromAddr answers data address port copyOf inv found running
  | connectionReset index =>
      obtain ⟨party, found, taken⟩ := Option.bind_eq_some_iff.mp moved
      obtain ⟨_, _, rfl⟩ := Option.map_eq_some_iff.mp taken
      exact .quiet (kept_refl network) rfl rfl (List.prefix_refl _) trivial
  | timeout index =>
      obtain ⟨party, found, taken⟩ := Option.bind_eq_some_iff.mp moved
      obtain ⟨_, _, rfl⟩ := Option.map_eq_some_iff.mp taken
      exact .quiet (kept_set network _ index party _ found rfl fun _ => rfl) rfl rfl (List.prefix_refl _) trivial

theorem stepped_guarded (codec : Msgpack) (network next : Network) (action : NetworkAction) (inv : network.Guarded)
    (genuine : network.unforged codec action) (stepped : network.Stepped codec action next) : next.Guarded := by
  cases stepped with
  | quiet kept returned _ sent _ =>
      refine ⟨fun index party found address => ?_, fun one member party found => ?_, fun one member call made => ?_⟩
      · obtain ⟨before, known, same⟩ := kept index party found
        rw [same]
        exact inv.floor index before known address
      · obtain ⟨before, known, same⟩ := kept one.party party found
        rw [same]
        rw [returned] at member
        exact inv.ceiling one member before known
      · rw [returned] at member
        have known := inv.traced one member call made
        obtain ⟨later, appended⟩ := sent
        rw [← appended, List.getElem?_append_left (List.getElem?_eq_some_iff.mp known).1]
        exact known
  | delivered index source frame copyOf counted fresh returned _ sent known _ =>
      obtain ⟨receiver, received, above⟩ := fresh
      refine ⟨fun other party found address => ?_, fun one member party found => ?_, fun one member call made => ?_⟩
      · obtain ⟨before, known, value⟩ := counted other party found
        rw [value]
        split
        · exact Int.le_trans (inv.floor index receiver received source) (Int.le_of_lt above)
        · exact inv.floor other before known address
      · obtain ⟨before, known, value⟩ := counted one.party party found
        rw [value]
        rw [returned, List.mem_cons] at member
        rcases member with rfl | earlier
        · exact Int.le_of_eq (if_pos ⟨rfl, rfl⟩).symm
        · have bound := inv.ceiling one earlier before known
          split
          · rename_i same
            rw [same.1, received] at known
            cases known
            rw [← same.2] at bound
            exact Int.le_trans bound (Int.le_of_lt above)
          · exact bound
      · rw [sent]
        rw [returned, List.mem_cons] at member
        rcases member with rfl | earlier
        · have called : copyOf = some call := made
          have copied := known genuine
          rw [called, Option.bind_some] at copied
          exact copied
        · exact inv.traced one earlier call made

-- A frame above the counter of an address has not been returned from it.
theorem returns_elsewhere (network : Network) (inv : network.Guarded) (index : Nat) (party : Party)
    (found : network.parties[index]? = some party) (source : SocketAddress) (frame : Frame)
    (fresh : party.sock.inbound source < frame.seqNum) (call : Nat) (made : network.sent[call]? = some frame) :
    network.returns index call = network.returnsElsewhere index source call := by
  apply List.countP_congr
  intro one member
  simp only [decide_eq_true_eq]
  constructor
  · rintro ⟨rfl, called⟩
    refine ⟨rfl, called, ?_⟩
    rintro rfl
    have same : one.frame = frame := Option.some.inj ((inv.traced one member call called).symm.trans made)
    have bound := inv.ceiling one member party found
    rw [same] at bound
    exact Int.not_le.mpr fresh bound
  · rintro ⟨same, called, _⟩
    exact ⟨same, called⟩

theorem stepped_protected (codec : Msgpack) (network next : Network) (action : NetworkAction) (inv : network.Guarded)
    (secure : network.Protected) (genuine : network.unforged codec action)
    (stepped : network.Stepped codec action next) : next.Protected ↔ network.noForeignReplay codec action := by
  cases stepped with
  | quiet _ returned raised _ exempt =>
      refine iff_of_true ⟨raised.trans secure.1, fun index call => ?_⟩ exempt
      rw [returns, returned]
      exact secure.2 index call
  | delivered index source frame copyOf _ fresh returned raised _ known condition =>
      obtain ⟨party, found, above⟩ := fresh
      obtain ⟨call, rfl, made⟩ := Option.bind_eq_some_iff.mp (known genuine)
      have elsewhere := returns_elsewhere network inv index party found source frame above call made
      have after (other one : Nat) : next.returns other one =
          network.returns other one + if index = other ∧ call = one then 1 else 0 := by
        rw [returns, returns, returned, List.countP_cons]
        simp only [decide_eq_true_eq, Option.some.injEq]
      rw [condition]
      simp only [Option.mem_def, Option.some.injEq, forall_eq', ← elsewhere]
      constructor
      · intro safe
        have count := safe.2 index call
        rw [after, if_pos ⟨rfl, rfl⟩] at count
        omega
      · intro first
        refine ⟨raised.trans secure.1, fun other one => ?_⟩
        rw [after]
        by_cases same : index = other ∧ call = one
        · exact Nat.le_of_eq (by rw [if_pos same, ← same.1, ← same.2, first])
        · rw [if_neg same]
          exact secure.2 other one

theorem start_secure (codec : Msgpack) (network : Network) (started : (safeUdp codec).start network) :
    network.Guarded ∧ network.Protected := by
  obtain ⟨⟨secret, fresh⟩, silent, returned, raised⟩ := started
  refine ⟨⟨fun index party found address => ?_, fun one member => ?_, fun one member => ?_⟩, raised,
    fun index call => ?_⟩
  · rw [fresh party (List.mem_of_getElem? found)]
    exact Int.le_refl 0
  · rw [returned] at member
    cases member
  · rw [returned] at member
    cases member
  · rw [returns, returned]
    exact Nat.zero_le _

theorem replay_protected (codec : Msgpack) (network : Network)
    (reached : Reached (safeUdp codec) (unforgedDirect codec) network) :
    network.Protected ∧ ∀ action next, network.unforged codec action → network.step codec action = some next →
      (next.Protected ↔ network.noForeignReplay codec action) := by
  have inv : network.Guarded ∧ network.Protected := by
    refine reached_invariant (safeUdp codec) (unforgedDirect codec) (fun network => network.Guarded ∧ network.Protected)
      (start_secure codec) ?_ network reached
    rintro source action target ⟨guarded, secure⟩ ⟨genuine, direct⟩ moved
    have stepped := step_stepped codec source target action guarded moved
    exact ⟨stepped_guarded codec source target action guarded genuine stepped,
      (stepped_protected codec source target action guarded secure genuine stepped).mpr direct⟩
  refine ⟨inv.2, fun action next genuine moved => ?_⟩
  exact stepped_protected codec network next action inv.1 inv.2 genuine (step_stepped codec network next action inv.1 moved)

-- msgpack on frames with a number below 128 and byte strings shorter than 256.
def smallFrames : Msgpack where
  packb
    | .array [.int number, .bin sig, .bin payload] =>
        if 0 ≤ number.value ∧ number.value < 128 ∧ sig.length < 256 ∧ payload.length < 256 then
          some ([0x93, UInt8.ofNat number.value.toNat] ++ [0xc4, UInt8.ofNat sig.length] ++ sig ++
            [0xc4, UInt8.ofNat payload.length] ++ payload)
        else none
    | _ => none
  unpackb
    | 0x93 :: number :: 0xc4 :: length :: rest =>
        match rest.drop length.toNat with
        | 0xc4 :: size :: payload =>
            if number < 128 ∧ payload.length = size.toNat then
              some (.array [.int (.ofByte number), .bin (rest.take length.toNat), .bin payload])
            else none
        | _ => none
    | _ => none

def unresolved (_name : String) : Option UInt32 := none

def fresh : Network where
  parties := [⟨.init [7], none⟩, ⟨.init [7], none⟩]
  sent := []
  returned := []
  raised := []

-- The first frame that party 0 sends, with its signature under the secret.
def captured : List UInt8 := [147, 1, 196, 8, 189, 154, 130, 162, 231, 34, 76, 120, 196, 2, 1, 2]

def replayFrom (address : UInt32) : List NetworkAction :=
  [.send 0 unresolved [1, 2] (some ⟨.ip 2, 4000⟩), .recv 1 unresolved (.mode RCV_EVERYONE),
    .datagram 1 unresolved captured 1 4000 (some 0), .recv 1 unresolved (.mode RCV_EVERYONE),
    .datagram 1 unresolved captured address 4000 (some 0)]

theorem replay_protected_same_address : ∃ network : Network,
    (network.sent = [⟨1, [1, 2]⟩] ∧ network.returned = [⟨1, ⟨.ip 1, 4000⟩, ⟨1, [1, 2]⟩, some 0⟩]) ∧ network.Protected := by
  obtain ⟨network, reached, ends⟩ := replay_exists (safeUdp smallFrames) (unforgedDirect smallFrames) (replayFrom 1) fresh
    (fun network =>
      network.sent = [⟨1, [1, 2]⟩] ∧ network.returned = [⟨1, ⟨.ip 1, 4000⟩, ⟨1, [1, 2]⟩, some 0⟩])
    ⟨⟨[7], by simp [fresh]⟩, rfl, rfl, rfl⟩ (by decide +kernel)
  exact ⟨network, ends, (replay_protected smallFrames network reached).1⟩

theorem foreign_replay_returned : ∃ network : Network, Reached (safeUdp smallFrames) (unforged smallFrames) network ∧
    network.sent = [⟨1, [1, 2]⟩] ∧
    network.returned = [⟨1, ⟨.ip 9, 4000⟩, ⟨1, [1, 2]⟩, some 0⟩, ⟨1, ⟨.ip 1, 4000⟩, ⟨1, [1, 2]⟩, some 0⟩] ∧ ¬ network.Protected := by
  obtain ⟨network, reached, sent, returned⟩ := replay_exists (safeUdp smallFrames) (unforged smallFrames) (replayFrom 9)
    fresh
    (fun network => network.sent = [⟨1, [1, 2]⟩] ∧
      network.returned = [⟨1, ⟨.ip 9, 4000⟩, ⟨1, [1, 2]⟩, some 0⟩, ⟨1, ⟨.ip 1, 4000⟩, ⟨1, [1, 2]⟩, some 0⟩])
    ⟨⟨[7], by simp [fresh]⟩, rfl, rfl, rfl⟩ (by decide +kernel)
  refine ⟨network, reached, sent, returned, fun secure => ?_⟩
  have count := secure.2 1 0
  rw [returns, returned] at count
  exact absurd count (by decide)

end Network

end Animacharacter.Pysafeudp
