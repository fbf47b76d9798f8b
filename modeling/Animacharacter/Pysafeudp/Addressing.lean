import Animacharacter.Pysafeudp.ReplayProtection

set_option autoImplicit false

namespace Animacharacter.Pysafeudp

open StepSystem

inductive ByteData where
  | bytes (content : List UInt8)
  | bytearray (content : List UInt8)
  | memoryview (content : List UInt8)

def ByteData.content : ByteData → List UInt8
  | .bytes content | .bytearray content | .memoryview content => content

-- How a send raises; `OSError` is what sendto makes of the datagram.
inductive SendRaised where
  | raised (raised : Raised)
  | TypeError (text : String)
  | OSError

structure Transmitted where
  destination : SocketAddress
  seqNum : Int
  payload : List UInt8
  datagram : List UInt8
deriving DecidableEq

-- One call of send. `answers` is what _resolve_peer gives for names, from its
-- cache or not, and `lookup` what sendto itself finds for them.
structure SendCall where
  answers : String → Option UInt32
  lookup : String → Option UInt32
  data : ByteData
  toAddr : Option SocketAddress
  refused : Bool

namespace SafeUdpSock

def target (sock : SafeUdpSock) (toAddr : Option SocketAddress) : Option SocketAddress :=
  if sock.peer.host ≠ INVALID_ADDRESS.host then some sock.peer else toAddr

-- A memoryview is not added to the bytes of the number.
def encodeData (codec : Msgpack) (sock : SafeUdpSock) (data : ByteData) (sqnum : Int) :
    Except SendRaised (List UInt8) :=
  match data with
  | .bytes content | .bytearray content => (sock.encodeFrame codec content sqnum).mapError SendRaised.raised
  | .memoryview _ =>
      match seqNumBytes sqnum with
      | .error raised => .error (.raised raised)
      | .ok _ => .error (.TypeError "unsupported operand type(s) for +: 'memoryview' and 'bytes'")

def sendto (call : SendCall) (peer : SocketAddress) : Except SendRaised SocketAddress :=
  if call.refused then .error .OSError else (resolvePeer call.lookup peer).mapError SendRaised.raised

def sendData (codec : Msgpack) (sock : SafeUdpSock) (call : SendCall) : SafeUdpSock × Except SendRaised Transmitted :=
  match sock.target call.toAddr with
  | none => (sock, .error (.raised (.SafeudpNullPeer "Attempted 'send' without specifying a peer.")))
  | some peer =>
      match resolvePeer call.answers peer with
      | .error raised => (sock, .error (.raised raised))
      | .ok resolved =>
          let sock := sock.incrementOutboundSeqnum resolved
          let sqnum := (sock.tracker resolved).outbound
          match sock.encodeData codec call.data sqnum with
          | .error raised => (sock, .error raised)
          | .ok encoded =>
              match sendto call peer with
              | .error raised => (sock, .error raised)
              | .ok destination => (sock, .ok ⟨destination, sqnum, call.data.content, encoded⟩)

-- The address whose counter gives the number of a call.
def numberedFor (sock : SafeUdpSock) (call : SendCall) : Option SocketAddress :=
  (sock.target call.toAddr).bind fun peer => (resolvePeer call.answers peer).toOption

def receivedAll (codec : Msgpack) (answers : String → Option UInt32) (fromAddr : Option SocketAddress)
    (source : SocketAddress) : SafeUdpSock → List (List UInt8) → List (Except Raised (Option (List UInt8)))
  | _, [] => []
  | sock, data :: rest =>
      let received := sock.recvDatagram codec answers fromAddr data source
      received.2 :: receivedAll codec answers fromAddr source received.1 rest

end SafeUdpSock

-- `wanted` is the address that the frame was for.
structure Outgoing extends Transmitted where
  wanted : Option SocketAddress
deriving DecidableEq

-- A socket, the peer that set_peer has set, the frames that went out, the oldest
-- first, and the addresses of which a send took a number and then raised.
structure Sender where
  sock : SafeUdpSock
  setPeer : Option SocketAddress
  outgoing : List Outgoing
  lost : List SocketAddress

inductive SenderAction where
  | setPeer (answers : String → Option UInt32) (peerAddr : Option SocketAddress)
  | send (call : SendCall)

namespace Sender

open SafeUdpSock

-- `to` when it is given, and else the set peer.
def wanted (sender : Sender) (call : SendCall) : Option SocketAddress :=
  match call.toAddr with
  | some addr => (resolvePeer call.lookup addr).toOption
  | none => sender.setPeer

def transmit (sender : Sender) (sock : SafeUdpSock) (frame : Outgoing) : Sender :=
  { sender with sock := sock, outgoing := sender.outgoing ++ [frame] }

def step (codec : Msgpack) (sender : Sender) : SenderAction → Option Sender
  | .setPeer answers peerAddr =>
      match sender.sock.setPeer answers peerAddr with
      | (_, .error _) => some sender
      | (sock, .ok ()) =>
          some { sender with
            sock := sock
            setPeer := peerAddr.bind fun peer => (resolvePeer answers peer).toOption }
  | .send call =>
      match sender.sock.sendData codec call with
      | (sock, .error _) =>
          some { sender with
            sock := sock
            lost := sender.lost ++ (sender.sock.numberedFor call).toList }
      | (sock, .ok transmitted) =>
          some (sender.transmit sock { transmitted with wanted := sender.wanted call })

def sentTo (sender : Sender) (destination : SocketAddress) : List Outgoing :=
  sender.outgoing.filter fun frame => frame.destination = destination

-- Each frame went where it was for, the k-th one to an address carries k, and a
-- receiver that has taken none from the sender yet takes every one that arrives
-- in order.
structure Kept (codec : Msgpack) (sender : Sender) : Prop where
  addressed : ∀ frame ∈ sender.outgoing, frame.wanted = some frame.destination
  numbered : ∀ (place : Nat) (destination : SocketAddress) (frame : Outgoing),
    (sender.sentTo destination)[place]? = some frame → frame.seqNum = place + 1
  accepted : ∀ (destination : SocketAddress) (stream : List Outgoing), stream.Sublist (sender.sentTo destination) →
    ∀ (receiver : SafeUdpSock) (answers : String → Option UInt32) (fromAddr : Option SocketAddress)
      (address : UInt32) (port : Nat), receiver.secret = sender.sock.secret →
      receiver.inbound ⟨.ip address, port⟩ = 0 → (fromAddr = none ∨ fromAddr = some ⟨.ip address, port⟩) →
        receiver.receivedAll codec answers fromAddr ⟨.ip address, port⟩ (stream.map fun frame => frame.datagram) =
          stream.map fun frame => .ok (some frame.payload)

def SameLookup (sender : Sender) (call : SendCall) : Prop :=
  ∀ peer ∈ sender.sock.target call.toAddr,
    (resolvePeer call.lookup peer).toOption = (resolvePeer call.answers peer).toOption

-- Where a peer is set no other address is given, and no number of the address
-- that is sent to was lost.
structure Aligned (sender : Sender) (call : SendCall) : Prop where
  own : ∀ addr ∈ call.toAddr, ∀ peer ∈ sender.setPeer, (resolvePeer call.lookup addr).toOption = some peer
  unbroken : ∀ address ∈ sender.sock.numberedFor call, address ∉ sender.lost

-- A receiver reads the whole frame of the payload, whatever its number is.
def Short (codec : Msgpack) (sender : Sender) (call : SendCall) : Prop :=
  ∀ (sqnum : Int) (datagram : List UInt8), sender.sock.encodeFrame codec call.data.content sqnum = .ok datagram →
    datagram.length ≤ MAX_RECV_BUFF_SIZE

def alignedSend (codec : Msgpack) (sender : Sender) : SenderAction → Prop
  | .setPeer _ _ => True
  | .send call => sender.Aligned call ∧ sender.SameLookup call ∧ sender.Short codec call

end Sender

def addressing (codec : Msgpack) : System Sender SenderAction where
  start sender := ∃ secret, sender = ⟨.init secret, none, [], []⟩
  step := Sender.step codec

-- msgpack gives back the frames that it has packed.
def RoundTrip (codec : Msgpack) : Prop :=
  ∀ (number : MsgInt) (sig payload datagram : List UInt8),
    codec.packb (.array [.int number, .bin sig, .bin payload]) = some datagram →
      codec.unpackb datagram = some (.array [.int number, .bin sig, .bin payload])

namespace SafeUdpSock

def outbound (sock : SafeUdpSock) (address : SocketAddress) : Int := (sock.tracker address).outbound

theorem increment_outbound (sock : SafeUdpSock) (resolved address : SocketAddress) :
    (sock.incrementOutboundSeqnum resolved).outbound address =
      if resolved = address then sock.outbound address + 1 else sock.outbound address := by
  by_cases same : resolved = address <;> simp [incrementOutboundSeqnum, outbound, same]

theorem increment_secret (sock : SafeUdpSock) (resolved : SocketAddress) :
    (sock.incrementOutboundSeqnum resolved).secret = sock.secret := by
  rw [incrementOutboundSeqnum, setTracker]
  exact populate_secret sock resolved

theorem increment_peer (sock : SafeUdpSock) (resolved : SocketAddress) :
    (sock.incrementOutboundSeqnum resolved).peer = sock.peer := by
  rw [incrementOutboundSeqnum, setTracker, populateSeqnumEntry]
  split <;> rfl

theorem resolve_numeric (answers : String → Option UInt32) (peer resolved : SocketAddress)
    (found : resolvePeer answers peer = .ok resolved) : ∃ address, resolved.host = .ip address := by
  unfold resolvePeer at found
  split at found
  · rename_i address numeric
    cases found
    exact ⟨address, numeric⟩
  · split at found
    · rename_i address answered
      cases found
      exact ⟨address, rfl⟩
    · cases found

theorem resolve_ip (answers : String → Option UInt32) (peer : SocketAddress) (address : UInt32)
    (numeric : peer.host = .ip address) : resolvePeer answers peer = .ok peer := by
  rw [resolvePeer, numeric]

theorem encode_frame_secret (codec : Msgpack) (sock other : SafeUdpSock) (payload : List UInt8) (sqnum : Int)
    (same : sock.secret = other.secret) :
    sock.encodeFrame codec payload sqnum = other.encodeFrame codec payload sqnum := by
  simp only [encodeFrame, genHmac, same]

theorem numbered_for_some (sock : SafeUdpSock) (call : SendCall) (peer resolved : SocketAddress)
    (targeted : sock.target call.toAddr = some peer) (found : resolvePeer call.answers peer = .ok resolved) :
    sock.numberedFor call = some resolved := by
  rw [numberedFor, targeted, Option.bind_some, found]
  rfl

-- What a send does: it raises with no number taken, or with the number of an
-- address taken, or a frame goes out under it.
inductive SendEnd (codec : Msgpack) (sock : SafeUdpSock) (call : SendCall)
    (result : SafeUdpSock × Except SendRaised Transmitted) : Prop where
  | untouched (raised : SendRaised) (ended : result = (sock, .error raised)) (none : sock.numberedFor call = none)
  | lost (resolved : SocketAddress) (raised : SendRaised) (numbered : sock.numberedFor call = some resolved)
      (ended : result = (sock.incrementOutboundSeqnum resolved, .error raised))
  | out (peer resolved destination : SocketAddress) (datagram : List UInt8)
      (target : sock.target call.toAddr = some peer) (numbered : resolvePeer call.answers peer = .ok resolved)
      (found : resolvePeer call.lookup peer = .ok destination)
      (packed : sock.encodeFrame codec call.data.content (sock.outbound resolved + 1) = .ok datagram)
      (ended : result = (sock.incrementOutboundSeqnum resolved,
        .ok ⟨destination, sock.outbound resolved + 1, call.data.content, datagram⟩))

theorem encode_data_ok (codec : Msgpack) (sock : SafeUdpSock) (data : ByteData) (sqnum : Int) (datagram : List UInt8)
    (encoded : sock.encodeData codec data sqnum = .ok datagram) :
    sock.encodeFrame codec data.content sqnum = .ok datagram := by
  cases data with
  | bytes content | bytearray content =>
      cases packed : sock.encodeFrame codec content sqnum with
      | error raised => simp [encodeData, packed, Except.mapError] at encoded
      | ok found => simpa [encodeData, packed, Except.mapError, ByteData.content] using encoded
  | memoryview content =>
      rw [encodeData] at encoded
      split at encoded <;> cases encoded

theorem sendto_ok (call : SendCall) (peer destination : SocketAddress) (sent : sendto call peer = .ok destination) :
    resolvePeer call.lookup peer = .ok destination := by
  unfold sendto at sent
  split at sent
  · cases sent
  · cases found : resolvePeer call.lookup peer with
    | error raised => simp [found, Except.mapError] at sent
    | ok address => simpa [found, Except.mapError] using sent

theorem send_data_end (codec : Msgpack) (sock : SafeUdpSock) (call : SendCall) :
    SendEnd codec sock call (sock.sendData codec call) := by
  rw [sendData]
  cases targeted : sock.target call.toAddr with
  | none => exact .untouched _ rfl (by rw [numberedFor, targeted]; rfl)
  | some peer =>
      cases resolution : resolvePeer call.answers peer with
      | error raised =>
          apply SendEnd.untouched (.raised raised)
          · simp only [resolution]
          · rw [numberedFor, targeted, Option.bind_some, resolution]
            rfl
      | ok resolved =>
          have numbered := numbered_for_some sock call peer resolved targeted resolution
          have number : ((sock.incrementOutboundSeqnum resolved).tracker resolved).outbound =
              sock.outbound resolved + 1 := by
            rw [← outbound, increment_outbound, if_pos rfl]
          simp only [resolution, number]
          cases encoded : (sock.incrementOutboundSeqnum resolved).encodeData codec call.data
              (sock.outbound resolved + 1) with
          | error raised => exact .lost resolved raised numbered rfl
          | ok datagram =>
              cases sent : sendto call peer with
              | error raised => exact .lost resolved raised numbered rfl
              | ok destination =>
                  have packed := encode_data_ok codec _ call.data _ datagram encoded
                  rw [encode_frame_secret codec _ sock _ _ (increment_secret sock resolved)] at packed
                  have found := sendto_ok call peer destination sent
                  exact .out peer resolved destination datagram targeted resolution found packed rfl

theorem decode_frame_secret (codec : Msgpack) (answers : String → Option UInt32) (sock : SafeUdpSock)
    (data : List UInt8) (peer : SocketAddress) : (sock.decodeFrame codec answers data peer).1.secret = sock.secret := by
  unfold decodeFrame
  split
  · rfl
  · split
    · rfl
    · rename_i resolved _
      have kept := populate_secret sock resolved
      dsimp only
      split
      · exact kept
      · split
        · exact kept
        · split
          · rw [setInboundSeqnum, setTracker, populate_secret, kept]
          · exact kept

theorem msg_int_value (number : Int) (value : MsgInt) (fits : MsgInt.of number = some value) : value.value = number := by
  unfold MsgInt.of at fits
  split at fits
  · cases fits
    rfl
  · cases fits

theorem msg_int_eq (one other : MsgInt) (same : one.value = other.value) : one = other := by
  cases one
  cases other
  cases same
  rfl

theorem encode_frame_ok (codec : Msgpack) (sock : SafeUdpSock) (payload : List UInt8) (sqnum : Int)
    (datagram : List UInt8) (encoded : sock.encodeFrame codec payload sqnum = .ok datagram) :
    ∃ number value, seqNumBytes sqnum = .ok number ∧ MsgInt.of sqnum = some value ∧
      codec.packb (.array [.int value, .bin (sock.genHmac (payload ++ number)), .bin payload]) = some datagram := by
  rw [encodeFrame] at encoded
  cases bytes : seqNumBytes sqnum with
  | error raised =>
      rw [bytes] at encoded
      cases encoded
  | ok number =>
      simp only [bytes, bind, Except.bind] at encoded
      split at encoded
      · cases encoded
      · rename_i value known
        split at encoded
        · cases encoded
        · rename_i made
          cases encoded
          exact ⟨number, value, rfl, known, made⟩

-- The frame is packed under a secret, and recv reads all of it.
structure Packed (codec : Msgpack) (sock : SafeUdpSock) (frame : Transmitted) : Prop where
  encoded : sock.encodeFrame codec frame.payload frame.seqNum = .ok frame.datagram
  whole : frame.datagram.length ≤ MAX_RECV_BUFF_SIZE

theorem packed_secret (codec : Msgpack) (sock other : SafeUdpSock) (frame : Transmitted)
    (same : other.secret = sock.secret) (packed : sock.Packed codec frame) : other.Packed codec frame := by
  apply Packed.mk
  · rw [encode_frame_secret codec other sock _ _ same]
    exact packed.encoded
  · exact packed.whole

theorem packed_fields (codec : Msgpack) (roundTrip : RoundTrip codec) (sock : SafeUdpSock) (frame : Transmitted)
    (packed : sock.Packed codec frame) : ∃ sig,
      frameFields codec frame.datagram = some (⟨frame.seqNum, frame.payload⟩, sig) ∧
        sock.signed ⟨frame.seqNum, frame.payload⟩ sig = true := by
  obtain ⟨number, value, bytes, fits, made⟩ := encode_frame_ok codec sock _ _ _ packed.encoded
  have read := roundTrip value _ _ _ made
  refine ⟨sock.genHmac (frame.payload ++ number), ?_, ?_⟩
  · simp [frameFields, read, MsgObject.unpack3, MsgObject.asInt, MsgObject.asBytes, msg_int_value _ _ fits]
  · simp [signed, bytes]

theorem recv_datagram_taken (codec : Msgpack) (roundTrip : RoundTrip codec) (answers : String → Option UInt32)
    (receiver sock : SafeUdpSock) (fromAddr : Option SocketAddress) (address : UInt32) (port : Nat) (frame : Transmitted)
    (secret : receiver.secret = sock.secret) (packed : sock.Packed codec frame)
    (floor : 0 ≤ receiver.inbound ⟨.ip address, port⟩)
    (fresh : receiver.inbound ⟨.ip address, port⟩ < frame.seqNum)
    (admitted : fromAddr = none ∨ fromAddr = some ⟨.ip address, port⟩) :
    let received := receiver.recvDatagram codec answers fromAddr frame.datagram ⟨.ip address, port⟩
    received.2 = .ok (some frame.payload) ∧ received.1.secret = sock.secret ∧
      received.1.inbound ⟨.ip address, port⟩ = frame.seqNum := by
  obtain ⟨sig, fields, signed⟩ := packed_fields codec roundTrip receiver frame
    (packed_secret codec sock receiver frame secret packed)
  have kept := decode_frame_secret codec answers receiver frame.datagram ⟨.ip address, port⟩
  have decoded := decode_frame_cases codec answers receiver frame.datagram address port floor
  dsimp only
  rw [recvDatagram, if_pos admitted, List.take_of_length_le packed.whole]
  cases outcome : receiver.decodeFrame codec answers frame.datagram ⟨.ip address, port⟩ with
  | mk after result =>
      rw [outcome] at kept decoded
      cases decoded with
      | rejected _ _ stale =>
          have old := stale (⟨frame.seqNum, frame.payload⟩, sig) fields signed
          exact absurd fresh (Int.not_lt.mpr old)
      | accepted found other known _ _ taken counted =>
          rw [fields] at known
          cases known
          have counter := counted ⟨.ip address, port⟩
          rw [if_pos rfl] at counter
          dsimp only at taken
          subst taken
          exact ⟨rfl, kept.trans secret, counter⟩

theorem received_all_taken (codec : Msgpack) (roundTrip : RoundTrip codec) (answers : String → Option UInt32)
    (sock : SafeUdpSock) (fromAddr : Option SocketAddress) (address : UInt32) (port : Nat)
    (admitted : fromAddr = none ∨ fromAddr = some ⟨.ip address, port⟩) (stream : List Outgoing)
    (ascending : stream.Pairwise fun earlier later => earlier.seqNum < later.seqNum)
    (packed : ∀ frame ∈ stream, sock.Packed codec frame.toTransmitted) (receiver : SafeUdpSock)
    (secret : receiver.secret = sock.secret) (floor : 0 ≤ receiver.inbound ⟨.ip address, port⟩)
    (fresh : ∀ frame ∈ stream, receiver.inbound ⟨.ip address, port⟩ < frame.seqNum) :
    receiver.receivedAll codec answers fromAddr ⟨.ip address, port⟩ (stream.map fun frame => frame.datagram) =
      stream.map fun frame => .ok (some frame.payload) := by
  induction stream generalizing receiver with
  | nil => rfl
  | cons frame rest ih =>
      obtain ⟨above, ascending⟩ := List.pairwise_cons.mp ascending
      have first := fresh frame List.mem_cons_self
      obtain ⟨taken, kept, counter⟩ := recv_datagram_taken codec roundTrip answers receiver sock fromAddr address port
        frame.toTransmitted secret (packed frame List.mem_cons_self) floor first admitted
      rw [List.map_cons, receivedAll, List.map_cons, taken]
      congr 1
      apply ih ascending
      · intro other member
        exact packed other (List.mem_cons_of_mem _ member)
      · exact kept
      · rw [counter]
        exact Int.le_of_lt (Int.lt_of_le_of_lt floor first)
      · intro other member
        rw [counter]
        exact above other member

end SafeUdpSock

namespace Sender

open SafeUdpSock

-- The counter of an address is the number of frames that went there, and it is
-- higher where a number was lost.
structure Counted (codec : Msgpack) (sender : Sender) : Prop where
  peer : sender.sock.peer = sender.setPeer.getD INVALID_ADDRESS
  numeric : ∀ peer ∈ sender.setPeer, ∃ address, peer.host = .ip address
  counters : ∀ address, ((sender.sentTo address).length : Int) ≤ sender.sock.outbound address ∧
    (sender.sock.outbound address = (sender.sentTo address).length ↔ address ∉ sender.lost)
  addressed : ∀ frame ∈ sender.outgoing, frame.wanted = some frame.destination
  numbered : ∀ (place : Nat) (destination : SocketAddress) (frame : Outgoing),
    (sender.sentTo destination)[place]? = some frame → frame.seqNum = place + 1
  packed : ∀ frame ∈ sender.outgoing, sender.sock.Packed codec frame.toTransmitted

theorem sent_to_ascending (sender : Sender) (destination : SocketAddress)
    (numbered : ∀ (place : Nat) (frame : Outgoing),
      (sender.sentTo destination)[place]? = some frame → frame.seqNum = place + 1) :
    (sender.sentTo destination).Pairwise fun earlier later => earlier.seqNum < later.seqNum := by
  rw [List.pairwise_iff_getElem]
  intro early late inEarly inLate before
  rw [numbered early _ (List.getElem?_eq_getElem inEarly), numbered late _ (List.getElem?_eq_getElem inLate)]
  omega

theorem counted_kept (codec : Msgpack) (roundTrip : RoundTrip codec) (sender : Sender) (counted : sender.Counted codec) :
    sender.Kept codec := by
  apply Kept.mk
  · exact counted.addressed
  · exact counted.numbered
  · intro destination stream part receiver answers fromAddr address port secret fresh admitted
    have numbered := fun place frame => counted.numbered place destination frame
    apply received_all_taken codec roundTrip answers sender.sock fromAddr address port admitted stream
    · exact (sent_to_ascending sender destination numbered).sublist part
    · intro frame member
      exact counted.packed frame (List.mem_of_mem_filter (part.subset member))
    · exact secret
    · exact Int.le_of_eq fresh.symm
    · intro frame member
      obtain ⟨place, inside, found⟩ := List.mem_iff_getElem.mp (part.subset member)
      have number := numbered place frame (by rw [List.getElem?_eq_getElem inside, found])
      rw [fresh, number]
      omega

theorem counted_target (codec : Msgpack) (sender : Sender) (counted : sender.Counted codec)
    (toAddr : Option SocketAddress) : sender.sock.target toAddr = sender.setPeer.or toAddr := by
  rw [target, counted.peer]
  cases known : sender.setPeer with
  | none => rfl
  | some peer =>
      obtain ⟨address, numeric⟩ := counted.numeric peer known
      rw [Option.getD_some, numeric, if_pos (by simp [INVALID_ADDRESS])]
      rfl

-- A frame goes where it is for if and only if the set peer is not another address.
theorem wanted_iff (codec : Msgpack) (sender : Sender) (counted : sender.Counted codec) (call : SendCall)
    (peer destination : SocketAddress) (targeted : sender.sock.target call.toAddr = some peer)
    (found : resolvePeer call.lookup peer = .ok destination) :
    sender.wanted call = some destination ↔
      ∀ addr ∈ call.toAddr, ∀ peer ∈ sender.setPeer, (resolvePeer call.lookup addr).toOption = some peer := by
  rw [counted_target codec sender counted] at targeted
  cases known : sender.setPeer with
  | none =>
      rw [known, Option.none_or] at targeted
      simp [wanted, targeted, found, Except.toOption]
  | some current =>
      rw [known, Option.some_or] at targeted
      cases targeted
      obtain ⟨address, numeric⟩ := counted.numeric peer known
      rw [resolve_ip call.lookup peer address numeric] at found
      cases found
      cases given : call.toAddr with
      | none => simp [wanted, given, known]
      | some addr => simp [wanted, given]

theorem same_lookup_destination (sender : Sender) (call : SendCall) (same : sender.SameLookup call)
    (peer resolved destination : SocketAddress) (targeted : sender.sock.target call.toAddr = some peer)
    (numbered : resolvePeer call.answers peer = .ok resolved) (found : resolvePeer call.lookup peer = .ok destination) :
    resolved = destination := by
  have one := same peer targeted
  rw [numbered, found] at one
  cases one
  rfl

theorem sent_to_transmit (sender : Sender) (sock : SafeUdpSock) (frame : Outgoing) (destination : SocketAddress) :
    (sender.transmit sock frame).sentTo destination =
      if frame.destination = destination then sender.sentTo destination ++ [frame] else sender.sentTo destination := by
  rw [sentTo, transmit, List.filter_append]
  by_cases same : frame.destination = destination <;> simp [same, sentTo]

theorem numbered_transmit (sender : Sender) (sock : SafeUdpSock) (frame : Outgoing)
    (numbered : ∀ (place : Nat) (destination : SocketAddress) (found : Outgoing),
      (sender.sentTo destination)[place]? = some found → found.seqNum = place + 1) :
    (∀ (place : Nat) (destination : SocketAddress) (found : Outgoing),
      ((sender.transmit sock frame).sentTo destination)[place]? = some found → found.seqNum = place + 1) ↔
        frame.seqNum = (sender.sentTo frame.destination).length + 1 := by
  apply Iff.intro
  · intro all
    apply all (sender.sentTo frame.destination).length frame.destination frame
    rw [sent_to_transmit, if_pos rfl, List.getElem?_concat_length]
  · intro number place destination found present
    rw [sent_to_transmit] at present
    split at present
    · rename_i same
      subst same
      by_cases old : place < (sender.sentTo frame.destination).length
      · rw [List.getElem?_append_left old] at present
        exact numbered place frame.destination found present
      · have last : place = (sender.sentTo frame.destination).length := by
          have inside := (List.getElem?_eq_some_iff.mp present).1
          rw [List.length_append, List.length_singleton] at inside
          omega
        subst last
        rw [List.getElem?_concat_length] at present
        cases present
        exact number
    · exact numbered place destination found present

theorem transmit_counted (codec : Msgpack) (sender : Sender) (counted : sender.Counted codec) (frame : Outgoing)
    (right : frame.wanted = some frame.destination) (unbroken : frame.destination ∉ sender.lost)
    (number : frame.seqNum = sender.sock.outbound frame.destination + 1)
    (packed : sender.sock.Packed codec frame.toTransmitted) :
    (sender.transmit (sender.sock.incrementOutboundSeqnum frame.destination) frame).Counted codec := by
  have count := (counted.counters frame.destination).2.mpr unbroken
  apply Counted.mk
  · rw [transmit, increment_peer]
    exact counted.peer
  · exact counted.numeric
  · intro address
    have before := counted.counters address
    rw [sent_to_transmit, transmit, increment_outbound]
    split
    · rename_i same
      subst same
      rw [List.length_append, List.length_singleton]
      exact ⟨by omega, iff_of_true (by omega) unbroken⟩
    · exact before
  · intro other member
    cases List.mem_append.mp member with
    | inl old => exact counted.addressed other old
    | inr new =>
        rw [List.mem_singleton.mp new]
        exact right
  · apply (numbered_transmit sender _ frame counted.numbered).mpr
    rw [number, count]
  · intro other member
    apply packed_secret codec sender.sock _ _ (increment_secret sender.sock frame.destination)
    cases List.mem_append.mp member with
    | inl old => exact counted.packed other old
    | inr new =>
        rw [List.mem_singleton.mp new]
        exact packed

theorem lost_counted (codec : Msgpack) (sender : Sender) (counted : sender.Counted codec) (resolved : SocketAddress) :
    Counted codec { sender with
      sock := sender.sock.incrementOutboundSeqnum resolved
      lost := sender.lost ++ [resolved] } := by
  apply Counted.mk
  · rw [increment_peer]
    exact counted.peer
  · exact counted.numeric
  · intro address
    have before := counted.counters address
    rw [increment_outbound]
    change ((sender.sentTo address).length : Int) ≤ _ ∧ (_ = ((sender.sentTo address).length : Int) ↔ _)
    split
    · rename_i same
      subst same
      refine ⟨by omega, iff_of_false (by omega) ?_⟩
      simp
    · rename_i apart
      refine ⟨before.1, before.2.trans ?_⟩
      simp [Ne.symm apart]
  · exact counted.addressed
  · exact counted.numbered
  · intro frame member
    apply packed_secret codec sender.sock _ _ (increment_secret sender.sock resolved)
    exact counted.packed frame member

theorem peer_counted (codec : Msgpack) (sender : Sender) (counted : sender.Counted codec)
    (current : Option SocketAddress) (numeric : ∀ peer ∈ current, ∃ address, peer.host = .ip address) :
    Counted codec { sender with
      sock := { sender.sock with peer := current.getD INVALID_ADDRESS }
      setPeer := current } := by
  apply Counted.mk
  · rfl
  · exact numeric
  · exact counted.counters
  · exact counted.addressed
  · exact counted.numbered
  · intro frame member
    exact packed_secret codec sender.sock _ _ rfl (counted.packed frame member)

theorem set_peer_counted (codec : Msgpack) (sender next : Sender) (counted : sender.Counted codec)
    (answers : String → Option UInt32) (peerAddr : Option SocketAddress)
    (moved : sender.step codec (.setPeer answers peerAddr) = some next) : next.Counted codec := by
  rw [step] at moved
  cases peerAddr with
  | none =>
      cases moved
      exact peer_counted codec sender counted none (by simp)
  | some peer =>
      rw [SafeUdpSock.setPeer] at moved
      cases found : resolvePeer answers peer with
      | error raised =>
          rw [found] at moved
          cases moved
          exact counted
      | ok resolved =>
          rw [found] at moved
          cases moved
          simp only [Option.bind_some, found, Except.toOption]
          apply peer_counted codec sender counted (some resolved)
          intro other same
          cases same
          exact resolve_numeric answers peer resolved found

theorem send_counted (codec : Msgpack) (sender next : Sender) (counted : sender.Counted codec) (call : SendCall)
    (aligned : sender.Aligned call) (same : sender.SameLookup call) (short : sender.Short codec call)
    (moved : sender.step codec (.send call) = some next) : next.Counted codec := by
  rw [step] at moved
  cases send_data_end codec sender.sock call with
  | untouched raised ended none =>
      rw [ended, none] at moved
      simp only [Option.toList_none, List.append_nil] at moved
      cases moved
      exact counted
  | lost resolved raised numbered ended =>
      rw [ended, numbered] at moved
      cases moved
      exact lost_counted codec sender counted resolved
  | out peer resolved destination datagram targeted numbered found packed ended =>
      rw [ended] at moved
      cases moved
      have one := same_lookup_destination sender call same peer resolved destination targeted numbered found
      subst one
      apply transmit_counted codec sender counted
        ⟨⟨resolved, sender.sock.outbound resolved + 1, call.data.content, datagram⟩, sender.wanted call⟩
      · exact (wanted_iff codec sender counted call peer resolved targeted found).mpr aligned.own
      · exact aligned.unbroken resolved (numbered_for_some sender.sock call peer resolved targeted numbered)
      · rfl
      · exact ⟨packed, short _ datagram packed⟩

-- A frame that went out is right only if its call was.
theorem kept_aligned (codec : Msgpack) (sender next : Sender) (counted : sender.Counted codec) (call : SendCall)
    (transmitted : Transmitted) (out : (sender.sock.sendData codec call).2 = .ok transmitted)
    (same : sender.SameLookup call) (moved : sender.step codec (.send call) = some next) (kept : next.Kept codec) :
    sender.Aligned call := by
  rw [step] at moved
  cases send_data_end codec sender.sock call with
  | untouched raised ended none =>
      rw [ended] at out
      cases out
  | lost resolved raised numbered ended =>
      rw [ended] at out
      cases out
  | out peer resolved destination datagram targeted numbered found packed ended =>
      rw [ended] at moved
      cases moved
      have one := same_lookup_destination sender call same peer resolved destination targeted numbered found
      subst one
      apply Aligned.mk
      · apply (wanted_iff codec sender counted call peer resolved targeted found).mp
        exact kept.addressed _ (List.mem_append_right _ List.mem_cons_self)
      · intro address taken
        rw [numbered_for_some sender.sock call peer resolved targeted numbered] at taken
        cases taken
        have number := (numbered_transmit sender _ _ counted.numbered).mp kept.numbered
        exact (counted.counters resolved).2.mp ((Int.add_left_inj 1).mp number)

theorem start_counted (codec : Msgpack) (sender : Sender) (started : (addressing codec).start sender) :
    sender.Counted codec := by
  obtain ⟨secret, fresh⟩ := started
  subst fresh
  apply Counted.mk
  · rfl
  · simp
  · intro address
    exact ⟨Int.le_refl 0, iff_of_true rfl List.not_mem_nil⟩
  · simp
  · intro place destination frame present
    cases present
  · simp

theorem sends_addressed_numbered (codec : Msgpack) (roundTrip : RoundTrip codec) (sender : Sender)
    (reached : Reached (addressing codec) (alignedSend codec) sender) :
    sender.Kept codec ∧ ∀ (call : SendCall) (transmitted : Transmitted) (next : Sender),
      sender.SameLookup call → sender.Short codec call → (sender.sock.sendData codec call).2 = .ok transmitted →
        sender.step codec (.send call) = some next → (next.Kept codec ↔ sender.Aligned call) := by
  have counted : sender.Counted codec := by
    apply reached_invariant (addressing codec) (alignedSend codec) (Counted codec) (start_counted codec) _ sender reached
    intro source action target inv admitted moved
    cases action with
    | setPeer answers peerAddr => exact set_peer_counted codec source target inv answers peerAddr moved
    | send call => exact send_counted codec source target inv call admitted.1 admitted.2.1 admitted.2.2 moved
  apply And.intro
  · exact counted_kept codec roundTrip sender counted
  · intro call transmitted next same short out moved
    apply Iff.intro
    · exact kept_aligned codec sender next counted call transmitted out same moved
    · intro aligned
      exact counted_kept codec roundTrip next (send_counted codec sender next counted call aligned same short moved)

instance (sender : Sender) (call : SendCall) : Decidable (sender.Aligned call) :=
  decidable_of_iff
    ((∀ addr ∈ call.toAddr, ∀ peer ∈ sender.setPeer, (resolvePeer call.lookup addr).toOption = some peer) ∧
      ∀ address ∈ sender.sock.numberedFor call, address ∉ sender.lost)
    ⟨fun both => ⟨both.1, both.2⟩, fun aligned => ⟨aligned.own, aligned.unbroken⟩⟩

instance (sender : Sender) (call : SendCall) : Decidable (sender.SameLookup call) :=
  inferInstanceAs (Decidable (∀ _ ∈ _, _))

def shortAligned (sender : Sender) : SenderAction → Prop
  | .setPeer _ _ => True
  | .send call => sender.Aligned call ∧ sender.SameLookup call

instance (sender : Sender) : (action : SenderAction) → Decidable (sender.shortAligned action)
  | .setPeer _ _ => inferInstanceAs (Decidable True)
  | .send _ => inferInstanceAs (Decidable (_ ∧ _))

theorem small_frames_round_trip : RoundTrip Network.smallFrames := by
  intro number sig payload datagram made
  simp only [Network.smallFrames] at made
  split at made
  · rename_i fits
    obtain ⟨low, high, sigSize, size⟩ := fits
    cases made
    have sigLength : (UInt8.ofNat sig.length).toNat = sig.length := by
      rw [UInt8.toNat_ofNat', Nat.mod_eq_of_lt sigSize]
    have length : (UInt8.ofNat payload.length).toNat = payload.length := by
      rw [UInt8.toNat_ofNat', Nat.mod_eq_of_lt size]
    have byte : (UInt8.ofNat number.value.toNat).toNat = number.value.toNat := by
      rw [UInt8.toNat_ofNat', Nat.mod_eq_of_lt (by omega)]
    have small : UInt8.ofNat number.value.toNat < 128 := by
      rw [UInt8.lt_iff_toNat_lt, byte]
      show number.value.toNat < 128
      omega
    have same : MsgInt.ofByte (UInt8.ofNat number.value.toNat) = number := by
      apply msg_int_eq
      exact (congrArg Int.ofNat byte).trans (Int.toNat_of_nonneg low)
    simp [Network.smallFrames, sigLength, length, small, same]
  · cases made

theorem small_frames_short (sender : Sender) (call : SendCall) : sender.Short Network.smallFrames call := by
  intro sqnum datagram encoded
  obtain ⟨number, value, _, _, made⟩ := encode_frame_ok _ _ _ _ _ encoded
  simp only [Network.smallFrames] at made
  split at made
  · rename_i fits
    cases made
    simp only [List.length_append, List.length_cons, List.length_nil, MAX_RECV_BUFF_SIZE]
    omega
  · cases made

def sends (toAddr : Option SocketAddress) (content : List UInt8) : SenderAction :=
  .send ⟨Network.unresolved, Network.unresolved, .bytes content, toAddr, false⟩

theorem sends_addressed_numbered_two_peers : ∃ sender : Sender,
    sender.outgoing.map (fun frame => (frame.destination, frame.seqNum)) =
      [(⟨.ip 1, 4000⟩, 1), (⟨.ip 2, 4000⟩, 1), (⟨.ip 2, 4000⟩, 2)] ∧ sender.Kept Network.smallFrames := by
  obtain ⟨sender, reached, ends⟩ := replay_exists (addressing Network.smallFrames) shortAligned
    [sends (some ⟨.ip 1, 4000⟩) [1, 2], .setPeer Network.unresolved (some ⟨.ip 2, 4000⟩), sends none [3],
      sends (some ⟨.ip 2, 4000⟩) []]
    ⟨.init [7], none, [], []⟩
    (fun sender => sender.outgoing.map (fun frame => (frame.destination, frame.seqNum)) =
      [(⟨.ip 1, 4000⟩, 1), (⟨.ip 2, 4000⟩, 1), (⟨.ip 2, 4000⟩, 2)])
    ⟨[7], rfl⟩ (by decide +kernel)
  obtain ⟨initial, started, runs⟩ := reached
  have aligned : Runs (addressing Network.smallFrames) (alignedSend Network.smallFrames) initial sender := by
    apply runs_weaken _ shortAligned _ _ initial sender runs
    intro state action admitted
    cases action with
    | setPeer answers peerAddr => trivial
    | send call => exact ⟨admitted.1, admitted.2, small_frames_short state call⟩
  exact ⟨sender, ends, (sends_addressed_numbered Network.smallFrames small_frames_round_trip sender
    ⟨initial, started, aligned⟩).1⟩

-- A set peer takes what is sent to another address.
theorem set_peer_overrides_to : ∃ sender : Sender,
    Reached (addressing Network.smallFrames) anyAction sender ∧
      sender.outgoing.map (fun frame => (frame.wanted, frame.destination)) = [(some ⟨.ip 2, 5000⟩, ⟨.ip 1, 4000⟩)] ∧
        ¬ sender.Kept Network.smallFrames := by
  obtain ⟨sender, reached, went⟩ := replay_exists (addressing Network.smallFrames) anyAction
    [.setPeer Network.unresolved (some ⟨.ip 1, 4000⟩), sends (some ⟨.ip 2, 5000⟩) [1, 2]]
    ⟨.init [7], none, [], []⟩
    (fun sender => sender.outgoing.map (fun frame => (frame.wanted, frame.destination)) =
      [(some ⟨.ip 2, 5000⟩, ⟨.ip 1, 4000⟩)])
    ⟨[7], rfl⟩ (by decide +kernel)
  refine ⟨sender, reached, went, fun kept => ?_⟩
  cases sent : sender.outgoing with
  | nil =>
      rw [sent] at went
      cases went
  | cons frame rest =>
      have right := kept.addressed frame (by rw [sent]; exact List.mem_cons_self)
      rw [sent] at went
      have first := (List.cons.inj went).1
      rw [Prod.mk.injEq, right] at first
      rw [first.2] at first
      exact absurd first.1 (by decide)

end Sender

namespace SafeUdpSock

-- With bytes that sendto takes, where the names have one answer.
theorem send_data_send (codec : Msgpack) (sock : SafeUdpSock) (answers : String → Option UInt32) (data : List UInt8)
    (toAddr : Option SocketAddress) :
    sock.sendData codec ⟨answers, answers, .bytes data, toAddr, false⟩ =
      ((sock.send codec answers data toAddr).1,
        ((sock.send codec answers data toAddr).2.mapError SendRaised.raised).map fun sent =>
          ⟨sent.1, sent.2.1.seqNum, sent.2.1.payload, sent.2.2⟩) := by
  simp only [sendData, send, target]
  cases (if sock.peer.host ≠ INVALID_ADDRESS.host then some sock.peer else toAddr) with
  | none => rfl
  | some peer =>
      cases resolution : resolvePeer answers peer with
      | error raised => simp only [resolution, Except.mapError, Except.map]
      | ok resolved =>
          simp only [resolution, encodeData, sendto]
          cases encodeFrame codec (sock.incrementOutboundSeqnum resolved) data
              ((sock.incrementOutboundSeqnum resolved).tracker resolved).outbound with
          | error raised => rfl
          | ok encoded => rfl

end SafeUdpSock

end Animacharacter.Pysafeudp
