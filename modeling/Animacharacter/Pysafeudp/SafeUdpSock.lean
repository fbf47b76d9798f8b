import Mathlib.Algebra.Group.Int.Defs
import Animacharacter.Library.Blake2s
import Animacharacter.Library.Dict

set_option autoImplicit false

namespace Animacharacter.Pysafeudp

structure MsgInt where
  value : Int
  lower : -2 ^ 63 ≤ value
  upper : value < 2 ^ 64

def MsgInt.of (value : Int) : Option MsgInt :=
  if fits : -2 ^ 63 ≤ value ∧ value < 2 ^ 64 then some ⟨value, fits.1, fits.2⟩ else none

def MsgInt.ofByte (byte : UInt8) : MsgInt where
  value := byte.toNat
  lower := by omega
  upper := by
    have := byte.toNat_lt
    omega

inductive MsgObject where
  | nil
  | bool (value : Bool)
  | int (value : MsgInt)
  | float (bits : UInt64)
  | str (text : String)
  | bin (bytes : List UInt8)
  | array (items : List MsgObject)
  | map (items : List (MsgObject × MsgObject))
  | ext (code : Int) (data : List UInt8)
  | timestamp (seconds : Int) (nanoseconds : Nat)

-- The msgpack package; `none` stands for every exception it raises.
structure Msgpack where
  packb : MsgObject → Option (List UInt8)
  unpackb : List UInt8 → Option MsgObject

namespace MsgObject

-- `first, second, third = value`: a dict is iterated over its keys.
def unpack3 : MsgObject → Option (MsgObject × MsgObject × MsgObject)
  | .array [first, second, third] => some (first, second, third)
  | .map [(first, _), (second, _), (third, _)] => some (first, second, third)
  | .bin [first, second, third] => some (.int (.ofByte first), .int (.ofByte second), .int (.ofByte third))
  | .str text =>
      match text.toList with
      | [first, second, third] => some (.str first.toString, .str second.toString, .str third.toString)
      | _ => none
  | _ => none

-- bool is a subclass of int.
def asInt : MsgObject → Option Int
  | .int number => some number.value
  | .bool flag => some flag.toNat
  | _ => none

def asBytes : MsgObject → Option (List UInt8)
  | .bin bytes => some bytes
  | _ => none

end MsgObject

inductive Host where
  | ip (address : UInt32)
  | name (text : String)
deriving DecidableEq, Repr

structure SocketAddress where
  host : Host
  port : Nat
deriving DecidableEq, Repr

def INVALID_ADDRESS : SocketAddress := ⟨.name "__invalid__", 0⟩

inductive Raised where
  | SafeudpNullPeer (text : String)
  | OverflowError (text : String)
  | PackException
  | gaierror (host : String)
deriving DecidableEq, Repr

def RCV_OWN_PEER : Int := 0
def RCV_EVERYONE : Int := 1

inductive RecvFrom where
  | mode (value : Int)
  | address (address : SocketAddress)

structure SeqNumTracker where
  outbound : Int
  inbound : Int
deriving DecidableEq, Repr

structure Frame where
  seqNum : Int
  payload : List UInt8
deriving DecidableEq, Repr

structure SafeUdpSock where
  secret : List UInt8
  seqNumMap : Dict SocketAddress SeqNumTracker
  latestSender : SocketAddress
  peer : SocketAddress

namespace SafeUdpSock

def SIGNATURE_SIZE_BYTES : Nat := 8
def SEQ_NUM_SIZE_BYTES : Nat := 8
def MAX_RECV_BUFF_SIZE : Nat := 4096

def init (secretKey : List UInt8) : SafeUdpSock where
  secret := secretKey
  seqNumMap := .empty
  latestSender := INVALID_ADDRESS
  peer := INVALID_ADDRESS

-- `answers` is what gethostbyname says of names; a numeric host is its own answer.
def resolvePeer (answers : String → Option UInt32) (peer : SocketAddress) : Except Raised SocketAddress :=
  match peer.host with
  | .ip _ => .ok peer
  | .name text =>
      match answers text with
      | some address => .ok ⟨.ip address, peer.port⟩
      | none => .error (.gaierror text)

def populateSeqnumEntry (sock : SafeUdpSock) (resolved : SocketAddress) : SafeUdpSock :=
  match sock.seqNumMap.get resolved with
  | some _ => sock
  | none => { sock with seqNumMap := sock.seqNumMap.set resolved ⟨0, 0⟩ }

def tracker (sock : SafeUdpSock) (resolved : SocketAddress) : SeqNumTracker :=
  (sock.seqNumMap.get resolved).getD ⟨0, 0⟩

def setTracker (sock : SafeUdpSock) (resolved : SocketAddress) (tracker : SeqNumTracker) : SafeUdpSock :=
  { sock with seqNumMap := sock.seqNumMap.set resolved tracker }

def incrementOutboundSeqnum (sock : SafeUdpSock) (resolved : SocketAddress) : SafeUdpSock :=
  let sock := sock.populateSeqnumEntry resolved
  sock.setTracker resolved { sock.tracker resolved with outbound := (sock.tracker resolved).outbound + 1 }

def overrideOutboundSeqnum (sock : SafeUdpSock) (resolved : SocketAddress) (val : Int) : SafeUdpSock :=
  let sock := sock.populateSeqnumEntry resolved
  sock.setTracker resolved { sock.tracker resolved with outbound := val }

def setInboundSeqnum (sock : SafeUdpSock) (resolved : SocketAddress) (val : Int) : SafeUdpSock :=
  let sock := sock.populateSeqnumEntry resolved
  sock.setTracker resolved { sock.tracker resolved with inbound := val }

def genHmac (sock : SafeUdpSock) (data : List UInt8) : List UInt8 :=
  (Blake2s.hmac sock.secret data).take SIGNATURE_SIZE_BYTES

-- seqNum.to_bytes(SEQ_NUM_SIZE_BYTES, "big")
def seqNumBytes (seqNum : Int) : Except Raised (List UInt8) :=
  if seqNum < 0 then .error (.OverflowError "can't convert negative int to unsigned")
  else if seqNum < 256 ^ SEQ_NUM_SIZE_BYTES then .ok (BigEndian.toBytes SEQ_NUM_SIZE_BYTES seqNum.toNat)
  else .error (.OverflowError "int too big to convert")

def encodeFrame (codec : Msgpack) (sock : SafeUdpSock) (payload : List UInt8) (sqnum : Int) :
    Except Raised (List UInt8) := do
  let number ← seqNumBytes sqnum
  match MsgInt.of sqnum with
  | none => .error (.OverflowError "Integer value out of range")
  | some value =>
      match codec.packb (.array [.int value, .bin (sock.genHmac (payload ++ number)), .bin payload]) with
      | none => .error .PackException
      | some frame => .ok frame

-- The frame and the address it goes to. A number that was taken stays taken.
def send (codec : Msgpack) (answers : String → Option UInt32) (sock : SafeUdpSock) (data : List UInt8)
    (toAddr : Option SocketAddress) : SafeUdpSock × Except Raised (SocketAddress × Frame × List UInt8) :=
  let target := if sock.peer.host ≠ INVALID_ADDRESS.host then some sock.peer else toAddr
  match target with
  | none => (sock, .error (.SafeudpNullPeer "Attempted 'send' without specifying a peer."))
  | some peer =>
      match resolvePeer answers peer with
      | .error raised => (sock, .error raised)
      | .ok resolved =>
          let sock := sock.incrementOutboundSeqnum resolved
          let sqnum := (sock.tracker resolved).outbound
          (sock, (sock.encodeFrame codec data sqnum).map fun encoded => (resolved, ⟨sqnum, data⟩, encoded))

-- The sequence number, signature and payload of a datagram whose types are right.
def frameFields (codec : Msgpack) (data : List UInt8) : Option (Frame × List UInt8) := do
  let (first, second, third) ← (codec.unpackb data).bind MsgObject.unpack3
  let seqNumRemote ← first.asInt
  let sig ← second.asBytes
  let payload ← third.asBytes
  return (⟨seqNumRemote, payload⟩, sig)

def decodeFrame (codec : Msgpack) (answers : String → Option UInt32) (sock : SafeUdpSock) (data : List UInt8)
    (peer : SocketAddress) : SafeUdpSock × Except Raised (Option (List UInt8)) :=
  match frameFields codec data with
  | none => (sock, .ok none)
  | some (frame, sig) =>
      match resolvePeer answers peer with
      | .error raised => (sock, .error raised)
      | .ok resolved =>
          let sock := sock.populateSeqnumEntry resolved
          if frame.seqNum ≤ (sock.tracker resolved).inbound then (sock, .ok none)
          else
            match seqNumBytes frame.seqNum with
            | .error raised => (sock, .error raised)
            | .ok number =>
                if sock.genHmac (frame.payload ++ number) = sig then
                  (sock.setInboundSeqnum resolved frame.seqNum, .ok (some frame.payload))
                else (sock, .ok none)

def recvFilter (answers : String → Option UInt32) (sock : SafeUdpSock) : RecvFrom → Except Raised (Option SocketAddress)
  | .mode value => .ok (if value = RCV_EVERYONE then none else if value = RCV_OWN_PEER then some sock.peer else none)
  | .address address => (resolvePeer answers address).map some

-- One datagram in the loop of recv, which goes on unless there is a payload or an exception.
def recvDatagram (codec : Msgpack) (answers : String → Option UInt32) (sock : SafeUdpSock)
    (fromAddr : Option SocketAddress) (data : List UInt8) (addr : SocketAddress) :
    SafeUdpSock × Except Raised (Option (List UInt8)) :=
  if fromAddr = none ∨ fromAddr = some addr then
    match sock.decodeFrame codec answers (data.take MAX_RECV_BUFF_SIZE) addr with
    | (sock, .ok (some payload)) => ({ sock with latestSender := addr }, .ok (some payload))
    | rejected => rejected
  else (sock, .ok none)

def setPeer (answers : String → Option UInt32) (sock : SafeUdpSock) (peerAddr : Option SocketAddress) :
    SafeUdpSock × Except Raised Unit :=
  match peerAddr with
  | none => ({ sock with peer := INVALID_ADDRESS }, .ok ())
  | some peer =>
      match resolvePeer answers peer with
      | .error raised => (sock, .error raised)
      | .ok resolved => ({ sock with peer := resolved }, .ok ())

end SafeUdpSock

end Animacharacter.Pysafeudp
