import Animacharacter.Library.Sha256

set_option autoImplicit false

namespace Animacharacter.Authmsg

inductive Raised where
  | FramingError (text : String)
  | AuthenticationError (text : String)
  | SequenceError (text : String)
  | OverflowError (text : String)
deriving DecidableEq

def SEQUENCE_SIZE : Nat := 8
def HMAC_SIZE : Nat := 32
def MIN_PACKET_SIZE : Nat := SEQUENCE_SIZE + HMAC_SIZE

-- sequence.to_bytes(SEQUENCE_SIZE, "big")
def sequenceBytes (sequence : Nat) : Except Raised (List UInt8) :=
  if sequence < 256 ^ SEQUENCE_SIZE then .ok (BigEndian.toBytes SEQUENCE_SIZE sequence)
  else .error (.OverflowError "int too big to convert")

def makeSignature (psk : List UInt8) (sequence : Nat) (payload : List UInt8) : Except Raised (List UInt8) := do
  let header ← sequenceBytes sequence
  return Sha256.hmac psk (header ++ payload)

def validateSignature (psk : List UInt8) (sequence : Nat) (payload tag : List UInt8) : Except Raised Bool := do
  let expected ← makeSignature psk sequence payload
  return expected = tag

def encodePacket (sequence : Nat) (payload psk : List UInt8) : Except Raised (List UInt8) := do
  let signature ← makeSignature psk sequence payload
  let header ← sequenceBytes sequence
  return header ++ payload ++ signature

-- The three slices of a packet, data[:8], data[8:-32] and data[-32:].
def headerOf (data : List UInt8) : List UInt8 := data.take SEQUENCE_SIZE
def payloadOf (data : List UInt8) : List UInt8 := (data.take (data.length - HMAC_SIZE)).drop SEQUENCE_SIZE
def tagOf (data : List UInt8) : List UInt8 := data.drop (data.length - HMAC_SIZE)

def decodePacket (data psk : List UInt8) (lastSequence : Option Nat) : Except Raised (Nat × List UInt8) :=
  if data.length < MIN_PACKET_SIZE then
    .error (.FramingError "Packet is too short to contain a valid header and signature")
  else
    let sequence := BigEndian.fromBytes (headerOf data)
    match validateSignature psk sequence (payloadOf data) (tagOf data) with
    | .error raised => .error raised
    | .ok false => .error (.AuthenticationError "HMAC validation failed")
    | .ok true =>
        if lastSequence.any (fun last => sequence ≤ last) then
          .error (.SequenceError "Packet sequence number is not strictly increasing")
        else .ok (sequence, payloadOf data)

def packet (psk : List UInt8) (sequence : Nat) (payload : List UInt8) : List UInt8 :=
  BigEndian.toBytes SEQUENCE_SIZE sequence ++ payload ++
    Sha256.hmac psk (BigEndian.toBytes SEQUENCE_SIZE sequence ++ payload)

theorem encode_packet_ok (psk payload : List UInt8) (sequence : Nat) (fits : sequence < 256 ^ SEQUENCE_SIZE) :
    encodePacket sequence payload psk = .ok (packet psk sequence payload) := by
  simp only [encodePacket, makeSignature, sequenceBytes, if_pos fits]
  rfl

theorem encode_packet_overflow (psk payload : List UInt8) (sequence : Nat) (large : ¬ sequence < 256 ^ SEQUENCE_SIZE) :
    encodePacket sequence payload psk = .error (.OverflowError "int too big to convert") := by
  simp only [encodePacket, makeSignature, sequenceBytes, if_neg large]
  rfl

theorem validate_signature_ok (psk payload tag : List UInt8) (sequence : Nat) (fits : sequence < 256 ^ SEQUENCE_SIZE) :
    validateSignature psk sequence payload tag =
      .ok (decide (Sha256.hmac psk (BigEndian.toBytes SEQUENCE_SIZE sequence ++ payload) = tag)) := by
  simp only [validateSignature, makeSignature, sequenceBytes, if_pos fits]
  rfl

theorem packet_length (psk payload : List UInt8) (sequence : Nat) :
    (packet psk sequence payload).length = SEQUENCE_SIZE + payload.length + HMAC_SIZE := by
  simp only [packet, List.length_append, BigEndian.to_bytes_length, Sha256.hmac_length, HMAC_SIZE]

theorem header_of_packet (psk payload : List UInt8) (sequence : Nat) :
    headerOf (packet psk sequence payload) = BigEndian.toBytes SEQUENCE_SIZE sequence := by
  rw [headerOf, packet, List.append_assoc]
  exact List.take_left' (BigEndian.to_bytes_length SEQUENCE_SIZE sequence)

theorem signed_length (psk payload : List UInt8) (sequence : Nat) :
    (packet psk sequence payload).length - HMAC_SIZE =
      (BigEndian.toBytes SEQUENCE_SIZE sequence ++ payload).length := by
  rw [packet_length, List.length_append, BigEndian.to_bytes_length]
  omega

theorem payload_of_packet (psk payload : List UInt8) (sequence : Nat) :
    payloadOf (packet psk sequence payload) = payload := by
  rw [payloadOf, signed_length, packet, List.take_left' rfl]
  exact List.drop_left' (BigEndian.to_bytes_length SEQUENCE_SIZE sequence)

theorem tag_of_packet (psk payload : List UInt8) (sequence : Nat) :
    tagOf (packet psk sequence payload) =
      Sha256.hmac psk (BigEndian.toBytes SEQUENCE_SIZE sequence ++ payload) := by
  rw [tagOf, signed_length, packet, List.drop_left' rfl]

theorem decode_packet_packet (psk payload : List UInt8) (sequence last : Nat) (fits : sequence < 256 ^ SEQUENCE_SIZE) :
    decodePacket (packet psk sequence payload) psk (some last) =
      if sequence ≤ last then .error (.SequenceError "Packet sequence number is not strictly increasing")
      else .ok (sequence, payload) := by
  have long : ¬ (packet psk sequence payload).length < MIN_PACKET_SIZE := by
    rw [packet_length, MIN_PACKET_SIZE]
    omega
  have read : BigEndian.fromBytes (headerOf (packet psk sequence payload)) = sequence := by
    rw [header_of_packet]
    exact BigEndian.from_to_bytes SEQUENCE_SIZE sequence fits
  simp only [decodePacket, if_neg long, read, payload_of_packet, tag_of_packet, validate_signature_ok psk payload _ sequence fits]
  by_cases stale : sequence ≤ last <;> simp [stale]

theorem slices_join (data : List UInt8) (long : ¬ data.length < MIN_PACKET_SIZE) :
    headerOf data ++ payloadOf data ++ tagOf data = data := by
  have start : headerOf data = (data.take (data.length - HMAC_SIZE)).take SEQUENCE_SIZE := by
    rw [headerOf, List.take_take, Nat.min_eq_left]
    simp only [MIN_PACKET_SIZE] at long
    omega
  rw [start, payloadOf, List.take_append_drop, tagOf, List.take_append_drop]

theorem header_length (data : List UInt8) (long : ¬ data.length < MIN_PACKET_SIZE) :
    (headerOf data).length = SEQUENCE_SIZE := by
  simp only [MIN_PACKET_SIZE] at long
  rw [headerOf, List.length_take]
  omega

-- What a decoded packet is, and that a rejection is never the overflow of the
-- sequence number.
inductive Decoded (data psk : List UInt8) (last : Nat) (decoded : Except Raised (Nat × List UInt8)) : Prop where
  | accepted (sequence : Nat) (payload : List UInt8) (result : decoded = .ok (sequence, payload))
      (made : data = packet psk sequence payload) (fits : sequence < 256 ^ SEQUENCE_SIZE) (fresh : last < sequence)
  | short (text : String) (result : decoded = .error (.FramingError text))
  | forged (text : String) (result : decoded = .error (.AuthenticationError text))
  | stale (text : String) (result : decoded = .error (.SequenceError text))

theorem decode_packet_cases (data psk : List UInt8) (last : Nat) :
    Decoded data psk last (decodePacket data psk (some last)) := by
  by_cases long : data.length < MIN_PACKET_SIZE
  · rw [decodePacket, if_pos long]
    exact .short _ rfl
  · have width := header_length data long
    have fits : BigEndian.fromBytes (headerOf data) < 256 ^ SEQUENCE_SIZE := by
      rw [← width]
      exact BigEndian.from_bytes_bound (headerOf data)
    have digits : BigEndian.toBytes SEQUENCE_SIZE (BigEndian.fromBytes (headerOf data)) = headerOf data := by
      rw [← width]
      exact BigEndian.to_from_bytes (headerOf data)
    simp only [decodePacket, if_neg long, validate_signature_ok psk (payloadOf data) (tagOf data) _ fits]
    by_cases genuine : Sha256.hmac psk (BigEndian.toBytes SEQUENCE_SIZE (BigEndian.fromBytes (headerOf data)) ++
        payloadOf data) = tagOf data
    · by_cases old : BigEndian.fromBytes (headerOf data) ≤ last
      · simp only [genuine, old, decide_true, Option.any_some, if_true]
        exact .stale _ rfl
      · simp only [genuine, old, decide_true, decide_false, Option.any_some, Bool.false_eq_true, if_false]
        refine .accepted _ _ rfl ?_ fits (Nat.lt_of_not_le old)
        rw [packet, genuine, digits]
        exact (slices_join data long).symm
    · simp only [genuine, decide_false]
      exact .forged _ rfl

theorem packet_injective (psk left right : List UInt8) (first second : Nat) (fits : first < 256 ^ SEQUENCE_SIZE)
    (bound : second < 256 ^ SEQUENCE_SIZE) (same : packet psk first left = packet psk second right) :
    first = second ∧ left = right := by
  constructor
  · have headers := congrArg headerOf same
    rw [header_of_packet, header_of_packet] at headers
    have values := congrArg BigEndian.fromBytes headers
    rwa [BigEndian.from_to_bytes _ _ fits, BigEndian.from_to_bytes _ _ bound] at values
  · have payloads := congrArg payloadOf same
    rwa [payload_of_packet, payload_of_packet] at payloads

end Animacharacter.Authmsg
