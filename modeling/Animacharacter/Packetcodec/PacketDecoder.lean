import Mathlib.Logic.Function.Iterate
import Animacharacter.Library.Dict
import Animacharacter.Library.Md5

set_option autoImplicit false

namespace Animacharacter.Packetcodec

open BigEndian

def PACKTYPEID_SIZE_BYTES : Nat := 4

inductive Raised where
  | TypeError (text : String)
  | AttributeError (text : String)
  | raised (exception : String)
deriving DecidableEq, Repr

-- int(md5(input).hexdigest(), 16) & 0xFFFFFFFF
def gen32bithash (input : String) : Nat := fromBytes (Md5.digest input.toUTF8.data.toList) % 2 ^ 32

-- The table of ids that are known already only saves the time of the hash.
def getPacktypeId (name : String) : Nat := gen32bithash name

structure Packet (Fields : Type) where
  className : String
  fields : Fields
deriving DecidableEq, Repr

-- A class derived from BasePacket: `encode` and `decode` are those that its body
-- defines, `parent` is the packet class that it finds the others in. A decorator
-- such as @dataclass(slots=True) makes the class anew, `recreated` times in all.
inductive PacketClass (Args Fields : Type) where
  | BasePacket
  | subclass (name : String) (recreated : Nat) (parent : PacketClass Args Fields)
      (encode : Option (Args → Except Raised (List UInt8)))
      (decode : Option (List UInt8 → Except Raised (Packet Fields)))

variable {Args Fields : Type}

-- The wrapper that __init_subclass__ puts around the encode of a class.
def encoderWrapper (name : String) (originalEncode : Args → Except Raised (List UInt8)) (args : Args) :
    Except Raised (List UInt8) := do
  let payload ← originalEncode args
  return toBytes PACKTYPEID_SIZE_BYTES (getPacktypeId name) ++ payload

namespace PacketClass

def name : PacketClass Args Fields → String
  | .BasePacket => "BasePacket"
  | .subclass name _ _ _ _ => name

def getTypeid (cls : PacketClass Args Fields) : Nat := getPacktypeId cls.name

def header (cls : PacketClass Args Fields) : List UInt8 := toBytes PACKTYPEID_SIZE_BYTES cls.getTypeid

-- cls.encode as __init_subclass__ leaves it: the encode that is visible when the
-- class is created, behind the id of the class. A class that is made anew finds
-- the wrapped one of the class before. BasePacket's gives None.
def encode : PacketClass Args Fields → Args → Except Raised (List UInt8)
  | .BasePacket => fun _ => .error (.TypeError "can't concat NoneType to bytes")
  | .subclass name recreated parent own _ => (encoderWrapper name)^[recreated + 1] (own.getD parent.encode)

-- BasePacket's decode gives None, to which parse_bytes cannot add the raw bytes.
def decode : PacketClass Args Fields → List UInt8 → Except Raised (Packet Fields)
  | .BasePacket, _ => .error (.AttributeError "'NoneType' object has no attribute '_raw_bytes'")
  | .subclass _ _ parent _ own, bin =>
      match own with
      | some decode => decode bin
      | none => parent.decode bin

-- The user-written encode of a class, or of the ancestor that it inherits from.
def userEncode : PacketClass Args Fields → Option (Args → Except Raised (List UInt8))
  | .BasePacket => none
  | .subclass _ _ _ (some own) _ => some own
  | .subclass _ _ parent none _ => parent.userEncode

-- What the wrappers put between the id of the class and the payload: the id once
-- more for each time the class was made anew, and the ids of an inherited encode.
def furtherIds : PacketClass Args Fields → List UInt8
  | .BasePacket => []
  | .subclass name recreated parent own _ =>
      (List.replicate recreated (toBytes PACKTYPEID_SIZE_BYTES (getPacktypeId name))).flatten ++
        (if own.isSome then [] else parent.header ++ parent.furtherIds)

theorem encoder_wrapper_iterate (name : String) (times : Nat) (original : Args → Except Raised (List UInt8)) (args : Args)
    (payload : List UInt8) (encoded : original args = .ok payload) :
    (encoderWrapper name)^[times] original args =
      .ok ((List.replicate times (toBytes PACKTYPEID_SIZE_BYTES (getPacktypeId name))).flatten ++ payload) := by
  induction times with
  | zero => exact encoded
  | succ times ih =>
      rw [Function.iterate_succ_apply', encoderWrapper, ih, List.replicate_succ, List.flatten_cons, List.append_assoc]
      rfl

theorem encode_payload (cls : PacketClass Args Fields) (own : Args → Except Raised (List UInt8)) (args : Args)
    (payload : List UInt8) (defined : cls.userEncode = some own) (encoded : own args = .ok payload) :
    cls.encode args = .ok (cls.header ++ (cls.furtherIds ++ payload)) := by
  induction cls with
  | BasePacket => cases defined
  | subclass name recreated parent ownEncode decode ih =>
      cases ownEncode with
      | some written =>
          cases defined
          have wrapped := encoder_wrapper_iterate name (recreated + 1) own args payload encoded
          rw [List.replicate_succ, List.flatten_cons, List.append_assoc] at wrapped
          simp only [encode, Option.getD_some, wrapped, furtherIds, Option.isSome_some, if_true, List.append_nil]
          rfl
      | none =>
          have wrapped := encoder_wrapper_iterate name (recreated + 1) parent.encode args _ (ih defined)
          rw [List.replicate_succ, List.flatten_cons, List.append_assoc] at wrapped
          simp only [encode, Option.getD_none, wrapped, furtherIds, Option.isSome_none, Bool.false_eq_true, if_false,
            List.append_assoc]
          rfl

theorem typeid_bound (cls : PacketClass Args Fields) : cls.getTypeid < 256 ^ PACKTYPEID_SIZE_BYTES :=
  Nat.mod_lt _ (by decide)

theorem header_length (cls : PacketClass Args Fields) : cls.header.length = PACKTYPEID_SIZE_BYTES :=
  to_bytes_length _ _

end PacketClass

structure Parsed (Fields : Type) where
  packet : Packet Fields
  rawBytes : List UInt8
deriving DecidableEq, Repr

structure PacketDecoder (Args Fields : Type) where
  packetTable : Dict Nat (PacketClass Args Fields)

namespace PacketDecoder

def registerPacket (decoder : PacketDecoder Args Fields) (packetClass : PacketClass Args Fields) :
    PacketDecoder Args Fields := ⟨decoder.packetTable.set packetClass.getTypeid packetClass⟩

def registerPackets (decoder : PacketDecoder Args Fields) (packets : List (PacketClass Args Fields)) :
    PacketDecoder Args Fields := packets.foldl registerPacket decoder

-- The built-in packets are TextPacket, RawBytesPacket and PicklePacket.
def init (builtins : List (PacketClass Args Fields)) : PacketDecoder Args Fields := registerPackets ⟨.empty⟩ builtins

def parseBytes (decoder : PacketDecoder Args Fields) (UnknownPacket : PacketClass Args Fields) (data : List UInt8) :
    Except Raised (Parsed Fields) := do
  let packTypeid := fromBytes (data.take PACKTYPEID_SIZE_BYTES)
  let packetClass := (decoder.packetTable.get packTypeid).getD UnknownPacket
  let packet ← packetClass.decode (data.drop PACKTYPEID_SIZE_BYTES)
  return ⟨packet, data⟩

theorem register_others (decoder : PacketDecoder Args Fields) (packets : List (PacketClass Args Fields)) (typeid : Nat)
    (others : ∀ cls ∈ packets, cls.getTypeid ≠ typeid) :
    (decoder.registerPackets packets).packetTable.get typeid = decoder.packetTable.get typeid := by
  induction packets generalizing decoder with
  | nil => rfl
  | cons first rest ih =>
      rw [registerPackets, List.foldl_cons]
      refine (ih (decoder.registerPacket first) fun cls member => others cls (List.mem_cons_of_mem _ member)).trans ?_
      rw [registerPacket, Dict.get_set, if_neg (others first List.mem_cons_self)]

theorem register_found (decoder : PacketDecoder Args Fields) (packets : List (PacketClass Args Fields))
    (distinct : ∀ left ∈ packets, ∀ right ∈ packets, left.getTypeid = right.getTypeid → left = right)
    (cls : PacketClass Args Fields) (registered : cls ∈ packets) :
    (decoder.registerPackets packets).packetTable.get cls.getTypeid = some cls := by
  induction packets generalizing decoder with
  | nil => cases registered
  | cons first rest ih =>
      rw [registerPackets, List.foldl_cons]
      by_cases later : cls ∈ rest
      · exact ih (decoder.registerPacket first)
          (fun left inLeft right inRight =>
            distinct left (List.mem_cons_of_mem _ inLeft) right (List.mem_cons_of_mem _ inRight)) later
      · have here : cls = first := (List.mem_cons.mp registered).resolve_right later
        refine (register_others (decoder.registerPacket first) rest cls.getTypeid ?_).trans ?_
        · intro other member same
          exact later (distinct other (List.mem_cons_of_mem _ member) cls registered same ▸ member)
        · rw [registerPacket, Dict.get_set, if_pos (by rw [here]), here]

theorem parse_registered (decoder : PacketDecoder Args Fields) (UnknownPacket cls : PacketClass Args Fields)
    (rest : List UInt8) (found : decoder.packetTable.get cls.getTypeid = some cls) :
    decoder.parseBytes UnknownPacket (cls.header ++ rest) =
      (cls.decode rest).map fun packet => ⟨packet, cls.header ++ rest⟩ := by
  have typeid : fromBytes ((cls.header ++ rest).take PACKTYPEID_SIZE_BYTES) = cls.getTypeid := by
    rw [List.take_left' cls.header_length]
    exact from_to_bytes _ _ cls.typeid_bound
  have payload : (cls.header ++ rest).drop PACKTYPEID_SIZE_BYTES = rest := List.drop_left' cls.header_length
  simp only [parseBytes, typeid, payload, found, Option.getD_some]
  cases cls.decode rest <;> rfl

-- What parse_bytes makes of an encoded packet is a packet of the class, equal to
-- the one decoded from the payload.
def RoundTrips (decoder : PacketDecoder Args Fields) (UnknownPacket cls : PacketClass Args Fields) (args : Args)
    (payload : List UInt8) : Prop :=
  ∃ data packet, cls.encode args = .ok data ∧ decoder.parseBytes UnknownPacket data = .ok ⟨packet, data⟩ ∧
    packet.className = cls.name ∧ cls.decode payload = .ok packet

theorem parse_encoded (builtins classes : List (PacketClass Args Fields)) (UnknownPacket cls : PacketClass Args Fields)
    (distinct : ∀ left ∈ classes, ∀ right ∈ classes, left.getTypeid = right.getTypeid → left = right)
    (registered : cls ∈ classes) (own : Args → Except Raised (List UInt8)) (defined : cls.userEncode = some own)
    (args : Args) (payload : List UInt8) (encoded : own args = .ok payload) :
    ∃ data, cls.encode args = .ok data ∧ ((init builtins).registerPackets classes).parseBytes UnknownPacket data =
      (cls.decode (cls.furtherIds ++ payload)).map fun packet => ⟨packet, data⟩ :=
  ⟨_, cls.encode_payload own args payload defined encoded, parse_registered _ UnknownPacket cls _
    (register_found (init builtins) classes distinct cls registered)⟩

-- A class that defines encode itself and is made once.
theorem own_encode_round_trip (builtins classes : List (PacketClass Args Fields)) (name : String)
    (UnknownPacket parent : PacketClass Args Fields) (own : Args → Except Raised (List UInt8))
    (decode : Option (List UInt8 → Except Raised (Packet Fields)))
    (distinct : ∀ left ∈ classes, ∀ right ∈ classes, left.getTypeid = right.getTypeid → left = right)
    (registered : .subclass name 0 parent (some own) decode ∈ classes) (args : Args) (payload : List UInt8)
    (packet : Packet Fields) (encoded : own args = .ok payload)
    (decoded : (PacketClass.subclass name 0 parent (some own) decode).decode payload = .ok packet)
    (named : packet.className = name) :
    ((init builtins).registerPackets classes).RoundTrips UnknownPacket (.subclass name 0 parent (some own) decode) args
      payload := by
  obtain ⟨data, sent, received⟩ := parse_encoded builtins classes UnknownPacket _ distinct registered own rfl args payload
    encoded
  refine ⟨data, packet, sent, ?_, named, decoded⟩
  simp only [received, PacketClass.furtherIds, List.replicate_zero, List.flatten_nil, Option.isSome_some, if_true,
    List.nil_append, decoded]
  rfl

theorem packet_round_trip (builtins classes : List (PacketClass Args Fields)) (UnknownPacket cls : PacketClass Args Fields)
    (distinct : ∀ left ∈ classes, ∀ right ∈ classes, left.getTypeid = right.getTypeid → left = right)
    (registered : cls ∈ classes) (own : Args → Except Raised (List UInt8)) (defined : cls.userEncode = some own)
    (args : Args) (payload : List UInt8) (encoded : own args = .ok payload) :
    ((init builtins).registerPackets classes).RoundTrips UnknownPacket cls args payload ↔
      ∃ packet, cls.decode payload = .ok packet ∧ packet.className = cls.name ∧
        cls.decode (cls.furtherIds ++ payload) = .ok packet := by
  obtain ⟨data, sent, received⟩ := parse_encoded builtins classes UnknownPacket cls distinct registered own defined args
    payload encoded
  constructor
  · rintro ⟨known, packet, made, parsed, named, decoded⟩
    refine ⟨packet, decoded, named, ?_⟩
    cases sent.symm.trans made
    rw [received] at parsed
    cases outcome : cls.decode (cls.furtherIds ++ payload) with
    | error raised =>
        rw [outcome] at parsed
        cases parsed
    | ok other =>
        rw [outcome] at parsed
        cases parsed
        rfl
  · rintro ⟨packet, decoded, named, same⟩
    refine ⟨data, packet, sent, ?_, named, decoded⟩
    rw [received, same]
    rfl

inductive Value where
  | bytes (bytes : List UInt8)
  | str (text : String)
  | int (number : Nat)
deriving DecidableEq, Repr

def TextPacket : PacketClass (List Value) (List Value) :=
  .subclass "TextPacket" 0 .BasePacket
    (some fun
      | [.str text] => .ok text.toUTF8.data.toList
      | _ => .error (.raised "TypeError"))
    (some fun bin =>
      match String.fromUTF8? ⟨bin.toArray⟩ with
      | some text => .ok ⟨"TextPacket", [.str text]⟩
      | none => .error (.raised "UnicodeDecodeError"))

def RawBytesPacket : PacketClass (List Value) (List Value) :=
  .subclass "RawBytesPacket" 0 .BasePacket
    (some fun
      | [.bytes bb] => .ok bb
      | _ => .error (.raised "TypeError"))
    (some fun bin => .ok ⟨"RawBytesPacket", [.bytes bin]⟩)

def UnknownPacket : PacketClass (List Value) (List Value) :=
  .subclass "UnknownPacket" 0 .BasePacket
    (some fun _ => .error (.raised "RuntimeError"))
    (some fun bin => .ok ⟨"UnknownPacket", [.int (fromBytes (bin.take PACKTYPEID_SIZE_BYTES))]⟩)

def HeartBeatPacket : PacketClass (List Value) (List Value) :=
  .subclass "HeartBeatPacket" 0 .BasePacket
    (some fun
      | [.bytes nonce] => .ok nonce
      | _ => .error (.raised "TypeError"))
    (some fun bin => .ok ⟨"HeartBeatPacket", [.bytes bin]⟩)

def SessionEndRequestPacket : PacketClass (List Value) (List Value) :=
  .subclass "SessionEndRequestPacket" 0 .BasePacket
    (some fun
      | [] => .ok []
      | _ => .error (.raised "TypeError"))
    (some fun _ => .ok ⟨"SessionEndRequestPacket", []⟩)

theorem schemas_distinct : ∀ left ∈ [HeartBeatPacket, SessionEndRequestPacket],
    ∀ right ∈ [HeartBeatPacket, SessionEndRequestPacket], left.getTypeid = right.getTypeid → left = right := by
  have apart : HeartBeatPacket.getTypeid ≠ SessionEndRequestPacket.getTypeid := by decide +kernel
  intro left inLeft right inRight same
  simp only [List.mem_cons, List.not_mem_nil, or_false] at inLeft inRight
  rcases inLeft with rfl | rfl <;> rcases inRight with rfl | rfl
  · rfl
  · exact absurd same apart
  · exact absurd same.symm apart
  · rfl

theorem packet_round_trip_heart_beat :
    ((init [TextPacket, RawBytesPacket]).registerPackets [HeartBeatPacket, SessionEndRequestPacket]).RoundTrips
      UnknownPacket HeartBeatPacket [.bytes [1, 2]] [1, 2] :=
  (packet_round_trip [TextPacket, RawBytesPacket] [HeartBeatPacket, SessionEndRequestPacket] UnknownPacket HeartBeatPacket
    schemas_distinct List.mem_cons_self _ rfl [.bytes [1, 2]] [1, 2] rfl).mpr
    ⟨⟨"HeartBeatPacket", [.bytes [1, 2]]⟩, rfl, rfl, rfl⟩

-- A heart beat that inherits encode and decodes into its own class.
def EchoPacket : PacketClass (List Value) (List Value) :=
  .subclass "EchoPacket" 0 HeartBeatPacket none (some fun bin => .ok ⟨"EchoPacket", [.bytes bin]⟩)

-- A heart beat with slots, which @dataclass(slots=True) makes anew.
def SlottedPacket : PacketClass (List Value) (List Value) :=
  .subclass "SlottedPacket" 1 .BasePacket
    (some fun
      | [.bytes nonce] => .ok nonce
      | _ => .error (.raised "TypeError"))
    (some fun bin => .ok ⟨"SlottedPacket", [.bytes bin]⟩)

-- A class that keeps the bytes it decodes does not round trip behind further ids.
theorem further_ids_kept (cls : PacketClass (List Value) (List Value)) (own : List Value → Except Raised (List UInt8))
    (defined : cls.userEncode = some own) (args : List Value) (payload : List UInt8) (encoded : own args = .ok payload)
    (keeps : ∀ bin, cls.decode bin = .ok ⟨cls.name, [.bytes bin]⟩) (further : cls.furtherIds ≠ []) :
    ¬ ((init [TextPacket, RawBytesPacket]).registerPackets [cls]).RoundTrips UnknownPacket cls args payload := by
  have distinct : ∀ left ∈ [cls], ∀ right ∈ [cls], left.getTypeid = right.getTypeid → left = right := by
    intro left inLeft right inRight _
    rw [List.mem_singleton.mp inLeft, List.mem_singleton.mp inRight]
  obtain ⟨data, sent, received⟩ := parse_encoded [TextPacket, RawBytesPacket] [cls] UnknownPacket cls distinct
    List.mem_cons_self own defined args payload encoded
  rintro ⟨known, packet, made, parsed, _, decoded⟩
  cases sent.symm.trans made
  cases (keeps payload).symm.trans decoded
  rw [received, keeps] at parsed
  have kept : cls.furtherIds ++ payload = payload := by
    simpa [Except.map] using parsed
  exact further (List.append_left_eq_self.mp kept)

theorem encode_keeps_further_ids :
    (EchoPacket.encode [.bytes [1, 2]] = .ok (EchoPacket.header ++ (HeartBeatPacket.header ++ [1, 2])) ∧
      ¬ ((init [TextPacket, RawBytesPacket]).registerPackets [EchoPacket]).RoundTrips UnknownPacket EchoPacket
        [.bytes [1, 2]] [1, 2]) ∧
    SlottedPacket.encode [.bytes [1, 2]] = .ok (SlottedPacket.header ++ (SlottedPacket.header ++ [1, 2])) ∧
      ¬ ((init [TextPacket, RawBytesPacket]).registerPackets [SlottedPacket]).RoundTrips UnknownPacket SlottedPacket
        [.bytes [1, 2]] [1, 2] := by
  have header (cls : PacketClass (List Value) (List Value)) : cls.header ≠ [] := by
    intro empty
    have length := cls.header_length
    rw [empty] at length
    cases length
  refine ⟨⟨rfl, further_ids_kept EchoPacket _ rfl _ _ rfl (fun _ => rfl) ?_⟩, rfl,
    further_ids_kept SlottedPacket _ rfl _ _ rfl (fun _ => rfl) ?_⟩
  · intro empty
    exact header HeartBeatPacket (List.append_eq_nil_iff.mp (List.append_eq_nil_iff.mp empty).2).1
  · intro empty
    exact header SlottedPacket (List.append_eq_nil_iff.mp (List.append_eq_nil_iff.mp empty).1).1

end PacketDecoder

end Animacharacter.Packetcodec
