import Animacharacter.Packetcodec.PacketDecoder

set_option autoImplicit false

namespace Animacharacter.Packetcodec

open BigEndian

section Lifting

variable {Args Fields Args' Fields' : Type}

-- A class with its arguments and fields inside larger types of them.
def PacketClass.lift (args : Args' → Option Args) (fields : Fields → Fields') :
    PacketClass Args Fields → PacketClass Args' Fields'
  | .BasePacket => .BasePacket
  | .subclass name recreated parent encode decode =>
      .subclass name recreated (parent.lift args fields)
        (encode.map fun own given =>
          match args given with
          | some given => own given
          | none => .error (.raised "TypeError"))
        (decode.map fun own bin => (own bin).map fun packet => ⟨packet.className, fields packet.fields⟩)

theorem PacketClass.lift_decode (args : Args' → Option Args) (fields : Fields → Fields') (cls : PacketClass Args Fields)
    (bin : List UInt8) :
    (cls.lift args fields).decode bin = (cls.decode bin).map fun packet => ⟨packet.className, fields packet.fields⟩ := by
  induction cls with
  | BasePacket => rfl
  | subclass name recreated parent encode decode ih =>
      cases decode with
      | none => exact ih
      | some own => rfl

end Lifting

namespace PacketDecoder

-- An attribute of a packet; objects are what pickle and json make.
inductive Attribute (Obj : Type) where
  | plain (value : Value)
  | object (obj : Obj)
  | flag (flag : Bool)
  | absent
  | error (raised : Raised)
deriving DecidableEq

def plainValue {Obj : Type} : Attribute Obj → Option Value
  | .plain value => some value
  | _ => none

-- pickle and json. What they raise goes by the name of the except clause that
-- catches it, where there is one.
structure Serializers (Obj : Type) where
  pickleLoads : List UInt8 → Except Raised Obj
  pickleDumps : Obj → Except Raised (List UInt8)
  jsonLoads : String → Except Raised Obj
  jsonDumps : Obj → Except Raised String

variable {Obj : Type}

abbrev SessionClass (Obj : Type) := PacketClass (List (Attribute Obj)) (List (Attribute Obj))

def plainClass (cls : PacketClass (List Value) (List Value)) : SessionClass Obj :=
  cls.lift (fun args => args.mapM plainValue) (fun fields => fields.map .plain)

def PicklePacket (serializers : Serializers Obj) : SessionClass Obj :=
  .subclass "PicklePacket" 0 .BasePacket
    (some fun
      | [.object obj] => serializers.pickleDumps obj
      | _ => .error (.raised "TypeError"))
    (some fun bin =>
      match serializers.pickleLoads bin with
      | .ok obj => .ok ⟨"PicklePacket", [.object obj, .flag true, .absent]⟩
      | .error raised =>
          if raised = .raised "PickleError" then .ok ⟨"PicklePacket", [.absent, .flag false, .error raised]⟩
          else .error raised)

def ConfigurationPacket (serializers : Serializers Obj) : SessionClass Obj :=
  .subclass "ConfigurationPacket" 0 .BasePacket
    (some fun
      | [.object obj] => (serializers.jsonDumps obj).map fun text => text.toUTF8.data.toList
      | _ => .error (.raised "TypeError"))
    (some fun bin =>
      match String.fromUTF8? ⟨bin.toArray⟩ with
      | none => .ok ⟨"ConfigurationPacket", [.plain (.str ""), .absent, .flag false]⟩
      | some text =>
          match serializers.jsonLoads text with
          | .ok obj => .ok ⟨"ConfigurationPacket", [.plain (.str text), .object obj, .flag true]⟩
          | .error raised =>
              if raised = .raised "JSONDecodeError" then
                .ok ⟨"ConfigurationPacket", [.plain (.str ""), .absent, .flag false]⟩
              else .error raised)

def builtinPackets (serializers : Serializers Obj) : List (SessionClass Obj) :=
  [plainClass TextPacket, plainClass RawBytesPacket, PicklePacket serializers]

def sessionPackets (serializers : Serializers Obj) : List (SessionClass Obj) :=
  [plainClass HeartBeatPacket, plainClass SessionEndRequestPacket, ConfigurationPacket serializers]

-- The codec of a session.
def sessionCodec (serializers : Serializers Obj) : PacketDecoder (List (Attribute Obj)) (List (Attribute Obj)) :=
  (init (builtinPackets serializers)).registerPackets (sessionPackets serializers)

section Total

variable (serializers : Serializers Obj) (decoder : PacketDecoder (List (Attribute Obj)) (List (Attribute Obj)))
  (data : List UInt8)

def packTypeid : Nat := fromBytes (data.take PACKTYPEID_SIZE_BYTES)

def payloadData : List UInt8 := data.drop PACKTYPEID_SIZE_BYTES

def classOf : Option (SessionClass Obj) := decoder.packetTable.get (packTypeid data)

def parse : Except Raised (Parsed (List (Attribute Obj))) := decoder.parseBytes (plainClass UnknownPacket) data

def unknown : Parsed (List (Attribute Obj)) := ⟨⟨"UnknownPacket", [.plain (.int (packTypeid data))]⟩, data⟩

structure ParsesAll : Prop where
  returns : ∃ parsed, parse decoder data = .ok parsed
  unregistered : classOf decoder data = none → parse decoder data = .ok (unknown data)
  undecodable : ∀ cls raised, classOf decoder data = some cls → cls.decode (payloadData data) = .error raised →
    parse decoder data = .ok (unknown data)

-- What the payload must be for each class that can raise; a class beyond the
-- built-in and session ones must decode it. For a class that is not registered
-- the first four bytes of the payload must be the id again.
structure Decodable : Prop where
  text : classOf decoder data = some (plainClass TextPacket) →
    (String.fromUTF8? ⟨(payloadData data).toArray⟩).isSome = true
  pickle : classOf decoder data = some (PicklePacket serializers) →
    ∀ raised, serializers.pickleLoads (payloadData data) = .error raised → raised = .raised "PickleError"
  configuration : classOf decoder data = some (ConfigurationPacket serializers) →
    ∀ text, String.fromUTF8? ⟨(payloadData data).toArray⟩ = some text →
      ∀ raised, serializers.jsonLoads text = .error raised → raised = .raised "JSONDecodeError"
  others : ∀ cls, classOf decoder data = some cls → cls ∉ builtinPackets serializers →
    cls ∉ sessionPackets serializers → ∃ packet, cls.decode (payloadData data) = .ok packet
  unknownId : classOf decoder data = none →
    fromBytes ((payloadData data).take PACKTYPEID_SIZE_BYTES) = packTypeid data

theorem parse_unregistered (unregistered : classOf decoder data = none) :
    parse decoder data = .ok ⟨⟨"UnknownPacket",
      [.plain (.int (fromBytes ((payloadData data).take PACKTYPEID_SIZE_BYTES)))]⟩, data⟩ := by
  have none : decoder.packetTable.get (fromBytes (data.take PACKTYPEID_SIZE_BYTES)) = none := unregistered
  simp only [parse, parseBytes, none, Option.getD_none]
  rfl

theorem parse_class (cls : SessionClass Obj) (registered : classOf decoder data = some cls) :
    parse decoder data = (cls.decode (payloadData data)).map fun packet => ⟨packet, data⟩ := by
  have found : decoder.packetTable.get (fromBytes (data.take PACKTYPEID_SIZE_BYTES)) = some cls := registered
  simp only [parse, parseBytes, found, Option.getD_some, payloadData]
  cases cls.decode (data.drop PACKTYPEID_SIZE_BYTES) <;> rfl

theorem text_decodes (bin : List UInt8) :
    (∃ packet, (plainClass TextPacket : SessionClass Obj).decode bin = .ok packet) ↔
      (String.fromUTF8? ⟨bin.toArray⟩).isSome = true := by
  rw [plainClass, PacketClass.lift_decode]
  simp only [TextPacket, PacketClass.decode]
  cases String.fromUTF8? ⟨bin.toArray⟩ with
  | none => simp [Except.map]
  | some text => exact iff_of_true ⟨_, rfl⟩ rfl

theorem pickle_decodes (bin : List UInt8) :
    (∃ packet, (PicklePacket serializers).decode bin = .ok packet) ↔
      ∀ raised, serializers.pickleLoads bin = .error raised → raised = .raised "PickleError" := by
  simp only [PicklePacket, PacketClass.decode]
  cases serializers.pickleLoads bin with
  | ok obj => simp
  | error raised =>
      by_cases caught : raised = .raised "PickleError"
      · simp [caught]
      · simp [caught]

theorem configuration_decodes (bin : List UInt8) :
    (∃ packet, (ConfigurationPacket serializers).decode bin = .ok packet) ↔
      ∀ text, String.fromUTF8? ⟨bin.toArray⟩ = some text →
        ∀ raised, serializers.jsonLoads text = .error raised → raised = .raised "JSONDecodeError" := by
  simp only [ConfigurationPacket, PacketClass.decode]
  cases String.fromUTF8? ⟨bin.toArray⟩ with
  | none => simp
  | some text =>
      dsimp only
      cases loaded : serializers.jsonLoads text with
      | ok obj => simp [loaded]
      | error raised =>
          by_cases caught : raised = .raised "JSONDecodeError"
          · simp [loaded, caught]
          · simp [loaded, caught]

theorem raw_decodes (bin : List UInt8) :
    ∃ packet, (plainClass RawBytesPacket : SessionClass Obj).decode bin = .ok packet := ⟨_, rfl⟩

theorem heart_beat_decodes (bin : List UInt8) :
    ∃ packet, (plainClass HeartBeatPacket : SessionClass Obj).decode bin = .ok packet := ⟨_, rfl⟩

theorem session_end_decodes (bin : List UInt8) :
    ∃ packet, (plainClass SessionEndRequestPacket : SessionClass Obj).decode bin = .ok packet := ⟨_, rfl⟩

theorem decodable_class (decodable : Decodable serializers decoder data) (cls : SessionClass Obj)
    (registered : classOf decoder data = some cls) : ∃ packet, cls.decode (payloadData data) = .ok packet := by
  by_cases builtin : cls ∈ builtinPackets serializers
  · simp only [builtinPackets, List.mem_cons, List.not_mem_nil, or_false] at builtin
    rcases builtin with rfl | rfl | rfl
    · exact (text_decodes _).mpr (decodable.text registered)
    · exact raw_decodes _
    · exact (pickle_decodes serializers _).mpr (decodable.pickle registered)
  · by_cases session : cls ∈ sessionPackets serializers
    · simp only [sessionPackets, List.mem_cons, List.not_mem_nil, or_false] at session
      rcases session with rfl | rfl | rfl
      · exact heart_beat_decodes _
      · exact session_end_decodes _
      · exact (configuration_decodes serializers _).mpr (decodable.configuration registered)
    · exact decodable.others cls registered builtin session

theorem parses_class (all : ParsesAll decoder data) (cls : SessionClass Obj)
    (registered : classOf decoder data = some cls) : ∃ packet, cls.decode (payloadData data) = .ok packet := by
  cases decoded : cls.decode (payloadData data) with
  | ok packet => exact ⟨packet, rfl⟩
  | error raised =>
      have parsed := all.undecodable cls raised registered decoded
      rw [parse_class decoder data cls registered, decoded] at parsed
      cases parsed

-- parse_bytes adds nothing to what the decode of the class does: it lets every
-- exception through, and gives UnknownPacket the bytes behind the id.
theorem session_parse : ParsesAll decoder data ↔ Decodable serializers decoder data := by
  constructor
  · intro all
    constructor
    · exact fun registered => (text_decodes _).mp (parses_class decoder data all _ registered)
    · exact fun registered => (pickle_decodes serializers _).mp (parses_class decoder data all _ registered)
    · exact fun registered => (configuration_decodes serializers _).mp (parses_class decoder data all _ registered)
    · exact fun cls registered _ _ => parses_class decoder data all cls registered
    · intro unregistered
      have parsed := all.unregistered unregistered
      rw [parse_unregistered decoder data unregistered] at parsed
      simpa [unknown] using parsed
  · intro decodable
    cases registered : classOf decoder data with
    | none =>
        have parsed : parse decoder data = .ok (unknown data) := by
          rw [parse_unregistered decoder data registered, decodable.unknownId registered, unknown]
        exact ⟨⟨unknown data, parsed⟩, fun _ => parsed, fun _ _ found => absurd (registered.symm.trans found) nofun⟩
    | some cls =>
        obtain ⟨packet, decoded⟩ := decodable_class serializers decoder data decodable cls registered
        refine ⟨⟨⟨packet, data⟩, ?_⟩, fun unregistered => absurd (registered.symm.trans unregistered) nofun, ?_⟩
        · rw [parse_class decoder data cls registered, decoded]
          rfl
        · intro other raised found failed
          cases registered.symm.trans found
          rw [decoded] at failed
          cases failed

theorem session_registered (cls : SessionClass Obj)
    (member : cls ∈ builtinPackets serializers ++ sessionPackets serializers) :
    (sessionCodec serializers).packetTable.get cls.getTypeid = some cls := by
  have ids : ((builtinPackets serializers ++ sessionPackets serializers).map PacketClass.getTypeid).Nodup := by
    change (["TextPacket", "RawBytesPacket", "PicklePacket", "HeartBeatPacket", "SessionEndRequestPacket",
      "ConfigurationPacket"].map getPacktypeId).Nodup
    decide +kernel
  have all : sessionCodec serializers =
      (⟨.empty⟩ : PacketDecoder _ _).registerPackets (builtinPackets serializers ++ sessionPackets serializers) := by
    rw [registerPackets, List.foldl_append]
    rfl
  rw [all]
  apply register_found _ _ _ cls member
  exact fun left inLeft right inRight => List.inj_on_of_nodup_map ids inLeft inRight

end Total

def noObjects : Serializers Unit where
  pickleLoads _ := .error (.raised "PickleError")
  pickleDumps _ := .ok []
  jsonLoads _ := .error (.raised "JSONDecodeError")
  jsonDumps _ := .ok ""

-- A text that is no UTF-8, and a packet with the unregistered id 0.
theorem parse_raises :
    (parse (sessionCodec noObjects) ((plainClass TextPacket : SessionClass Unit).header ++ [0xff]) =
        .error (.raised "UnicodeDecodeError") ∧
      ¬ ParsesAll (sessionCodec noObjects) ((plainClass TextPacket : SessionClass Unit).header ++ [0xff])) ∧
    (parse (sessionCodec noObjects) [0, 0, 0, 0, 0, 0, 0, 1] =
        .ok ⟨⟨"UnknownPacket", [.plain (.int 1)]⟩, [0, 0, 0, 0, 0, 0, 0, 1]⟩ ∧
      ¬ ParsesAll (sessionCodec noObjects) [0, 0, 0, 0, 0, 0, 0, 1]) := by
  have raises : parse (sessionCodec noObjects) ((plainClass TextPacket : SessionClass Unit).header ++ [0xff]) =
      .error (.raised "UnicodeDecodeError") := by
    have invalid : String.fromUTF8? ⟨[0xff].toArray⟩ = none := by decide +kernel
    rw [parse, parse_registered _ _ _ _ (session_registered noObjects _ List.mem_cons_self), plainClass,
      PacketClass.lift_decode]
    simp only [TextPacket, PacketClass.decode, invalid]
    rfl
  have unregistered : classOf (sessionCodec noObjects) [0, 0, 0, 0, 0, 0, 0, 1] = none :=
    Option.isNone_iff_eq_none.mp (by decide +kernel)
  have parsed := parse_unregistered _ _ unregistered
  refine ⟨⟨raises, fun all => ?_⟩, parsed, fun all => ?_⟩
  · obtain ⟨_, returned⟩ := all.returns
    rw [raises] at returned
    cases returned
  · have expected := all.unregistered unregistered
    rw [parsed] at expected
    revert expected
    decide

end PacketDecoder

end Animacharacter.Packetcodec
