import Animacharacter.Packetcodec.SessionPackets

set_option autoImplicit false

namespace Animacharacter.Packetcodec

open BigEndian

namespace PacketDecoder

section Table

variable {Args Fields : Type}

theorem registered_only (decoder : PacketDecoder Args Fields) (packets : List (PacketClass Args Fields)) (typeid : Nat)
    (cls : PacketClass Args Fields) (found : (decoder.registerPackets packets).packetTable.get typeid = some cls) :
    cls ∈ packets ∧ cls.getTypeid = typeid ∨ decoder.packetTable.get typeid = some cls := by
  induction packets generalizing decoder with
  | nil => exact .inr found
  | cons first rest ih =>
      rw [registerPackets, List.foldl_cons] at found
      rcases ih (decoder.registerPacket first) found with ⟨inside, same⟩ | earlier
      · exact .inl ⟨List.mem_cons_of_mem first inside, same⟩
      · rw [registerPacket, Dict.get_set] at earlier
        split at earlier
        · rename_i same
          cases earlier
          exact .inl ⟨List.mem_cons_self, same⟩
        · exact .inr earlier

end Table

variable {Obj : Type} (serializers : Serializers Obj)

def sessionClasses : List (SessionClass Obj) := builtinPackets serializers ++ sessionPackets serializers

theorem session_class_of (data : List UInt8) (cls : SessionClass Obj)
    (found : classOf (sessionCodec serializers) data = some cls) :
    cls ∈ sessionClasses serializers ∧ cls.getTypeid = packTypeid data := by
  rcases registered_only _ _ _ _ found with ⟨inside, same⟩ | builtin
  · exact ⟨List.mem_append_right _ inside, same⟩
  · rcases registered_only _ _ _ _ builtin with ⟨inside, same⟩ | none
    · exact ⟨List.mem_append_left _ inside, same⟩
    · cases none

theorem session_names_distinct : (["TextPacket", "RawBytesPacket", "PicklePacket", "HeartBeatPacket",
    "SessionEndRequestPacket", "ConfigurationPacket"].map getPacktypeId).Nodup := by decide +kernel

theorem session_names : (sessionClasses serializers).map PacketClass.name =
    ["TextPacket", "RawBytesPacket", "PicklePacket", "HeartBeatPacket", "SessionEndRequestPacket",
      "ConfigurationPacket"] := rfl

theorem session_ids_names (left right : String) (inLeft : left ∈ (sessionClasses serializers).map PacketClass.name)
    (inRight : right ∈ (sessionClasses serializers).map PacketClass.name)
    (same : getPacktypeId left = getPacktypeId right) : left = right := by
  rw [session_names] at inLeft inRight
  exact List.inj_on_of_nodup_map session_names_distinct inLeft inRight same

-- A packet of a session's class is named after it.
theorem session_class_name (cls : SessionClass Obj) (member : cls ∈ sessionClasses serializers) (bin : List UInt8)
    (packet : Packet (List (Attribute Obj))) (decoded : cls.decode bin = .ok packet) : packet.className = cls.name := by
  simp only [sessionClasses, builtinPackets, sessionPackets, List.cons_append, List.nil_append, List.mem_cons,
    List.not_mem_nil, or_false] at member
  rcases member with rfl | rfl | rfl | rfl | rfl | rfl
  · rw [plainClass, PacketClass.lift_decode] at decoded
    simp only [TextPacket, PacketClass.decode] at decoded
    split at decoded
    · cases decoded
      rfl
    · cases decoded
  · cases decoded
    rfl
  · simp only [PicklePacket, PacketClass.decode] at decoded
    split at decoded
    · cases decoded
      rfl
    · split at decoded
      · cases decoded
        rfl
      · cases decoded
  · cases decoded
    rfl
  · cases decoded
    rfl
  · simp only [ConfigurationPacket, PacketClass.decode] at decoded
    split at decoded
    · cases decoded
      rfl
    · split at decoded
      · cases decoded
        rfl
      · split at decoded
        · cases decoded
          rfl
        · cases decoded

-- The id that a packet of the class has on the wire.
def Carries (name : String) (data : List UInt8) : Prop := packTypeid data = getPacktypeId name

instance (name : String) (data : List UInt8) : Decidable (Carries name data) :=
  inferInstanceAs (Decidable (_ = _))

-- What match finds in a parsed packet is what its first four bytes say.
theorem parsed_name (data : List UInt8) (parsed : Parsed (List (Attribute Obj)))
    (returned : parse (sessionCodec serializers) data = .ok parsed) (cls : SessionClass Obj)
    (member : cls ∈ sessionClasses serializers) : parsed.packet.className = cls.name ↔ Carries cls.name data := by
  have listed : cls.name ∈ (sessionClasses serializers).map PacketClass.name := List.mem_map_of_mem member
  cases found : classOf (sessionCodec serializers) data with
  | none =>
      rw [parse_unregistered _ _ found] at returned
      cases returned
      apply iff_of_false
      · intro named
        rw [session_names] at listed
        have unknown : cls.name = "UnknownPacket" := named.symm
        rw [unknown] at listed
        exact absurd listed (by decide)
      · intro carries
        have registered := session_registered serializers cls member
        change (sessionCodec serializers).packetTable.get (getPacktypeId cls.name) = some cls at registered
        rw [← carries] at registered
        cases found.symm.trans registered
  | some other =>
      obtain ⟨inside, id⟩ := session_class_of serializers data other found
      rw [parse_class _ _ other found] at returned
      cases decoded : other.decode (payloadData data) with
      | error raised =>
          rw [decoded] at returned
          cases returned
      | ok packet =>
          rw [decoded] at returned
          cases returned
          rw [session_class_name serializers other inside _ packet decoded, Carries, ← id]
          apply Iff.intro
          · intro same
            exact congrArg getPacktypeId same
          · exact session_ids_names serializers other.name cls.name (List.mem_map_of_mem inside) listed

-- The text of a valid configuration packet.
def validConfiguration (data : List UInt8) : Option String :=
  if Carries "ConfigurationPacket" data then
    (String.fromUTF8? ⟨(payloadData data).toArray⟩).filter fun text =>
      match serializers.jsonLoads text with
      | .ok _ => true
      | .error _ => false
  else none

theorem carried_parsed (cls : SessionClass Obj) (member : cls ∈ sessionClasses serializers) (data : List UInt8)
    (carries : Carries cls.name data) :
    parse (sessionCodec serializers) data = (cls.decode (payloadData data)).map fun packet => ⟨packet, data⟩ := by
  apply parse_class
  have registered := session_registered serializers cls member
  rw [classOf, carries]
  exact registered

end PacketDecoder

end Animacharacter.Packetcodec
