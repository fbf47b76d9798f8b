import Animacharacter.Pipeline.CommandsDelivered

set_option autoImplicit false

namespace Animacharacter.Pipeline

open StepSystem Struct Packetcodec PacketDecoder Commons Authmsg SessionMng HardwareMng

namespace MotionPath

section Conservation

variable {Obj : Type} (order : ByteOrder) (serializers : Serializers Obj) (groups : List CommandGroup)

def commandsIn (payloads : List (List UInt8)) : List MotionCommand :=
  (payloads.filterMap (decodeMotionframePacketIntoArrays order)).flatMap commandsOf

theorem commands_in_append (payloads more : List (List UInt8)) :
    commandsIn order (payloads ++ more) = commandsIn order payloads ++ commandsIn order more := by
  rw [commandsIn, List.filterMap_append, List.flatMap_append]
  rfl

-- Each stage holds all that the one before it has let go.
structure Lossless (path : MotionPath) : Prop where
  encoded : path.network.payloadsSent .A .UDP = path.motionframes.filterMap (encodeMotionframePacket order)
  received : (path.network.peers .B .UDP).lastReceivedSequence ≤ (path.network.payloadsSent .A .UDP).length
  accepted : path.network.payloadsAccepted .B .UDP =
    (path.network.payloadsSent .A .UDP).take (path.network.peers .B .UDP).lastReceivedSequence
  forwarded : path.run.shared.motionframes.flatMap commandsOf =
    commandsIn order (path.network.payloadsAccepted .B .UDP)
  queued : ∀ (index : Nat) group state, groups[index]? = some group → path.controllers[index]? = some state →
    state.controlled.flatten = state.removed ∧
      state.enqueued ++ commandsFor group path.topic = commandsFor group path.run.shared.motionframes

theorem init_lossless (path : MotionPath) (started : (motionPath order serializers groups).start path) :
    Lossless order groups path := by
  obtain ⟨⟨⟨secret, keyed⟩, silent, unheard⟩, ⟨now, metrics, run⟩, topic, _, fresh, unsent⟩ := started
  have sent : path.network.payloadsSent .A .UDP = [] := by
    rw [Network.payloadsSent, Network.sentOn, silent]
    rfl
  have accepted : path.network.payloadsAccepted .B .UDP = [] := by
    rw [Network.payloadsAccepted, unheard]
    rfl
  constructor
  · rw [sent, unsent]
    rfl
  · rw [keyed]
    exact Nat.zero_le _
  · rw [accepted, sent, List.take_nil]
  · rw [accepted, run]
    rfl
  · intro index group state _ present
    obtain ⟨handlers, rfl⟩ := fresh state (List.mem_of_getElem? present)
    rw [topic, run]
    exact ⟨rfl, rfl⟩

theorem send_motionframe_lossless (path after : MotionPath) (motionframe : List Record)
    (held : Lossless order groups path)
    (fits : (path.network.peers .A .UDP).sendSequence + 1 < 256 ^ SEQUENCE_SIZE)
    (moved : path.sendMotionframe order motionframe = some after) : Lossless order groups after := by
  obtain ⟨data, encoded, rfl⟩ := Option.map_eq_some_iff.mp moved
  have packed : path.network.packed .A .UDP data = [data] := by
    rw [Network.packed, SecureWireProtocol.pack, encode_packet_ok _ _ _ fits]
  have sent : (path.network.send .A .UDP data).payloadsSent .A .UDP = path.network.payloadsSent .A .UDP ++ [data] := by
    rw [Network.send_payloads, if_pos ⟨rfl, rfl⟩, packed]
  constructor
  · rw [sent, held.encoded, List.filterMap_append, List.filterMap_cons_some encoded, List.filterMap_nil]
  · rw [sent, Network.send_received, List.length_append]
    exact Nat.le_add_right_of_le held.received
  · rw [sent, Network.send_received, Network.send_accepted, held.accepted,
      List.take_append_of_le_length held.received]
  · rw [Network.send_accepted]
    exact held.forwarded
  · exact held.queued

theorem move_session_lossless (path moved : MotionPath) (action : TaskAction) (network : Network)
    (held : Lossless order groups path) (stepped : path.moveSession order serializers action = some moved)
    (sent : network.payloadsSent .A .UDP = path.network.payloadsSent .A .UDP)
    (received : (network.peers .B .UDP).lastReceivedSequence ≤ (network.payloadsSent .A .UDP).length)
    (accepted : network.payloadsAccepted .B .UDP =
      (network.payloadsSent .A .UDP).take (network.peers .B .UDP).lastReceivedSequence)
    (forwarded : commandsIn order (network.payloadsAccepted .B .UDP) =
      commandsIn order (path.network.payloadsAccepted .B .UDP) ++
        (SessionRun.published order action).flatMap commandsOf) : Lossless order groups { moved with network } := by
  obtain ⟨run, published, rfl⟩ := move_session_result order serializers path moved action stepped
  constructor
  · rw [sent]
    exact held.encoded
  · exact received
  · exact accepted
  · rw [published, List.flatMap_append, held.forwarded, forwarded]
  · intro index group state grouped present
    obtain ⟨taken, queued⟩ := held.queued index group state grouped present
    refine ⟨taken, ?_⟩
    rw [published, commands_for_append, commands_for_append, ← List.append_assoc, queued]

theorem silent_session_lossless (path moved : MotionPath) (action : TaskAction) (held : Lossless order groups path)
    (stepped : path.moveSession order serializers action = some moved)
    (silent : SessionRun.published order action = []) : Lossless order groups moved := by
  have same : { moved with network := path.network } = moved := by
    obtain ⟨run, _, rfl⟩ := move_session_result order serializers path moved action stepped
    rfl
  rw [← same]
  apply move_session_lossless order serializers groups path moved action path.network held stepped rfl held.received
    held.accepted
  rw [silent, List.flatMap_nil, List.append_nil]

-- An empty payload is taken for a timeout, but there is no command in it.
theorem published_commands (payload : List UInt8) :
    (SessionRun.published order (.forwarderReceives (.ok payload) none)).flatMap commandsOf = commandsIn order [payload] := by
  rw [SessionRun.published, commandsIn, decoded_one]
  split
  · rename_i empty
    rw [empty]
    cases order with
    | little => rfl
    | big => rfl
  · rfl

theorem next_frame_lossless (secret : List UInt8) (path after : MotionPath) (packed : Packed)
    (held : Lossless order groups path) (numbered : Numbered secret path.network)
    (next : (path.network.sentOn .A .UDP)[(path.network.peers .B .UDP).lastReceivedSequence]? = some packed)
    (moved : path.arecv order serializers packed.frame none = some after) : Lossless order groups after := by
  obtain ⟨through, stepped, rfl⟩ := Option.map_eq_some_iff.mp moved
  obtain ⟨taken, counted⟩ := next_frame_taken secret path.network .B .UDP packed numbered next
  have sent := Network.deliver_sent path.network .B .A .UDP .UDP packed.frame
  have accepted := Network.deliver_payloads path.network .B .B .UDP .UDP packed.frame
  rw [if_pos ⟨rfl, rfl⟩, taken] at accepted
  have received : path.arecvd packed.frame = .ok packed.payload := by
    rw [Network.unpacked] at taken
    rw [arecvd]
    split at taken
    · rename_i payload unpacked
      cases taken
      rw [unpacked]
    · cases taken
  have here : (path.network.payloadsSent .A .UDP)[(path.network.peers .B .UDP).lastReceivedSequence]? =
      some packed.payload := by
    rw [Network.payloadsSent, List.getElem?_map, next]
    rfl
  rw [received] at stepped
  apply move_session_lossless order serializers groups path through _ _ held stepped sent
  · rw [counted, sent]
    exact (List.getElem?_eq_some_iff.mp here).1
  · rw [accepted, counted, sent, held.accepted, List.take_add_one, here, Option.toList_some]
  · rw [accepted, commands_in_append, published_commands]

-- What arrives is the next frame, or is not taken.
theorem arecv_lossless (secret : List UInt8) (path after : MotionPath) (data : List UInt8)
    (held : Lossless order groups path) (numbered : Numbered secret path.network)
    (course : unforgedOnCourse path.network (.deliver .B .UDP data))
    (inTurn : (∃ packed ∈ path.network.sentOn .A .UDP, packed.frame = data) →
      BigEndian.fromBytes (headerOf data) ≤ (path.network.peers .B .UDP).lastReceivedSequence + 1)
    (moved : path.arecv order serializers data none = some after) : Lossless order groups after := by
  cases SecureWireProtocol.unpack_cases (path.network.peers .B .UDP) data with
  | accepted sequence payload result made fits fresh =>
      rw [numbered.keyed] at made
      obtain ⟨read, index, packed, found, rfl, _, same⟩ :=
        fresh_frame_sent secret path.network .B .UDP sequence payload data numbered made fits fresh course.1 course.2
      have limit := inTurn ⟨packed, List.mem_of_getElem? found, same⟩
      have next : index = (path.network.peers .B .UDP).lastReceivedSequence := by
        rw [read] at limit
        omega
      rw [next] at found
      rw [← same] at moved
      exact next_frame_lossless order serializers groups secret path after packed held numbered found moved
  | rejected result =>
      obtain ⟨through, stepped, rfl⟩ := Option.map_eq_some_iff.mp moved
      have nothing : path.arecvd data = .ok [] := by rw [arecvd, result]
      have none_ : path.network.unpacked .B .UDP data = [] := by rw [Network.unpacked, result]
      have kept : ((path.network.deliver .B .UDP data).peers .B .UDP).lastReceivedSequence =
          (path.network.peers .B .UDP).lastReceivedSequence := by
        rw [Network.deliver, result]
        simp [Network.setPeer]
      have sent := Network.deliver_sent path.network .B .A .UDP .UDP data
      have accepted := Network.deliver_payloads path.network .B .B .UDP .UDP data
      rw [if_pos ⟨rfl, rfl⟩, none_, List.append_nil] at accepted
      rw [nothing] at stepped
      apply move_session_lossless order serializers groups path through _ _ held stepped sent
      · rw [kept, sent]
        exact held.received
      · rw [accepted, kept, sent]
        exact held.accepted
      · rw [accepted, SessionRun.published, if_pos rfl, List.flatMap_nil, List.append_nil]

theorem network_lossless (path : MotionPath) (network : Network) (held : Lossless order groups path)
    (sent : network.payloadsSent .A .UDP = path.network.payloadsSent .A .UDP)
    (accepted : network.payloadsAccepted .B .UDP = path.network.payloadsAccepted .B .UDP)
    (received : (network.peers .B .UDP).lastReceivedSequence = (path.network.peers .B .UDP).lastReceivedSequence) :
    Lossless order groups { path with network } := by
  constructor
  · rw [sent]
    exact held.encoded
  · rw [sent, received]
    exact held.received
  · rw [accepted, sent, received]
    exact held.accepted
  · rw [accepted]
    exact held.forwarded
  · exact held.queued

theorem network_step_lossless (path after : MotionPath) (action : NetworkAction) (held : Lossless order groups path)
    (moved : path.step order serializers groups (.network action) = some after) : Lossless order groups after := by
  cases action with
  | send sender channel msg =>
      by_cases own : Endpoint.A = sender ∧ Channel.UDP = channel
      · obtain ⟨rfl, rfl⟩ := own
        cases moved
      · rw [other_send order serializers groups path sender channel msg own] at moved
        cases moved
        apply network_lossless order groups path _ held
        · rw [Network.send_payloads, if_neg own, List.append_nil]
        · rw [Network.send_accepted]
        · exact Network.send_received path.network sender .B channel .UDP msg
  | deliver receiver channel data =>
      by_cases own : Endpoint.B = receiver ∧ Channel.UDP = channel
      · obtain ⟨rfl, rfl⟩ := own
        cases moved
      · rw [other_deliver order serializers groups path receiver channel data own] at moved
        cases moved
        apply network_lossless order groups path _ held
        · rw [Network.deliver_sent]
        · rw [Network.deliver_payloads, if_neg own, List.append_nil]
        · rw [Network.deliver_others path.network receiver .B channel .UDP data own]

theorem puts_controlled (commands : List MotionCommand) (state : CommandState MotionCommand) :
    (commands.foldl put state).controlled = state.controlled ∧ (commands.foldl put state).removed = state.removed := by
  induction commands generalizing state with
  | nil => exact ⟨rfl, rfl⟩
  | cons command rest ih => exact ih (put state command)

theorem topic_delivers_lossless (path after : MotionPath) (held : Lossless order groups path)
    (flowing : Flowing order groups path) (active : path.isActive = true)
    (moved : path.topicDelivers groups = some after) : Lossless order groups after := by
  rw [topicDelivers] at moved
  split at moved
  · cases moved
  · rename_i msg rest waiting
    cases moved
    refine ⟨held.encoded, held.received, held.accepted, held.forwarded, ?_⟩
    intro index group changed grouped present
    obtain ⟨state, old, result⟩ := callback_get order groups path msg index group changed flowing grouped present
    obtain ⟨taken, queued⟩ := held.queued index group state grouped old
    obtain ⟨kept, _⟩ := flowing.queued index group state grouped old
    obtain ⟨_, enqueued⟩ := puts_enqueued (commandsFor group [msg]) state kept
    obtain ⟨controlled, removed⟩ := puts_controlled (commandsFor group [msg]) state
    rw [waiting, ← List.singleton_append, commands_for_append] at queued
    rw [result, if_pos active, controlled, removed, enqueued, List.append_assoc]
    exact ⟨taken, queued⟩

theorem controller_lossless (path : MotionPath) (index : Nat) (action : QueueAction MotionCommand)
    (held : Lossless order groups path) (flowing : Flowing order groups path)
    (notPut : ∀ command, action ≠ .put command)
    (controls : ∀ state ∈ path.controllers[index]?, state.Controls action) :
    Lossless order groups { path with controllers := path.controllers.modify index fun state => state.step action } := by
  refine ⟨held.encoded, held.received, held.accepted, held.forwarded, ?_⟩
  intro place group changed grouped present
  rw [List.getElem?_modify] at present
  obtain ⟨state, old, rfl⟩ := Option.map_eq_some_iff.mp present
  obtain ⟨taken, queued⟩ := held.queued place group state grouped old
  obtain ⟨kept, _⟩ := flowing.queued place group state grouped old
  split
  · rename_i own
    subst own
    refine ⟨(CommandState.step_nothing_lost state action kept.accounted).mpr ⟨taken, controls state old⟩, ?_⟩
    rw [CommandState.not_put_enqueued state action notPut]
    exact queued
  · exact ⟨taken, queued⟩

theorem step_lossless (path after : MotionPath) (action : PathAction) (held : Lossless order groups path)
    (flowing : Flowing order groups path) (kept : path.lossless action)
    (moved : path.step order serializers groups action = some after) : Lossless order groups after := by
  cases action with
  | sendMotionframe motionframe => exact send_motionframe_lossless order groups path after motionframe held kept moved
  | arecv data publish =>
      obtain ⟨rfl, course, inTurn⟩ := kept
      obtain ⟨secret, numbered⟩ := session_numbered path.network flowing.reached
      exact arecv_lossless order serializers groups secret path after data held numbered course inTurn moved
  | arecvTimeout => exact silent_session_lossless order serializers groups path after _ held moved rfl
  | arecvRaises exception => exact silent_session_lossless order serializers groups path after _ held moved rfl
  | session action =>
      cases action with
      | forwarderReceives received publish => cases moved
      | controllerStarts _ | controllerWakes _ _ _ | handlerStarts | handlerReceives _ _ _ | forwarderStarts
      | mainResumes => exact silent_session_lossless order serializers groups path after _ held moved rfl
  | network action => exact network_step_lossless order serializers groups path after action held moved
  | topicLoses index => exact absurd kept id
  | topicDelivers => exact topic_delivers_lossless order groups path after held flowing kept moved
  | activity isActive =>
      cases moved
      exact ⟨held.encoded, held.received, held.accepted, held.forwarded, held.queued⟩
  | controller index action =>
      cases action with
      | put command => cases moved
      | queueConfigUpdate _ | initialized | flush _ =>
          cases moved
          exact controller_lossless order groups path index _ held flowing (fun _ same => nomatch same) kept

theorem path_lossless (path : MotionPath) (reached : Reached (motionPath order serializers groups) lossless path) :
    Flowing order groups path ∧ Lossless order groups path := by
  refine reached_invariant (motionPath order serializers groups) lossless
    (fun path => Flowing order groups path ∧ Lossless order groups path) ?_ ?_ path reached
  · intro initial started
    exact ⟨init_flowing order serializers groups initial started, init_lossless order serializers groups initial started⟩
  · intro source action target both kept moved
    exact ⟨step_flowing order serializers groups source target action both.1 (lossless_course source action kept) moved,
      step_lossless order serializers groups source target action both.2 both.1 kept moved⟩

-- Every command that the client has sent for a controller is in one place: it was
-- given to control, is in the queue, on the topic or still in a datagram.
theorem commands_conserved (path : MotionPath)
    (reached : Reached (motionPath order serializers groups) lossless path) (index : Nat) (group : CommandGroup)
    (state : CommandState MotionCommand) (grouped : groups[index]? = some group)
    (present : path.controllers[index]? = some state) :
    state.controlled.flatten ++ state.incoming ++ commandsFor group path.topic ++
        (commandsIn order ((path.network.payloadsSent .A .UDP).drop
          (path.network.peers .B .UDP).lastReceivedSequence)).filter group.holds =
      (path.motionframes.flatten.map Record.pair).filter group.holds := by
  obtain ⟨flowing, held⟩ := path_lossless order serializers groups path reached
  obtain ⟨kept, _⟩ := flowing.queued index group state grouped present
  obtain ⟨taken, queued⟩ := held.queued index group state grouped present
  have split := List.take_append_drop (path.network.peers .B .UDP).lastReceivedSequence
    (path.network.payloadsSent .A .UDP)
  rw [taken, kept.accounted.split, queued, commandsFor, held.forwarded, held.accepted, ← List.filter_append,
    ← commands_in_append, split, held.encoded, commandsIn, encoded_commands]

end Conservation

-- The first motionframe has come to control, the second one to the topic, and the
-- third one is on its way.
def secondOnTopic : MotionPath := frameReceived firstControlled 2 secondData ([3], [0x40000000])

theorem second_on_topic_reached : Reached (motionPath .little noObjects [idThree]) lossless secondOnTopic := by
  obtain ⟨initial, started, runs⟩ := first_controlled_reached
  have present : ⟨.A, .UDP, secondData, packet [7] 2 secondData⟩ ∈ firstControlled.network.sentOn .A .UDP := by
    rw [Network.sentOn, first_controlled_frames]
    exact List.mem_cons_of_mem _ List.mem_cons_self
  have next := frame_lossless firstControlled 0 1 2 secondData first_controlled_heard rfl present (by decide)
  have received := frame_received firstControlled 2 0 1 secondData ([3], [0x40000000]) first_controlled_heard
    (by decide) (by decide) ⟨rfl, rfl⟩ (by decide +kernel)
  exact ⟨initial, started, runs.tail ⟨_, next, received⟩⟩

theorem commands_conserved_under_way :
    ∃ state ∈ secondOnTopic.controllers, state.controlled.flatten = [(3, 0x3f800000)] ∧
      commandsFor idThree secondOnTopic.topic = [(3, 0x40000000)] ∧
      state.controlled.flatten ++ state.incoming ++ commandsFor idThree secondOnTopic.topic ++
          (commandsIn .little ((secondOnTopic.network.payloadsSent .A .UDP).drop
            (secondOnTopic.network.peers .B .UDP).lastReceivedSequence)).filter idThree.holds =
        [(3, 0x3f800000), (3, 0x40000000), (3, 0x40400000)] := by
  refine ⟨_, List.mem_singleton_self _, by decide +kernel, by decide +kernel, ?_⟩
  exact (commands_conserved .little noObjects [idThree] secondOnTopic second_on_topic_reached 0 idThree _ rfl rfl).trans
    (by decide +kernel)

end MotionPath

end Animacharacter.Pipeline
