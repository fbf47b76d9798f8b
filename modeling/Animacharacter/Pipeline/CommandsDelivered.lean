import Mathlib.Data.List.Flatten
import Animacharacter.Pipeline.MotionPath

set_option autoImplicit false

namespace Animacharacter.Pipeline

open StepSystem Struct Packetcodec PacketDecoder Commons Authmsg SessionMng HardwareMng

namespace MotionPath

def commandsFor (group : CommandGroup) (messages : List Motionframe) : List MotionCommand :=
  (messages.flatMap commandsOf).filter group.holds

theorem commands_for_append (group : CommandGroup) (messages more : List Motionframe) :
    commandsFor group (messages ++ more) = commandsFor group messages ++ commandsFor group more := by
  rw [commandsFor, List.flatMap_append, List.filter_append]
  rfl

theorem commands_for_sublist (group : CommandGroup) (messages more : List Motionframe)
    (part : messages.Sublist more) : (commandsFor group messages).Sublist (commandsFor group more) :=
  (part.flatMap commandsOf).filter _

section Flow

variable {Obj : Type} (order : ByteOrder) (serializers : Serializers Obj) (groups : List CommandGroup)

-- From one stage to the next things get lost, but they keep their order and do
-- not come twice.
structure Flowing (path : MotionPath) : Prop where
  reached : Reached Authmsg.session unforgedOnCourse path.network
  encoded : (path.network.payloadsSent .A .UDP).Sublist (path.motionframes.filterMap (encodeMotionframePacket order))
  forwarded : path.run.shared.motionframes.Sublist
    ((path.network.payloadsAccepted .B .UDP).filterMap (decodeMotionframePacketIntoArrays order))
  paired : path.controllers.length = groups.length
  queued : ∀ (index : Nat) group state, groups[index]? = some group → path.controllers[index]? = some state →
    state.TakenInOrder ∧
      (state.enqueued ++ commandsFor group path.topic).Sublist (commandsFor group path.run.shared.motionframes)

theorem init_flowing (path : MotionPath) (started : (motionPath order serializers groups).start path) :
    Flowing order groups path := by
  obtain ⟨network, ⟨now, metrics, run⟩, topic, paired, fresh, unsent⟩ := started
  obtain ⟨keyed, silent, unheard⟩ := network
  constructor
  · exact ⟨path.network, ⟨keyed, silent, unheard⟩, .refl⟩
  · rw [Network.payloadsSent, Network.sentOn, silent]
    exact List.nil_sublist _
  · rw [run]
    exact List.nil_sublist _
  · exact paired
  · intro index group state _ present
    obtain ⟨handlers, rfl⟩ := fresh state (List.mem_of_getElem? present)
    refine ⟨CommandState.init_taken_in_order handlers, ?_⟩
    rw [topic]
    exact List.nil_sublist _

theorem send_motionframe_flowing (path after : MotionPath) (motionframe : List Record)
    (flowing : Flowing order groups path) (moved : path.sendMotionframe order motionframe = some after) :
    Flowing order groups after := by
  obtain ⟨data, encoded, rfl⟩ := Option.map_eq_some_iff.mp moved
  constructor
  · obtain ⟨initial, started, runs⟩ := flowing.reached
    exact ⟨initial, started, runs.tail ⟨.send .A .UDP data, ⟨trivial, trivial⟩, rfl⟩⟩
  · rw [Network.send_payloads, if_pos ⟨rfl, rfl⟩, List.filterMap_append]
    have one : (path.network.packed .A .UDP data).Sublist [data] := by
      rw [Network.packed]
      split
      · exact .refl _
      · exact List.nil_sublist _
    have made : [motionframe].filterMap (encodeMotionframePacket order) = [data] := by
      rw [List.filterMap_cons_some encoded, List.filterMap_nil]
    rw [made]
    exact flowing.encoded.append one
  · rw [Network.send_accepted]
    exact flowing.forwarded
  · exact flowing.paired
  · exact flowing.queued

theorem move_session_result (path moved : MotionPath) (action : TaskAction)
    (stepped : path.moveSession order serializers action = some moved) :
    ∃ run : SessionRun, run.shared.motionframes = path.run.shared.motionframes ++ SessionRun.published order action ∧
      moved = { path with run, topic := path.topic ++ SessionRun.published order action } := by
  obtain ⟨run, went, rfl⟩ := Option.map_eq_some_iff.mp stepped
  have published := SessionRun.step_published order serializers path.run run action went
  refine ⟨run, published, ?_⟩
  rw [published, List.drop_left]

-- What the session publishes goes to the end of the topic; `network` is the one
-- that its datagram was taken from.
theorem move_session_flowing (path moved : MotionPath) (action : TaskAction) (network : Network)
    (flowing : Flowing order groups path) (stepped : path.moveSession order serializers action = some moved)
    (reached : Reached Authmsg.session unforgedOnCourse network)
    (sent : network.payloadsSent .A .UDP = path.network.payloadsSent .A .UDP)
    (accepted : ((path.network.payloadsAccepted .B .UDP).filterMap (decodeMotionframePacketIntoArrays order) ++
        SessionRun.published order action).Sublist
      ((network.payloadsAccepted .B .UDP).filterMap (decodeMotionframePacketIntoArrays order))) :
    Flowing order groups { moved with network } := by
  obtain ⟨run, published, rfl⟩ := move_session_result order serializers path moved action stepped
  constructor
  · exact reached
  · rw [sent]
    exact flowing.encoded
  · rw [published]
    exact (flowing.forwarded.append (.refl _)).trans accepted
  · exact flowing.paired
  · intro index group state grouped present
    obtain ⟨taken, queued⟩ := flowing.queued index group state grouped present
    refine ⟨taken, ?_⟩
    rw [published, commands_for_append, commands_for_append, ← List.append_assoc]
    exact queued.append (.refl _)

theorem silent_session_flowing (path moved : MotionPath) (action : TaskAction) (flowing : Flowing order groups path)
    (stepped : path.moveSession order serializers action = some moved)
    (silent : SessionRun.published order action = []) : Flowing order groups moved := by
  have same : { moved with network := path.network } = moved := by
    obtain ⟨run, _, rfl⟩ := move_session_result order serializers path moved action stepped
    rfl
  rw [← same]
  apply move_session_flowing order serializers groups path moved action path.network flowing stepped flowing.reached rfl
  rw [silent, List.append_nil]

theorem decoded_one (payload : List UInt8) :
    [payload].filterMap (decodeMotionframePacketIntoArrays order) =
      (decodeMotionframePacketIntoArrays order payload).toList := by
  cases result : decodeMotionframePacketIntoArrays order payload with
  | none => rw [List.filterMap_cons_none result, List.filterMap_nil, Option.toList_none]
  | some arrays => rw [List.filterMap_cons_some result, List.filterMap_nil, Option.toList_some]

theorem arecv_flowing (path after : MotionPath) (data : List UInt8) (publish : Option String)
    (flowing : Flowing order groups path) (course : unforgedOnCourse path.network (.deliver .B .UDP data))
    (moved : path.arecv order serializers data publish = some after) : Flowing order groups after := by
  obtain ⟨through, stepped, rfl⟩ := Option.map_eq_some_iff.mp moved
  obtain ⟨initial, started, runs⟩ := flowing.reached
  have reached : Reached Authmsg.session unforgedOnCourse (path.network.deliver .B .UDP data) :=
    ⟨initial, started, runs.tail ⟨.deliver .B .UDP data, course, rfl⟩⟩
  apply move_session_flowing order serializers groups path through _ _ flowing stepped reached
    (Network.deliver_sent path.network .B .A .UDP .UDP data)
  rw [Network.deliver_payloads, if_pos ⟨rfl, rfl⟩, List.filterMap_append]
  refine (List.Sublist.refl _).append ?_
  rw [arecvd, Network.unpacked]
  cases ((path.network.peers .B .UDP).unpack data).2 with
  | error raised => exact List.nil_sublist _
  | ok taken =>
      cases taken with
      | none => exact List.nil_sublist _
      | some msg =>
          simp only [SessionRun.published]
          split
          · exact List.nil_sublist _
          · rw [decoded_one]
            cases publish with
            | none => exact .refl _
            | some exception => exact List.nil_sublist _

theorem network_flowing (path : MotionPath) (network : Network) (action : NetworkAction)
    (flowing : Flowing order groups path) (course : unforgedOnCourse path.network action)
    (moved : path.network.step action = some network)
    (sent : network.payloadsSent .A .UDP = path.network.payloadsSent .A .UDP)
    (accepted : network.payloadsAccepted .B .UDP = path.network.payloadsAccepted .B .UDP) :
    Flowing order groups { path with network } := by
  obtain ⟨initial, started, runs⟩ := flowing.reached
  constructor
  · exact ⟨initial, started, runs.tail ⟨action, course, moved⟩⟩
  · rw [sent]
    exact flowing.encoded
  · rw [accepted]
    exact flowing.forwarded
  · exact flowing.paired
  · exact flowing.queued

theorem other_send (path : MotionPath) (sender : Endpoint) (channel : Channel) (msg : List UInt8)
    (apart : ¬ (Endpoint.A = sender ∧ Channel.UDP = channel)) :
    path.step order serializers groups (.network (.send sender channel msg)) =
      some { path with network := path.network.send sender channel msg } := by
  cases sender with
  | A =>
      cases channel with
      | TCP => rfl
      | UDP => exact absurd ⟨rfl, rfl⟩ apart
  | B => rfl

theorem other_deliver (path : MotionPath) (receiver : Endpoint) (channel : Channel) (data : List UInt8)
    (apart : ¬ (Endpoint.B = receiver ∧ Channel.UDP = channel)) :
    path.step order serializers groups (.network (.deliver receiver channel data)) =
      some { path with network := path.network.deliver receiver channel data } := by
  cases receiver with
  | A => rfl
  | B =>
      cases channel with
      | TCP => rfl
      | UDP => exact absurd ⟨rfl, rfl⟩ apart

theorem network_step_flowing (path after : MotionPath) (action : NetworkAction) (flowing : Flowing order groups path)
    (course : unforgedOnCourse path.network action)
    (moved : path.step order serializers groups (.network action) = some after) : Flowing order groups after := by
  cases action with
  | send sender channel msg =>
      by_cases own : Endpoint.A = sender ∧ Channel.UDP = channel
      · obtain ⟨rfl, rfl⟩ := own
        cases moved
      · rw [other_send order serializers groups path sender channel msg own] at moved
        cases moved
        apply network_flowing order groups path _ (.send sender channel msg) flowing course rfl
        · rw [Network.send_payloads, if_neg own, List.append_nil]
        · rw [Network.send_accepted]
  | deliver receiver channel data =>
      by_cases own : Endpoint.B = receiver ∧ Channel.UDP = channel
      · obtain ⟨rfl, rfl⟩ := own
        cases moved
      · rw [other_deliver order serializers groups path receiver channel data own] at moved
        cases moved
        apply network_flowing order groups path _ (.deliver receiver channel data) flowing course rfl
        · rw [Network.deliver_sent]
        · rw [Network.deliver_payloads, if_neg own, List.append_nil]

theorem topic_loses_flowing (path : MotionPath) (index : Nat) (flowing : Flowing order groups path) :
    Flowing order groups { path with topic := path.topic.eraseIdx index } := by
  refine ⟨flowing.reached, flowing.encoded, flowing.forwarded, flowing.paired, ?_⟩
  intro place group state grouped present
  obtain ⟨taken, queued⟩ := flowing.queued place group state grouped present
  have less := commands_for_sublist group _ _ (List.eraseIdx_sublist path.topic index)
  exact ⟨taken, ((List.Sublist.refl _).append less).trans queued⟩

theorem puts_enqueued (commands : List MotionCommand) (state : CommandState MotionCommand)
    (taken : state.TakenInOrder) :
    (commands.foldl put state).TakenInOrder ∧ (commands.foldl put state).enqueued = state.enqueued ++ commands := by
  induction commands generalizing state with
  | nil => exact ⟨taken, (List.append_nil _).symm⟩
  | cons command rest ih =>
      obtain ⟨kept, enqueued⟩ := ih (put state command) (CommandState.step_taken_in_order state (.put command) taken)
      rw [List.foldl_cons]
      refine ⟨kept, ?_⟩
      rw [enqueued, put]
      simp [CommandState.step]

-- An inactive node takes a message from the topic and does nothing with it.
theorem callback_get (path : MotionPath) (msg : Motionframe) (index : Nat) (group : CommandGroup)
    (changed : CommandState MotionCommand) (flowing : Flowing order groups path) (grouped : groups[index]? = some group)
    (present : (motionframeCallback put (configuredDispatcher groups) path.isActive path.controllers
      (msg.1.map fun id => (id.toNat : Int)) msg.2)[index]? = some changed) :
    ∃ state, path.controllers[index]? = some state ∧
      changed = if path.isActive then (commandsFor group [msg]).foldl put state else state := by
  have inside : index < path.controllers.length := by
    rw [flowing.paired]
    exact (List.getElem?_eq_some_iff.mp grouped).1
  refine ⟨path.controllers[index], List.getElem?_eq_getElem inside, ?_⟩
  have old := List.getElem?_eq_getElem inside
  rw [motionframeCallback] at present
  split at present
  · rename_i active
    rw [dispatch_all_routed put groups _ path.controllers index group _ flowing.paired grouped old] at present
    cases present
    rw [if_pos active, commandsFor, List.flatMap_singleton]
    rfl
  · rename_i inactive
    rw [old] at present
    cases present
    rw [if_neg inactive]

theorem callback_length (path : MotionPath) (msg : Motionframe) (flowing : Flowing order groups path) :
    (motionframeCallback put (configuredDispatcher groups) path.isActive path.controllers
      (msg.1.map fun id => (id.toNat : Int)) msg.2).length = groups.length := by
  rw [motionframeCallback]
  split
  · exact dispatch_all_length put groups _ path.controllers flowing.paired
  · exact flowing.paired

theorem topic_delivers_flowing (path after : MotionPath) (flowing : Flowing order groups path)
    (moved : path.topicDelivers groups = some after) : Flowing order groups after := by
  rw [topicDelivers] at moved
  split at moved
  · cases moved
  · rename_i msg rest waiting
    cases moved
    refine ⟨flowing.reached, flowing.encoded, flowing.forwarded, callback_length order groups path msg flowing, ?_⟩
    intro index group changed grouped present
    obtain ⟨state, old, result⟩ := callback_get order groups path msg index group changed flowing grouped present
    obtain ⟨taken, queued⟩ := flowing.queued index group state grouped old
    rw [waiting, ← List.singleton_append, commands_for_append] at queued
    rw [result]
    split
    · obtain ⟨kept, enqueued⟩ := puts_enqueued (commandsFor group [msg]) state taken
      refine ⟨kept, ?_⟩
      rw [enqueued, List.append_assoc]
      exact queued
    · refine ⟨taken, ?_⟩
      exact ((List.Sublist.refl _).append (List.sublist_append_right _ _)).trans queued

theorem controller_flowing (path : MotionPath) (index : Nat) (action : QueueAction MotionCommand)
    (flowing : Flowing order groups path) (notPut : ∀ command, action ≠ .put command) :
    Flowing order groups { path with controllers := path.controllers.modify index fun state => state.step action } := by
  refine ⟨flowing.reached, flowing.encoded, flowing.forwarded, ?_, ?_⟩
  · rw [List.length_modify]
    exact flowing.paired
  · intro place group changed grouped present
    rw [List.getElem?_modify] at present
    obtain ⟨state, old, rfl⟩ := Option.map_eq_some_iff.mp present
    obtain ⟨taken, queued⟩ := flowing.queued place group state grouped old
    split
    · refine ⟨CommandState.step_taken_in_order state action taken, ?_⟩
      rw [CommandState.not_put_enqueued state action notPut]
      exact queued
    · exact ⟨taken, queued⟩

theorem step_flowing (path after : MotionPath) (action : PathAction) (flowing : Flowing order groups path)
    (course : courseKept path action) (moved : path.step order serializers groups action = some after) :
    Flowing order groups after := by
  cases action with
  | sendMotionframe motionframe => exact send_motionframe_flowing order groups path after motionframe flowing moved
  | arecv data publish => exact arecv_flowing order serializers groups path after data publish flowing course moved
  | arecvTimeout => exact silent_session_flowing order serializers groups path after _ flowing moved rfl
  | arecvRaises exception => exact silent_session_flowing order serializers groups path after _ flowing moved rfl
  | session action =>
      cases action with
      | forwarderReceives received publish => cases moved
      | controllerStarts _ | controllerWakes _ _ _ | handlerStarts | handlerReceives _ _ _ | forwarderStarts
      | mainResumes => exact silent_session_flowing order serializers groups path after _ flowing moved rfl
  | network action => exact network_step_flowing order serializers groups path after action flowing course moved
  | topicLoses index =>
      cases moved
      exact topic_loses_flowing order groups path index flowing
  | topicDelivers => exact topic_delivers_flowing order groups path after flowing moved
  | activity isActive =>
      cases moved
      exact ⟨flowing.reached, flowing.encoded, flowing.forwarded, flowing.paired, flowing.queued⟩
  | controller index action =>
      cases action with
      | put command => cases moved
      | queueConfigUpdate _ | initialized | flush _ =>
          cases moved
          exact controller_flowing order groups path index _ flowing (fun _ same => nomatch same)

theorem path_flowing (path : MotionPath) (reached : Reached (motionPath order serializers groups) courseKept path) :
    Flowing order groups path :=
  reached_invariant (motionPath order serializers groups) courseKept (Flowing order groups)
    (fun initial started => init_flowing order serializers groups initial started)
    (fun source action target flowing course moved =>
      step_flowing order serializers groups source target action flowing course moved)
    path reached

theorem record_commands (motionframe : List Record) :
    commandsOf (motionframe.map Record.id, motionframe.map Record.value) = motionframe.map Record.pair := by
  rw [commandsOf, List.map_map, List.zip_map']
  rfl

theorem encoded_arrays (motionframe : List Record) : ∃ data, encodeMotionframePacket order motionframe = some data ∧
    decodeMotionframePacketIntoArrays order data = some (motionframe.map Record.id, motionframe.map Record.value) := by
  refine ⟨motionframe.flatMap (paddedRecord order), encode_packet order motionframe, ?_⟩
  obtain ⟨records, _, decoded, _, arrays⟩ := decoders_agree order (motionframe.flatMap (paddedRecord order))
  have whole := decode_encode_packet order motionframe
  rw [encode_packet, Option.bind_some, decoded] at whole
  cases whole
  exact arrays

-- What the client sends is read back from the bytes as it was.
theorem encoded_commands (motionframes : List (List Record)) :
    ((motionframes.filterMap (encodeMotionframePacket order)).filterMap
      (decodeMotionframePacketIntoArrays order)).flatMap commandsOf = motionframes.flatten.map Record.pair := by
  induction motionframes with
  | nil => rfl
  | cons motionframe rest ih =>
      obtain ⟨data, encoded, decoded⟩ := encoded_arrays order motionframe
      rw [List.filterMap_cons_some encoded, List.filterMap_cons_some decoded, List.flatMap_cons, ih, record_commands,
        List.flatten_cons, List.map_append]

-- A controller is given commands of its own group that the client has sent, in
-- the order of the client and each at most as often as it was sent.
theorem controlled_sent_by_client (path : MotionPath)
    (reached : Reached (motionPath order serializers groups) courseKept path) (index : Nat) (group : CommandGroup)
    (state : CommandState MotionCommand) (grouped : groups[index]? = some group)
    (present : path.controllers[index]? = some state) :
    state.controlled.flatten.Sublist ((path.motionframes.flatten.map Record.pair).filter group.holds) := by
  have flowing := path_flowing order serializers groups path reached
  obtain ⟨taken, queued⟩ := flowing.queued index group state grouped present
  obtain ⟨secret, numbered⟩ := session_numbered path.network flowing.reached
  have accepted := (numbered.ordered .B .UDP).trans (List.take_sublist _ _)
  have received := (accepted.trans flowing.encoded).filterMap (decodeMotionframePacketIntoArrays order)
  have published := commands_for_sublist group _ _ (flowing.forwarded.trans received)
  rw [← encoded_commands order]
  calc
    state.controlled.flatten.Sublist state.enqueued := CommandState.taken_in_order_enqueued state taken
    List.Sublist _ (state.enqueued ++ commandsFor group path.topic) := List.sublist_append_left _ _
    List.Sublist _ (commandsFor group path.run.shared.motionframes) := queued
    List.Sublist _ _ := published

end Flow

-- One controller, for the id 3; the client sends three motionframes.
def idThree : CommandGroup := ⟨[3], List.nodup_singleton 3⟩

def firstFrame : List Record := [⟨3, 0x3f800000⟩, ⟨4, 0x40000000⟩]

def secondFrame : List Record := [⟨3, 0x40000000⟩]

def thirdFrame : List Record := [⟨3, 0x40400000⟩]

def firstData : List UInt8 := [3, 0, 0, 0, 0, 0, 0x80, 0x3f, 4, 0, 0, 0, 0, 0, 0, 0x40]

def secondData : List UInt8 := [3, 0, 0, 0, 0, 0, 0, 0x40]

def thirdData : List UInt8 := [3, 0, 0, 0, 0, 0, 0x40, 0x40]

def waitingPath : MotionPath := ⟨freshSession [7], .init 0 .reset, [], true, [.init []], []⟩

def openedPath : MotionPath := { waitingPath with run := (SessionRun.init 0 .reset).forwarderLoop }

def sentPath : MotionPath :=
  { openedPath with
    network := threeSent .A .UDP firstData secondData thirdData
    motionframes := [firstFrame, secondFrame, thirdFrame] }

def flushAll : QueueAction MotionCommand := .flush ⟨fun _ _ => false, none, none⟩

def flushed (value : UInt32) (state : CommandState MotionCommand) : CommandState MotionCommand :=
  (state.step (.put (3, value))).step flushAll

def frameReceived (path : MotionPath) (sequence : Nat) (data : List UInt8) (msg : Motionframe) : MotionPath :=
  { path with
    network := path.network.deliver .B .UDP (packet [7] sequence data)
    run := path.run.forwarderReceives .little none (.ok data)
    topic := [msg] }

def firstQueued : MotionPath :=
  { frameReceived sentPath 1 firstData ([3, 4], [0x3f800000, 0x40000000]) with
    topic := []
    controllers := [(CommandState.init []).step (.put (3, 0x3f800000))] }

def firstControlled : MotionPath := { firstQueued with controllers := [flushed 0x3f800000 (.init [])] }

-- The second one is lost, the third one is flushed.
def thirdQueued : MotionPath :=
  { frameReceived firstControlled 3 thirdData ([3], [0x40400000]) with
    topic := []
    controllers := [(flushed 0x3f800000 (.init [])).step (.put (3, 0x40400000))] }

def thirdControlled : MotionPath :=
  { thirdQueued with controllers := [flushed 0x40400000 (flushed 0x3f800000 (.init []))] }

theorem arecvd_fresh (path : MotionPath) (sequence sends last : Nat) (data : List UInt8)
    (keyed : path.network.peers .B .UDP = ⟨[7], sends, last⟩) (fits : sequence < 256 ^ SEQUENCE_SIZE)
    (fresh : last < sequence) : path.arecvd (packet [7] sequence data) = .ok data := by
  have unpacked := SecureWireProtocol.unpack_packet ⟨[7], sends, last⟩ sequence data fits fresh
  rw [arecvd, keyed]
  simp only at unpacked ⊢
  rw [unpacked]

theorem sent_path_unheard : sentPath.network.peers .B .UDP = ⟨[7], 0, 0⟩ :=
  (three_sent .A .UDP firstData secondData thirdData).2.2

theorem sent_path_frames : sentPath.network.sent = numberedFrames [7] .A .UDP [firstData, secondData, thirdData] :=
  (three_sent .A .UDP firstData secondData thirdData).1

theorem first_delivered : sentPath.network.deliver .B .UDP (packet [7] 1 firstData) =
    { sentPath.network.setPeer .B .UDP ⟨[7], 0, 1⟩ with accepted := [⟨.B, .UDP, firstData⟩] } := by
  have delivered := deliver_fresh sentPath.network .B .UDP 1 firstData (by decide) (by rw [sent_path_unheard]; decide)
  rw [sent_path_unheard, show sentPath.network.accepted = [] from
    (three_sent .A .UDP firstData secondData thirdData).2.1] at delivered
  exact delivered

theorem first_controlled_heard : firstControlled.network.peers .B .UDP = ⟨[7], 0, 1⟩ := by
  rw [firstControlled, firstQueued, frameReceived, first_delivered]
  rfl

theorem first_controlled_frames :
    firstControlled.network.sent = numberedFrames [7] .A .UDP [firstData, secondData, thirdData] := by
  rw [firstControlled, firstQueued, frameReceived, first_delivered]
  exact sent_path_frames

theorem frame_lossless (path : MotionPath) (sends last sequence : Nat) (payload : List UInt8)
    (keyed : path.network.peers .B .UDP = ⟨[7], sends, last⟩) (next : sequence = last + 1)
    (present : ⟨.A, .UDP, payload, packet [7] sequence payload⟩ ∈ path.network.sentOn .A .UDP)
    (fits : sequence < 256 ^ SEQUENCE_SIZE) : lossless path (.arecv (packet [7] sequence payload) none) := by
  obtain ⟨listed, own⟩ := List.mem_filter.mp present
  refine ⟨rfl, own_frame_on_course path.network .B .UDP _ listed (of_decide_eq_true own), fun _ => ?_⟩
  rw [header_of_packet, BigEndian.from_to_bytes _ _ fits, keyed, next]

theorem frame_received (path : MotionPath) (sequence sends last : Nat) (data : List UInt8) (msg : Motionframe)
    (keyed : path.network.peers .B .UDP = ⟨[7], sends, last⟩) (fits : sequence < 256 ^ SEQUENCE_SIZE)
    (fresh : last < sequence) (awaiting : path.run.outcome = none ∧ path.run.forwarder = .awaiting ())
    (published : path.topic ++ SessionRun.published .little (.forwarderReceives (.ok data) none) = [msg]) :
    path.step .little noObjects [idThree] (.arecv (packet [7] sequence data) none) =
      some (frameReceived path sequence data msg) := by
  have went : path.run.step .little noObjects (.forwarderReceives (.ok data) none) =
      some (path.run.forwarderReceives .little none (.ok data)) := by
    simp only [SessionRun.step, awaiting.1, awaiting.2, if_true]
  rw [step, arecv, arecvd_fresh path sequence sends last data keyed fits fresh, moveSession, went]
  simp only [Option.map_some, SessionRun.forwarder_receives_published, List.drop_left, published]
  rfl

theorem flush_controls (path : MotionPath) (state : CommandState MotionCommand) (only : path.controllers = [state])
    (unconfigured : state.controller.cfgUpdatesQueue = []) : lossless path (.controller 0 flushAll) := by
  intro other present
  rw [only] at present
  cases present
  intro _ _
  refine ⟨fun place config index handler queued => ?_, rfl⟩
  rw [unconfigured] at queued
  cases queued

theorem flush_step (path : MotionPath) (state : CommandState MotionCommand) (only : path.controllers = [state]) :
    path.step .little noObjects [idThree] (.controller 0 flushAll) =
      some { path with controllers := [state.step flushAll] } := by
  simp only [step, flushAll, only]
  rfl

theorem sent_path_runs : Runs (motionPath .little noObjects [idThree]) lossless waitingPath sentPath := by
  obtain ⟨_, _, one, _⟩ := send_counted (freshSession [7]) .A .UDP firstData [7] 0 rfl (by decide)
  obtain ⟨_, _, two, _⟩ := send_counted _ .A .UDP secondData [7] 1 one (by decide)
  have small (path : MotionPath) (count : Nat) (counted : path.network.peers .A .UDP = ⟨[7], count, 0⟩)
      (fits : count + 1 < 256 ^ SEQUENCE_SIZE) (motionframe : List Record) :
      lossless path (.sendMotionframe motionframe) := by
    simp only [lossless, counted]
    exact fits
  have opened : Runs (motionPath .little noObjects [idThree]) lossless waitingPath openedPath :=
    .single ⟨.session .forwarderStarts, trivial, rfl⟩
  exact ((opened.tail ⟨.sendMotionframe firstFrame, small openedPath 0 rfl (by decide) firstFrame, rfl⟩).tail
    ⟨.sendMotionframe secondFrame, small _ 1 one (by decide) secondFrame, rfl⟩).tail
      ⟨.sendMotionframe thirdFrame, small _ 2 two (by decide) thirdFrame, rfl⟩

theorem first_controlled_reached : Reached (motionPath .little noObjects [idThree]) lossless firstControlled := by
  have started : (motionPath .little noObjects [idThree]).start waitingPath :=
    ⟨fresh_session_start [7], ⟨0, .reset, rfl⟩, rfl, rfl, fun state member => ⟨[], List.mem_singleton.mp member⟩, rfl⟩
  have present : ⟨.A, .UDP, firstData, packet [7] 1 firstData⟩ ∈ sentPath.network.sentOn .A .UDP := by
    rw [Network.sentOn, sent_path_frames]
    exact List.mem_cons_self
  have next := frame_lossless sentPath 0 0 1 firstData sent_path_unheard rfl present (by decide)
  have received := frame_received sentPath 1 0 0 firstData ([3, 4], [0x3f800000, 0x40000000]) sent_path_unheard
    (by decide) (by decide) ⟨rfl, rfl⟩ (by decide +kernel)
  have queued : (frameReceived sentPath 1 firstData ([3, 4], [0x3f800000, 0x40000000])).step .little noObjects [idThree]
      .topicDelivers = some firstQueued := rfl
  refine ⟨waitingPath, started, ((sent_path_runs.tail ⟨_, next, received⟩).tail ⟨.topicDelivers, rfl, queued⟩).tail ?_⟩
  have flushes : firstQueued.step .little noObjects [idThree] (.controller 0 flushAll) = some firstControlled :=
    flush_step firstQueued ((CommandState.init []).step (.put (3, 0x3f800000))) rfl
  exact ⟨.controller 0 flushAll, flush_controls firstQueued _ rfl rfl, flushes⟩

theorem third_controlled_reached : Reached (motionPath .little noObjects [idThree]) courseKept thirdControlled := by
  obtain ⟨initial, started, runs⟩ := first_controlled_reached
  have before := runs_weaken _ lossless courseKept lossless_course initial firstControlled runs
  have third : courseKept firstControlled (.arecv (packet [7] 3 thirdData) none) := by
    refine own_frame_on_course firstControlled.network .B .UDP ⟨.A, .UDP, thirdData, packet [7] 3 thirdData⟩ ?_ ⟨rfl, rfl⟩
    rw [first_controlled_frames]
    exact List.mem_cons_of_mem _ (List.mem_cons_of_mem _ List.mem_cons_self)
  have received := frame_received firstControlled 3 0 1 thirdData ([3], [0x40400000]) first_controlled_heard
    (by decide) (by decide) ⟨rfl, rfl⟩ (by decide +kernel)
  have queued : (frameReceived firstControlled 3 thirdData ([3], [0x40400000])).step .little noObjects [idThree]
      .topicDelivers = some thirdQueued := rfl
  exact ⟨initial, started, ((before.tail ⟨_, third, received⟩).tail ⟨.topicDelivers, trivial, queued⟩).tail
    ⟨.controller 0 flushAll, trivial, flush_step thirdQueued _ rfl⟩⟩

theorem controlled_sent_by_client_lost :
    ∃ state ∈ thirdControlled.controllers, state.controlled.flatten = [(3, 0x3f800000), (3, 0x40400000)] ∧
      state.controlled.flatten.Sublist
        (([firstFrame, secondFrame, thirdFrame].flatten.map Record.pair).filter idThree.holds) := by
  refine ⟨_, List.mem_singleton_self _, by decide +kernel, ?_⟩
  exact controlled_sent_by_client .little noObjects [idThree] thirdControlled third_controlled_reached 0 idThree _ rfl rfl

end MotionPath

end Animacharacter.Pipeline
