import Mathlib.Algebra.BigOperators.Group.List.Basic
import Mathlib.Tactic.Abel
import Animacharacter.SessionMng.RunningSession

set_option autoImplicit false

namespace Animacharacter.SessionMng

open StepSystem Struct Packetcodec PacketDecoder Commons

namespace MetricsTracker

instance : Zero MetricsTracker := ⟨reset⟩

instance : Add MetricsTracker :=
  ⟨fun left right => ⟨left.recTcp + right.recTcp, left.recUdp + right.recUdp, left.motionCmds + right.motionCmds⟩⟩

@[simp] theorem zero_counts : (0 : MetricsTracker) = ⟨0, 0, 0⟩ := rfl

@[simp] theorem add_counts (left right : MetricsTracker) : left + right =
    ⟨left.recTcp + right.recTcp, left.recUdp + right.recUdp, left.motionCmds + right.motionCmds⟩ := rfl

instance : AddCommMonoid MetricsTracker where
  add_assoc _ _ _ := by simp [Nat.add_assoc]
  zero_add _ := by simp
  add_zero _ := by simp
  add_comm _ _ := by simp [Nat.add_comm]
  nsmul := nsmulRec

end MetricsTracker

namespace SessionEvent

-- When the last heartbeat came, or when the session started.
def lastBeat (start : ℚ) (events : List SessionEvent) : ℚ :=
  events.foldl (fun latest event =>
    match event with
    | .message now msg _ => if Carries "HeartBeatPacket" msg then now else latest
    | .datagram _ _ | .check _ => latest) start

def EndRequested (events : List SessionEvent) : Prop :=
  ∃ now msg publish, .message now msg publish ∈ events ∧ Carries "SessionEndRequestPacket" msg

-- A look at the deadline more than ten seconds after the last heartbeat before it.
def Overdue (start : ℚ) (events : List SessionEvent) : Prop :=
  ∃ before now after, events = before ++ .check now :: after ∧ lastBeat start before + HEARTBEAT_TIMEOUT_SEC < now

section Published

variable {Obj : Type} (order : ByteOrder) (serializers : Serializers Obj)

def config : SessionEvent → Option String
  | .message _ msg none => validConfiguration serializers msg
  | .message _ _ (some _) | .datagram _ _ | .check _ => none

def motionframe : SessionEvent → Option (List UInt16 × List UInt32)
  | .datagram data none => decodeMotionframePacketIntoArrays order data
  | .datagram _ (some _) | .message _ _ _ | .check _ => none

def metrics : SessionEvent → MetricsTracker
  | .message _ _ _ => ⟨1, 0, 0⟩
  | .datagram data none => ⟨0, 1, data.length / (packer order).calcsize⟩
  | .datagram _ (some _) | .check _ => 0

end Published

theorem last_beat_append (start : ℚ) (events : List SessionEvent) (event : SessionEvent) :
    lastBeat start (events ++ [event]) =
      match event with
      | .message now msg _ => if Carries "HeartBeatPacket" msg then now else lastBeat start events
      | .datagram _ _ | .check _ => lastBeat start events := by
  rw [lastBeat, List.foldl_append]
  rfl

theorem end_requested_append (events : List SessionEvent) (event : SessionEvent) :
    EndRequested (events ++ [event]) ↔
      EndRequested events ∨ ∃ now msg publish, event = .message now msg publish ∧ Carries "SessionEndRequestPacket" msg := by
  constructor
  · intro requested
    obtain ⟨now, msg, publish, inside, carries⟩ := requested
    rcases List.mem_append.mp inside with before | last
    · exact .inl ⟨now, msg, publish, before, carries⟩
    · exact .inr ⟨now, msg, publish, (List.mem_singleton.mp last).symm, carries⟩
  · intro either
    rcases either with ⟨now, msg, publish, before, carries⟩ | ⟨now, msg, publish, last, carries⟩
    · exact ⟨now, msg, publish, List.mem_append_left _ before, carries⟩
    · exact ⟨now, msg, publish, List.mem_append_right _ (List.mem_singleton.mpr last.symm), carries⟩

theorem overdue_append (start : ℚ) (events : List SessionEvent) (event : SessionEvent) :
    Overdue start (events ++ [event]) ↔
      Overdue start events ∨ ∃ now, event = .check now ∧ lastBeat start events + HEARTBEAT_TIMEOUT_SEC < now := by
  constructor
  · intro overdue
    obtain ⟨before, now, after, split, late⟩ := overdue
    rcases List.eq_nil_or_concat after with rfl | ⟨rest, last, rfl⟩
    · obtain ⟨rfl, only⟩ := List.append_inj' split rfl
      cases only
      exact .inr ⟨now, rfl, late⟩
    · rw [List.concat_eq_append, ← List.cons_append, ← List.append_assoc] at split
      obtain ⟨rfl, _⟩ := List.append_inj' split rfl
      exact .inl ⟨before, now, rest, rfl, late⟩
  · intro either
    rcases either with ⟨before, now, after, rfl, late⟩ | ⟨now, rfl, late⟩
    · exact ⟨before, now, after ++ [event], by simp, late⟩
    · exact ⟨events, now, [], rfl, late⟩

end SessionEvent

open SessionEvent

section Handled

variable {Obj : Type} (order : ByteOrder) (serializers : Serializers Obj)

-- What a message does to the runner, by its id on the wire.
structure Handled (shared after : SessionShared) (now : ℚ) (publish : Option String) (msg : List UInt8) : Prop where
  allStop : after.allStop = true ↔ shared.allStop = true ∨ Carries "SessionEndRequestPacket" msg
  heartbeatDeadline : after.heartbeatDeadline =
    if Carries "HeartBeatPacket" msg then now + HEARTBEAT_TIMEOUT_SEC else shared.heartbeatDeadline
  configs : after.configs = shared.configs ++ (config serializers (.message now msg publish)).toList
  motionframes : after.motionframes = shared.motionframes
  reports : after.reports = shared.reports
  metrics : after.metrics = shared.metrics + ⟨1, 0, 0⟩

theorem heart_beat_member : plainClass HeartBeatPacket ∈ sessionClasses serializers := by
  simp [sessionClasses, sessionPackets]

theorem session_end_member : plainClass SessionEndRequestPacket ∈ sessionClasses serializers := by
  simp [sessionClasses, sessionPackets]

theorem configuration_member : ConfigurationPacket serializers ∈ sessionClasses serializers := by
  simp [sessionClasses, sessionPackets]

-- Only a configuration can raise among the packets that the session acts on,
-- and then it is not a valid one.
theorem raised_ignored (msg : List UInt8) (raised : Raised) (failed : parse (sessionCodec serializers) msg = .error raised) :
    ¬ Carries "SessionEndRequestPacket" msg ∧ ¬ Carries "HeartBeatPacket" msg ∧
      validConfiguration serializers msg = none := by
  refine ⟨?_, ?_, ?_⟩
  · intro carries
    rw [carried_parsed serializers _ (session_end_member serializers) msg carries] at failed
    cases failed
  · intro carries
    rw [carried_parsed serializers _ (heart_beat_member serializers) msg carries] at failed
    cases failed
  · rw [validConfiguration]
    split
    · rename_i carries
      rw [carried_parsed serializers _ (configuration_member serializers) msg carries] at failed
      simp only [ConfigurationPacket, PacketClass.decode] at failed
      cases decoded : String.fromUTF8? ⟨(payloadData msg).toArray⟩ with
      | none => rfl
      | some text =>
          rw [decoded] at failed
          dsimp only at failed
          cases loaded : serializers.jsonLoads text with
          | ok obj =>
              rw [loaded] at failed
              cases failed
          | error _ => simp [Option.filter, loaded]
    · rfl

theorem configuration_handled (shared : SessionShared) (now : ℚ) (publish : Option String) (msg : List UInt8)
    (parsed : Parsed (List (Attribute Obj))) (returned : parse (sessionCodec serializers) msg = .ok parsed)
    (carries : Carries "ConfigurationPacket" msg) :
    handlePacket shared now publish parsed.packet =
      match validConfiguration serializers msg, publish with
      | some jsonStr, none => ({ shared with configs := shared.configs ++ [jsonStr] }, none)
      | some _, some exception => (shared, some (.publish exception))
      | none, _ => (shared, none) := by
  rw [validConfiguration, if_pos carries]
  rw [carried_parsed serializers _ (configuration_member serializers) msg carries] at returned
  simp only [ConfigurationPacket, PacketClass.decode] at returned
  cases decoded : String.fromUTF8? ⟨(payloadData msg).toArray⟩ with
  | none =>
      rw [decoded] at returned
      cases returned
      simp [handlePacket]
  | some text =>
      rw [decoded] at returned
      dsimp only at returned
      cases loaded : serializers.jsonLoads text with
      | ok obj =>
          rw [loaded] at returned
          cases returned
          cases publish with
          | none => simp [handlePacket, Option.filter, loaded]
          | some exception => simp [handlePacket, Option.filter, loaded]
      | error raised =>
          rw [loaded] at returned
          dsimp only at returned
          split at returned
          · cases returned
            simp [handlePacket, Option.filter, loaded]
          · cases returned

theorem handle_message (shared : SessionShared) (now : ℚ) (publish : Option String) (msg : List UInt8) :
    Handled serializers shared (handleMessage serializers shared now publish msg).1 now publish msg := by
  have unpublished (noConfig : validConfiguration serializers msg = none) :
      config serializers (.message now msg publish) = none := by
    cases publish with
    | none => exact noConfig
    | some exception => rfl
  cases returned : parse (sessionCodec serializers) msg with
  | error raised =>
      obtain ⟨noEnd, noBeat, noConfig⟩ := raised_ignored serializers msg raised returned
      simp only [handleMessage, returned]
      constructor <;> simp [noEnd, noBeat, unpublished noConfig]
  | ok parsed =>
      have config := parsed_name serializers msg parsed returned _ (configuration_member serializers)
      have ending := parsed_name serializers msg parsed returned _ (session_end_member serializers)
      have beat := parsed_name serializers msg parsed returned _ (heart_beat_member serializers)
      change parsed.packet.className = "ConfigurationPacket" ↔ Carries "ConfigurationPacket" msg at config
      change parsed.packet.className = "SessionEndRequestPacket" ↔ Carries "SessionEndRequestPacket" msg at ending
      change parsed.packet.className = "HeartBeatPacket" ↔ Carries "HeartBeatPacket" msg at beat
      simp only [handleMessage, returned]
      by_cases isConfig : Carries "ConfigurationPacket" msg
      · have named := config.mpr isConfig
        rw [configuration_handled serializers _ now publish msg parsed returned isConfig]
        cases valid : validConfiguration serializers msg with
        | none => constructor <;> simp [← ending, ← beat, named, unpublished valid]
        | some jsonStr =>
            cases publish with
            | none => constructor <;> simp [← ending, ← beat, named, SessionEvent.config, valid]
            | some exception => constructor <;> simp [← ending, ← beat, named, SessionEvent.config]
      · have noConfig := unpublished (if_neg isConfig)
        rw [handlePacket, if_neg (config.not.mpr isConfig)]
        by_cases isEnd : Carries "SessionEndRequestPacket" msg
        · rw [if_pos (ending.mpr isEnd)]
          constructor <;> simp [noConfig, isEnd, ← beat, ending.mpr isEnd]
        · rw [if_neg (ending.not.mpr isEnd)]
          by_cases isBeat : Carries "HeartBeatPacket" msg
          · rw [if_pos (beat.mpr isBeat)]
            constructor <;> simp [noConfig, isEnd, isBeat]
          · rw [if_neg (beat.not.mpr isBeat)]
            constructor <;> simp [noConfig, isEnd, isBeat]

theorem forward_motionframe (shared : SessionShared) (publish : Option String) (data : List UInt8) :
    ∃ ids values, decodeMotionframePacketIntoArrays order data = some (ids, values) ∧
      forwardMotionframe order shared publish data =
        ({ shared with
            motionframes := shared.motionframes ++ (motionframe order (.datagram data publish)).toList
            metrics := shared.metrics + metrics order (.datagram data publish) }, publish.map SessionRaised.publish) := by
  obtain ⟨records, count, _, _, decoded⟩ := decoders_agree order data
  refine ⟨_, _, decoded, ?_⟩
  cases publish with
  | none => simp [forwardMotionframe, decoded, motionframe, metrics, count]
  | some exception => simp [forwardMotionframe, decoded, motionframe, metrics]

end Handled

namespace SessionRun

@[simp] theorem fail_shared (run : SessionRun) (raised : SessionRaised) : (run.fail raised).shared = run.shared := rfl
@[simp] theorem fail_events (run : SessionRun) (raised : SessionRaised) : (run.fail raised).events = run.events := rfl

@[simp] theorem logged_shared (run : SessionRun) (shared : SessionShared) (event : SessionEvent) :
    (run.logged shared event).shared = shared := rfl
@[simp] theorem logged_events (run : SessionRun) (shared : SessionShared) (event : SessionEvent) :
    (run.logged shared event).events = run.events ++ [event] := rfl

@[simp] theorem controller_loop_shared (run : SessionRun) (next : ℚ) : (run.controllerLoop next).shared = run.shared := rfl
@[simp] theorem controller_loop_events (run : SessionRun) (next : ℚ) : (run.controllerLoop next).events = run.events := rfl

@[simp] theorem handler_loop_shared (run : SessionRun) : run.handlerLoop.shared = run.shared := rfl
@[simp] theorem handler_loop_events (run : SessionRun) : run.handlerLoop.events = run.events := rfl

-- The event that the forwarder sets on its way out is set.
@[simp] theorem forwarder_loop_shared (run : SessionRun) : run.forwarderLoop.shared = run.shared := by
  rw [forwarderLoop]
  split
  · rename_i stopped
    simp [← stopped]
  · rfl

@[simp] theorem forwarder_loop_events (run : SessionRun) : run.forwarderLoop.events = run.events := by
  rw [forwarderLoop]
  split <;> rfl

-- What a step of the session publishes of motionframes.
def published (order : ByteOrder) : TaskAction → List (List UInt16 × List UInt32)
  | .forwarderReceives (.ok data) publish => if data = [] then [] else (motionframe order (.datagram data publish)).toList
  | _ => []

section Effects

variable {Obj : Type} (order : ByteOrder) (serializers : Serializers Obj)

-- What one step does to the runner.
inductive Effect (run target : SessionRun) : Prop where
  | quiet (shared : target.shared = run.shared) (events : target.events = run.events)
  | message (now : ℚ) (msg : List UInt8) (publish : Option String)
      (shared : target.shared = (handleMessage serializers run.shared now publish msg).1)
      (events : target.events = run.events ++ [.message now msg publish])
  | datagram (data : List UInt8) (publish : Option String)
      (shared : target.shared = (forwardMotionframe order run.shared publish data).1)
      (events : target.events = run.events ++ [.datagram data publish])
  | check (now : ℚ) (shared : target.shared = checkHeartbeat (reportMetrics run.shared) now)
      (events : target.events = run.events ++ [.check now])

theorem controller_wakes_effect (run : SessionRun) (lastTime woken checked next : ℚ) :
    Effect order serializers run (run.controllerWakes lastTime woken checked next) := by
  rw [controllerWakes]
  split
  · exact .quiet rfl rfl
  · exact .check checked rfl rfl

theorem handler_receives_effect (run : SessionRun) (now : ℚ) (publish : Option String)
    (received : Except String (List UInt8)) :
    Effect order serializers run (run.handlerReceives serializers now publish received) := by
  cases received with
  | error exception => exact .quiet rfl rfl
  | ok msg =>
      rw [handlerReceives]
      split
      · exact .quiet rfl rfl
      · cases (handleMessage serializers run.shared now publish msg).2 with
        | none =>
            exact .message now msg publish (by simp only [handler_loop_shared, logged_shared])
              (by simp only [handler_loop_events, logged_events])
        | some raised =>
            exact .message now msg publish (by simp only [fail_shared, logged_shared])
              (by simp only [fail_events, logged_events])

theorem forwarder_receives_effect (run : SessionRun) (publish : Option String) (received : Except String (List UInt8)) :
    Effect order serializers run (run.forwarderReceives order publish received) := by
  cases received with
  | error exception => exact .quiet (forwarder_loop_shared run) (forwarder_loop_events run)
  | ok data =>
      rw [forwarderReceives]
      split
      · exact .quiet (forwarder_loop_shared run) (forwarder_loop_events run)
      · cases (forwardMotionframe order run.shared publish data).2 with
        | none =>
            exact .datagram data publish (by simp only [forwarder_loop_shared, logged_shared])
              (by simp only [forwarder_loop_events, logged_events])
        | some raised =>
            exact .datagram data publish (by simp only [fail_shared, logged_shared])
              (by simp only [fail_events, logged_events])

theorem main_resumes_effect (run target : SessionRun) (resumed : run.mainResumes = some target) :
    Effect order serializers run target := by
  rw [mainResumes] at resumed
  split at resumed
  · cases resumed
    exact .quiet rfl rfl
  · split at resumed
    · cases resumed
      exact .quiet rfl rfl
    · cases resumed

theorem step_effect (run target : SessionRun) (action : TaskAction)
    (moved : run.step order serializers action = some target) : Effect order serializers run target := by
  cases outcome : run.outcome with
  | some result =>
      simp only [step, outcome] at moved
      cases moved
  | none =>
      cases action with
      | controllerStarts lastTime =>
          simp only [step, outcome, Option.ite_none_right_eq_some, Option.some.injEq] at moved
          obtain ⟨_, rfl⟩ := moved
          exact .quiet rfl rfl
      | controllerWakes woken checked next =>
          simp only [step, outcome] at moved
          split at moved
          · cases moved
            exact controller_wakes_effect order serializers run _ woken checked next
          · cases moved
      | handlerStarts =>
          simp only [step, outcome, Option.ite_none_right_eq_some, Option.some.injEq] at moved
          obtain ⟨_, rfl⟩ := moved
          exact .quiet rfl rfl
      | handlerReceives received now publish =>
          simp only [step, outcome, Option.ite_none_right_eq_some, Option.some.injEq] at moved
          obtain ⟨_, rfl⟩ := moved
          exact handler_receives_effect order serializers run now publish received
      | forwarderStarts =>
          simp only [step, outcome, Option.ite_none_right_eq_some, Option.some.injEq] at moved
          obtain ⟨_, rfl⟩ := moved
          exact .quiet (forwarder_loop_shared run) (forwarder_loop_events run)
      | forwarderReceives received publish =>
          simp only [step, outcome, Option.ite_none_right_eq_some, Option.some.injEq] at moved
          obtain ⟨_, rfl⟩ := moved
          exact forwarder_receives_effect order serializers run publish received
      | mainResumes =>
          simp only [step, outcome] at moved
          exact main_resumes_effect order serializers run target moved

theorem forwarder_receives_published (run : SessionRun) (publish : Option String) (received : Except String (List UInt8)) :
    (run.forwarderReceives order publish received).shared.motionframes =
      run.shared.motionframes ++ published order (.forwarderReceives received publish) := by
  cases received with
  | error exception => simp [forwarderReceives, published]
  | ok data =>
      rw [forwarderReceives, published]
      split
      · simp
      · obtain ⟨ids, values, _, forwarded⟩ := forward_motionframe order run.shared publish data
        cases publish with
        | none => simp [forwarded]
        | some exception => simp [forwarded]

theorem handler_receives_published (run : SessionRun) (publish : Option String) (received : Except String (List UInt8))
    (now : ℚ) : (run.handlerReceives serializers now publish received).shared.motionframes = run.shared.motionframes := by
  cases received with
  | error exception => rfl
  | ok msg =>
      have handled := (handle_message serializers run.shared now publish msg).motionframes
      rw [handlerReceives]
      split
      · rfl
      · cases (handleMessage serializers run.shared now publish msg).2 with
        | none => simpa using handled
        | some raised => simpa using handled

theorem controller_wakes_published (run : SessionRun) (lastTime woken checked next : ℚ) :
    (run.controllerWakes lastTime woken checked next).shared.motionframes = run.shared.motionframes := by
  rw [controllerWakes]
  split
  · rfl
  · by_cases late : run.shared.heartbeatDeadline < checked
    · simp [checkHeartbeat, reportMetrics, late]
    · simp [checkHeartbeat, reportMetrics, late]

theorem step_published (run target : SessionRun) (action : TaskAction)
    (moved : run.step order serializers action = some target) :
    target.shared.motionframes = run.shared.motionframes ++ published order action := by
  cases outcome : run.outcome with
  | some result =>
      simp only [step, outcome] at moved
      cases moved
  | none =>
      cases action with
      | controllerStarts lastTime =>
          simp only [step, outcome, Option.ite_none_right_eq_some, Option.some.injEq] at moved
          rw [← moved.2]
          simp [published]
      | controllerWakes woken checked next =>
          simp only [step, outcome] at moved
          split at moved
          · cases moved
            simp [published, controller_wakes_published]
          · cases moved
      | handlerStarts =>
          simp only [step, outcome, Option.ite_none_right_eq_some, Option.some.injEq] at moved
          rw [← moved.2]
          simp [published]
      | handlerReceives received now publish =>
          simp only [step, outcome, Option.ite_none_right_eq_some, Option.some.injEq] at moved
          rw [← moved.2, handler_receives_published]
          simp [published]
      | forwarderStarts =>
          simp only [step, outcome, Option.ite_none_right_eq_some, Option.some.injEq] at moved
          rw [← moved.2]
          simp [published]
      | forwarderReceives received publish =>
          simp only [step, outcome, Option.ite_none_right_eq_some, Option.some.injEq] at moved
          rw [← moved.2]
          exact forwarder_receives_published order run publish received
      | mainResumes =>
          simp only [step, outcome, mainResumes] at moved
          split at moved
          · cases moved
            simp [published]
          · simp only [Option.ite_none_right_eq_some, Option.some.injEq] at moved
            rw [← moved.2]
            simp [published]

-- The runner's data as a function of what was received and looked at.
structure Followed (start : ℚ) (metrics : MetricsTracker) (run : SessionRun) : Prop where
  deadline : run.shared.heartbeatDeadline = lastBeat start run.events + HEARTBEAT_TIMEOUT_SEC
  stopped : run.shared.allStop = true ↔ EndRequested run.events ∨ Overdue start run.events
  configs : run.shared.configs = run.events.filterMap (config serializers)
  motionframes : run.shared.motionframes = run.events.filterMap (motionframe order)
  totals : run.shared.reports.sum + run.shared.metrics = metrics + (run.events.map (SessionEvent.metrics order)).sum

theorem init_followed (start : ℚ) (metrics : MetricsTracker) :
    Followed order serializers start metrics (init start metrics) := by
  refine ⟨rfl, ?_, rfl, rfl, by simp [init]⟩
  apply iff_of_false
  · simp [init]
  · intro cause
    rcases cause with ⟨now, msg, publish, inside, _⟩ | ⟨before, now, after, split, _⟩
    · cases inside
    · cases before with
      | nil => cases split
      | cons first rest => cases split

theorem message_followed (start : ℚ) (metrics : MetricsTracker) (run target : SessionRun) (now : ℚ)
    (publish : Option String) (msg : List UInt8) (followed : Followed order serializers start metrics run)
    (shared : target.shared = (handleMessage serializers run.shared now publish msg).1)
    (events : target.events = run.events ++ [.message now msg publish]) :
    Followed order serializers start metrics target := by
  have handled := handle_message serializers run.shared now publish msg
  rw [← shared] at handled
  constructor
  · rw [handled.heartbeatDeadline, events, last_beat_append, followed.deadline]
    by_cases beat : Carries "HeartBeatPacket" msg
    · rw [if_pos beat]
      simp only [if_pos beat]
    · rw [if_neg beat]
      simp only [if_neg beat]
  · rw [handled.allStop, followed.stopped, events, end_requested_append, overdue_append]
    simp [or_right_comm]
  · rw [handled.configs, followed.configs, events, List.filterMap_append]
    cases valid : config serializers (.message now msg publish) <;> simp [valid]
  · rw [handled.motionframes, followed.motionframes, events, List.filterMap_append]
    simp [motionframe]
  · rw [handled.reports, handled.metrics, events, List.map_append, List.sum_append, ← add_assoc metrics,
      ← followed.totals, add_assoc]
    rfl

theorem datagram_followed (start : ℚ) (metrics : MetricsTracker) (run target : SessionRun) (publish : Option String)
    (data : List UInt8) (followed : Followed order serializers start metrics run)
    (shared : target.shared = (forwardMotionframe order run.shared publish data).1)
    (events : target.events = run.events ++ [.datagram data publish]) :
    Followed order serializers start metrics target := by
  obtain ⟨ids, values, _, forwarded⟩ := forward_motionframe order run.shared publish data
  rw [forwarded] at shared
  constructor
  · rw [shared, events, last_beat_append]
    exact followed.deadline
  · rw [shared, events, end_requested_append, overdue_append]
    simpa using followed.stopped
  · rw [shared, events, List.filterMap_append, ← followed.configs]
    simp [config]
  · rw [shared, events, List.filterMap_append, ← followed.motionframes]
    cases decoded : motionframe order (.datagram data publish) <;> simp [decoded]
  · rw [shared, events, List.map_append, List.sum_append, ← add_assoc metrics, ← followed.totals, add_assoc]
    rfl

theorem check_followed (start : ℚ) (metrics : MetricsTracker) (run target : SessionRun) (now : ℚ)
    (followed : Followed order serializers start metrics run)
    (shared : target.shared = checkHeartbeat (reportMetrics run.shared) now)
    (events : target.events = run.events ++ [.check now]) :
    Followed order serializers start metrics target := by
  have late : (reportMetrics run.shared).heartbeatDeadline < now ↔
      lastBeat start run.events + HEARTBEAT_TIMEOUT_SEC < now := by rw [← followed.deadline, reportMetrics]
  constructor
  · rw [shared, events, last_beat_append, ← followed.deadline, checkHeartbeat]
    split <;> rfl
  · rw [shared, events, end_requested_append, overdue_append, checkHeartbeat]
    split
    · rename_i passed
      simp [late.mp passed]
    · rename_i inTime
      simpa [late.not.mp inTime, reportMetrics] using followed.stopped
  · rw [shared, events, List.filterMap_append, ← followed.configs, checkHeartbeat]
    split <;> simp [config, reportMetrics]
  · rw [shared, events, List.filterMap_append, ← followed.motionframes, checkHeartbeat]
    split <;> simp [motionframe, reportMetrics]
  · rw [events, List.map_append, List.sum_append, ← add_assoc, ← followed.totals, shared, checkHeartbeat]
    split <;> simp [SessionEvent.metrics, reportMetrics, MetricsTracker.reset]

theorem step_followed (start : ℚ) (metrics : MetricsTracker) (run target : SessionRun) (action : TaskAction)
    (followed : Followed order serializers start metrics run)
    (moved : run.step order serializers action = some target) : Followed order serializers start metrics target := by
  cases step_effect order serializers run target action moved with
  | quiet shared events =>
      constructor
      · rw [shared, events, followed.deadline]
      · rw [shared, events, followed.stopped]
      · rw [shared, events, followed.configs]
      · rw [shared, events, followed.motionframes]
      · rw [shared, events, followed.totals]
  | message now msg publish shared events =>
      exact message_followed order serializers start metrics run target now publish msg followed shared events
  | datagram data publish shared events =>
      exact datagram_followed order serializers start metrics run target publish data followed shared events
  | check now shared events =>
      exact check_followed order serializers start metrics run target now followed shared events

theorem run_followed (start : ℚ) (metrics : MetricsTracker) (run : SessionRun)
    (runs : Runs (session order serializers) anyAction (init start metrics) run) :
    Followed order serializers start metrics run := by
  apply runs_invariant (session order serializers) anyAction _ _ (init start metrics) run runs
    (init_followed order serializers start metrics)
  intro source action target followed _ moved
  exact step_followed order serializers start metrics source target action followed moved

-- What was published is what was received, in its order, and every message,
-- datagram and command is in one report or still to be reported.
theorem session_forwards_received (start : ℚ) (metrics : MetricsTracker) (run : SessionRun)
    (runs : Runs (session order serializers) anyAction (init start metrics) run) :
    run.shared.configs = run.events.filterMap (config serializers) ∧
      run.shared.motionframes = run.events.filterMap (motionframe order) ∧
      run.shared.reports.sum + run.shared.metrics = metrics + (run.events.map (SessionEvent.metrics order)).sum := by
  have followed := run_followed order serializers start metrics run runs
  exact ⟨followed.configs, followed.motionframes, followed.totals⟩

end Effects

-- The controller looks at the deadline after eleven seconds without a heartbeat.
def silentRun : SessionRun := ((init 0 .reset).controllerLoop 0).controllerWakes 0 1 11 12

theorem silent_run : Runs (session .little noObjects) anyAction (init 0 .reset) silentRun :=
  (Relation.ReflTransGen.single ⟨.controllerStarts 0, trivial, rfl⟩).tail ⟨.controllerWakes 1 11 12, trivial, rfl⟩

-- Two datagrams with a receive that raises between them, and one whose publish
-- raises.
def forwardingActions : List TaskAction :=
  [.forwarderStarts, .forwarderReceives (.ok [3, 0, 0, 0, 0, 0, 0x80, 0x3f]) none, .forwarderReceives (.error "arecv") none,
    .forwarderReceives (.ok [5, 0, 0, 0, 0, 0, 0, 0x40]) none,
    .forwarderReceives (.ok [3, 0, 0, 0, 0, 0, 0x80, 0x3f]) (some "RCLError")]

def forwardingRun : SessionRun :=
  ((((init 0 .reset).forwarderLoop.forwarderReceives .little none (.ok [3, 0, 0, 0, 0, 0, 0x80, 0x3f])).forwarderReceives
    .little none (.error "arecv")).forwarderReceives .little none (.ok [5, 0, 0, 0, 0, 0, 0, 0x40])).forwarderReceives
      .little (some "RCLError") (.ok [3, 0, 0, 0, 0, 0, 0x80, 0x3f])

theorem forwarding_run : Runs (session .little noObjects) anyAction (init 0 .reset) forwardingRun :=
  replay_runs _ anyAction forwardingActions _ forwardingRun (by with_unfolding_all rfl)

theorem session_forwards_received_refused :
    forwardingRun.shared.motionframes = [([3], [0x3f800000]), ([5], [0x40000000])] ∧
      forwardingRun.shared.reports.sum + forwardingRun.shared.metrics = ⟨0, 2, 2⟩ := by
  obtain ⟨_, motionframes, totals⟩ := session_forwards_received .little noObjects 0 .reset forwardingRun forwarding_run
  rw [motionframes, totals]
  decide +kernel

end SessionRun

end Animacharacter.SessionMng
