import Animacharacter.Library.Simulation
import Animacharacter.Library.FailureDetector
import Animacharacter.SessionMng.SessionEnds

set_option autoImplicit false

namespace Animacharacter.SessionMng

open StepSystem Struct Packetcodec PacketDecoder Commons SessionEvent FailureDetector

-- How long a client takes from the session's start to the start of its heartbeat
-- thread (the answer of the request and two dials), how long its heartbeats may be
-- apart and on their way, and how far apart the controller's looks at the deadline
-- are.
structure ClientTiming where
  setup : ℚ
  gap : ℚ
  latency : ℚ
  period : ℚ
  setup_nonneg : 0 ≤ setup
  gap_nonneg : 0 ≤ gap
  latency_nonneg : 0 ≤ latency
  period_nonneg : 0 ≤ period

def ClientTiming.timing (client : ClientTiming) : Timing ℚ where
  gap := client.setup + client.gap
  latency := client.latency
  window := HEARTBEAT_TIMEOUT_SEC
  period := client.period
  gap_nonneg := add_nonneg client.setup_nonneg client.gap_nonneg
  latency_nonneg := client.latency_nonneg
  window_nonneg := by decide +kernel
  period_nonneg := client.period_nonneg

-- The seconds that the client's heartbeat thread sleeps.
def HEARTBEAT_SLEEP_SEC : ℚ := 5

-- A session with its client, on one clock: since when the heartbeat thread sleeps,
-- once it runs, the heartbeats that are on their way, by when they were sent, and
-- when the deadline was last looked at. `lastSent` begins with the session's start.
structure LiveSession where
  run : SessionRun
  clock : ℚ
  clientAlive : Bool
  asleepSince : Option ℚ
  lastSent : ℚ
  inFlight : List ℚ
  lastCheck : ℚ

inductive LiveAction where
  | wait (until_ : ℚ)
  | heartbeatThreadStarts
  | sendHeartbeat
  | clientDies
  | heartbeatArrives (index : Nat) (nonce : List UInt8)
  | task (action : TaskAction)

namespace LiveSession

-- The packet as HeartBeatPacket.encode makes it.
def heartbeat (nonce : List UInt8) : List UInt8 := HeartBeatPacket.header ++ nonce

-- The tasks read the clock, and heartbeats come from the client only.
def ReadsClock (clock : ℚ) : TaskAction → Prop
  | .controllerStarts lastTime => lastTime = clock
  | .controllerWakes woken checked lastTime => woken = clock ∧ checked = clock ∧ lastTime = clock
  | .handlerReceives received now _ => now = clock ∧ ∀ msg, received = .ok msg → ¬ Carries "HeartBeatPacket" msg
  | .handlerStarts | .forwarderStarts | .forwarderReceives _ _ | .mainResumes => True

instance (clock : ℚ) : (action : TaskAction) → Decidable (ReadsClock clock action)
  | .controllerStarts _ => inferInstanceAs (Decidable (_ = _))
  | .controllerWakes _ _ _ => inferInstanceAs (Decidable (_ ∧ _ ∧ _))
  | .handlerReceives (.ok msg) now _ =>
      decidable_of_iff (now = clock ∧ ¬ Carries "HeartBeatPacket" msg) (by simp [ReadsClock])
  | .handlerReceives (.error _) now _ => decidable_of_iff (now = clock) (by simp [ReadsClock])
  | .handlerStarts | .forwarderStarts | .forwarderReceives _ _ | .mainResumes => inferInstanceAs (Decidable True)

-- When a client that is alive has started its thread, or sent its next heartbeat.
def nextBeat (client : ClientTiming) (live : LiveSession) : ℚ :=
  match live.asleepSince with
  | none => live.lastSent + client.setup
  | some since => since + client.gap

-- Time passes while the client beats in time, arrived heartbeats are received and
-- the deadline is looked at; a task that is over does neither.
def MayWait (client : ClientTiming) (live : LiveSession) (until_ : ℚ) : Prop :=
  live.clock ≤ until_ ∧ (live.clientAlive = true → until_ ≤ live.nextBeat client) ∧
    (¬ live.run.packetHandler.IsOver → ∀ sent ∈ live.inFlight, until_ ≤ sent + client.latency) ∧
    (¬ live.run.controller.IsOver → until_ ≤ live.lastCheck + client.period)

instance (client : ClientTiming) (live : LiveSession) (until_ : ℚ) : Decidable (live.MayWait client until_) :=
  inferInstanceAs (Decidable (_ ∧ _ ∧ _ ∧ _))

def looks : TaskAction → Bool
  | .controllerWakes _ _ _ => true
  | _ => false

section Steps

variable {Obj : Type} (order : ByteOrder) (serializers : Serializers Obj) (client : ClientTiming)

def runs (live : LiveSession) (action : TaskAction) : Option LiveSession :=
  (live.run.step order serializers action).map fun run => { live with run := run }

def step (live : LiveSession) : LiveAction → Option LiveSession
  | .wait until_ => if live.MayWait client until_ then some { live with clock := until_ } else none
  | .heartbeatThreadStarts =>
      if live.clientAlive = true ∧ live.asleepSince = none then some { live with asleepSince := some live.clock } else none
  | .sendHeartbeat =>
      match live.asleepSince with
      | none => none
      | some since =>
          if live.clientAlive = true ∧ since + HEARTBEAT_SLEEP_SEC ≤ live.clock then
            some { live with
              asleepSince := some live.clock
              lastSent := live.clock
              inFlight := live.inFlight ++ [live.clock] }
          else none
  | .clientDies => some { live with clientAlive := false }
  | .heartbeatArrives index nonce =>
      if index < live.inFlight.length then
        { live with inFlight := live.inFlight.eraseIdx index }.runs order serializers
          (.handlerReceives (.ok (heartbeat nonce)) live.clock none)
      else none
  | .task action =>
      if ReadsClock live.clock action then
        { live with lastCheck := if looks action then live.clock else live.lastCheck }.runs order serializers action
      else none

def init (now : ℚ) (metrics : MetricsTracker) : LiveSession := ⟨.init now metrics, now, true, none, now, [], now⟩

end Steps

end LiveSession

def liveSession {Obj : Type} (order : ByteOrder) (serializers : Serializers Obj) (client : ClientTiming) :
    System LiveSession LiveAction where
  start live := ∃ now metrics, live = .init now metrics
  step := LiveSession.step order serializers client

namespace LiveSession

open SessionRun

variable {Obj : Type} (order : ByteOrder) (serializers : Serializers Obj) (client : ClientTiming)

theorem heartbeat_carries (nonce : List UInt8) : Carries "HeartBeatPacket" (heartbeat nonce) := by
  rw [Carries, packTypeid, heartbeat, List.take_left' HeartBeatPacket.header_length]
  exact BigEndian.from_to_bytes _ _ HeartBeatPacket.typeid_bound

-- The session is over: its client asked for it, a task raised, or it was stopped
-- and its client is dead, or beats too rarely.
def Over (live : LiveSession) : Prop :=
  EndRequested live.run.events ∨ live.run.failed ≠ none ∨
    (client.setup + client.gap + client.latency ≤ HEARTBEAT_TIMEOUT_SEC → live.clientAlive = false) ∧ live.run.shared.allStop = true

structure Beating (live : LiveSession) : Prop where
  punctual : live.clientAlive = true → live.clock ≤ live.nextBeat client
  started : ∀ since ∈ live.asleepSince, since ≤ live.lastSent + client.setup

theorem next_beat_late (live : LiveSession) (beating : Beating client live) :
    live.nextBeat client ≤ live.lastSent + (client.setup + client.gap) := by
  rw [nextBeat, ← add_assoc]
  cases asleep : live.asleepSince with
  | none => exact le_add_of_nonneg_right client.gap_nonneg
  | some since => exact add_le_add_left (beating.started since asleep) client.gap

-- Until then it is the detector, with the deadline of the session.
structure Matches (live : LiveSession) (state : Detector ℚ) : Prop where
  detector : state = ⟨live.clock, live.clientAlive, live.lastSent, live.inFlight, live.run.shared.heartbeatDeadline,
    live.lastCheck, false⟩
  goesOn : live.run.shared.allStop = false
  requested : ¬ EndRequested live.run.events
  failed : live.run.failed = none
  gathering : Gathering serializers live.run
  beating : Beating client live
  reached : Reached (FailureDetector.detector client.timing) anyAction state

theorem matches_unfinished (live : LiveSession) (state : Detector ℚ) (same : Matches serializers client live state) :
    live.run.outcome = none ∧ ¬ live.run.controller.IsOver ∧ ¬ live.run.packetHandler.IsOver := by
  have gathering := same.gathering
  have goesOn : live.run.outcome = none := by
    cases outcome : live.run.outcome with
    | none => rfl
    | some result =>
        cases result with
        | ok done =>
            have stopped := gathering.stopped (.inl (gathering.returned outcome).2.1)
            cases stopped.symm.trans same.goesOn
        | error raised => cases same.failed.symm.trans (gathering.crashed raised outcome).1
  obtain ⟨noController, noHandler, _⟩ := gathering.uncancelled goesOn
  have unraised := fun one => gathering.raised one same.failed
  have unreturned := fun one => Bool.false_ne_true (same.goesOn.symm.trans (gathering.stopped one))
  refine ⟨goesOn, ?_, ?_⟩
  · intro isOver
    cases controller : live.run.controller with
    | created => exact absurd isOver (by rw [controller]; exact id)
    | awaiting locals => exact absurd isOver (by rw [controller]; exact id)
    | returned => exact unreturned (.inl controller)
    | raised => exact unraised (.inl controller)
    | cancelled => exact noController controller
  · intro isOver
    cases handler : live.run.packetHandler with
    | created => exact absurd isOver (by rw [handler]; exact id)
    | awaiting locals => exact absurd isOver (by rw [handler]; exact id)
    | returned => exact unreturned (.inr (.inl handler))
    | raised => exact unraised (.inr (.inl handler))
    | cancelled => exact noHandler handler

-- What a step leaves is over, or the detector's next state.
theorem settles (live : LiveSession) (state : Detector ℚ) (gathering : Gathering serializers live.run)
    (beating : Beating client live)
    (detector : state = ⟨live.clock, live.clientAlive, live.lastSent, live.inFlight, live.run.shared.heartbeatDeadline,
      live.lastCheck, false⟩)
    (stops : live.run.shared.allStop = true → EndRequested live.run.events ∨
      (client.setup + client.gap + client.latency ≤ HEARTBEAT_TIMEOUT_SEC → live.clientAlive = false))
    (reached : Reached (FailureDetector.detector client.timing) anyAction state) :
    Over client live ∨ Matches serializers client live state := by
  by_cases failed : live.run.failed = none
  · by_cases requested : EndRequested live.run.events
    · exact .inl (.inl requested)
    · cases stopped : live.run.shared.allStop with
      | false => exact .inr ⟨detector, stopped, requested, failed, gathering, beating, reached⟩
      | true => exact .inl (.inr (.inr ⟨(stops stopped).resolve_left requested, stopped⟩))
  · exact .inl (.inr (.inl failed))

theorem end_requested_later (run target : SessionRun) (effect : Effect order serializers run target)
    (requested : EndRequested run.events) : EndRequested target.events := by
  cases effect with
  | quiet shared events => rwa [events]
  | message now msg publish shared events =>
      rw [events]
      exact (end_requested_append run.events _).mpr (.inl requested)
  | datagram data publish shared events =>
      rw [events]
      exact (end_requested_append run.events _).mpr (.inl requested)
  | check now shared events =>
      rw [events]
      exact (end_requested_append run.events _).mpr (.inl requested)

theorem step_stays_failed (run target : SessionRun) (action : TaskAction) (failed : run.failed ≠ none)
    (moved : run.step order serializers action = some target) : target.failed ≠ none := by
  obtain ⟨_, move⟩ := step_move order serializers run target action moved
  cases move with
  | controller open_ advance handler forwarder outcome events => exact advance_failed serializers run target _ advance failed
  | handler open_ advance controller forwarder outcome events => exact advance_failed serializers run target _ advance failed
  | forwarder open_ advance controller handler outcome events => exact advance_failed serializers run target _ advance failed
  | main resumed =>
      rw [mainResumes] at resumed
      split at resumed
      · cases resumed
        exact failed
      · simp_all

-- A heartbeat is sent five seconds after the one before, or after the thread's start.
theorem heartbeat_sent (live target : LiveSession) (moved : live.step order serializers client .sendHeartbeat = some target) :
    ∃ since, live.asleepSince = some since ∧ live.clientAlive = true ∧ since + HEARTBEAT_SLEEP_SEC ≤ live.clock ∧
      target = { live with
        asleepSince := some live.clock, lastSent := live.clock, inFlight := live.inFlight ++ [live.clock] } := by
  simp only [step] at moved
  split at moved
  · cases moved
  · rename_i since asleep
    simp only [Option.ite_none_right_eq_some, Option.some.injEq] at moved
    exact ⟨since, asleep, moved.1.1, moved.1.2, moved.2.symm⟩

theorem runs_over (live target : LiveSession) (action : TaskAction) (isOver : Over client live)
    (moved : live.runs order serializers action = some target) : Over client target := by
  rw [runs, Option.map_eq_some_iff] at moved
  obtain ⟨run, moved, rfl⟩ := moved
  rcases isOver with requested | failed | ⟨dead, stopped⟩
  · exact .inl (end_requested_later order serializers live.run run (step_effect order serializers _ _ action moved) requested)
  · exact .inr (.inl (step_stays_failed order serializers live.run run action failed moved))
  · exact .inr (.inr ⟨dead, step_stays_stopped order serializers live.run run action stopped moved⟩)

theorem step_over (live target : LiveSession) (action : LiveAction) (isOver : Over client live)
    (moved : live.step order serializers client action = some target) : Over client target := by
  cases action with
  | wait until_ =>
      simp only [step, Option.ite_none_right_eq_some, Option.some.injEq] at moved
      obtain ⟨_, rfl⟩ := moved
      exact isOver
  | heartbeatThreadStarts =>
      simp only [step, Option.ite_none_right_eq_some, Option.some.injEq] at moved
      obtain ⟨_, rfl⟩ := moved
      exact isOver
  | sendHeartbeat =>
      obtain ⟨since, _, _, _, rfl⟩ := heartbeat_sent order serializers client live target moved
      exact isOver
  | clientDies =>
      cases moved
      rcases isOver with requested | failed | ⟨_, stopped⟩
      · exact .inl requested
      · exact .inr (.inl failed)
      · exact .inr (.inr ⟨fun _ => rfl, stopped⟩)
  | heartbeatArrives index nonce =>
      simp only [step, Option.ite_none_right_eq_some] at moved
      refine runs_over order serializers client _ target _ ?_ moved.2
      exact isOver
  | task action =>
      simp only [step, Option.ite_none_right_eq_some] at moved
      refine runs_over order serializers client _ target _ ?_ moved.2
      exact isOver

theorem carries_one (msg : List UInt8) (name other : String) (carries : Carries name msg) (distinct : name ≠ other)
    (named : name ∈ (sessionClasses serializers).map PacketClass.name)
    (listed : other ∈ (sessionClasses serializers).map PacketClass.name) : ¬ Carries other msg :=
  fun also => distinct (session_ids_names serializers name other named listed (carries.symm.trans also))

theorem handler_receives_message (run : SessionRun) (now : ℚ) (publish : Option String) (msg : List UInt8)
    (nonempty : msg ≠ []) :
    (run.handlerReceives serializers now publish (.ok msg)).shared =
        (handleMessage serializers run.shared now publish msg).1 ∧
      (run.handlerReceives serializers now publish (.ok msg)).events = run.events ++ [.message now msg publish] := by
  rw [handlerReceives, if_neg nonempty]
  cases (handleMessage serializers run.shared now publish msg).2 with
  | none => exact ⟨by simp only [handler_loop_shared, logged_shared], by simp only [handler_loop_events, logged_events]⟩
  | some raised => exact ⟨by simp only [fail_shared, logged_shared], by simp only [fail_events, logged_events]⟩

theorem forwarder_receives_keeps (run : SessionRun) (publish : Option String) (received : Except String (List UInt8)) :
    (run.forwarderReceives order publish received).shared.allStop = run.shared.allStop ∧
      (run.forwarderReceives order publish received).shared.heartbeatDeadline = run.shared.heartbeatDeadline := by
  cases received with
  | error exception => simp only [forwarderReceives, forwarder_loop_shared, and_self]
  | ok data =>
      obtain ⟨ids, values, _, forwarded⟩ := forward_motionframe order run.shared publish data
      rw [forwarderReceives, forwarded]
      split
      · simp only [forwarder_loop_shared, and_self]
      · cases publish with
        | none => simp only [Option.map_none, forwarder_loop_shared, logged_shared, and_self]
        | some exception => simp only [Option.map_some, fail_shared, logged_shared, and_self]

theorem heartbeat_nonempty (nonce : List UInt8) : heartbeat nonce ≠ [] := by
  have size : (heartbeat nonce).length = PACKTYPEID_SIZE_BYTES + nonce.length := by
    rw [heartbeat, List.length_append, PacketClass.header_length]
  refine List.ne_nil_of_length_pos ?_
  rw [size]
  exact Nat.add_pos_left (Nat.zero_lt_succ 3) _

-- A heartbeat that is received moves the deadline, and nothing else.
theorem heartbeat_received (run target : SessionRun) (now : ℚ) (nonce : List UInt8)
    (moved : run.step order serializers (.handlerReceives (.ok (heartbeat nonce)) now none) = some target) :
    target.shared.allStop = run.shared.allStop ∧ target.shared.heartbeatDeadline = now + HEARTBEAT_TIMEOUT_SEC := by
  cases outcome : run.outcome with
  | some result =>
      simp only [SessionRun.step, outcome] at moved
      cases moved
  | none =>
      simp only [SessionRun.step, outcome, Option.ite_none_right_eq_some, Option.some.injEq] at moved
      obtain ⟨_, rfl⟩ := moved
      have handled := handle_message serializers run.shared now none (heartbeat nonce)
      have noEnd := carries_one serializers (heartbeat nonce) "HeartBeatPacket" "SessionEndRequestPacket"
        (heartbeat_carries nonce) (by simp) (by simp [session_names]) (by simp [session_names])
      rw [(handler_receives_message serializers run now none _ (heartbeat_nonempty nonce)).1]
      refine ⟨Bool.eq_iff_iff.mpr ?_, ?_⟩
      · simpa [noEnd] using handled.allStop
      · rw [handled.heartbeatDeadline, if_pos (heartbeat_carries nonce)]

-- What a task does that receives no heartbeat and does not look at the deadline.
theorem task_keeps (run target : SessionRun) (action : TaskAction) (clock : ℚ) (reads : ReadsClock clock action)
    (idle : looks action = false) (goesOn : run.shared.allStop = false)
    (moved : run.step order serializers action = some target) :
    target.shared.heartbeatDeadline = run.shared.heartbeatDeadline ∧
      (target.shared.allStop = true → EndRequested target.events) := by
  have unmoved (deadline : target.shared.heartbeatDeadline = run.shared.heartbeatDeadline)
      (same : target.shared.allStop = run.shared.allStop) :
      target.shared.heartbeatDeadline = run.shared.heartbeatDeadline ∧
        (target.shared.allStop = true → EndRequested target.events) :=
    ⟨deadline, fun stopped => absurd (goesOn.symm.trans (same.symm.trans stopped)) Bool.false_ne_true⟩
  cases outcome : run.outcome with
  | some result =>
      simp only [SessionRun.step, outcome] at moved
      cases moved
  | none =>
      cases action with
      | controllerStarts lastTime =>
          simp only [SessionRun.step, outcome, Option.ite_none_right_eq_some, Option.some.injEq] at moved
          obtain ⟨_, rfl⟩ := moved
          exact unmoved rfl rfl
      | controllerWakes woken checked next => cases idle
      | handlerStarts =>
          simp only [SessionRun.step, outcome, Option.ite_none_right_eq_some, Option.some.injEq] at moved
          obtain ⟨_, rfl⟩ := moved
          exact unmoved rfl rfl
      | handlerReceives received now publish =>
          simp only [SessionRun.step, outcome, Option.ite_none_right_eq_some, Option.some.injEq] at moved
          obtain ⟨_, rfl⟩ := moved
          cases received with
          | error exception => exact unmoved rfl rfl
          | ok msg =>
              by_cases empty : msg = []
              · rw [handlerReceives, if_pos empty] at unmoved ⊢
                exact unmoved rfl rfl
              · obtain ⟨shared, events⟩ := handler_receives_message serializers run now publish msg empty
                have handled := handle_message serializers run.shared now publish msg
                rw [shared, events, handled.heartbeatDeadline, if_neg (reads.2 msg rfl)]
                refine ⟨rfl, fun stopped => (end_requested_append _ _).mpr (.inr ⟨now, msg, publish, rfl, ?_⟩)⟩
                exact (handled.allStop.mp stopped).resolve_left (by simp [goesOn])
      | forwarderStarts =>
          simp only [SessionRun.step, outcome, Option.ite_none_right_eq_some, Option.some.injEq] at moved
          obtain ⟨_, rfl⟩ := moved
          rw [forwarder_loop_shared] at unmoved ⊢
          exact unmoved rfl rfl
      | forwarderReceives received publish =>
          simp only [SessionRun.step, outcome, Option.ite_none_right_eq_some, Option.some.injEq] at moved
          obtain ⟨_, rfl⟩ := moved
          obtain ⟨allStop, deadline⟩ := forwarder_receives_keeps order run publish received
          exact unmoved deadline allStop
      | mainResumes =>
          simp only [SessionRun.step, outcome, mainResumes] at moved
          split at moved
          · cases moved
            exact unmoved rfl rfl
          · simp only [Option.ite_none_right_eq_some, Option.some.injEq] at moved
            obtain ⟨_, rfl⟩ := moved
            exact unmoved rfl rfl

-- The controller stops the session if the deadline has passed, unless it raises.
theorem controller_looks (run target : SessionRun) (clock : ℚ)
    (moved : run.step order serializers (.controllerWakes clock clock clock) = some target) :
    target.failed ≠ none ∨ target.shared.heartbeatDeadline = run.shared.heartbeatDeadline ∧
      (target.shared.allStop = true ↔ run.shared.allStop = true ∨ run.shared.heartbeatDeadline < clock) := by
  cases outcome : run.outcome with
  | some result =>
      simp only [SessionRun.step, outcome] at moved
      cases moved
  | none =>
      simp only [SessionRun.step, outcome] at moved
      split at moved
      · cases moved
        rw [SessionRun.controllerWakes]
        split
        · refine .inl ?_
          rw [fail]
          cases run.failed <;> simp
        · refine .inr ?_
          rw [controller_loop_shared, logged_shared, checkHeartbeat]
          by_cases late : run.shared.heartbeatDeadline < clock
          · rw [if_pos (by exact late)]
            exact ⟨rfl, iff_of_true rfl (.inr late)⟩
          · rw [if_neg (by exact late)]
            exact ⟨rfl, (or_iff_left late).symm⟩
      · cases moved

-- What the tasks do to the part of the session that the detector has.
theorem runs_matches (live target : LiveSession) (state next : Detector ℚ) (action : TaskAction)
    (same : Matches serializers client live state) (sofar : live.run.step order serializers action = some target.run)
    (runs : Runs (FailureDetector.detector client.timing) anyAction state next) (beating : Beating client target)
    (detector : next = ⟨target.clock, target.clientAlive, target.lastSent, target.inFlight,
      target.run.shared.heartbeatDeadline, target.lastCheck, false⟩)
    (stops : target.run.shared.allStop = true → EndRequested target.run.events ∨
      (client.setup + client.gap + client.latency ≤ HEARTBEAT_TIMEOUT_SEC → target.clientAlive = false)) :
    Over client target ∨ Matches serializers client target next := by
  obtain ⟨initial, started, before⟩ := same.reached
  exact settles serializers client target next (step_gathering order serializers live.run target.run action same.gathering sofar)
    beating detector stops ⟨initial, started, before.trans runs⟩

-- What time and the client do to it, while no task runs.
theorem quiet_matches (live target : LiveSession) (state next : Detector ℚ) (action : Action ℚ)
    (same : Matches serializers client live state) (still : target.run = live.run)
    (moved : (FailureDetector.detector client.timing).step state action = some next) (beating : Beating client target)
    (detector : next = ⟨target.clock, target.clientAlive, target.lastSent, target.inFlight,
      live.run.shared.heartbeatDeadline, target.lastCheck, false⟩) :
    ∃ next, Runs (FailureDetector.detector client.timing) anyAction state next ∧
      (Over client target ∨ Matches serializers client target next) := by
  obtain ⟨initial, started, before⟩ := same.reached
  have runs : Runs (FailureDetector.detector client.timing) anyAction state next :=
    one_step state next action trivial moved
  refine ⟨next, runs, .inr ⟨?_, ?_, ?_, ?_, ?_, beating, initial, started, before.trans runs⟩⟩
  · rw [still]
    exact detector
  · rw [still]
    exact same.goesOn
  · rw [still]
    exact same.requested
  · rw [still]
    exact same.failed
  · rw [still]
    exact same.gathering

theorem heartbeat_matches (live target : LiveSession) (state : Detector ℚ) (index : Nat) (nonce : List UInt8)
    (same : Matches serializers client live state) (inside : index < live.inFlight.length)
    (moved : { live with inFlight := live.inFlight.eraseIdx index }.runs order serializers
      (.handlerReceives (.ok (heartbeat nonce)) live.clock none) = some target) :
    ∃ next, Runs (FailureDetector.detector client.timing) anyAction state next ∧
      (Over client target ∨ Matches serializers client target next) := by
  rw [runs, Option.map_eq_some_iff] at moved
  obtain ⟨run, moved, rfl⟩ := moved
  obtain ⟨allStop, deadline⟩ := heartbeat_received order serializers live.run run live.clock nonce moved
  have arrived : index < state.inFlight.length := by
    rw [same.detector]
    exact inside
  refine ⟨_, one_step state (state.delivered client.timing index) (.deliver index) trivial (if_pos arrived), ?_⟩
  refine runs_matches order serializers client live _ state _ _ same moved
    (one_step state _ (.deliver index) trivial (if_pos arrived)) ⟨same.beating.punctual, same.beating.started⟩ ?_ ?_
  · rw [same.detector, Detector.delivered, deadline]
    rfl
  · intro stopped
    cases (allStop.trans same.goesOn).symm.trans stopped

theorem task_matches (live target : LiveSession) (state : Detector ℚ) (action : TaskAction)
    (same : Matches serializers client live state) (reads : ReadsClock live.clock action)
    (moved : { live with lastCheck := if looks action then live.clock else live.lastCheck }.runs order serializers action =
      some target) :
    ∃ next, Runs (FailureDetector.detector client.timing) anyAction state next ∧
      (Over client target ∨ Matches serializers client target next) := by
  rw [runs, Option.map_eq_some_iff] at moved
  obtain ⟨run, moved, rfl⟩ := moved
  cases look : looks action with
  | false =>
      obtain ⟨deadline, stops⟩ := task_keeps order serializers live.run run action live.clock reads look same.goesOn moved
      refine ⟨state, .refl, runs_matches order serializers client live _ state state action same moved .refl
        ⟨same.beating.punctual, same.beating.started⟩ ?_ ?_⟩
      · rw [same.detector, deadline]
        rfl
      · exact fun stopped => .inl (stops stopped)
  | true =>
      have wakes : action = .controllerWakes live.clock live.clock live.clock := by
        cases action with
        | controllerWakes woken checked next =>
            obtain ⟨rfl, rfl, rfl⟩ := reads
            rfl
        | controllerStarts lastTime => cases look
        | handlerStarts => cases look
        | handlerReceives received now publish => cases look
        | forwarderStarts => cases look
        | forwarderReceives received publish => cases look
        | mainResumes => cases look
      rw [wakes] at moved
      rcases controller_looks order serializers live.run run live.clock moved with failed | ⟨deadline, late⟩
      · exact ⟨state, .refl, .inl (.inr (.inl failed))⟩
      · by_cases passed : live.run.shared.heartbeatDeadline < live.clock
        · refine ⟨state, .refl, .inl (.inr (.inr ⟨fun margin => ?_, late.mpr (.inr passed)⟩))⟩
          cases alive : live.clientAlive with
          | false => rfl
          | true =>
              have inTime := (alive_unsuspected client.timing margin state same.reached (by rw [same.detector]; exact alive)).1
              rw [same.detector] at inTime
              exact absurd passed (not_lt.mpr inTime)
        · have checks : Runs (FailureDetector.detector client.timing) anyAction state state.checked :=
            one_step state state.checked .check trivial rfl
          refine ⟨state.checked, checks, runs_matches order serializers client live _ state _ _ same moved checks
            ⟨same.beating.punctual, same.beating.started⟩ ?_ ?_⟩
          · rw [same.detector, Detector.checked, deadline]
            simp [passed]
          · intro stopped
            rcases late.mp stopped with already | now
            · cases same.goesOn.symm.trans already
            · exact absurd now passed

theorem matches_step (live target : LiveSession) (state : Detector ℚ) (action : LiveAction)
    (same : Matches serializers client live state) (moved : live.step order serializers client action = some target) :
    ∃ next, Runs (FailureDetector.detector client.timing) anyAction state next ∧
      (Over client target ∨ Matches serializers client target next) := by
  obtain ⟨goesOn, controller, handler⟩ := matches_unfinished serializers client live state same
  have detector := same.detector
  cases action with
  | wait until_ =>
      simp only [step, Option.ite_none_right_eq_some, Option.some.injEq] at moved
      obtain ⟨⟨forward, beats, arrivals, looked⟩, rfl⟩ := moved
      have may : state.MayWait client.timing until_ := by
        rw [detector]
        exact ⟨forward, fun alive => (beats alive).trans (next_beat_late client live same.beating), arrivals handler,
          looked controller⟩
      refine quiet_matches serializers client live _ state _ (.wait until_) same rfl (if_pos may)
        ⟨beats, same.beating.started⟩ ?_
      rw [detector]
  | heartbeatThreadStarts =>
      simp only [step, Option.ite_none_right_eq_some, Option.some.injEq] at moved
      obtain ⟨⟨alive, unstarted⟩, rfl⟩ := moved
      have intime : live.clock ≤ live.lastSent + client.setup := by
        have punctual := same.beating.punctual alive
        rwa [nextBeat, unstarted] at punctual
      have beating : Beating client { live with asleepSince := some live.clock } := by
        refine ⟨fun _ => le_add_of_nonneg_right client.gap_nonneg, fun since asleep => ?_⟩
        cases asleep
        exact intime
      obtain ⟨stated, goesOn, requested, failed, gathering, _, reached⟩ := same
      exact ⟨state, .refl, .inr ⟨stated, goesOn, requested, failed, gathering, beating, reached⟩⟩
  | sendHeartbeat =>
      obtain ⟨since, _, alive, _, rfl⟩ := heartbeat_sent order serializers client live target moved
      have beats : state.alive = true := by
        rw [detector]
        exact alive
      have beating : Beating client { live with
          asleepSince := some live.clock, lastSent := live.clock, inFlight := live.inFlight ++ [live.clock] } := by
        refine ⟨fun _ => le_add_of_nonneg_right client.gap_nonneg, fun since asleep => ?_⟩
        cases asleep
        exact le_add_of_nonneg_right client.setup_nonneg
      refine quiet_matches serializers client live _ state _ .beat same rfl (if_pos beats) beating ?_
      rw [detector]
  | clientDies =>
      cases moved
      have beating : Beating client { live with clientAlive := false } :=
        ⟨fun alive => (nomatch alive), same.beating.started⟩
      refine quiet_matches serializers client live _ state _ .crash same rfl rfl beating ?_
      rw [detector]
  | heartbeatArrives index nonce =>
      simp only [step, Option.ite_none_right_eq_some] at moved
      exact heartbeat_matches order serializers client live target state index nonce same moved.1 moved.2
  | task action =>
      simp only [step, Option.ite_none_right_eq_some] at moved
      exact task_matches order serializers client live target state action same moved.1 moved.2

-- Until it is over, a live session is the detector of its client.
theorem session_detects : Simulates (liveSession order serializers client) anyAction
    (FailureDetector.detector client.timing) anyAction
    (fun live state => Over client live ∨ Matches serializers client live state) := by
  constructor
  · intro live started
    obtain ⟨now, metrics, rfl⟩ := started
    have beating : Beating client (init now metrics) :=
      ⟨fun _ => le_add_of_nonneg_right client.setup_nonneg, fun since asleep => nomatch asleep⟩
    refine ⟨_, ⟨now, rfl⟩, .inr ⟨rfl, rfl, ?_, rfl, init_gathering serializers now metrics, beating, _, ⟨now, rfl⟩, .refl⟩⟩
    intro requested
    obtain ⟨_, _, _, inside, _⟩ := requested
    cases inside
  · intro source state action target related _ moved
    rcases related with isOver | same
    · exact ⟨state, .refl, .inl (step_over order serializers client source target action isOver moved)⟩
    · exact matches_step order serializers client source target state action same moved

-- A client that sets up and beats in time is not given up: its session stops only because it
-- asked for that, or because a task raised.
theorem live_client_not_given_up (margin : client.setup + client.gap + client.latency ≤ HEARTBEAT_TIMEOUT_SEC) (live : LiveSession)
    (reached : Reached (liveSession order serializers client) anyAction live) (alive : live.clientAlive = true)
    (stopped : live.run.shared.allStop = true) : EndRequested live.run.events ∨ live.run.failed ≠ none := by
  obtain ⟨state, _, related⟩ := reached_simulated (session_detects order serializers client) live reached
  rcases related with (requested | failed | ⟨dead, _⟩) | same
  · exact .inl requested
  · exact .inr failed
  · cases alive.symm.trans (dead margin)
  · cases same.goesOn.symm.trans stopped

theorem five_nonneg : (0 : ℚ) ≤ 5 := by decide +kernel

theorem one_nonneg : (0 : ℚ) ≤ 1 := by decide +kernel

theorem twenty_nonneg : (0 : ℚ) ≤ 20 := by decide +kernel

def fiveSeconds : ClientTiming := ⟨1, 5, 1, 20, one_nonneg, five_nonneg, one_nonneg, twenty_nonneg⟩

def endRequest : List UInt8 := SessionEndRequestPacket.header ++ [0]

def listening : LiveSession := ⟨(SessionRun.init 0 .reset).handlerLoop, 6, true, some 6, 6, [6], 0⟩

def askedRun : LiveSession := { listening with run := listening.run.handlerReceives noObjects 6 none (.ok endRequest) }

theorem end_request_carries : Carries "SessionEndRequestPacket" endRequest := by
  rw [Carries, packTypeid, endRequest, List.take_left' SessionEndRequestPacket.header_length]
  exact BigEndian.from_to_bytes _ _ SessionEndRequestPacket.typeid_bound

theorem end_request_nonempty : endRequest ≠ [] := by
  refine List.ne_nil_of_length_pos ?_
  rw [endRequest, List.length_append]
  exact Nat.add_pos_right _ Nat.one_pos

theorem live_step : (liveSession order serializers client).step = step order serializers client := rfl

theorem task_step (live : LiveSession) (action : TaskAction) (reads : ReadsClock live.clock action) :
    live.step order serializers client (.task action) =
      { live with lastCheck := if looks action then live.clock else live.lastCheck }.runs order serializers action :=
  if_pos reads

theorem asked_reached : Reached (liveSession .little noObjects fiveSeconds) anyAction askedRun := by
  have noBeat := carries_one noObjects endRequest "SessionEndRequestPacket" "HeartBeatPacket" end_request_carries
    (by simp) (by simp [session_names]) (by simp [session_names])
  have reads : ReadsClock listening.clock (.handlerReceives (.ok endRequest) 6 none) := by
    refine ⟨rfl, fun msg received => ?_⟩
    cases received
    exact noBeat
  have received : listening.run.step .little noObjects (.handlerReceives (.ok endRequest) 6 none) =
      some (listening.run.handlerReceives noObjects 6 none (.ok endRequest)) := by
    have awaiting : listening.run.packetHandler = .awaiting () := rfl
    have goesOn : listening.run.outcome = none := rfl
    simp only [SessionRun.step, goesOn, awaiting, if_true]
  have asked : (liveSession .little noObjects fiveSeconds).step listening (.task (.handlerReceives (.ok endRequest) 6 none)) =
      some askedRun := by
    rw [live_step, task_step .little noObjects fiveSeconds listening (.handlerReceives (.ok endRequest) 6 none) reads, runs,
      received]
    rfl
  have starts : Runs (liveSession .little noObjects fiveSeconds) anyAction (init 0 .reset) listening := by
    apply replay_runs _ anyAction [.task .handlerStarts, .wait 1, .heartbeatThreadStarts, .wait 6, .sendHeartbeat]
    with_unfolding_all rfl
  exact ⟨_, ⟨0, .reset, rfl⟩, starts.tail ⟨_, trivial, asked⟩⟩

theorem asked_stopped : askedRun.run.shared.allStop = true := by
  have handled := handle_message noObjects listening.run.shared 6 none endRequest
  rw [askedRun, (handler_receives_message noObjects _ 6 none endRequest end_request_nonempty).1]
  exact handled.allStop.mpr (.inr end_request_carries)

theorem live_client_not_given_up_asked : EndRequested askedRun.run.events ∨ askedRun.run.failed ≠ none :=
  live_client_not_given_up .little noObjects fiveSeconds (by decide +kernel) askedRun asked_reached rfl asked_stopped

end LiveSession

end Animacharacter.SessionMng
