import Mathlib.Algebra.Order.Ring.Rat
import Animacharacter.SessionMng.SessionRuns

set_option autoImplicit false

namespace Animacharacter.SessionMng

open StepSystem Struct Packetcodec PacketDecoder Commons SessionEvent

namespace SessionRun

variable {Obj : Type} (order : ByteOrder) (serializers : Serializers Obj)

-- What was received and leaves its task with an exception: a message that cannot
-- be parsed, or a publish of what is in it that raises.
def Fails : SessionEvent → SessionRaised → Prop
  | .message _ msg publish, raised =>
      (∃ error, parse (sessionCodec serializers) msg = .error error ∧ raised = .parseBytes error) ∨
        ∃ jsonStr exception, validConfiguration serializers msg = some jsonStr ∧ publish = some exception ∧
          raised = .publish exception
  | .datagram _ publish, raised => ∃ exception, publish = some exception ∧ raised = .publish exception
  | .check _, _ => False

-- What an exception that left a task came from.
def Caused (events : List SessionEvent) : SessionRaised → Prop
  | .arecv _ | .zeroDivision => True
  | .parseBytes error => ∃ event ∈ events, Fails serializers event (.parseBytes error)
  | .publish exception => ∃ event ∈ events, Fails serializers event (.publish exception)
  | .decodeMotionframe => False

-- Where a task comes to that ran up to its next await.
inductive Advance {Locals : Type} (run target : SessionRun) : Task Locals → Prop where
  | loops (locals : Locals) (goesOn : target.shared.allStop = false) (failed : target.failed = run.failed) :
      Advance run target (.awaiting locals)
  | returns (stopped : target.shared.allStop = true) (failed : target.failed = run.failed) : Advance run target .returned
  | raises (raised : SessionRaised) (failed : target.failed = run.failed.or (some raised))
      (caused : Caused serializers target.events raised) : Advance run target .raised

-- What a task that ran added to the events.
def Adds (run target : SessionRun) (own : SessionEvent → Prop) : Prop :=
  target.events = run.events ∨ ∃ event, target.events = run.events ++ [event] ∧ own event ∧
    ∀ raised, Fails serializers event raised → target.failed ≠ none

def IsMessage : SessionEvent → Bool
  | .message _ _ _ => true
  | .datagram _ _ | .check _ => false

def IsDatagram : SessionEvent → Bool
  | .datagram _ _ => true
  | .message _ _ _ | .check _ => false

def IsCheck : SessionEvent → Bool
  | .check _ => true
  | .message _ _ _ | .datagram _ _ => false

-- Which task a step is of.
inductive Move (run target : SessionRun) : Prop where
  | controller (unfinished : ¬ run.controller.IsOver) (advance : Advance serializers run target target.controller)
      (handler : target.packetHandler = run.packetHandler) (forwarder : target.forwarder = run.forwarder)
      (outcome : target.outcome = run.outcome) (events : Adds serializers run target fun event => IsCheck event)
  | handler (unfinished : ¬ run.packetHandler.IsOver) (advance : Advance serializers run target target.packetHandler)
      (controller : target.controller = run.controller) (forwarder : target.forwarder = run.forwarder)
      (outcome : target.outcome = run.outcome) (events : Adds serializers run target fun event => IsMessage event)
  | forwarder (unfinished : ¬ run.forwarder.IsOver) (advance : Advance serializers run target target.forwarder)
      (controller : target.controller = run.controller) (handler : target.packetHandler = run.packetHandler)
      (outcome : target.outcome = run.outcome) (events : Adds serializers run target fun event => IsDatagram event)
  | main (resumed : run.mainResumes = some target)

theorem controller_loop_advance (run before : SessionRun) (next : ℚ) (failed : run.failed = before.failed) :
    Advance serializers before (run.controllerLoop next) (run.controllerLoop next).controller := by
  simp only [controllerLoop]
  split
  · rename_i stopped
    exact .returns stopped failed
  · rename_i goesOn
    exact .loops next (by simpa using goesOn) failed

theorem handler_loop_advance (run before : SessionRun) (failed : run.failed = before.failed) :
    Advance serializers before run.handlerLoop run.handlerLoop.packetHandler := by
  simp only [handlerLoop]
  split
  · rename_i stopped
    exact .returns stopped failed
  · rename_i goesOn
    exact .loops () (by simpa using goesOn) failed

theorem forwarder_loop_advance (run before : SessionRun) (failed : run.failed = before.failed) :
    Advance serializers before run.forwarderLoop run.forwarderLoop.forwarder := by
  rw [forwarderLoop]
  split
  · exact .returns rfl failed
  · rename_i goesOn
    exact .loops () (by simpa using goesOn) failed

theorem forwarder_loop_frame (run : SessionRun) : run.forwarderLoop.controller = run.controller ∧
    run.forwarderLoop.packetHandler = run.packetHandler ∧ run.forwarderLoop.outcome = run.outcome := by
  rw [forwarderLoop]
  split <;> exact ⟨rfl, rfl, rfl⟩

theorem controller_wakes_move (run : SessionRun) (lastTime woken checked next : ℚ)
    (unfinished : ¬ run.controller.IsOver) :
    Move serializers run (run.controllerWakes lastTime woken checked next) := by
  rw [controllerWakes]
  split
  · exact .controller unfinished (.raises .zeroDivision rfl trivial) rfl rfl rfl (.inl rfl)
  · refine .controller unfinished (controller_loop_advance serializers _ run next rfl) rfl rfl rfl
      (.inr ⟨.check checked, rfl, rfl, ?_⟩)
    intro raised fails
    cases fails

theorem message_raises (shared : SessionShared) (now : ℚ) (publish : Option String) (msg : List UInt8)
    (raised : SessionRaised) : (handleMessage serializers shared now publish msg).2 = some raised ↔
      Fails serializers (.message now msg publish) raised := by
  cases returned : parse (sessionCodec serializers) msg with
  | error error =>
      obtain ⟨_, _, noConfig⟩ := raised_ignored serializers msg error returned
      simp [handleMessage, Fails, returned, noConfig, eq_comm]
  | ok parsed =>
      have config := parsed_name serializers msg parsed returned _ (configuration_member serializers)
      change parsed.packet.className = "ConfigurationPacket" ↔ Carries "ConfigurationPacket" msg at config
      by_cases isConfig : Carries "ConfigurationPacket" msg
      · simp only [handleMessage, returned]
        rw [configuration_handled serializers _ now publish msg parsed returned isConfig]
        cases valid : validConfiguration serializers msg with
        | none => simp [Fails, returned, valid]
        | some jsonStr =>
            cases publish with
            | none => simp [Fails, returned]
            | some exception => simp [Fails, returned, valid, eq_comm]
      · have noConfig : validConfiguration serializers msg = none := if_neg isConfig
        simp only [handleMessage, returned]
        rw [handlePacket, if_neg (config.not.mpr isConfig)]
        have quiet : ¬ Fails serializers (.message now msg publish) raised := by simp [Fails, returned, noConfig]
        split
        · simp [quiet]
        · split <;> simp [quiet]

theorem datagram_raises (shared : SessionShared) (publish : Option String) (data : List UInt8) (raised : SessionRaised) :
    (forwardMotionframe order shared publish data).2 = some raised ↔
      Fails serializers (.datagram data publish) raised := by
  obtain ⟨_, _, _, forwarded⟩ := forward_motionframe order shared publish data
  rw [forwarded]
  cases publish <;> simp [Fails, eq_comm]

theorem fails_caused (events : List SessionEvent) (event : SessionEvent) (raised : SessionRaised)
    (fails : Fails serializers event raised) : Caused serializers (events ++ [event]) raised := by
  have last : event ∈ events ++ [event] := List.mem_append_right _ (List.mem_singleton.mpr rfl)
  cases raised with
  | arecv exception => trivial
  | zeroDivision => trivial
  | parseBytes error => exact ⟨event, last, fails⟩
  | publish exception => exact ⟨event, last, fails⟩
  | decodeMotionframe => cases event <;> simp [Fails] at fails

theorem failed_some (run : SessionRun) (raised : SessionRaised) : (run.fail raised).failed ≠ none := by
  rw [fail]
  cases run.failed <;> simp

theorem handler_receives_move (run : SessionRun) (now : ℚ) (publish : Option String) (received : Except String (List UInt8))
    (unfinished : ¬ run.packetHandler.IsOver) :
    Move serializers run (run.handlerReceives serializers now publish received) := by
  cases received with
  | error exception => exact .handler unfinished (.raises (.arecv exception) rfl trivial) rfl rfl rfl (.inl rfl)
  | ok msg =>
      rw [handlerReceives]
      split
      · exact .handler unfinished (handler_loop_advance serializers run run rfl) rfl rfl rfl (.inl rfl)
      · have raises := message_raises serializers run.shared now publish msg
        generalize handleMessage serializers run.shared now publish msg = result at raises
        obtain ⟨after, outcome⟩ := result
        cases outcome with
        | none =>
            refine .handler unfinished (handler_loop_advance serializers _ run rfl) rfl rfl rfl
              (.inr ⟨.message now msg publish, rfl, rfl, ?_⟩)
            intro raised fails
            cases (raises raised).mpr fails
        | some raised =>
            have fails := (raises raised).mp rfl
            refine .handler unfinished (.raises raised rfl ?_) rfl rfl rfl
              (.inr ⟨.message now msg publish, rfl, rfl, ?_⟩)
            · exact fails_caused serializers run.events _ raised fails
            · intro _ _
              exact failed_some _ raised

theorem forwarder_loop_move (run before : SessionRun) (unfinished : ¬ before.forwarder.IsOver)
    (same : run.failed = before.failed ∧ run.controller = before.controller ∧ run.packetHandler = before.packetHandler ∧
      run.outcome = before.outcome)
    (events : Adds serializers before run.forwarderLoop fun event => IsDatagram event) :
    Move serializers before run.forwarderLoop := by
  obtain ⟨failed, controller, handler, outcome⟩ := same
  obtain ⟨sameController, sameHandler, sameOutcome⟩ := forwarder_loop_frame run
  exact .forwarder unfinished (forwarder_loop_advance serializers run before failed) (sameController.trans controller)
    (sameHandler.trans handler) (sameOutcome.trans outcome) events

theorem forwarder_receives_move (run : SessionRun) (publish : Option String) (received : Except String (List UInt8))
    (unfinished : ¬ run.forwarder.IsOver) : Move serializers run (run.forwarderReceives order publish received) := by
  have quiet := forwarder_loop_move serializers run run unfinished ⟨rfl, rfl, rfl, rfl⟩ (.inl (forwarder_loop_events run))
  cases received with
  | error exception => exact quiet
  | ok data =>
      rw [forwarderReceives]
      split
      · exact quiet
      · have raises := datagram_raises order serializers run.shared publish data
        generalize forwardMotionframe order run.shared publish data = result at raises
        obtain ⟨after, outcome⟩ := result
        cases outcome with
        | none =>
            refine forwarder_loop_move serializers _ run unfinished ⟨rfl, rfl, rfl, rfl⟩
              (.inr ⟨.datagram data publish, forwarder_loop_events _, rfl, ?_⟩)
            intro raised fails
            cases (raises raised).mpr fails
        | some raised =>
            have fails := (raises raised).mp rfl
            refine .forwarder unfinished (.raises raised rfl ?_) rfl rfl rfl
              (.inr ⟨.datagram data publish, rfl, rfl, ?_⟩)
            · exact fails_caused serializers run.events _ raised fails
            · intro _ _
              exact failed_some _ raised

theorem step_move (run target : SessionRun) (action : TaskAction)
    (moved : run.step order serializers action = some target) : run.outcome = none ∧ Move serializers run target := by
  cases outcome : run.outcome with
  | some result =>
      simp only [step, outcome] at moved
      cases moved
  | none =>
      refine ⟨rfl, ?_⟩
      cases action with
      | controllerStarts lastTime =>
          simp only [step, outcome, Option.ite_none_right_eq_some, Option.some.injEq] at moved
          obtain ⟨created, rfl⟩ := moved
          exact .controller (by simp [created, Task.IsOver]) (controller_loop_advance serializers run run lastTime rfl) rfl rfl rfl
            (.inl rfl)
      | controllerWakes woken checked next =>
          simp only [step, outcome] at moved
          split at moved
          · rename_i lastTime awaiting
            cases moved
            exact controller_wakes_move serializers run lastTime woken checked next (by simp [awaiting, Task.IsOver])
          · cases moved
      | handlerStarts =>
          simp only [step, outcome, Option.ite_none_right_eq_some, Option.some.injEq] at moved
          obtain ⟨created, rfl⟩ := moved
          exact .handler (by simp [created, Task.IsOver]) (handler_loop_advance serializers run run rfl) rfl rfl rfl (.inl rfl)
      | handlerReceives received now publish =>
          simp only [step, outcome, Option.ite_none_right_eq_some, Option.some.injEq] at moved
          obtain ⟨awaiting, rfl⟩ := moved
          exact handler_receives_move serializers run now publish received (by simp [awaiting, Task.IsOver])
      | forwarderStarts =>
          simp only [step, outcome, Option.ite_none_right_eq_some, Option.some.injEq] at moved
          obtain ⟨created, rfl⟩ := moved
          exact forwarder_loop_move serializers run run (by simp [created, Task.IsOver]) ⟨rfl, rfl, rfl, rfl⟩
            (.inl (forwarder_loop_events run))
      | forwarderReceives received publish =>
          simp only [step, outcome, Option.ite_none_right_eq_some, Option.some.injEq] at moved
          obtain ⟨awaiting, rfl⟩ := moved
          exact forwarder_receives_move order serializers run publish received (by simp [awaiting, Task.IsOver])
      | mainResumes =>
          simp only [step, outcome] at moved
          exact .main moved

-- The gather knows of every task that raised, nothing is cancelled before it
-- raises, and nothing is left over behind it.
structure Gathering (run : SessionRun) : Prop where
  raised : run.controller = .raised ∨ run.packetHandler = .raised ∨ run.forwarder = .raised → run.failed ≠ none
  uncancelled : run.outcome = none →
    run.controller ≠ .cancelled ∧ run.packetHandler ≠ .cancelled ∧ run.forwarder ≠ .cancelled
  stopped : run.controller = .returned ∨ run.packetHandler = .returned ∨ run.forwarder = .returned →
    run.shared.allStop = true
  caused : ∀ raised, run.failed = some raised → Caused serializers run.events raised
  unfailed : ∀ event ∈ run.events, ∀ raised, Fails serializers event raised → run.failed ≠ none
  returned : run.outcome = some (.ok ()) → run.failed = none ∧ run.controller = .returned ∧
    run.packetHandler = .returned ∧ run.forwarder = .returned
  crashed : ∀ raised, run.outcome = some (.error raised) → run.failed = some raised ∧ run.controller.IsOver ∧
    run.packetHandler.IsOver ∧ run.forwarder.IsOver

theorem effect_stays_stopped (run target : SessionRun) (effect : Effect order serializers run target)
    (stopped : run.shared.allStop = true) : target.shared.allStop = true := by
  cases effect with
  | quiet shared events =>
      rw [shared]
      exact stopped
  | message now msg publish shared events =>
      rw [shared]
      exact (handle_message serializers run.shared now publish msg).allStop.mpr (.inl stopped)
  | datagram data publish shared events =>
      obtain ⟨_, _, _, forwarded⟩ := forward_motionframe order run.shared publish data
      rw [shared, forwarded]
      exact stopped
  | check now shared events =>
      rw [shared, checkHeartbeat]
      split
      · rfl
      · exact stopped

theorem step_stays_stopped (run target : SessionRun) (action : TaskAction) (stopped : run.shared.allStop = true)
    (moved : run.step order serializers action = some target) : target.shared.allStop = true :=
  effect_stays_stopped order serializers run target (step_effect order serializers run target action moved) stopped

theorem caused_append (events added : List SessionEvent) (raised : SessionRaised)
    (caused : Caused serializers events raised) : Caused serializers (events ++ added) raised := by
  cases raised with
  | arecv exception => trivial
  | zeroDivision => trivial
  | decodeMotionframe => exact caused
  | parseBytes _ | publish _ =>
      obtain ⟨event, inside, fails⟩ := caused
      exact ⟨event, List.mem_append_left added inside, fails⟩

section Advanced

variable {Locals : Type} (run target : SessionRun) (task : Task Locals)

theorem advance_raised (advance : Advance serializers run target task) (raised : task = .raised) :
    target.failed ≠ none := by
  cases advance with
  | loops locals goesOn failed => cases raised
  | returns stopped failed => cases raised
  | raises exception failed caused =>
      rw [failed]
      cases run.failed <;> simp

theorem advance_failed (advance : Advance serializers run target task) (before : run.failed ≠ none) :
    target.failed ≠ none := by
  cases advance with
  | loops locals goesOn failed => rwa [failed]
  | returns stopped failed => rwa [failed]
  | raises exception failed caused =>
      rw [failed]
      cases run.failed <;> simp

theorem advance_returned (advance : Advance serializers run target task) (returned : task = .returned) :
    target.shared.allStop = true := by
  cases advance with
  | loops locals goesOn failed => cases returned
  | returns stopped failed => exact stopped
  | raises exception failed caused => cases returned

theorem advance_uncancelled (advance : Advance serializers run target task) : task ≠ .cancelled := by
  cases advance <;> simp

theorem advance_caused (advance : Advance serializers run target task) (own : SessionEvent → Prop)
    (events : Adds serializers run target own)
    (before : ∀ raised, run.failed = some raised → Caused serializers run.events raised) (raised : SessionRaised)
    (failed : target.failed = some raised) : Caused serializers target.events raised := by
  have kept (raised : SessionRaised) (earlier : run.failed = some raised) : Caused serializers target.events raised := by
    rcases events with same | ⟨event, more, _⟩
    · rw [same]
      exact before raised earlier
    · rw [more]
      exact caused_append serializers run.events [event] raised (before raised earlier)
  cases advance with
  | loops locals goesOn same => exact kept raised (same.symm.trans failed)
  | returns stopped same => exact kept raised (same.symm.trans failed)
  | raises exception same caused =>
      rw [same] at failed
      cases earlier : run.failed with
      | none =>
          rw [earlier] at failed
          cases failed
          exact caused
      | some first =>
          rw [earlier] at failed
          cases failed
          exact kept raised earlier

theorem advance_unfailed (advance : Advance serializers run target task) (own : SessionEvent → Prop)
    (events : Adds serializers run target own)
    (before : ∀ event ∈ run.events, ∀ raised, Fails serializers event raised → run.failed ≠ none)
    (event : SessionEvent) (inside : event ∈ target.events) (raised : SessionRaised)
    (fails : Fails serializers event raised) : target.failed ≠ none := by
  rcases events with same | ⟨last, more, _, lastFails⟩
  · rw [same] at inside
    exact advance_failed serializers run target task advance (before event inside raised fails)
  · rw [more] at inside
    rcases List.mem_append.mp inside with earlier | isLast
    · exact advance_failed serializers run target task advance (before event earlier raised fails)
    · rw [List.mem_singleton.mp isLast] at fails
      exact lastFails raised fails

end Advanced

theorem cancel_over {Locals : Type} (task : Task Locals) : task.cancel.IsOver := by
  cases task <;> trivial

theorem cancel_returned {Locals : Type} (task : Task Locals) (returned : task.cancel = .returned) : task = .returned := by
  cases task <;> simp_all [Task.cancel]

theorem main_gathering (run target : SessionRun) (gathering : Gathering serializers run)
    (resumed : run.mainResumes = some target) : Gathering serializers target := by
  rw [mainResumes] at resumed
  split at resumed
  · rename_i raised failed
    cases resumed
    constructor
    · intro _
      simp [failed]
    · intro ended
      cases ended
    · intro one
      apply gathering.stopped
      exact one.imp (cancel_returned _) (Or.imp (cancel_returned _) (cancel_returned _))
    · exact gathering.caused
    · exact gathering.unfailed
    · intro ended
      cases ended
    · intro exception ended
      cases ended
      exact ⟨failed, cancel_over _, cancel_over _, cancel_over _⟩
  · rename_i failed
    simp only [Option.ite_none_right_eq_some, Option.some.injEq] at resumed
    obtain ⟨all, rfl⟩ := resumed
    constructor
    · exact gathering.raised
    · intro ended
      cases ended
    · exact gathering.stopped
    · exact gathering.caused
    · exact gathering.unfailed
    · intro _
      exact ⟨failed, all⟩
    · intro exception ended
      cases ended

theorem step_gathering (run target : SessionRun) (action : TaskAction) (gathering : Gathering serializers run)
    (moved : run.step order serializers action = some target) : Gathering serializers target := by
  obtain ⟨goesOn, move⟩ := step_move order serializers run target action moved
  have stays := fun stopped => step_stays_stopped order serializers run target action stopped moved
  obtain ⟨noController, noHandler, noForwarder⟩ := gathering.uncancelled goesOn
  cases move with
  | controller unfinished advance handler forwarder outcome events =>
      have open_ := outcome.trans goesOn
      refine ⟨?_, ?_, ?_, advance_caused serializers run target _ advance _ events gathering.caused,
        advance_unfailed serializers run target _ advance _ events gathering.unfailed,
        fun ended => (nomatch open_.symm.trans ended), fun _ ended => (nomatch open_.symm.trans ended)⟩
      · intro one
        rcases one with own | other
        · exact advance_raised serializers run target _ advance own
        · rw [handler, forwarder] at other
          exact advance_failed serializers run target _ advance (gathering.raised (.inr other))
      · intro _
        exact ⟨advance_uncancelled serializers run target _ advance, handler ▸ noHandler, forwarder ▸ noForwarder⟩
      · intro one
        rcases one with own | other
        · exact advance_returned serializers run target _ advance own
        · rw [handler, forwarder] at other
          exact stays (gathering.stopped (.inr other))
  | handler unfinished advance controller forwarder outcome events =>
      have open_ := outcome.trans goesOn
      refine ⟨?_, ?_, ?_, advance_caused serializers run target _ advance _ events gathering.caused,
        advance_unfailed serializers run target _ advance _ events gathering.unfailed,
        fun ended => (nomatch open_.symm.trans ended), fun _ ended => (nomatch open_.symm.trans ended)⟩
      · intro one
        rcases one with other | own | other
        · exact advance_failed serializers run target _ advance (gathering.raised (.inl (controller ▸ other)))
        · exact advance_raised serializers run target _ advance own
        · exact advance_failed serializers run target _ advance (gathering.raised (.inr (.inr (forwarder ▸ other))))
      · intro _
        exact ⟨controller ▸ noController, advance_uncancelled serializers run target _ advance, forwarder ▸ noForwarder⟩
      · intro one
        rcases one with other | own | other
        · exact stays (gathering.stopped (.inl (controller ▸ other)))
        · exact advance_returned serializers run target _ advance own
        · exact stays (gathering.stopped (.inr (.inr (forwarder ▸ other))))
  | forwarder unfinished advance controller handler outcome events =>
      have open_ := outcome.trans goesOn
      refine ⟨?_, ?_, ?_, advance_caused serializers run target _ advance _ events gathering.caused,
        advance_unfailed serializers run target _ advance _ events gathering.unfailed,
        fun ended => (nomatch open_.symm.trans ended), fun _ ended => (nomatch open_.symm.trans ended)⟩
      · intro one
        rcases one with other | other | own
        · exact advance_failed serializers run target _ advance (gathering.raised (.inl (controller ▸ other)))
        · exact advance_failed serializers run target _ advance (gathering.raised (.inr (.inl (handler ▸ other))))
        · exact advance_raised serializers run target _ advance own
      · intro _
        exact ⟨controller ▸ noController, handler ▸ noHandler, advance_uncancelled serializers run target _ advance⟩
      · intro one
        rcases one with other | other | own
        · exact stays (gathering.stopped (.inl (controller ▸ other)))
        · exact stays (gathering.stopped (.inr (.inl (handler ▸ other))))
        · exact advance_returned serializers run target _ advance own
  | main resumed => exact main_gathering serializers run target gathering resumed

theorem init_gathering (start : ℚ) (metrics : MetricsTracker) : Gathering serializers (init start metrics) := by
  constructor <;> simp [init]

theorem run_gathering (start : ℚ) (metrics : MetricsTracker) (run : SessionRun)
    (runs : Runs (session order serializers) anyAction (init start metrics) run) : Gathering serializers run := by
  apply runs_invariant (session order serializers) anyAction _ _ (init start metrics) run runs
    (init_gathering serializers start metrics)
  intro source action target gathering _ moved
  exact step_gathering order serializers source target action gathering moved

section Stopping

def left {Locals : Type} (task : Task Locals) : Nat := if task.IsOver then 0 else 1

def unfinished (run : SessionRun) : Nat :=
  left run.controller + left run.packetHandler + left run.forwarder + if run.outcome = none then 1 else 0

theorem left_over {Locals : Type} (task : Task Locals) (isOver : task.IsOver) : left task = 0 := if_pos isOver

theorem left_open {Locals : Type} (task : Task Locals) (open_ : ¬ task.IsOver) : left task = 1 := if_neg open_

theorem left_cancel {Locals : Type} (task : Task Locals) : left task.cancel = 0 := left_over _ (cancel_over task)

theorem advance_over {Locals : Type} (run target : SessionRun) (task : Task Locals)
    (advance : Advance serializers run target task) (stopped : target.shared.allStop = true) : left task = 0 := by
  cases advance with
  | loops locals goesOn failed => cases stopped.symm.trans goesOn
  | returns _ failed => rfl
  | raises exception failed caused => rfl

-- What was received since `source`, with the tasks that can still receive.
structure Winding (source run : SessionRun) (added : List SessionEvent) : Prop where
  events : run.events = source.events ++ added
  checks : added.countP (IsCheck ·) + left run.controller ≤ left source.controller
  messages : added.countP (IsMessage ·) + left run.packetHandler ≤ left source.packetHandler
  datagrams : added.countP (IsDatagram ·) + left run.forwarder ≤ left source.forwarder

theorem main_winding (run target : SessionRun) (resumed : run.mainResumes = some target) :
    target.events = run.events ∧ left target.controller ≤ left run.controller ∧
      left target.packetHandler ≤ left run.packetHandler ∧ left target.forwarder ≤ left run.forwarder ∧
      target.outcome ≠ none := by
  rw [mainResumes] at resumed
  split at resumed
  · cases resumed
    simp [left_cancel]
  · simp only [Option.ite_none_right_eq_some, Option.some.injEq] at resumed
    obtain ⟨_, rfl⟩ := resumed
    simp

-- A task that runs after the stop ends, and has received at most one thing more.
theorem stopped_step (source run target : SessionRun) (added : List SessionEvent) (action : TaskAction)
    (winding : Winding source run added) (stopped : run.shared.allStop = true)
    (moved : run.step order serializers action = some target) :
    unfinished target + 1 ≤ unfinished run ∧ ∃ more, Winding source target more := by
  obtain ⟨goesOn, move⟩ := step_move order serializers run target action moved
  have still := step_stays_stopped order serializers run target action stopped moved
  obtain ⟨events, checks, messages, datagrams⟩ := winding
  cases move with
  | controller open_ advance handler forwarder outcome adds =>
      have before := left_open _ open_
      have after := advance_over serializers run target _ advance still
      refine ⟨by rw [unfinished, unfinished, after, before, handler, forwarder, outcome]; omega, ?_⟩
      rcases adds with same | ⟨event, more, own, _⟩
      · exact ⟨added, same.trans events, by omega, by rw [handler]; exact messages, by rw [forwarder]; exact datagrams⟩
      · refine ⟨added ++ [event], by rw [more, events, List.append_assoc], ?_, ?_, ?_⟩
        · cases event <;> simp_all [List.countP_append, IsCheck]
        · cases event <;> simp_all [List.countP_append, IsCheck, IsMessage]
        · cases event <;> simp_all [List.countP_append, IsCheck, IsDatagram]
  | handler open_ advance controller forwarder outcome adds =>
      have before := left_open _ open_
      have after := advance_over serializers run target _ advance still
      refine ⟨by rw [unfinished, unfinished, after, before, controller, forwarder, outcome]; omega, ?_⟩
      rcases adds with same | ⟨event, more, own, _⟩
      · exact ⟨added, same.trans events, by rw [controller]; exact checks, by omega, by rw [forwarder]; exact datagrams⟩
      · refine ⟨added ++ [event], by rw [more, events, List.append_assoc], ?_, ?_, ?_⟩
        · cases event <;> simp_all [List.countP_append, IsCheck, IsMessage]
        · cases event <;> simp_all [List.countP_append, IsMessage]
        · cases event <;> simp_all [List.countP_append, IsMessage, IsDatagram]
  | forwarder open_ advance controller handler outcome adds =>
      have before := left_open _ open_
      have after := advance_over serializers run target _ advance still
      refine ⟨by rw [unfinished, unfinished, after, before, controller, handler, outcome]; omega, ?_⟩
      rcases adds with same | ⟨event, more, own, _⟩
      · exact ⟨added, same.trans events, by rw [controller]; exact checks, by rw [handler]; exact messages, by omega⟩
      · refine ⟨added ++ [event], by rw [more, events, List.append_assoc], ?_, ?_, ?_⟩
        · cases event <;> simp_all [List.countP_append, IsCheck, IsDatagram]
        · cases event <;> simp_all [List.countP_append, IsMessage, IsDatagram]
        · cases event <;> simp_all [List.countP_append, IsDatagram]
  | main resumed =>
      obtain ⟨same, controller, handler, forwarder, ended⟩ := main_winding run target resumed
      refine ⟨?_, added, same.trans events, by omega, by omega, by omega⟩
      rw [unfinished, unfinished, if_neg ended, if_pos goesOn]
      omega

theorem stopped_run (source run target : SessionRun) (added : List SessionEvent) (actions : List TaskAction)
    (winding : Winding source run added) (stopped : run.shared.allStop = true)
    (replayed : replay (session order serializers) anyAction run actions = some target) :
    actions.length + unfinished target ≤ unfinished run ∧ ∃ more, Winding source target more := by
  induction actions generalizing run added with
  | nil =>
      cases replayed
      exact ⟨by simp, added, winding⟩
  | cons action rest ih =>
      simp only [replay] at replayed
      split at replayed
      · split at replayed
        · cases replayed
        · rename_i next moved
          obtain ⟨fewer, more, winding⟩ := stopped_step order serializers source run next added action winding stopped moved
          obtain ⟨bound, wound⟩ := ih next more winding
            (step_stays_stopped order serializers run next action stopped moved) replayed
          refine ⟨?_, wound⟩
          rw [List.length_cons]
          omega
      · cases replayed

-- A session that has not ended has a task that can run, or _run_main can.
theorem session_not_stuck (run : SessionRun) (gathering : Gathering serializers run) (goesOn : run.outcome = none) :
    ∃ action, (run.step order serializers action).isSome = true := by
  obtain ⟨noController, noHandler, noForwarder⟩ := gathering.uncancelled goesOn
  cases failed : run.failed with
  | some raised => exact ⟨.mainResumes, by simp [step, goesOn, mainResumes, failed]⟩
  | none =>
      have unraised := fun one => gathering.raised one failed
      cases controller : run.controller with
      | created => exact ⟨.controllerStarts 0, by simp [step, goesOn, controller]⟩
      | awaiting lastTime => exact ⟨.controllerWakes 0 0 0, by simp [step, goesOn, controller]⟩
      | raised => exact absurd (.inl controller) unraised
      | cancelled => exact absurd controller noController
      | returned =>
          cases handler : run.packetHandler with
          | created => exact ⟨.handlerStarts, by simp [step, goesOn, handler]⟩
          | awaiting locals => exact ⟨.handlerReceives (.ok []) 0 none, by simp [step, goesOn, handler]⟩
          | raised => exact absurd (.inr (.inl handler)) unraised
          | cancelled => exact absurd handler noHandler
          | returned =>
              cases forwarder : run.forwarder with
              | created => exact ⟨.forwarderStarts, by simp [step, goesOn, forwarder]⟩
              | awaiting locals => exact ⟨.forwarderReceives (.ok []) none, by simp [step, goesOn, forwarder]⟩
              | raised => exact absurd (.inr (.inr forwarder)) unraised
              | cancelled => exact absurd forwarder noForwarder
              | returned => exact ⟨.mainResumes, by simp [step, goesOn, mainResumes, failed, controller, handler, forwarder]⟩

-- From the stop on, at most four steps are left whatever arrives, in them at most
-- one message, one datagram and one look at the deadline, and none is missing.
theorem stopped_session_ends (start : ℚ) (metrics : MetricsTracker) (source target : SessionRun)
    (runs : Runs (session order serializers) anyAction (init start metrics) source)
    (stopped : source.shared.allStop = true) (actions : List TaskAction)
    (replayed : replay (session order serializers) anyAction source actions = some target) :
    actions.length ≤ 4 ∧
      (∃ added, target.events = source.events ++ added ∧ added.countP (IsMessage ·) ≤ 1 ∧
        added.countP (IsDatagram ·) ≤ 1 ∧ added.countP (IsCheck ·) ≤ 1) ∧
      (target.outcome = none → ∃ action, (target.step order serializers action).isSome = true) := by
  have atMost {Locals : Type} (task : Task Locals) : left task ≤ 1 := by
    rw [left]
    split <;> omega
  obtain ⟨bound, added, winding⟩ := stopped_run order serializers source source target [] actions
    ⟨(List.append_nil _).symm, by simp, by simp, by simp⟩ stopped replayed
  obtain ⟨events, checks, messages, datagrams⟩ := winding
  refine ⟨?_, ⟨added, events, ?_, ?_, ?_⟩, ?_⟩
  · have all : unfinished source ≤ 4 := by
      have one := atMost source.controller
      have two := atMost source.packetHandler
      have three := atMost source.forwarder
      rw [unfinished]
      split <;> omega
    omega
  · exact (Nat.le_add_right _ _).trans (messages.trans (atMost source.packetHandler))
  · exact (Nat.le_add_right _ _).trans (datagrams.trans (atMost source.forwarder))
  · exact (Nat.le_add_right _ _).trans (checks.trans (atMost source.controller))
  · have wholeRun := runs.trans (replay_runs (session order serializers) anyAction actions source target replayed)
    exact session_not_stuck order serializers target (run_gathering order serializers start metrics target wholeRun)

end Stopping

theorem stopped_session_ends_silent :
    (∃ added, silentRun.handlerLoop.events = silentRun.events ++ added ∧ added.countP (IsMessage ·) ≤ 1 ∧
      added.countP (IsDatagram ·) ≤ 1 ∧ added.countP (IsCheck ·) ≤ 1) ∧
      ∃ action, (silentRun.handlerLoop.step .little noObjects action).isSome = true := by
  obtain ⟨_, added, next⟩ := stopped_session_ends .little noObjects 0 .reset silentRun silentRun.handlerLoop silent_run
    (by decide +kernel) [.handlerStarts] (by with_unfolding_all rfl)
  exact ⟨added, next (by with_unfolding_all rfl)⟩

end SessionRun

end Animacharacter.SessionMng
