import Animacharacter.Library.Simulation
import Animacharacter.Library.FailureDetector
import Animacharacter.Library.FloatFormat
import Animacharacter.Orchestration.Heartbeats

set_option autoImplicit false

namespace Animacharacter.Orchestration

open StepSystem Alerts FailureDetector FloatFormat

-- assert period > 0 and tolerance > 0; the message has no window that overflows.
structure HeartbeatGenerator where
  name : String
  period : ℚ
  tolerance : ℚ
  period_pos : 0 < period
  tolerance_pos : 0 < tolerance
  in_range : period + tolerance ≤ 2 ^ 127

namespace HeartbeatGenerator

-- float(period + tolerance)
def hbTimeWindow (generator : HeartbeatGenerator) : ℚ := binary64.round (generator.period + generator.tolerance)

-- What the float32 field next_within of the message takes of the window.
def nextWithin (generator : HeartbeatGenerator) : ℚ := binary32.round generator.hbTimeWindow

def sendHb (generator : HeartbeatGenerator) : Heartbeat := ⟨generator.name, .seconds generator.nextWithin⟩

theorem next_within_nonneg (generator : HeartbeatGenerator) : 0 ≤ generator.nextWithin :=
  round_nonneg _ _ (round_nonneg _ _ (add_pos generator.period_pos generator.tolerance_pos).le)

end HeartbeatGenerator

-- How late the generator's timer may be, how long a heartbeat is on its way, and
-- how far apart the listener's checks are.
structure HbTiming where
  jitter : ℚ
  latency : ℚ
  checkPeriod : ℚ
  jitter_nonneg : 0 ≤ jitter
  latency_nonneg : 0 ≤ latency
  checkPeriod_nonneg : 0 ≤ checkPeriod

def HbTiming.timing (link : HbTiming) (generator : HeartbeatGenerator) : Timing ℚ where
  gap := generator.period + link.jitter
  latency := link.latency
  window := generator.nextWithin
  period := link.checkPeriod
  gap_nonneg := add_nonneg generator.period_pos.le link.jitter_nonneg
  latency_nonneg := link.latency_nonneg
  window_nonneg := generator.next_within_nonneg
  period_nonneg := link.checkPeriod_nonneg

-- One generator and the listener, which also hears others; `calls` are the
-- on_timeout calls so far, `raised` says that one of them raised.
structure Monitored where
  listener : HeartbeatListener
  clock : ℚ
  alive : Bool
  lastSent : ℚ
  inFlight : List ℚ
  lastCheck : ℚ
  calls : List (ℚ × String)
  raised : Bool
deriving DecidableEq

inductive MonitoredAction where
  | wait (until_ : ℚ)
  | timer
  | crash
  | received (index : Nat)
  | other (hb : Heartbeat)
  | check (raising : List String)

namespace Monitored

def MayWait (generator : HeartbeatGenerator) (link : HbTiming) (state : Monitored) (until_ : ℚ) : Prop :=
  state.clock ≤ until_ ∧ (state.alive = true → until_ ≤ state.lastSent + (generator.period + link.jitter)) ∧
    (∀ sent ∈ state.inFlight, until_ ≤ sent + link.latency) ∧ until_ ≤ state.lastCheck + link.checkPeriod

instance (generator : HeartbeatGenerator) (link : HbTiming) (state : Monitored) (until_ : ℚ) :
    Decidable (state.MayWait generator link until_) :=
  inferInstanceAs (Decidable (_ ∧ _ ∧ _ ∧ _))

def checked (state : Monitored) (raising : List String) : Monitored :=
  let done := state.listener.checkHeartbeats state.clock raising
  { state with
    listener := done.1
    lastCheck := state.clock
    calls := state.calls ++ done.2.map fun name => (state.clock, name)
    raised := state.raised || done.2.any (· ∈ raising) }

def step (generator : HeartbeatGenerator) (link : HbTiming) (state : Monitored) : MonitoredAction → Option Monitored
  | .wait until_ => if state.MayWait generator link until_ then some { state with clock := until_ } else none
  | .timer =>
      if state.alive then some { state with lastSent := state.clock, inFlight := state.inFlight ++ [state.clock] }
      else none
  | .crash => some { state with alive := false }
  | .received index =>
      if index < state.inFlight.length then
        some { state with
          inFlight := state.inFlight.eraseIdx index
          listener := state.listener.heartbeatReceived state.clock generator.sendHb }
      else none
  | .other hb =>
      if hb.name = generator.name then none
      else some { state with listener := state.listener.heartbeatReceived state.clock hb }
  | .check raising => some (state.checked raising)

-- The generator's timer was just created; the listener may have run for long.
def Starts (generator : HeartbeatGenerator) (state : Monitored) : Prop :=
  state.listener.heartbeats.get generator.name = none ∧ state.alive = true ∧ state.lastSent = state.clock ∧
    state.inFlight = [] ∧ state.lastCheck ≤ state.clock ∧ state.calls = [] ∧ state.raised = false

end Monitored

def monitored (generator : HeartbeatGenerator) (link : HbTiming) : System Monitored MonitoredAction where
  start := Monitored.Starts generator
  step := Monitored.step generator link

namespace HeartbeatListener

theorem check_loop_get (now : ℚ) (raising names : List String) (listener : HeartbeatListener) (other : String) :
    (checkLoop now raising names listener).1.heartbeats.get other =
      (listener.heartbeats.get other).map fun entry =>
        { entry with reported := entry.reported || decide (other ∈ (checkLoop now raising names listener).2) } := by
  induction names generalizing listener with
  | nil => simp [checkLoop]
  | cons name rest ih =>
      rw [checkLoop]
      by_cases due : listener.Due now name
      · rw [if_pos due]
        by_cases raises : name ∈ raising
        · rw [if_pos raises, report_get]
          by_cases same : name = other
          · simp [same]
          · simp [same, Ne.symm same]
        · rw [if_neg raises]
          simp only
          rw [ih (listener.report name), report_get]
          by_cases same : name = other
          · simp [same, Function.comp_def]
          · simp [same, Ne.symm same]
      · rw [if_neg due]
        exact ih listener

end HeartbeatListener

namespace Monitored

open HeartbeatListener

variable (generator : HeartbeatGenerator) (link : HbTiming)

def Called (live : Monitored) : Prop := ∃ time, (time, generator.name) ∈ live.calls

-- The latest heartbeat of the generator has been reported, after its deadline.
def Reported (live : Monitored) : Prop :=
  ∃ entry ∈ live.listener.heartbeats.get generator.name,
    ∃ time, (time, generator.name) ∈ live.calls ∧ PastDeadline time entry.deadline

def Registered (live : Monitored) : Prop := (live.listener.heartbeats.get generator.name).isSome = true

-- The generator and the listener are the detector from when the first heartbeat
-- is registered; until then the detector runs alone.
structure Watched (live : Monitored) (state : Detector ℚ) : Prop where
  clock : state.clock = live.clock
  alive : state.alive = live.alive
  lastSent : state.lastSent = live.lastSent
  inFlight : state.inFlight = live.inFlight
  lastCheck : live.lastCheck ≤ state.lastCheck
  deadline : ∀ entry ∈ live.listener.heartbeats.get generator.name, entry.deadline = .seconds state.deadline
  reported : ∀ entry ∈ live.listener.heartbeats.get generator.name, entry.reported = true →
    ∃ time, (time, generator.name) ∈ live.calls ∧ PastDeadline time entry.deadline
  noticed : state.suspected = true → ∀ entry ∈ live.listener.heartbeats.get generator.name,
    entry.reported = true ∨ live.raised = true
  accurate : generator.period + link.jitter + link.latency ≤ generator.nextWithin → live.Called generator → live.alive = false
  reached : Reached (detector (link.timing generator)) anyAction state

theorem reached_next (state next : Detector ℚ) (action : Action ℚ)
    (reached : Reached (detector (link.timing generator)) anyAction state)
    (moved : state.step (link.timing generator) action = some next) :
    Reached (detector (link.timing generator)) anyAction next := by
  obtain ⟨initial, started, runs⟩ := reached
  exact ⟨initial, started, runs.tail ⟨action, trivial, moved⟩⟩

theorem received_watched (live : Monitored) (state : Detector ℚ) (index : Nat) (watched : Watched generator link live state)
    (inside : index < live.inFlight.length) :
    Watched generator link
      { live with
        inFlight := live.inFlight.eraseIdx index
        listener := live.listener.heartbeatReceived live.clock generator.sendHb }
      (state.delivered (link.timing generator) index) := by
  have arrived : index < state.inFlight.length := by
    rw [watched.inFlight]
    exact inside
  have entry : (live.listener.heartbeatReceived live.clock generator.sendHb).heartbeats.get generator.name =
      some ⟨.seconds (live.clock + generator.nextWithin), false⟩ := by
    rw [heartbeatReceived, Dict.get_set, HeartbeatGenerator.sendHb, if_pos rfl]
    rfl
  constructor
  · exact watched.clock
  · exact watched.alive
  · exact watched.lastSent
  · rw [← watched.inFlight]
    rfl
  · exact watched.lastCheck
  · intro one found
    rw [entry] at found
    cases found
    rw [Detector.delivered, watched.clock]
    rfl
  · intro one found reported
    rw [entry] at found
    cases found
    cases reported
  · intro suspected
    cases suspected
  · exact watched.accurate
  · exact reached_next generator link state _ (.deliver index) watched.reached (if_pos arrived)

theorem checked_entry (live : Monitored) (raising : List String) (entry : HbEntry)
    (found : entry ∈ (live.checked raising).listener.heartbeats.get generator.name) :
    ∃ before ∈ live.listener.heartbeats.get generator.name,
      entry = { before with
        reported := before.reported ||
          decide (generator.name ∈ (live.listener.checkHeartbeats live.clock raising).2) } := by
  have left := check_loop_get live.clock raising live.listener.heartbeats.keys live.listener generator.name
  rw [← checkHeartbeats] at left
  simp only [checked] at found
  rw [left, Option.mem_map] at found
  obtain ⟨before, present, rfl⟩ := found
  exact ⟨before, present, rfl⟩

theorem checked_calls (live : Monitored) (raising : List String) (time : ℚ) (name : String) :
    (time, name) ∈ (live.checked raising).calls ↔ (time, name) ∈ live.calls ∨
      time = live.clock ∧ name ∈ (live.listener.checkHeartbeats live.clock raising).2 := by
  simp [checked, and_comm, eq_comm]

-- A check calls what is due, or an on_timeout in front of it raises.
theorem checked_due (live : Monitored) (raising : List String) (name : String)
    (due : live.listener.Due live.clock name) :
    name ∈ (live.listener.checkHeartbeats live.clock raising).2 ∨ (live.checked raising).raised = true := by
  rcases due_called live.listener live.clock raising name due with called | ⟨other, inside, raises⟩
  · exact .inl called
  · exact .inr (Bool.or_eq_true_iff.mpr (.inr (List.any_eq_true.mpr ⟨other, inside, decide_eq_true raises⟩)))

theorem checked_watched (live : Monitored) (state : Detector ℚ) (raising : List String)
    (watched : Watched generator link live state) : Watched generator link (live.checked raising) state.checked := by
  constructor
  · exact watched.clock
  · exact watched.alive
  · exact watched.lastSent
  · exact watched.inFlight
  · exact watched.clock.ge
  · intro entry found
    obtain ⟨before, present, rfl⟩ := checked_entry generator live raising entry found
    exact watched.deadline before present
  · intro entry found reported
    obtain ⟨before, present, rfl⟩ := checked_entry generator live raising entry found
    rcases Bool.or_eq_true_iff.mp reported with already | now
    · obtain ⟨time, inside, past⟩ := watched.reported before present already
      exact ⟨time, (checked_calls live raising time _).mpr (.inl inside), past⟩
    · have called := of_decide_eq_true now
      obtain ⟨entry, due, _, past⟩ := called_due live.listener live.clock raising generator.name called
      cases Option.some.inj (present.symm.trans due)
      exact ⟨live.clock, (checked_calls live raising live.clock _).mpr (.inr ⟨rfl, called⟩), past⟩
  · intro suspected entry found
    obtain ⟨before, present, rfl⟩ := checked_entry generator live raising entry found
    have late : state.suspected = true ∨ state.deadline < state.clock := by
      simpa [Detector.checked] using suspected
    rcases late with earlier | passed
    · rcases watched.noticed earlier before present with already | raised
      · exact .inl (by rw [already, Bool.true_or])
      · exact .inr (by rw [checked, raised, Bool.true_or])
    · by_cases already : before.reported = true
      · exact .inl (by rw [already, Bool.true_or])
      · have isDue : live.listener.Due live.clock generator.name := by
          refine ⟨before, present, by simpa using already, ?_⟩
          rw [watched.deadline before present, PastDeadline, ← watched.clock]
          exact passed
        rcases checked_due live raising generator.name isDue with called | raised
        · exact .inl (Bool.or_eq_true_iff.mpr (.inr (decide_eq_true called)))
        · exact .inr raised
  · intro margin again
    obtain ⟨time, inside⟩ := again
    rcases (checked_calls live raising time _).mp inside with earlier | ⟨_, now⟩
    · exact watched.accurate margin ⟨time, earlier⟩
    · by_cases alive : live.alive = true
      · have inTime := (alive_unsuspected (link.timing generator) margin state watched.reached
          (watched.alive.trans alive)).1
        obtain ⟨entry, found, _, past⟩ := called_due live.listener live.clock raising generator.name now
        rw [watched.deadline entry found, PastDeadline, ← watched.clock] at past
        exact absurd past (not_lt.mpr inTime)
      · exact Bool.eq_false_iff.mpr alive
  · exact reached_next generator link state _ .check watched.reached rfl

theorem other_watched (live : Monitored) (state : Detector ℚ) (hb : Heartbeat) (watched : Watched generator link live state)
    (other : hb.name ≠ generator.name) :
    Watched generator link { live with listener := live.listener.heartbeatReceived live.clock hb } state := by
  have same : (live.listener.heartbeatReceived live.clock hb).heartbeats.get generator.name =
      live.listener.heartbeats.get generator.name := by rw [heartbeatReceived, Dict.get_set, if_neg other]
  refine { watched with deadline := ?_, reported := ?_, noticed := ?_ }
  · rw [same]
    exact watched.deadline
  · rw [same]
    exact watched.reported
  · rw [same]
    exact watched.noticed

theorem step_watched (live target : Monitored) (state : Detector ℚ) (action : MonitoredAction)
    (watched : Watched generator link live state) (moved : live.step generator link action = some target) :
    ∃ next, Runs (detector (link.timing generator)) anyAction state next ∧ Watched generator link target next := by
  cases action with
  | wait until_ =>
      simp only [step, Option.ite_none_right_eq_some, Option.some.injEq] at moved
      obtain ⟨⟨forward, beats, arrivals, checks⟩, rfl⟩ := moved
      have may : state.MayWait (link.timing generator) until_ := by
        refine ⟨watched.clock ▸ forward, ?_, ?_, ?_⟩
        · rw [watched.alive, watched.lastSent]
          exact beats
        · rw [watched.inFlight]
          exact arrivals
        · exact checks.trans (by gcongr; exacts [watched.lastCheck, le_refl _])
      refine ⟨{ state with clock := until_ }, one_step state _ (.wait until_) trivial (if_pos may), ?_⟩
      exact { watched with
        clock := rfl
        reached := reached_next generator link state _ (.wait until_) watched.reached (if_pos may) }
  | timer =>
      simp only [step, Option.ite_none_right_eq_some, Option.some.injEq] at moved
      obtain ⟨running, rfl⟩ := moved
      have beats : state.step (link.timing generator) .beat =
          some { state with lastSent := state.clock, inFlight := state.inFlight ++ [state.clock] } :=
        if_pos (watched.alive.trans running)
      refine ⟨_, one_step state _ .beat trivial beats, ?_⟩
      refine { watched with
        lastSent := watched.clock
        inFlight := ?_
        reached := reached_next generator link state _ .beat watched.reached beats }
      rw [watched.inFlight, watched.clock]
  | crash =>
      cases moved
      refine ⟨{ state with alive := false }, one_step state _ .crash trivial rfl, ?_⟩
      exact { watched with
        alive := rfl
        accurate := fun _ _ => rfl
        reached := reached_next generator link state _ .crash watched.reached rfl }
  | received index =>
      simp only [step, Option.ite_none_right_eq_some, Option.some.injEq] at moved
      obtain ⟨inside, rfl⟩ := moved
      have arrived : index < state.inFlight.length := by
        rw [watched.inFlight]
        exact inside
      exact ⟨_, one_step state _ (.deliver index) trivial (if_pos arrived),
        received_watched generator link live state index watched inside⟩
  | other hb =>
      simp only [step, Option.ite_none_left_eq_some, Option.some.injEq] at moved
      obtain ⟨other, rfl⟩ := moved
      exact ⟨state, .refl, other_watched generator link live state hb watched other⟩
  | check raising =>
      cases moved
      exact ⟨_, one_step state _ .check trivial rfl, checked_watched generator link live state raising watched⟩

theorem monitored_detects : Simulates (monitored generator link) anyAction (detector (link.timing generator)) anyAction
    (Watched generator link) := by
  constructor
  · intro live started
    obtain ⟨unknown, alive, lastSent, inFlight, lastCheck, calls, raised⟩ := started
    refine ⟨_, ⟨live.clock, rfl⟩, ⟨rfl, alive.symm, lastSent.symm, inFlight.symm, lastCheck, ?_, ?_, ?_, ?_, ?_⟩⟩
    · intro entry found
      cases unknown.symm.trans found
    · intro entry found
      cases unknown.symm.trans found
    · intro suspected
      cases suspected
    · intro margin called
      obtain ⟨time, inside⟩ := called
      rw [calls] at inside
      cases inside
    · exact ⟨_, ⟨live.clock, rfl⟩, .refl⟩
  · intro source state action target watched _ moved
    exact step_watched generator link source target state action watched moved

theorem step_registered (live target : Monitored) (action : MonitoredAction) (registered : live.Registered generator)
    (moved : live.step generator link action = some target) : target.Registered generator := by
  have received (now : ℚ) (hb : Heartbeat) :
      ((live.listener.heartbeatReceived now hb).heartbeats.get generator.name).isSome = true := by
    rw [heartbeatReceived, Dict.get_set]
    split
    · rfl
    · exact registered
  cases action with
  | wait until_ =>
      simp only [step, Option.ite_none_right_eq_some, Option.some.injEq] at moved
      obtain ⟨_, rfl⟩ := moved
      exact registered
  | timer =>
      simp only [step, Option.ite_none_right_eq_some, Option.some.injEq] at moved
      obtain ⟨_, rfl⟩ := moved
      exact registered
  | crash =>
      cases moved
      exact registered
  | received index =>
      simp only [step, Option.ite_none_right_eq_some, Option.some.injEq] at moved
      obtain ⟨_, rfl⟩ := moved
      exact received _ _
  | other hb =>
      simp only [step, Option.ite_none_left_eq_some, Option.some.injEq] at moved
      obtain ⟨_, rfl⟩ := moved
      exact received _ _
  | check raising =>
      cases moved
      rw [Registered, checked]
      simp only
      rw [checkHeartbeats, check_loop_get, Option.isSome_map]
      exact registered

-- The window that a generator announces covers its period, a late timer and a slow
-- link: no heartbeat timeout is ever reported for a generator that is alive.
theorem alive_generator_not_reported (margin : generator.period + link.jitter + link.latency ≤ generator.nextWithin)
    (live : Monitored) (reached : Reached (monitored generator link) anyAction live) (alive : live.alive = true) :
    ∀ call ∈ live.calls, call.2 ≠ generator.name := by
  obtain ⟨state, _, watched⟩ := reached_simulated (monitored_detects generator link) live reached
  intro call inside same
  have dead := watched.accurate margin ⟨call.1, same ▸ inside⟩
  cases alive.symm.trans dead

-- The last heartbeat of a registered generator that dies is reported within the
-- latency, the window it announced and one more check, unless an on_timeout raised.
theorem dead_generator_reported (source target : Monitored) (reached : Reached (monitored generator link) anyAction source)
    (dead : source.alive = false) (registered : source.Registered generator)
    (runs : Runs (monitored generator link) anyAction source target)
    (passed : source.clock + link.latency + generator.nextWithin + link.checkPeriod < target.clock) :
    target.Reported generator ∨ target.raised = true := by
  have still : target.Registered generator := by
    apply runs_invariant (monitored generator link) anyAction (Registered generator) _ source target runs registered
    intro before action after registered _ moved
    exact step_registered generator link before after action registered moved
  obtain ⟨state, reachedAbove, watched⟩ := reached_simulated (monitored_detects generator link) source reached
  obtain ⟨next, runsAbove, watchedNext⟩ :=
    runs_simulated (monitored_detects generator link) source target state watched runs
  have suspected := dead_suspected (link.timing generator) state next reachedAbove (watched.alive.trans dead) runsAbove
    (by rw [watched.clock, watchedNext.clock]; exact passed)
  obtain ⟨entry, found⟩ := Option.isSome_iff_exists.mp still
  rcases watchedNext.noticed suspected entry found with reported | raised
  · exact .inl ⟨entry, found, watchedNext.reported entry found reported⟩
  · exact .inr raised

def hardwareManager : HeartbeatGenerator :=
  ⟨"hardware_manager", 5, 5, by decide +kernel, by decide +kernel, by decide +kernel⟩

-- Half a second and the double of 0.2 give a window below their sum.
example : binary32.round (binary64.round (1 / 2 + 3602879701896397 / 18014398509481984)) = 11744051 / 16777216 := by
  decide +kernel

def slowLink : HbTiming := ⟨1, 1, 20, by decide +kernel, by decide +kernel, by decide +kernel⟩

def started : Monitored := ⟨.init, 0, true, 0, [], 0, [], false⟩

-- Another name stays silent; the hardware manager's heartbeat lasts.
def otherSilent : List MonitoredAction :=
  [.timer, .received 0, .other ⟨"webui", .seconds 2⟩, .wait 5, .timer, .check []]

def heard : Monitored :=
  ⟨(HeartbeatListener.init.heartbeatReceived 0 hardwareManager.sendHb).heartbeatReceived 0 ⟨"webui", .seconds 2⟩ |>.report "webui",
    5, true, 5, [5], 5, [(5, "webui")], false⟩

def died : Monitored :=
  ⟨HeartbeatListener.init.heartbeatReceived 0 hardwareManager.sendHb, 0, false, 0, [], 0, [], false⟩

def reportedDead : Monitored :=
  ⟨(HeartbeatListener.init.heartbeatReceived 0 hardwareManager.sendHb).report "hardware_manager", 32, false, 0, [], 20,
    [(20, "hardware_manager")], false⟩

theorem started_starts : (monitored hardwareManager slowLink).start started := ⟨rfl, rfl, rfl, rfl, le_refl _, rfl, rfl⟩

theorem alive_generator_not_reported_other :
    (heard.calls.all fun call => decide (call.2 ≠ "hardware_manager")) = true := by
  have reached := replay_reached (monitored hardwareManager slowLink) anyAction otherSilent started heard started_starts
    (by decide +kernel)
  have accurate := alive_generator_not_reported hardwareManager slowLink (by decide +kernel) heard reached rfl
  exact List.all_eq_true.mpr fun call inside => decide_eq_true (accurate call inside)

theorem dead_generator_reported_once : reportedDead.Reported hardwareManager ∨ reportedDead.raised = true :=
  dead_generator_reported hardwareManager slowLink died reportedDead
    (replay_reached _ anyAction [.timer, .received 0, .crash] started died started_starts (by decide +kernel)) rfl rfl
    (replay_runs _ anyAction [.wait 20, .check [], .wait 32] died reportedDead (by decide +kernel)) (by decide +kernel)

end Monitored

end Animacharacter.Orchestration
