import Animacharacter.Library.StepSystem
import Animacharacter.Alerts.Client
import Animacharacter.Orchestration.StateMachine

set_option autoImplicit false

namespace Animacharacter.Orchestration

open Alerts StepSystem

def nodeName : String := "session_manager"

def creationRequest (clientIp : String) : RaiseArguments where
  level := Level.INFO
  src := nodeName
  code := AlertCodes.INF_SESSION_CREATION_REQUEST
  brief := "New session creation was requested"
  description := s!"A session request from ip {clientIp} was made."

def creationOk : RaiseArguments where
  level := Level.INFO
  src := nodeName
  code := AlertCodes.INF_SESSION_CREATION_OK
  brief := "session began"

def closureOk : RaiseArguments where
  level := Level.INFO
  src := nodeName
  code := AlertCodes.INF_SESSION_CLOSURE_OK
  ttl := some (.seconds 1)
  brief := "session terminated"

def creationFailed (reason : String) : RaiseArguments where
  level := Level.ERR
  src := nodeName
  code := AlertCodes.ERR_SESSION_CREATION_FAILED
  ttl := some (.seconds 1)
  brief := reason

-- Where the attempts are. `announced` tells whether the request of the attempt
-- under way was published, and so reached the state machine.
inductive Phase where
  | idle
  | requested (announced : Bool)
  | opened
deriving DecidableEq

structure Tracking where
  server : SysAlertsServer
  fsm : FSM SystemState
  now : ℚ
  phase : Phase
deriving DecidableEq

inductive TrackingAction where
  | advance (elapsed : ℚ)
  | expireAlerts
  | otherAlert (alert : Alert)
  | request (clientIp : String)
  | created
  | failed (reason : String)
  | closed

def onAlertChangeCb (fsm : FSM SystemState) (change : Change) : FSM SystemState :=
  match mapAlertToSystemEvent change.1 change.2 with
  | none => fsm
  | some event =>
      match SystemFSM.processEvent fsm event with
      | .ok (next, _) => next
      | .error _ => fsm

namespace Tracking

def served (state : Tracking) (result : SysAlertsServer × Option Change) : Tracking :=
  { state with server := result.1, fsm := result.2.elim state.fsm (onAlertChangeCb state.fsm) }

-- A raise of the node's alert client. The delay until the server takes the
-- request is part of the time before the step.
def raise (state : Tracking) (arguments : RaiseArguments) : Tracking :=
  match SysAlertsClient.raiseAlert arguments with
  | .error _ => state
  | .ok message => state.served (state.server.handleRequest state.now message)

def Fresh (state : Tracking) (alert : Alert) : Prop :=
  (state.server.activeAlerts.get alert.code).any (fun known => known.eq alert) = false

instance (state : Tracking) (alert : Alert) : Decidable (state.Fresh alert) :=
  inferInstanceAs (Decidable (_ = false))

def step (state : Tracking) : TrackingAction → Option Tracking
  | .advance elapsed => if 0 ≤ elapsed then some { state with now := state.now + elapsed } else none
  | .expireAlerts => some { state with
      server := (state.server.expireAlerts state.now).1
      fsm := (state.server.expireAlerts state.now).2.foldl onAlertChangeCb state.fsm }
  | .otherAlert alert =>
      if mapAlertToSystemEvent .raise alert = none then
        some (state.served (state.server.raiseAlert state.now alert))
      else none
  | .request clientIp =>
      if state.phase = .idle then
        let announced := state.Fresh ((creationRequest clientIp).alert (.seconds 0))
        some { state.raise (creationRequest clientIp) with phase := .requested announced }
      else none
  | .created =>
      match state.phase with
      | .requested _ => some { state.raise creationOk with phase := .opened }
      | _ => none
  | .failed reason =>
      match state.phase with
      | .requested _ => some { state.raise (creationFailed reason) with phase := .idle }
      | _ => none
  | .closed => if state.phase = .opened then some { state.raise closureOk with phase := .idle } else none

end Tracking

def sessionTracking : System Tracking TrackingAction where
  start state := state.server = SysAlertsServer.init ∧ SystemFSM.Configured state.fsm ∧
    state.fsm.state = .STANDBY ∧ state.phase = .idle
  step := Tracking.step

-- The answer of an attempt reaches the state machine: it is not equal to an
-- active alert, and a success was announced by its request.
def answered (state : Tracking) : TrackingAction → Prop
  | .created => state.phase = .requested true ∧ state.Fresh (creationOk.alert (.seconds 0))
  | .failed reason => state.phase = .requested false ∨ state.Fresh ((creationFailed reason).alert (.seconds 1))
  | .closed => state.Fresh (closureOk.alert (.seconds 1))
  | _ => True

instance (state : Tracking) : (action : TrackingAction) → Decidable (answered state action)
  | .created => inferInstanceAs (Decidable (_ ∧ _))
  | .failed _ => inferInstanceAs (Decidable (_ ∨ _))
  | .closed => inferInstanceAs (Decidable (Tracking.Fresh _ _))
  | .advance _ | .expireAlerts | .otherAlert _ | .request _ => inferInstanceAs (Decidable True)

def Tracks (state : Tracking) : Prop :=
  (state.phase = .idle → state.fsm.state = .STANDBY) ∧ (state.phase = .opened → state.fsm.state = .ACTIVE)

instance (state : Tracking) : Decidable (Tracks state) := inferInstanceAs (Decidable (_ ∧ _))

def shownIn : Phase → SystemState
  | .idle => .STANDBY
  | .requested announced => if announced then .CONNECTING else .STANDBY
  | .opened => .ACTIVE

structure TrackingInvariant (state : Tracking) : Prop where
  configured : SystemFSM.Configured state.fsm
  shown : state.fsm.state = shownIn state.phase

theorem change_cb_configured (fsm : FSM SystemState) (change : Change) (configured : SystemFSM.Configured fsm) :
    SystemFSM.Configured (onAlertChangeCb fsm change) := by
  simp only [onAlertChangeCb]
  split
  · exact configured
  · rename_i event _
    obtain ⟨next, result, processed, _, kept⟩ := SystemFSM.process_event_leads fsm event configured
    simp only [processed]
    exact kept

theorem change_cb_state (fsm : FSM SystemState) (change : Change) (configured : SystemFSM.Configured fsm) :
    (onAlertChangeCb fsm change).state =
      (mapAlertToSystemEvent change.1 change.2).elim fsm.state (SystemFSM.nextState · fsm.state) := by
  simp only [onAlertChangeCb]
  cases mapped : mapAlertToSystemEvent change.1 change.2 with
  | none => rfl
  | some event =>
      obtain ⟨next, result, processed, reached, _⟩ := SystemFSM.process_event_leads fsm event configured
      simp only [processed]
      exact reached

theorem clear_all_cb (now : ℚ) (alerts : List Alert) (server : SysAlertsServer) (fsm : FSM SystemState) :
    (SysAlertsServer.clearAll now server alerts).2.foldl onAlertChangeCb fsm = fsm := by
  induction alerts generalizing server with
  | nil => rfl
  | cons alert rest ih =>
      simp only [SysAlertsServer.clearAll, List.foldl_append, SysAlertsServer.clearAlertFromCode]
      split
      · exact ih server
      · simp only [SysAlertsServer.applyChange]
        split
        · exact ih server
        · exact ih _

theorem raise_request (state : Tracking) (arguments : RaiseArguments) (ttl : PyFloat)
    (given : defaultTtl arguments.ttl arguments.level = .ok ttl) (fits : Representable (arguments.alert ttl)) :
    state.raise arguments =
      state.served (state.server.applyChange state.now .raise (arguments.alert ttl)) := by
  have message : SysAlertsClient.raiseAlert arguments = .ok (buildMessage .raise (arguments.alert ttl)) := by
    simp only [SysAlertsClient.raiseAlert, given]
    rfl
  simp only [Tracking.raise, message, SysAlertsServer.handleRequest, decode_build_message _ _ fits]

theorem raise_published (state : Tracking) (alert : Alert) (fresh : state.Fresh alert) :
    (state.server.applyChange state.now .raise alert).2 = some (.raise, alert) := by
  simp only [Tracking.Fresh] at fresh
  simp only [SysAlertsServer.applyChange, fresh]
  rfl

theorem raise_suppressed (state : Tracking) (alert : Alert) (known : ¬ state.Fresh alert) :
    (state.server.applyChange state.now .raise alert).2 = none := by
  simp only [Tracking.Fresh, Bool.not_eq_false] at known
  simp only [SysAlertsServer.applyChange, known]
  rfl

theorem raise_moves (state : Tracking) (arguments : RaiseArguments) (ttl : PyFloat) (event : SystemEvent)
    (configured : SystemFSM.Configured state.fsm)
    (given : defaultTtl arguments.ttl arguments.level = .ok ttl) (fits : Representable (arguments.alert ttl))
    (mapped : mapAlertToSystemEvent .raise (arguments.alert ttl) = some event) :
    SystemFSM.Configured (state.raise arguments).fsm ∧
      (state.raise arguments).fsm.state =
        if state.Fresh (arguments.alert ttl) then SystemFSM.nextState event state.fsm.state else state.fsm.state := by
  rw [raise_request state arguments ttl given fits]
  by_cases fresh : state.Fresh (arguments.alert ttl)
  · simp only [Tracking.served, raise_published state _ fresh, Option.elim, if_pos fresh]
    refine ⟨change_cb_configured state.fsm _ configured, ?_⟩
    rw [change_cb_state state.fsm _ configured]
    simp only [mapped, Option.elim]
  · simp only [Tracking.served, raise_suppressed state _ fresh, Option.elim, if_neg fresh]
    exact ⟨configured, trivial⟩

theorem plain_fits (arguments : RaiseArguments) (ttl : PyFloat) (level : FitsInt32 arguments.level)
    (code : FitsInt32 arguments.code) (plain : arguments.subcode = -1) : Representable (arguments.alert ttl) := by
  refine ⟨level, code, ?_⟩
  simp only [RaiseArguments.alert, plain]
  decide

theorem request_moves (state : Tracking) (clientIp : String) (configured : SystemFSM.Configured state.fsm) :
    SystemFSM.Configured (state.raise (creationRequest clientIp)).fsm ∧
      (state.raise (creationRequest clientIp)).fsm.state =
        if state.Fresh ((creationRequest clientIp).alert (.seconds 0)) then
          SystemFSM.nextState .SESSION_CREATION_REQUESTED state.fsm.state
        else state.fsm.state :=
  raise_moves state (creationRequest clientIp) (.seconds 0) .SESSION_CREATION_REQUESTED configured rfl
    (plain_fits _ _ (show FitsInt32 Level.INFO by decide) (show FitsInt32 AlertCodes.INF_SESSION_CREATION_REQUEST by decide) rfl) rfl

theorem created_moves (state : Tracking) (configured : SystemFSM.Configured state.fsm) :
    SystemFSM.Configured (state.raise creationOk).fsm ∧
      (state.raise creationOk).fsm.state =
        if state.Fresh (creationOk.alert (.seconds 0)) then SystemFSM.nextState .SESSION_CREATED state.fsm.state
        else state.fsm.state :=
  raise_moves state creationOk (.seconds 0) .SESSION_CREATED configured rfl
    (plain_fits _ _ (show FitsInt32 Level.INFO by decide) (show FitsInt32 AlertCodes.INF_SESSION_CREATION_OK by decide) rfl) rfl

theorem failed_moves (state : Tracking) (reason : String) (configured : SystemFSM.Configured state.fsm) :
    SystemFSM.Configured (state.raise (creationFailed reason)).fsm ∧
      (state.raise (creationFailed reason)).fsm.state =
        if state.Fresh ((creationFailed reason).alert (.seconds 1)) then
          SystemFSM.nextState .SESSION_CREATION_FAILED state.fsm.state
        else state.fsm.state :=
  raise_moves state (creationFailed reason) (.seconds 1) .SESSION_CREATION_FAILED configured rfl
    (plain_fits _ _ (show FitsInt32 Level.ERR by decide) (show FitsInt32 AlertCodes.ERR_SESSION_CREATION_FAILED by decide) rfl) rfl

theorem closed_moves (state : Tracking) (configured : SystemFSM.Configured state.fsm) :
    SystemFSM.Configured (state.raise closureOk).fsm ∧
      (state.raise closureOk).fsm.state =
        if state.Fresh (closureOk.alert (.seconds 1)) then SystemFSM.nextState .DISCONNECTED state.fsm.state
        else state.fsm.state :=
  raise_moves state closureOk (.seconds 1) .DISCONNECTED configured rfl
    (plain_fits _ _ (show FitsInt32 Level.INFO by decide) (show FitsInt32 AlertCodes.INF_SESSION_CLOSURE_OK by decide) rfl) rfl

theorem served_quiet (state : Tracking) (alert : Alert) (quiet : mapAlertToSystemEvent .raise alert = none) :
    (state.served (state.server.raiseAlert state.now alert)).fsm = state.fsm := by
  simp only [Tracking.served, SysAlertsServer.raiseAlert]
  by_cases fresh : state.Fresh alert
  · simp only [raise_published state alert fresh, Option.elim, onAlertChangeCb, quiet]
  · simp only [raise_suppressed state alert fresh, Option.elim]

theorem tracking_step_invariant (state next : Tracking) (action : TrackingAction) (inv : TrackingInvariant state)
    (admitted : answered state action) (moved : state.step action = some next) : TrackingInvariant next := by
  obtain ⟨configured, shown⟩ := inv
  cases action with
  | advance elapsed =>
      simp only [Tracking.step] at moved
      split at moved
      · cases moved
        exact ⟨configured, shown⟩
      · cases moved
  | expireAlerts =>
      cases moved
      simp only [SysAlertsServer.expireAlerts, clear_all_cb]
      exact ⟨configured, shown⟩
  | otherAlert alert =>
      simp only [Tracking.step] at moved
      split at moved
      · rename_i quiet
        cases moved
        have same := served_quiet state alert quiet
        constructor
        · rw [same]
          exact configured
        · rw [same]
          exact shown
      · cases moved
  | request clientIp =>
      simp only [Tracking.step] at moved
      split at moved
      · rename_i idle
        cases moved
        obtain ⟨kept, reaches⟩ := request_moves state clientIp configured
        refine ⟨kept, ?_⟩
        simp only [reaches, shown, idle, shownIn]
        split <;> simp_all [SystemFSM.nextState]
      · cases moved
  | created =>
      obtain ⟨requested, fresh⟩ := admitted
      simp only [Tracking.step, requested] at moved
      cases moved
      obtain ⟨kept, reaches⟩ := created_moves state configured
      refine ⟨kept, ?_⟩
      simp only [reaches, if_pos fresh, shown, requested, shownIn]
      rfl
  | failed reason =>
      simp only [Tracking.step] at moved
      split at moved
      · rename_i announced requested
        cases moved
        obtain ⟨kept, reaches⟩ := failed_moves state reason configured
        refine ⟨kept, ?_⟩
        simp only [reaches, shown, requested, shownIn]
        cases announced with
        | false => split <;> rfl
        | true =>
            rcases admitted with unannounced | fresh
            · simp [requested] at unannounced
            · simp only [if_pos fresh]
              rfl
      · cases moved
  | closed =>
      simp only [Tracking.step] at moved
      split at moved
      · rename_i opened
        cases moved
        obtain ⟨kept, reaches⟩ := closed_moves state configured
        have fresh : state.Fresh (closureOk.alert (.seconds 1)) := admitted
        refine ⟨kept, ?_⟩
        simp only [reaches, if_pos fresh, shown, opened, shownIn]
        rfl
      · cases moved

theorem tracking_reached_invariant (state : Tracking) (reached : Reached sessionTracking answered state) :
    TrackingInvariant state := by
  apply reached_invariant sessionTracking answered TrackingInvariant _ _ state reached
  · rintro initial ⟨_, configured, standby, idle⟩
    refine ⟨configured, ?_⟩
    rw [standby, idle]
    rfl
  · intro source action target inv admitted moved
    exact tracking_step_invariant source target action inv admitted moved

theorem invariant_tracks (state : Tracking) (inv : TrackingInvariant state) : Tracks state := by
  constructor
  · intro idle
    rw [inv.shown, idle]
    rfl
  · intro opened
    rw [inv.shown, opened]
    rfl

theorem unanswered_loses_track (state next : Tracking) (action : TrackingAction) (inv : TrackingInvariant state)
    (lost : ¬ answered state action) (moved : state.step action = some next) : ¬ Tracks next := by
  obtain ⟨configured, shown⟩ := inv
  cases action with
  | advance elapsed => exact absurd trivial lost
  | expireAlerts => exact absurd trivial lost
  | otherAlert alert => exact absurd trivial lost
  | request clientIp => exact absurd trivial lost
  | created =>
      simp only [Tracking.step] at moved
      split at moved
      · rename_i announced requested
        cases moved
        rintro ⟨_, active⟩
        have reaches := (created_moves state configured).2
        rw [active rfl, shown, requested] at reaches
        by_cases fresh : state.Fresh (creationOk.alert (.seconds 0))
        · cases announced with
          | false => simp [fresh, shownIn, SystemFSM.nextState] at reaches
          | true => exact lost ⟨requested, fresh⟩
        · cases announced <;> simp [fresh, shownIn] at reaches
      · cases moved
  | failed reason =>
      simp only [Tracking.step] at moved
      split at moved
      · rename_i announced requested
        cases moved
        rintro ⟨standby, _⟩
        have reaches := (failed_moves state reason configured).2
        obtain ⟨unannounced, known⟩ := not_or.mp lost
        cases announced with
        | false => exact unannounced requested
        | true =>
            rw [standby rfl, shown, requested, if_neg known] at reaches
            simp [shownIn] at reaches
      · cases moved
  | closed =>
      simp only [Tracking.step] at moved
      split at moved
      · rename_i opened
        cases moved
        rintro ⟨standby, _⟩
        have known : ¬ state.Fresh (closureOk.alert (.seconds 1)) := lost
        have reaches := (closed_moves state configured).2
        rw [standby rfl, shown, opened, if_neg known] at reaches
        simp [shownIn] at reaches
      · cases moved

-- As long as every answer reaches the machine it tracks the session, and the
-- first one that does not makes it lose the track.
theorem fsm_tracks_session (state : Tracking) (reached : Reached sessionTracking answered state) :
    Tracks state ∧ ∀ action next, state.step action = some next → (Tracks next ↔ answered state action) := by
  have inv := tracking_reached_invariant state reached
  refine ⟨invariant_tracks state inv, ?_⟩
  intro action next moved
  constructor
  · intro tracks
    by_contra lost
    exact unanswered_loses_track state next action inv lost moved tracks
  · intro admitted
    exact invariant_tracks next (tracking_step_invariant state next action inv admitted moved)

def standbyMachine : FSM SystemState :=
  ⟨.STANDBY, ⟨SystemFSM.transitionTable, by decide⟩, false⟩

def standbyStart : Tracking := ⟨SysAlertsServer.init, standbyMachine, 0, .idle⟩

theorem standby_start : sessionTracking.start standbyStart := by
  refine ⟨rfl, ?_, rfl, rfl⟩
  intro state
  cases state <;> decide

-- A session that opens and closes, and a failed attempt long after it.
def openAndFail : List TrackingAction :=
  [.request "10.0.0.2", .created, .advance 5, .expireAlerts, .closed, .advance 2, .expireAlerts,
    .request "10.0.0.2", .failed "Resource creation failed."]

theorem fsm_tracks_open_and_fail : ∃ state, (state.phase = .idle ∧ state.now = 7) ∧ Tracks state := by
  obtain ⟨state, reached, ends⟩ := replay_exists sessionTracking answered openAndFail standbyStart
    (fun state => state.phase = .idle ∧ state.now = 7) standby_start (by decide +kernel)
  exact ⟨state, ends, (fsm_tracks_session state reached).1⟩

-- The second failure equals the first one's alert and is not published.
def failTwice : List TrackingAction :=
  [.request "10.0.0.2", .failed "Resource creation failed.", .advance (1 / 2), .expireAlerts,
    .request "10.0.0.2", .failed "Resource creation failed."]

theorem fsm_stuck_connecting :
    ∃ state, Reached sessionTracking anyAction state ∧
      state.phase = .idle ∧ state.fsm.state = .CONNECTING ∧ ¬ Tracks state :=
  replay_exists sessionTracking anyAction failTwice standbyStart
    (fun state => state.phase = .idle ∧ state.fsm.state = .CONNECTING ∧ ¬ Tracks state) standby_start (by decide +kernel)

end Animacharacter.Orchestration
