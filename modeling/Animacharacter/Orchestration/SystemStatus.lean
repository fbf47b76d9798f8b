import Mathlib.Data.Rat.Floor
import Animacharacter.Library.StepSystem
import Animacharacter.Orchestration.Supervisor
import Animacharacter.Orchestration.SessionTracking

set_option autoImplicit false

namespace Animacharacter.Orchestration

open Alerts StepSystem

def emptyAlert : Alert where
  level := Level.INFO
  src := ""
  code := 0
  subcode := 0
  brief := "empty alert"

structure SystemStatus where
  stateId : String
  isDegraded : Bool
  legal : Bool
  timestamp : Int
  faultRef : MsgAlert
deriving DecidableEq

-- A published status beside the alert that had first moved the machine into FAULT.
structure Publication where
  status : SystemStatus
  killer : Option Alert
deriving DecidableEq

inductive Stage where
  | instantiated
  | spinningUp
  | started
  | aborted
deriving DecidableEq

-- The supervisor node: `published` has the newest status first, `expiring` is
-- what an expiry tick has still to clear, `shutdowns` counts the scheduled
-- shutdown routines. `killer`, the alert that first moved the machine into FAULT,
-- is bookkeeping that the node does not have.
structure Supervisor where
  alertServer : SysAlertsServer
  fsm : FSM SystemState
  faultRefAlert : Option Alert
  now : ℚ
  stage : Stage
  expiring : List Alert
  shutdowns : Nat
  published : List Publication
  killer : Option Alert
deriving DecidableEq

inductive SupervisorAction where
  | advance (elapsed : ℚ)
  | entrypoint
  | spinupSystem (ok : Bool)
  | request (message : AlertAction)
  | processEvent (event : ProcessEvent)
  | heartbeatTimeout (hbName : String)
  | expireAlerts
  | clearExpired
  | shutdownSystem

def warned (server : SysAlertsServer) : Bool := !(server.getAlertsFromLevel Level.WARN).isEmpty

namespace Supervisor

def isSystemDegraded (server : SysAlertsServer) : Bool := 0 < server.getActiveAlerts.length

def publishSystemStatus (supervisor : Supervisor) (legal : Bool) : Supervisor :=
  let status : SystemStatus := {
    stateId := toString supervisor.fsm.state
    isDegraded := isSystemDegraded supervisor.alertServer
    legal
    timestamp := (supervisor.now * 1000).floor
    faultRef := toRosAlert (supervisor.faultRefAlert.getD emptyAlert) }
  { supervisor with published := ⟨status, supervisor.killer⟩ :: supervisor.published }

-- The state machine after an event; a change into FAULT schedules the shutdown.
def afterEvent (supervisor : Supervisor) (alert : Alert) (event : SystemEvent) (fsm : FSM SystemState)
    (result : StateChangeResult SystemState) : Supervisor :=
  let published := { supervisor with
      fsm
      killer := if event = SystemEvent.FATAL_FAULT ∧ result.changed then some (supervisor.killer.getD alert)
        else supervisor.killer
  }.publishSystemStatus result.legalTransition
  if result.changed ∧ fsm.state = .FAULT then { published with shutdowns := published.shutdowns + 1 } else published

def onAlertChangeCb (supervisor : Supervisor) (change : Change) : Supervisor :=
  match mapAlertToSystemEvent change.1 change.2 with
  | none => supervisor
  | some event =>
      let referred := if event = .FATAL_FAULT then { supervisor with faultRefAlert := some change.2 } else supervisor
      match SystemFSM.processEvent referred.fsm event with
      | .ok (fsm, result) => referred.afterEvent change.2 event fsm result
      | .error _ => referred

-- What an action makes of the alert table; `none` for actions that leave it alone.
def served (supervisor : Supervisor) : SupervisorAction → Option (SysAlertsServer × Option Change)
  | .request message => some (supervisor.alertServer.handleRequest supervisor.now message)
  | .processEvent event =>
      some (((onProcessEventCb event).map (supervisor.alertServer.raiseAlert supervisor.now)).getD
        (supervisor.alertServer, none))
  | .heartbeatTimeout hbName =>
      some (supervisor.alertServer.raiseAlert supervisor.now (onHeartbeatTimeoutCb hbName))
  | .clearExpired =>
      supervisor.expiring.head?.map fun alert => supervisor.alertServer.clearAlertFromCode supervisor.now alert.code
  | _ => none

def serve (supervisor : Supervisor) (result : SysAlertsServer × Option Change) : Supervisor :=
  let updated := { supervisor with alertServer := result.1 }
  result.2.elim updated updated.onAlertChangeCb

def step (supervisor : Supervisor) (action : SupervisorAction) : Option Supervisor :=
  match action with
  | .advance elapsed => if 0 ≤ elapsed then some { supervisor with now := supervisor.now + elapsed } else none
  | .entrypoint =>
      if supervisor.stage = .instantiated then
        some { supervisor.publishSystemStatus true with stage := .spinningUp }
      else none
  -- A refused transition is a ValueError that ends the entry routine.
  | .spinupSystem ok =>
      if supervisor.stage = .spinningUp then
        match supervisor.fsm.changeState (if ok then .STANDBY else .FAULT) with
        | .error _ => some { supervisor with stage := .aborted }
        | .ok (fsm, result) =>
            let published := { supervisor with fsm }.publishSystemStatus result.legalTransition
            if ok then some { published with stage := .started }
            else some { published with stage := .aborted, shutdowns := published.shutdowns + 1 }
      else none
  | .expireAlerts =>
      if supervisor.expiring = [] then
        some { supervisor with expiring := supervisor.alertServer.expiredAlerts supervisor.now }
      else none
  | .clearExpired =>
      (supervisor.served .clearExpired).map fun result =>
        { supervisor.serve result with expiring := supervisor.expiring.tail }
  | .shutdownSystem =>
      if 0 < supervisor.shutdowns then
        let changed := supervisor.fsm.forceChangeState .SHUTDOWN
        some ({ supervisor with fsm := changed.1, shutdowns := supervisor.shutdowns - 1 }.publishSystemStatus
          changed.2.legalTransition)
      else none
  | .request _ | .processEvent _ | .heartbeatTimeout _ => (supervisor.served action).map supervisor.serve

end Supervisor

-- Callbacks run one at a time; an expiry tick clears its alerts one by one with
-- other callbacks in between.
def supervisor : System Supervisor SupervisorAction where
  start state := state.alertServer = SysAlertsServer.init ∧ SystemFSM.init = .ok state.fsm ∧
    state.faultRefAlert = none ∧ state.stage = .instantiated ∧ state.expiring = [] ∧ state.shutdowns = 0 ∧
    state.published = [] ∧ state.killer = none
  step := Supervisor.step

namespace Supervisor

-- Everything a step can do; the second case is a tick of the clock or of the
-- expiry timer.
inductive Stepped (state : Supervisor) (action : SupervisorAction) (next : Supervisor) : Prop where
  | alert (result : SysAlertsServer × Option Change) (taken : state.served action = some result)
      (after : next = { state.serve result with expiring := next.expiring })
  | timer (tick : action = .expireAlerts ∨ ∃ elapsed, action = .advance elapsed)
      (after : next = { state with now := next.now, expiring := next.expiring })
  | entered (entry : action = .entrypoint) (before : state.stage = .instantiated)
      (after : next = { state.publishSystemStatus true with stage := .spinningUp })
  | refused (ok : Bool) (entry : action = .spinupSystem ok) (before : state.stage = .spinningUp)
      (after : next = { state with stage := .aborted })
  | spunUp (ok : Bool) (fsm : FSM SystemState) (result : StateChangeResult SystemState) (entry : action = .spinupSystem ok)
      (before : state.stage = .spinningUp)
      (change : state.fsm.changeState (if ok then .STANDBY else .FAULT) = .ok (fsm, result))
      (after : next = { { state with fsm }.publishSystemStatus result.legalTransition with
        stage := if ok then .started else .aborted, shutdowns := next.shutdowns })
  | shutDown (entry : action = .shutdownSystem)
      (after : next = { state with fsm := (state.fsm.forceChangeState .SHUTDOWN).1, shutdowns := state.shutdowns - 1
        }.publishSystemStatus (state.fsm.forceChangeState .SHUTDOWN).2.legalTransition)

theorem step_cases (state next : Supervisor) (action : SupervisorAction) (moved : state.step action = some next) :
    state.Stepped action next := by
  cases action with
  | advance elapsed =>
      simp only [step] at moved
      split at moved
      · cases moved
        exact .timer (.inr ⟨elapsed, rfl⟩) rfl
      · cases moved
  | entrypoint =>
      simp only [step] at moved
      split at moved
      · rename_i before
        cases moved
        exact .entered rfl before rfl
      · cases moved
  | spinupSystem ok =>
      simp only [step] at moved
      split at moved
      · rename_i before
        split at moved
        · cases moved
          exact .refused ok rfl before rfl
        · rename_i fsm result change
          refine .spunUp ok fsm result rfl before change ?_
          cases ok <;> cases moved <;> rfl
      · cases moved
  | expireAlerts =>
      simp only [step] at moved
      split at moved
      · cases moved
        exact .timer (.inl rfl) rfl
      · cases moved
  | clearExpired =>
      obtain ⟨result, taken, rfl⟩ := Option.map_eq_some_iff.mp moved
      exact .alert result taken rfl
  | shutdownSystem =>
      simp only [step] at moved
      split at moved
      · cases moved
        exact .shutDown rfl rfl
      · cases moved
  | request message =>
      simp only [step, Option.map_eq_some_iff] at moved
      obtain ⟨result, taken, rfl⟩ := moved
      exact .alert result taken rfl
  | processEvent event =>
      simp only [step, Option.map_eq_some_iff] at moved
      obtain ⟨result, taken, rfl⟩ := moved
      exact .alert result taken rfl
  | heartbeatTimeout hbName =>
      simp only [step, Option.map_eq_some_iff] at moved
      obtain ⟨result, taken, rfl⟩ := moved
      exact .alert result taken rfl

@[simp] theorem after_event_fsm (state : Supervisor) (alert : Alert) (event : SystemEvent) (fsm : FSM SystemState)
    (result : StateChangeResult SystemState) : (state.afterEvent alert event fsm result).fsm = fsm := by
  simp only [afterEvent]
  split <;> rfl

@[simp] theorem after_event_server (state : Supervisor) (alert : Alert) (event : SystemEvent) (fsm : FSM SystemState)
    (result : StateChangeResult SystemState) :
    (state.afterEvent alert event fsm result).alertServer = state.alertServer := by
  simp only [afterEvent]
  split <;> rfl

@[simp] theorem after_event_stage (state : Supervisor) (alert : Alert) (event : SystemEvent) (fsm : FSM SystemState)
    (result : StateChangeResult SystemState) : (state.afterEvent alert event fsm result).stage = state.stage := by
  simp only [afterEvent]
  split <;> rfl

@[simp] theorem after_event_fault_ref (state : Supervisor) (alert : Alert) (event : SystemEvent) (fsm : FSM SystemState)
    (result : StateChangeResult SystemState) :
    (state.afterEvent alert event fsm result).faultRefAlert = state.faultRefAlert := by
  simp only [afterEvent]
  split <;> rfl

@[simp] theorem after_event_killer (state : Supervisor) (alert : Alert) (event : SystemEvent) (fsm : FSM SystemState)
    (result : StateChangeResult SystemState) :
    (state.afterEvent alert event fsm result).killer =
      if event = .FATAL_FAULT ∧ result.changed then some (state.killer.getD alert) else state.killer := by
  simp only [afterEvent]
  split <;> rfl

@[simp] theorem after_event_published (state : Supervisor) (alert : Alert) (event : SystemEvent) (fsm : FSM SystemState)
    (result : StateChangeResult SystemState) :
    (state.afterEvent alert event fsm result).published =
      ⟨{ stateId := toString fsm.state
         isDegraded := isSystemDegraded state.alertServer
         legal := result.legalTransition
         timestamp := (state.now * 1000).floor
         faultRef := toRosAlert (state.faultRefAlert.getD emptyAlert) },
        if event = .FATAL_FAULT ∧ result.changed then some (state.killer.getD alert) else state.killer⟩ ::
          state.published := by
  simp only [afterEvent]
  split <;> rfl

theorem change_cb_quiet (state : Supervisor) (change : Change) (quiet : mapAlertToSystemEvent change.1 change.2 = none) :
    state.onAlertChangeCb change = state := by
  simp only [onAlertChangeCb, quiet]

-- The machine processes every event, so the callback always publishes one.
theorem change_cb_event (state : Supervisor) (change : Change) (event : SystemEvent)
    (configured : SystemFSM.Configured state.fsm) (mapped : mapAlertToSystemEvent change.1 change.2 = some event) :
    ∃ fsm result, SystemFSM.processEvent state.fsm event = .ok (fsm, result) ∧ SystemFSM.Configured fsm ∧
      state.onAlertChangeCb change =
        { state with faultRefAlert := if event = SystemEvent.FATAL_FAULT then some change.2 else state.faultRefAlert }.afterEvent
          change.2 event fsm result := by
  obtain ⟨fsm, result, processed, _, kept⟩ := SystemFSM.process_event_leads state.fsm event configured
  refine ⟨fsm, result, processed, kept, ?_⟩
  by_cases fatal : event = .FATAL_FAULT
  · simp only [onAlertChangeCb, mapped, if_pos fatal, processed]
  · simp only [onAlertChangeCb, mapped, if_neg fatal, processed]

theorem change_cb_stage (state : Supervisor) (change : Change) (configured : SystemFSM.Configured state.fsm) :
    (state.onAlertChangeCb change).stage = state.stage ∧
      (state.onAlertChangeCb change).alertServer = state.alertServer := by
  cases mapped : mapAlertToSystemEvent change.1 change.2 with
  | none =>
      rw [change_cb_quiet state change mapped]
      exact ⟨rfl, rfl⟩
  | some event =>
      obtain ⟨fsm, result, _, _, after⟩ := change_cb_event state change event configured mapped
      rw [after, after_event_stage, after_event_server]
      exact ⟨rfl, rfl⟩

theorem change_cb_configured (state : Supervisor) (change : Change) (configured : SystemFSM.Configured state.fsm) :
    SystemFSM.Configured (state.onAlertChangeCb change).fsm := by
  cases mapped : mapAlertToSystemEvent change.1 change.2 with
  | none =>
      rw [change_cb_quiet state change mapped]
      exact configured
  | some event =>
      obtain ⟨fsm, result, _, kept, after⟩ := change_cb_event state change event configured mapped
      rw [after, after_event_fsm]
      exact kept

theorem change_state_configured (fsm next : FSM SystemState) (target : SystemState) (result : StateChangeResult SystemState)
    (configured : SystemFSM.Configured fsm) (changed : fsm.changeState target = .ok (next, result)) :
    SystemFSM.Configured next ∧ next.state = target := by
  simp only [FSM.changeState] at changed
  split at changed
  · cases changed
  · cases changed
    exact ⟨configured, rfl⟩

theorem force_configured (fsm : FSM SystemState) (target : SystemState) (configured : SystemFSM.Configured fsm) :
    SystemFSM.Configured (fsm.forceChangeState target).1 := by
  intro state
  rw [FSM.force_change_state_transitions]
  exact configured state

theorem step_configured (state next : Supervisor) (action : SupervisorAction) (configured : SystemFSM.Configured state.fsm)
    (moved : state.step action = some next) : SystemFSM.Configured next.fsm := by
  cases step_cases state next action moved with
  | alert result taken after =>
      rw [after]
      cases published : result.2 with
      | none =>
          simp only [serve, published, Option.elim]
          exact configured
      | some change =>
          simp only [serve, published, Option.elim]
          exact change_cb_configured _ change configured
  | timer _ after =>
      rw [after]
      exact configured
  | entered _ _ after =>
      rw [after]
      exact configured
  | refused _ _ _ after =>
      rw [after]
      exact configured
  | spunUp ok fsm result _ _ change after =>
      rw [after]
      exact (change_state_configured state.fsm fsm _ result configured change).1
  | shutDown _ after =>
      rw [after]
      exact force_configured state.fsm .SHUTDOWN configured

theorem served_unpublished (state : Supervisor) (action : SupervisorAction) (server : SysAlertsServer)
    (taken : state.served action = some (server, none)) : server.activeAlerts = state.alertServer.activeAlerts := by
  have applied (change : AlertActionType) (alert : Alert)
      (same : state.alertServer.applyChange state.now change alert = (server, none)) :
      server.activeAlerts = state.alertServer.activeAlerts := by
    have silent := SysAlertsServer.unpublished_change state.alertServer state.now change alert (by rw [same])
    rwa [same] at silent
  cases action with
  | request message =>
      simp only [served, SysAlertsServer.handleRequest, Option.some.injEq] at taken
      split at taken
      · cases taken
        rfl
      · exact applied _ _ taken
  | processEvent event =>
      simp only [served, Option.some.injEq] at taken
      cases raised : onProcessEventCb event with
      | none =>
          simp only [raised, Option.map_none, Option.getD_none] at taken
          cases taken
          rfl
      | some alert =>
          simp only [raised, Option.map_some, Option.getD_some] at taken
          exact applied _ _ taken
  | heartbeatTimeout hbName =>
      simp only [served, Option.some.injEq] at taken
      exact applied _ _ taken
  | clearExpired =>
      simp only [served, Option.map_eq_some_iff] at taken
      obtain ⟨alert, _, cleared⟩ := taken
      simp only [SysAlertsServer.clearAlertFromCode] at cleared
      split at cleared
      · cases cleared
        rfl
      · exact applied _ _ cleared
  | advance _ | entrypoint | spinupSystem _ | expireAlerts | shutdownSystem => cases taken

def bootMachine : FSM SystemState :=
  match SystemFSM.init with
  | .ok fsm => fsm
  | .error _ => FSM.init .BOOTING

def init : Supervisor := ⟨SysAlertsServer.init, bootMachine, none, 0, .instantiated, [], 0, [], none⟩

theorem init_start : supervisor.start init := ⟨rfl, rfl, rfl, rfl, rfl, rfl, rfl, rfl⟩

end Supervisor

end Animacharacter.Orchestration
