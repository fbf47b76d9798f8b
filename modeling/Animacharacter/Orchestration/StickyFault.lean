import Animacharacter.Orchestration.MachineMoves

set_option autoImplicit false

namespace Animacharacter.Orchestration

open Alerts StepSystem

namespace Supervisor

-- The alert that an action makes the server raise, published or not.
def raisedBy : SupervisorAction → Option Alert
  | .request message =>
      match decodeActionMessage message with
      | some (.raise, alert) => some alert
      | _ => none
  | .processEvent event => onProcessEventCb event
  | .heartbeatTimeout hbName => some (onHeartbeatTimeoutCb hbName)
  | _ => none

def Faulted (supervisor : Supervisor) : Prop := supervisor.fsm.state = .FAULT ∨ supervisor.fsm.state = .SHUTDOWN

instance (supervisor : Supervisor) : Decidable supervisor.Faulted := inferInstanceAs (Decidable (_ ∨ _))

-- A fatal alert of the table has been through the state machine.
structure FatalSeen (supervisor : Supervisor) : Prop where
  configured : SystemFSM.Configured supervisor.fsm
  seen : ∀ code alert, supervisor.alertServer.activeAlerts.get code = some alert → alert.level = Level.FATAL →
    supervisor.Faulted

theorem faulted_iff (state : Supervisor) : state.Faulted ↔ SystemFSM.faulted state.fsm.state = true := by
  simp [Faulted, SystemFSM.faulted]

theorem step_faulted (state next : Supervisor) (action : SupervisorAction) (configured : SystemFSM.Configured state.fsm)
    (moved : state.step action = some next) (fault : state.Faulted) : next.Faulted := by
  rw [faulted_iff] at fault ⊢
  cases machine_move state next action configured moved with
  | still _ same _ _ =>
      rw [same]
      exact fault
  | event event _ there _ _ =>
      rw [there, SystemFSM.next_state_faulted, fault, Bool.or_true]
  | spunUp ok _ _ allowed there _ _ =>
      have down := SystemFSM.faulted_leaves _ _ fault allowed
      rw [there, down]
      rfl
  | shutDown _ _ there _ _ =>
      rw [there]
      rfl

theorem runs_faulted (state later : Supervisor) (configured : SystemFSM.Configured state.fsm) (fault : state.Faulted)
    (runs : Runs supervisor anyAction state later) : later.Faulted := by
  have kept := runs_invariant supervisor anyAction (fun state => SystemFSM.Configured state.fsm ∧ state.Faulted)
    (fun source action target inv _ moved => ⟨step_configured source target action inv.1 moved,
      step_faulted source target action inv.1 moved inv.2⟩) state later runs ⟨configured, fault⟩
  exact kept.2

-- What a served action does to the table: it raises the alert, takes some away or
-- leaves it as it was.
inductive Served (state : Supervisor) (action : SupervisorAction) (result : SysAlertsServer × Option Change) : Prop where
  | raised (alert : Alert) (raises : raisedBy action = some alert)
      (after : result = state.alertServer.applyChange state.now .raise alert)
  | fewer (quiet : raisedBy action = none)
      (kept : ∀ code alert, result.1.activeAlerts.get code = some alert →
        state.alertServer.activeAlerts.get code = some alert)

theorem cleared_kept (server : SysAlertsServer) (now : ℚ) (cleared : Alert) (code : Int) (alert : Alert)
    (found : (server.applyChange now .clear cleared).1.activeAlerts.get code = some alert) :
    server.activeAlerts.get code = some alert := by
  by_cases known : server.activeAlerts.get cleared.code = none
  · rwa [SysAlertsServer.clear_unknown server now cleared known] at found
  · rw [SysAlertsServer.clear_tables server now cleared known, Dict.get_pop] at found
    split at found
    · cases found
    · exact found

theorem served_cases (state : Supervisor) (action : SupervisorAction) (result : SysAlertsServer × Option Change)
    (taken : state.served action = some result) : Served state action result := by
  cases action with
  | request message =>
      simp only [served, SysAlertsServer.handleRequest, Option.some.injEq] at taken
      cases decoded : decodeActionMessage message with
      | none =>
          simp only [decoded] at taken
          exact .fewer (by simp [raisedBy, decoded]) (fun code alert found => by rw [← taken] at found; exact found)
      | some change =>
          obtain ⟨kind, alert⟩ := change
          simp only [decoded] at taken
          cases kind with
          | raise => exact .raised alert (by simp [raisedBy, decoded]) taken.symm
          | clear =>
              refine .fewer (by simp [raisedBy, decoded]) (fun code other found => ?_)
              rw [← taken] at found
              exact cleared_kept state.alertServer state.now alert code other found
  | processEvent event =>
      simp only [served, Option.some.injEq] at taken
      cases raised : onProcessEventCb event with
      | none =>
          simp only [raised, Option.map_none, Option.getD_none] at taken
          exact .fewer raised (fun code alert found => by rw [← taken] at found; exact found)
      | some alert =>
          simp only [raised, Option.map_some, Option.getD_some] at taken
          exact .raised alert raised taken.symm
  | heartbeatTimeout hbName =>
      simp only [served, Option.some.injEq] at taken
      exact .raised _ rfl taken.symm
  | clearExpired =>
      simp only [served, Option.map_eq_some_iff] at taken
      obtain ⟨expired, _, cleared⟩ := taken
      refine .fewer rfl (fun code alert found => ?_)
      simp only [SysAlertsServer.clearAlertFromCode] at cleared
      split at cleared
      · rw [← cleared] at found
        exact found
      · rw [← cleared] at found
        exact cleared_kept state.alertServer state.now _ code alert found
  | advance _ | entrypoint | spinupSystem _ | expireAlerts | shutdownSystem => cases taken

theorem map_fatal (alert : Alert) (fatal : alert.level = Level.FATAL) :
    mapAlertToSystemEvent .raise alert = some .FATAL_FAULT := by
  simp only [mapAlertToSystemEvent, if_pos fatal]

-- A fatal raise is published, or the same alert had been before it.
theorem fatal_raise_event (state : Supervisor) (action : SupervisorAction) (alert : Alert)
    (fatal : alert.level = Level.FATAL)
    (taken : state.served action = some (state.alertServer.applyChange state.now .raise alert)) :
    state.eventOf action = some .FATAL_FAULT ∨ state.alertServer.activeAlerts.get alert.code = some alert := by
  by_cases known : (state.alertServer.activeAlerts.get alert.code).any (fun current => current.eq alert) = true
  · obtain ⟨current, found, equal⟩ := (Option.any_eq_true _ _).mp known
    exact .inr (by rw [found, Alert.eq_sound _ _ equal])
  · left
    simp only [eventOf, taken, SysAlertsServer.applyChange, known, Option.bind_some, map_fatal alert fatal,
      Bool.false_eq_true, if_false]

theorem step_after_event (state next : Supervisor) (action : SupervisorAction) (configured : SystemFSM.Configured state.fsm)
    (moved : state.step action = some next) (came : state.eventOf action = some .FATAL_FAULT) : next.Faulted := by
  cases machine_move state next action configured moved with
  | event event brought there _ _ =>
      rw [came] at brought
      cases brought
      exact .inl there
  | still quiet _ _ _ | spunUp _ quiet _ _ _ _ _ | shutDown quiet _ _ _ _ =>
      rw [came] at quiet
      cases quiet

theorem fatal_raise_faults (state next : Supervisor) (action : SupervisorAction) (alert : Alert) (inv : FatalSeen state)
    (moved : state.step action = some next) (fatal : alert.level = Level.FATAL)
    (taken : state.served action = some (state.alertServer.applyChange state.now .raise alert)) : next.Faulted := by
  rcases fatal_raise_event state action alert fatal taken with came | known
  · exact step_after_event state next action inv.configured moved came
  · exact step_faulted state next action inv.configured moved (inv.seen alert.code alert known fatal)

theorem serve_server (state : Supervisor) (result : SysAlertsServer × Option Change)
    (configured : SystemFSM.Configured state.fsm) : (state.serve result).alertServer = result.1 := by
  obtain ⟨server, published⟩ := result
  cases published with
  | none => rfl
  | some change => exact (change_cb_stage { state with alertServer := server } change configured).2

theorem step_fatal_seen (source target : Supervisor) (action : SupervisorAction) (inv : FatalSeen source)
    (moved : source.step action = some target) : FatalSeen target := by
  have old (code : Int) (alert : Alert) (found : source.alertServer.activeAlerts.get code = some alert)
      (fatal : alert.level = Level.FATAL) : target.Faulted :=
    step_faulted source target action inv.configured moved (inv.seen code alert found fatal)
  refine ⟨step_configured source target action inv.configured moved, fun code alert found fatal => ?_⟩
  cases step_cases source target action moved with
  | alert result taken after =>
      have table : target.alertServer = result.1 := by
        rw [after]
        exact serve_server source result inv.configured
      rw [table] at found
      cases served_cases source action result taken with
      | raised raisedAlert _ same =>
          rw [same] at taken
          rw [same, SysAlertsServer.raise_tables, Dict.get_set] at found
          split at found
          · cases found
            exact fatal_raise_faults source target action alert inv moved fatal taken
          · exact old code alert found fatal
      | fewer _ kept => exact old code alert (kept code alert found) fatal
  | timer _ after | entered _ _ after | refused _ _ _ after | spunUp _ _ _ _ _ _ after | shutDown _ after =>
      rw [after] at found
      exact old code alert found fatal

theorem start_fatal_seen (state : Supervisor) (started : supervisor.start state) : FatalSeen state := by
  obtain ⟨configured, _, _, empty⟩ := start_facts state started
  refine ⟨configured, fun code alert found _ => ?_⟩
  rw [empty] at found
  cases found

theorem raised_taken (state next : Supervisor) (action : SupervisorAction) (alert : Alert)
    (moved : state.step action = some next) (raises : raisedBy action = some alert) :
    state.served action = some (state.alertServer.applyChange state.now .raise alert) := by
  have answered (result : SysAlertsServer × Option Change) (taken : state.served action = some result) :
      state.served action = some (state.alertServer.applyChange state.now .raise alert) := by
    cases served_cases state action result taken with
    | raised other named same =>
        rw [raises] at named
        cases named
        rw [taken, same]
    | fewer quiet _ =>
        rw [raises] at quiet
        cases quiet
  cases action with
  | request _ | processEvent _ | heartbeatTimeout _ =>
      simp only [step, Option.map_eq_some_iff] at moved
      obtain ⟨result, taken, _⟩ := moved
      exact answered result taken
  | advance _ | entrypoint | spinupSystem _ | expireAlerts | clearExpired | shutdownSystem => cases raises

-- However the run goes on after a fatal raise, also one that the server does not
-- publish again, the machine is in FAULT or SHUTDOWN.
theorem fatal_sticky (state next later : Supervisor) (action : SupervisorAction) (alert : Alert)
    (reached : Reached supervisor anyAction state) (moved : state.step action = some next)
    (raises : raisedBy action = some alert) (fatal : alert.level = Level.FATAL)
    (runs : Runs supervisor anyAction next later) : later.Faulted := by
  have inv := reached_invariant supervisor anyAction FatalSeen start_fatal_seen
    (fun source action target inv _ moved => step_fatal_seen source target action inv moved) state reached
  have fault := fatal_raise_faults state next action alert inv moved fatal (raised_taken state next action alert moved raises)
  exact runs_faulted next later (step_configured state next action inv.configured moved) fault runs

def expiringFatal : Alert where
  level := Level.FATAL
  src := "hardware_manager"
  code := AlertCodes.FTL_HW_CONTROLLER_FATAL
  ttl := .seconds 1

-- The alert expires, a session is asked for and the entry routine goes on.
def afterFatal : List SupervisorAction :=
  [.request (buildMessage .raise expiringFatal), .advance 1, .expireAlerts, .clearExpired,
    .request (buildMessage .raise ((creationRequest "10.0.0.2").alert .inf)), .spinupSystem true, .shutdownSystem,
    .request (buildMessage .clear ((creationRequest "10.0.0.2").alert .inf))]

theorem fatal_sticky_expired : ∃ later : Supervisor,
    (later.alertServer.getActiveAlerts = [] ∧ later.stage = .aborted) ∧ later.Faulted := by
  have ends : ((init.step .entrypoint).bind fun state =>
      (state.step (.request (buildMessage .raise expiringFatal))).bind fun next =>
        replay supervisor anyAction next afterFatal).any
      (fun later => decide (later.alertServer.getActiveAlerts = [] ∧ later.stage = .aborted)) = true := by
    decide +kernel
  obtain ⟨later, run, holds⟩ := (Option.any_eq_true _ _).mp ends
  simp only [Option.bind_eq_some_iff] at run
  obtain ⟨state, entered, next, raised, replayed⟩ := run
  have reached : Reached supervisor anyAction state :=
    ⟨init, init_start, Relation.ReflTransGen.refl.tail ⟨.entrypoint, trivial, entered⟩⟩
  exact ⟨later, of_decide_eq_true holds, fatal_sticky state next later _ expiringFatal reached raised (by decide) rfl
    (replay_runs supervisor anyAction afterFatal next later replayed)⟩

end Supervisor

end Animacharacter.Orchestration
