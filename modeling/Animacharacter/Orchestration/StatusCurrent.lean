import Animacharacter.Orchestration.SystemStatus

set_option autoImplicit false

namespace Animacharacter.Orchestration

open Alerts StepSystem

namespace Supervisor

def Current (supervisor : Supervisor) : Prop :=
  ∃ publication ∈ supervisor.published.head?, publication.status.stateId = toString supervisor.fsm.state ∧
    publication.status.isDegraded = warned supervisor.alertServer

def Agrees (server : SysAlertsServer) : Prop := isSystemDegraded server = warned server

-- A change that maps to an event is published and has to leave a table on which
-- the flag is right; any other one has to leave the presence of warnings as it is.
def changeKept (supervisor : Supervisor) : Option (SysAlertsServer × Option Change) → Prop
  | some (server, some change) =>
      if (mapAlertToSystemEvent change.1 change.2).isSome then Agrees server
      else warned server = warned supervisor.alertServer
  | _ => True

def statusKept (supervisor : Supervisor) : SupervisorAction → Prop
  | .spinupSystem ok => ok = true → Agrees supervisor.alertServer
  | .shutdownSystem => Agrees supervisor.alertServer
  | action => supervisor.changeKept (supervisor.served action)

instance (supervisor : Supervisor) : Decidable supervisor.Current := inferInstanceAs (Decidable (∃ _ ∈ _, _))

instance (server : SysAlertsServer) : Decidable (Agrees server) := inferInstanceAs (Decidable (_ = _))

instance (supervisor : Supervisor) : (result : Option (SysAlertsServer × Option Change)) →
    Decidable (supervisor.changeKept result)
  | some (server, some change) => inferInstanceAs (Decidable
      (if (mapAlertToSystemEvent change.1 change.2).isSome then Agrees server
        else warned server = warned supervisor.alertServer))
  | some (_, none) | none => inferInstanceAs (Decidable True)

instance (supervisor : Supervisor) : (action : SupervisorAction) → Decidable (supervisor.statusKept action)
  | .spinupSystem _ => inferInstanceAs (Decidable (_ → _))
  | .shutdownSystem => inferInstanceAs (Decidable (Agrees _))
  | .request message => inferInstanceAs (Decidable (supervisor.changeKept (supervisor.served (.request message))))
  | .processEvent event => inferInstanceAs (Decidable (supervisor.changeKept (supervisor.served (.processEvent event))))
  | .heartbeatTimeout name => inferInstanceAs (Decidable (supervisor.changeKept (supervisor.served (.heartbeatTimeout name))))
  | .clearExpired => inferInstanceAs (Decidable (supervisor.changeKept (supervisor.served .clearExpired)))
  | .advance _ | .entrypoint | .expireAlerts => inferInstanceAs (Decidable True)

structure StatusInvariant (supervisor : Supervisor) : Prop where
  configured : SystemFSM.Configured supervisor.fsm
  current : supervisor.stage = .started → supervisor.Current

theorem warned_same (left right : SysAlertsServer) (same : left.activeAlerts = right.activeAlerts) :
    warned left = warned right := by
  simp only [warned, SysAlertsServer.getAlertsFromLevel, SysAlertsServer.getActiveAlerts, same]

theorem event_current (state : Supervisor) (change : Change) (event : SystemEvent)
    (configured : SystemFSM.Configured state.fsm) (mapped : mapAlertToSystemEvent change.1 change.2 = some event) :
    (state.onAlertChangeCb change).Current ↔ Agrees state.alertServer := by
  obtain ⟨fsm, result, _, _, after⟩ := change_cb_event state change event configured mapped
  simp only [Current, after, after_event_published, List.head?_cons, Option.mem_def, Option.some.injEq, exists_eq_left',
    after_event_fsm, after_event_server, true_and, Agrees]

theorem unpublished_current (state : Supervisor) (server : SysAlertsServer) (current : state.Current) :
    { state with alertServer := server }.Current ↔ warned server = warned state.alertServer := by
  obtain ⟨newest, member, stateId, flag⟩ := current
  constructor
  · rintro ⟨publication, same, _, kept⟩
    rw [Option.mem_def] at member same
    simp only [member, Option.some.injEq] at same
    rw [← kept, ← same, flag]
  · intro same
    exact ⟨newest, member, stateId, by rw [flag, same]⟩

theorem serve_current (state : Supervisor) (action : SupervisorAction) (result : SysAlertsServer × Option Change)
    (configured : SystemFSM.Configured state.fsm) (current : state.Current) (taken : state.served action = some result) :
    (state.serve result).Current ↔ state.changeKept (some result) := by
  obtain ⟨server, published⟩ := result
  cases published with
  | none =>
      have same := warned_same _ _ (served_unpublished state action server taken)
      have kept := (unpublished_current state server current).mpr same
      simp only [serve, Option.elim, changeKept, iff_true]
      exact kept
  | some change =>
      simp only [serve, Option.elim, changeKept]
      cases mapped : mapAlertToSystemEvent change.1 change.2 with
      | none =>
          rw [change_cb_quiet _ change mapped, if_neg (by simp)]
          exact unpublished_current state server current
      | some event =>
          rw [if_pos (Option.isSome_some)]
          exact event_current { state with alertServer := server } change event configured mapped

theorem kept_served (state : Supervisor) (action : SupervisorAction) (result : SysAlertsServer × Option Change)
    (taken : state.served action = some result) : state.statusKept action ↔ state.changeKept (some result) := by
  rw [← taken]
  cases action with
  | spinupSystem _ | shutdownSystem => cases taken
  | _ => exact Iff.rfl

theorem publish_current (state : Supervisor) (legal : Bool) :
    (state.publishSystemStatus legal).Current ↔ Agrees state.alertServer := by
  simp only [Current, publishSystemStatus, List.head?_cons, Option.mem_def, Option.some.injEq, exists_eq_left', true_and,
    Agrees]

theorem serve_stage (state : Supervisor) (result : SysAlertsServer × Option Change)
    (configured : SystemFSM.Configured state.fsm) : (state.serve result).stage = state.stage := by
  cases published : result.2 with
  | none => simp only [serve, published, Option.elim]
  | some change =>
      simp only [serve, published, Option.elim]
      exact (change_cb_stage { state with alertServer := result.1 } change configured).1

theorem step_current (state next : Supervisor) (action : SupervisorAction) (configured : SystemFSM.Configured state.fsm)
    (started : state.stage = .started) (current : state.Current) (moved : state.step action = some next) :
    next.Current ↔ state.statusKept action := by
  cases step_cases state next action moved with
  | alert result taken after =>
      rw [after, kept_served state action result taken]
      exact serve_current state action result configured current taken
  | timer tick after =>
      rw [after]
      rcases tick with expiry | ⟨elapsed, clock⟩
      · rw [expiry]
        exact iff_of_true current trivial
      · rw [clock]
        exact iff_of_true current trivial
  | entered _ before _ =>
      rw [started] at before
      cases before
  | refused _ _ before _ =>
      rw [started] at before
      cases before
  | spunUp _ _ _ _ before _ _ =>
      rw [started] at before
      cases before
  | shutDown entry after =>
      rw [after, entry]
      exact publish_current _ _

theorem step_stays_started (state next : Supervisor) (action : SupervisorAction)
    (configured : SystemFSM.Configured state.fsm) (started : next.stage = .started) (moved : state.step action = some next) :
    state.stage = .started ∨ action = .spinupSystem true ∧ (next.Current ↔ Agrees state.alertServer) := by
  cases step_cases state next action moved with
  | alert result taken after =>
      rw [after] at started
      exact .inl (by rw [← serve_stage state result configured, started])
  | timer _ after =>
      rw [after] at started
      exact .inl started
  | entered _ _ after =>
      rw [after] at started
      cases started
  | refused _ _ _ after =>
      rw [after] at started
      cases started
  | spunUp ok fsm result entry before change after =>
      rw [after] at started
      cases ok with
      | false => cases started
      | true =>
          refine .inr ⟨entry, ?_⟩
          rw [after]
          exact publish_current { state with fsm } result.legalTransition
  | shutDown _ after =>
      rw [after] at started
      exact .inl started

theorem status_invariant (state : Supervisor) (reached : Reached supervisor statusKept state) : StatusInvariant state := by
  apply reached_invariant supervisor statusKept StatusInvariant _ _ state reached
  · rintro initial ⟨_, machine, _, stage, _⟩
    obtain ⟨fsm, built, _, configured⟩ := SystemFSM.init_configured
    rw [built] at machine
    cases machine
    exact ⟨configured, fun started => by rw [stage] at started; cases started⟩
  · intro source action target inv kept moved
    refine ⟨step_configured source target action inv.configured moved, fun started => ?_⟩
    rcases step_stays_started source target action inv.configured started moved with before | ⟨entry, published⟩
    · exact (step_current source target action inv.configured before (inv.current before) moved).mpr kept
    · rw [entry] at kept
      exact published.mpr (kept rfl)

theorem status_current (state : Supervisor) (reached : Reached supervisor statusKept state) (started : state.stage = .started) :
    state.Current ∧ ∀ action next, state.step action = some next → (next.Current ↔ state.statusKept action) := by
  have inv := status_invariant state reached
  exact ⟨inv.current started, fun action next moved =>
    step_current state next action inv.configured started (inv.current started) moved⟩

-- An information comes and expires, then a core process dies.
def crashAfterStart : List SupervisorAction :=
  [.entrypoint, .spinupSystem true,
    .request (buildMessage .raise { level := Level.INFO, src := "hardware_manager", code := 1, ttl := .seconds 0 }),
    .expireAlerts, .clearExpired, .processEvent ⟨"core:hardware_manager", 2, 1⟩, .advance 1]

theorem status_current_crash :
    ∃ state : Supervisor, (state.stage = .started ∧ state.fsm.state = .FAULT) ∧ state.Current := by
  obtain ⟨state, reached, ends⟩ := replay_exists supervisor statusKept crashAfterStart init
    (fun state => state.stage = .started ∧ state.fsm.state = .FAULT) init_start (by decide +kernel)
  exact ⟨state, ends, (status_current state reached ends.1).1⟩

def warnAfterStart : List SupervisorAction := [.entrypoint, .spinupSystem true, .heartbeatTimeout "monitor:webui"]

-- A session request is an information, and the status it causes says degraded.
def requestAfterStart : List SupervisorAction :=
  [.entrypoint, .spinupSystem true,
    .request (buildMessage .raise ((creationRequest "10.0.0.2").alert (.seconds 0)))]

theorem status_stale :
    (∃ state, Reached supervisor anyAction state ∧ state.stage = .started ∧
      (state.published.head?.map fun publication => publication.status.isDegraded) = some false ∧
      warned state.alertServer = true ∧ ¬ state.Current) ∧
    ∃ state, Reached supervisor anyAction state ∧ state.stage = .started ∧
      (state.published.head?.map fun publication => publication.status.isDegraded) = some true ∧
      warned state.alertServer = false ∧ ¬ state.Current := by
  constructor
  · exact replay_exists supervisor anyAction warnAfterStart init
      (fun state : Supervisor => state.stage = .started ∧
        (state.published.head?.map fun publication => publication.status.isDegraded) = some false ∧
        warned state.alertServer = true ∧ ¬ state.Current) init_start (by decide +kernel)
  · exact replay_exists supervisor anyAction requestAfterStart init
      (fun state : Supervisor => state.stage = .started ∧
        (state.published.head?.map fun publication => publication.status.isDegraded) = some true ∧
        warned state.alertServer = false ∧ ¬ state.Current) init_start (by decide +kernel)

end Supervisor

end Animacharacter.Orchestration
