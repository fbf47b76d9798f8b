import Animacharacter.Orchestration.SystemStatus

set_option autoImplicit false

namespace Animacharacter.Orchestration

open Alerts StepSystem

namespace Supervisor

-- Every published status refers to the alert that had first moved the machine
-- into FAULT, and to the empty alert when none had.
def NamesKiller (supervisor : Supervisor) : Prop :=
  ∀ publication ∈ supervisor.published, publication.status.faultRef = toRosAlert (publication.killer.getD emptyAlert)

-- The machine is in FAULT, or an alert has moved it there before, and this is
-- another fatal alert than that one. A later one finds the machine in SHUTDOWN
-- when the shutdown has come first, and takes it back to FAULT.
def anotherFatal (supervisor : Supervisor) (change : Change) : Bool :=
  mapAlertToSystemEvent change.1 change.2 = some .FATAL_FAULT &&
    (supervisor.fsm.state = .FAULT || supervisor.killer.isSome) &&
    toRosAlert change.2 ≠ toRosAlert (supervisor.killer.getD emptyAlert)

def singleKiller (supervisor : Supervisor) (action : SupervisorAction) : Prop :=
  ∀ result ∈ supervisor.served action, ∀ change ∈ result.2, supervisor.anotherFatal change = false

instance (supervisor : Supervisor) : Decidable supervisor.NamesKiller :=
  inferInstanceAs (Decidable (∀ _ ∈ _, _))

instance (supervisor : Supervisor) (action : SupervisorAction) : Decidable (supervisor.singleKiller action) :=
  inferInstanceAs (Decidable (∀ _ ∈ _, ∀ _ ∈ _, _))

structure KillerInvariant (supervisor : Supervisor) : Prop where
  configured : SystemFSM.Configured supervisor.fsm
  referred : toRosAlert (supervisor.faultRefAlert.getD emptyAlert) = toRosAlert (supervisor.killer.getD emptyAlert)
  named : supervisor.NamesKiller

theorem names_killer_cons (supervisor : Supervisor) (publication : Publication) (rest : List Publication)
    (published : supervisor.published = publication :: rest) :
    supervisor.NamesKiller ↔ publication.status.faultRef = toRosAlert (publication.killer.getD emptyAlert) ∧
      ∀ earlier ∈ rest, earlier.status.faultRef = toRosAlert (earlier.killer.getD emptyAlert) := by
  simp only [NamesKiller, published, List.forall_mem_cons]

theorem fatal_changes (fsm next : FSM SystemState) (result : StateChangeResult SystemState)
    (processed : SystemFSM.processEvent fsm .FATAL_FAULT = .ok (next, result)) :
    result.changed = true ↔ fsm.state ≠ .FAULT := by
  simp only [SystemFSM.processEvent, if_true] at processed
  by_cases fault : fsm.state = .FAULT
  · rw [if_pos fault] at processed
    cases processed
    simp [StateChangeResult.changed, fault]
  · rw [if_neg fault] at processed
    by_cases allowed : SystemState.FAULT ∈ (fsm.transitions.get fsm.state).getD ∅
    · simp only [FSM.forceChangeState, FSM.changeState, allowed, not_true_eq_false, if_false, Except.ok.injEq] at processed
      cases processed
      simp [StateChangeResult.changed, fault]
    · simp only [FSM.forceChangeState, FSM.changeState, allowed, not_false_eq_true, if_true, Except.ok.injEq] at processed
      cases processed
      simp [StateChangeResult.changed, fault]

-- The reference and the killer after an event, which the two functions below
-- name, agree iff the event is not another fatal alert.
def referredAfter (state : Supervisor) (alert : Alert) (event : SystemEvent) : Option Alert :=
  if event = .FATAL_FAULT then some alert else state.faultRefAlert

def killerAfter (state : Supervisor) (alert : Alert) (event : SystemEvent) (result : StateChangeResult SystemState) :
    Option Alert :=
  if event = .FATAL_FAULT ∧ result.changed then some (state.killer.getD alert) else state.killer

theorem referred_after_iff (state : Supervisor) (change : Change) (event : SystemEvent) (next : FSM SystemState)
    (result : StateChangeResult SystemState) (inv : KillerInvariant state)
    (mapped : mapAlertToSystemEvent change.1 change.2 = some event)
    (processed : SystemFSM.processEvent state.fsm event = .ok (next, result)) :
    toRosAlert ((state.referredAfter change.2 event).getD emptyAlert) =
        toRosAlert ((state.killerAfter change.2 event result).getD emptyAlert) ↔ state.anotherFatal change = false := by
  by_cases fatal : event = .FATAL_FAULT
  · subst fatal
    have changes := fatal_changes state.fsm next result processed
    by_cases fault : state.fsm.state = .FAULT
    · have same : ¬ result.changed = true := fun moved => changes.mp moved fault
      simp [referredAfter, killerAfter, anotherFatal, mapped, fault, same]
    · have moved : result.changed = true := changes.mpr fault
      cases killer : state.killer <;> simp [referredAfter, killerAfter, anotherFatal, mapped, fault, moved, killer]
  · have referred := inv.referred
    simp [referredAfter, killerAfter, anotherFatal, mapped, fatal, referred]

theorem change_cb_killer (state : Supervisor) (change : Change) (inv : KillerInvariant state) :
    ((state.onAlertChangeCb change).NamesKiller ↔ state.anotherFatal change = false) ∧
      (state.anotherFatal change = false → KillerInvariant (state.onAlertChangeCb change)) := by
  cases mapped : mapAlertToSystemEvent change.1 change.2 with
  | none =>
      rw [change_cb_quiet state change mapped]
      have other : state.anotherFatal change = false := by simp [anotherFatal, mapped]
      exact ⟨iff_of_true inv.named other, fun _ => inv⟩
  | some event =>
      obtain ⟨fsm, result, processed, configured, after⟩ := change_cb_event state change event inv.configured mapped
      have agree := referred_after_iff state change event fsm result inv mapped processed
      have names : (state.onAlertChangeCb change).NamesKiller ↔ state.anotherFatal change = false := by
        rw [after, names_killer_cons _ _ _ (after_event_published _ _ _ _ _), ← agree]
        exact and_iff_left inv.named
      refine ⟨names, fun single => ⟨?_, ?_, names.mpr single⟩⟩
      · rw [after, after_event_fsm]
        exact configured
      · rw [after, after_event_fault_ref, after_event_killer]
        exact agree.mpr single

theorem publish_killer (state : Supervisor) (legal : Bool) (inv : KillerInvariant state) :
    (state.publishSystemStatus legal).NamesKiller :=
  (names_killer_cons _ _ _ rfl).mpr ⟨inv.referred, inv.named⟩

theorem kept_killer (state next : Supervisor) (action : SupervisorAction) (single : state.singleKiller action)
    (kept : KillerInvariant next) :
    (next.NamesKiller ↔ state.singleKiller action) ∧ (state.singleKiller action → KillerInvariant next) :=
  ⟨iff_of_true kept.named single, fun _ => kept⟩

theorem step_killer (state next : Supervisor) (action : SupervisorAction) (inv : KillerInvariant state)
    (moved : state.step action = some next) :
    (next.NamesKiller ↔ state.singleKiller action) ∧ (state.singleKiller action → KillerInvariant next) := by
  have configured := step_configured state next action inv.configured moved
  cases step_cases state next action moved with
  | alert result taken after =>
      obtain ⟨server, published⟩ := result
      cases published with
      | none =>
          have single : state.singleKiller action := by simp [singleKiller, taken]
          refine kept_killer state next action single ?_
          rw [after]
          exact ⟨inv.configured, inv.referred, inv.named⟩
      | some change =>
          have single : state.singleKiller action ↔ state.anotherFatal change = false := by
            simp only [singleKiller, taken, Option.mem_def, Option.some.injEq, forall_eq']
          obtain ⟨names, kept⟩ := change_cb_killer { state with alertServer := server } change
            ⟨inv.configured, inv.referred, inv.named⟩
          rw [after, single]
          refine ⟨names, fun lone => ?_⟩
          have inner := kept lone
          exact ⟨inner.configured, inner.referred, inner.named⟩
  | timer tick after =>
      have unserved : state.served action = none := by
        rcases tick with rfl | ⟨elapsed, rfl⟩ <;> rfl
      have single : state.singleKiller action := by simp [singleKiller, unserved]
      refine kept_killer state next action single ?_
      rw [after]
      exact ⟨inv.configured, inv.referred, inv.named⟩
  | entered entry _ after =>
      have single : state.singleKiller action := by simp [singleKiller, entry, served]
      refine kept_killer state next action single ?_
      rw [after]
      exact ⟨inv.configured, inv.referred, publish_killer state true inv⟩
  | refused ok entry _ after =>
      have single : state.singleKiller action := by simp [singleKiller, entry, served]
      refine kept_killer state next action single ?_
      rw [after]
      exact ⟨inv.configured, inv.referred, inv.named⟩
  | spunUp ok fsm result entry _ change after =>
      have single : state.singleKiller action := by simp [singleKiller, entry, served]
      refine kept_killer state next action single ⟨configured, ?_, ?_⟩
      · rw [after]
        exact inv.referred
      · rw [after]
        exact publish_killer { state with fsm } result.legalTransition
          ⟨(change_state_configured state.fsm fsm _ result inv.configured change).1, inv.referred, inv.named⟩
  | shutDown entry after =>
      have single : state.singleKiller action := by simp [singleKiller, entry, served]
      refine kept_killer state next action single ⟨configured, ?_, ?_⟩
      · rw [after]
        exact inv.referred
      · rw [after]
        exact publish_killer { state with
          fsm := (state.fsm.forceChangeState .SHUTDOWN).1
          shutdowns := state.shutdowns - 1 } _ ⟨force_configured state.fsm .SHUTDOWN inv.configured, inv.referred, inv.named⟩

theorem killer_invariant (state : Supervisor) (reached : Reached supervisor singleKiller state) : KillerInvariant state := by
  apply reached_invariant supervisor singleKiller KillerInvariant _ _ state reached
  · rintro initial ⟨_, machine, unreferred, _, _, _, unpublished, unkilled⟩
    obtain ⟨fsm, built, _, configured⟩ := SystemFSM.init_configured
    rw [built] at machine
    cases machine
    refine ⟨configured, by rw [unreferred, unkilled], ?_⟩
    intro publication member
    rw [unpublished] at member
    cases member
  · intro source action target inv single moved
    exact (step_killer source target action inv moved).2 single

theorem fault_ref_names_killer (state : Supervisor) (reached : Reached supervisor singleKiller state) :
    state.NamesKiller ∧ ∀ action next, state.step action = some next → (next.NamesKiller ↔ state.singleKiller action) := by
  have inv := killer_invariant state reached
  exact ⟨inv.named, fun action next moved => (step_killer state next action inv moved).1⟩

def controllerFatal : Alert where
  level := Level.FATAL
  src := "hardware_manager"
  code := AlertCodes.FTL_HW_CONTROLLER_FATAL
  brief := "Fatal error in controller 'arm'"

-- A fatal alert, the shutdown, and the same alert once more.
def fatalThenShutdown : List SupervisorAction :=
  [.entrypoint, .spinupSystem true, .request (buildMessage .raise controllerFatal),
    .request (buildMessage .raise controllerFatal), .advance 1, .shutdownSystem]

theorem fault_ref_names_killer_shutdown :
    ∃ state : Supervisor, (state.fsm.state = .SHUTDOWN ∧ state.killer = some controllerFatal) ∧ state.NamesKiller := by
  obtain ⟨state, reached, ends⟩ := replay_exists supervisor singleKiller fatalThenShutdown init
    (fun state => state.fsm.state = .SHUTDOWN ∧ state.killer = some controllerFatal) init_start (by decide +kernel)
  exact ⟨state, ends, (fault_ref_names_killer state reached).1⟩

-- The node's own alert, and then the exit of its process.
def fatalThenExit : List SupervisorAction :=
  [.entrypoint, .spinupSystem true, .request (buildMessage .raise controllerFatal),
    .processEvent ⟨"core:hardware_manager", 1, 40⟩]

def fatalShutdownExit : List SupervisorAction :=
  [.entrypoint, .spinupSystem true, .request (buildMessage .raise controllerFatal), .shutdownSystem,
    .processEvent ⟨"core:hardware_manager", 1, 40⟩]

def namesCrash (state : Supervisor) : Prop :=
  state.fsm.state = .FAULT ∧ state.killer = some controllerFatal ∧
    (state.published.head?.map fun publication => publication.status.faultRef.code) =
      some (Int32.ofInt AlertCodes.FTL_CORE_PROC_CRASH) ∧ ¬ state.NamesKiller

instance (state : Supervisor) : Decidable state.namesCrash :=
  inferInstanceAs (Decidable (_ ∧ _ ∧ _ ∧ _))

theorem fault_ref_overwritten :
    (∃ state, Reached supervisor anyAction state ∧ state.namesCrash) ∧
      ∃ state, Reached supervisor anyAction state ∧ state.namesCrash ∧
        (state.published.map fun publication => publication.status.stateId).contains "SHUTDOWN" = true :=
  ⟨replay_exists supervisor anyAction fatalThenExit init namesCrash init_start (by decide +kernel),
    replay_exists supervisor anyAction fatalShutdownExit init
      (fun state => state.namesCrash ∧
        (state.published.map fun publication => publication.status.stateId).contains "SHUTDOWN" = true)
      init_start (by decide +kernel)⟩

end Supervisor

end Animacharacter.Orchestration
