import Animacharacter.Orchestration.MachineMoves

set_option autoImplicit false

namespace Animacharacter.Orchestration

open Alerts StepSystem

namespace Supervisor

-- The entry routine's change_state on either result of spinup_system.
def entrypointChange (supervisor : Supervisor) (ok : Bool) : Except String (FSM SystemState × StateChangeResult SystemState) :=
  supervisor.fsm.changeState (spinupTarget ok)

-- As long as the entry routine has its change_state to make, it would not raise.
def StartsUp (supervisor : Supervisor) : Prop :=
  supervisor.starting = true → ∀ ok, (supervisor.entrypointChange ok).isOk = true

def noEarlyFatal (supervisor : Supervisor) (action : SupervisorAction) : Prop :=
  supervisor.starting = true → supervisor.eventOf action ≠ some .FATAL_FAULT

instance (supervisor : Supervisor) : Decidable supervisor.StartsUp := inferInstanceAs (Decidable (_ → ∀ _ : Bool, _))

instance (supervisor : Supervisor) (action : SupervisorAction) : Decidable (supervisor.noEarlyFatal action) :=
  inferInstanceAs (Decidable (_ → _))

structure Booting (supervisor : Supervisor) : Prop where
  configured : SystemFSM.Configured supervisor.fsm
  idle : supervisor.starting = true → supervisor.fsm.state = .BOOTING ∧ supervisor.shutdowns = 0

theorem entrypoint_change_ok (state : Supervisor) (ok : Bool) (configured : SystemFSM.Configured state.fsm) :
    (state.entrypointChange ok).isOk = true ↔
      spinupTarget ok ∈ (SystemFSM.transitionTable.lookup state.fsm.state).getD ∅ := by
  rw [← configured state.fsm.state]
  by_cases allowed : spinupTarget ok ∈ (state.fsm.transitions.get state.fsm.state).getD ∅
  · simp only [entrypointChange, FSM.changeState, allowed, not_true_eq_false, if_false]
    exact iff_of_true rfl trivial
  · simp only [entrypointChange, FSM.changeState, allowed, not_false_eq_true, if_true]
    exact iff_of_false (fun raised => by cases raised) id

theorem booting_starts_up (state : Supervisor) (inv : Booting state) : state.StartsUp := by
  intro early ok
  rw [entrypoint_change_ok state ok inv.configured, (inv.idle early).1]
  cases ok <;> decide

theorem step_booting (source target : Supervisor) (action : SupervisorAction) (inv : Booting source)
    (admitted : source.noEarlyFatal action) (moved : source.step action = some target) : Booting target := by
  refine ⟨step_configured source target action inv.configured moved, fun early => ?_⟩
  cases machine_move source target action inv.configured moved with
  | still _ same due stage =>
      rw [same, due]
      exact inv.idle (stage early)
  | event event came there due stage =>
      have before : source.starting = true := stage ▸ early
      obtain ⟨booting, idle⟩ := inv.idle before
      have stays : target.fsm.state = .BOOTING := by
        rw [there, booting]
        cases event with
        | FATAL_FAULT => exact absurd came (admitted before)
        | _ => rfl
      refine ⟨stays, ?_⟩
      rw [due, idle, if_neg fun both => by rw [stays] at both; cases both.2]
  | spunUp _ _ _ _ _ _ finished =>
      rw [finished] at early
      cases early
  | shutDown _ before _ _ stage =>
      have idle := (inv.idle (stage ▸ early)).2
      rw [idle] at before
      cases before

theorem start_booting (state : Supervisor) (started : supervisor.start state) : Booting state := by
  obtain ⟨configured, booting, idle, _⟩ := start_facts state started
  exact ⟨configured, fun _ => ⟨booting, idle⟩⟩

theorem early_fatal_raises (source target : Supervisor) (action : SupervisorAction) (inv : Booting source)
    (moved : source.step action = some target) (kept : target.StartsUp) : source.noEarlyFatal action := by
  intro early fatal
  have configured := step_configured source target action inv.configured moved
  cases machine_move source target action inv.configured moved with
  | event event came there _ stage =>
      rw [fatal] at came
      cases came
      have fault : target.fsm.state = .FAULT := there
      have allowed := (entrypoint_change_ok target true configured).mp (kept (stage.trans early) true)
      rw [fault] at allowed
      exact absurd allowed (by decide)
  | still quiet _ _ _ | spunUp _ quiet _ _ _ _ _ | shutDown quiet _ _ _ _ =>
      rw [fatal] at quiet
      cases quiet

theorem startup_survives (state : Supervisor) (reached : Reached supervisor noEarlyFatal state) :
    state.StartsUp ∧ ∀ action next, state.step action = some next → (next.StartsUp ↔ state.noEarlyFatal action) := by
  have inv := reached_invariant supervisor noEarlyFatal Booting start_booting
    (fun source action target inv admitted moved => step_booting source target action inv admitted moved) state reached
  refine ⟨booting_starts_up state inv, fun action next moved => ⟨?_, ?_⟩⟩
  · exact fun kept => early_fatal_raises state next action inv moved kept
  · exact fun admitted => booting_starts_up next (step_booting state next action inv admitted moved)

-- Warnings and a session request come in while the system is spun up.
def warnedStartup : List SupervisorAction :=
  [.heartbeatTimeout "monitor:webui", .entrypoint, .request (buildMessage .raise ((creationRequest "10.0.0.2").alert .inf)),
    .processEvent ⟨"monitor:webui", 2, 1⟩]

theorem startup_survives_warnings : ∃ state : Supervisor,
    (state.stage = .spinningUp ∧ warned state.alertServer = true) ∧ state.StartsUp := by
  obtain ⟨state, reached, ends⟩ := replay_exists supervisor noEarlyFatal warnedStartup init
    (fun state : Supervisor => state.stage = .spinningUp ∧ warned state.alertServer = true) init_start (by decide +kernel)
  exact ⟨state, ends, (startup_survives state reached).1⟩

-- A core process dies while the entry routine awaits spinup_system.
def earlyFault : List SupervisorAction := [.entrypoint, .processEvent ⟨"core:session_manager", 2, 1⟩]

theorem early_fault_raises : ∃ state, Reached supervisor anyAction state ∧ state.stage = .spinningUp ∧
    (∀ ok, (state.entrypointChange ok).isOk = false) ∧ ¬ state.StartsUp :=
  replay_exists supervisor anyAction earlyFault init
    (fun state : Supervisor => state.stage = .spinningUp ∧ (∀ ok, (state.entrypointChange ok).isOk = false) ∧
      ¬ state.StartsUp) init_start (by decide +kernel)

end Supervisor

end Animacharacter.Orchestration
