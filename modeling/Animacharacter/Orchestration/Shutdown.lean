import Animacharacter.Orchestration.MachineMoves

set_option autoImplicit false

namespace Animacharacter.Orchestration

open Alerts StepSystem

-- A run of the node: how often shutdown_system was scheduled or called in it,
-- and whether the machine has been in SHUTDOWN.
structure Lifetime where
  node : Supervisor
  requested : Nat
  ended : Bool

namespace Lifetime

def after (lifetime : Lifetime) (next : Supervisor) : Lifetime where
  node := next
  requested := lifetime.requested + (next.shutdowns - lifetime.node.shutdowns)
  ended := lifetime.ended || next.fsm.state = .SHUTDOWN

def step (lifetime : Lifetime) (action : SupervisorAction) : Option Lifetime :=
  (lifetime.node.step action).map lifetime.after

def ShutsDownOnce (lifetime : Lifetime) : Prop :=
  lifetime.requested ≤ 1 ∧ (lifetime.ended = true → lifetime.node.fsm.state = .SHUTDOWN)

def noLateFatal (lifetime : Lifetime) (action : SupervisorAction) : Prop :=
  lifetime.node.fsm.state = .SHUTDOWN → lifetime.node.eventOf action ≠ some .FATAL_FAULT

instance (lifetime : Lifetime) : Decidable lifetime.ShutsDownOnce := inferInstanceAs (Decidable (_ ∧ (_ → _)))

instance (lifetime : Lifetime) (action : SupervisorAction) : Decidable (lifetime.noLateFatal action) :=
  inferInstanceAs (Decidable (_ → _))

end Lifetime

def lifetimes : System Lifetime SupervisorAction where
  start lifetime := supervisor.start lifetime.node ∧ lifetime.requested = 0 ∧ lifetime.ended = false
  step := Lifetime.step

namespace Lifetime

structure Orderly (lifetime : Lifetime) : Prop where
  configured : SystemFSM.Configured lifetime.node.fsm
  due : lifetime.node.shutdowns ≤ lifetime.requested
  once : lifetime.requested ≤ 1
  asked : lifetime.requested = 1 ↔ SystemFSM.faulted lifetime.node.fsm.state = true
  final : lifetime.ended = true ↔ lifetime.node.fsm.state = .SHUTDOWN

theorem faulted_of_shutdown (state : SystemState) (down : state = .SHUTDOWN) : SystemFSM.faulted state = true := by
  rw [down]
  rfl

theorem sound_unended (lifetime : Lifetime) (inv : lifetime.Orderly)
    (sound : SystemFSM.faulted lifetime.node.fsm.state = false) : lifetime.ended = false := by
  cases ended : lifetime.ended with
  | false => rfl
  | true => simp [faulted_of_shutdown _ (inv.final.mp ended)] at sound

theorem orderly_unasked (lifetime : Lifetime) (next : Supervisor) (inv : lifetime.Orderly)
    (configured : SystemFSM.Configured next.fsm) (due : next.shutdowns ≤ lifetime.node.shutdowns)
    (asked : lifetime.requested = 1 ↔ SystemFSM.faulted next.fsm.state = true)
    (final : lifetime.ended = true → next.fsm.state = .SHUTDOWN) : (lifetime.after next).Orderly := by
  have none : next.shutdowns - lifetime.node.shutdowns = 0 := Nat.sub_eq_zero_of_le due
  refine ⟨configured, ?_, ?_, ?_, ?_⟩
  · simp only [after, none, Nat.add_zero]
    exact Nat.le_trans due inv.due
  · simp only [after, none, Nat.add_zero]
    exact inv.once
  · simp only [after, none, Nat.add_zero]
    exact asked
  · simp only [after, Bool.or_eq_true, decide_eq_true_eq]
    exact ⟨fun ended => ended.elim final id, .inr⟩

theorem orderly_still (lifetime : Lifetime) (next : Supervisor) (inv : lifetime.Orderly)
    (configured : SystemFSM.Configured next.fsm) (same : next.fsm.state = lifetime.node.fsm.state)
    (due : next.shutdowns = lifetime.node.shutdowns) : (lifetime.after next).Orderly := by
  refine orderly_unasked lifetime next inv configured (Nat.le_of_eq due) ?_ ?_
  · rw [same]
    exact inv.asked
  · rw [same]
    exact inv.final.mp

theorem orderly_sound (lifetime : Lifetime) (next : Supervisor) (inv : lifetime.Orderly)
    (configured : SystemFSM.Configured next.fsm) (sound : SystemFSM.faulted lifetime.node.fsm.state = false)
    (stays : SystemFSM.faulted next.fsm.state = false) (due : next.shutdowns = lifetime.node.shutdowns) :
    (lifetime.after next).Orderly := by
  refine orderly_unasked lifetime next inv configured (Nat.le_of_eq due) ?_ ?_
  · rw [inv.asked, sound, stays]
  · intro ended
    rw [sound_unended lifetime inv sound] at ended
    cases ended

theorem orderly_fault (lifetime : Lifetime) (next : Supervisor) (inv : lifetime.Orderly)
    (configured : SystemFSM.Configured next.fsm) (sound : SystemFSM.faulted lifetime.node.fsm.state = false)
    (fault : next.fsm.state = .FAULT) (due : next.shutdowns = lifetime.node.shutdowns + 1) :
    (lifetime.after next).Orderly := by
  have unasked : lifetime.requested = 0 := by
    have other : lifetime.requested ≠ 1 := fun one => by simp [inv.asked.mp one] at sound
    have bound := inv.once
    omega
  have pending : lifetime.node.shutdowns = 0 := Nat.le_zero.mp (unasked ▸ inv.due)
  have running := sound_unended lifetime inv sound
  refine ⟨configured, ?_, ?_, ?_, ?_⟩
  · simp [after, due, unasked, pending]
  · simp [after, due, unasked, pending]
  · simp [after, due, unasked, pending, fault, SystemFSM.faulted]
  · simp [after, running, fault]

theorem orderly_event (lifetime : Lifetime) (next : Supervisor) (action : SupervisorAction) (event : SystemEvent)
    (inv : lifetime.Orderly) (configured : SystemFSM.Configured next.fsm)
    (came : lifetime.node.eventOf action = some event)
    (moved : next.fsm.state = SystemFSM.nextState event lifetime.node.fsm.state)
    (due : next.shutdowns = lifetime.node.shutdowns +
      if lifetime.node.fsm.state ≠ .FAULT ∧ next.fsm.state = .FAULT then 1 else 0)
    (admitted : lifetime.noLateFatal action) : (lifetime.after next).Orderly := by
  cases fault : SystemFSM.faulted lifetime.node.fsm.state with
  | true =>
      have stays : next.fsm.state = lifetime.node.fsm.state := by
        rw [moved]
        simp only [SystemFSM.faulted, Bool.or_eq_true, decide_eq_true_eq] at fault
        rcases fault with here | down
        · rw [here]
          cases event <;> rfl
        · rw [down]
          cases event with
          | FATAL_FAULT => exact absurd came (admitted down)
          | _ => rfl
      refine orderly_still lifetime next inv configured stays ?_
      rw [due, if_neg (by rw [stays]; exact fun both => both.1 both.2), Nat.add_zero]
  | false =>
      have fatal := SystemFSM.next_state_faulted event lifetime.node.fsm.state
      rw [← moved, fault, Bool.or_false] at fatal
      by_cases fault_event : event = .FATAL_FAULT
      · have there : next.fsm.state = .FAULT := by
          rw [moved, fault_event]
          rfl
        have elsewhere : lifetime.node.fsm.state ≠ .FAULT := fun here => by simp [here, SystemFSM.faulted] at fault
        refine orderly_fault lifetime next inv configured fault there ?_
        rw [due, if_pos ⟨elsewhere, there⟩]
      · simp only [fault_event, decide_false] at fatal
        have elsewhere : next.fsm.state ≠ .FAULT := fun here => by simp [here, SystemFSM.faulted] at fatal
        refine orderly_sound lifetime next inv configured fault fatal ?_
        rw [due, if_neg fun both => elsewhere both.2, Nat.add_zero]

theorem step_orderly (source target : Lifetime) (action : SupervisorAction) (inv : source.Orderly)
    (admitted : source.noLateFatal action) (stepped : source.step action = some target) : target.Orderly := by
  obtain ⟨next, moved, rfl⟩ := Option.map_eq_some_iff.mp stepped
  have configured := Supervisor.step_configured source.node next action inv.configured moved
  cases Supervisor.machine_move source.node next action inv.configured moved with
  | still _ same due _ => exact orderly_still source next inv configured same due
  | event event came moved due _ => exact orderly_event source next action event inv configured came moved due admitted
  | spunUp ok _ _ allowed moved due _ =>
      have sound : SystemFSM.faulted source.node.fsm.state = false := by
        cases fault : SystemFSM.faulted source.node.fsm.state with
        | false => rfl
        | true =>
            have down := SystemFSM.faulted_leaves _ _ fault allowed
            cases ok <;> cases down
      cases ok with
      | false => exact orderly_fault source next inv configured sound moved due
      | true => exact orderly_sound source next inv configured sound (by rw [moved]; rfl) due
  | shutDown _ before moved due _ =>
      have asked : source.requested = 1 := by
        have lower := inv.due
        have upper := inv.once
        omega
      refine orderly_unasked source next inv configured (by omega) ?_ (fun _ => moved)
      rw [moved]
      exact iff_of_true asked rfl

theorem start_orderly (lifetime : Lifetime) (started : lifetimes.start lifetime) : lifetime.Orderly := by
  obtain ⟨node, unasked, running⟩ := started
  obtain ⟨configured, booting, idle, _⟩ := Supervisor.start_facts lifetime.node node
  refine ⟨configured, ?_, ?_, ?_, ?_⟩
  · rw [idle]
    exact Nat.zero_le _
  · rw [unasked]
    exact Nat.zero_le _
  · simp [unasked, booting, SystemFSM.faulted]
  · simp [running, booting]

theorem lifetime_orderly (lifetime : Lifetime) (reached : Reached lifetimes noLateFatal lifetime) : lifetime.Orderly :=
  reached_invariant lifetimes noLateFatal Orderly start_orderly
    (fun source action target inv admitted stepped => step_orderly source target action inv admitted stepped)
    lifetime reached

theorem late_fatal_revives (source target : Lifetime) (action : SupervisorAction) (inv : source.Orderly)
    (stepped : source.step action = some target) (kept : target.ShutsDownOnce) : source.noLateFatal action := by
  intro down fatal
  obtain ⟨next, moved, rfl⟩ := Option.map_eq_some_iff.mp stepped
  have stays : next.fsm.state = .SHUTDOWN := kept.2 (by simp [after, inv.final.mpr down])
  cases Supervisor.machine_move source.node next action inv.configured moved with
  | event event came moved _ _ =>
      rw [fatal] at came
      cases came
      rw [moved] at stays
      cases stays
  | still quiet _ _ _ | spunUp _ quiet _ _ _ _ _ | shutDown quiet _ _ _ _ =>
      rw [fatal] at quiet
      cases quiet

theorem shutdown_final (lifetime : Lifetime) (reached : Reached lifetimes noLateFatal lifetime) :
    lifetime.ShutsDownOnce ∧
      ∀ action next, lifetime.step action = some next → (next.ShutsDownOnce ↔ lifetime.noLateFatal action) := by
  have inv := lifetime_orderly lifetime reached
  refine ⟨⟨inv.once, inv.final.mp⟩, fun action next stepped => ⟨?_, ?_⟩⟩
  · exact fun kept => late_fatal_revives lifetime next action inv stepped kept
  · intro admitted
    have kept := step_orderly lifetime next action inv admitted stepped
    exact ⟨kept.once, kept.final.mp⟩

def init : Lifetime := ⟨Supervisor.init, 0, false⟩

theorem init_start : lifetimes.start init := ⟨Supervisor.init_start, rfl, rfl⟩

-- A core process dies, another one before the shutdown, and a session is asked for after it.
def faultAndShutdown : List SupervisorAction :=
  [.entrypoint, .spinupSystem true, .processEvent ⟨"core:hardware_manager", 2, 1⟩, .heartbeatTimeout "core:session_manager",
    .advance 1, .shutdownSystem, .request (buildMessage .raise ((creationRequest "10.0.0.2").alert .inf))]

theorem shutdown_final_fault : ∃ lifetime : Lifetime,
    (lifetime.node.fsm.state = .SHUTDOWN ∧ lifetime.requested = 1) ∧ lifetime.ShutsDownOnce := by
  obtain ⟨lifetime, reached, ends⟩ := replay_exists lifetimes noLateFatal faultAndShutdown init
    (fun lifetime : Lifetime => lifetime.node.fsm.state = .SHUTDOWN ∧ lifetime.requested = 1) init_start (by decide +kernel)
  exact ⟨lifetime, ends, (shutdown_final lifetime reached).1⟩

-- The shutdown ends a core process, and its exit is a fatal alert again.
def exitAfterShutdown : List SupervisorAction :=
  [.entrypoint, .spinupSystem true, .heartbeatTimeout "core:session_manager", .advance 1, .shutdownSystem,
    .processEvent ⟨"core:hardware_manager", 1, 0⟩]

theorem shutdown_repeated : ∃ lifetime : Lifetime, Reached lifetimes anyAction lifetime ∧ lifetime.requested = 2 ∧
    lifetime.ended = true ∧ lifetime.node.fsm.state = .FAULT ∧ ¬ lifetime.ShutsDownOnce :=
  replay_exists lifetimes anyAction exitAfterShutdown init
    (fun lifetime : Lifetime => lifetime.requested = 2 ∧ lifetime.ended = true ∧ lifetime.node.fsm.state = .FAULT ∧
      ¬ lifetime.ShutsDownOnce) init_start (by decide +kernel)

end Lifetime

end Animacharacter.Orchestration
