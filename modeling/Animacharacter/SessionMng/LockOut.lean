import Animacharacter.SessionMng.Resources
import Animacharacter.SessionMng.Exclusion

set_option autoImplicit false

namespace Animacharacter.SessionMng

open StepSystem

-- A runner thread that has its clear of active_session still ahead of it.
def ClearsAhead : Option RunnerPc → Prop
  | some .run | some .cleanup | some .destroy | some .clear => True
  | _ => False

instance : (thread : Option RunnerPc) → Decidable (ClearsAhead thread)
  | some .run | some .cleanup | some .destroy | some .clear => .isTrue trivial
  | none | some .userCleanup | some .ended => .isFalse id

-- The cleanup goes on to the clear: no BaseException from a callback in front of
-- the manager's, and a destruction that succeeds.
def CleanupEnd.goesOn (ending : CleanupEnd) : Option RunnerPc → Bool
  | some .cleanup => ending ≠ .exits
  | some .destroy => ending = .ok
  | _ => true

-- A session is recorded before its thread's clear, and the cleanup of the session
-- that is active goes on to it.
def clearReached (manager : SessionManager) : SessionAction → Prop
  | .newSessionStep index _ =>
      (manager.calls[index]?.all fun call => call.pc ≠ .record || ClearsAhead call.thread) = true
  | .runnerStep index ending => manager.activeSession = some index →
      (manager.calls[index]?.all fun call => ending.goesOn call.thread) = true
  | _ => True

instance (manager : SessionManager) : (action : SessionAction) → Decidable (clearReached manager action)
  | .newSessionStep _ _ => inferInstanceAs (Decidable (_ = true))
  | .runnerStep _ _ => inferInstanceAs (Decidable (_ → _))
  | .newSession | .terminateSession | .terminateStep _ => inferInstanceAs (Decidable True)

def ActiveAhead (manager : SessionManager) : Prop :=
  ∀ index, manager.activeSession = some index → ∃ call, manager.calls[index]? = some call ∧ ClearsAhead call.thread

-- No session whose thread has ended is active, so nothing refuses a new call
-- once every thread has ended.
structure NoLockOut (manager : SessionManager) : Prop where
  released : Each (fun index call => call.thread = some .ended → manager.activeSession ≠ some index) manager.calls
  admits : Each (fun _ call => call.isAlive = false) manager.calls → manager.activeSession = none

theorem ahead_alive (call : Call) (ahead : ClearsAhead call.thread) : call.isAlive = true := by
  cases thread : call.thread with
  | none => simp [thread, ClearsAhead] at ahead
  | some pc => cases pc <;> simp_all [ClearsAhead, Call.isAlive]

theorem active_ahead_free (manager : SessionManager) (ahead : ActiveAhead manager) : NoLockOut manager := by
  constructor
  · intro index call present ended owns
    obtain ⟨other, same, alive⟩ := ahead index owns
    rw [present] at same
    cases same
    rw [ended] at alive
    exact alive
  · intro dead
    cases active : manager.activeSession with
    | none => rfl
    | some index =>
        obtain ⟨call, present, going⟩ := ahead index active
        have alive := ahead_alive call going
        rw [dead index call present] at alive
        cases alive

theorem ahead_set (manager : SessionManager) (index : Nat) (call after : Call) (ahead : ActiveAhead manager)
    (present : manager.calls[index]? = some call)
    (keeps : manager.activeSession = some index → ClearsAhead call.thread → ClearsAhead after.thread) :
    ∀ active, manager.activeSession = some active →
      ∃ found, (manager.calls.set index after)[active]? = some found ∧ ClearsAhead found.thread := by
  intro active owns
  obtain ⟨found, at_active, going⟩ := ahead active owns
  by_cases same : index = active
  · subst same
    rw [present] at at_active
    cases at_active
    exact ⟨after, List.getElem?_set_self (List.getElem?_eq_some_iff.mp present).1, keeps owns going⟩
  · exact ⟨found, by rw [List.getElem?_set_ne same]; exact at_active, going⟩

theorem ahead_new_session (manager next : SessionManager) (index : Nat) (call : Call) (ahead : ActiveAhead manager)
    (present : manager.calls[index]? = some call) (recorded : call.pc = .record → ClearsAhead call.thread)
    (step : NewSessionCase manager index call next) : ActiveAhead next := by
  cases step with
  | walks after result thread _ _ _ =>
      subst result
      exact ahead_set manager index call after ahead present (fun _ going => thread ▸ going)
  | acquires after result thread _ _ _ =>
      subst result
      exact ahead_set manager index call after ahead present (fun _ going => thread ▸ going)
  | starts at_pc result =>
      subst result
      exact ahead_set manager index call _ ahead present (fun _ _ => trivial)
  | releases after result thread _ _ _ =>
      subst result
      exact ahead_set manager index call after ahead present (fun _ going => thread ▸ going)
  | records at_pc result =>
      subst result
      intro active owns
      cases owns
      exact ⟨_, List.getElem?_set_self (List.getElem?_eq_some_iff.mp present).1, recorded at_pc⟩

theorem ahead_runner (manager next : SessionManager) (index : Nat) (call : Call) (ending : CleanupEnd)
    (ahead : ActiveAhead manager) (present : manager.calls[index]? = some call)
    (goes : manager.activeSession = some index → ending.goesOn call.thread = true)
    (moved : manager.runnerStep index call ending = some next) : ActiveAhead next := by
  have walks : ∀ after : Call,
      (ending.goesOn call.thread = true → ClearsAhead call.thread → ClearsAhead after.thread) →
      ActiveAhead (manager.setCall index after) := fun after keeps =>
    ahead_set manager index call after ahead present (fun owns going => keeps (goes owns) going)
  cases thread : call.thread with
  | none => simp [SessionManager.runnerStep, thread] at moved
  | some pc =>
      rw [thread] at walks
      simp only [SessionManager.runnerStep, thread] at moved
      cases pc with
      | run =>
          cases moved
          exact walks _ (fun _ _ => trivial)
      | cleanup =>
          cases ending with
          | ok | fails =>
              cases moved
              exact walks _ (fun _ _ => trivial)
          | exits =>
              cases moved
              exact walks _ (fun stays _ => by cases stays)
      | destroy =>
          cases ending with
          | ok =>
              cases moved
              exact walks _ (fun _ _ => trivial)
          | fails | exits =>
              cases moved
              exact walks _ (fun stays _ => by cases stays)
      | clear =>
          cases moved
          intro active owns
          cases owns
      | userCleanup =>
          cases moved
          exact walks _ (fun _ going => going)
      | ended => cases moved

theorem ahead_terminate (manager next : SessionManager) (ahead : ActiveAhead manager)
    (terminates : Terminates manager next) : ActiveAhead next := by
  intro active owns
  rcases terminates.activeSession with same | emptied
  · have owned := same.symm.trans owns
    rcases terminates.calls with kept | ⟨handle, call, present, replaced⟩
    · rw [kept]
      exact ahead active owned
    · rw [replaced]
      exact ahead_set manager handle call { call with stopRequest := true } ahead present (fun _ going => going) active owned
  · rw [emptied] at owns
    cases owns

theorem ahead_step (manager next : SessionManager) (action : SessionAction) (ahead : ActiveAhead manager)
    (admitted : clearReached manager action) (moved : manager.step action = some next) : ActiveAhead next := by
  cases action with
  | newSession =>
      cases moved
      intro active owns
      obtain ⟨call, present, going⟩ := ahead active owns
      have inside := (List.getElem?_eq_some_iff.mp present).1
      exact ⟨call, by simp only [List.getElem?_append_left inside]; exact present, going⟩
  | newSessionStep index outcome =>
      simp only [SessionManager.step] at moved
      split at moved
      · cases moved
      · rename_i call present
        refine ahead_new_session manager next index call ahead present (fun at_pc => ?_)
          (new_session_case manager next index call outcome moved)
        simpa [clearReached, present, at_pc] using admitted
  | terminateSession =>
      cases moved
      exact ahead
  | terminateStep index =>
      simp only [SessionManager.step] at moved
      split at moved
      · cases moved
      · rename_i pc present
        exact ahead_terminate manager next ahead (terminate_step_terminates manager next index pc moved)
  | runnerStep index ending =>
      simp only [SessionManager.step] at moved
      split at moved
      · cases moved
      · rename_i call present
        refine ahead_runner manager next index call ending ahead present (fun owns => ?_) moved
        simpa [present] using admitted owns

-- A session that has ended is never active, as long as every session is
-- recorded before its thread's clear and its cleanup goes on to that clear.
theorem ended_session_released (manager : SessionManager) (reached : Reached sessionManager clearReached manager) :
    NoLockOut manager := by
  refine active_ahead_free manager (reached_invariant sessionManager clearReached ActiveAhead ?_ ?_ manager reached)
  · rintro initial rfl index owns
    cases owns
  · intro source action target ahead admitted moved
    exact ahead_step source target action ahead admitted moved

theorem ended_session_released_twice : ∃ manager : SessionManager,
    manager.calls.map Call.isAlive = [false, false] ∧ manager.activeSession = none := by
  obtain ⟨manager, reached, ends⟩ := replay_exists sessionManager clearReached
    ([.newSession] ++ callSteps 0 7 ++ runnerEnds 0 ++ [.newSession] ++ callSteps 1 7 ++ runnerEnds 1)
    SessionManager.init (fun manager => manager.calls.map Call.isAlive = [false, false]) rfl (by decide)
  refine ⟨manager, ends, (ended_session_released manager reached).admits ?_⟩
  intro index call present
  have member := List.mem_map_of_mem (f := Call.isAlive) (List.mem_of_getElem? present)
  rw [ends] at member
  simpa using member

-- The thread ends between the start-up check and the record of its session; or
-- the destruction in its cleanup fails; or an earlier cleanup callback raises a
-- BaseException. Each time the next call is refused.
theorem ended_session_locks_out :
    (∃ manager : SessionManager, Reached sessionManager anyAction manager ∧ manager.activeSession = some 0 ∧
      manager.calls = [⟨.returned (some ⟨true, none⟩), true, some .ended, false, 1, false, false⟩,
        ⟨.returned (some ⟨false, some "A session is already active."⟩), false, none, false, 0, false, false⟩]) ∧
    (∃ manager : SessionManager, Reached sessionManager anyAction manager ∧ manager.activeSession = some 0 ∧
      manager.calls.map Call.thread = [some .ended]) ∧
    ∃ manager : SessionManager, Reached sessionManager anyAction manager ∧ manager.activeSession = some 0 ∧
      manager.calls = [⟨.returned (some ⟨true, none⟩), true, some .ended, false, 0, false, true⟩,
        ⟨.returned (some ⟨false, some "A session is already active."⟩), false, none, false, 0, false, false⟩] :=
  ⟨replay_exists sessionManager anyAction
      ([.newSession] ++ callSteps 0 6 ++ runnerEnds 0 ++ callSteps 0 1 ++ [.newSession] ++ callSteps 1 1)
      SessionManager.init
      (fun manager => manager.activeSession = some 0 ∧
        manager.calls = [⟨.returned (some ⟨true, none⟩), true, some .ended, false, 1, false, false⟩,
          ⟨.returned (some ⟨false, some "A session is already active."⟩), false, none, false, 0, false, false⟩])
      rfl (by decide),
    replay_exists sessionManager anyAction
      ([.newSession] ++ callSteps 0 7 ++ List.replicate 4 (.runnerStep 0 .fails)) SessionManager.init
      (fun manager => manager.activeSession = some 0 ∧ manager.calls.map Call.thread = [some .ended]) rfl (by decide),
    replay_exists sessionManager anyAction
      ([.newSession] ++ callSteps 0 7 ++ [.runnerStep 0 .ok, .runnerStep 0 .exits] ++ [.newSession] ++ callSteps 1 1)
      SessionManager.init
      (fun manager => manager.activeSession = some 0 ∧
        manager.calls = [⟨.returned (some ⟨true, none⟩), true, some .ended, false, 0, false, true⟩,
          ⟨.returned (some ⟨false, some "A session is already active."⟩), false, none, false, 0, false, false⟩])
      rfl (by decide)⟩

end Animacharacter.SessionMng
