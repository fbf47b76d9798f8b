import Animacharacter.SessionMng.SessionManager

set_option autoImplicit false

namespace Animacharacter.SessionMng

open StepSystem

def Call.released (call : Call) : Nat :=
  match call.thread with
  | none | some .run | some .cleanup | some .destroy => 0
  | some .clear | some .userCleanup => 1
  | some .ended => if call.leftEarly then 0 else 1

def Call.EndedEarly (call : Call) : Prop := call.leftEarly = true → call.thread = some .ended

def Accounts (call : Call) : Prop :=
  match call.pc with
  | .check | .criteria | .create =>
      call.context = false ∧ call.thread = none ∧ call.destroyed = 0 ∧ call.foundDead = false ∧ call.leftEarly = false
  | .recheck | .refuse | .start =>
      call.context = true ∧ call.thread = none ∧ call.destroyed = 0 ∧ call.foundDead = false ∧ call.leftEarly = false
  | .joining | .record =>
      call.context = true ∧ call.thread ≠ none ∧ call.destroyed = call.released ∧ call.foundDead = false ∧
        call.EndedEarly
  | .abandon _ =>
      call.context = true ∧
        (call.thread = none ∧ call.destroyed = 0 ∧ call.foundDead = false ∧ call.leftEarly = false ∨
          call.thread = some .ended ∧ call.destroyed = call.released ∧ call.foundDead = true)
  | .returned result =>
      call.context = false ∧ call.thread = none ∨
      call.context = true ∧
        (call.thread = none ∧ call.destroyed = 1 ∧ call.foundDead = false ∧ call.leftEarly = false ∨
          result = some ⟨true, none⟩ ∧ call.thread ≠ none ∧ call.destroyed = call.released ∧
            call.foundDead = false ∧ call.EndedEarly ∨
          call.thread = some .ended ∧ call.destroyed = call.released + 1 ∧ call.foundDead = true)

-- The call is over: it has returned and its thread, if it had one, has ended.
def Over (call : Call) : Prop :=
  (∃ result, call.pc = .returned result) ∧ (call.thread = none ∨ call.thread = some .ended)

theorem dead_ended (call : Call) (started : call.thread ≠ none) (dead : call.isAlive = false) :
    call.thread = some .ended := by
  cases thread : call.thread with
  | none => exact absurd thread started
  | some pc => simpa [Call.isAlive, thread] using dead

theorem new_session_step_accounts (manager next : SessionManager) (index : Nat) (call : Call) (outcome : Outcome)
    (accounts : Each (fun _ => Accounts) manager.calls) (own : Accounts call)
    (moved : manager.newSessionStep index call outcome = some next) : Each (fun _ => Accounts) next.calls := by
  have replaced : ∀ after, Accounts after → Each (fun _ => Accounts) (manager.calls.set index after) :=
    fun after holds => each_set _ manager.calls index after accounts holds
  cases at_pc : call.pc with
  | check =>
      simp only [Accounts, at_pc] at own
      simp only [SessionManager.newSessionStep, at_pc] at moved
      split at moved
      · cases moved
      · split at moved <;> cases moved
        · exact replaced _ (.inl ⟨own.1, own.2.1⟩)
        · exact replaced _ own
  | criteria =>
      simp only [Accounts, at_pc] at own
      simp only [SessionManager.newSessionStep, at_pc] at moved
      split at moved <;> cases moved
      · exact replaced _ own
      · exact replaced _ (.inl ⟨own.1, own.2.1⟩)
      · exact replaced _ (.inl ⟨own.1, own.2.1⟩)
  | create =>
      simp only [Accounts, at_pc] at own
      simp only [SessionManager.newSessionStep, at_pc] at moved
      split at moved <;> cases moved
      · exact replaced _ ⟨rfl, own.2⟩
      · exact replaced _ (.inl ⟨own.1, own.2.1⟩)
      · exact replaced _ (.inl ⟨own.1, own.2.1⟩)
  | recheck =>
      simp only [Accounts, at_pc] at own
      simp only [SessionManager.newSessionStep, at_pc] at moved
      split at moved
      · cases moved
      · split at moved <;> cases moved <;> exact replaced _ own
  | refuse =>
      simp only [Accounts, at_pc] at own
      simp only [SessionManager.newSessionStep, at_pc] at moved
      cases moved
      refine replaced _ (.inr ⟨own.1, .inl ⟨own.2.1, ?_, own.2.2.2⟩⟩)
      simp [Call.destroySession, Call.fails, own.2.2.1]
  | start =>
      simp only [Accounts, at_pc] at own
      simp only [SessionManager.newSessionStep, at_pc] at moved
      split at moved <;> cases moved
      · obtain ⟨context, _, none, alive, within⟩ := own
        refine replaced _ ⟨context, by simp, none, alive, fun left => ?_⟩
        rw [within] at left
        cases left
      · exact replaced _ ⟨own.1, .inl own.2⟩
      · exact replaced _ ⟨own.1, .inl own.2⟩
  | joining =>
      simp only [Accounts, at_pc] at own
      simp only [SessionManager.newSessionStep, at_pc] at moved
      split at moved <;> cases moved
      · exact replaced _ own
      · rename_i dead
        have ended := dead_ended call own.2.1 (by simpa using dead)
        exact replaced _ ⟨own.1, .inr ⟨ended, own.2.2.1, rfl⟩⟩
  | abandon exc =>
      simp only [Accounts, at_pc] at own
      simp only [SessionManager.newSessionStep, at_pc] at moved
      cases moved
      obtain ⟨context, ⟨thread, none, alive⟩ | ⟨thread, counted, dead⟩⟩ := own
      · refine replaced _ (.inr ⟨context, .inl ⟨thread, ?_, alive⟩⟩)
        simp [Call.destroySession, Call.fails, none]
      · refine replaced _ (.inr ⟨context, .inr (.inr ⟨thread, ?_, dead⟩)⟩)
        simp [Call.destroySession, Call.fails, Call.released, thread, counted]
  | record =>
      simp only [Accounts, at_pc] at own
      simp only [SessionManager.newSessionStep, at_pc] at moved
      cases moved
      exact replaced _ (.inr ⟨own.1, .inr (.inl ⟨rfl, own.2⟩)⟩)
  | returned result => simp [SessionManager.newSessionStep, at_pc] at moved

-- A runner step keeps the accounts when it keeps the count of its own cleanup.
theorem accounts_thread (call after : Call) (source : RunnerPc) (own : Accounts call)
    (thread : call.thread = some source) (going : source ≠ .ended) (pc : after.pc = call.pc)
    (context : after.context = call.context) (found : after.foundDead = call.foundDead)
    (started : after.thread ≠ none)
    (counts : call.destroyed = call.released → call.leftEarly = false →
      after.destroyed = after.released ∧ after.EndedEarly) : Accounts after := by
  have within : call.EndedEarly → call.leftEarly = false := by
    intro early
    by_cases left : call.leftEarly = true
    · have ended := early left
      rw [thread] at ended
      cases ended
      exact absurd rfl going
    · simpa using left
  have alive : call.thread ≠ some .ended := by
    rw [thread]
    simpa using going
  have present : call.thread ≠ none := by simp [thread]
  cases at_pc : call.pc with
  | check | criteria | create | recheck | refuse | start =>
      simp only [Accounts, at_pc] at own
      exact absurd own.2.1 present
  | joining | record =>
      simp only [Accounts, at_pc] at own
      obtain ⟨made, _, counted, live, early⟩ := own
      obtain ⟨kept, ends⟩ := counts counted (within early)
      simp only [Accounts, pc, at_pc]
      exact ⟨context.trans made, started, kept, found.trans live, ends⟩
  | abandon exc =>
      simp only [Accounts, at_pc] at own
      obtain ⟨_, ⟨none, _⟩ | ⟨ended, _⟩⟩ := own
      · exact absurd none present
      · exact absurd ended alive
  | returned result =>
      simp only [Accounts, at_pc] at own
      obtain ⟨_, none⟩ | ⟨made, ⟨none, _⟩ | ⟨success, _, counted, live, early⟩ | ⟨ended, _⟩⟩ := own
      · exact absurd none present
      · exact absurd none present
      · obtain ⟨kept, ends⟩ := counts counted (within early)
        simp only [Accounts, pc, at_pc]
        exact .inr ⟨context.trans made, .inr (.inl ⟨success, started, kept, found.trans live, ends⟩)⟩
      · exact absurd ended alive

theorem runner_step_accounts (manager next : SessionManager) (index : Nat) (call : Call) (ending : CleanupEnd)
    (accounts : Each (fun _ => Accounts) manager.calls) (own : Accounts call)
    (moved : manager.runnerStep index call ending = some next) : Each (fun _ => Accounts) next.calls := by
  have replaced : ∀ after, Accounts after → Each (fun _ => Accounts) (manager.calls.set index after) :=
    fun after holds => each_set _ manager.calls index after accounts holds
  cases thread : call.thread with
  | none => simp [SessionManager.runnerStep, thread] at moved
  | some pc =>
      have walks : ∀ after : Call, pc ≠ .ended → after.pc = call.pc → after.context = call.context →
          after.foundDead = call.foundDead → after.thread ≠ none →
          (call.destroyed = call.released → call.leftEarly = false →
            after.destroyed = after.released ∧ after.EndedEarly) →
          Each (fun _ => Accounts) (manager.calls.set index after) :=
        fun after going at_pc context found started counts =>
          replaced after (accounts_thread call after pc own thread going at_pc context found started counts)
      cases pc with
      | run =>
          simp only [SessionManager.runnerStep, thread, Option.some.injEq] at moved
          subst moved
          refine walks _ (by decide) rfl rfl rfl (by simp) (fun counted within => ?_)
          simpa [Call.released, Call.EndedEarly, thread, within] using counted
      | cleanup =>
          simp only [SessionManager.runnerStep, thread] at moved
          cases ending with
          | ok | fails =>
              cases moved
              refine walks _ (by decide) rfl rfl rfl (by simp) (fun counted within => ?_)
              simpa [Call.released, Call.EndedEarly, thread, within] using counted
          | exits =>
              cases moved
              refine walks _ (by decide) rfl rfl rfl (by simp) (fun counted _ => ?_)
              simpa [Call.released, Call.EndedEarly, thread] using counted
      | destroy =>
          simp only [SessionManager.runnerStep, thread] at moved
          cases ending <;> cases moved <;>
            refine walks _ (by decide) rfl rfl rfl (by simp) (fun counted within => ?_) <;>
            simpa [Call.released, Call.EndedEarly, Call.destroySession, thread, within] using counted
      | clear =>
          simp only [SessionManager.runnerStep, thread, Option.some.injEq] at moved
          subst moved
          refine walks _ (by decide) rfl rfl rfl (by simp) (fun counted within => ?_)
          simpa [Call.released, Call.EndedEarly, thread, within] using counted
      | userCleanup =>
          simp only [SessionManager.runnerStep, thread, Option.some.injEq] at moved
          subst moved
          refine walks _ (by decide) rfl rfl rfl (by simp) (fun counted within => ?_)
          simpa [Call.released, Call.EndedEarly, thread, within] using counted
      | ended => simp [SessionManager.runnerStep, thread] at moved

theorem session_step_accounts (manager next : SessionManager) (action : SessionAction)
    (accounts : Each (fun _ => Accounts) manager.calls) (moved : manager.step action = some next) :
    Each (fun _ => Accounts) next.calls := by
  cases action with
  | newSession =>
      cases moved
      exact each_append _ manager.calls Call.fresh accounts ⟨rfl, rfl, rfl, rfl, rfl⟩
  | newSessionStep index outcome =>
      simp only [SessionManager.step] at moved
      split at moved
      · cases moved
      · rename_i call present
        exact new_session_step_accounts manager next index call outcome accounts (accounts index call present) moved
  | terminateSession =>
      cases moved
      exact accounts
  | terminateStep index =>
      simp only [SessionManager.step] at moved
      split at moved
      · cases moved
      · rename_i pc present
        exact terminates_each _ manager next (terminate_step_terminates manager next index pc moved) accounts
          (fun _ _ own => own)
  | runnerStep index ending =>
      simp only [SessionManager.step] at moved
      split at moved
      · cases moved
      · rename_i call present
        exact runner_step_accounts manager next index call ending accounts (accounts index call present) moved

theorem reached_accounts (manager : SessionManager) (reached : Reached sessionManager anyAction manager) :
    Each (fun _ => Accounts) manager.calls := by
  apply reached_invariant sessionManager anyAction (fun state => Each (fun _ => Accounts) state.calls) _ _ manager reached
  · rintro initial rfl index call present
    cases present
  · intro source action target accounts _ moved
    exact session_step_accounts source target action accounts moved

-- The runner's cleanup destroys the context unless the thread left it early, and
-- new_session destroys it unless the session was started and found alive.
theorem over_destroyed (call : Call) (accounts : Accounts call) (isOver : Over call) (context : call.context = true) :
    call.destroyed = (!call.leftEarly).toNat + call.foundDead.toNat := by
  obtain ⟨⟨result, returned⟩, finished⟩ := isOver
  simp only [Accounts, returned, context, Bool.true_eq_false, false_and, false_or, true_and] at accounts
  obtain ⟨_, once, alive, within⟩ | ⟨_, started, counted, alive, _⟩ | ⟨ended, counted, dead⟩ := accounts
  · rw [once, alive, within]
    rfl
  · rcases finished with none | ended
    · exact absurd none started
    · rw [counted, alive, Call.released, ended]
      cases call.leftEarly <;> rfl
  · rw [counted, dead, Call.released, ended]
    cases call.leftEarly <;> rfl

-- A context is destroyed once by the time its session is over if and only if its
-- thread was found alive by the start-up check and got to its own cleanup, or
-- neither; otherwise it is destroyed twice or not at all.
theorem context_destroyed_once_iff (manager : SessionManager) (reached : Reached sessionManager anyAction manager)
    (index : Nat) (call : Call) (present : manager.calls[index]? = some call) (context : call.context = true)
    (isOver : Over call) :
    (call.destroyed = 1 ↔ call.foundDead = call.leftEarly) ∧
      (call.destroyed = 2 ↔ call.foundDead = true ∧ call.leftEarly = false) ∧
      (call.destroyed = 0 ↔ call.foundDead = false ∧ call.leftEarly = true) := by
  rw [over_destroyed call (reached_accounts manager reached index call present) isOver context]
  cases call.foundDead <;> cases call.leftEarly <;> decide

-- Steps of one call in which everything succeeds, and of its runner to the end.
def callSteps (index count : Nat) : List SessionAction := List.replicate count (.newSessionStep index .ok)

def runnerEnds (index : Nat) : List SessionAction := List.replicate 5 (.runnerStep index .ok)

def endedCall : Call := ⟨.returned (some ⟨true, none⟩), true, some .ended, false, 1, false, false⟩

theorem context_destroyed_once_ended : endedCall.destroyed = 1 := by
  have reached : Reached sessionManager anyAction ⟨[endedCall], [], none, none, false⟩ :=
    replay_reached sessionManager anyAction ([.newSession] ++ callSteps 0 7 ++ runnerEnds 0) SessionManager.init _ rfl
      (by decide)
  exact (context_destroyed_once_iff _ reached 0 endedCall rfl rfl ⟨⟨_, rfl⟩, .inr rfl⟩).1.mpr rfl

-- The runner's cleanup and new_session both destroy the context; or an earlier
-- cleanup callback raises a BaseException and nobody does.
theorem crashed_context_destroyed_twice :
    (∃ manager : SessionManager, Reached sessionManager anyAction manager ∧
      manager.calls = [⟨.returned (some ⟨false,
        some "Session runner failed to start: Session runner thread unable to start."⟩), true, some .ended, false, 2, true, false⟩]) ∧
    ∃ manager : SessionManager, Reached sessionManager anyAction manager ∧
      manager.calls = [⟨.returned (some ⟨true, none⟩), true, some .ended, false, 0, false, true⟩] :=
  ⟨replay_exists sessionManager anyAction ([.newSession] ++ callSteps 0 5 ++ runnerEnds 0 ++ callSteps 0 2)
      SessionManager.init
      (fun manager => manager.calls = [⟨.returned (some ⟨false,
        some "Session runner failed to start: Session runner thread unable to start."⟩), true, some .ended, false, 2, true, false⟩])
      rfl (by decide),
    replay_exists sessionManager anyAction
      ([.newSession] ++ callSteps 0 7 ++ [.runnerStep 0 .ok, .runnerStep 0 .exits]) SessionManager.init
      (fun manager =>
        manager.calls = [⟨.returned (some ⟨true, none⟩), true, some .ended, false, 0, false, true⟩])
      rfl (by decide)⟩

end Animacharacter.SessionMng
