import Animacharacter.SessionMng.Resources
import Animacharacter.SessionMng.Exclusion

set_option autoImplicit false

namespace Animacharacter.SessionMng

open StepSystem

def Call.live (call : Call) : Bool := call.succeeded && call.isAlive

def OneLive (calls : List Call) : Prop :=
  ∀ (first second : Nat) (left right : Call), calls[first]? = some left → calls[second]? = some right →
    left.live = true → right.live = true → first = second

-- One live session at most, and no cleanup has cleared another session's entry.
structure SingleSession (manager : SessionManager) : Prop where
  oneLive : OneLive manager.calls
  ownClear : manager.foreignClear = false

def SessionManager.othersEnded (manager : SessionManager) (index : Nat) : Bool :=
  manager.calls.zipIdx.all fun entry => entry.2 = index || !entry.1.isAlive

-- When new_session records its session, every other session's thread has ended.
def earlierEnded (manager : SessionManager) : SessionAction → Prop
  | .newSessionStep index _ =>
      (manager.calls[index]?.any fun call => call.pc = .record) = true → manager.othersEnded index = true
  | _ => True

instance (manager : SessionManager) : (action : SessionAction) → Decidable (earlierEnded manager action)
  | .newSessionStep _ _ => inferInstanceAs (Decidable (_ → _))
  | .newSession | .terminateSession | .terminateStep _ | .runnerStep _ _ => inferInstanceAs (Decidable True)

theorem others_ended_iff (manager : SessionManager) (index : Nat) :
    manager.othersEnded index = true ↔ Each (fun other call => other ≠ index → call.isAlive = false) manager.calls := by
  simp only [SessionManager.othersEnded, List.all_eq_true, Bool.or_eq_true, decide_eq_true_eq, Bool.not_eq_true']
  constructor
  · intro ended other call present distinct
    exact (ended (call, other) (List.mem_zipIdx_iff_getElem?.mpr present)).resolve_left distinct
  · intro ended entry member
    by_cases same : entry.2 = index
    · exact .inl same
    · exact .inr (ended entry.2 entry.1 (List.mem_zipIdx_iff_getElem?.mp member) same)

structure SingleInvariant (manager : SessionManager) : Prop extends SingleSession manager where
  locked : Locked manager
  owner : Each (fun index call => call.isAlive = true → ∀ active, manager.activeSession = some active → active = index)
    manager.calls

theorem one_live_set (calls : List Call) (index : Nat) (call after : Call) (present : calls[index]? = some call)
    (still : after.live = true → call.live = true) (one : OneLive calls) : OneLive (calls.set index after) := by
  have before : ∀ (other : Nat) (found : Call), (calls.set index after)[other]? = some found → found.live = true →
      ∃ old, calls[other]? = some old ∧ old.live = true := by
    intro other found at_other live
    rw [List.getElem?_set] at at_other
    split at at_other
    · rename_i same
      split at at_other
      · cases at_other
        subst same
        exact ⟨call, present, still live⟩
      · cases at_other
    · exact ⟨found, at_other, live⟩
  intro first second left right at_first at_second liveLeft liveRight
  obtain ⟨oldLeft, wasLeft, aliveLeft⟩ := before first left at_first liveLeft
  obtain ⟨oldRight, wasRight, aliveRight⟩ := before second right at_second liveRight
  exact one first second oldLeft oldRight wasLeft wasRight aliveLeft aliveRight

theorem same_thread_alive (call after : Call) (same : after.thread = call.thread) : after.isAlive = call.isAlive := by
  simp only [Call.isAlive, same]

theorem pending_not_live (call : Call) (pending : call.succeeded = false) : ¬ call.live = true := by
  simp [Call.live, pending]

theorem single_set (manager : SessionManager) (index : Nat) (call after : Call) (lock : Option Owner)
    (inv : SingleInvariant manager) (present : manager.calls[index]? = some call)
    (live : after.live = true → call.live = true) (alive : after.isAlive = true → call.isAlive = true)
    (locked : Locked { manager.setCall index after with lock }) :
    SingleInvariant { manager.setCall index after with lock } :=
  ⟨⟨one_live_set manager.calls index call after present live inv.oneLive, inv.ownClear⟩, locked,
    each_set _ manager.calls index after inv.owner (fun stays => inv.owner index call present (alive stays))⟩

theorem single_record (manager : SessionManager) (index : Nat) (call : Call) (inv : SingleInvariant manager)
    (ended : Each (fun other found => other ≠ index → found.isAlive = false) manager.calls)
    (locked : Locked { manager.setCall index { call with pc := .returned (some ⟨true, none⟩) } with
      activeSession := some index, lock := none }) :
    SingleInvariant { manager.setCall index { call with pc := .returned (some ⟨true, none⟩) } with
      activeSession := some index, lock := none } := by
  have only : Each (fun other found => found.isAlive = true → other = index)
      (manager.calls.set index { call with pc := .returned (some ⟨true, none⟩) }) := by
    refine each_set _ manager.calls index _ ?_ (fun _ => rfl)
    intro other found present alive
    by_cases same : other = index
    · exact same
    · rw [ended other found present same] at alive
      cases alive
  refine ⟨⟨?_, inv.ownClear⟩, locked, ?_⟩
  · intro first second left right at_first at_second liveLeft liveRight
    simp only [Call.live, Bool.and_eq_true] at liveLeft liveRight
    rw [only first left at_first liveLeft.2, only second right at_second liveRight.2]
  · intro other found present alive active owns
    cases owns
    exact (only other found present alive).symm

theorem single_new_session (manager next : SessionManager) (index : Nat) (call : Call) (inv : SingleInvariant manager)
    (present : manager.calls[index]? = some call)
    (ended : call.pc = .record → Each (fun other found => other ≠ index → found.isAlive = false) manager.calls)
    (step : NewSessionCase manager index call next) : SingleInvariant next := by
  have locked := locked_new_session manager next index call inv.locked present step
  cases step with
  | walks after result thread pending _ _ =>
      subst result
      exact single_set manager index call after manager.lock inv present (fun live => absurd live (pending_not_live after pending))
        (fun alive => (same_thread_alive call after thread) ▸ alive) locked
  | acquires after result thread pending _ _ =>
      subst result
      exact single_set manager index call after _ inv present (fun live => absurd live (pending_not_live after pending))
        (fun alive => (same_thread_alive call after thread) ▸ alive) locked
  | starts at_pc result =>
      subst result
      -- The call holds the lock, so no session is active while its thread starts.
      have inactive := inv.locked.starting index call present (by rw [at_pc]; rfl)
      refine ⟨⟨one_live_set _ index call _ present (fun live => ?_) inv.oneLive, inv.ownClear⟩, locked, ?_⟩
      · simp [Call.live, Call.succeeded] at live
      · intro other found at_other alive active owns
        have owned : manager.activeSession = some active := owns
        rw [inactive] at owned
        cases owned
  | releases after result thread pending _ _ =>
      subst result
      exact single_set manager index call after _ inv present (fun live => absurd live (pending_not_live after pending))
        (fun alive => (same_thread_alive call after thread) ▸ alive) locked
  | records at_pc result =>
      subst result
      exact single_record manager index call inv (ended at_pc) locked

theorem single_runner (manager next : SessionManager) (index : Nat) (call : Call) (inv : SingleInvariant manager)
    (present : manager.calls[index]? = some call) (step : RunnerCase manager index call next) : SingleInvariant next := by
  have locked := locked_runner manager next index call inv.locked present step
  cases step with
  | walks source target destroyed leftEarly thread going result =>
      subst result
      have alive : call.isAlive = true := by simpa [Call.isAlive, thread] using going
      refine single_set manager index call _ manager.lock inv present (fun live => ?_) (fun _ => alive) locked
      simp only [Call.live, Call.succeeded, Bool.and_eq_true] at live ⊢
      exact ⟨live.1, alive⟩
  | clears thread result =>
      subst result
      have alive : call.isAlive = true := by simp [Call.isAlive, thread]
      refine ⟨⟨one_live_set _ index call _ present (fun live => ?_) inv.oneLive, ?_⟩, locked, ?_⟩
      · simp only [Call.live, Call.succeeded, Bool.and_eq_true] at live ⊢
        exact ⟨live.1, alive⟩
      · have own := inv.owner index call present alive
        cases active : manager.activeSession with
        | none => simp [inv.ownClear]
        | some other => simp [inv.ownClear, own other active]
      · intro other found at_other still active owns
        cases owns

theorem single_terminate (manager next : SessionManager) (inv : SingleInvariant manager) (locked : Locked next)
    (terminates : Terminates manager next) : SingleInvariant next := by
  have owner := terminates_each _ manager next terminates inv.owner (fun _ _ own => own)
  refine ⟨⟨?_, terminates.foreignClear.trans inv.ownClear⟩, locked, ?_⟩
  · rcases terminates.calls with same | ⟨handle, call, present, replaced⟩
    · rw [same]
      exact inv.oneLive
    · rw [replaced]
      exact one_live_set manager.calls handle call _ present id inv.oneLive
  · intro index call present alive active owns
    rcases terminates.activeSession with same | emptied
    · exact owner index call present alive active (same.symm.trans owns)
    · rw [emptied] at owns
      cases owns

theorem single_append (calls : List Call) (one : OneLive calls) : OneLive (calls ++ [Call.fresh]) := by
  have kept : Each (fun index call => call.live = true → calls[index]? = some call) (calls ++ [Call.fresh]) :=
    each_append _ calls Call.fresh (fun _ _ present _ => present) (fun live => by cases live)
  intro first second left right at_first at_second liveLeft liveRight
  exact one first second left right (kept first left at_first liveLeft) (kept second right at_second liveRight)
    liveLeft liveRight

theorem single_step (manager next : SessionManager) (action : SessionAction) (inv : SingleInvariant manager)
    (admitted : earlierEnded manager action) (moved : manager.step action = some next) : SingleInvariant next := by
  have locked := locked_step manager next action inv.locked moved
  cases action with
  | newSession =>
      cases moved
      exact ⟨⟨single_append manager.calls inv.oneLive, inv.ownClear⟩, locked,
        each_append _ manager.calls Call.fresh inv.owner (fun alive => by cases alive)⟩
  | newSessionStep index outcome =>
      simp only [SessionManager.step] at moved
      split at moved
      · cases moved
      · rename_i call present
        refine single_new_session manager next index call inv present (fun at_pc => ?_)
          (new_session_case manager next index call outcome moved)
        exact (others_ended_iff manager index).mp (admitted (by simp [present, at_pc]))
  | terminateSession =>
      cases moved
      exact ⟨⟨inv.oneLive, inv.ownClear⟩, locked, inv.owner⟩
  | terminateStep index =>
      simp only [SessionManager.step] at moved
      split at moved
      · cases moved
      · rename_i pc present
        exact single_terminate manager next inv locked (terminate_step_terminates manager next index pc moved)
  | runnerStep index ending =>
      simp only [SessionManager.step] at moved
      split at moved
      · cases moved
      · rename_i call present
        exact single_runner manager next index call inv present (runner_case manager next index call ending moved)

theorem single_reached (manager : SessionManager) (reached : Reached sessionManager earlierEnded manager) :
    SingleInvariant manager := by
  apply reached_invariant sessionManager earlierEnded SingleInvariant _ _ manager reached
  · rintro initial rfl
    exact ⟨⟨fun _ _ _ _ present => (by cases present), rfl⟩, init_locked, fun _ _ present => (by cases present)⟩
  · intro source action target inv admitted moved
    exact single_step source target action inv admitted moved

theorem accounts_alive (call : Call) (accounts : Accounts call) (alive : call.isAlive = true)
    (outside : call.pc.holds = false) : call.succeeded = true := by
  cases at_pc : call.pc <;> cases thread : call.thread <;>
    simp_all [Accounts, CallPc.holds, Call.isAlive, Call.succeeded]

-- A session recorded while another thread is alive makes two live ones.
theorem record_doubles (manager next : SessionManager) (index : Nat) (call : Call) (outcome : Outcome)
    (accounts : Each (fun _ => Accounts) manager.calls) (locked : Locked manager)
    (present : manager.calls[index]? = some call) (at_pc : call.pc = .record) (alive : call.isAlive = true)
    (moved : manager.newSessionStep index call outcome = some next) (one : OneLive next.calls) :
    manager.othersEnded index = true := by
  rw [others_ended_iff]
  intro other found at_other distinct
  cases still : found.isAlive with
  | false => rfl
  | true =>
      exfalso
      have held : call.pc.holds = true := by rw [at_pc]; rfl
      have outside := (others_outside manager index call { call with pc := .returned none } locked present held rfl).1 other
        found (by rw [List.getElem?_set_ne (Ne.symm distinct)]; exact at_other)
      have succeeded := accounts_alive found (accounts other found at_other) still outside
      simp only [SessionManager.newSessionStep, at_pc, Option.some.injEq] at moved
      subst moved
      have inside : index < manager.calls.length := (List.getElem?_eq_some_iff.mp present).1
      exact distinct (one other index found _ (by
        simp only [SessionManager.setCall]
        rw [List.getElem?_set_ne (Ne.symm distinct)]
        exact at_other) (List.getElem?_set_self inside) (by simp [Call.live, succeeded, still])
        (by simp only [Call.live, Call.succeeded, Bool.and_eq_true]; exact ⟨by simp, alive⟩))

-- Sessions stay single as long as each is recorded after the earlier threads
-- have ended; recording a live one earlier makes two.
theorem single_live_session (manager : SessionManager) (reached : Reached sessionManager earlierEnded manager) :
    SingleSession manager ∧
      ∀ index outcome call next, manager.calls[index]? = some call → call.pc = .record → call.isAlive = true →
        manager.newSessionStep index call outcome = some next →
        (SingleSession next ↔ manager.othersEnded index = true) := by
  have inv := single_reached manager reached
  have accounts := reached_accounts manager (by
    obtain ⟨initial, started, runs⟩ := reached
    exact ⟨initial, started, runs_weaken sessionManager earlierEnded anyAction (fun _ _ _ => trivial) initial manager runs⟩)
  refine ⟨inv.toSingleSession, ?_⟩
  intro index outcome call next present at_pc alive moved
  constructor
  · intro single
    exact record_doubles manager next index call outcome accounts inv.locked present at_pc alive moved single.oneLive
  · intro ended
    refine (single_new_session manager next index call inv present (fun _ => ?_)
      (new_session_case manager next index call outcome moved)).toSingleSession
    exact (others_ended_iff manager index).mp ended

-- The first session is terminated and ends before the second is recorded.
def sessionAfterSession : List SessionAction :=
  [.newSession] ++ callSteps 0 7 ++ [.terminateSession] ++ List.replicate 4 (.terminateStep 0) ++ runnerEnds 0 ++
    [.newSession] ++ callSteps 1 7

theorem single_live_session_after : ∃ manager : SessionManager,
    (manager.activeSession = some 1 ∧ manager.calls.map Call.live = [false, true]) ∧ SingleSession manager := by
  obtain ⟨manager, reached, ends⟩ := replay_exists sessionManager earlierEnded sessionAfterSession SessionManager.init
    (fun manager => manager.activeSession = some 1 ∧ manager.calls.map Call.live = [false, true]) rfl (by decide)
  exact ⟨manager, ends, (single_live_session manager reached).1⟩

-- The join of terminate_session times out, a second session starts, and the
-- first one's cleanup clears the second one's entry.
def sessionDuringSession : List SessionAction :=
  [.newSession] ++ callSteps 0 7 ++ [.terminateSession] ++ List.replicate 5 (.terminateStep 0) ++
    [.newSession] ++ callSteps 1 7

theorem two_live_sessions :
    (∃ manager : SessionManager, Reached sessionManager anyAction manager ∧ ¬ OneLive manager.calls ∧
      manager.terminations = [.returned (some false)]) ∧
    ∃ manager : SessionManager, Reached sessionManager anyAction manager ∧
      manager.calls.map Call.live = [true, true] ∧ manager.foreignClear = true ∧ manager.activeSession = none := by
  constructor
  · obtain ⟨manager, reached, live, timedOut⟩ := replay_exists sessionManager anyAction sessionDuringSession
      SessionManager.init
      (fun manager => (manager.calls[0]?.any Call.live = true ∧ manager.calls[1]?.any Call.live = true) ∧
        manager.terminations = [.returned (some false)])
      rfl (by decide)
    refine ⟨manager, reached, fun one => ?_, timedOut⟩
    obtain ⟨left, first, liveLeft⟩ := (Option.any_eq_true _ _).mp live.1
    obtain ⟨right, second, liveRight⟩ := (Option.any_eq_true _ _).mp live.2
    exact absurd (one 0 1 left right first second liveLeft liveRight) (by decide)
  · exact replay_exists sessionManager anyAction (sessionDuringSession ++ List.replicate 4 (.runnerStep 0 .ok))
      SessionManager.init
      (fun manager => manager.calls.map Call.live = [true, true] ∧ manager.foreignClear = true ∧
        manager.activeSession = none)
      rfl (by decide)

end Animacharacter.SessionMng
