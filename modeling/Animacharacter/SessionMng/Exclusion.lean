import Animacharacter.SessionMng.SessionManager

set_option autoImplicit false

namespace Animacharacter.SessionMng

open StepSystem

def CallPc.holds : CallPc → Bool
  | .refuse | .start | .joining | .abandon _ | .record => true
  | _ => false

def CallPc.starting : CallPc → Bool
  | .start | .joining | .abandon _ | .record => true
  | _ => false

def TerminatePc.holds : TerminatePc → Bool
  | .take | .clear _ => true
  | _ => false

inductive NewSessionCase (manager : SessionManager) (index : Nat) (call : Call) (next : SessionManager) : Prop where
  | walks (after : Call) (result : next = manager.setCall index after) (thread : after.thread = call.thread)
      (pending : after.succeeded = false) (holds : after.pc.holds = true → call.pc.holds = true)
      (starting : after.pc.starting = true → call.pc.starting = true)
  | acquires (after : Call)
      (result : next = { manager.setCall index after with lock := some (.newSession index) })
      (thread : after.thread = call.thread) (pending : after.succeeded = false) (free : manager.lock = none)
      (starting : after.pc.starting = true → manager.activeSession = none)
  | starts (at_pc : call.pc = .start)
      (result : next = manager.setCall index { call with pc := .joining, thread := some .run })
  | releases (after : Call) (result : next = { manager.setCall index after with lock := none })
      (thread : after.thread = call.thread) (pending : after.succeeded = false) (held : call.pc.holds = true)
      (returned : after.pc.holds = false)
  | records (at_pc : call.pc = .record)
      (result : next = { manager.setCall index { call with pc := .returned (some ⟨true, none⟩) } with
        activeSession := some index, lock := none })

theorem new_session_case (manager next : SessionManager) (index : Nat) (call : Call) (outcome : Outcome)
    (moved : manager.newSessionStep index call outcome = some next) : NewSessionCase manager index call next := by
  cases at_pc : call.pc with
  | check =>
      simp only [SessionManager.newSessionStep, at_pc] at moved
      split at moved
      · cases moved
      · split at moved <;> cases moved <;> exact .walks _ rfl rfl rfl (fun held => by cases held) (fun begun => by cases begun)
  | criteria =>
      simp only [SessionManager.newSessionStep, at_pc] at moved
      split at moved <;> cases moved <;>
        exact .walks _ rfl rfl rfl (fun held => by cases held) (fun begun => by cases begun)
  | create =>
      simp only [SessionManager.newSessionStep, at_pc] at moved
      split at moved <;> cases moved <;>
        exact .walks _ rfl rfl rfl (fun held => by cases held) (fun begun => by cases begun)
  | recheck =>
      simp only [SessionManager.newSessionStep, at_pc] at moved
      split at moved
      · cases moved
      · rename_i free
        split at moved
        · cases moved
          exact .acquires _ rfl rfl rfl (by simpa using free) (fun begun => by cases begun)
        · rename_i inactive
          cases moved
          exact .acquires _ rfl rfl rfl (by simpa using free) (fun _ => by simpa using inactive)
  | refuse =>
      simp only [SessionManager.newSessionStep, at_pc] at moved
      cases moved
      exact .releases _ rfl rfl rfl (by rw [at_pc]; rfl) rfl
  | start =>
      simp only [SessionManager.newSessionStep, at_pc] at moved
      split at moved <;> cases moved
      · exact .starts at_pc rfl
      · exact .walks _ rfl rfl rfl (fun _ => by rw [at_pc]; rfl) (fun _ => by rw [at_pc]; rfl)
      · exact .walks _ rfl rfl rfl (fun _ => by rw [at_pc]; rfl) (fun _ => by rw [at_pc]; rfl)
  | joining =>
      simp only [SessionManager.newSessionStep, at_pc] at moved
      split at moved <;> cases moved <;>
        exact .walks _ rfl rfl rfl (fun _ => by rw [at_pc]; rfl) (fun _ => by rw [at_pc]; rfl)
  | abandon exc =>
      simp only [SessionManager.newSessionStep, at_pc] at moved
      cases moved
      exact .releases _ rfl rfl (by simp [Call.succeeded, Call.fails]) (by rw [at_pc]; rfl) rfl
  | record =>
      simp only [SessionManager.newSessionStep, at_pc] at moved
      cases moved
      exact .records at_pc rfl
  | returned result => simp [SessionManager.newSessionStep, at_pc] at moved

inductive RunnerCase (manager : SessionManager) (index : Nat) (call : Call) (next : SessionManager) : Prop where
  | walks (source target : RunnerPc) (destroyed : Nat) (leftEarly : Bool) (thread : call.thread = some source)
      (going : source ≠ .ended)
      (result : next = manager.setCall index
        { call with thread := some target, destroyed := destroyed, leftEarly := leftEarly })
  | clears (thread : call.thread = some .clear)
      (result : next = { manager.setCall index { call with thread := some .userCleanup } with
        activeSession := none
        foreignClear := manager.foreignClear || (manager.activeSession.any fun active => active ≠ index) })

theorem runner_case (manager next : SessionManager) (index : Nat) (call : Call) (ending : CleanupEnd)
    (moved : manager.runnerStep index call ending = some next) : RunnerCase manager index call next := by
  cases thread : call.thread with
  | none => simp [SessionManager.runnerStep, thread] at moved
  | some pc =>
      simp only [SessionManager.runnerStep, thread] at moved
      cases pc with
      | run => cases moved; exact .walks .run _ call.destroyed call.leftEarly thread (by decide) rfl
      | cleanup =>
          cases ending with
          | ok | fails => cases moved; exact .walks .cleanup _ call.destroyed call.leftEarly thread (by decide) rfl
          | exits => cases moved; exact .walks .cleanup _ call.destroyed true thread (by decide) rfl
      | destroy =>
          cases ending <;> cases moved <;>
            exact .walks .destroy _ (call.destroyed + 1) call.leftEarly thread (by decide) rfl
      | clear => cases moved; exact .clears thread rfl
      | userCleanup => cases moved; exact .walks .userCleanup _ call.destroyed call.leftEarly thread (by decide) rfl
      | ended => cases moved

-- The lock has one owner, and active_session is empty while its owner starts a session.
structure Locked (manager : SessionManager) : Prop where
  holder : Each (fun index call => call.pc.holds = true → manager.lock = some (.newSession index)) manager.calls
  starting : Each (fun _ call => call.pc.starting = true → manager.activeSession = none) manager.calls
  terminating : Each (fun index pc => pc.holds = true → manager.lock = some (.terminateSession index)) manager.terminations

theorem starting_holds (pc : CallPc) (starting : pc.starting = true) : pc.holds = true := by
  cases pc <;> first | rfl | cases starting

theorem released_locked (calls : List Call) (terminations : List TerminatePc)
    (activeSession : Option Nat) (foreignClear : Bool)
    (outside : Each (fun _ call => call.pc.holds = false) calls)
    (passed : Each (fun _ pc => pc.holds = false) terminations) :
    Locked ⟨calls, terminations, activeSession, none, foreignClear⟩ := by
  refine ⟨?_, ?_, ?_⟩
  · intro index call present held
    rw [outside index call present] at held
    cases held
  · intro index call present begun
    have held := starting_holds call.pc begun
    rw [outside index call present] at held
    cases held
  · intro index pc present held
    rw [passed index pc present] at held
    cases held

theorem others_outside (manager : SessionManager) (index : Nat) (call after : Call) (locked : Locked manager)
    (present : manager.calls[index]? = some call) (held : call.pc.holds = true) (returned : after.pc.holds = false) :
    Each (fun _ other => other.pc.holds = false) (manager.calls.set index after) ∧
      Each (fun _ pc => pc.holds = false) manager.terminations := by
  have owner := locked.holder index call present held
  constructor
  · intro other found at_other
    rw [List.getElem?_set] at at_other
    split at at_other
    · split at at_other
      · cases at_other
        exact returned
      · cases at_other
    · rename_i distinct
      cases holding : found.pc.holds with
      | false => rfl
      | true =>
          have taken := locked.holder other found at_other holding
          rw [owner] at taken
          cases taken
          exact absurd rfl distinct
  · intro other pc found
    cases holding : pc.holds with
    | false => rfl
    | true =>
        have taken := locked.terminating other pc found holding
        rw [owner] at taken
        cases taken

theorem locked_new_session (manager next : SessionManager) (index : Nat) (call : Call) (locked : Locked manager)
    (present : manager.calls[index]? = some call) (step : NewSessionCase manager index call next) : Locked next := by
  have within := locked
  obtain ⟨holder, starting, terminating⟩ := locked
  cases step with
  | walks after result _ _ holds begins =>
      subst result
      exact ⟨each_set _ _ index after holder (fun held => holder index call present (holds held)),
        each_set _ _ index after starting (fun begun => starting index call present (begins begun)), terminating⟩
  | acquires after result _ _ free begins =>
      subst result
      refine ⟨each_set _ _ index after ?_ (fun _ => rfl), each_set _ _ index after starting begins, ?_⟩
      · intro other held found holding
        have taken := holder other held found holding
        rw [free] at taken
        cases taken
      · intro other pc found holding
        have taken := terminating other pc found holding
        rw [free] at taken
        cases taken
  | starts at_pc result =>
      subst result
      have held : call.pc.holds = true := by rw [at_pc]; rfl
      have begun : call.pc.starting = true := by rw [at_pc]; rfl
      exact ⟨each_set _ _ index _ holder (fun _ => holder index call present held),
        each_set _ _ index _ starting (fun _ => starting index call present begun), terminating⟩
  | releases after result _ _ held returned =>
      subst result
      obtain ⟨outside, passed⟩ := others_outside manager index call after within present held returned
      exact released_locked _ _ _ _ outside passed
  | records at_pc result =>
      subst result
      obtain ⟨outside, passed⟩ := others_outside manager index call
        { call with pc := .returned (some ⟨true, none⟩) } within present (by rw [at_pc]; rfl) rfl
      exact released_locked _ _ _ _ outside passed

theorem others_outside_termination (manager : SessionManager) (index : Nat) (pc after : TerminatePc)
    (locked : Locked manager) (present : manager.terminations[index]? = some pc) (held : pc.holds = true)
    (returned : after.holds = false) :
    Each (fun _ other => other.pc.holds = false) manager.calls ∧
      Each (fun _ other => other.holds = false) (manager.terminations.set index after) := by
  have owner := locked.terminating index pc present held
  constructor
  · intro other found at_other
    cases holding : found.pc.holds with
    | false => rfl
    | true =>
        have taken := locked.holder other found at_other holding
        rw [owner] at taken
        cases taken
  · intro other found at_other
    rw [List.getElem?_set] at at_other
    split at at_other
    · split at at_other
      · cases at_other
        exact returned
      · cases at_other
    · rename_i distinct
      cases holding : found.holds with
      | false => rfl
      | true =>
          have taken := locked.terminating other found at_other holding
          rw [owner] at taken
          cases taken
          exact absurd rfl distinct

theorem locked_terminate (manager next : SessionManager) (index : Nat) (pc : TerminatePc) (locked : Locked manager)
    (present : manager.terminations[index]? = some pc) (moved : manager.terminateStep index pc = some next) :
    Locked next := by
  have walks : ∀ after : TerminatePc, (after.holds = true → pc.holds = true) →
      Locked (manager.setTermination index after) := fun after holds =>
    ⟨locked.holder, locked.starting, each_set _ _ index after locked.terminating
      (fun held => locked.terminating index pc present (holds held))⟩
  cases pc with
  | check =>
      simp only [SessionManager.terminateStep] at moved
      split at moved
      · cases moved
      · rename_i free
        split at moved <;> cases moved
        · exact walks _ (fun held => by cases held)
        · have unheld : manager.lock = none := by simpa using free
          refine ⟨?_, locked.starting, each_set _ _ index _ ?_ (fun _ => rfl)⟩
          · intro other found at_other held
            have taken := locked.holder other found at_other held
            rw [unheld] at taken
            cases taken
          · intro other found at_other held
            have taken := locked.terminating other found at_other held
            rw [unheld] at taken
            cases taken
  | take => cases moved; exact walks _ (fun _ => rfl)
  | clear handle =>
      cases moved
      obtain ⟨outside, passed⟩ := others_outside_termination manager index (.clear handle) (.signal handle) locked
        present rfl rfl
      exact released_locked _ _ _ _ outside passed
  | signal handle =>
      cases handle with
      | none => cases moved; exact walks _ (fun held => by cases held)
      | some handle =>
          simp only [SessionManager.terminateStep] at moved
          split at moved
          · cases moved
          · rename_i call at_handle
            cases moved
            have released := walks (.joining handle) (fun held => by cases held)
            exact ⟨each_set _ _ handle _ locked.holder (locked.holder handle call at_handle),
              each_set _ _ handle _ locked.starting (locked.starting handle call at_handle), released.terminating⟩
  | joining handle =>
      simp only [SessionManager.terminateStep] at moved
      split at moved <;> cases moved
      exact walks _ (fun held => by cases held)
  | returned result => cases moved

theorem locked_runner (manager next : SessionManager) (index : Nat) (call : Call) (locked : Locked manager)
    (present : manager.calls[index]? = some call) (step : RunnerCase manager index call next) : Locked next := by
  cases step with
  | walks source target destroyed leftEarly thread going result =>
      subst result
      exact ⟨each_set _ _ index _ locked.holder (locked.holder index call present),
        each_set _ _ index _ locked.starting (locked.starting index call present), locked.terminating⟩
  | clears thread result =>
      subst result
      refine ⟨each_set _ _ index _ locked.holder (locked.holder index call present), ?_, locked.terminating⟩
      intro _ _ _ _
      rfl

theorem locked_step (manager next : SessionManager) (action : SessionAction) (locked : Locked manager)
    (moved : manager.step action = some next) : Locked next := by
  cases action with
  | newSession =>
      cases moved
      exact ⟨each_append _ _ Call.fresh locked.holder (fun held => by cases held),
        each_append _ _ Call.fresh locked.starting (fun begun => by cases begun), locked.terminating⟩
  | newSessionStep index outcome =>
      simp only [SessionManager.step] at moved
      split at moved
      · cases moved
      · rename_i call present
        exact locked_new_session manager next index call locked present
          (new_session_case manager next index call outcome moved)
  | terminateSession =>
      cases moved
      exact ⟨locked.holder, locked.starting,
        each_append _ _ TerminatePc.check locked.terminating (fun held => by cases held)⟩
  | terminateStep index =>
      simp only [SessionManager.step] at moved
      split at moved
      · cases moved
      · rename_i pc present
        exact locked_terminate manager next index pc locked present moved
  | runnerStep index ending =>
      simp only [SessionManager.step] at moved
      split at moved
      · cases moved
      · rename_i call present
        exact locked_runner manager next index call locked present (runner_case manager next index call ending moved)

theorem init_locked : Locked SessionManager.init :=
  ⟨fun _ _ present => (by cases present), fun _ _ present => (by cases present), fun _ _ present => (by cases present)⟩

end Animacharacter.SessionMng
