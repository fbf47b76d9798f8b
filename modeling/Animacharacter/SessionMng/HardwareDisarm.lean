import Animacharacter.SessionMng.SingleSession
import Animacharacter.SessionMng.SessManagerNode

set_option autoImplicit false

namespace Animacharacter.SessionMng

open StepSystem

def CallPc.arming : CallPc → Bool
  | .create | .recheck | .start => true
  | _ => false

def CallPc.admitted : CallPc → Bool
  | .criteria | .create | .recheck => true
  | _ => false

def Call.armed (call : Call) : Bool := call.pc.arming || call.isAlive

def SessManagerNode.leases (node : SessManagerNode) : Nat :=
  node.manager.calls.countP Call.armed + node.scheduled.length

-- A call whose start-up check has passed: it can only succeed.
def Call.established (call : Call) : Bool := call.pc = .record || call.succeeded

def SessManagerNode.established (node : SessManagerNode) (index : Nat) : Bool :=
  node.manager.calls[index]?.any Call.established

def CleanupEnd.endsThread (ending : CleanupEnd) : Option RunnerPc → Bool
  | some .cleanup | some .destroy => ending = .exits
  | some .userCleanup => true
  | _ => false

-- After the criteria nothing fails but the start-up check, and the cleanup of a
-- session that has not passed it is gone through, scheduled and carried out.
def cleanupFollows (node : SessManagerNode) : SessNodeAction → Prop
  | .callStep outcome =>
      (node.manager.calls[node.current]?.all fun call =>
        (call.pc ≠ .create && call.pc ≠ .start) || outcome = .ok) = true
  | .runnerStep index ending executor => executor = true ∧ ending ≠ .exits ∨ node.established index = true
  | .cleanupSession position service =>
      (service = .served ∨ service = .raised) ∨ node.scheduled[position]?.any node.established = true
  | .createSession | .criteria _ | .overdueDeactivate => True

instance (node : SessManagerNode) : (action : SessNodeAction) → Decidable (cleanupFollows node action)
  | .callStep _ => inferInstanceAs (Decidable (_ = true))
  | .runnerStep _ _ _ | .cleanupSession _ _ => inferInstanceAs (Decidable (_ ∨ _))
  | .createSession | .criteria _ | .overdueDeactivate => inferInstanceAs (Decidable True)

-- A call that failed after its criteria had succeeded leaves the hardware
-- disarmed once no cleanup is scheduled; a later ACTIVATE is not its doing.
def FailedDisarmed (node : SessManagerNode) : Prop :=
  ∀ index call errorMsg, node.armedBy = some index → node.manager.calls[index]? = some call →
    call.pc = .returned (some ⟨false, errorMsg⟩) → node.scheduled = [] → node.hardware ≠ .active

-- An active hardware manager has one DEACTIVATE to come, for the session that
-- activated it, unless that session has been established.
structure Leased (node : SessManagerNode) : Prop where
  accounts : Each (fun _ => Accounts) node.manager.calls
  serial : Each (fun index call => index ≠ node.current → call.pc.isReturned = true) node.manager.calls
  idle : Each (fun _ call => call.pc.admitted = true → node.manager.activeSession = none) node.manager.calls
  disarmed : node.hardware ≠ .active → node.leases = 0
  overdue : 0 < node.overdue → node.overdue = 1 ∧ node.hardware = .active ∧ node.leases = 0
  single : node.leases ≤ 1
  armed : node.hardware = .active → ∀ index, node.armedBy = some index →
    node.established index = true ∨ node.leases = 1
  holder : ∀ index, node.armedBy = some index →
    Each (fun other call => other ≠ index → call.armed = false) node.manager.calls ∧
      ∀ session ∈ node.scheduled, session = index

theorem count_replaced (calls : List Call) (index : Nat) (call after : Call) (present : calls[index]? = some call) :
    (calls.set index after).countP Call.armed + call.armed.toNat = calls.countP Call.armed + after.armed.toNat := by
  obtain ⟨inside, at_index⟩ := List.getElem?_eq_some_iff.mp present
  rw [List.countP_set inside, at_index]
  have counted : call.armed = true → 0 < calls.countP Call.armed :=
    fun armed => List.countP_pos_iff.mpr ⟨call, List.mem_of_getElem? present, armed⟩
  cases was : call.armed <;> cases now : after.armed <;> simp_all

theorem armed_thread (call after : Call) (waits : call.pc.arming = after.pc.arming) (same : after.thread = call.thread) :
    after.armed = call.armed := by
  simp only [Call.armed, waits, same_thread_alive call after same]

theorem call_step_armed (manager next : SessionManager) (index : Nat) (call : Call) (outcome : Outcome)
    (other : call.pc ≠ .criteria) (idle : call.pc.admitted = true → manager.activeSession = none)
    (granted : call.pc = .create ∨ call.pc = .start → outcome = .ok)
    (moved : manager.newSessionStep index call outcome = some next) :
    ∃ after, next.calls = manager.calls.set index after ∧ after.armed = call.armed ∧
      (after.pc.admitted = true → next.activeSession = none) := by
  cases at_pc : call.pc with
  | check =>
      simp only [SessionManager.newSessionStep, at_pc] at moved
      split at moved
      · cases moved
      · split at moved <;> cases moved
        · exact ⟨_, rfl, armed_thread call _ (by rw [at_pc]; rfl) rfl, fun admitted => by cases admitted⟩
        · rename_i inactive
          exact ⟨_, rfl, armed_thread call _ (by rw [at_pc]; rfl) rfl, fun _ => Decidable.not_not.mp inactive⟩
  | criteria => exact absurd at_pc other
  | create =>
      cases granted (.inl at_pc)
      simp only [SessionManager.newSessionStep, at_pc] at moved
      cases moved
      exact ⟨_, rfl, armed_thread call _ (by rw [at_pc]; rfl) rfl, fun _ => idle (by rw [at_pc]; rfl)⟩
  | recheck =>
      simp only [SessionManager.newSessionStep, at_pc] at moved
      split at moved
      · cases moved
      · split at moved
        · rename_i active
          exact absurd (idle (by rw [at_pc]; rfl)) active
        · cases moved
          exact ⟨_, rfl, armed_thread call _ (by rw [at_pc]; rfl) rfl, fun admitted => by cases admitted⟩
  | refuse =>
      simp only [SessionManager.newSessionStep, at_pc] at moved
      cases moved
      exact ⟨_, rfl, armed_thread call _ (by rw [at_pc]; rfl) rfl, fun admitted => by cases admitted⟩
  | start =>
      cases granted (.inr at_pc)
      simp only [SessionManager.newSessionStep, at_pc] at moved
      cases moved
      exact ⟨_, rfl, by simp [Call.armed, at_pc, CallPc.arming, Call.isAlive], fun admitted => by cases admitted⟩
  | joining =>
      simp only [SessionManager.newSessionStep, at_pc] at moved
      split at moved <;> cases moved <;>
        exact ⟨_, rfl, armed_thread call _ (by rw [at_pc]; rfl) rfl, fun admitted => by cases admitted⟩
  | abandon exc =>
      simp only [SessionManager.newSessionStep, at_pc] at moved
      cases moved
      exact ⟨_, rfl, armed_thread call _ (by rw [at_pc]; rfl) rfl, fun admitted => by cases admitted⟩
  | record =>
      simp only [SessionManager.newSessionStep, at_pc] at moved
      cases moved
      exact ⟨_, rfl, armed_thread call _ (by rw [at_pc]; rfl) rfl, fun admitted => by cases admitted⟩
  | returned result => simp [SessionManager.newSessionStep, at_pc] at moved

theorem established_step (manager next : SessionManager) (index : Nat) (call after : Call) (outcome : Outcome)
    (present : manager.calls[index]? = some call) (calls : next.calls = manager.calls.set index after)
    (moved : manager.newSessionStep index call outcome = some next) (found : call.established = true) :
    after.established = true := by
  have inside := (List.getElem?_eq_some_iff.mp present).1
  have at_index : next.calls[index]? = some after := by
    rw [calls]
    exact List.getElem?_set_self inside
  simp only [Call.established, Bool.or_eq_true, decide_eq_true_eq] at found
  rcases found with at_pc | succeeded
  · simp only [SessionManager.newSessionStep, at_pc, Option.some.injEq] at moved
    subst moved
    simp only [SessionManager.setCall, List.getElem?_set_self inside, Option.some.injEq] at at_index
    subst at_index
    simp [Call.established, Call.succeeded]
  · simp only [Call.succeeded, decide_eq_true_eq] at succeeded
    simp [SessionManager.newSessionStep, succeeded] at moved

theorem established_set (node : SessManagerNode) (manager : SessionManager) (place : Nat) (call after : Call)
    (present : node.manager.calls[place]? = some call) (calls : manager.calls = node.manager.calls.set place after)
    (stays : call.established = true → after.established = true) (index : Nat)
    (found : node.established index = true) : manager.calls[index]?.any Call.established = true := by
  simp only [SessManagerNode.established] at found
  rw [calls]
  by_cases same : place = index
  · subst same
    rw [present] at found
    rw [List.getElem?_set_self (List.getElem?_eq_some_iff.mp present).1]
    exact stays found
  · rw [List.getElem?_set_ne same]
    exact found

theorem runner_step_armed (manager next : SessionManager) (index : Nat) (call : Call) (ending : CleanupEnd)
    (own : Accounts call) (moved : manager.runnerStep index call ending = some next) :
    ∃ after, next.calls = manager.calls.set index after ∧ after.pc = call.pc ∧ call.armed = true ∧
      after.armed = !ending.endsThread call.thread ∧
      (manager.activeSession = none → next.activeSession = none) := by
  cases thread : call.thread with
  | none => simp [SessionManager.runnerStep, thread] at moved
  | some pc =>
      have armed : pc ≠ .ended → call.armed = true := by
        intro going
        simp [Call.armed, Call.isAlive, thread, going]
      -- A call that still has its thread to start has none.
      have past : call.pc.arming = false := by
        cases at_pc : call.pc <;> simp_all [Accounts, CallPc.arming]
      simp only [SessionManager.runnerStep, thread] at moved
      cases pc with
      | run =>
          cases moved
          exact ⟨_, rfl, rfl, armed (by decide), by simp [Call.armed, Call.isAlive, CleanupEnd.endsThread], id⟩
      | cleanup =>
          cases ending <;> cases moved <;> refine ⟨_, rfl, rfl, armed (by decide), ?_, id⟩ <;>
            simp [Call.armed, Call.isAlive, CleanupEnd.endsThread, past]
      | destroy =>
          cases ending <;> cases moved <;> refine ⟨_, rfl, rfl, armed (by decide), ?_, id⟩ <;>
            simp [Call.armed, Call.isAlive, Call.destroySession, CleanupEnd.endsThread, past]
      | clear =>
          cases moved
          exact ⟨_, rfl, rfl, armed (by decide), by simp [Call.armed, Call.isAlive, CleanupEnd.endsThread], fun _ => rfl⟩
      | userCleanup =>
          cases moved
          exact ⟨_, rfl, rfl, armed (by decide), by simp [Call.armed, Call.isAlive, CleanupEnd.endsThread, past], id⟩
      | ended => cases moved

theorem returned_not_admitted (pc : CallPc) (returned : pc.isReturned = true) : pc.admitted = false := by
  cases pc <;> first | rfl | cases returned

theorem leased_keeps (node : SessManagerNode) (manager : SessionManager) (scheduled : List Nat) (inv : Leased node)
    (accounts : Each (fun _ => Accounts) manager.calls)
    (serial : Each (fun index call => index ≠ manager.calls.length - 1 → call.pc.isReturned = true) manager.calls)
    (idle : Each (fun _ call => call.pc.admitted = true → manager.activeSession = none) manager.calls)
    (leases : manager.calls.countP Call.armed + scheduled.length = node.leases)
    (established : ∀ index, node.established index = true → manager.calls[index]?.any Call.established = true)
    (holder : ∀ index, node.armedBy = some index →
      Each (fun other call => other ≠ index → call.armed = false) manager.calls ∧
        ∀ session ∈ scheduled, session = index) : Leased { node with manager, scheduled } := by
  refine ⟨accounts, serial, idle, ?_, ?_, Nat.le_trans (Nat.le_of_eq leases) inv.single, ?_, holder⟩
  · intro disarmed
    exact leases.trans (inv.disarmed disarmed)
  · intro overdue
    obtain ⟨one, active, none⟩ := inv.overdue overdue
    exact ⟨one, active, leases.trans none⟩
  · intro active index armedBy
    rcases inv.armed active index armedBy with found | lease
    · exact .inl (established index found)
    · exact .inr (leases.trans lease)

-- The last lease may go without a DEACTIVATE when its session is established.
theorem leased_drops (node : SessManagerNode) (manager : SessionManager) (scheduled : List Nat) (overdue : Nat)
    (accounts : Each (fun _ => Accounts) manager.calls)
    (serial : Each (fun index call => index ≠ manager.calls.length - 1 → call.pc.isReturned = true) manager.calls)
    (idle : Each (fun _ call => call.pc.admitted = true → manager.activeSession = none) manager.calls)
    (active : node.hardware = .active) (none : manager.calls.countP Call.armed + scheduled.length = 0)
    (bound : overdue ≤ 1)
    (established : ∀ index, node.armedBy = some index → manager.calls[index]?.any Call.established = true) :
    Leased { node with manager, scheduled, overdue } := by
  refine ⟨accounts, serial, idle, fun _ => none, fun some => ⟨Nat.le_antisymm bound some, active, none⟩,
    Nat.le_trans (Nat.le_of_eq none) (Nat.zero_le 1), fun _ index armedBy => .inl (established index armedBy), ?_⟩
  intro index _
  obtain ⟨unarmed, empty⟩ := Nat.add_eq_zero_iff.mp none
  constructor
  · intro other call present _
    simpa using List.countP_eq_zero.mp unarmed call (List.mem_of_getElem? present)
  · rw [List.length_eq_zero_iff.mp empty]
    intro session member
    cases member

theorem leased_active (node : SessManagerNode) (inv : Leased node) (lease : 0 < node.leases) :
    node.hardware = .active ∧ node.overdue = 0 := by
  constructor
  · by_cases active : node.hardware = .active
    · exact active
    · rw [inv.disarmed active] at lease
      cases lease
  · rcases Nat.eq_zero_or_pos node.overdue with none | overdue
    · exact none
    · rw [(inv.overdue overdue).2.2] at lease
      cases lease

theorem leased_create_session (node next : SessManagerNode) (inv : Leased node)
    (accounts : Each (fun _ => Accounts) next.manager.calls) (moved : node.step .createSession = some next) :
    Leased next := by
  simp only [SessManagerNode.step] at moved
  split at moved
  · rename_i returned
    cases moved
    refine leased_keeps node _ node.scheduled inv accounts ?_ ?_ ?_ ?_ ?_
    · refine each_append _ _ _ (fun index call present _ => ?_) (fun distinct => ?_)
      · exact List.all_eq_true.mp returned call (List.mem_of_getElem? present)
      · simp at distinct
    · exact each_append _ _ _ inv.idle (fun admitted => by cases admitted)
    · simp [SessManagerNode.leases, Call.armed, Call.fresh, CallPc.arming, Call.isAlive]
    · intro index found
      obtain ⟨call, present, established⟩ := (Option.any_eq_true _ _).mp found
      simp only [List.getElem?_append_left (List.getElem?_eq_some_iff.mp present).1]
      exact found
    · intro index armedBy
      exact ⟨each_append _ _ _ (inv.holder index armedBy).1 (fun _ => rfl), (inv.holder index armedBy).2⟩
  · cases moved

-- The call under way is replaced; the others have returned.
theorem serial_set (node : SessManagerNode) (manager : SessionManager) (after : Call) (inv : Leased node)
    (calls : manager.calls = node.manager.calls.set node.current after)
    (idle : after.pc.admitted = true → manager.activeSession = none) :
    Each (fun index call => index ≠ manager.calls.length - 1 → call.pc.isReturned = true) manager.calls ∧
      Each (fun _ call => call.pc.admitted = true → manager.activeSession = none) manager.calls := by
  have length : manager.calls.length - 1 = node.current := by rw [calls, List.length_set]; rfl
  rw [length, calls]
  constructor
  · exact each_set _ _ _ _ inv.serial (fun distinct => absurd rfl distinct)
  · refine each_replaced _ _ _ _ (fun index found at_index distinct begun => ?_) idle
    rw [returned_not_admitted found.pc (inv.serial index found at_index distinct)] at begun
    cases begun

theorem leased_call_step (node next : SessManagerNode) (outcome : Outcome) (inv : Leased node)
    (admitted : cleanupFollows node (.callStep outcome)) (accounts : Each (fun _ => Accounts) next.manager.calls)
    (moved : node.callStep outcome = some next) : Leased next := by
  simp only [SessManagerNode.callStep] at moved
  split at moved
  · cases moved
  · rename_i call present
    split at moved
    · cases moved
    · rename_i other
      simp only [Option.map_eq_some_iff] at moved
      obtain ⟨manager, stepped, rfl⟩ := moved
      have granted : call.pc = .create ∨ call.pc = .start → outcome = .ok := by
        rintro (at_pc | at_pc) <;> simpa [cleanupFollows, present, at_pc] using admitted
      obtain ⟨after, calls, armed, idle⟩ := call_step_armed node.manager manager node.current call outcome other
        (inv.idle node.current call present) granted stepped
      obtain ⟨serial, begun⟩ := serial_set node manager after inv calls idle
      have count := count_replaced node.manager.calls node.current call after present
      refine leased_keeps node manager node.scheduled inv accounts serial begun ?_ ?_ ?_
      · simp only [SessManagerNode.leases, calls]
        rw [armed] at count
        omega
      · exact established_set node manager node.current call after present calls
          (established_step node.manager manager node.current call after outcome present calls stepped)
      · intro index armedBy
        rw [calls]
        refine ⟨each_set _ _ _ _ (inv.holder index armedBy).1 (fun distinct => ?_), (inv.holder index armedBy).2⟩
        rw [armed]
        exact (inv.holder index armedBy).1 node.current call present distinct

theorem runner_serial (node : SessManagerNode) (manager : SessionManager) (index : Nat) (call after : Call)
    (inv : Leased node) (present : node.manager.calls[index]? = some call)
    (calls : manager.calls = node.manager.calls.set index after) (pc : after.pc = call.pc)
    (cleared : node.manager.activeSession = none → manager.activeSession = none) :
    Each (fun other found => other ≠ manager.calls.length - 1 → found.pc.isReturned = true) manager.calls ∧
      Each (fun _ found => found.pc.admitted = true → manager.activeSession = none) manager.calls := by
  have length : manager.calls.length - 1 = node.current := by rw [calls, List.length_set]; rfl
  rw [length, calls]
  constructor
  · refine each_set _ _ _ _ inv.serial (fun distinct => ?_)
    rw [pc]
    exact inv.serial index call present distinct
  · refine each_set _ _ _ _ (fun other found at_other begun => ?_) (fun begun => ?_)
    · exact cleared (inv.idle other found at_other begun)
    · rw [pc] at begun
      exact cleared (inv.idle index call present begun)

theorem ends_scheduled (ending : CleanupEnd) (thread : Option RunnerPc) (ends : ending.endsThread thread = true)
    (goes : ending ≠ .exits) : thread = some .userCleanup := by
  cases thread with
  | none => cases ends
  | some pc =>
      cases pc with
      | userCleanup => rfl
      | cleanup | destroy => exact absurd (of_decide_eq_true ends) goes
      | run | clear | ended => cases ends

theorem leased_runner_step (node next : SessManagerNode) (index : Nat) (ending : CleanupEnd) (executor : Bool)
    (inv : Leased node) (admitted : cleanupFollows node (.runnerStep index ending executor))
    (accounts : Each (fun _ => Accounts) next.manager.calls)
    (moved : node.runnerStep index ending executor = some next) : Leased next := by
  simp only [SessManagerNode.runnerStep] at moved
  split at moved
  · cases moved
  · rename_i call present
    simp only [Option.map_eq_some_iff] at moved
    obtain ⟨manager, stepped, rfl⟩ := moved
    obtain ⟨after, calls, pc, was, now, cleared⟩ := runner_step_armed node.manager manager index call ending
      (inv.accounts index call present) stepped
    obtain ⟨serial, idle⟩ := runner_serial node manager index call after inv present calls pc cleared
    have same : call.established = true → after.established = true := by
      intro found
      simpa only [Call.established, Call.succeeded, pc] using found
    have count := count_replaced node.manager.calls index call after present
    rw [← calls, was, now] at count
    have holds : ∀ holder, node.armedBy = some holder → index = holder := by
      intro holder armedBy
      by_cases own : index = holder
      · exact own
      · rw [(inv.holder holder armedBy).1 index call present own] at was
        cases was
    have armed : ∀ holder, node.armedBy = some holder →
        Each (fun other found => other ≠ holder → found.armed = false) manager.calls := by
      intro holder armedBy
      rw [calls]
      exact each_set _ _ _ _ (inv.holder holder armedBy).1 (fun distinct => absurd (holds holder armedBy) distinct)
    have single := inv.single
    simp only [SessManagerNode.leases] at single
    by_cases ends : ending.endsThread call.thread = true
    · simp only [ends, Bool.not_true, Bool.toNat_true, Bool.toNat_false] at count
      by_cases schedules : call.thread = some .userCleanup ∧ executor = true
      · -- The lease of the thread goes over to the cleanup it schedules.
        simp only [if_pos schedules]
        refine leased_keeps node manager _ inv accounts serial idle ?_
          (established_set node manager index call after present calls same) ?_
        · simp only [SessManagerNode.leases, List.length_append, List.length_singleton]
          omega
        · intro holder armedBy
          refine ⟨armed holder armedBy, fun session member => ?_⟩
          rcases List.mem_append.mp member with old | new
          · exact (inv.holder holder armedBy).2 session old
          · exact (List.mem_singleton.mp new).trans (holds holder armedBy)
      · have found : node.established index = true := by
          rcases admitted with ⟨executing, goes⟩ | established
          · exact absurd ⟨ends_scheduled ending call.thread ends goes, executing⟩ schedules
          · exact established
        simp only [if_neg schedules]
        have lease : 0 < node.leases := by
          simp only [SessManagerNode.leases]
          omega
        obtain ⟨active, quiet⟩ := leased_active node inv lease
        refine leased_drops node manager node.scheduled node.overdue accounts serial idle active (by omega)
          (by omega) ?_
        intro holder armedBy
        rw [← holds holder armedBy]
        exact established_set node manager index call after present calls same index found
    · have going : call.thread ≠ some .userCleanup := by
        intro last
        rw [last] at ends
        exact ends rfl
      simp only [ends, Bool.not_false, Bool.toNat_true] at count
      simp only [going, false_and, if_false]
      refine leased_keeps node manager _ inv accounts serial idle ?_
        (established_set node manager index call after present calls same) ?_
      · simp only [SessManagerNode.leases]
        omega
      · intro holder armedBy
        exact ⟨armed holder armedBy, (inv.holder holder armedBy).2⟩

theorem deactivate_cases (hardware : LifecycleState) (service : Service) :
    ((deactivate hardware service).1 ≠ .active ∧ (deactivate hardware service).2 = false) ∨
      (hardware = .active ∧ (deactivate hardware service).1 = .active ∧ service ≠ .served ∧ service ≠ .raised) := by
  by_cases active : hardware = .active
  · subst active
    cases service <;> simp [deactivate]
  · simp [deactivate, active]

theorem leased_cleanup_session (node next : SessManagerNode) (position : Nat) (service : Service) (inv : Leased node)
    (admitted : cleanupFollows node (.cleanupSession position service))
    (moved : node.step (.cleanupSession position service) = some next) : Leased next := by
  simp only [SessManagerNode.step] at moved
  split at moved
  · rename_i inside
    cases moved
    have single := inv.single
    simp only [SessManagerNode.leases] at single
    have none : node.manager.calls.countP Call.armed + (node.scheduled.eraseIdx position).length = 0 := by
      simp only [List.length_eraseIdx, inside, if_true]
      omega
    obtain ⟨active, quiet⟩ := leased_active node inv (by simp only [SessManagerNode.leases]; omega)
    rcases deactivate_cases node.hardware service with ⟨disarmed, carried⟩ | ⟨_, still, unserved, unraised⟩
    · have empty := List.length_eq_zero_iff.mp (Nat.eq_zero_of_add_eq_zero_left none)
      refine ⟨inv.accounts, inv.serial, inv.idle, fun _ => none, ?_, Nat.le_trans (Nat.le_of_eq none) (Nat.zero_le 1),
        fun armed => absurd armed disarmed, ?_⟩
      · simp [quiet, carried]
      · intro index armedBy
        refine ⟨(inv.holder index armedBy).1, ?_⟩
        simp [empty]
    · rw [still, ← active]
      refine leased_drops node node.manager _ _ inv.accounts inv.serial inv.idle active none ?_ ?_
      · have once := Bool.toNat_le (deactivate node.hardware service).2
        omega
      · intro index armedBy
        rcases admitted with carried | found
        · exact absurd carried (by simp [unserved, unraised])
        · obtain ⟨session, at_position, established⟩ := (Option.any_eq_true _ _).mp found
          rw [← (inv.holder index armedBy).2 session (List.mem_of_getElem? at_position)]
          exact established
  · cases moved

theorem leased_overdue (node next : SessManagerNode) (inv : Leased node)
    (moved : node.step .overdueDeactivate = some next) : Leased next := by
  simp only [SessManagerNode.step] at moved
  split at moved
  · rename_i overdue
    cases moved
    obtain ⟨one, active, none⟩ := inv.overdue overdue
    have disarmed : (deactivate node.hardware .served).1 = .inactive := by simp [deactivate, active]
    refine ⟨inv.accounts, inv.serial, inv.idle, fun _ => none, ?_, Nat.le_trans (Nat.le_of_eq none) (Nat.zero_le 1), ?_,
      inv.holder⟩
    · simp [one]
    · simp [disarmed]
  · cases moved

theorem activate_cases (hardware : LifecycleState) (service : Service) :
    ((activate hardware service).2 = true ∧ hardware = .inactive ∧ (activate hardware service).1 = .active) ∨
      ((activate hardware service).2 = false ∧ ((activate hardware service).1 = hardware ∨ hardware = .inactive)) := by
  by_cases inactive : hardware = .inactive
  · subst inactive
    cases service <;> simp [activate]
  · simp [activate, inactive]

theorem criteria_step_armed (manager next : SessionManager) (index : Nat) (call : Call) (outcome : Outcome)
    (at_pc : call.pc = .criteria) (own : Accounts call)
    (inactive : manager.activeSession = none) (moved : manager.newSessionStep index call outcome = some next) :
    ∃ after, next.calls = manager.calls.set index after ∧ call.armed = false ∧
      after.armed = decide (outcome = .ok) ∧ (after.pc.admitted = true → next.activeSession = none) := by
  simp only [Accounts, at_pc] at own
  have unarmed : call.armed = false := by simp [Call.armed, at_pc, CallPc.arming, Call.isAlive, own.2.1]
  simp only [SessionManager.newSessionStep, at_pc] at moved
  cases outcome with
  | ok =>
      cases moved
      exact ⟨_, rfl, unarmed, rfl, fun _ => inactive⟩
  | refused exc =>
      cases moved
      exact ⟨_, rfl, unarmed, by simp [Call.armed, Call.fails, CallPc.arming, Call.isAlive, own.2.1],
        fun admitted => by cases admitted⟩
  | raises exc =>
      cases moved
      exact ⟨_, rfl, unarmed, by simp [Call.armed, CallPc.arming, Call.isAlive, own.2.1],
        fun admitted => by cases admitted⟩

-- Criteria that succeed find the hardware inactive, so nothing held a lease.
theorem leased_activated (node : SessManagerNode) (manager : SessionManager) (call after : Call) (inv : Leased node)
    (present : node.manager.calls[node.current]? = some call) (accounts : Each (fun _ => Accounts) manager.calls)
    (calls : manager.calls = node.manager.calls.set node.current after)
    (idle : after.pc.admitted = true → manager.activeSession = none) (was : call.armed = false)
    (now : after.armed = true) (inactive : node.hardware = .inactive) :
    Leased { node with manager, hardware := .active, armedBy := some node.current } := by
  obtain ⟨serial, begun⟩ := serial_set node manager after inv calls idle
  have count := count_replaced node.manager.calls node.current call after present
  rw [← calls, was, now, Bool.toNat_true, Bool.toNat_false] at count
  have none := inv.disarmed (by rw [inactive]; decide)
  simp only [SessManagerNode.leases] at none
  obtain ⟨unarmed, empty⟩ := Nat.add_eq_zero_iff.mp none
  have one : manager.calls.countP Call.armed + node.scheduled.length = 1 := by omega
  refine ⟨accounts, serial, begun, fun disarmed => absurd rfl disarmed, ?_, Nat.le_of_eq one,
    fun _ _ _ => .inr one, ?_⟩
  · intro overdue
    have active := (inv.overdue overdue).2.1
    rw [inactive] at active
    cases active
  · intro index armedBy
    cases armedBy
    simp only [calls, List.length_eq_zero_iff.mp empty]
    refine ⟨each_replaced _ _ _ _ (fun other found at_other _ _ => ?_) (fun distinct => absurd rfl distinct),
      fun session member => (by cases member)⟩
    simpa using List.countP_eq_zero.mp unarmed found (List.mem_of_getElem? at_other)

theorem leased_refused (node : SessManagerNode) (manager : SessionManager) (call after : Call)
    (hardware : LifecycleState) (inv : Leased node) (present : node.manager.calls[node.current]? = some call)
    (accounts : Each (fun _ => Accounts) manager.calls)
    (calls : manager.calls = node.manager.calls.set node.current after)
    (idle : after.pc.admitted = true → manager.activeSession = none) (was : call.armed = false)
    (now : after.armed = false) (pending : call.established = false)
    (left : hardware = node.hardware ∨ node.hardware = .inactive) :
    Leased { node with manager, hardware, armedBy := if hardware = node.hardware then node.armedBy else none } := by
  obtain ⟨serial, begun⟩ := serial_set node manager after inv calls idle
  have count := count_replaced node.manager.calls node.current call after present
  rw [← calls, was, now] at count
  have leases : manager.calls.countP Call.armed + node.scheduled.length = node.leases := by
    simp only [SessManagerNode.leases]
    omega
  have kept : node.hardware = .active → hardware = node.hardware := by
    intro active
    rcases left with same | inactive
    · exact same
    · rw [active] at inactive
      cases inactive
  refine ⟨accounts, serial, begun, ?_, ?_, Nat.le_trans (Nat.le_of_eq leases) inv.single, ?_, ?_⟩
  · intro disarmed
    refine leases.trans (inv.disarmed fun active => disarmed ?_)
    exact (kept active).trans active
  · intro overdue
    obtain ⟨one, active, none⟩ := inv.overdue overdue
    exact ⟨one, (kept active).trans active, leases.trans none⟩
  · intro active index armedBy
    by_cases same : hardware = node.hardware
    · rw [if_pos same] at armedBy
      rcases inv.armed (same ▸ active) index armedBy with found | lease
      · refine .inl (established_set node manager node.current call after present calls (fun early => ?_) index found)
        rw [pending] at early
        cases early
      · exact .inr (leases.trans lease)
    · rw [if_neg same] at armedBy
      cases armedBy
  · intro index armedBy
    by_cases same : hardware = node.hardware
    · rw [if_pos same] at armedBy
      simp only [calls]
      exact ⟨each_set _ _ _ _ (inv.holder index armedBy).1 (fun _ => now), (inv.holder index armedBy).2⟩
    · rw [if_neg same] at armedBy
      cases armedBy

theorem leased_criteria (node next : SessManagerNode) (service : Service) (inv : Leased node)
    (accounts : Each (fun _ => Accounts) next.manager.calls) (moved : node.criteriaStep service = some next) :
    Leased next := by
  simp only [SessManagerNode.criteriaStep] at moved
  split at moved
  · cases moved
  · rename_i call present
    split at moved
    · rename_i at_pc
      simp only [Option.map_eq_some_iff] at moved
      obtain ⟨manager, stepped, rfl⟩ := moved
      obtain ⟨after, calls, was, now, idle⟩ := criteria_step_armed node.manager manager node.current call _ at_pc
        (inv.accounts node.current call present) (inv.idle node.current call present (by rw [at_pc]; rfl)) stepped
      rcases activate_cases node.hardware service with ⟨met, inactive, active⟩ | ⟨unmet, left⟩
      · simp only [met, active, if_true, decide_true] at now ⊢
        exact leased_activated node manager call after inv present accounts calls idle was now inactive
      · simp only [unmet, Bool.false_eq_true, if_false, reduceCtorEq, decide_false] at now ⊢
        have pending : call.established = false := by simp [Call.established, Call.succeeded, at_pc]
        exact leased_refused node manager call after _ inv present accounts calls idle was now pending left
    · cases moved

theorem leased_step (node next : SessManagerNode) (action : SessNodeAction) (inv : Leased node)
    (admitted : cleanupFollows node action) (moved : node.step action = some next) : Leased next := by
  have accounts := node_accounts_step node next action inv.accounts moved
  cases action with
  | createSession => exact leased_create_session node next inv accounts moved
  | criteria service => exact leased_criteria node next service inv accounts moved
  | callStep outcome => exact leased_call_step node next outcome inv admitted accounts moved
  | runnerStep index ending executor =>
      exact leased_runner_step node next index ending executor inv admitted accounts moved
  | cleanupSession position service => exact leased_cleanup_session node next position service inv admitted moved
  | overdueDeactivate => exact leased_overdue node next inv moved

theorem leased_reached (node : SessManagerNode) (reached : Reached sessManagerNode cleanupFollows node) :
    Leased node := by
  apply reached_invariant sessManagerNode cleanupFollows Leased _ _ node reached
  · rintro initial rfl
    exact ⟨fun _ _ present => (by cases present), fun _ _ present => (by cases present),
      fun _ _ present => (by cases present), fun _ => rfl, fun overdue => (by cases overdue), Nat.zero_le 1,
      fun active => (by cases active), fun _ armedBy => (by cases armedBy)⟩
  · intro source action target inv admitted moved
    exact leased_step source target action inv admitted moved

-- A creation that fails after its criteria leaves the hardware disarmed, as
-- long as it fails by the start-up check and its cleanup gets to DEACTIVATE.
theorem failed_session_disarmed (node : SessManagerNode) (reached : Reached sessManagerNode cleanupFollows node) :
    FailedDisarmed node := by
  intro index call errorMsg armedBy present failed cleaned active
  have inv := leased_reached node reached
  rcases inv.armed active index armedBy with established | lease
  · simp [SessManagerNode.established, present, Call.established, Call.succeeded, failed] at established
  · simp only [SessManagerNode.leases, cleaned, List.length_nil, Nat.add_zero] at lease
    obtain ⟨other, member, armed⟩ := List.countP_pos_iff.mp (by omega : 0 < node.manager.calls.countP Call.armed)
    obtain ⟨place, at_place⟩ := List.mem_iff_getElem?.mp member
    by_cases own : place = index
    · subst own
      rw [present] at at_place
      cases at_place
      -- The failed call has no thread left, since it would have succeeded.
      simp only [Call.armed, failed, CallPc.arming, Bool.false_or] at armed
      have succeeded := accounts_alive call (inv.accounts place call present) armed (by rw [failed]; rfl)
      simp [Call.succeeded, failed] at succeeded
    · rw [(inv.holder index armedBy).1 place other at_place own] at armed
      cases armed

theorem call_standing (calls : List Call) (pcs : List CallPc) (index : Nat) (pc : CallPc)
    (stand : calls.map Call.pc = pcs) (at_index : pcs[index]? = some pc) :
    ∃ call, calls[index]? = some call ∧ call.pc = pc := by
  rw [← stand, List.getElem?_map, Option.map_eq_some_iff] at at_index
  exact at_index

def requestStarts : List SessNodeAction :=
  [.createSession, .callStep .ok, .criteria .served] ++ List.replicate 3 (.callStep .ok)

-- The runner ends within the start-up join, and its cleanup runs at last.
theorem failed_session_disarmed_crash : ∃ node : SessManagerNode, ((node.armedBy = some 0 ∧ node.scheduled = []) ∧
    node.manager.calls.map Call.pc = [.returned (some ⟨false,
      some "Session runner failed to start: Session runner thread unable to start."⟩)]) ∧ node.hardware ≠ .active := by
  obtain ⟨node, reached, ends⟩ := replay_exists sessManagerNode cleanupFollows
    (requestStarts ++ List.replicate 5 (.runnerStep 0 .ok true) ++ List.replicate 2 (.callStep .ok) ++
      [.cleanupSession 0 .served])
    ⟨SessionManager.init, .inactive, [], 0, none⟩
    (fun node : SessManagerNode => (node.armedBy = some 0 ∧ node.scheduled = []) ∧
      node.manager.calls.map Call.pc = [.returned (some ⟨false,
        some "Session runner failed to start: Session runner thread unable to start."⟩)])
    rfl (by decide)
  refine ⟨node, ends, ?_⟩
  obtain ⟨call, at_call, failed⟩ := call_standing node.manager.calls _ 0 _ ends.2 rfl
  exact failed_session_disarmed node reached 0 call _ ends.1.1 at_call failed ends.1.2

-- A creation that fails on its resources, or on the start of its thread,
-- leaves the hardware active; the next request is refused its ACTIVATE.
theorem failed_session_leaves_armed :
    (∃ node : SessManagerNode, Reached sessManagerNode anyAction node ∧ ¬ FailedDisarmed node ∧
      node.manager.calls.map Call.pc =
        [.returned (some ⟨false, some "Session resource creation failed: "⟩),
          .returned (some ⟨false, some "Session creation criteria not met."⟩)]) ∧
    ∃ node : SessManagerNode, Reached sessManagerNode anyAction node ∧ node.hardware = .active ∧ node.scheduled = [] ∧
      node.manager.calls.map Call.pc =
        [.returned (some ⟨false, some "Session runner failed to start: can't start new thread"⟩)] := by
  constructor
  · obtain ⟨node, reached, ends⟩ := replay_exists sessManagerNode anyAction
      [.createSession, .callStep .ok, .criteria .served, .callStep (.refused ""),
        .createSession, .callStep .ok, .criteria .served]
      ⟨SessionManager.init, .inactive, [], 0, none⟩
      (fun node : SessManagerNode => (node.armedBy = some 0 ∧ node.scheduled = [] ∧ node.hardware = .active) ∧
        node.manager.calls.map Call.pc =
          [.returned (some ⟨false, some "Session resource creation failed: "⟩),
            .returned (some ⟨false, some "Session creation criteria not met."⟩)])
      rfl (by decide)
    refine ⟨node, reached, fun disarmed => ?_, ends.2⟩
    obtain ⟨call, at_call, failed⟩ := call_standing node.manager.calls _ 0 _ ends.2 rfl
    exact disarmed 0 call _ ends.1.1 at_call failed ends.1.2.1 ends.1.2.2
  · exact replay_exists sessManagerNode anyAction
      ([.createSession, .callStep .ok, .criteria .served] ++ List.replicate 2 (.callStep .ok) ++
        [.callStep (.raises "can't start new thread"), .callStep .ok])
      ⟨SessionManager.init, .inactive, [], 0, none⟩
      (fun node : SessManagerNode => node.hardware = .active ∧ node.scheduled = [] ∧
        node.manager.calls.map Call.pc =
          [.returned (some ⟨false, some "Session runner failed to start: can't start new thread"⟩)])
      rfl (by decide)

end Animacharacter.SessionMng
