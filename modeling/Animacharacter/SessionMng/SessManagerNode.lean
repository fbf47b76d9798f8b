import Animacharacter.SessionMng.Resources

set_option autoImplicit false

namespace Animacharacter.SessionMng

open StepSystem

-- The primary states of the hardware manager's lifecycle.
inductive LifecycleState where
  | unconfigured
  | inactive
  | active
  | finalized
deriving DecidableEq

-- What becomes of a change_state request: answered, not delivered, carried out
-- after its caller's timeout, or ended by an exception of the callback.
inductive Service where
  | served
  | unavailable
  | late
  | raised
deriving DecidableEq

-- TRANSITION_ACTIVATE and the success of its response; only an inactive node accepts it.
def activate (hardware : LifecycleState) (service : Service) : LifecycleState × Bool :=
  if hardware ≠ .inactive then (hardware, false)
  else
    match service with
    | .served => (.active, true)
    | .unavailable => (hardware, false)
    | .late => (.active, false)
    | .raised => (.unconfigured, false)

-- TRANSITION_DEACTIVATE, and whether it is still to come when its caller goes on.
def deactivate (hardware : LifecycleState) (service : Service) : LifecycleState × Bool :=
  if hardware ≠ .active then (hardware, false)
  else
    match service with
    | .served => (.inactive, false)
    | .unavailable => (hardware, false)
    | .late => (hardware, true)
    | .raised => (.unconfigured, false)

-- The session manager node: its manager, the hardware manager's state, the
-- cleanup coroutines that are scheduled and have not run, by their sessions, and
-- how many DEACTIVATEs are still to be carried out after their callers' timeouts.
-- `armedBy` is the call whose criteria were the last to activate the hardware,
-- and none once an ACTIVATE has taken effect that its caller had given up.
structure SessManagerNode where
  manager : SessionManager
  hardware : LifecycleState
  scheduled : List Nat
  overdue : Nat
  armedBy : Option Nat
deriving DecidableEq

inductive SessNodeAction where
  | createSession
  | criteria (service : Service)
  | callStep (outcome : Outcome)
  | runnerStep (index : Nat) (ending : CleanupEnd) (executor : Bool)
  | cleanupSession (position : Nat) (service : Service)
  | overdueDeactivate

def CallPc.isReturned : CallPc → Bool
  | .returned _ => true
  | _ => false

namespace SessManagerNode

-- The service's callbacks exclude each other, so the last call is under way.
def current (node : SessManagerNode) : Nat := node.manager.calls.length - 1

def criteriaStep (node : SessManagerNode) (service : Service) : Option SessManagerNode :=
  match node.manager.calls[node.current]? with
  | none => none
  | some call =>
      if call.pc = .criteria then
        let activated := activate node.hardware service
        let outcome := if activated.2 then Outcome.ok else .refused "Hardware manager was unable to be activated"
        (node.manager.newSessionStep node.current call outcome).map fun manager =>
          { node with
            manager
            hardware := activated.1
            armedBy := if activated.2 then some node.current
              else if activated.1 = node.hardware then node.armedBy else none }
      else none

def callStep (node : SessManagerNode) (outcome : Outcome) : Option SessManagerNode :=
  match node.manager.calls[node.current]? with
  | none => none
  | some call =>
      if call.pc = .criteria then none
      else (node.manager.newSessionStep node.current call outcome).map fun manager => { node with manager }

-- The wrapper's last callback schedules the cleanup, given an executor.
def runnerStep (node : SessManagerNode) (index : Nat) (ending : CleanupEnd) (executor : Bool) :
    Option SessManagerNode :=
  match node.manager.calls[index]? with
  | none => none
  | some call =>
      (node.manager.runnerStep index call ending).map fun manager =>
        { node with
          manager
          scheduled := if call.thread = some .userCleanup ∧ executor = true then node.scheduled ++ [index] else node.scheduled }

def step (node : SessManagerNode) : SessNodeAction → Option SessManagerNode
  | .createSession =>
      if node.manager.calls.all fun call => call.pc.isReturned then
        some { node with manager := { node.manager with calls := node.manager.calls ++ [Call.fresh] } }
      else none
  | .criteria service => node.criteriaStep service
  | .callStep outcome => node.callStep outcome
  | .runnerStep index ending executor => node.runnerStep index ending executor
  | .cleanupSession position service =>
      if position < node.scheduled.length then
        let deactivated := deactivate node.hardware service
        some { node with
          hardware := deactivated.1
          scheduled := node.scheduled.eraseIdx position
          overdue := node.overdue + deactivated.2.toNat }
      else none
  | .overdueDeactivate =>
      if 0 < node.overdue then
        some { node with hardware := (deactivate node.hardware .served).1, overdue := node.overdue - 1 }
      else none

end SessManagerNode

def sessManagerNode : System SessManagerNode SessNodeAction where
  start node := node = ⟨SessionManager.init, .inactive, [], 0, none⟩
  step := SessManagerNode.step

theorem node_step_manager (node next : SessManagerNode) (action : SessNodeAction)
    (moved : node.step action = some next) :
    next.manager = node.manager ∨ ∃ inner, node.manager.step inner = some next.manager := by
  cases action with
  | createSession =>
      simp only [SessManagerNode.step] at moved
      split at moved <;> cases moved
      exact .inr ⟨.newSession, rfl⟩
  | criteria service =>
      simp only [SessManagerNode.step, SessManagerNode.criteriaStep] at moved
      split at moved
      · cases moved
      · rename_i call present
        split at moved
        · simp only [Option.map_eq_some_iff] at moved
          obtain ⟨manager, stepped, rfl⟩ := moved
          exact .inr ⟨.newSessionStep node.current _, by simp only [SessionManager.step, present]; exact stepped⟩
        · cases moved
  | callStep outcome =>
      simp only [SessManagerNode.step, SessManagerNode.callStep] at moved
      split at moved
      · cases moved
      · rename_i call present
        split at moved
        · cases moved
        · simp only [Option.map_eq_some_iff] at moved
          obtain ⟨manager, stepped, rfl⟩ := moved
          exact .inr ⟨.newSessionStep node.current outcome, by simp only [SessionManager.step, present]; exact stepped⟩
  | runnerStep index ending executor =>
      simp only [SessManagerNode.step, SessManagerNode.runnerStep] at moved
      split at moved
      · cases moved
      · rename_i call present
        simp only [Option.map_eq_some_iff] at moved
        obtain ⟨manager, stepped, rfl⟩ := moved
        exact .inr ⟨.runnerStep index ending, by simp only [SessionManager.step, present]; exact stepped⟩
  | cleanupSession position service =>
      simp only [SessManagerNode.step] at moved
      split at moved <;> cases moved
      exact .inl rfl
  | overdueDeactivate =>
      simp only [SessManagerNode.step] at moved
      split at moved <;> cases moved
      exact .inl rfl

theorem node_accounts_step (node next : SessManagerNode) (action : SessNodeAction)
    (accounts : Each (fun _ => Accounts) node.manager.calls) (moved : node.step action = some next) :
    Each (fun _ => Accounts) next.manager.calls := by
  rcases node_step_manager node next action moved with same | ⟨inner, stepped⟩
  · rw [same]
    exact accounts
  · exact session_step_accounts node.manager next.manager inner accounts stepped

end Animacharacter.SessionMng
