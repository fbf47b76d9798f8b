import Mathlib.Data.List.Basic
import Mathlib.Logic.Function.Basic

set_option autoImplicit false

namespace Animacharacter.Orchestration

-- The nodes of hwmng_sup and ssmng_sup.
inductive Managed where
  | hardwareManager
  | sessionManager
deriving DecidableEq

inductive TransitionCallbackReturn where
  | SUCCESS
  | FAILURE
  | ERROR
deriving DecidableEq

-- The ids of lifecycle_msgs that the source names.
def PRIMARY_STATE_UNCONFIGURED : Nat := 1
def PRIMARY_STATE_INACTIVE : Nat := 2
def PRIMARY_STATE_ACTIVE : Nat := 3
def PRIMARY_STATE_FINALIZED : Nat := 4

def TRANSITION_CONFIGURE : Nat := 1
def TRANSITION_ACTIVATE : Nat := 3
def TRANSITION_UNCONFIGURED_SHUTDOWN : Nat := 5
def TRANSITION_INACTIVE_SHUTDOWN : Nat := 6
def TRANSITION_ACTIVE_SHUTDOWN : Nat := 7

def shutdownTransition (state : Nat) : Option Nat :=
  if state = PRIMARY_STATE_UNCONFIGURED then some TRANSITION_UNCONFIGURED_SHUTDOWN
  else if state = PRIMARY_STATE_INACTIVE then some TRANSITION_INACTIVE_SHUTDOWN
  else if state = PRIMARY_STATE_ACTIVE then some TRANSITION_ACTIVE_SHUTDOWN
  else none

def ShutdownTransition (transition : Nat) : Prop :=
  transition = TRANSITION_UNCONFIGURED_SHUTDOWN ∨ transition = TRANSITION_INACTIVE_SHUTDOWN ∨
    transition = TRANSITION_ACTIVE_SHUTDOWN

-- What a managed node of rclpy does to a change_state request, given what the
-- callback of the transition returns; a transition the state does not have raises,
-- and the request gets no response.
structure ManagedNode (State : Type) where
  start : State
  currentState : State → Nat
  changeState : State → Nat → TransitionCallbackReturn → State × Option Bool

structure ManagedNode.Documented {State : Type} (managed : ManagedNode State) : Prop where
  shutdown : ∀ state transition ret, ShutdownTransition transition →
    (managed.changeState state transition ret).2 = some true →
      managed.currentState (managed.changeState state transition ret).1 = PRIMARY_STATE_FINALIZED
  finalized : ∀ state transition ret, managed.currentState state = PRIMARY_STATE_FINALIZED →
    managed.currentState (managed.changeState state transition ret).1 = PRIMARY_STATE_FINALIZED

inductive Request where
  | getState
  | changeState (transition : Nat)
deriving DecidableEq

inductive Response where
  | state (id : Nat)
  | success (ok : Bool)
deriving DecidableEq

-- A call that went out: whether its node has served it, and the response if there is one.
structure Call where
  node : Managed
  request : Request
  served : Bool
  response : Option Response
deriving DecidableEq

-- The two nodes, and the transitions of theirs that succeeded.
structure Nodes (State : Type) where
  state : Managed → State
  succeeded : List (Managed × Nat)

structure Services (State : Type) where
  nodes : Nodes State
  calls : List Call

-- A coroutine of the supervisor on one of the nodes: configure_async and
-- activate_async start at requests, shutdown_async at asks.
inductive Task where
  | asks (node : Managed)
  | observes (node : Managed) (call : Nat)
  | requests (node : Managed) (transition : Nat)
  | changes (node : Managed) (call : Nat)
  | returned (ok : Bool)
deriving DecidableEq

inductive TaskEvent where
  | call (ready : Bool)
  | resume
  | timeOut
deriving DecidableEq

section Serving

variable {State : Type} (managed : ManagedNode State)

def Nodes.changeState (nodes : Nodes State) (node : Managed) (transition : Nat) (ret : TransitionCallbackReturn) :
    Nodes State × Option Bool :=
  let changed := managed.changeState (nodes.state node) transition ret
  (⟨Function.update nodes.state node changed.1,
    if changed.2 = some true then nodes.succeeded ++ [(node, transition)] else nodes.succeeded⟩, changed.2)

namespace Services

def init : Services State := ⟨⟨fun _ => managed.start, []⟩, []⟩

def callAsync (services : Services State) (node : Managed) (request : Request) : Services State :=
  { services with calls := services.calls ++ [⟨node, request, false, none⟩] }

-- The node serves a request, in whatever order the requests reach it.
def serve (services : Services State) (index : Nat) (ret : TransitionCallbackReturn) : Option (Services State) :=
  match services.calls[index]? with
  | some ⟨node, request, false, _⟩ =>
      match request with
      | .getState =>
          let response := Response.state (managed.currentState (services.nodes.state node))
          some { services with calls := services.calls.set index ⟨node, request, true, some response⟩ }
      | .changeState transition =>
          let changed := services.nodes.changeState managed node transition ret
          some ⟨changed.1, services.calls.set index ⟨node, request, true, changed.2.map .success⟩⟩
  | _ => none

-- A change_state request of another client, such as the session manager's for the
-- hardware manager.
def otherClient (services : Services State) (node : Managed) (transition : Nat) (ret : TransitionCallbackReturn) :
    Services State :=
  { services with nodes := (services.nodes.changeState managed node transition ret).1 }

def responseOf (services : Services State) (index : Nat) : Option Response :=
  services.calls[index]?.bind Call.response

end Services

-- wait_future gives up at its timeout whether or not the response is there.
def Task.step (services : Services State) : Task → TaskEvent → Option (Services State × Task)
  | .asks node, .call ready =>
      if ready then some (services.callAsync node .getState, .observes node services.calls.length)
      else some (services, .returned false)
  | .observes node call, .resume =>
      match services.responseOf call with
      | some (.state id) => some (services, ((shutdownTransition id).map (.requests node)).getD (.returned false))
      | _ => none
  | .observes _ _, .timeOut => some (services, .returned false)
  | .requests node transition, .call ready =>
      if ready then
        some (services.callAsync node (.changeState transition), .changes node services.calls.length)
      else some (services, .returned false)
  | .changes _ call, .resume =>
      match services.responseOf call with
      | some (.success ok) => some (services, .returned ok)
      | _ => none
  | .changes _ _, .timeOut => some (services, .returned false)
  | _, _ => none

end Serving

-- What a task is run for: on which node, with which transitions, from what on, and
-- what holds of the nodes once one of them has succeeded.
structure Aim (State : Type) where
  node : Managed
  transition : Nat → Prop
  base : Nodes State → Prop
  goal : Nodes State → Prop

section Promising

variable {State : Type} (managed : ManagedNode State)

-- A change_state of the aim that is out and, once its response says so, done.
def Services.Answers (aim : Aim State) (services : Services State) (call : Nat) : Prop :=
  ∃ transition served response, aim.transition transition ∧
    services.calls[call]? = some ⟨aim.node, .changeState transition, served, response⟩ ∧
    (response = some (.success true) → aim.goal services.nodes)

def Stable (holds : Nodes State → Prop) : Prop :=
  ∀ nodes node transition ret, holds nodes → holds (nodes.changeState managed node transition ret).1

structure Aim.Sound (aim : Aim State) : Prop where
  base : Stable managed aim.base
  goal : Stable managed aim.goal
  reached : ∀ nodes transition ret, aim.base nodes → aim.transition transition →
    (nodes.changeState managed aim.node transition ret).2 = some true →
      aim.goal (nodes.changeState managed aim.node transition ret).1

-- A task that waits for its change_state has reached its goal with the response.
def Task.Promises (aim : Aim State) (services : Services State) : Task → Prop
  | .asks node | .observes node _ =>
      aim.base services.nodes ∧ node = aim.node ∧ ∀ transition, ShutdownTransition transition → aim.transition transition
  | .requests node transition => aim.base services.nodes ∧ node = aim.node ∧ aim.transition transition
  | .changes _ call => aim.base services.nodes ∧ Services.Answers aim services call
  | .returned ok => ok = true → aim.goal services.nodes

theorem shutdown_transition (state transition : Nat) (chosen : shutdownTransition state = some transition) :
    ShutdownTransition transition := by
  simp only [shutdownTransition] at chosen
  split at chosen
  · exact .inl (Option.some.inj chosen).symm
  · split at chosen
    · exact .inr (.inl (Option.some.inj chosen).symm)
    · split at chosen
      · exact .inr (.inr (Option.some.inj chosen).symm)
      · cases chosen

-- What the services go through keeps what the nodes were brought to, and the calls
-- that are out.
structure Services.Grows (aim : Aim State) (services next : Services State) : Prop where
  base : aim.base services.nodes → aim.base next.nodes
  goal : aim.goal services.nodes → aim.goal next.nodes
  calls : ∀ call, aim.base services.nodes → services.Answers aim call → next.Answers aim call

theorem grows_promises (aim : Aim State) (services next : Services State) (task : Task)
    (grows : services.Grows aim next) (promises : task.Promises aim services) : task.Promises aim next := by
  cases task with
  | asks node | observes node call | requests node transition => exact ⟨grows.base promises.1, promises.2⟩
  | changes node call => exact ⟨grows.base promises.1, grows.calls call promises.1 promises.2⟩
  | returned ok => exact fun succeeded => grows.goal (promises succeeded)

theorem call_async_grows (aim : Aim State) (services : Services State) (node : Managed) (request : Request) :
    services.Grows aim (services.callAsync node request) := by
  refine ⟨id, id, fun call _ answers => ?_⟩
  obtain ⟨transition, served, response, chosen, out, reached⟩ := answers
  refine ⟨transition, served, response, chosen, ?_, reached⟩
  rw [Services.callAsync, List.getElem?_append_left (List.getElem?_eq_some_iff.mp out).1]
  exact out

theorem other_client_grows (aim : Aim State) (sound : aim.Sound managed) (services : Services State) (node : Managed)
    (transition : Nat) (ret : TransitionCallbackReturn) :
    services.Grows aim (services.otherClient managed node transition ret) := by
  refine ⟨sound.base _ _ _ _, sound.goal _ _ _ _, fun call _ answers => ?_⟩
  obtain ⟨requested, served, response, chosen, out, reached⟩ := answers
  exact ⟨requested, served, response, chosen, out, fun succeeded => sound.goal _ _ _ _ (reached succeeded)⟩

-- The calls stay what they are but for the one that is served.
theorem set_answers (aim : Aim State) (services : Services State) (nodes : Nodes State) (index call : Nat)
    (one replaced : Call) (kept : aim.goal services.nodes → aim.goal nodes) (before : services.calls[index]? = some one)
    (renewed : ∀ transition, aim.transition transition → one.node = aim.node → one.request = .changeState transition →
      replaced.node = aim.node ∧ replaced.request = .changeState transition ∧
        (replaced.response = some (.success true) → aim.goal nodes))
    (answers : services.Answers aim call) :
    (⟨nodes, services.calls.set index replaced⟩ : Services State).Answers aim call := by
  obtain ⟨transition, served, response, chosen, out, reached⟩ := answers
  by_cases same : index = call
  · rw [same] at before
    cases before.symm.trans out
    obtain ⟨node, request, succeeds⟩ := renewed transition chosen rfl rfl
    refine ⟨transition, replaced.served, replaced.response, chosen, ?_, succeeds⟩
    rw [same, List.getElem?_set_self (List.getElem?_eq_some_iff.mp out).1, ← node, ← request]
  · refine ⟨transition, served, response, chosen, ?_, fun succeeded => kept (reached succeeded)⟩
    rw [List.getElem?_set_ne same]
    exact out

theorem serve_grows (aim : Aim State) (sound : aim.Sound managed) (services next : Services State) (index : Nat)
    (ret : TransitionCallbackReturn) (served : services.serve managed index ret = some next) :
    services.Grows aim next := by
  simp only [Services.serve] at served
  split at served
  · rename_i node request response out
    split at served
    · cases served
      refine ⟨id, id, fun call _ answers => ?_⟩
      exact set_answers aim services services.nodes index call _ _ id out (fun _ _ _ other => nomatch other) answers
    · rename_i transition
      cases served
      refine ⟨sound.base _ _ _ _, sound.goal _ _ _ _, fun call based answers => ?_⟩
      refine set_answers aim services _ index call _ _ (sound.goal _ _ _ _) out (fun requested chosen here same => ?_) answers
      refine ⟨here, same, fun succeeded => ?_⟩
      cases same
      have answer : (services.nodes.changeState managed node transition ret).2 = some true := by
        obtain ⟨ok, changed, success⟩ := Option.map_eq_some_iff.mp succeeded
        cases success
        exact changed
      have arrived : node = aim.node := here
      rw [arrived] at answer ⊢
      exact sound.reached services.nodes transition ret based chosen answer
  · cases served

theorem task_services (services next : Services State) (task after : Task) (event : TaskEvent)
    (moved : task.step services event = some (next, after)) :
    next = services ∨ ∃ node request, next = services.callAsync node request := by
  simp only [Task.step] at moved
  split at moved
  all_goals try split at moved
  all_goals cases moved
  all_goals first
    | exact .inl rfl
    | exact .inr ⟨_, _, rfl⟩

theorem task_grows (aim : Aim State) (services next : Services State) (task after : Task) (event : TaskEvent)
    (moved : task.step services event = some (next, after)) : services.Grows aim next := by
  obtain same | ⟨node, request, sent⟩ := task_services services next task after event moved
  · rw [same]
    exact ⟨id, id, fun _ _ answers => answers⟩
  · rw [sent]
    exact call_async_grows aim services node request

theorem task_promises (aim : Aim State) (services next : Services State) (task after : Task) (event : TaskEvent)
    (promises : task.Promises aim services) (moved : task.step services event = some (next, after)) :
    after.Promises aim next := by
  have failed (services : Services State) : (Task.returned false).Promises aim services := nofun
  cases task with
  | asks node =>
      cases event with
      | call ready =>
          cases ready <;> cases moved
          · exact failed services
          · exact promises
      | resume | timeOut => cases moved
  | observes node call =>
      cases event with
      | call ready => cases moved
      | resume =>
          simp only [Task.step] at moved
          split at moved
          · rename_i id _
            cases moved
            cases chosen : shutdownTransition id with
            | none => exact failed services
            | some transition =>
                exact ⟨promises.1, promises.2.1, promises.2.2 transition (shutdown_transition id transition chosen)⟩
          · cases moved
      | timeOut =>
          cases moved
          exact failed services
  | requests node transition =>
      cases event with
      | call ready =>
          cases ready <;> cases moved
          · exact failed services
          · obtain ⟨based, here, chosen⟩ := promises
            refine ⟨based, transition, false, none, chosen, ?_, nofun⟩
            rw [Services.callAsync, List.getElem?_concat_length, here]
      | resume | timeOut => cases moved
  | changes node call =>
      cases event with
      | call ready => cases moved
      | resume =>
          simp only [Task.step] at moved
          split at moved
          · rename_i ok answered
            cases moved
            intro succeeded
            obtain ⟨_, transition, served, response, _, out, reached⟩ := promises
            rw [Services.responseOf, out] at answered
            exact reached (answered.trans (by rw [succeeded]))
          · cases moved
      | timeOut =>
          cases moved
          exact failed services
  | returned ok => cases event <;> cases moved

end Promising

end Animacharacter.Orchestration
