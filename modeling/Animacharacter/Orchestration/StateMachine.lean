import Mathlib.Data.Finset.Basic
import Animacharacter.Library.Dict
import Animacharacter.Alerts.Alert
import Animacharacter.Orchestration.SystemCommons

set_option autoImplicit false

namespace Animacharacter.Orchestration

open Alerts

structure StateChangeResult (S : Type) where
  prevState : S
  newState : S
  legalTransition : Bool
deriving DecidableEq

def StateChangeResult.changed {S : Type} [DecidableEq S] (result : StateChangeResult S) : Bool :=
  result.prevState ≠ result.newState

-- FSM: it checks transitions and leaves to its caller when one happens.
structure FSM (S : Type) where
  state : S
  transitions : Dict S (Finset S)
  finalized : Bool
deriving DecidableEq

namespace FSM

variable {S : Type} [DecidableEq S] [ToString S]

def init (initialState : S) : FSM S := ⟨initialState, Dict.empty, false⟩

def addTransitions (fsm : FSM S) (source : S) (destinations : Finset S) : Except String (FSM S) :=
  if fsm.finalized then .error "FSM has been finalized."
  else
    let known := (fsm.transitions.get source).getD ∅
    .ok { fsm with transitions := fsm.transitions.set source (known ∪ destinations) }

-- The ValueError of a transition that is not allowed leaves the state alone.
def changeState (fsm : FSM S) (newState : S) : Except String (FSM S × StateChangeResult S) :=
  let allowed := (fsm.transitions.get fsm.state).getD ∅
  if newState ∉ allowed then .error s!"Invalid transition: {fsm.state} -> {newState}"
  else .ok ({ fsm with state := newState }, ⟨fsm.state, newState, true⟩)

def forceChangeState (fsm : FSM S) (newState : S) : FSM S × StateChangeResult S :=
  match fsm.changeState newState with
  | .ok changed => changed
  | .error _ => ({ fsm with state := newState }, ⟨fsm.state, newState, false⟩)

@[simp] theorem force_change_state_state (fsm : FSM S) (newState : S) :
    (fsm.forceChangeState newState).1.state = newState := by
  by_cases allowed : newState ∈ (fsm.transitions.get fsm.state).getD ∅ <;>
    simp [forceChangeState, changeState, allowed]

@[simp] theorem force_change_state_transitions (fsm : FSM S) (newState : S) :
    (fsm.forceChangeState newState).1.transitions = fsm.transitions := by
  by_cases allowed : newState ∈ (fsm.transitions.get fsm.state).getD ∅ <;>
    simp [forceChangeState, changeState, allowed]

end FSM

inductive SystemState where
  | BOOTING
  | STANDBY
  | CONNECTING
  | ACTIVE
  | DISCONNECTING
  | FAULT
  | SHUTDOWN
deriving DecidableEq

instance : ToString SystemState where
  toString
    | .BOOTING => "BOOTING"
    | .STANDBY => "STANDBY"
    | .CONNECTING => "CONNECTING"
    | .ACTIVE => "ACTIVE"
    | .DISCONNECTING => "DISCONNECTING"
    | .FAULT => "FAULT"
    | .SHUTDOWN => "SHUTDOWN"

inductive SystemEvent where
  | SESSION_CREATION_REQUESTED
  | SESSION_CREATED
  | SESSION_CREATION_FAILED
  | DISCONNECT_REQUESTED
  | DISCONNECTED
  | FATAL_FAULT
deriving DecidableEq

def mapAlertToSystemEvent (action : AlertActionType) (alert : Alert) : Option SystemEvent :=
  match action with
  | .raise =>
      if alert.level = Level.FATAL then some .FATAL_FAULT
      else if alert.code = AlertCodes.INF_SESSION_CREATION_REQUEST then some .SESSION_CREATION_REQUESTED
      else if alert.code = AlertCodes.INF_SESSION_CREATION_OK then some .SESSION_CREATED
      else if alert.code = AlertCodes.ERR_SESSION_CREATION_FAILED then some .SESSION_CREATION_FAILED
      else if alert.code = AlertCodes.INF_SESSION_CLOSURE_REQUEST then some .DISCONNECT_REQUESTED
      else if alert.code = AlertCodes.INF_SESSION_CLOSURE_OK then some .DISCONNECTED
      else none
  | .clear => none

namespace SystemFSM

open SystemState

-- The table that the constructor adds, state by state.
def transitionTable : List (SystemState × Finset SystemState) :=
  [(BOOTING, {STANDBY, FAULT}), (STANDBY, {CONNECTING, FAULT}), (CONNECTING, {STANDBY, ACTIVE, FAULT}),
    (ACTIVE, {DISCONNECTING, FAULT}), (DISCONNECTING, {STANDBY, FAULT}), (FAULT, {SHUTDOWN})]

def init : Except String (FSM SystemState) :=
  transitionTable.foldlM (fun fsm row => fsm.addTransitions row.1 row.2) (FSM.init BOOTING)

abbrev Outcome := Except String (FSM SystemState × StateChangeResult SystemState)

def noop (fsm : FSM SystemState) : FSM SystemState × StateChangeResult SystemState :=
  (fsm, ⟨fsm.state, fsm.state, true⟩)

def handleBooting (fsm : FSM SystemState) (_event : SystemEvent) : Outcome := .ok (noop fsm)

def handleStandby (fsm : FSM SystemState) (event : SystemEvent) : Outcome :=
  if event = .SESSION_CREATION_REQUESTED then fsm.changeState CONNECTING
  else .ok (noop fsm)

def handleConnecting (fsm : FSM SystemState) (event : SystemEvent) : Outcome :=
  if event = .SESSION_CREATED then fsm.changeState ACTIVE
  else if event = .SESSION_CREATION_FAILED then fsm.changeState STANDBY
  else .ok (noop fsm)

-- A session that closes without a closure request forces the state.
def handleActive (fsm : FSM SystemState) (event : SystemEvent) : Outcome :=
  if event = .DISCONNECT_REQUESTED then fsm.changeState DISCONNECTING
  else if event = .DISCONNECTED then .ok (fsm.forceChangeState STANDBY)
  else .ok (noop fsm)

def handleDisconnecting (fsm : FSM SystemState) (event : SystemEvent) : Outcome :=
  if event = .DISCONNECTED then fsm.changeState STANDBY
  else .ok (noop fsm)

def processEvent (fsm : FSM SystemState) (event : SystemEvent) : Outcome :=
  if event = .FATAL_FAULT then
    if fsm.state = FAULT then .ok (noop fsm)
    else .ok (fsm.forceChangeState FAULT)
  else
    match fsm.state with
    | BOOTING => handleBooting fsm event
    | STANDBY => handleStandby fsm event
    | CONNECTING => handleConnecting fsm event
    | ACTIVE => handleActive fsm event
    | DISCONNECTING => handleDisconnecting fsm event
    | FAULT | SHUTDOWN => .ok (noop fsm)

-- The state an event leads to, as the constructor's table has it.
def nextState : SystemEvent → SystemState → SystemState
  | .FATAL_FAULT, _ => FAULT
  | .SESSION_CREATION_REQUESTED, STANDBY => CONNECTING
  | .SESSION_CREATED, CONNECTING => ACTIVE
  | .SESSION_CREATION_FAILED, CONNECTING => STANDBY
  | .DISCONNECT_REQUESTED, ACTIVE => DISCONNECTING
  | .DISCONNECTED, ACTIVE => STANDBY
  | .DISCONNECTED, DISCONNECTING => STANDBY
  | _, state => state

def Configured (fsm : FSM SystemState) : Prop :=
  ∀ state, (fsm.transitions.get state).getD ∅ = (transitionTable.lookup state).getD ∅

theorem init_configured : ∃ fsm, init = .ok fsm ∧ fsm.state = BOOTING ∧ Configured fsm := by
  refine ⟨_, rfl, rfl, ?_⟩
  intro state
  cases state <;> decide

def Leads (outcome : Outcome) (target : SystemState) : Prop :=
  ∃ next result, outcome = .ok (next, result) ∧ next.state = target ∧ Configured next

theorem noop_leads (fsm : FSM SystemState) (target : SystemState) (configured : Configured fsm)
    (here : fsm.state = target) : Leads (.ok (noop fsm)) target :=
  ⟨fsm, _, rfl, here, configured⟩

theorem change_leads (fsm : FSM SystemState) (source target : SystemState) (configured : Configured fsm)
    (here : fsm.state = source) (allowed : target ∈ (transitionTable.lookup source).getD ∅) :
    Leads (fsm.changeState target) target := by
  refine ⟨{ fsm with state := target }, ⟨fsm.state, target, true⟩, ?_, rfl, configured⟩
  have admitted : target ∈ (fsm.transitions.get fsm.state).getD ∅ := by
    rw [configured fsm.state, here]
    exact allowed
  simp only [FSM.changeState, admitted, not_true_eq_false, if_false]

theorem force_leads (fsm : FSM SystemState) (target : SystemState) (configured : Configured fsm) :
    Leads (.ok (fsm.forceChangeState target)) target := by
  refine ⟨(fsm.forceChangeState target).1, (fsm.forceChangeState target).2, rfl,
    FSM.force_change_state_state fsm target, ?_⟩
  intro state
  rw [FSM.force_change_state_transitions]
  exact configured state

theorem handle_standby_leads (fsm : FSM SystemState) (event : SystemEvent) (configured : Configured fsm)
    (here : fsm.state = STANDBY) (regular : event ≠ .FATAL_FAULT) :
    Leads (handleStandby fsm event) (nextState event STANDBY) := by
  cases event with
  | FATAL_FAULT => exact absurd rfl regular
  | SESSION_CREATION_REQUESTED => exact change_leads fsm STANDBY CONNECTING configured here (by decide)
  | _ => exact noop_leads fsm STANDBY configured here

theorem handle_connecting_leads (fsm : FSM SystemState) (event : SystemEvent) (configured : Configured fsm)
    (here : fsm.state = CONNECTING) (regular : event ≠ .FATAL_FAULT) :
    Leads (handleConnecting fsm event) (nextState event CONNECTING) := by
  cases event with
  | FATAL_FAULT => exact absurd rfl regular
  | SESSION_CREATED => exact change_leads fsm CONNECTING ACTIVE configured here (by decide)
  | SESSION_CREATION_FAILED => exact change_leads fsm CONNECTING STANDBY configured here (by decide)
  | _ => exact noop_leads fsm CONNECTING configured here

theorem handle_active_leads (fsm : FSM SystemState) (event : SystemEvent) (configured : Configured fsm)
    (here : fsm.state = ACTIVE) (regular : event ≠ .FATAL_FAULT) :
    Leads (handleActive fsm event) (nextState event ACTIVE) := by
  cases event with
  | FATAL_FAULT => exact absurd rfl regular
  | DISCONNECT_REQUESTED => exact change_leads fsm ACTIVE DISCONNECTING configured here (by decide)
  | DISCONNECTED => exact force_leads fsm STANDBY configured
  | _ => exact noop_leads fsm ACTIVE configured here

theorem handle_disconnecting_leads (fsm : FSM SystemState) (event : SystemEvent) (configured : Configured fsm)
    (here : fsm.state = DISCONNECTING) (regular : event ≠ .FATAL_FAULT) :
    Leads (handleDisconnecting fsm event) (nextState event DISCONNECTING) := by
  cases event with
  | FATAL_FAULT => exact absurd rfl regular
  | DISCONNECTED => exact change_leads fsm DISCONNECTING STANDBY configured here (by decide)
  | _ => exact noop_leads fsm DISCONNECTING configured here

theorem process_event_leads (fsm : FSM SystemState) (event : SystemEvent) (configured : Configured fsm) :
    Leads (processEvent fsm event) (nextState event fsm.state) := by
  by_cases fatal : event = .FATAL_FAULT
  · subst fatal
    simp only [processEvent, if_true]
    split
    · rename_i here
      rw [here]
      exact noop_leads fsm FAULT configured here
    · exact force_leads fsm FAULT configured
  · simp only [processEvent, if_neg fatal]
    cases here : fsm.state with
    | BOOTING => cases event <;> first | exact absurd rfl fatal | exact noop_leads fsm BOOTING configured here
    | STANDBY => exact handle_standby_leads fsm event configured here fatal
    | CONNECTING => exact handle_connecting_leads fsm event configured here fatal
    | ACTIVE => exact handle_active_leads fsm event configured here fatal
    | DISCONNECTING => exact handle_disconnecting_leads fsm event configured here fatal
    | FAULT => cases event <;> first | exact absurd rfl fatal | exact noop_leads fsm FAULT configured here
    | SHUTDOWN => cases event <;> first | exact absurd rfl fatal | exact noop_leads fsm SHUTDOWN configured here

end SystemFSM

end Animacharacter.Orchestration
