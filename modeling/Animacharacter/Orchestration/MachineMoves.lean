import Animacharacter.Orchestration.SystemStatus

set_option autoImplicit false

namespace Animacharacter.Orchestration

open Alerts StepSystem

namespace SystemFSM

theorem change_result (fsm next : FSM SystemState) (target : SystemState) (result : StateChangeResult SystemState)
    (changed : fsm.changeState target = .ok (next, result)) :
    result.prevState = fsm.state ∧ result.newState = next.state := by
  simp only [FSM.changeState] at changed
  split at changed
  · cases changed
  · cases changed
    exact ⟨rfl, rfl⟩

theorem force_result (fsm : FSM SystemState) (target : SystemState) :
    (fsm.forceChangeState target).2.prevState = fsm.state ∧
      (fsm.forceChangeState target).2.newState = (fsm.forceChangeState target).1.state := by
  simp only [FSM.forceChangeState]
  split
  · rename_i changed accepted
    exact change_result fsm changed.1 target changed.2 accepted
  · exact ⟨rfl, rfl⟩

theorem process_event_result (fsm next : FSM SystemState) (event : SystemEvent) (result : StateChangeResult SystemState)
    (processed : processEvent fsm event = .ok (next, result)) :
    result.prevState = fsm.state ∧ result.newState = next.state := by
  have stays (kept : (Except.ok (noop fsm) : Outcome) = .ok (next, result)) :
      result.prevState = fsm.state ∧ result.newState = next.state := by
    cases kept
    exact ⟨rfl, rfl⟩
  have forced (target : SystemState) (taken : (Except.ok (fsm.forceChangeState target) : Outcome) = .ok (next, result)) :
      result.prevState = fsm.state ∧ result.newState = next.state := by
    have told := force_result fsm target
    rw [Except.ok.inj taken] at told
    exact told
  simp only [processEvent, handleBooting, handleStandby, handleConnecting, handleActive, handleDisconnecting] at processed
  repeat' split at processed
  all_goals first
    | exact stays processed
    | exact forced _ processed
    | exact change_result fsm next _ result processed

def faulted (state : SystemState) : Bool := state = .FAULT || state = .SHUTDOWN

theorem next_state_faulted (event : SystemEvent) (state : SystemState) :
    faulted (nextState event state) = (decide (event = .FATAL_FAULT) || faulted state) := by
  cases event <;> cases state <;> rfl

theorem faulted_leaves (state target : SystemState) (fault : faulted state = true)
    (allowed : target ∈ (transitionTable.lookup state).getD ∅) : target = .SHUTDOWN := by
  revert fault allowed
  cases state <;> cases target <;> decide

end SystemFSM

namespace Supervisor

-- The event an action brings to the state machine: that of the change it publishes.
def eventOf (supervisor : Supervisor) (action : SupervisorAction) : Option SystemEvent :=
  (supervisor.served action).bind fun result => result.2.bind fun change => mapAlertToSystemEvent change.1 change.2

-- The entry routine has its change of state still to make.
def starting (supervisor : Supervisor) : Bool := supervisor.stage = .instantiated || supervisor.stage = .spinningUp

def spinupTarget (ok : Bool) : SystemState := if ok then .STANDBY else .FAULT

-- What a step does to the machine, to the shutdown routines that are due and to
-- the entry routine.
inductive MachineMove (state next : Supervisor) (action : SupervisorAction) : Prop where
  | still (quiet : state.eventOf action = none) (same : next.fsm.state = state.fsm.state)
      (due : next.shutdowns = state.shutdowns) (stage : next.starting = true → state.starting = true)
  | event (event : SystemEvent) (came : state.eventOf action = some event)
      (moved : next.fsm.state = SystemFSM.nextState event state.fsm.state)
      (due : next.shutdowns =
        state.shutdowns + if state.fsm.state ≠ .FAULT ∧ next.fsm.state = .FAULT then 1 else 0)
      (stage : next.starting = state.starting)
  | spunUp (ok : Bool) (quiet : state.eventOf action = none) (before : state.starting = true)
      (allowed : spinupTarget ok ∈ (SystemFSM.transitionTable.lookup state.fsm.state).getD ∅)
      (moved : next.fsm.state = spinupTarget ok) (due : next.shutdowns = state.shutdowns + if ok then 0 else 1)
      (stage : next.starting = false)
  | shutDown (quiet : state.eventOf action = none) (before : 0 < state.shutdowns) (moved : next.fsm.state = .SHUTDOWN)
      (due : next.shutdowns = state.shutdowns - 1) (stage : next.starting = state.starting)

theorem change_allowed (fsm next : FSM SystemState) (target : SystemState) (result : StateChangeResult SystemState)
    (configured : SystemFSM.Configured fsm) (changed : fsm.changeState target = .ok (next, result)) :
    target ∈ (SystemFSM.transitionTable.lookup fsm.state).getD ∅ ∧ next.state = target := by
  simp only [FSM.changeState] at changed
  split at changed
  · cases changed
  · rename_i admitted
    cases changed
    rw [← configured fsm.state]
    exact ⟨Decidable.not_not.mp admitted, rfl⟩

theorem after_event_due (state : Supervisor) (alert : Alert) (event : SystemEvent) (fsm : FSM SystemState)
    (result : StateChangeResult SystemState) (processed : SystemFSM.processEvent state.fsm event = .ok (fsm, result)) :
    (state.afterEvent alert event fsm result).shutdowns =
      state.shutdowns + if state.fsm.state ≠ .FAULT ∧ fsm.state = .FAULT then 1 else 0 := by
  obtain ⟨old, new⟩ := SystemFSM.process_event_result state.fsm fsm event result processed
  have changed : result.changed = true ↔ state.fsm.state ≠ fsm.state := by
    simp [StateChangeResult.changed, old, new]
  simp only [afterEvent, changed]
  by_cases fault : fsm.state = .FAULT
  · by_cases already : state.fsm.state = .FAULT <;> simp [fault, already, publishSystemStatus]
  · simp [fault, publishSystemStatus]

theorem serve_move (state : Supervisor) (action : SupervisorAction) (result : SysAlertsServer × Option Change)
    (configured : SystemFSM.Configured state.fsm) (taken : state.served action = some result) :
    MachineMove state (state.serve result) action := by
  obtain ⟨server, published⟩ := result
  cases published with
  | none => exact .still (by simp [eventOf, taken]) rfl rfl id
  | some change =>
      cases mapped : mapAlertToSystemEvent change.1 change.2 with
      | none =>
          have quiet : state.serve (server, some change) = { state with alertServer := server } :=
            change_cb_quiet { state with alertServer := server } change mapped
          rw [quiet]
          exact .still (by simp [eventOf, taken, mapped]) rfl rfl id
      | some event =>
          obtain ⟨fsm, outcome, processed, _, after⟩ :=
            change_cb_event { state with alertServer := server } change event configured mapped
          obtain ⟨_, _, again, leads, _⟩ := SystemFSM.process_event_leads state.fsm event configured
          rw [processed] at again
          cases again
          have served : state.serve (server, some change) =
              { state with
                alertServer := server
                faultRefAlert := if event = SystemEvent.FATAL_FAULT then some change.2 else state.faultRefAlert
              }.afterEvent change.2 event fsm outcome := after
          refine .event event (by simp [eventOf, taken, mapped]) ?_ ?_ ?_
          · rw [served, after_event_fsm]
            exact leads
          · rw [served, after_event_fsm]
            exact after_event_due { state with
              alertServer := server
              faultRefAlert := if event = SystemEvent.FATAL_FAULT then some change.2 else state.faultRefAlert
            } change.2 event fsm outcome processed
          · rw [served]
            simp only [starting, after_event_stage]

theorem machine_move (state next : Supervisor) (action : SupervisorAction) (configured : SystemFSM.Configured state.fsm)
    (moved : state.step action = some next) : MachineMove state next action := by
  cases action with
  | advance elapsed =>
      simp only [step] at moved
      split at moved
      · cases moved
        exact .still rfl rfl rfl id
      · cases moved
  | entrypoint =>
      simp only [step] at moved
      split at moved
      · rename_i before
        cases moved
        exact .still rfl rfl rfl (fun _ => by simp [starting, before])
      · cases moved
  | spinupSystem ok =>
      simp only [step] at moved
      split at moved
      · rename_i before
        split at moved
        · cases moved
          exact .still rfl rfl rfl (fun early => by simp [starting] at early)
        · rename_i fsm result change
          obtain ⟨allowed, reached⟩ := change_allowed state.fsm fsm (spinupTarget ok) result configured change
          cases ok <;> cases moved <;>
            exact .spunUp _ rfl (by simp [starting, before]) allowed reached rfl rfl
      · cases moved
  | expireAlerts =>
      simp only [step] at moved
      split at moved
      · cases moved
        exact .still rfl rfl rfl id
      · cases moved
  | clearExpired =>
      obtain ⟨result, taken, rfl⟩ := Option.map_eq_some_iff.mp moved
      cases serve_move state .clearExpired result configured taken with
      | still quiet same due stage => exact .still quiet same due stage
      | event event came moved due stage => exact .event event came moved due stage
      | spunUp ok quiet before allowed moved due stage => exact .spunUp ok quiet before allowed moved due stage
      | shutDown quiet before moved due stage => exact .shutDown quiet before moved due stage
  | shutdownSystem =>
      simp only [step] at moved
      split at moved
      · rename_i pending
        cases moved
        exact .shutDown rfl pending (FSM.force_change_state_state state.fsm .SHUTDOWN) rfl rfl
      · cases moved
  | request message =>
      simp only [step, Option.map_eq_some_iff] at moved
      obtain ⟨result, taken, rfl⟩ := moved
      exact serve_move state _ result configured taken
  | processEvent event =>
      simp only [step, Option.map_eq_some_iff] at moved
      obtain ⟨result, taken, rfl⟩ := moved
      exact serve_move state _ result configured taken
  | heartbeatTimeout hbName =>
      simp only [step, Option.map_eq_some_iff] at moved
      obtain ⟨result, taken, rfl⟩ := moved
      exact serve_move state _ result configured taken

theorem start_facts (state : Supervisor) (started : supervisor.start state) :
    SystemFSM.Configured state.fsm ∧ state.fsm.state = .BOOTING ∧ state.shutdowns = 0 ∧
      state.alertServer = SysAlertsServer.init := by
  obtain ⟨empty, machine, _, _, _, idle, _, _⟩ := started
  obtain ⟨fsm, built, booting, configured⟩ := SystemFSM.init_configured
  rw [built] at machine
  cases machine
  exact ⟨configured, booting, idle, empty⟩

end Supervisor

end Animacharacter.Orchestration
