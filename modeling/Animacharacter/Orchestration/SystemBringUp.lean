import Animacharacter.Orchestration.LifecycleSupUtility
import Animacharacter.Orchestration.MachineMoves

set_option autoImplicit false

namespace Animacharacter.Orchestration

open StepSystem

-- The three calls of spinup_system, one after the other.
inductive SpinupCall where
  | configureHwmng
  | configureSsmng
  | activateSsmng
deriving DecidableEq

namespace SpinupCall

def node : SpinupCall → Managed
  | .configureHwmng => .hardwareManager
  | .configureSsmng | .activateSsmng => .sessionManager

def transition : SpinupCall → Nat
  | .configureHwmng | .configureSsmng => TRANSITION_CONFIGURE
  | .activateSsmng => TRANSITION_ACTIVATE

def task (call : SpinupCall) : Task := .requests call.node call.transition

def next : SpinupCall → Option SpinupCall
  | .configureHwmng => some .configureSsmng
  | .configureSsmng => some .activateSsmng
  | .activateSsmng => none

end SpinupCall

-- spinup_system with the call that it awaits.
structure SpinupSystem where
  call : SpinupCall
  task : Task
deriving DecidableEq

-- A task that returned True leads on to the next call.
def SpinupSystem.advance (call : SpinupCall) (task : Task) : SpinupSystem :=
  match task, call.next with
  | .returned true, some next => ⟨next, next.task⟩
  | _, _ => ⟨call, task⟩

def SpinupSystem.result (spinup : SpinupSystem) : Option Bool :=
  match spinup.task with
  | .returned ok => some ok
  | _ => none

-- shutdown_system with the two tasks that it gathers, and the `ok` it logs.
structure ShutdownSystem where
  hwmng : Task
  ssmng : Task
  ok : Option Bool
deriving DecidableEq

structure SystemRun (State : Type) where
  supervisor : Supervisor
  services : Services State
  spinup : Option SpinupSystem
  shutdowns : List ShutdownSystem

inductive SystemAction where
  | supervisor (action : SupervisorAction)
  | spinup (event : TaskEvent)
  | shutdownSystem
  | hwmng (index : Nat) (event : TaskEvent)
  | ssmng (index : Nat) (event : TaskEvent)
  | gathered (index : Nat)
  | serve (call : Nat) (ret : TransitionCallbackReturn)
  | otherClient (node : Managed) (transition : Nat) (ret : TransitionCallbackReturn)

namespace SystemRun

section Running

variable {State : Type} (managed : ManagedNode State)

def init : SystemRun State := ⟨Supervisor.init, Services.init managed, none, []⟩

def supervise (run : SystemRun State) (action : SupervisorAction) : Option (SystemRun State) :=
  match action with
  | .entrypoint =>
      (run.supervisor.step .entrypoint).map fun supervisor =>
        { run with supervisor, spinup := some ⟨.configureHwmng, SpinupCall.configureHwmng.task⟩ }
  | .spinupSystem ok =>
      if run.spinup.bind SpinupSystem.result = some ok then
        (run.supervisor.step (.spinupSystem ok)).map fun supervisor => { run with supervisor, spinup := none }
      else none
  -- shutdown_system forces the state once it has gathered.
  | .shutdownSystem => none
  | _ => (run.supervisor.step action).map fun supervisor => { run with supervisor }

-- The shutdown routines that run, of those that are due.
def running (run : SystemRun State) : Nat := run.shutdowns.countP fun routine => routine.ok.isNone

def step (run : SystemRun State) : SystemAction → Option (SystemRun State)
  | .supervisor action => run.supervise action
  | .spinup event =>
      match run.spinup with
      | some ⟨call, task⟩ =>
          (task.step run.services event).map fun (services, after) =>
            { run with services, spinup := some (SpinupSystem.advance call after) }
      | none => none
  | .shutdownSystem =>
      if run.running < run.supervisor.shutdowns then
        some { run with shutdowns := run.shutdowns ++ [⟨.asks .hardwareManager, .asks .sessionManager, none⟩] }
      else none
  | .hwmng index event =>
      match run.shutdowns[index]? with
      | some routine =>
          (routine.hwmng.step run.services event).map fun (services, hwmng) =>
            { run with services, shutdowns := run.shutdowns.set index { routine with hwmng } }
      | none => none
  | .ssmng index event =>
      match run.shutdowns[index]? with
      | some routine =>
          (routine.ssmng.step run.services event).map fun (services, ssmng) =>
            { run with services, shutdowns := run.shutdowns.set index { routine with ssmng } }
      | none => none
  | .gathered index =>
      match run.shutdowns[index]? with
      | some ⟨.returned hwmng, .returned ssmng, none⟩ =>
          (run.supervisor.step .shutdownSystem).map fun supervisor =>
            { run with
              supervisor
              shutdowns := run.shutdowns.set index ⟨.returned hwmng, .returned ssmng, some (hwmng && ssmng)⟩ }
      | _ => none
  | .serve call ret => (run.services.serve managed call ret).map fun services => { run with services }
  | .otherClient node transition ret =>
      some { run with services := run.services.otherClient managed node transition ret }

end Running

end SystemRun

def systemRun {State : Type} (managed : ManagedNode State) : System (SystemRun State) SystemAction where
  start run := run = SystemRun.init managed
  step := SystemRun.step managed

def SystemState.operational : SystemState → Bool
  | .BOOTING | .FAULT | .SHUTDOWN => false
  | _ => true

theorem next_state_operational (event : SystemEvent) (state : SystemState)
    (operational : (SystemFSM.nextState event state).operational = true) : state.operational = true := by
  revert operational
  cases event <;> cases state <;> decide

theorem serve_starting (state : Supervisor) (result : Alerts.SysAlertsServer × Option Alerts.Change)
    (configured : SystemFSM.Configured state.fsm) : (state.serve result).starting = state.starting := by
  obtain ⟨server, published⟩ := result
  cases published with
  | none => rfl
  | some change =>
      have kept := (Supervisor.change_cb_stage { state with alertServer := server } change configured).1
      have serves : state.serve (server, some change) =
          { state with alertServer := server }.onAlertChangeCb change := rfl
      rw [Supervisor.starting, serves, kept]
      rfl

-- The machine comes to an operational state with the entry routine's change_state only.
theorem step_operational (state next : Supervisor) (action : SupervisorAction)
    (configured : SystemFSM.Configured state.fsm) (moved : state.step action = some next)
    (operational : next.fsm.state.operational = true) :
    state.fsm.state.operational = true ∨ action = .spinupSystem true := by
  cases Supervisor.step_cases state next action moved with
  | alert result taken after =>
      have same : next.fsm = (state.serve result).fsm := by rw [after]
      rw [same] at operational
      cases Supervisor.serve_move state action result configured taken with
      | still _ there _ _ => exact .inl (there ▸ operational)
      | event event _ there _ _ => exact .inl (next_state_operational event state.fsm.state (there ▸ operational))
      | spunUp _ _ before _ _ _ stage =>
          rw [serve_starting state result configured, before] at stage
          cases stage
      | shutDown _ _ there _ _ =>
          rw [there] at operational
          cases operational
  | timer _ after =>
      rw [after] at operational
      exact .inl operational
  | entered _ _ after =>
      rw [after] at operational
      exact .inl operational
  | refused _ _ _ after =>
      rw [after] at operational
      exact .inl operational
  | spunUp ok fsm result entry before change after =>
      have reached := (Supervisor.change_allowed state.fsm fsm _ result configured change).2
      rw [after] at operational
      have there : fsm.state.operational = true := operational
      rw [reached] at there
      cases ok with
      | true => exact .inr entry
      | false => cases there
  | shutDown _ after =>
      rw [after] at operational
      have there : (state.fsm.forceChangeState .SHUTDOWN).1.state.operational = true := operational
      rw [FSM.force_change_state_state] at there
      cases there

def SpinupCall.before : SpinupCall → List (Managed × Nat)
  | .configureHwmng => []
  | .configureSsmng => [(.hardwareManager, TRANSITION_CONFIGURE)]
  | .activateSsmng => [(.hardwareManager, TRANSITION_CONFIGURE), (.sessionManager, TRANSITION_CONFIGURE)]

-- What a spun up system has gone through.
def handshake : List (Managed × Nat) :=
  [(.hardwareManager, TRANSITION_CONFIGURE), (.sessionManager, TRANSITION_CONFIGURE),
    (.sessionManager, TRANSITION_ACTIVATE)]

section Reaching

variable {State : Type} (managed : ManagedNode State)

def spinupAim (call : SpinupCall) : Aim State where
  node := call.node
  transition transition := transition = call.transition
  base nodes := call.before.Sublist nodes.succeeded
  goal nodes := (call.before ++ [(call.node, call.transition)]).Sublist nodes.succeeded

def shutdownAim (node : Managed) : Aim State where
  node
  transition := ShutdownTransition
  base _ := True
  goal nodes := managed.currentState (nodes.state node) = PRIMARY_STATE_FINALIZED

theorem succeeded_grows (nodes : Nodes State) (node : Managed) (transition : Nat) (ret : TransitionCallbackReturn) :
    nodes.succeeded.Sublist (nodes.changeState managed node transition ret).1.succeeded := by
  simp only [Nodes.changeState]
  split
  · exact List.sublist_append_left _ _
  · exact .refl _

theorem spinup_aim_sound (call : SpinupCall) : (spinupAim call : Aim State).Sound managed where
  base nodes node transition ret based := based.trans (succeeded_grows managed nodes node transition ret)
  goal nodes node transition ret reached := reached.trans (succeeded_grows managed nodes node transition ret)
  reached := by
    intro nodes transition ret based chosen succeeded
    have chose : transition = call.transition := chosen
    have appended : (nodes.changeState managed call.node transition ret).1.succeeded =
        nodes.succeeded ++ [(call.node, transition)] := if_pos succeeded
    show (call.before ++ [(call.node, call.transition)]).Sublist
      (nodes.changeState managed call.node transition ret).1.succeeded
    rw [appended, chose]
    exact based.append (.refl _)

theorem shutdown_aim_sound (documented : managed.Documented) (node : Managed) :
    (shutdownAim managed node).Sound managed where
  base _ _ _ _ _ := trivial
  goal := by
    intro nodes other transition ret finalized
    show managed.currentState (Function.update nodes.state other _ node) = PRIMARY_STATE_FINALIZED
    by_cases same : node = other
    · rw [← same, Function.update_self]
      exact documented.finalized _ transition ret finalized
    · rw [Function.update_of_ne same]
      exact finalized
  reached := by
    intro nodes transition ret _ chosen succeeded
    show managed.currentState (Function.update nodes.state node _ node) = PRIMARY_STATE_FINALIZED
    rw [Function.update_self]
    exact documented.shutdown _ transition ret chosen succeeded

-- The goal of a call of spinup_system is what the next one starts from.
theorem next_before (call next : SpinupCall) (follows : call.next = some next) :
    next.before = call.before ++ [(call.node, call.transition)] := by
  cases call <;> cases follows <;> rfl

theorem advance_promises (call : SpinupCall) (task : Task) (services : Services State)
    (promises : task.Promises (spinupAim call) services) :
    (SpinupSystem.advance call task).task.Promises (spinupAim (SpinupSystem.advance call task).call) services := by
  simp only [SpinupSystem.advance]
  split
  · rename_i next follows
    refine ⟨?_, rfl, rfl⟩
    show next.before.Sublist services.nodes.succeeded
    rw [next_before call next follows]
    exact promises rfl
  · exact promises

end Reaching

namespace SystemRun

section Invariants

variable {State : Type} (managed : ManagedNode State)

-- Everything a step can do; the last case is the nodes' part.
inductive Stepped (run next : SystemRun State) : Prop where
  | entered (supervisor : Supervisor) (moved : run.supervisor.step .entrypoint = some supervisor)
      (after : next = { run with supervisor, spinup := some ⟨.configureHwmng, SpinupCall.configureHwmng.task⟩ })
  | spunUp (ok : Bool) (supervisor : Supervisor) (spun : run.spinup.bind SpinupSystem.result = some ok)
      (moved : run.supervisor.step (.spinupSystem ok) = some supervisor)
      (after : next = { run with supervisor, spinup := none })
  | supervised (action : SupervisorAction) (supervisor : Supervisor) (other : action ≠ .spinupSystem true)
      (moved : run.supervisor.step action = some supervisor) (after : next = { run with supervisor })
  | spins (call : SpinupCall) (task advanced : Task) (event : TaskEvent) (services : Services State)
      (spinup : run.spinup = some ⟨call, task⟩) (moved : task.step run.services event = some (services, advanced))
      (after : next = { run with services, spinup := some (SpinupSystem.advance call advanced) })
  | begins (after : next = { run with
      shutdowns := run.shutdowns ++ [⟨.asks .hardwareManager, .asks .sessionManager, none⟩] })
  | hwmng (index : Nat) (routine : ShutdownSystem) (event : TaskEvent) (services : Services State) (hwmng : Task)
      (listed : run.shutdowns[index]? = some routine)
      (moved : routine.hwmng.step run.services event = some (services, hwmng))
      (after : next = { run with services, shutdowns := run.shutdowns.set index { routine with hwmng } })
  | ssmng (index : Nat) (routine : ShutdownSystem) (event : TaskEvent) (services : Services State) (ssmng : Task)
      (listed : run.shutdowns[index]? = some routine)
      (moved : routine.ssmng.step run.services event = some (services, ssmng))
      (after : next = { run with services, shutdowns := run.shutdowns.set index { routine with ssmng } })
  | gathered (index : Nat) (hwmng ssmng : Bool) (supervisor : Supervisor)
      (listed : run.shutdowns[index]? = some ⟨.returned hwmng, .returned ssmng, none⟩)
      (moved : run.supervisor.step .shutdownSystem = some supervisor)
      (after : next = { run with
        supervisor
        shutdowns := run.shutdowns.set index ⟨.returned hwmng, .returned ssmng, some (hwmng && ssmng)⟩ })
  | served (services : Services State) (grows : ∀ aim : Aim State, aim.Sound managed → run.services.Grows aim services)
      (after : next = { run with services })

theorem step_cases (run next : SystemRun State) (action : SystemAction) (moved : run.step managed action = some next) :
    run.Stepped managed next := by
  cases action with
  | supervisor action =>
      have plain (other : action ≠ .spinupSystem true)
          (kept : (run.supervisor.step action).map (fun supervisor => { run with supervisor }) = some next) :
          run.Stepped managed next := by
        obtain ⟨supervisor, supervised, rfl⟩ := Option.map_eq_some_iff.mp kept
        exact .supervised action supervisor other supervised rfl
      cases action with
      | entrypoint =>
          obtain ⟨supervisor, entered, rfl⟩ := Option.map_eq_some_iff.mp moved
          exact .entered supervisor entered rfl
      | spinupSystem ok =>
          simp only [step, supervise, Option.ite_none_right_eq_some] at moved
          obtain ⟨spun, supervised⟩ := moved
          obtain ⟨supervisor, stepped, rfl⟩ := Option.map_eq_some_iff.mp supervised
          exact .spunUp ok supervisor spun stepped rfl
      | shutdownSystem => cases moved
      | advance elapsed => exact plain nofun moved
      | request message => exact plain nofun moved
      | processEvent event => exact plain nofun moved
      | heartbeatTimeout hbName => exact plain nofun moved
      | expireAlerts => exact plain nofun moved
      | clearExpired => exact plain nofun moved
  | spinup event =>
      simp only [step] at moved
      split at moved
      · rename_i call task held
        obtain ⟨⟨services, advanced⟩, stepped, rfl⟩ := Option.map_eq_some_iff.mp moved
        exact .spins call task advanced event services held stepped rfl
      · cases moved
  | shutdownSystem =>
      simp only [step, Option.ite_none_right_eq_some, Option.some.injEq] at moved
      exact .begins moved.2.symm
  | hwmng index event =>
      simp only [step] at moved
      split at moved
      · rename_i routine listed
        obtain ⟨⟨services, hwmng⟩, stepped, rfl⟩ := Option.map_eq_some_iff.mp moved
        exact .hwmng index routine event services hwmng listed stepped rfl
      · cases moved
  | ssmng index event =>
      simp only [step] at moved
      split at moved
      · rename_i routine listed
        obtain ⟨⟨services, ssmng⟩, stepped, rfl⟩ := Option.map_eq_some_iff.mp moved
        exact .ssmng index routine event services ssmng listed stepped rfl
      · cases moved
  | gathered index =>
      simp only [step] at moved
      split at moved
      · rename_i hwmng ssmng listed
        obtain ⟨supervisor, supervised, rfl⟩ := Option.map_eq_some_iff.mp moved
        exact .gathered index hwmng ssmng supervisor listed supervised rfl
      · cases moved
  | serve call ret =>
      obtain ⟨services, served, rfl⟩ := Option.map_eq_some_iff.mp moved
      exact .served services
        (fun aim sound => serve_grows managed aim sound run.services services call ret served) rfl
  | otherClient node transition ret =>
      cases moved
      exact .served _ (fun aim sound => other_client_grows managed aim sound run.services node transition ret) rfl

-- Whatever a step does, the services go on from what they were.
theorem step_grows (run next : SystemRun State) (action : SystemAction) (aim : Aim State) (sound : aim.Sound managed)
    (moved : run.step managed action = some next) : run.services.Grows aim next.services := by
  have same : run.services.Grows aim run.services := ⟨id, id, fun _ _ answers => answers⟩
  cases step_cases managed run next action moved with
  | entered _ _ after | spunUp _ _ _ _ after | supervised _ _ _ _ after | begins after | gathered _ _ _ _ _ _ after =>
      rw [after]
      exact same
  | spins _ task advanced event services _ stepped after =>
      rw [after]
      exact task_grows aim run.services services task advanced event stepped
  | hwmng _ routine event services hwmng _ stepped after =>
      rw [after]
      exact task_grows aim run.services services routine.hwmng hwmng event stepped
  | ssmng _ routine event services ssmng _ stepped after =>
      rw [after]
      exact task_grows aim run.services services routine.ssmng ssmng event stepped
  | served services grows after =>
      rw [after]
      exact grows aim sound

structure BringsUp (run : SystemRun State) : Prop where
  configured : SystemFSM.Configured run.supervisor.fsm
  operational : run.supervisor.fsm.state.operational = true → handshake.Sublist run.services.nodes.succeeded
  spinup : ∀ spinup, run.spinup = some spinup → spinup.task.Promises (spinupAim spinup.call) run.services
  last : ∀ spinup, run.spinup = some spinup → spinup.task = .returned true → spinup.call = .activateSsmng

theorem advance_last (call : SpinupCall) (task : Task)
    (returned : (SpinupSystem.advance call task).task = .returned true) :
    (SpinupSystem.advance call task).call = .activateSsmng := by
  cases call with
  | activateSsmng =>
      simp only [SpinupSystem.advance, SpinupCall.next]
  | configureHwmng | configureSsmng =>
      cases task with
      | returned ok => cases ok <;> cases returned
      | asks _ | observes _ _ | requests _ _ | changes _ _ => cases returned

theorem supervised_brings_up (run : SystemRun State) (supervisor : Supervisor) (action : SupervisorAction)
    (shutdowns : List ShutdownSystem) (good : run.BringsUp) (other : action ≠ .spinupSystem true)
    (moved : run.supervisor.step action = some supervisor) : { run with supervisor, shutdowns }.BringsUp := by
  refine ⟨Supervisor.step_configured run.supervisor supervisor action good.configured moved, fun operational => ?_,
    good.spinup, good.last⟩
  obtain before | spun := step_operational run.supervisor supervisor action good.configured moved operational
  · exact good.operational before
  · exact absurd spun other

theorem served_brings_up (run : SystemRun State) (services : Services State) (shutdowns : List ShutdownSystem)
    (good : run.BringsUp) (grows : ∀ call, run.services.Grows (spinupAim call) services) :
    { run with services, shutdowns }.BringsUp :=
  ⟨good.configured, fun operational => (grows .activateSsmng).goal (good.operational operational),
    fun spinup held => grows_promises (spinupAim spinup.call) run.services services spinup.task (grows spinup.call)
      (good.spinup spinup held), good.last⟩

-- spinup_system returned True after its last call only, whose aim is the handshake.
theorem spun_handshake (run : SystemRun State) (good : run.BringsUp)
    (spun : run.spinup.bind SpinupSystem.result = some true) : handshake.Sublist run.services.nodes.succeeded := by
  obtain ⟨⟨call, task⟩, held, result⟩ := Option.bind_eq_some_iff.mp spun
  cases task with
  | returned ok =>
      cases result
      have last : call = .activateSsmng := good.last _ held rfl
      have promises := good.spinup _ held
      rw [last] at promises
      exact promises rfl
  | asks _ | observes _ _ | requests _ _ | changes _ _ => cases result

theorem step_brings_up (run next : SystemRun State) (action : SystemAction) (good : run.BringsUp)
    (moved : run.step managed action = some next) : next.BringsUp := by
  have grows (call : SpinupCall) : run.services.Grows (spinupAim call) next.services :=
    step_grows managed run next action (spinupAim call) (spinup_aim_sound managed call) moved
  cases step_cases managed run next action moved with
  | entered supervisor entered after =>
      rw [after]
      have kept := supervised_brings_up run supervisor .entrypoint run.shutdowns good nofun entered
      refine ⟨kept.configured, kept.operational, fun spinup first => ?_, fun spinup first returned => ?_⟩
      · cases first
        exact ⟨List.nil_sublist _, rfl, rfl⟩
      · cases first
        cases returned
  | spunUp ok supervisor spun supervised after =>
      rw [after]
      refine ⟨Supervisor.step_configured _ _ _ good.configured supervised, fun operational => ?_, nofun, nofun⟩
      obtain before | entry := step_operational run.supervisor supervisor _ good.configured supervised operational
      · exact good.operational before
      · cases entry
        exact spun_handshake run good spun
  | supervised action supervisor other supervised after =>
      rw [after]
      exact supervised_brings_up run supervisor action run.shutdowns good other supervised
  | spins call task advanced event services held stepped after =>
      rw [after] at grows ⊢
      have kept := served_brings_up run services run.shutdowns good grows
      refine ⟨kept.configured, kept.operational, fun spinup now => ?_, fun spinup now => ?_⟩
      · cases now
        exact advance_promises call advanced services
          (task_promises (spinupAim call) run.services services task advanced event (good.spinup _ held) stepped)
      · cases now
        exact advance_last call advanced
  | begins after =>
      rw [after] at grows ⊢
      exact served_brings_up run run.services _ good grows
  | hwmng _ _ _ services _ _ _ after =>
      rw [after] at grows ⊢
      exact served_brings_up run services _ good grows
  | ssmng _ _ _ services _ _ _ after =>
      rw [after] at grows ⊢
      exact served_brings_up run services _ good grows
  | gathered _ _ _ supervisor _ supervised after =>
      rw [after]
      exact supervised_brings_up run supervisor .shutdownSystem _ good nofun supervised
  | served services _ after =>
      rw [after] at grows ⊢
      exact served_brings_up run services run.shutdowns good grows

-- The system is in a state that serves sessions only after the hardware manager was
-- configured and the session manager configured and then activated, in this order.
theorem operational_after_handshake (run : SystemRun State) (reached : Reached (systemRun managed) anyAction run)
    (operational : run.supervisor.fsm.state.operational = true) : handshake.Sublist run.services.nodes.succeeded := by
  have good : run.BringsUp := by
    apply reached_invariant (systemRun managed) anyAction BringsUp _ _ run reached
    · intro run started
      rw [started]
      obtain ⟨configured, booting, _, _⟩ := Supervisor.start_facts Supervisor.init Supervisor.init_start
      refine ⟨configured, fun operational => ?_, nofun, nofun⟩
      have boots : Supervisor.init.fsm.state.operational = true := operational
      rw [booting] at boots
      cases boots
    · intro source action target good _ moved
      exact step_brings_up managed source target action good moved
  exact good.operational operational

structure Gathers (services : Services State) (routine : ShutdownSystem) : Prop where
  hwmng : routine.hwmng.Promises (shutdownAim managed .hardwareManager) services
  ssmng : routine.ssmng.Promises (shutdownAim managed .sessionManager) services
  ok : routine.ok = some true → routine.hwmng = .returned true ∧ routine.ssmng = .returned true

def ShutsDown (run : SystemRun State) : Prop := ∀ routine ∈ run.shutdowns, Gathers managed run.services routine

-- One of the routines goes on; a task that is stepped had not returned.
theorem set_shuts_down (services : Services State) (shutdowns : List ShutdownSystem) (index : Nat)
    (routine : ShutdownSystem) (kept : ∀ other ∈ shutdowns, Gathers managed services other)
    (goes : Gathers managed services routine) :
    ∀ other ∈ shutdowns.set index routine, Gathers managed services other := by
  intro other member
  obtain listed | same := List.mem_or_eq_of_mem_set member
  · exact kept other listed
  · rw [same]
    exact goes

theorem returned_stays (services : Services State) (ok : Bool) (event : TaskEvent) :
    (Task.returned ok).step services event = none := by cases event <;> rfl

theorem step_shuts_down (documented : managed.Documented) (run next : SystemRun State) (action : SystemAction)
    (good : run.ShutsDown managed) (moved : run.step managed action = some next) : next.ShutsDown managed := by
  have grows (node : Managed) : run.services.Grows (shutdownAim managed node) next.services :=
    step_grows managed run next action (shutdownAim managed node) (shutdown_aim_sound managed documented node) moved
  have kept : ∀ routine ∈ run.shutdowns, Gathers managed next.services routine := fun routine listed =>
    ⟨grows_promises _ _ _ _ (grows .hardwareManager) (good routine listed).hwmng,
      grows_promises _ _ _ _ (grows .sessionManager) (good routine listed).ssmng, (good routine listed).ok⟩
  cases step_cases managed run next action moved with
  | entered _ _ after | spunUp _ _ _ _ after | supervised _ _ _ _ after | spins _ _ _ _ _ _ _ after
  | served _ _ after =>
      rw [after] at kept ⊢
      exact kept
  | begins after =>
      rw [after] at kept ⊢
      intro routine listed
      obtain before | begun := List.mem_append.mp listed
      · exact kept routine before
      · rw [List.mem_singleton.mp begun]
        exact ⟨⟨trivial, rfl, fun _ => id⟩, ⟨trivial, rfl, fun _ => id⟩, nofun⟩
  | hwmng index routine event services hwmng listed stepped after =>
      rw [after] at kept ⊢
      have held := kept routine (List.mem_of_getElem? listed)
      refine set_shuts_down managed services run.shutdowns index _ kept ⟨?_, held.ssmng, fun ok => ?_⟩
      · exact task_promises _ run.services services routine.hwmng hwmng event
          (good routine (List.mem_of_getElem? listed)).hwmng stepped
      · rw [(held.ok ok).1, returned_stays] at stepped
        cases stepped
  | ssmng index routine event services ssmng listed stepped after =>
      rw [after] at kept ⊢
      have held := kept routine (List.mem_of_getElem? listed)
      refine set_shuts_down managed services run.shutdowns index _ kept ⟨held.hwmng, ?_, fun ok => ?_⟩
      · exact task_promises _ run.services services routine.ssmng ssmng event
          (good routine (List.mem_of_getElem? listed)).ssmng stepped
      · rw [(held.ok ok).2, returned_stays] at stepped
        cases stepped
  | gathered index hwmng ssmng supervisor listed _ after =>
      rw [after] at kept ⊢
      have held := kept _ (List.mem_of_getElem? listed)
      refine set_shuts_down managed run.services run.shutdowns index _ kept ⟨held.hwmng, held.ssmng, fun ok => ?_⟩
      obtain ⟨rfl, rfl⟩ := (Bool.and_eq_true _ _).mp (Option.some.inj ok)
      exact ⟨rfl, rfl⟩

-- When shutdown_system reports that all lifecycle nodes are shut down, both are
-- finalized and stay so, whatever other clients still ask of them.
theorem shutdown_ok_finalized (documented : managed.Documented) (run : SystemRun State)
    (reached : Reached (systemRun managed) anyAction run) (routine : ShutdownSystem) (listed : routine ∈ run.shutdowns)
    (ok : routine.ok = some true) (node : Managed) :
    managed.currentState (run.services.nodes.state node) = PRIMARY_STATE_FINALIZED := by
  have good : run.ShutsDown managed := by
    apply reached_invariant (systemRun managed) anyAction (ShutsDown managed) _ _ run reached
    · intro run started
      rw [started]
      intro routine listed
      cases listed
    · intro source action target good _ moved
      exact step_shuts_down managed documented source target action good moved
  obtain ⟨hwmng, ssmng, both⟩ := good routine listed
  obtain ⟨hwmngDone, ssmngDone⟩ := both ok
  rw [hwmngDone] at hwmng
  rw [ssmngDone] at ssmng
  cases node with
  | hardwareManager => exact hwmng rfl
  | sessionManager => exact ssmng rfl

end Invariants

def TRANSITION_CLEANUP : Nat := 2
def TRANSITION_DEACTIVATE : Nat := 4

def primaryTransition (state transition : Nat) : Option Nat :=
  if shutdownTransition state = some transition then some PRIMARY_STATE_FINALIZED
  else if state = PRIMARY_STATE_UNCONFIGURED ∧ transition = TRANSITION_CONFIGURE then some PRIMARY_STATE_INACTIVE
  else if state = PRIMARY_STATE_INACTIVE ∧ transition = TRANSITION_CLEANUP then some PRIMARY_STATE_UNCONFIGURED
  else if state = PRIMARY_STATE_INACTIVE ∧ transition = TRANSITION_ACTIVATE then some PRIMARY_STATE_ACTIVE
  else if state = PRIMARY_STATE_ACTIVE ∧ transition = TRANSITION_DEACTIVATE then some PRIMARY_STATE_INACTIVE
  else none

-- The primary states of a node; an error of a callback is not recovered from.
def primaryStates : ManagedNode Nat where
  start := PRIMARY_STATE_UNCONFIGURED
  currentState := id
  changeState state transition ret :=
    match primaryTransition state transition, ret with
    | some target, .SUCCESS => (target, some true)
    | some target, .FAILURE => (if target = PRIMARY_STATE_FINALIZED then target else state, some false)
    | some _, .ERROR => (PRIMARY_STATE_FINALIZED, some false)
    | none, _ => (state, none)

theorem shutdown_primary (state transition target : Nat) (shuts : ShutdownTransition transition)
    (moves : primaryTransition state transition = some target) : target = PRIMARY_STATE_FINALIZED := by
  simp only [primaryTransition] at moves
  split at moves
  · exact (Option.some.inj moves).symm
  · obtain rfl | rfl | rfl := shuts <;>
      simp [TRANSITION_UNCONFIGURED_SHUTDOWN, TRANSITION_INACTIVE_SHUTDOWN, TRANSITION_ACTIVE_SHUTDOWN,
        TRANSITION_CONFIGURE, TRANSITION_CLEANUP, TRANSITION_ACTIVATE, TRANSITION_DEACTIVATE] at moves

theorem finalized_primary (transition : Nat) : primaryTransition PRIMARY_STATE_FINALIZED transition = none := by
  simp [primaryTransition, shutdownTransition, PRIMARY_STATE_FINALIZED, PRIMARY_STATE_UNCONFIGURED,
    PRIMARY_STATE_INACTIVE, PRIMARY_STATE_ACTIVE]

theorem primary_states_documented : primaryStates.Documented where
  shutdown := by
    intro state transition ret shuts success
    show (primaryStates.changeState state transition ret).1 = PRIMARY_STATE_FINALIZED
    simp only [primaryStates] at success ⊢
    split at success
    · rename_i target moves
      exact shutdown_primary state transition target shuts moves
    · cases success
    · cases success
    · cases success
  finalized := by
    intro state transition ret finalized
    have here : state = PRIMARY_STATE_FINALIZED := finalized
    show (primaryStates.changeState state transition ret).1 = PRIMARY_STATE_FINALIZED
    simp only [primaryStates, here, finalized_primary]

-- One call of a task, answered in time.
def answered (event : TaskEvent → SystemAction) (call : Nat) : List SystemAction :=
  [event (.call true), .serve call .SUCCESS, event .resume]

def spunUp : List SystemAction :=
  .supervisor .entrypoint :: answered .spinup 0 ++ answered .spinup 1 ++ answered .spinup 2 ++
    [.supervisor (.spinupSystem true)]

theorem operational_after_handshake_spun : ∃ run : SystemRun Nat,
    run.supervisor.fsm.state = .STANDBY ∧ handshake.Sublist run.services.nodes.succeeded := by
  obtain ⟨run, reached, standby⟩ := replay_exists (systemRun primaryStates) anyAction spunUp (init primaryStates)
    (fun run => run.supervisor.fsm.state = .STANDBY) rfl (by decide +kernel)
  exact ⟨run, standby, operational_after_handshake primaryStates run reached (by rw [standby]; rfl)⟩

-- A core process dies while a session has the hardware manager active.
def shutDown : List SystemAction :=
  spunUp ++ [.otherClient .hardwareManager TRANSITION_ACTIVATE .SUCCESS,
    .supervisor (.processEvent ⟨"core:session_connection_server", 2, 1⟩), .shutdownSystem] ++
    answered (.hwmng 0) 3 ++ answered (.ssmng 0) 4 ++ answered (.ssmng 0) 5 ++ answered (.hwmng 0) 6 ++ [.gathered 0]

theorem shutdown_ok_finalized_active : ∃ run : SystemRun Nat, run.supervisor.fsm.state = .SHUTDOWN ∧
    ∀ node, run.services.nodes.state node = PRIMARY_STATE_FINALIZED := by
  obtain ⟨run, reached, shutdown, shutdowns⟩ := replay_exists (systemRun primaryStates) anyAction shutDown
    (init primaryStates)
    (fun run => run.supervisor.fsm.state = .SHUTDOWN ∧
      run.shutdowns = [⟨.returned true, .returned true, some true⟩]) rfl (by decide +kernel)
  refine ⟨run, shutdown, fun node => ?_⟩
  exact shutdown_ok_finalized primaryStates primary_states_documented run reached ⟨_, _, some true⟩
    (by rw [shutdowns]; exact List.mem_singleton_self _) rfl node

-- The session manager activates the hardware manager after its state was read: the
-- request for the inactive state gets no response, and the hardware stays active.
theorem activated_before_shutdown : ∃ run : SystemRun Nat, Reached (systemRun primaryStates) anyAction run ∧
    run.supervisor.fsm.state = .SHUTDOWN ∧ run.services.nodes.state .hardwareManager = PRIMARY_STATE_ACTIVE :=
  replay_exists (systemRun primaryStates) anyAction
    (spunUp ++ [.supervisor (.processEvent ⟨"core:session_connection_server", 2, 1⟩), .shutdownSystem] ++
      answered (.hwmng 0) 3 ++
      [.otherClient .hardwareManager TRANSITION_ACTIVATE .SUCCESS, .hwmng 0 (.call true), .serve 4 .SUCCESS,
        .hwmng 0 .timeOut] ++
      answered (.ssmng 0) 5 ++ answered (.ssmng 0) 6 ++ [.gathered 0]) (init primaryStates)
    (fun run => run.supervisor.fsm.state = .SHUTDOWN ∧
      run.services.nodes.state .hardwareManager = PRIMARY_STATE_ACTIVE) rfl (by decide +kernel)

end SystemRun

end Animacharacter.Orchestration
