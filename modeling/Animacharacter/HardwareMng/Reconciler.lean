import Animacharacter.Library.StepSystem
import Animacharacter.HardwareMng.Looper

set_option autoImplicit false

namespace Animacharacter.HardwareMng

open StepSystem

-- What started a pass; a lifecycle callback may set the active flag after it.
inductive Origin where
  | timer
  | lifecycle (isActive : Option Bool)
deriving DecidableEq

-- Where a pass is within one controller's turn; loop threads act in between.
inductive Turn where
  | observe
  | initializeHw (toRunning : Bool)
  | start (toRunning : Bool)
  | check
  | pause
  | resume
  | stop
  | join
  | deinitializeHw
deriving DecidableEq

-- `exiting` marks the pass that the fatal handler makes before it exits.
structure Pass where
  turn : Turn
  rest : List Nat
  origin : Origin
  exiting : Bool
deriving DecidableEq

inductive Task where
  | idle
  | reconciling (pass : Pass)
  | stopAll (origin : Origin) (joins : List Nat)
  | exited (code : Int)
deriving DecidableEq

inductive Outcome where
  | returned (result : Bool)
  | raised (raised : Raised)
deriving DecidableEq

inductive Event where
  | initializeHw (index : Nat)
  | startLoop (index : Nat)
  | resumeLoop (index : Nat)
deriving DecidableEq

-- The hardware manager node. `handled` says that the fatal handler has run up
-- to its change of the goals or has left before it; `armed` is what passes have
-- initialized, started or resumed from then on.
structure Node where
  controllers : List ManagedController
  isActive : Bool
  shutdownRequested : Bool
  task : Task
  handled : Bool
  armed : List Event
deriving DecidableEq

def HWMNG_CONTROLLER_FATAL : Int := 40

namespace Node

def setGoalAll (node : Node) (goal : ControllerState) : Node :=
  { node with controllers := node.controllers.map fun mc => { mc with goal } }

def startPass (node : Node) (origin : Origin) (exiting : Bool) : Node :=
  { node with task := .reconciling ⟨.observe, List.range node.controllers.length, origin, exiting⟩ }

def setController (node : Node) (index : Nat) (mc : ManagedController) : Node :=
  { node with controllers := node.controllers.set index mc }

def turnTo (node : Node) (pass : Pass) (turn : Turn) : Node := { node with task := .reconciling { pass with turn } }

def nextController (node : Node) (pass : Pass) : Node :=
  { node with task := .reconciling { pass with turn := .observe, rest := pass.rest.tail } }

def record (node : Node) (event : Event) : Node :=
  { node with armed := if node.handled then node.armed ++ [event] else node.armed }

def beginShutdown (node : Node) : Node :=
  { node with
    shutdownRequested := true
    isActive := false
    controllers := node.controllers.map fun mc => { mc with loop := mc.loop.requestLoopStop } }

def handleLoopSignal (node : Node) (pass : Pass) (signal : Signal) : Node :=
  if signal.name = SIG_CONTROLLER_FATAL then
    if node.shutdownRequested then node.nextController pass
    else { node.beginShutdown with task := .stopAll pass.origin (List.range node.controllers.length) }
  else node.nextController pass

-- The handler on a loop's own thread: the joins of stop_all come to that very
-- thread, and the RuntimeError ends in the loop's `except Exception`.
def handleLoopSignalInLoop (node : Node) (signal : Signal) : Node :=
  if signal.name = SIG_CONTROLLER_FATAL then
    if node.shutdownRequested then node
    else { node.beginShutdown with handled := true }
  else node

def reconcileSignal : Raised → Signal
  | .controllerWarning code description => ⟨SIG_CONTOLLER_WARNING, code, description⟩
  | .controllerError code description => ⟨SIG_CONTROLLER_ERROR, code, description⟩
  | .controllerFatal code description => ⟨SIG_CONTROLLER_FATAL, code, description⟩
  | .exception text => ⟨SIG_CONTROLLER_FATAL, 100, text⟩

def observe (node : Node) (pass : Pass) (mc : ManagedController) : Node :=
  if mc.actualState = mc.goal then node.nextController pass
  else
    match mc.goal, mc.actualState with
    | .RUNNING, .UNINITIALIZED => node.turnTo pass (.initializeHw true)
    | .RUNNING, _ => node.turnTo pass .resume
    | .INITIALIZED, .UNINITIALIZED => node.turnTo pass (.initializeHw false)
    | .INITIALIZED, _ => node.turnTo pass .pause
    | .UNINITIALIZED, _ => node.turnTo pass .stop

-- After _step_to_initialized: a controller that is to run is looked at again.
def afterInitializeHw (node : Node) (pass : Pass) (toRunning : Bool) : Node :=
  if toRunning then node.turnTo pass .check else node.nextController pass

def initializeHw (node : Node) (pass : Pass) (index : Nat) (mc : ManagedController) (toRunning : Bool) (outcome : Outcome) :
    Node :=
  if mc.initialized then node.turnTo pass (.start toRunning)
  else
    let called := node.record (.initializeHw index)
    match outcome with
    | .returned true => (called.setController index { mc with initialized := true }).turnTo pass (.start toRunning)
    | .returned false => called.afterInitializeHw pass toRunning
    | .raised raised => called.handleLoopSignal pass (reconcileSignal raised)

def start (node : Node) (pass : Pass) (index : Nat) (mc : ManagedController) (toRunning : Bool) (outcome : Outcome) : Node :=
  if mc.loop.isRunning then
    (node.setController index { mc with loop := mc.loop.setLoopPaused true }).afterInitializeHw pass toRunning
  else
    let started := mc.loop.startLoop true (outcome = .returned true)
    ((node.record (.startLoop index)).setController index { mc with loop := started }).afterInitializeHw pass toRunning

def deinitializeHw (node : Node) (pass : Pass) (index : Nat) (mc : ManagedController) (outcome : Outcome) : Node :=
  if mc.initialized then
    match outcome with
    | .returned true => (node.setController index { mc with initialized := false }).nextController pass
    | .returned false => node.nextController pass
    | .raised raised => node.handleLoopSignal pass (reconcileSignal raised)
  else node.nextController pass

def controllerStep (node : Node) (pass : Pass) (index : Nat) (mc : ManagedController) (outcome : Outcome) : Node :=
  match pass.turn with
  | .observe => node.observe pass mc
  | .initializeHw toRunning => node.initializeHw pass index mc toRunning outcome
  | .start toRunning => node.start pass index mc toRunning outcome
  | .check => if mc.actualState = .INITIALIZED then node.turnTo pass .resume else node.nextController pass
  | .pause => (node.setController index { mc with loop := mc.loop.setLoopPaused true }).nextController pass
  | .resume =>
      ((node.record (.resumeLoop index)).setController index { mc with loop := mc.loop.setLoopPaused false }).nextController pass
  | .stop =>
      if mc.loop.isRunning then (node.setController index { mc with loop := mc.loop.requestLoopStop }).turnTo pass .join
      else node.turnTo pass .deinitializeHw
  -- The join has returned, because the thread ended or by its timeout.
  | .join => if mc.loop.isRunning then node.nextController pass else node.turnTo pass .deinitializeHw
  | .deinitializeHw => node.deinitializeHw pass index mc outcome

-- After its own pass the fatal handler raises SystemExit.
def endPass (node : Node) (pass : Pass) : Node :=
  if pass.exiting then { node with task := .exited HWMNG_CONTROLLER_FATAL }
  else
    match pass.origin with
    | .timer => { node with task := .idle }
    | .lifecycle isActive => { node with task := .idle, isActive := isActive.getD node.isActive }

-- A RuntimeError of a join leaves the handler and the pass. The lifecycle node
-- catches it from a callback; from the timer it ends the process.
def abortPass (node : Node) : Origin → Node
  | .timer => { node with task := .exited 1, handled := true }
  | .lifecycle _ => { node with task := .idle, handled := true }

def stopAllStep (node : Node) (origin : Origin) : List Nat → Node
  | [] => { node.setGoalAll .UNINITIALIZED with handled := true }.startPass origin true
  | index :: joins =>
      match node.controllers[index]? with
      | some mc => if mc.loop.joinRaises then node.abortPass origin else { node with task := .stopAll origin joins }
      | none => { node with task := .stopAll origin joins }

def mainStep (node : Node) (outcome : Outcome) : Option Node :=
  match node.task with
  | .idle => none
  | .exited _ => none
  | .stopAll origin joins => some (node.stopAllStep origin joins)
  | .reconciling pass =>
      match pass.rest with
      | [] => some (node.endPass pass)
      | index :: _ =>
          match node.controllers[index]? with
          | some mc => some (node.controllerStep pass index mc outcome)
          | none => some (node.nextController pass)

def lifecycleCallback (node : Node) (goal : ControllerState) (isActive : Option Bool) : Node :=
  (node.setGoalAll goal).startPass (.lifecycle isActive) false

def onConfigure (node : Node) : Node := node.lifecycleCallback .INITIALIZED none
def onActivate (node : Node) : Node := node.lifecycleCallback .RUNNING (some true)
def onDeactivate (node : Node) : Node := node.lifecycleCallback .INITIALIZED (some false)
def onCleanup (node : Node) : Node := node.lifecycleCallback .UNINITIALIZED none
def onShutdown (node : Node) : Node := node.lifecycleCallback .UNINITIALIZED (some false)

-- An iteration of a loop's thread, which is held by the wait event. A thread that
-- was past its test of the run event when it was stopped makes one more.
def loopStep (node : Node) (index : Nat) (outcome : Option Raised) : Option Node :=
  match node.controllers[index]? with
  | some mc =>
      if mc.loop.thread = .alive ∧ mc.loop.wait = true then
        let iterated := mc.iterated outcome
        let after := node.setController index iterated.1
        some (iterated.2.elim after after.handleLoopSignalInLoop)
      else none
  | none => none

def loopEnds (node : Node) (index : Nat) : Option Node :=
  match node.controllers[index]? with
  | some mc =>
      if mc.loop.isRunning && !mc.loop.run then
        some (node.setController index { mc with loop := { mc.loop with thread := .ended } })
      else none
  | none => none

end Node

inductive NodeAction where
  | reconcileTimer
  | configure
  | activate
  | deactivate
  | cleanup
  | shutdown
  | main (outcome : Outcome)
  | loop (index : Nat) (outcome : Option Raised)
  | loopEnds (index : Nat)

namespace Node

-- A callback is taken when the executor's thread is idle.
def callback (node : Node) (after : Node) : Option Node := if node.task = .idle then some after else none

def running (node : Node) (after : Option Node) : Option Node :=
  match node.task with
  | .exited _ => none
  | _ => after

def step (node : Node) : NodeAction → Option Node
  | .reconcileTimer => node.callback (node.startPass .timer false)
  | .configure => node.callback node.onConfigure
  | .activate => node.callback node.onActivate
  | .deactivate => node.callback node.onDeactivate
  | .cleanup => node.callback node.onCleanup
  | .shutdown => node.callback node.onShutdown
  | .main outcome => node.mainStep outcome
  | .loop index outcome => node.running (node.loopStep index outcome)
  | .loopEnds index => node.running (node.loopEnds index)

end Node

def hardwareManager : System Node NodeAction where
  start node := (∀ mc ∈ node.controllers, mc = ManagedController.init) ∧ node.isActive = false ∧
    node.shutdownRequested = false ∧ node.task = .idle ∧ node.handled = false ∧ node.armed = []
  step := Node.step

end Animacharacter.HardwareMng
