import Animacharacter.HardwareMng.LoopThread
import Animacharacter.HardwareMng.MotionCommands
import Animacharacter.HardwareMng.Reconciler

set_option autoImplicit false

namespace Animacharacter.HardwareMng

open StepSystem

-- A motion command, with the number of on_activate calls before its reception.
structure Received where
  command : MotionCommand
  activation : Nat
deriving DecidableEq

structure ControlCall where
  activation : Nat
  commands : List Received
deriving DecidableEq

-- Where a thread is in `_flush`. The queue's size is read once; then `left`
-- more commands are asked for, one by one.
inductive FlushPlace where
  | checkInitialized
  | readSize
  | takeCommands (left : Nat) (commands : List Received)
  | configUpdates (commands : List Received)
  | read (commands : List Received)
  | control
  | raised (raised : Raised)
deriving DecidableEq

-- How a call of user code from `_flush` ends; `exits` is an exception that is
-- not an Exception.
inductive CallResult where
  | returned
  | raised (raised : Raised)
  | exits

-- Where the reconciler is within one controller's turn, its reads of the
-- controller and of the loop taken one by one. With `again` the state is looked
-- at a second time, by _step_to_running.
inductive Stage where
  | observe (again : Bool)
  | observeRunning (again hwInit : Bool)
  | observePaused (again hwInit loopRunning : Bool)
  | checkInitialized (toRunning : Bool)
  | initializeHw (toRunning : Bool)
  | checkRunning (toRunning : Bool)
  | startLoop (toRunning : Bool)
  | clearWait (toRunning : Bool)
  | startThread (toRunning : Bool)
  | pauseRunning (toRunning : Bool)
  | pause
  | resume
  | checkStopping
  | requestStop
  | setWait
  | join
  | checkStopped
  | checkDeinitializeHw
  | deinitializeHw
deriving DecidableEq

inductive Next where
  | stage (stage : Stage)
  | nextController
  | signal (signal : Signal)

structure ThreadedController where
  goal : ControllerState
  initialized : Bool
  commandGroup : List Int
  loop : Loop FlushPlace
  incoming : List Received
  controlled : List ControlCall
deriving DecidableEq

namespace ThreadedController

def init (commandGroup : List Int) : ThreadedController := ⟨.UNINITIALIZED, false, commandGroup, Loop.init, [], []⟩

def moveTo (mc : ThreadedController) (number : Nat) (place : Place FlushPlace) : ThreadedController :=
  { mc with loop := mc.loop.moveTo number place }

def afterCall (place : Place FlushPlace) : CallResult → Place FlushPlace
  | .returned => place
  | .raised raised => .inJob (.raised raised)
  | .exits => Place.afterJob .exits

def entersControl (mc : ThreadedController) (number activation : Nat) (commands : List Received) : ThreadedController :=
  { mc with
    loop := mc.loop.moveTo number (.inJob .control)
    controlled := mc.controlled ++ [⟨activation, commands⟩] }

def flushStep (mc : ThreadedController) (number activation : Nat) (call : CallResult) :
    FlushPlace → ThreadedController
  | .checkInitialized =>
      mc.moveTo number (if mc.initialized then .inJob .readSize else Place.afterJob (.returned none))
  | .readSize => mc.moveTo number (.inJob (.takeCommands mc.incoming.length []))
  | .takeCommands 0 commands => mc.moveTo number (.inJob (.configUpdates commands))
  | .takeCommands (left + 1) commands =>
      match mc.incoming with
      | [] => mc.moveTo number (.inJob (.takeCommands left commands))
      | command :: rest =>
          { mc with incoming := rest }.moveTo number (.inJob (.takeCommands left (commands ++ [command])))
  | .configUpdates commands => mc.moveTo number (afterCall (.inJob (.read commands)) call)
  | .read commands =>
      match call with
      | .returned => mc.entersControl number activation commands
      | left => mc.moveTo number (afterCall (.inJob .control) left)
  | .control => mc.moveTo number (afterCall (Place.afterJob (.returned none)) call)
  -- A warning keeps the flag.
  | .raised raised =>
      { mc with initialized := mc.initialized && (exceptBranch raised).1 }.moveTo number
        (Place.afterJob (.returned (some (exceptBranch raised).2)))

def threadStep (mc : ThreadedController) (number activation : Nat) (call : CallResult) (handler : HandlerResult) :
    Option ThreadedController :=
  match mc.loop.threads[number]? with
  | some .released => some (mc.moveTo number (.inJob .checkInitialized))
  | some (.inJob place) => some (mc.flushStep number activation call place)
  | _ => (mc.loop.threadStep number handler).map fun loop => { mc with loop }

def emits (mc : ThreadedController) (number : Nat) : Option Signal :=
  match mc.loop.threads[number]? with
  | some (.emit _ signal) => signal
  | _ => none

def observed (hwInit loopRunning loopPaused : Bool) : ControllerState :=
  if hwInit && loopRunning && !loopPaused then .RUNNING
  else if hwInit && loopRunning && loopPaused then .INITIALIZED
  else .UNINITIALIZED

def afterObserve (mc : ThreadedController) (again : Bool) (actual : ControllerState) : Next :=
  if again then
    if actual = .INITIALIZED then .stage .resume else .nextController
  else if actual = mc.goal then .nextController
  else
    match mc.goal, actual with
    | .RUNNING, .UNINITIALIZED => .stage (.checkInitialized true)
    | .RUNNING, _ => .stage .resume
    | .INITIALIZED, .UNINITIALIZED => .stage (.checkInitialized false)
    | .INITIALIZED, _ => .stage .pause
    | .UNINITIALIZED, _ => .stage .checkStopping

def afterInitialized (toRunning : Bool) : Next := if toRunning then .stage (.observe true) else .nextController

def initializeHw (mc : ThreadedController) (toRunning : Bool) : Outcome → ThreadedController × Next
  | .returned true => ({ mc with initialized := true }, .stage (.checkRunning toRunning))
  | .returned false => (mc, afterInitialized toRunning)
  | .raised raised => (mc, .signal (Node.reconcileSignal raised))

def deinitializeHw (mc : ThreadedController) : Outcome → ThreadedController × Next
  | .returned true => ({ mc with initialized := false }, .nextController)
  | .returned false => (mc, .nextController)
  | .raised raised => (mc, .signal (Node.reconcileSignal raised))

-- A step of the reconciler. The thread that start_loop makes is not started
-- before its third one, and join returns when the thread is over or in time.
def reconcileStep (mc : ThreadedController) (outcome : Outcome) : Stage → ThreadedController × Next
  | .observe again => (mc, .stage (.observeRunning again mc.initialized))
  | .observeRunning again hwInit => (mc, .stage (.observePaused again hwInit mc.loop.isRunning))
  | .observePaused again hwInit loopRunning => (mc, mc.afterObserve again (observed hwInit loopRunning mc.loop.isPaused))
  | .checkInitialized toRunning => (mc, .stage (if mc.initialized then .checkRunning toRunning else .initializeHw toRunning))
  | .initializeHw toRunning => mc.initializeHw toRunning outcome
  | .checkRunning toRunning => (mc, .stage (if mc.loop.isRunning then .pauseRunning toRunning else .startLoop toRunning))
  | .startLoop toRunning =>
      if mc.loop.isRunning then (mc, afterInitialized toRunning)
      else ({ mc with loop := mc.loop.makeThread }, .stage (.clearWait toRunning))
  | .clearWait toRunning => ({ mc with loop := mc.loop.setLoopPaused true }, .stage (.startThread toRunning))
  | .startThread toRunning =>
      ({ mc with loop := mc.loop.startThread (outcome = .returned true) }, afterInitialized toRunning)
  | .pauseRunning toRunning => ({ mc with loop := mc.loop.setLoopPaused true }, afterInitialized toRunning)
  | .pause => ({ mc with loop := mc.loop.setLoopPaused true }, .nextController)
  | .resume => ({ mc with loop := mc.loop.setLoopPaused false }, .nextController)
  | .checkStopping => (mc, .stage (if mc.loop.isRunning then .requestStop else .checkDeinitializeHw))
  | .requestStop =>
      if mc.loop.isRunning then ({ mc with loop := mc.loop.clearRun }, .stage .setWait) else (mc, .stage .join)
  | .setWait => ({ mc with loop := mc.loop.setWait }, .stage .join)
  | .join => (mc, .stage .checkStopped)
  | .checkStopped => (mc, if mc.loop.isRunning then .nextController else .stage .checkDeinitializeHw)
  | .checkDeinitializeHw => (mc, if mc.initialized then .stage .deinitializeHw else .nextController)
  | .deinitializeHw => mc.deinitializeHw outcome

end ThreadedController

structure StagedPass where
  stage : Stage
  rest : List Nat
  origin : Origin
  exiting : Bool
deriving DecidableEq

-- What the executor's thread does: `requestStops` and `setWaits` are the two
-- halves of stop_all's requests, `joins` what follows them.
inductive MainTask where
  | idle
  | dispatching (frames : List (Int × ℚ))
  | reconciling (pass : StagedPass)
  | requestStops (origin : Origin) (rest : List Nat)
  | setWaits (origin : Origin) (rest : List Nat)
  | joins (origin : Origin) (rest : List Nat)
  | exited (code : Int)
deriving DecidableEq

-- The hardware manager node with the places of all its threads; `activations`
-- counts the calls of on_activate.
structure ThreadedNode where
  controllers : List ThreadedController
  isActive : Bool
  shutdownRequested : Bool
  task : MainTask
  activations : Nat
deriving DecidableEq

namespace ThreadedNode

def setController (node : ThreadedNode) (index : Nat) (mc : ThreadedController) : ThreadedNode :=
  { node with controllers := node.controllers.set index mc }

def setGoalAll (node : ThreadedNode) (goal : ControllerState) : ThreadedNode :=
  { node with controllers := node.controllers.map fun mc => { mc with goal } }

def startPass (node : ThreadedNode) (origin : Origin) (exiting : Bool) : ThreadedNode :=
  { node with task := .reconciling ⟨.observe false, List.range node.controllers.length, origin, exiting⟩ }

def nextController (node : ThreadedNode) (pass : StagedPass) : ThreadedNode :=
  { node with task := .reconciling { pass with stage := .observe false, rest := pass.rest.tail } }

def handleLoopSignal (node : ThreadedNode) (pass : StagedPass) (signal : Signal) : ThreadedNode :=
  if signal.name = SIG_CONTROLLER_FATAL then
    if node.shutdownRequested then node.nextController pass
    else { node with
      shutdownRequested := true
      isActive := false
      task := .requestStops pass.origin (List.range node.controllers.length) }
  else node.nextController pass

def goOn (node : ThreadedNode) (pass : StagedPass) : Next → ThreadedNode
  | .stage stage => { node with task := .reconciling { pass with stage } }
  | .nextController => node.nextController pass
  | .signal signal => node.handleLoopSignal pass signal

def endPass (node : ThreadedNode) (pass : StagedPass) : ThreadedNode :=
  if pass.exiting then { node with task := .exited HWMNG_CONTROLLER_FATAL }
  else
    match pass.origin with
    | .timer => { node with task := .idle }
    | .lifecycle isActive => { node with task := .idle, isActive := isActive.getD node.isActive }

-- A join of a thread that was never started raises a RuntimeError.
def abortPass (node : ThreadedNode) : Origin → ThreadedNode
  | .timer => { node with task := .exited 1 }
  | .lifecycle _ => { node with task := .idle }

def passStep (node : ThreadedNode) (pass : StagedPass) (outcome : Outcome) : ThreadedNode :=
  match pass.rest with
  | [] => node.endPass pass
  | index :: _ =>
      match node.controllers[index]? with
      | some mc =>
          let stepped := mc.reconcileStep outcome pass.stage
          (node.setController index stepped.1).goOn pass stepped.2
      | none => node.nextController pass

def requestStopsStep (node : ThreadedNode) (origin : Origin) : List Nat → ThreadedNode
  | [] => { node with task := .joins origin (List.range node.controllers.length) }
  | index :: rest =>
      match node.controllers[index]? with
      | some mc =>
          if mc.loop.isRunning then
            { node.setController index { mc with loop := mc.loop.clearRun } with task := .setWaits origin (index :: rest) }
          else { node with task := .requestStops origin rest }
      | none => { node with task := .requestStops origin rest }

def setWaitsStep (node : ThreadedNode) (origin : Origin) : List Nat → ThreadedNode
  | [] => { node with task := .requestStops origin [] }
  | index :: rest =>
      match node.controllers[index]? with
      | some mc =>
          { node.setController index { mc with loop := mc.loop.setWait } with task := .requestStops origin rest }
      | none => { node with task := .requestStops origin rest }

def joinsStep (node : ThreadedNode) (origin : Origin) : List Nat → ThreadedNode
  | [] => (node.setGoalAll .UNINITIALIZED).startPass origin true
  | index :: rest =>
      if (node.controllers[index]?).any fun mc => mc.loop.thread = .created then node.abortPass origin
      else { node with task := .joins origin rest }

-- The entrypoint registers, for each id of a controller's command group, the
-- handler that puts into the input queue of that controller's loop.
def dispatch (node : ThreadedNode) (frame : Int × ℚ) : ThreadedNode :=
  { node with controllers := node.controllers.map fun mc =>
      if frame.1 ∈ mc.commandGroup then
        { mc with incoming := mc.incoming ++ [⟨⟨frame.1, frame.2⟩, node.activations⟩] }
      else mc }

def dispatchStep (node : ThreadedNode) : List (Int × ℚ) → ThreadedNode
  | [] => { node with task := .idle }
  | frame :: rest => { node.dispatch frame with task := .dispatching rest }

def mainStep (node : ThreadedNode) (outcome : Outcome) : Option ThreadedNode :=
  match node.task with
  | .idle => none
  | .dispatching frames => some (node.dispatchStep frames)
  | .reconciling pass => some (node.passStep pass outcome)
  | .requestStops origin rest => some (node.requestStopsStep origin rest)
  | .setWaits origin rest => some (node.setWaitsStep origin rest)
  | .joins origin rest => some (node.joinsStep origin rest)
  | .exited _ => none

def lifecycleCallback (node : ThreadedNode) (goal : ControllerState) (isActive : Option Bool) : ThreadedNode :=
  (node.setGoalAll goal).startPass (.lifecycle isActive) false

def onConfigure (node : ThreadedNode) : ThreadedNode := node.lifecycleCallback .INITIALIZED none
def onActivate (node : ThreadedNode) : ThreadedNode :=
  { node with activations := node.activations + 1 }.lifecycleCallback .RUNNING (some true)
def onDeactivate (node : ThreadedNode) : ThreadedNode := node.lifecycleCallback .INITIALIZED (some false)
def onCleanup (node : ThreadedNode) : ThreadedNode := node.lifecycleCallback .UNINITIALIZED none
def onShutdown (node : ThreadedNode) : ThreadedNode := node.lifecycleCallback .UNINITIALIZED (some false)

def motionframeCallback (node : ThreadedNode) (ids : List Int) (values : List ℚ) : ThreadedNode :=
  if node.isActive then { node with task := .dispatching (ids.zip values) } else node

-- The fatal handler on a loop's thread, up to stop_all; its stops are the
-- `requestStop` and `finishStop` actions, which may come at any time.
def handleLoopSignalInLoop (node : ThreadedNode) (signal : Signal) : ThreadedNode :=
  if signal.name = SIG_CONTROLLER_FATAL then
    if node.shutdownRequested then node else { node with shutdownRequested := true, isActive := false }
  else node

def threadStep (node : ThreadedNode) (index number : Nat) (call : CallResult) (handler : HandlerResult) :
    Option ThreadedNode :=
  (node.controllers[index]?).bind fun mc =>
    (mc.threadStep number node.activations call handler).map fun after =>
      let moved := node.setController index after
      (mc.emits number).elim moved moved.handleLoopSignalInLoop

def onLoop (node : ThreadedNode) (index : Nat) (operation : Loop FlushPlace → Option (Loop FlushPlace)) :
    Option ThreadedNode :=
  (node.controllers[index]?).bind fun mc =>
    (operation mc.loop).map fun loop => node.setController index { mc with loop }

end ThreadedNode

inductive ThreadedAction where
  | reconcileTimer
  | configure
  | activate
  | deactivate
  | cleanup
  | shutdown
  | motionframe (ids : List Int) (values : List ℚ)
  | main (outcome : Outcome)
  | thread (index number : Nat) (call : CallResult) (handler : HandlerResult)
  | requestStop (index : Nat)
  | finishStop (index : Nat)

namespace ThreadedNode

def callback (node : ThreadedNode) (after : ThreadedNode) : Option ThreadedNode :=
  if node.task = .idle then some after else none

def step (node : ThreadedNode) : ThreadedAction → Option ThreadedNode
  | .reconcileTimer => node.callback (node.startPass .timer false)
  | .configure => node.callback node.onConfigure
  | .activate => node.callback node.onActivate
  | .deactivate => node.callback node.onDeactivate
  | .cleanup => node.callback node.onCleanup
  | .shutdown => node.callback node.onShutdown
  | .motionframe ids values => node.callback (node.motionframeCallback ids values)
  | .main outcome => node.mainStep outcome
  | .thread index number call handler => node.threadStep index number call handler
  | .requestStop index => node.onLoop index fun loop => some loop.requestStop
  | .finishStop index => node.onLoop index Loop.finishStop

end ThreadedNode

def threadedManager : System ThreadedNode ThreadedAction where
  start node := (∀ mc ∈ node.controllers, ∃ commandGroup, mc = ThreadedController.init commandGroup) ∧
    node.isActive = false ∧ node.shutdownRequested = false ∧ node.task = .idle ∧ node.activations = 0
  step := ThreadedNode.step

namespace ThreadedController

-- What a thread of the controller's loop, or a stop from another thread, does.
inductive Moved (mc : ThreadedController) (activation : Nat) (after : ThreadedController) : Prop where
  | thread (number : Nat) (call : CallResult) (handler : HandlerResult)
      (moved : mc.threadStep number activation call handler = some after)
  | loop (loop : Loop FlushPlace) (within : loop.Within mc.loop) (result : after = { mc with loop })

-- What the executor's thread does to a controller outside the reconciler's turns.
inductive Handled (mc : ThreadedController) (activation : Nat) (after : ThreadedController) : Prop where
  | goal (goal : ControllerState) (result : after = { mc with goal })
  | loop (loop : Loop FlushPlace) (within : loop.Within mc.loop) (result : after = { mc with loop })
  | received (command : MotionCommand) (result : after = { mc with incoming := mc.incoming ++ [⟨command, activation⟩] })

theorem handled_same (mc : ThreadedController) (activation : Nat) : mc.Handled activation mc := .goal mc.goal rfl

end ThreadedController

namespace ThreadedNode

def AtRest (node : ThreadedNode) : Prop := ∀ pass, node.task = .reconciling pass → pass.stage = .observe false

inductive Stepped (node : ThreadedNode) (action : ThreadedAction) (after : ThreadedNode) : Prop where
  | turn (pass : StagedPass) (index : Nat) (rest : List Nat) (mc : ThreadedController) (outcome : Outcome)
      (task : node.task = .reconciling pass) (order : pass.rest = index :: rest)
      (present : node.controllers[index]? = some mc)
      (result : after = (node.setController index (mc.reconcileStep outcome pass.stage).1).goOn pass
        (mc.reconcileStep outcome pass.stage).2)
  | beside (index : Nat) (mc changed : ThreadedController) (present : node.controllers[index]? = some mc)
      (moved : mc.Moved node.activations changed) (task : after.task = node.task)
      (activations : after.activations = node.activations)
      (controllers : after.controllers = node.controllers.set index changed)
  | executor (rest : after.AtRest) (activations : after.activations = node.activations)
      (controllers : ∀ changed ∈ after.controllers, ∃ mc ∈ node.controllers, mc.Handled node.activations changed)
  | activated (taken : action = .activate) (result : after = node.onActivate)

theorem next_rest (node : ThreadedNode) (pass : StagedPass) : (node.nextController pass).AtRest := by
  intro next task
  cases task
  rfl

theorem start_rest (node : ThreadedNode) (origin : Origin) (exiting : Bool) : (node.startPass origin exiting).AtRest := by
  intro next task
  cases task
  rfl

theorem signal_rest (node : ThreadedNode) (pass : StagedPass) (signal : Signal) :
    (node.handleLoopSignal pass signal).AtRest := by
  simp only [handleLoopSignal]
  split
  · split
    · exact next_rest node pass
    · intro next task
      cases task
  · exact next_rest node pass

theorem go_on_controllers (node : ThreadedNode) (pass : StagedPass) (next : Next) :
    (node.goOn pass next).controllers = node.controllers := by
  cases next with
  | stage stage => rfl
  | nextController => rfl
  | signal signal =>
      simp only [goOn, handleLoopSignal]
      split
      · split <;> rfl
      · rfl

theorem go_on_activations (node : ThreadedNode) (pass : StagedPass) (next : Next) :
    (node.goOn pass next).activations = node.activations := by
  cases next with
  | stage stage => rfl
  | nextController => rfl
  | signal signal =>
      simp only [goOn, handleLoopSignal]
      split
      · split <;> rfl
      · rfl

section Executor

variable (node after : ThreadedNode) (action : ThreadedAction)

theorem executor_same (rest : after.AtRest) (controllers : after.controllers = node.controllers)
    (activations : after.activations = node.activations) : node.Stepped action after :=
  .executor rest activations fun changed member => ⟨changed, controllers ▸ member, changed.handled_same node.activations⟩

theorem executor_goals (goal : ControllerState) (origin : Origin) (exiting : Bool) :
    node.Stepped action ((node.setGoalAll goal).startPass origin exiting) := by
  refine .executor (start_rest _ origin exiting) rfl fun changed member => ?_
  obtain ⟨mc, inside, rfl⟩ := List.mem_map.mp member
  exact ⟨mc, inside, .goal goal rfl⟩

theorem executor_loop (index : Nat) (mc : ThreadedController) (loop : Loop FlushPlace) (task : MainTask)
    (present : node.controllers[index]? = some mc) (within : loop.Within mc.loop)
    (away : ∀ pass, task ≠ .reconciling pass) :
    node.Stepped action { node.setController index { mc with loop } with task } := by
  refine .executor (fun pass same => absurd same (away pass)) rfl fun changed member => ?_
  rcases List.mem_or_eq_of_mem_set member with old | replaced
  · exact ⟨changed, old, changed.handled_same node.activations⟩
  · exact ⟨mc, List.mem_of_getElem? present, .loop loop within replaced⟩

theorem executor_task (task : MainTask) (away : ∀ pass, task ≠ .reconciling pass) :
    node.Stepped action { node with task } :=
  executor_same node _ action (fun pass same => absurd same (away pass)) rfl rfl

theorem pass_cases (pass : StagedPass) (outcome : Outcome) (task : node.task = .reconciling pass) :
    node.Stepped action (node.passStep pass outcome) := by
  cases order : pass.rest with
  | nil =>
      simp only [passStep, order, endPass]
      split
      · exact executor_task node action _ (by simp)
      · split
        · exact executor_task node action _ (by simp)
        · exact executor_same node _ action (fun next same => by cases same) rfl rfl
  | cons index rest =>
      cases present : node.controllers[index]? with
      | none =>
          simp only [passStep, order, present]
          exact executor_same node _ action (next_rest node pass) rfl rfl
      | some mc => exact .turn pass index rest mc outcome task order present (by simp only [passStep, order, present])

theorem request_stops_cases (origin : Origin) (rest : List Nat) :
    node.Stepped action (node.requestStopsStep origin rest) := by
  cases rest with
  | nil => exact executor_task node action _ (by simp)
  | cons index rest =>
      cases present : node.controllers[index]? with
      | none =>
          simp only [requestStopsStep, present]
          exact executor_task node action _ (by simp)
      | some mc =>
          simp only [requestStopsStep, present]
          split
          · exact executor_loop node action index mc _ _ present (Loop.same_threads_within _ _ rfl rfl) (by simp)
          · exact executor_task node action _ (by simp)

theorem set_waits_cases (origin : Origin) (rest : List Nat) : node.Stepped action (node.setWaitsStep origin rest) := by
  cases rest with
  | nil => exact executor_task node action _ (by simp)
  | cons index rest =>
      cases present : node.controllers[index]? with
      | none =>
          simp only [setWaitsStep, present]
          exact executor_task node action _ (by simp)
      | some mc =>
          simp only [setWaitsStep, present]
          exact executor_loop node action index mc _ _ present (Loop.set_wait_within mc.loop) (by simp)

theorem joins_cases (origin : Origin) (rest : List Nat) : node.Stepped action (node.joinsStep origin rest) := by
  cases rest with
  | nil => exact executor_goals node action .UNINITIALIZED origin true
  | cons index rest =>
      simp only [joinsStep]
      split
      · cases origin <;> exact executor_task node action _ (by simp)
      · exact executor_task node action _ (by simp)

theorem dispatch_cases (frames : List (Int × ℚ)) : node.Stepped action (node.dispatchStep frames) := by
  cases frames with
  | nil => exact executor_task node action _ (by simp)
  | cons frame rest =>
      refine .executor (fun pass same => by cases same) rfl fun changed member => ?_
      obtain ⟨mc, inside, rfl⟩ := List.mem_map.mp member
      refine ⟨mc, inside, ?_⟩
      split
      · exact .received ⟨frame.1, frame.2⟩ rfl
      · exact mc.handled_same node.activations

theorem main_cases (outcome : Outcome) (moved : node.mainStep outcome = some after) : node.Stepped action after := by
  cases task : node.task with
  | idle => simp [mainStep, task] at moved
  | exited code => simp [mainStep, task] at moved
  | dispatching frames =>
      simp only [mainStep, task, Option.some.injEq] at moved
      exact moved ▸ dispatch_cases node action frames
  | reconciling pass =>
      simp only [mainStep, task, Option.some.injEq] at moved
      exact moved ▸ pass_cases node action pass outcome task
  | requestStops origin rest =>
      simp only [mainStep, task, Option.some.injEq] at moved
      exact moved ▸ request_stops_cases node action origin rest
  | setWaits origin rest =>
      simp only [mainStep, task, Option.some.injEq] at moved
      exact moved ▸ set_waits_cases node action origin rest
  | joins origin rest =>
      simp only [mainStep, task, Option.some.injEq] at moved
      exact moved ▸ joins_cases node action origin rest

end Executor

theorem thread_cases (node after : ThreadedNode) (action : ThreadedAction) (index number : Nat) (call : CallResult)
    (handler : HandlerResult) (moved : node.threadStep index number call handler = some after) :
    node.Stepped action after := by
  simp only [threadStep, Option.bind_eq_some_iff, Option.map_eq_some_iff] at moved
  obtain ⟨mc, present, changed, moved, rfl⟩ := moved
  have beside (last : ThreadedNode) (task : last.task = node.task) (activations : last.activations = node.activations)
      (controllers : last.controllers = node.controllers.set index changed) : node.Stepped action last :=
    .beside index mc changed present (.thread number call handler moved) task activations controllers
  cases mc.emits number with
  | none => exact beside _ rfl rfl rfl
  | some signal =>
      simp only [Option.elim_some, handleLoopSignalInLoop]
      split
      · split <;> exact beside _ rfl rfl rfl
      · exact beside _ rfl rfl rfl

theorem on_loop_cases (node after : ThreadedNode) (action : ThreadedAction) (index : Nat)
    (operation : Loop FlushPlace → Option (Loop FlushPlace))
    (within : ∀ loop changed, operation loop = some changed → changed.Within loop)
    (moved : node.onLoop index operation = some after) : node.Stepped action after := by
  simp only [onLoop, Option.bind_eq_some_iff, Option.map_eq_some_iff] at moved
  obtain ⟨mc, present, loop, moved, rfl⟩ := moved
  exact .beside index mc _ present (.loop loop (within mc.loop loop moved) rfl) rfl rfl rfl

theorem step_cases (node after : ThreadedNode) (action : ThreadedAction) (moved : node.step action = some after) :
    node.Stepped action after := by
  have taken (last : ThreadedNode) (moved : node.callback last = some after) : node.task = .idle ∧ last = after := by
    simp only [callback] at moved
    split at moved
    · rename_i idle
      exact ⟨idle, Option.some.inj moved⟩
    · cases moved
  cases action with
  | reconcileTimer => exact (taken _ moved).2 ▸ executor_same node _ _ (start_rest node .timer false) rfl rfl
  | configure => exact (taken _ moved).2 ▸ executor_goals node _ .INITIALIZED (.lifecycle none) false
  | activate => exact .activated rfl (taken _ moved).2.symm
  | deactivate => exact (taken _ moved).2 ▸ executor_goals node _ .INITIALIZED (.lifecycle (some false)) false
  | cleanup => exact (taken _ moved).2 ▸ executor_goals node _ .UNINITIALIZED (.lifecycle none) false
  | shutdown => exact (taken _ moved).2 ▸ executor_goals node _ .UNINITIALIZED (.lifecycle (some false)) false
  | motionframe ids values =>
      obtain ⟨idle, rfl⟩ := taken _ moved
      simp only [motionframeCallback]
      split
      · exact executor_task node _ _ (by simp)
      · exact executor_same node node _ (fun pass same => by rw [idle] at same; cases same) rfl rfl
  | main outcome => exact main_cases node after _ outcome moved
  | thread index number call handler => exact thread_cases node after _ index number call handler moved
  | requestStop index =>
      refine on_loop_cases node after _ index (fun loop => some loop.requestStop) (fun loop changed same => ?_) moved
      cases same
      exact Loop.request_stop_within loop
  | finishStop index => exact on_loop_cases node after _ index _ Loop.finish_stop_within moved

end ThreadedNode

end Animacharacter.HardwareMng
