import Animacharacter.HardwareMng.ControllerSteps
import Animacharacter.HardwareMng.HookExclusion
import Animacharacter.Mcudrivers.HeadLifecycle

set_option autoImplicit false

namespace Animacharacter.HardwareMng

open StepSystem Mcudrivers

namespace HeadController

def COMMAND_MAP (id : Int) : Option Axis := if id = 1 then some .EYE_L else none

def commandGroup : List Int := [1]

-- The hooks that the hardware manager calls.
inductive Hook where
  | initializeHw
  | deinitializeHw
  | control (commands : List Received)

-- What the serial device does while a hook runs.
structure Answers where
  handshake : Handshake
  serial : Serial
  closes : Bool

def writeCommand (link : HeadLink ℚ) (received : Received) : HeadLink ℚ :=
  match COMMAND_MAP received.command.id with
  | some axis => link.write axis received.command.value
  | none => link

def control (link : HeadLink ℚ) (commands : List Received) (serial : Serial) : HeadLink ℚ × CallEnd :=
  (commands.foldl writeCommand link).flush serial

def call (link : HeadLink ℚ) (answers : Answers) : Hook → HeadLink ℚ × CallEnd
  | .initializeHw => link.begin_ answers.handshake answers.serial
  | .deinitializeHw => link.deinit answers.closes
  | .control commands => control link commands answers.serial

end HeadController

open HeadController

-- The node with the driver of the one controller of its list that is a HeadController.
structure HeadManager where
  node : ThreadedNode
  link : HeadLink ℚ

namespace HeadManager

-- The hook of the controller that ends with a step.
def ending (node : ThreadedNode) (index : Nat) : ThreadedAction → Option Hook
  | .main _ =>
      match node.task with
      | .reconciling pass =>
          if pass.rest.head? = some index then
            match pass.stage with
            | .initializeHw _ => some .initializeHw
            | .deinitializeHw => some .deinitializeHw
            | _ => none
          else none
      | _ => none
  | .thread here number _ _ =>
      if here = index then
        (node.controllers[index]?).bind fun mc =>
          match mc.loop.threads[number]? with
          | some (.inJob .control) => some (.control (mc.controlled.getLast?.elim [] ControlCall.commands))
          | _ => none
      else none
  | _ => none

-- The step says of the hook what the hook says of itself; control returns nothing.
def agrees : ThreadedAction → CallEnd → Bool
  | .main (.returned value), .returned result => value = result
  | .main (.raised _), .raised => true
  | .thread _ _ .returned _, .returned _ => true
  | .thread _ _ (.raised _) _, .raised | .thread _ _ .exits _, .raised => true
  | _, _ => false

def step (index : Nat) (manager : HeadManager) (action : ThreadedAction × Answers) : Option HeadManager :=
  match ending manager.node index action.1 with
  | none => (manager.node.step action.1).map fun node => { manager with node }
  | some hook =>
      let ended := HeadController.call manager.link action.2 hook
      if agrees action.1 ended.2 then (manager.node.step action.1).map fun node => ⟨node, ended.1⟩ else none

def start (index : Nat) (manager : HeadManager) : Prop :=
  threadedManager.start manager.node ∧ manager.node.controllers[index]? = some (ThreadedController.init commandGroup) ∧
    manager.link = .init

end HeadManager

def headManager (index : Nat) : System HeadManager (ThreadedAction × Answers) where
  start := HeadManager.start index
  step := HeadManager.step index

namespace ThreadedController

-- Never initialized, and so never controlled.
structure Cold (mc : ThreadedController) : Prop where
  uninitialized : mc.initialized = false
  uncontrolled : mc.controlled = []

-- Only initialize_hw that returns True initializes a controller.
theorem reconcile_cold (mc : ThreadedController) (outcome : Outcome) (stage : Stage) (cold : mc.Cold)
    (refused : ∀ toRunning, stage = .initializeHw toRunning → outcome ≠ .returned true) :
    (mc.reconcileStep outcome stage).1.Cold := by
  obtain ⟨uninitialized, uncontrolled⟩ := cold
  cases stage with
  | startLoop toRunning =>
      simp only [reconcileStep]
      split <;> exact ⟨uninitialized, uncontrolled⟩
  | requestStop =>
      simp only [reconcileStep]
      split <;> exact ⟨uninitialized, uncontrolled⟩
  | initializeHw toRunning =>
      cases outcome with
      | returned result =>
          cases result with
          | true => exact absurd rfl (refused toRunning rfl)
          | false => exact ⟨uninitialized, uncontrolled⟩
      | raised raised => exact ⟨uninitialized, uncontrolled⟩
  | deinitializeHw =>
      cases outcome with
      | returned result => cases result <;> exact ⟨by simp [reconcileStep, deinitializeHw, uninitialized], uncontrolled⟩
      | raised raised => exact ⟨uninitialized, uncontrolled⟩
  | _ => exact ⟨uninitialized, uncontrolled⟩

theorem flush_uncontrolled (mc : ThreadedController) (number activation : Nat) (call : CallResult) (place : FlushPlace)
    (outside : place.inside = false) : (mc.flushStep number activation call place).controlled = mc.controlled := by
  cases place with
  | checkInitialized => rfl
  | raised raised => rfl
  | _ => cases outside

theorem thread_cold (mc after : ThreadedController) (number activation : Nat) (call : CallResult)
    (handler : HandlerResult) (guarded : mc.Guarded) (cold : mc.Cold)
    (moved : mc.threadStep number activation call handler = some after) : after.Cold := by
  obtain ⟨_, quieter⟩ := thread_guarded mc after number activation call handler guarded moved
  constructor
  · refine Bool.eq_false_iff.mpr fun ready => ?_
    have before := quieter.initialized ready
    rw [cold.uninitialized] at before
    cases before
  · simp only [threadStep] at moved
    split at moved
    · cases moved
      exact cold.uncontrolled
    · rename_i place present
      cases moved
      have outside : place.inside = false := by
        refine Bool.eq_false_iff.mpr fun inside => ?_
        have ready := guarded.inside number place present inside
        rw [cold.uninitialized] at ready
        cases ready
      rw [flush_uncontrolled mc number activation call place outside]
      exact cold.uncontrolled
    · obtain ⟨loop, _, rfl⟩ := Option.map_eq_some_iff.mp moved
      exact cold.uncontrolled

end ThreadedController

namespace HeadController

-- A driver that nothing was ever written to.
structure Untouched (link : HeadLink ℚ) : Prop where
  flagged : link.Flagged
  initialized : link.initialized = false
  unsent : link.unsent = []
  sent : link.driver.sent = []

theorem flush_untouched (link : HeadLink ℚ) (serial : Serial) (untouched : Untouched link) :
    Untouched (link.flush serial).1 ∧ (link.flush serial).2 ≠ .returned true := by
  have clean (packet : Packet) : link.driver.dirty packet = false := by
    refine Bool.eq_false_iff.mpr fun dirty => ?_
    obtain ⟨axis, member, _⟩ := (untouched.flagged packet).mp dirty
    rw [untouched.unsent] at member
    cases member
  have skipped : link.driver.flushCall serial = (link.driver.flush.complete, .returned false) := by
    rw [HeadMcuDriver.flushCall, if_pos ⟨clean .motion, clean .leds⟩]
  refine ⟨⟨HeadLink.flush_flagged link serial untouched.flagged, untouched.initialized, ?_, ?_⟩, ?_⟩
  · simp [HeadLink.flush, untouched.unsent]
  · simp only [HeadLink.flush, skipped]
    exact untouched.sent
  · simp [HeadLink.flush, skipped]

-- The flush that ends begin() has nothing to send, and gives False.
theorem begin_untouched (link : HeadLink ℚ) (handshake : Handshake) (serial : Serial) (untouched : Untouched link) :
    Untouched (link.begin_ handshake serial).1 ∧ (link.begin_ handshake serial).2 ≠ .returned true := by
  obtain ⟨flushed, refused⟩ := flush_untouched link serial untouched
  simp only [HeadLink.begin_, untouched.initialized, Bool.false_eq_true, if_false]
  cases handshake with
  | acked =>
      simp only [refused, if_false]
      exact ⟨flushed, refused⟩
  | _ => exact ⟨untouched, by simp⟩

theorem deinit_untouched (link : HeadLink ℚ) (closes : Bool) (untouched : Untouched link) :
    Untouched (link.deinit closes).1 := by
  simp only [HeadLink.deinit, untouched.initialized, Bool.false_eq_true, if_false]
  exact untouched

end HeadController

namespace HeadManager

structure NeverStarted (index : Nat) (manager : HeadManager) : Prop where
  guarded : manager.node.HooksGuarded
  cold : ∃ mc, manager.node.controllers[index]? = some mc ∧ mc.Cold
  untouched : Untouched manager.link

-- A hook's True has to come from the driver.
theorem turned_cold (node : ThreadedNode) (index : Nat) (action : ThreadedAction) (mc changed : ThreadedController)
    (guarded : mc.Guarded) (cold : mc.Cold) (turned : node.Turned action index mc changed)
    (refused : ending node index action = some .initializeHw → action ≠ .main (.returned true)) : changed.Cold := by
  cases turned with
  | turn pass outcome main task order result =>
      rw [result]
      refine ThreadedController.reconcile_cold mc outcome pass.stage cold fun toRunning stage returned => ?_
      subst main returned
      refine refused ?_ rfl
      simp only [ending, task, order, if_true, stage]
  | thread number call handler taken moved =>
      exact ThreadedController.thread_cold mc changed number node.activations call handler guarded cold moved
  | goal silent goal result =>
      rw [result]
      exact ⟨cold.uninitialized, cold.uncontrolled⟩
  | loop silent loop within result =>
      rw [result]
      exact ⟨cold.uninitialized, cold.uncontrolled⟩
  | dispatched frame named result =>
      rw [result]
      split <;> exact ⟨cold.uninitialized, cold.uncontrolled⟩

-- The control of a controller that is not initialized does not end, as it never begins.
theorem control_never_ends (node : ThreadedNode) (index : Nat) (action : ThreadedAction) (mc : ThreadedController)
    (guarded : mc.Guarded) (cold : mc.Cold) (present : node.controllers[index]? = some mc) (commands : List Received) :
    ending node index action ≠ some (.control commands) := by
  intro ends
  cases action with
  | main outcome =>
      simp only [ending] at ends
      split at ends
      · split at ends
        · split at ends <;> cases ends
        · cases ends
      · cases ends
  | thread here number call handler =>
      simp only [ending, present, Option.bind_some] at ends
      split at ends
      · split at ends
        · rename_i controlling
          have ready := guarded.inside number .control controlling rfl
          rw [cold.uninitialized] at ready
          cases ready
        · cases ends
      · cases ends
  | _ => cases ends

theorem call_untouched (link : HeadLink ℚ) (answers : Answers) (hook : Hook) (untouched : Untouched link)
    (uncontrolled : ∀ commands, hook ≠ .control commands) : Untouched (HeadController.call link answers hook).1 := by
  cases hook with
  | initializeHw => exact (begin_untouched link answers.handshake answers.serial untouched).1
  | deinitializeHw => exact deinit_untouched link answers.closes untouched
  | control commands => exact absurd rfl (uncontrolled commands)

theorem step_never_started (index : Nat) (manager after : HeadManager) (action : ThreadedAction × Answers)
    (never : manager.NeverStarted index) (moved : step index manager action = some after) :
    after.NeverStarted index := by
  obtain ⟨mc, present, cold⟩ := never.cold
  have guarded := never.guarded.controllers mc (List.mem_of_getElem? present)
  have uncontrolled := control_never_ends manager.node index action.1 mc guarded cold present
  have goes (node : ThreadedNode) (link : HeadLink ℚ) (stepped : manager.node.step action.1 = some node)
      (untouched : Untouched link)
      (refused : ending manager.node index action.1 = some .initializeHw → action.1 ≠ .main (.returned true)) :
      (⟨node, link⟩ : HeadManager).NeverStarted index := by
    refine ⟨ThreadedNode.step_guarded manager.node node action.1 never.guarded stepped, ?_, untouched⟩
    obtain ⟨changed, found, turned⟩ := ThreadedNode.turned_to manager.node node action.1
      (ThreadedNode.step_turned manager.node node action.1 stepped) index mc present
    exact ⟨changed, found, turned_cold manager.node index action.1 mc changed guarded cold turned refused⟩
  simp only [step] at moved
  cases ends : ending manager.node index action.1 with
  | none =>
      rw [ends] at moved
      obtain ⟨node, stepped, rfl⟩ := Option.map_eq_some_iff.mp moved
      exact goes node manager.link stepped never.untouched (by rw [ends]; exact nofun)
  | some hook =>
      rw [ends] at moved uncontrolled
      simp only at moved
      split at moved
      · rename_i agreed
        obtain ⟨node, stepped, rfl⟩ := Option.map_eq_some_iff.mp moved
        have untouched := call_untouched manager.link action.2 hook never.untouched fun commands same =>
          uncontrolled commands (congrArg some same)
        refine goes node _ stepped untouched fun initializing returned => ?_
        rw [ends] at initializing
        cases initializing
        rw [returned] at agreed
        have refused := (begin_untouched manager.link action.2.handshake action.2.serial never.untouched).2
        simp only [HeadController.call] at agreed
        cases result : (manager.link.begin_ action.2.handshake action.2.serial).2 with
        | returned value =>
            rw [result] at agreed refused
            cases value with
            | true => exact refused rfl
            | false => cases agreed
        | raised =>
            rw [result] at agreed
            cases agreed
      · cases moved

theorem init_never_started (index : Nat) (manager : HeadManager) (started : (headManager index).start manager) :
    manager.NeverStarted index := by
  obtain ⟨fresh, present, link⟩ := started
  refine ⟨ThreadedNode.init_guarded manager.node fresh, ⟨_, present, rfl, rfl⟩, ?_⟩
  rw [link]
  exact ⟨HeadLink.reached_flagged _ ⟨.init, rfl, .refl⟩, rfl, rfl, rfl⟩

end HeadManager

-- begin() ends with a flush, and a flush with nothing to send gives False: the head's
-- controller never becomes initialized, never controls, and sends no packet.
theorem head_never_initialized (index : Nat) (manager : HeadManager)
    (reached : Reached (headManager index) anyAction manager) :
    (∃ mc, manager.node.controllers[index]? = some mc ∧ mc.initialized = false ∧ mc.controlled = []) ∧
      manager.link.initialized = false ∧ manager.link.driver.sent = [] := by
  have never := reached_invariant (headManager index) anyAction (HeadManager.NeverStarted index)
    (HeadManager.init_never_started index)
    (fun source action target good _ moved => HeadManager.step_never_started index source target action good moved)
    manager reached
  obtain ⟨mc, present, cold⟩ := never.cold
  exact ⟨⟨mc, present, cold.uninitialized, cold.uncontrolled⟩, never.untouched.initialized, never.untouched.sent⟩

def headAnswers : Answers := ⟨.acked, HeadLink.sendsAll, true⟩

-- The head's board answers, and initialize_hw returns False all the same.
def headConfigured : List (ThreadedAction × Answers) :=
  [(.configure, headAnswers)] ++ List.replicate 6 (.main (.returned false), headAnswers)

def headOnly : HeadManager := ⟨⟨[ThreadedController.init commandGroup], false, false, .idle, 0⟩, .init⟩

theorem head_never_initialized_configured : ∃ manager : HeadManager, manager.link.driver.begunSince = true ∧
    manager.node.task = .idle ∧
    (∃ mc, manager.node.controllers[0]? = some mc ∧ mc.initialized = false ∧ mc.controlled = []) ∧
      manager.link.initialized = false ∧ manager.link.driver.sent = [] := by
  have starts : (headManager 0).start headOnly :=
    ⟨⟨fun mc member => ⟨commandGroup, List.mem_singleton.mp member⟩, rfl, rfl, rfl, rfl⟩, rfl, rfl⟩
  obtain ⟨manager, reached, called, idle⟩ := replay_exists (headManager 0) anyAction headConfigured headOnly
    (fun manager => manager.link.driver.begunSince = true ∧ manager.node.task = .idle) starts (by decide +kernel)
  exact ⟨manager, called, idle, head_never_initialized 0 manager reached⟩

end Animacharacter.HardwareMng
