import Mathlib.Data.Rat.Defs
import Animacharacter.HardwareMng.Controller

set_option autoImplicit false

namespace Animacharacter.HardwareMng

variable {Command : Type}

inductive QueueAction (Command : Type) where
  | put (command : Command)
  | queueConfigUpdate (config : Config)
  | initialized
  | flush (iteration : Iteration)

-- A controller with its input queue, and beside them every command ever put,
-- every command taken from the queue, and the lists control was called with.
structure CommandState (Command : Type) where
  controller : BaseHardwareController
  incoming : List Command
  enqueued : List Command
  removed : List Command
  controlled : List (List Command)

namespace CommandState

def init (handlers : List Handler) : CommandState Command := ⟨⟨handlers, [], true⟩, [], [], [], []⟩

def afterFlush (state : CommandState Command) (result : FlushResult Command) : CommandState Command where
  controller := result.controller
  incoming := result.incomingCommands
  enqueued := state.enqueued
  removed := state.removed ++ state.incoming.take (state.incoming.length - result.incomingCommands.length)
  controlled := state.controlled ++ result.controlled

def step (state : CommandState Command) : QueueAction Command → CommandState Command
  | .put command => { state with incoming := state.incoming ++ [command], enqueued := state.enqueued ++ [command] }
  | .queueConfigUpdate config => { state with
      controller := { state.controller with cfgUpdatesQueue := state.controller.cfgUpdatesQueue ++ [config] } }
  | .initialized => { state with controller := { state.controller with initialized := true } }
  | .flush iteration => state.afterFlush (HardwareMng.flush state.controller state.incoming iteration)

def run (state : CommandState Command) (actions : List (QueueAction Command)) : CommandState Command :=
  actions.foldl step state

-- What was taken reached control, in order and once: a prefix of what was put.
def NothingLost (state : CommandState Command) : Prop :=
  state.controlled.flatten = state.removed ∧ state.controlled.flatten <+: state.enqueued

instance [DecidableEq Command] (state : CommandState Command) : Decidable state.NothingLost :=
  inferInstanceAs (Decidable (_ ∧ _))

def Controls (state : CommandState Command) : QueueAction Command → Prop
  | .flush iteration => state.controller.initialized = true → state.incoming ≠ [] →
      NamedHandlers state.controller iteration ∧ iteration.read = none
  | _ => True

def ControlsThroughout : CommandState Command → List (QueueAction Command) → Prop
  | _, [] => True
  | state, action :: rest => state.Controls action ∧ ControlsThroughout (state.step action) rest

structure Accounted (state : CommandState Command) : Prop where
  split : state.removed ++ state.incoming = state.enqueued
  bounded : state.controlled.flatten.length ≤ state.removed.length

theorem nothing_lost_iff (state : CommandState Command) (accounted : state.Accounted) :
    state.NothingLost ↔ state.controlled.flatten = state.removed := by
  constructor
  · exact fun kept => kept.1
  · intro same
    refine ⟨same, ?_⟩
    rw [same, ← accounted.split]
    exact List.prefix_append _ _

theorem flush_uninitialized (state : CommandState Command) (iteration : Iteration)
    (initialized : state.controller.initialized = false) : state.step (.flush iteration) = state := by
  cases state
  simp_all [step, afterFlush, HardwareMng.flush]

theorem flush_initialized (state : CommandState Command) (iteration : Iteration)
    (initialized : state.controller.initialized = true) :
    (state.step (.flush iteration)).incoming = [] ∧
      (state.step (.flush iteration)).enqueued = state.enqueued ∧
      (state.step (.flush iteration)).removed = state.removed ++ state.incoming := by
  have empties := flush_empties state.controller state.incoming iteration initialized
  simp [step, afterFlush, empties]

theorem flush_controlled (state : CommandState Command) (iteration : Iteration)
    (initialized : state.controller.initialized = true) :
    (NamedHandlers state.controller iteration ∧ iteration.read = none ∧
      (state.step (.flush iteration)).controlled.flatten = state.controlled.flatten ++ state.incoming) ∨
    (¬ (NamedHandlers state.controller iteration ∧ iteration.read = none) ∧
      (state.step (.flush iteration)).controlled.flatten = state.controlled.flatten) := by
  by_cases gets : NamedHandlers state.controller iteration ∧ iteration.read = none
  · left
    refine ⟨gets.1, gets.2, ?_⟩
    simp [step, afterFlush, flush_reaches_control state.controller state.incoming iteration initialized gets.1 gets.2]
  · right
    refine ⟨gets, ?_⟩
    simp [step, afterFlush, flush_misses_control state.controller state.incoming iteration gets]

theorem step_accounted (state : CommandState Command) (action : QueueAction Command) (accounted : state.Accounted) :
    (state.step action).Accounted := by
  cases action with
  | put command =>
      refine ⟨?_, accounted.bounded⟩
      simp [step, ← accounted.split]
  | queueConfigUpdate config => exact ⟨accounted.split, accounted.bounded⟩
  | initialized => exact ⟨accounted.split, accounted.bounded⟩
  | flush iteration =>
      cases initialized : state.controller.initialized with
      | false =>
          rw [flush_uninitialized state iteration initialized]
          exact accounted
      | true =>
          obtain ⟨emptied, same, taken⟩ := flush_initialized state iteration initialized
          have bounded := accounted.bounded
          constructor
          · rw [emptied, same, taken, List.append_nil]
            exact accounted.split
          · rw [taken]
            rcases flush_controlled state iteration initialized with ⟨_, _, given⟩ | ⟨_, given⟩ <;>
              rw [given] <;> simp only [List.length_append] <;> omega

theorem step_nothing_lost (state : CommandState Command) (action : QueueAction Command) (accounted : state.Accounted) :
    (state.step action).controlled.flatten = (state.step action).removed ↔
      state.controlled.flatten = state.removed ∧ state.Controls action := by
  cases action with
  | put command => simp [step, Controls]
  | queueConfigUpdate config => simp [step, Controls]
  | initialized => simp [step, Controls]
  | flush iteration =>
      cases initialized : state.controller.initialized with
      | false =>
          rw [flush_uninitialized state iteration initialized]
          simp [Controls, initialized]
      | true =>
          obtain ⟨_, _, taken⟩ := flush_initialized state iteration initialized
          rw [taken]
          rcases flush_controlled state iteration initialized with ⟨named, quiet, given⟩ | ⟨missed, given⟩
          · rw [given, List.append_cancel_right_eq]
            simp [Controls, named, quiet]
          · rw [given]
            simp only [Controls, initialized, missed, forall_const]
            constructor
            · intro same
              have lengths := congrArg List.length same
              have bounded := accounted.bounded
              simp only [List.length_append] at lengths
              have nothing : state.incoming = [] := List.length_eq_zero_iff.mp (by omega)
              rw [nothing, List.append_nil] at same
              exact ⟨same, fun pending => pending nothing⟩
            · rintro ⟨same, empty⟩
              rw [Classical.not_not.mp empty, List.append_nil]
              exact same

theorem run_nothing_lost (actions : List (QueueAction Command)) (state : CommandState Command)
    (accounted : state.Accounted) :
    (state.run actions).Accounted ∧
      ((state.run actions).controlled.flatten = (state.run actions).removed ↔
        state.controlled.flatten = state.removed ∧ state.ControlsThroughout actions) := by
  induction actions generalizing state with
  | nil => exact ⟨accounted, by simp [run, ControlsThroughout]⟩
  | cons action rest ih =>
      obtain ⟨kept, later⟩ := ih (state.step action) (step_accounted state action accounted)
      refine ⟨kept, ?_⟩
      simp only [ControlsThroughout, ← and_assoc, ← step_nothing_lost state action accounted]
      exact later

-- Nothing has reached control but what was put, in the order of the puts.
structure TakenInOrder (state : CommandState Command) : Prop where
  accounted : state.Accounted
  controlled : state.controlled.flatten.Sublist state.removed

theorem init_taken_in_order (handlers : List Handler) : (init handlers : CommandState Command).TakenInOrder :=
  ⟨⟨rfl, Nat.le_refl _⟩, .slnil⟩

theorem step_taken_in_order (state : CommandState Command) (action : QueueAction Command)
    (taken : state.TakenInOrder) : (state.step action).TakenInOrder := by
  refine ⟨step_accounted state action taken.accounted, ?_⟩
  cases action with
  | put command => exact taken.controlled
  | queueConfigUpdate config => exact taken.controlled
  | initialized => exact taken.controlled
  | flush iteration =>
      cases initialized : state.controller.initialized with
      | false =>
          rw [flush_uninitialized state iteration initialized]
          exact taken.controlled
      | true =>
          obtain ⟨_, _, removed⟩ := flush_initialized state iteration initialized
          rw [removed]
          rcases flush_controlled state iteration initialized with ⟨_, _, given⟩ | ⟨_, given⟩
          · rw [given]
            exact taken.controlled.append (.refl _)
          · rw [given]
            exact taken.controlled.trans (List.sublist_append_left _ _)

theorem taken_in_order_enqueued (state : CommandState Command) (taken : state.TakenInOrder) :
    state.controlled.flatten.Sublist state.enqueued := by
  rw [← taken.accounted.split]
  exact taken.controlled.trans (List.sublist_append_left _ _)

theorem not_put_enqueued (state : CommandState Command) (action : QueueAction Command)
    (notPut : ∀ command, action ≠ .put command) : (state.step action).enqueued = state.enqueued := by
  cases action with
  | put command => exact absurd rfl (notPut command)
  | queueConfigUpdate config => rfl
  | initialized => rfl
  | flush iteration => rfl

end CommandState

-- Every command taken from the queue reaches control, in order, exactly when
-- no flush leaves through a handler or read while it holds commands.
theorem commands_controlled_iff (handlers : List Handler) (actions : List (QueueAction Command)) :
    ((CommandState.init handlers).run actions).NothingLost ↔
      (CommandState.init handlers : CommandState Command).ControlsThroughout actions := by
  have fresh : (CommandState.init handlers : CommandState Command).Accounted := ⟨rfl, Nat.le_refl _⟩
  obtain ⟨accounted, kept⟩ := CommandState.run_nothing_lost actions _ fresh
  rw [CommandState.nothing_lost_iff _ accounted, kept]
  exact ⟨fun both => both.2, fun controls => ⟨rfl, controls⟩⟩

structure MotionCommand where
  id : Int
  value : ℚ
deriving DecidableEq

-- read warns once while a command waits; the next flush finds an empty queue.
def warnedRead : List (QueueAction MotionCommand) :=
  [.put ⟨1, 90⟩, .flush ⟨fun _ _ => false, some (.controllerWarning 3 "low voltage"), none⟩,
    .flush ⟨fun _ _ => false, none, none⟩]

theorem warning_loses_command :
    ¬ ((CommandState.init []).run warnedRead).NothingLost ∧
      ((CommandState.init []).run warnedRead).removed = [⟨1, 90⟩] ∧
      ((CommandState.init []).run warnedRead).controlled = [[]] ∧
      ((CommandState.init []).run warnedRead).controller.initialized = true := by
  decide +kernel

end Animacharacter.HardwareMng
