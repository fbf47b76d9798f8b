import Animacharacter.Behaviors.Engine

set_option autoImplicit false

namespace Animacharacter.Behaviors

variable {Gen Time : Type}

namespace Stepped

def ends : Stepped Time → Bool
  | .stopIteration | .yields (some (.STOP, _)) => true
  | _ => false

def isRaise : Stepped Time → Bool
  | .raises _ => true
  | _ => false

-- The first of them that raises is the last one.
def untilRaise (next : Nat → Stepped Time) : List Nat → List Nat
  | [] => []
  | index :: rest => index :: if (next index).isRaise then [] else untilRaise next rest

end Stepped

namespace BehaviorExecutor

def Before (executor : BehaviorExecutor Gen Time) (left right : Nat) : Prop :=
  executor.priority left < executor.priority right ∨
    executor.priority left = executor.priority right ∧ left < right

-- Instances are numbered in the order of their addition.
def Ordered (executor : BehaviorExecutor Gen Time) : Prop := executor.behaviors.Pairwise executor.Before

variable [BEq Gen] [BEq Time]

-- No other scheduled instance compares equal to this one.
def Alone (executor : BehaviorExecutor Gen Time) (index : Nat) : Prop :=
  ∀ other ∈ executor.behaviors, executor.same other index = true → other = index

instance (executor : BehaviorExecutor Gen Time) (index : Nat) : Decidable (executor.Alone index) :=
  inferInstanceAs (Decidable (∀ other ∈ executor.behaviors, _ → _))

variable [LT Time] [DecidableLT Time] [Max Time] [Add Time] [Zero Time]

-- The instances whose iterators the loop of tick calls, in the order of the calls.
def advanced (time : Time) (next : Nat → Stepped Time) : List Nat → BehaviorExecutor Gen Time → List Nat
  | [], _ => []
  | index :: rest, executor =>
      match executor.instances[index]? with
      | none => advanced time next rest executor
      | some behavior =>
          if behavior.done = true ∨ time < behavior.sleepUntil then advanced time next rest executor
          else
            index ::
              match behavior.step time (next index) with
              | .error _ => []
              | .ok none => advanced time next rest executor
              | .ok (some action) =>
                  let behavior := behavior.handleAction action time
                  let executor := executor.setInstance index behavior
                  if behavior.done then
                    if executor.scheduled index then advanced time next rest (executor.remove index) else []
                  else advanced time next rest executor

end BehaviorExecutor

namespace BehaviorInstance

theorem handle_action_priority [Max Time] [Add Time] [Zero Time] (behavior : BehaviorInstance Gen Time)
    (action : BehaviorActionType × Time) (time : Time) :
    (behavior.handleAction action time).priority = behavior.priority := by
  unfold handleAction
  split <;> rfl

theorem handle_action_gen [Max Time] [Add Time] [Zero Time] (behavior : BehaviorInstance Gen Time)
    (action : BehaviorActionType × Time) (time : Time) : (behavior.handleAction action time).gen = behavior.gen := by
  unfold handleAction
  split <;> rfl

end BehaviorInstance

namespace BehaviorExecutor

theorem ordered_nodup (executor : BehaviorExecutor Gen Time) (ordered : executor.Ordered) :
    executor.behaviors.Nodup := by
  apply List.Pairwise.imp _ ordered
  rintro left right (lower | ⟨_, earlier⟩) rfl
  · exact absurd lower (lt_irrefl _)
  · exact absurd earlier (lt_irrefl _)

def Running (executor : BehaviorExecutor Gen Time) : Prop :=
  ∀ index ∈ executor.behaviors, ∃ behavior, executor.instances[index]? = some behavior ∧ behavior.done = false

theorem running_known (executor : BehaviorExecutor Gen Time) (running : executor.Running) (index : Nat)
    (scheduled : index ∈ executor.behaviors) : index < executor.instances.length := by
  obtain ⟨behavior, found, _⟩ := running index scheduled
  exact (List.getElem?_eq_some_iff.mp found).1

section Removal

variable [BEq Gen] [BEq Time]

theorem same_done (executor : BehaviorExecutor Gen Time) (left right : Nat) (one other : BehaviorInstance Gen Time)
    (first : executor.instances[left]? = some one) (second : executor.instances[right]? = some other)
    (same : executor.same left right = true) (apart : left ≠ right) : one.done = other.done := by
  simp only [BehaviorExecutor.same, apart, decide_false, Bool.false_or, first, second] at same
  cases one
  cases other
  simp only [BEq.beq, instBEqBehaviorInstance.beq, Bool.and_eq_true, decide_eq_true_eq] at same
  exact same.2.2.2

theorem erase_alone (behaviors : List Nat) (same : Nat → Bool) (index : Nat) (itself : same index = true)
    (alone : ∀ other ∈ behaviors, same other = true → other = index) :
    behaviors.eraseP same = behaviors.erase index := by
  induction behaviors with
  | nil => rfl
  | cons first rest ih =>
      by_cases found : first = index
      · subst found
        rw [List.eraseP_cons_of_pos itself, List.erase_cons_head]
      · have differs : ¬ same first = true := fun equal => found (alone first List.mem_cons_self equal)
        rw [List.eraseP_cons_of_neg differs, List.erase_cons_tail (by simpa using found),
          ih fun other inside => alone other (List.mem_cons_of_mem first inside)]

theorem remove_alone (executor : BehaviorExecutor Gen Time) (index : Nat) (alone : executor.Alone index) :
    (executor.remove index).behaviors = executor.behaviors.erase index :=
  erase_alone executor.behaviors (fun other => executor.same other index) index (by simp [BehaviorExecutor.same]) alone

theorem scheduled_alone (executor : BehaviorExecutor Gen Time) (index : Nat) (alone : executor.Alone index) :
    executor.scheduled index = true ↔ index ∈ executor.behaviors := by
  rw [scheduled, List.any_eq_true]
  apply Iff.intro
  · rintro ⟨other, inside, same⟩
    rw [← alone other inside same]
    exact inside
  · intro inside
    exact ⟨index, inside, by simp [BehaviorExecutor.same]⟩

theorem ended_alone (executor : BehaviorExecutor Gen Time) (index : Nat) (behavior : BehaviorInstance Gen Time)
    (running : executor.Running) (known : index < executor.instances.length) (done : behavior.done = true) :
    (executor.setInstance index behavior).Alone index := by
  intro other inside same
  by_contra apart
  obtain ⟨one, found, awaits⟩ := running other inside
  have first : (executor.setInstance index behavior).instances[other]? = some one := by
    rw [setInstance, List.getElem?_set_ne (Ne.symm apart), found]
  have second : (executor.setInstance index behavior).instances[index]? = some behavior :=
    List.getElem?_set_self known
  have equal := same_done _ other index one behavior first second same apart
  rw [awaits, done] at equal
  cases equal

end Removal

section Addition

-- Inserted before the first that is not lower, an instance that was added
-- earlier stands before those of its own priority.
theorem insert_ordered (priority : Nat → Int) (index : Nat) (sorted : List Nat)
    (ordered : sorted.Pairwise fun left right => priority left < priority right ∨ priority left = priority right ∧ left < right)
    (earlier : ∀ other ∈ sorted, priority index = priority other → index < other) :
    (sorted.orderedInsert (fun left right => priority left ≤ priority right) index).Pairwise
      fun left right => priority left < priority right ∨ priority left = priority right ∧ left < right := by
  induction sorted with
  | nil => exact List.pairwise_singleton _ _
  | cons first rest ih =>
      obtain ⟨lowest, ordered⟩ := List.pairwise_cons.mp ordered
      rw [List.orderedInsert_cons]
      split
      · rename_i lower
        have beforeFirst : priority index < priority first ∨ priority index = priority first ∧ index < first := by
          rcases lt_or_eq_of_le lower with less | equal
          · exact .inl less
          · exact .inr ⟨equal, earlier first List.mem_cons_self equal⟩
        apply List.pairwise_cons.mpr ⟨_, List.pairwise_cons.mpr ⟨lowest, ordered⟩⟩
        intro other inside
        rcases List.mem_cons.mp inside with rfl | later
        · exact beforeFirst
        · have after := lowest other later
          omega
      · rename_i higher
        have tail := ih ordered fun other inside => earlier other (List.mem_cons_of_mem first inside)
        apply List.pairwise_cons.mpr ⟨_, tail⟩
        intro other inside
        rcases List.mem_cons.mp ((List.perm_orderedInsert _ index rest).mem_iff.mp inside) with rfl | later
        · exact .inl (lt_of_not_ge higher)
        · exact lowest other later

theorem sort_ordered (priority : Nat → Int) (indices : List Nat)
    (added : indices.Pairwise fun left right => priority left = priority right → left < right) :
    (indices.insertionSort fun left right => priority left ≤ priority right).Pairwise
      fun left right => priority left < priority right ∨ priority left = priority right ∧ left < right := by
  induction indices with
  | nil => exact List.Pairwise.nil
  | cons first rest ih =>
      obtain ⟨earlier, added⟩ := List.pairwise_cons.mp added
      apply insert_ordered priority first _ (ih added)
      intro other inside
      exact earlier other ((List.perm_insertionSort _ rest).mem_iff.mp inside)

variable [Zero Time]

-- The executor after the iterator that a behavior function returned was added.
def added (executor : BehaviorExecutor Gen Time) (gen : Gen) (priority : Int) : BehaviorExecutor Gen Time :=
  (executor.add (.iterator gen) priority).1

theorem added_instances (executor : BehaviorExecutor Gen Time) (gen : Gen) (priority : Int) :
    (executor.added gen priority).instances = executor.instances ++ [⟨gen, priority, 0, false⟩] := rfl

theorem added_old (executor : BehaviorExecutor Gen Time) (gen : Gen) (priority : Int) (index : Nat)
    (old : index < executor.instances.length) :
    (executor.added gen priority).instances[index]? = executor.instances[index]? := by
  rw [added_instances, List.getElem?_append_left old]

theorem added_new (executor : BehaviorExecutor Gen Time) (gen : Gen) (priority : Int) :
    (executor.added gen priority).instances[executor.instances.length]? = some ⟨gen, priority, 0, false⟩ := by
  rw [added_instances, List.getElem?_append_right (Nat.le_refl _), Nat.sub_self]
  rfl

theorem mem_added (executor : BehaviorExecutor Gen Time) (gen : Gen) (priority : Int) (index : Nat) :
    index ∈ (executor.added gen priority).behaviors ↔ index ∈ executor.behaviors ∨ index = executor.instances.length := by
  rw [← List.mem_singleton, ← List.mem_append]
  exact (List.perm_insertionSort _ _).mem_iff

theorem added_ordered (executor : BehaviorExecutor Gen Time) (gen : Gen) (priority : Int)
    (ordered : executor.Ordered) (known : ∀ index ∈ executor.behaviors, index < executor.instances.length) :
    (executor.added gen priority).Ordered := by
  apply sort_ordered
  apply List.pairwise_append.mpr ⟨_, List.pairwise_singleton _ _, _⟩
  · apply List.Pairwise.imp_of_mem _ ordered
    intro left right first second before equal
    simp only [BehaviorExecutor.priority, added_old executor gen priority left (known left first),
      added_old executor gen priority right (known right second)] at equal
    rcases before with lower | ⟨_, earlier⟩
    · exact absurd equal (ne_of_lt lower)
    · exact earlier
  · intro left first right second _
    rw [List.mem_singleton.mp second]
    exact known left first

theorem added_running (executor : BehaviorExecutor Gen Time) (gen : Gen) (priority : Int) (running : executor.Running) :
    (executor.added gen priority).Running := by
  intro index inside
  rcases (mem_added executor gen priority index).mp inside with old | rfl
  · rw [added_old executor gen priority index (running_known executor running index old)]
    exact running index old
  · exact ⟨_, added_new executor gen priority, rfl⟩

end Addition

end BehaviorExecutor

namespace BehaviorInstance

variable [Max Time] [Add Time] [Zero Time]

-- The instance after a step that advanced its iterator.
def after (behavior : BehaviorInstance Gen Time) (outcome : Stepped Time) (time : Time) : BehaviorInstance Gen Time :=
  match outcome with
  | .yields (some action) => behavior.handleAction action time
  | .stopIteration => behavior.handleAction (.STOP, 0) time
  | .yields none | .raises _ => behavior

theorem after_priority (behavior : BehaviorInstance Gen Time) (outcome : Stepped Time) (time : Time) :
    (behavior.after outcome time).priority = behavior.priority := by
  unfold after
  split
  · exact handle_action_priority behavior _ time
  · exact handle_action_priority behavior _ time
  · rfl
  · rfl

theorem after_gen (behavior : BehaviorInstance Gen Time) (outcome : Stepped Time) (time : Time) :
    (behavior.after outcome time).gen = behavior.gen := by
  unfold after
  split
  · exact handle_action_gen behavior _ time
  · exact handle_action_gen behavior _ time
  · rfl
  · rfl

theorem after_done (behavior : BehaviorInstance Gen Time) (outcome : Stepped Time) (time : Time)
    (running : behavior.done = false) : (behavior.after outcome time).done = outcome.ends := by
  cases outcome with
  | stopIteration => rfl
  | raises exception => exact running
  | yields action =>
      cases action with
      | none => exact running
      | some action =>
          obtain ⟨kind, argument⟩ := action
          cases kind with
          | STOP => rfl
          | CONTINUE => exact running
          | SLEEP => exact running
          | TICK => exact running

variable [LT Time] [DecidableLT Time]

-- What a step gives that has its turn and does not raise.
inductive Step (behavior : BehaviorInstance Gen Time) (outcome : Stepped Time) (time : Time) : Prop where
  | silent (stepped : behavior.step time outcome = .ok none) (after : behavior.after outcome time = behavior)
    (stays : outcome.ends = false)
  | acts (action : BehaviorActionType × Time) (stepped : behavior.step time outcome = .ok (some action))
    (after : behavior.after outcome time = behavior.handleAction action time)

theorem stepped (behavior : BehaviorInstance Gen Time) (outcome : Stepped Time) (time : Time)
    (awaits : behavior.done = false) (wakes : ¬ time < behavior.sleepUntil) (returns : outcome.isRaise = false) :
    behavior.Step outcome time := by
  cases outcome with
  | raises exception => cases returns
  | stopIteration => exact .acts (.STOP, 0) (by simp [step, awaits, wakes]) rfl
  | yields action =>
      cases action with
      | none => exact .silent (by simp [step, awaits, wakes]) rfl rfl
      | some action => exact .acts action (by simp [step, awaits, wakes]) rfl

end BehaviorInstance

namespace BehaviorExecutor

section Turn

variable [Max Time] [Add Time] [Zero Time]

-- One turn of the loop that advances an iterator.
def turn (time : Time) (next : Nat → Stepped Time) (executor : BehaviorExecutor Gen Time) (index : Nat) :
    BehaviorExecutor Gen Time :=
  match executor.instances[index]? with
  | none => executor
  | some behavior =>
      ⟨executor.instances.set index (behavior.after (next index) time),
        if (next index).ends then executor.behaviors.erase index else executor.behaviors⟩

theorem turn_instances (executor : BehaviorExecutor Gen Time) (time : Time) (next : Nat → Stepped Time) (index : Nat)
    (behavior : BehaviorInstance Gen Time) (found : executor.instances[index]? = some behavior) :
    (turn time next executor index).instances = executor.instances.set index (behavior.after (next index) time) := by
  simp [turn, found]

theorem turn_behaviors (executor : BehaviorExecutor Gen Time) (time : Time) (next : Nat → Stepped Time) (index : Nat)
    (behavior : BehaviorInstance Gen Time) (found : executor.instances[index]? = some behavior) :
    (turn time next executor index).behaviors =
      if (next index).ends then executor.behaviors.erase index else executor.behaviors := by
  simp [turn, found]

theorem turn_others (executor : BehaviorExecutor Gen Time) (time : Time) (next : Nat → Stepped Time)
    (index other : Nat) (apart : index ≠ other) :
    (turn time next executor index).instances[other]? = executor.instances[other]? := by
  cases found : executor.instances[index]? with
  | none => simp [turn, found]
  | some behavior =>
      rw [turn_instances executor time next index behavior found, List.getElem?_set_ne apart]

-- A turn keeps every reading of an instance that its own step keeps.
theorem turn_reading {Reading : Type} (read : BehaviorInstance Gen Time → Reading)
    (kept : ∀ behavior outcome time, read (behavior.after outcome time) = read behavior)
    (executor : BehaviorExecutor Gen Time) (time : Time) (next : Nat → Stepped Time) (index other : Nat) :
    ((turn time next executor index).instances[other]?).map read = (executor.instances[other]?).map read := by
  by_cases apart : index = other
  · subst apart
    cases found : executor.instances[index]? with
    | none => simp [turn, found]
    | some behavior =>
        have known := (List.getElem?_eq_some_iff.mp found).1
        rw [turn_instances executor time next index behavior found, List.getElem?_set_self known, Option.map_some,
          Option.map_some, kept]
  · rw [turn_others executor time next index other apart]

theorem turn_priority (executor : BehaviorExecutor Gen Time) (time : Time) (next : Nat → Stepped Time)
    (index other : Nat) : (turn time next executor index).priority other = executor.priority other := by
  rw [priority, turn_reading BehaviorInstance.priority BehaviorInstance.after_priority, ← priority]

theorem turn_gen (executor : BehaviorExecutor Gen Time) (time : Time) (next : Nat → Stepped Time) (index other : Nat) :
    ((turn time next executor index).instances[other]?).map BehaviorInstance.gen =
      (executor.instances[other]?).map BehaviorInstance.gen :=
  turn_reading BehaviorInstance.gen BehaviorInstance.after_gen executor time next index other

theorem turn_ordered (executor : BehaviorExecutor Gen Time) (time : Time) (next : Nat → Stepped Time) (index : Nat)
    (ordered : executor.Ordered) : (turn time next executor index).Ordered := by
  have kept : executor.behaviors.Pairwise (turn time next executor index).Before := by
    apply List.Pairwise.imp _ ordered
    intro left right before
    simpa only [Before, turn_priority] using before
  cases found : executor.instances[index]? with
  | none => simpa [turn, found, Ordered] using ordered
  | some behavior =>
      rw [Ordered, turn_behaviors executor time next index behavior found]
      split
      · exact kept.sublist List.erase_sublist
      · exact kept

-- What else is scheduled stays; the one that had its turn stays unless it ended.
theorem mem_turn (executor : BehaviorExecutor Gen Time) (time : Time) (next : Nat → Stepped Time)
    (index other : Nat) (ordered : executor.Ordered) (behavior : BehaviorInstance Gen Time)
    (found : executor.instances[index]? = some behavior) :
    other ∈ (turn time next executor index).behaviors ↔
      other ∈ executor.behaviors ∧ ¬ (other = index ∧ (next index).ends = true) := by
  rw [turn_behaviors executor time next index behavior found]
  split
  · rename_i ends
    rw [(ordered_nodup executor ordered).mem_erase_iff]
    simp [ends, and_comm]
  · rename_i stays
    simp [stays]

theorem turn_running (executor : BehaviorExecutor Gen Time) (time : Time) (next : Nat → Stepped Time) (index : Nat)
    (ordered : executor.Ordered) (running : executor.Running) (scheduled : index ∈ executor.behaviors) :
    (turn time next executor index).Running := by
  obtain ⟨behavior, found, awaits⟩ := running index scheduled
  intro other inside
  obtain ⟨stayed, unended⟩ := (mem_turn executor time next index other ordered behavior found).mp inside
  by_cases apart : index = other
  · subst apart
    have known := (List.getElem?_eq_some_iff.mp found).1
    refine ⟨behavior.after (next index) time, ?_, ?_⟩
    · rw [turn_instances executor time next index behavior found, List.getElem?_set_self known]
    · rw [BehaviorInstance.after_done behavior (next index) time awaits]
      simpa using unended
  · rw [turn_others executor time next index other apart]
    exact running other stayed

-- What tick does with an action is the instance's turn.
theorem turn_stays (executor : BehaviorExecutor Gen Time) (time : Time) (next : Nat → Stepped Time) (index : Nat)
    (behavior changed : BehaviorInstance Gen Time) (found : executor.instances[index]? = some behavior)
    (after : behavior.after (next index) time = changed) (stays : (next index).ends = false) :
    executor.setInstance index changed = turn time next executor index := by
  simp [turn, found, stays, after, setInstance]

theorem turn_unchanged (executor : BehaviorExecutor Gen Time) (time : Time) (next : Nat → Stepped Time) (index : Nat)
    (behavior : BehaviorInstance Gen Time) (found : executor.instances[index]? = some behavior)
    (after : behavior.after (next index) time = behavior) (stays : (next index).ends = false) :
    turn time next executor index = executor := by
  obtain ⟨known, rfl⟩ := List.getElem?_eq_some_iff.mp found
  rw [← turn_stays executor time next index _ _ found after stays, setInstance, List.set_getElem_self]

variable [BEq Gen] [BEq Time]

theorem turn_ends (executor : BehaviorExecutor Gen Time) (time : Time) (next : Nat → Stepped Time) (index : Nat)
    (behavior changed : BehaviorInstance Gen Time) (found : executor.instances[index]? = some behavior)
    (running : executor.Running) (after : behavior.after (next index) time = changed) (done : changed.done = true)
    (ends : (next index).ends = true) :
    ((executor.setInstance index changed).scheduled index = true ↔ index ∈ executor.behaviors) ∧
      (executor.setInstance index changed).remove index = turn time next executor index := by
  have alone := ended_alone executor index changed running (List.getElem?_eq_some_iff.mp found).1 done
  refine ⟨scheduled_alone _ index alone, ?_⟩
  have erased := remove_alone _ index alone
  simp only [turn, found, ends, if_true, after]
  rw [BehaviorExecutor.mk.injEq]
  exact ⟨rfl, erased⟩

end Turn

section Loop

variable [BEq Gen] [BEq Time] [LT Time] [DecidableLT Time] [Max Time] [Add Time] [Zero Time]

def awake (executor : BehaviorExecutor Gen Time) (time : Time) (index : Nat) : Bool :=
  (executor.instances[index]?).any fun behavior => !decide (time < behavior.sleepUntil)

theorem loop_asleep (executor : BehaviorExecutor Gen Time) (time : Time) (next : Nat → Stepped Time) (index : Nat)
    (rest : List Nat) (asleep : executor.awake time index = false) :
    tickLoop time next (index :: rest) executor = tickLoop time next rest executor ∧
      advanced time next (index :: rest) executor = advanced time next rest executor := by
  rw [tickLoop, advanced]
  cases found : executor.instances[index]? with
  | none => exact ⟨rfl, rfl⟩
  | some behavior =>
      have sleeps : time < behavior.sleepUntil := by simpa [awake, found] using asleep
      simp [BehaviorInstance.step, sleeps]

theorem loop_raises (executor : BehaviorExecutor Gen Time) (time : Time) (next : Nat → Stepped Time) (index : Nat)
    (rest : List Nat) (behavior : BehaviorInstance Gen Time) (found : executor.instances[index]? = some behavior)
    (running : behavior.done = false) (wakes : ¬ time < behavior.sleepUntil) (raises : (next index).isRaise = true) :
    (∃ raised, tickLoop time next (index :: rest) executor = (executor, .error raised)) ∧
      advanced time next (index :: rest) executor = [index] := by
  cases outcome : next index with
  | yields action => rw [outcome] at raises; cases raises
  | stopIteration => rw [outcome] at raises; cases raises
  | raises exception =>
      rw [tickLoop, advanced]
      simp [found, BehaviorInstance.step, running, wakes, outcome]

theorem loop_turns (executor : BehaviorExecutor Gen Time) (time : Time) (next : Nat → Stepped Time) (index : Nat)
    (rest : List Nat) (behavior : BehaviorInstance Gen Time) (found : executor.instances[index]? = some behavior)
    (running : executor.Running) (scheduled : index ∈ executor.behaviors) (awaits : behavior.done = false)
    (wakes : ¬ time < behavior.sleepUntil) (returns : (next index).isRaise = false) :
    tickLoop time next (index :: rest) executor = tickLoop time next rest (turn time next executor index) ∧
      advanced time next (index :: rest) executor =
        index :: advanced time next rest (turn time next executor index) := by
  have enters : ¬ (behavior.done = true ∨ time < behavior.sleepUntil) := by simp [awaits, wakes]
  rw [tickLoop, advanced]
  cases behavior.stepped (next index) time awaits wakes returns with
  | silent stepped after stays =>
      simp only [found, stepped, if_neg enters, turn_unchanged executor time next index behavior found after stays,
        and_self]
  | acts action stepped after =>
      have done := behavior.after_done (next index) time awaits
      rw [after] at done
      cases ends : (next index).ends with
      | false =>
          rw [ends] at done
          simp [found, stepped, enters, done, turn_stays executor time next index behavior _ found after ends]
      | true =>
          rw [ends] at done
          obtain ⟨inside, removed⟩ := turn_ends executor time next index behavior _ found running after done ends
          simp [found, stepped, enters, done, inside.mpr scheduled, removed]

-- A tick is the turns of those that are awake, up to the first that raises.
theorem loop_folds (time : Time) (next : Nat → Stepped Time) (rest : List Nat) (executor : BehaviorExecutor Gen Time)
    (ordered : executor.Ordered) (running : executor.Running) (distinct : rest.Nodup)
    (scheduled : ∀ index ∈ rest, index ∈ executor.behaviors) :
    advanced time next rest executor = Stepped.untilRaise next (rest.filter (executor.awake time)) ∧
      (tickLoop time next rest executor).1 =
        (Stepped.untilRaise next (rest.filter (executor.awake time))).foldl (turn time next) executor ∧
      ((tickLoop time next rest executor).2 = .ok () ↔
        ∀ index ∈ rest.filter (executor.awake time), (next index).isRaise = false) := by
  induction rest generalizing executor with
  | nil => exact ⟨rfl, rfl, iff_of_true rfl fun _ inside => absurd inside List.not_mem_nil⟩
  | cons index rest ih =>
      obtain ⟨fresh, distinct⟩ := List.nodup_cons.mp distinct
      have later : ∀ other ∈ rest, other ∈ executor.behaviors :=
        fun other inside => scheduled other (List.mem_cons_of_mem index inside)
      cases wakes : executor.awake time index with
      | false =>
          obtain ⟨skipped, silent⟩ := loop_asleep executor time next index rest wakes
          rw [skipped, silent, List.filter_cons_of_neg (by simp [wakes])]
          exact ih executor ordered running distinct later
      | true =>
          rw [List.filter_cons_of_pos wakes]
          obtain ⟨behavior, found, awaits⟩ := running index (scheduled index List.mem_cons_self)
          have due : ¬ time < behavior.sleepUntil := by simpa [awake, found] using wakes
          cases raises : (next index).isRaise with
          | true =>
              obtain ⟨⟨raised, aborted⟩, called⟩ :=
                loop_raises executor time next index rest behavior found awaits due raises
              have unchanged : turn time next executor index = executor := by
                cases outcome : next index with
                | yields action => rw [outcome] at raises; cases raises
                | stopIteration => rw [outcome] at raises; cases raises
                | raises exception =>
                    rw [List.getElem?_eq_some_iff] at found
                    obtain ⟨known, rfl⟩ := found
                    simp [turn, known, outcome, BehaviorInstance.after, Stepped.ends]
              rw [aborted, called]
              simp [Stepped.untilRaise, raises, unchanged]
          | false =>
              obtain ⟨moved, called⟩ := loop_turns executor time next index rest behavior found running
                (scheduled index List.mem_cons_self) awaits due raises
              have others : ∀ other ∈ rest, index ≠ other := fun other inside same => fresh (same ▸ inside)
              have same : rest.filter ((turn time next executor index).awake time) =
                  rest.filter (executor.awake time) := by
                apply List.filter_congr
                intro other inside
                simp only [awake, turn_others executor time next index other (others other inside)]
              have kept : ∀ other ∈ rest, other ∈ (turn time next executor index).behaviors := by
                intro other inside
                rw [mem_turn executor time next index other ordered behavior found]
                exact ⟨later other inside, fun ended => others other inside ended.1.symm⟩
              obtain ⟨listed, folded, returned⟩ := ih (turn time next executor index)
                (turn_ordered executor time next index ordered)
                (turn_running executor time next index ordered running (scheduled index List.mem_cons_self))
                distinct kept
              rw [same] at listed folded returned
              rw [moved, called, listed, folded, returned]
              simp [Stepped.untilRaise, raises]

end Loop

end BehaviorExecutor

end Animacharacter.Behaviors
