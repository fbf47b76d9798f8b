import Mathlib.Algebra.Ring.Int.Defs
import Animacharacter.Library.StepSystem
import Animacharacter.Behaviors.Turns

set_option autoImplicit false

namespace Animacharacter.Behaviors

open StepSystem

variable {Gen Time : Type}

-- What happens to an instance: `outcome` is what next(gen) gave when a tick
-- advanced it.
inductive ExecutorEvent (Time : Type) where
  | added (index : Nat)
  | removed (index : Nat)
  | advanced (index : Nat) (time : Time) (outcome : Stepped Time)

inductive ExecutorAction (Gen Time : Type) where
  | add (started : Started Gen) (priority : Int)
  | remove (index : Nat)
  | tick (time : Time) (next : Nat → Stepped Time)

namespace ExecutorEvent

def index : ExecutorEvent Time → Nat
  | .added index | .removed index | .advanced index _ _ => index

def adds : ExecutorEvent Time → Bool
  | .added _ => true
  | _ => false

def stops : ExecutorEvent Time → Bool
  | .added _ => false
  | .removed _ => true
  | .advanced _ _ outcome => outcome.ends

-- Added, and neither taken off nor at its end.
def Live (events : List (ExecutorEvent Time)) (index : Nat) : Prop :=
  (∃ event ∈ events, event.index = index ∧ event.adds = true) ∧
    ∀ event ∈ events, event.index = index → event.stops = false

instance (events : List (ExecutorEvent Time)) (index : Nat) : Decidable (Live events index) :=
  inferInstanceAs (Decidable ((∃ event ∈ events, _ ∧ _) ∧ ∀ event ∈ events, _ → _))

-- When the last sleep it asked for is over; an instance starts with sleep_until 0.
def wakeTime [Max Time] [Add Time] [Zero Time] (index : Nat) : List (ExecutorEvent Time) → Time
  | [] => 0
  | .advanced other time (.yields (some (.SLEEP, seconds))) :: earlier =>
      if other = index then max 0 time + seconds else wakeTime index earlier
  | _ :: earlier => wakeTime index earlier

-- The lists are latest first. What slept is not advanced before its time.
def SleepsKept [LE Time] [Add Time] [Zero Time] (events : List (ExecutorEvent Time)) : Prop :=
  events.Pairwise fun later earlier => ∀ (index : Nat) (time seconds : Time),
    earlier = .advanced index time (.yields (some (.SLEEP, seconds))) → 0 ≤ time →
      ∀ (again : Time) (outcome : Stepped Time), later = .advanced index again outcome → time + seconds ≤ again

-- What was taken off or came to its end is not advanced any more.
def NeverAgain (events : List (ExecutorEvent Time)) : Prop :=
  events.Pairwise fun later earlier => earlier.stops = true →
    ∀ (again : Time) (outcome : Stepped Time), later ≠ .advanced earlier.index again outcome

end ExecutorEvent

-- An executor with what was done to its instances, the latest first, and the
-- time of the last tick.
structure Scheduling (Gen Time : Type) where
  executor : BehaviorExecutor Gen Time
  events : List (ExecutorEvent Time)
  clock : Option Time

namespace Scheduling

variable [BEq Gen] [BEq Time] [LT Time] [DecidableLT Time] [Max Time] [Add Time] [Zero Time]

-- The instance that is removed is one that add returned before.
def step (run : Scheduling Gen Time) : ExecutorAction Gen Time → Option (Scheduling Gen Time)
  | .add started priority =>
      match run.executor.add started priority with
      | (executor, .ok index) => some { run with executor := executor, events := .added index :: run.events }
      | (executor, .error _) => some { run with executor := executor }
  | .remove index =>
      if index < run.executor.instances.length then
        some { run with executor := run.executor.remove index, events := .removed index :: run.events }
      else none
  | .tick time next =>
      let advanced := BehaviorExecutor.advanced time next run.executor.behaviors run.executor
      some {
        executor := (run.executor.tick time next).1
        events := (advanced.map fun index => ExecutorEvent.advanced index time (next index)).reverse ++ run.events
        clock := some time }

def scheduler : System (Scheduling Gen Time) (ExecutorAction Gen Time) where
  start run := run = ⟨⟨[], []⟩, [], none⟩
  step := step

end Scheduling

namespace ExecutorEvent

theorem live_cons (events : List (ExecutorEvent Time)) (event : ExecutorEvent Time) (index : Nat)
    (apart : event.index ≠ index) : Live (event :: events) index ↔ Live events index := by
  simp only [Live, List.exists_mem_cons_iff, List.forall_mem_cons, apart, false_and, false_or, false_implies, true_and]

theorem live_added (events : List (ExecutorEvent Time)) (index : Nat)
    (fresh : ∀ event ∈ events, event.index ≠ index) : Live (.added index :: events) index := by
  refine ⟨⟨.added index, List.mem_cons_self, rfl, rfl⟩, ?_⟩
  intro event inside same
  rcases List.mem_cons.mp inside with rfl | before
  · rfl
  · exact absurd same (fresh event before)

theorem live_removed (events : List (ExecutorEvent Time)) (index : Nat) : ¬ Live (.removed index :: events) index := by
  intro live
  have kept := live.2 (.removed index) List.mem_cons_self rfl
  cases kept

theorem live_advanced (events : List (ExecutorEvent Time)) (index : Nat) (time : Time) (outcome : Stepped Time) :
    Live (.advanced index time outcome :: events) index ↔ Live events index ∧ outcome.ends = false := by
  apply Iff.intro
  · rintro ⟨⟨event, inside, same, adds⟩, kept⟩
    refine ⟨⟨?_, fun other before => kept other (List.mem_cons_of_mem _ before)⟩, kept _ List.mem_cons_self rfl⟩
    rcases List.mem_cons.mp inside with rfl | before
    · cases adds
    · exact ⟨event, before, same, adds⟩
  · rintro ⟨⟨⟨event, inside, same, adds⟩, kept⟩, stays⟩
    refine ⟨⟨event, List.mem_cons_of_mem _ inside, same, adds⟩, ?_⟩
    intro other member
    rcases List.mem_cons.mp member with rfl | before
    · exact fun _ => stays
    · exact kept other before

variable [Max Time] [Add Time] [Zero Time]

theorem wake_time_cons (events : List (ExecutorEvent Time)) (event : ExecutorEvent Time) (index : Nat)
    (apart : event.index ≠ index) : wakeTime index (event :: events) = wakeTime index events := by
  cases event with
  | added other => rfl
  | removed other => rfl
  | advanced other time outcome =>
      cases outcome with
      | stopIteration => rfl
      | raises exception => rfl
      | yields action =>
          cases action with
          | none => rfl
          | some action =>
              obtain ⟨kind, argument⟩ := action
              cases kind with
              | SLEEP => exact if_neg apart
              | STOP => rfl
              | CONTINUE => rfl
              | TICK => rfl

theorem wake_time_fresh (events : List (ExecutorEvent Time)) (index : Nat)
    (fresh : ∀ event ∈ events, event.index ≠ index) : wakeTime index events = 0 := by
  induction events with
  | nil => rfl
  | cons event earlier ih =>
      rw [wake_time_cons earlier event index (fresh event List.mem_cons_self)]
      exact ih fun other inside => fresh other (List.mem_cons_of_mem event inside)

theorem wake_time_advanced (events : List (ExecutorEvent Time)) (index : Nat) (time : Time) (outcome : Stepped Time)
    (behavior : BehaviorInstance Gen Time) (slept : behavior.sleepUntil = wakeTime index events) :
    (behavior.after outcome time).sleepUntil = wakeTime index (.advanced index time outcome :: events) := by
  cases outcome with
  | stopIteration => exact slept
  | raises exception => exact slept
  | yields action =>
      cases action with
      | none => exact slept
      | some action =>
          obtain ⟨kind, argument⟩ := action
          cases kind with
          | STOP => exact slept
          | CONTINUE => exact slept
          | TICK => exact slept
          | SLEEP => simp [BehaviorInstance.after, BehaviorInstance.handleAction, wakeTime]

end ExecutorEvent

namespace Scheduling

open ExecutorEvent BehaviorExecutor

theorem until_raise_sublist (next : Nat → Stepped Time) (indices : List Nat) :
    (Stepped.untilRaise next indices).Sublist indices := by
  induction indices with
  | nil => exact List.Sublist.refl []
  | cons index rest ih =>
      rw [Stepped.untilRaise]
      apply List.Sublist.cons_cons
      split
      · exact List.nil_sublist rest
      · exact ih

section Runs

variable [LinearOrder Time] [Add Time] [Zero Time]

structure Consistent (run : Scheduling Gen Time) : Prop where
  ordered : run.executor.Ordered
  running : run.executor.Running
  known : ∀ event ∈ run.events, event.index < run.executor.instances.length
  live : ∀ index, index ∈ run.executor.behaviors ↔ Live run.events index
  sleeping : ∀ index ∈ run.executor.behaviors, ∀ behavior, run.executor.instances[index]? = some behavior →
    behavior.sleepUntil = wakeTime index run.events
  slept : ∀ (index : Nat) (time seconds : Time),
    .advanced index time (.yields (some (.SLEEP, seconds))) ∈ run.events → 0 ≤ time →
      time + seconds ≤ wakeTime index run.events ∨ ∃ now, run.clock = some now ∧ time + seconds ≤ now
  sleepers : SleepsKept run.events
  stopped : NeverAgain run.events

-- The events of a tick come one by one.
def advance (time : Time) (next : Nat → Stepped Time) (run : Scheduling Gen Time) (index : Nat) : Scheduling Gen Time :=
  ⟨turn time next run.executor index, .advanced index time (next index) :: run.events, run.clock⟩

theorem advance_consistent (run : Scheduling Gen Time) (time : Time) (next : Nat → Stepped Time) (index : Nat)
    (consistent : run.Consistent) (scheduled : index ∈ run.executor.behaviors) (now : run.clock = some time)
    (wakes : wakeTime index run.events ≤ time) : (run.advance time next index).Consistent := by
  obtain ⟨behavior, found, awaits⟩ := consistent.running index scheduled
  have known := (List.getElem?_eq_some_iff.mp found).1
  have live := (consistent.live index).mp scheduled
  have instances := turn_instances run.executor time next index behavior found
  apply Consistent.mk
  · exact turn_ordered run.executor time next index consistent.ordered
  · exact turn_running run.executor time next index consistent.ordered consistent.running scheduled
  · intro event inside
    rw [advance, instances, List.length_set]
    rcases List.mem_cons.mp inside with rfl | before
    · exact known
    · exact consistent.known event before
  · intro other
    rw [advance, mem_turn run.executor time next index other consistent.ordered behavior found, consistent.live other]
    by_cases apart : index = other
    · subst apart
      rw [live_advanced]
      simp
    · rw [live_cons run.events (.advanced index time (next index)) other apart]
      simp [Ne.symm apart]
  · intro other inside changed seen
    by_cases apart : index = other
    · subst apart
      rw [advance, instances, List.getElem?_set_self known] at seen
      cases seen
      exact wake_time_advanced run.events index time (next index) behavior (consistent.sleeping index scheduled _ found)
    · rw [advance, turn_others run.executor time next index other apart] at seen
      rw [advance, wake_time_cons run.events (.advanced index time (next index)) other apart]
      have stayed := ((mem_turn run.executor time next index other consistent.ordered behavior found).mp inside).1
      exact consistent.sleeping other stayed changed seen
  · intro other again seconds inside positive
    rcases List.mem_cons.mp inside with same | before
    · injection same with sameIndex sameTime sameOutcome
      subst sameIndex sameTime
      left
      rw [advance, ← sameOutcome, wakeTime, if_pos rfl, max_eq_right positive]
    · rcases consistent.slept other again seconds before positive with wake | ⟨earlier, passed, late⟩
      · by_cases apart : index = other
        · subst apart
          exact .inr ⟨time, now, le_trans wake wakes⟩
        · rw [advance, wake_time_cons run.events (.advanced index time (next index)) other apart]
          exact .inl wake
      · exact .inr ⟨earlier, passed, late⟩
  · apply List.pairwise_cons.mpr ⟨_, consistent.sleepers⟩
    intro event inside other again seconds same positive later outcome called
    cases called
    subst same
    rcases consistent.slept index again seconds inside positive with wake | ⟨earlier, passed, late⟩
    · exact le_trans wake wakes
    · rw [now] at passed
      cases passed
      exact late
  · apply List.pairwise_cons.mpr ⟨_, consistent.stopped⟩
    intro event inside stops again outcome called
    injection called with same
    rw [live.2 event inside same.symm] at stops
    cases stops

theorem turns_consistent (time : Time) (next : Nat → Stepped Time) (indices : List Nat) (run : Scheduling Gen Time)
    (consistent : run.Consistent) (now : run.clock = some time) (distinct : indices.Nodup)
    (scheduled : ∀ index ∈ indices, index ∈ run.executor.behaviors ∧ wakeTime index run.events ≤ time) :
    Consistent ⟨indices.foldl (turn time next) run.executor,
      (indices.map fun index => ExecutorEvent.advanced index time (next index)).reverse ++ run.events, run.clock⟩ := by
  induction indices generalizing run with
  | nil => exact consistent
  | cons index rest ih =>
      obtain ⟨fresh, distinct⟩ := List.nodup_cons.mp distinct
      obtain ⟨inside, wakes⟩ := scheduled index List.mem_cons_self
      have moved := advance_consistent run time next index consistent inside now wakes
      have others : ∀ other ∈ rest, other ∈ (run.advance time next index).executor.behaviors ∧
          wakeTime other (run.advance time next index).events ≤ time := by
        intro other member
        have apart : index ≠ other := fun same => fresh (same ▸ member)
        obtain ⟨behavior, found, _⟩ := consistent.running index inside
        obtain ⟨stays, due⟩ := scheduled other (List.mem_cons_of_mem index member)
        rw [advance, mem_turn run.executor time next index other consistent.ordered behavior found,
          wake_time_cons run.events (.advanced index time (next index)) other apart]
        exact ⟨⟨stays, fun ended => apart ended.1.symm⟩, due⟩
      have whole := ih (run.advance time next index) moved now distinct others
      simpa [advance] using whole

-- Awake is what the events say.
theorem awake_due (run : Scheduling Gen Time) (consistent : run.Consistent) (time : Time) :
    run.executor.behaviors.filter (run.executor.awake time) =
      run.executor.behaviors.filter fun index => wakeTime index run.events ≤ time := by
  apply List.filter_congr
  intro index inside
  obtain ⟨behavior, found, _⟩ := consistent.running index inside
  have wake := consistent.sleeping index inside behavior found
  simp only [awake, found, wake, Option.any_some]
  rw [← decide_not, decide_eq_decide, not_lt]

variable [BEq Gen]

-- Ticks do not go back in time.
def Forward (run : Scheduling Gen Time) : ExecutorAction Gen Time → Prop
  | .add _ _ | .remove _ => True
  | .tick time _ => ∀ now ∈ run.clock, now ≤ time

-- An instance is removed while no other scheduled one compares equal to it.
def Orderly (run : Scheduling Gen Time) : ExecutorAction Gen Time → Prop
  | .add _ _ => True
  | .remove index => run.executor.Alone index
  | .tick time _ => ∀ now ∈ run.clock, now ≤ time

theorem tick_consistent (run next : Scheduling Gen Time) (time : Time) (steps : Nat → Stepped Time)
    (consistent : run.Consistent) (forward : run.Orderly (.tick time steps))
    (moved : run.step (.tick time steps) = some next) : next.Consistent := by
  obtain ⟨listed, folded, _⟩ := loop_folds time steps run.executor.behaviors run.executor consistent.ordered
    consistent.running (ordered_nodup run.executor consistent.ordered) (fun _ inside => inside)
  simp only [step, Option.some.injEq] at moved
  subst moved
  rw [tick, folded, listed, awake_due run consistent time]
  have slept : ∀ (index : Nat) (again seconds : Time),
      .advanced index again (.yields (some (.SLEEP, seconds))) ∈ run.events → 0 ≤ again →
        again + seconds ≤ wakeTime index run.events ∨ ∃ now, some time = some now ∧ again + seconds ≤ now := by
    intro index again seconds inside positive
    rcases consistent.slept index again seconds inside positive with wake | ⟨now, passed, late⟩
    · exact .inl wake
    · exact .inr ⟨time, rfl, le_trans late (forward now passed)⟩
  have later : Consistent ⟨run.executor, run.events, some time⟩ :=
    ⟨consistent.ordered, consistent.running, consistent.known, consistent.live, consistent.sleeping, slept,
      consistent.sleepers, consistent.stopped⟩
  have part := until_raise_sublist steps
    (run.executor.behaviors.filter fun index => wakeTime index run.events ≤ time)
  apply turns_consistent time steps _ _ later rfl
  · exact ((ordered_nodup run.executor consistent.ordered).filter _).sublist part
  · intro index inside
    simpa using List.mem_filter.mp (part.subset inside)

theorem remove_consistent (run next : Scheduling Gen Time) (index : Nat) (consistent : run.Consistent)
    (alone : run.executor.Alone index) (moved : run.step (.remove index) = some next) : next.Consistent := by
  simp only [step] at moved
  split at moved
  · rename_i made
    cases moved
    have erased := remove_alone run.executor index alone
    have member : ∀ other, other ∈ (run.executor.remove index).behaviors ↔ other ∈ run.executor.behaviors ∧ other ≠ index := by
      intro other
      rw [erased, (ordered_nodup run.executor consistent.ordered).mem_erase_iff, and_comm]
    apply Consistent.mk
    · exact List.Pairwise.sublist (erased ▸ List.erase_sublist) consistent.ordered
    · intro other inside
      exact consistent.running other ((member other).mp inside).1
    · intro event inside
      rcases List.mem_cons.mp inside with rfl | before
      · exact made
      · exact consistent.known event before
    · intro other
      rw [member, consistent.live other]
      by_cases apart : index = other
      · subst apart
        exact iff_of_false (fun stays => stays.2 rfl) (live_removed run.events index)
      · rw [live_cons run.events (.removed index) other apart]
        simp [Ne.symm apart]
    · intro other inside behavior found
      obtain ⟨stays, apart⟩ := (member other).mp inside
      rw [wake_time_cons run.events (.removed index) other (Ne.symm apart)]
      exact consistent.sleeping other stays behavior found
    · intro other time seconds inside positive
      exact consistent.slept other time seconds ((List.mem_cons.mp inside).resolve_left (by simp)) positive
    · apply List.pairwise_cons.mpr ⟨_, consistent.sleepers⟩
      intro event inside other time seconds same positive again outcome called
      cases called
    · apply List.pairwise_cons.mpr ⟨_, consistent.stopped⟩
      intro event inside stops again outcome called
      cases called
  · cases moved

theorem add_consistent (run next : Scheduling Gen Time) (started : Started Gen) (priority : Int)
    (consistent : run.Consistent) (moved : run.step (.add started priority) = some next) : next.Consistent := by
  cases started with
  | raises exception =>
      cases moved
      exact consistent
  | other =>
      cases moved
      exact consistent
  | iterator gen =>
      have result : next = ⟨run.executor.added gen priority, .added run.executor.instances.length :: run.events,
          run.clock⟩ := (Option.some.inj moved).symm
      subst result
      have known := running_known run.executor consistent.running
      have fresh : ∀ event ∈ run.events, event.index ≠ run.executor.instances.length :=
        fun event inside => ne_of_lt (consistent.known event inside)
      have apart : ∀ index ∈ run.executor.behaviors, run.executor.instances.length ≠ index :=
        fun index inside => ne_of_gt (known index inside)
      apply Consistent.mk
      · exact added_ordered run.executor gen priority consistent.ordered known
      · exact added_running run.executor gen priority consistent.running
      · intro event inside
        rw [added_instances, List.length_append, List.length_singleton]
        rcases List.mem_cons.mp inside with rfl | before
        · exact Nat.lt_succ_self _
        · exact Nat.lt_succ_of_lt (consistent.known event before)
      · intro index
        rw [mem_added, consistent.live index]
        by_cases same : run.executor.instances.length = index
        · subst same
          exact iff_of_true (.inr rfl) (live_added run.events _ fresh)
        · rw [live_cons run.events (.added run.executor.instances.length) index same]
          simp [Ne.symm same]
      · intro index inside behavior found
        rcases (mem_added run.executor gen priority index).mp inside with old | rfl
        · rw [added_old run.executor gen priority index (known index old)] at found
          rw [wake_time_cons run.events (.added _) index (apart index old)]
          exact consistent.sleeping index old behavior found
        · rw [added_new run.executor gen priority] at found
          cases found
          exact (wake_time_fresh run.events _ fresh).symm
      · intro index time seconds inside positive
        have before := (List.mem_cons.mp inside).resolve_left (by simp)
        rw [wake_time_cons run.events (.added _) index (Ne.symm (fresh _ before))]
        exact consistent.slept index time seconds before positive
      · apply List.pairwise_cons.mpr ⟨_, consistent.sleepers⟩
        intro event inside index time seconds same positive again outcome called
        cases called
      · apply List.pairwise_cons.mpr ⟨_, consistent.stopped⟩
        intro event inside stops again outcome called
        cases called

theorem step_consistent (run next : Scheduling Gen Time) (action : ExecutorAction Gen Time)
    (consistent : run.Consistent) (orderly : run.Orderly action) (moved : run.step action = some next) :
    next.Consistent := by
  cases action with
  | add started priority => exact add_consistent run next started priority consistent moved
  | remove index => exact remove_consistent run next index consistent orderly moved
  | tick time steps => exact tick_consistent run next time steps consistent orderly moved

theorem reached_consistent (run : Scheduling Gen Time) (reached : Reached scheduler Orderly run) : run.Consistent := by
  apply reached_invariant scheduler Orderly Consistent _ _ run reached
  · rintro initial rfl
    apply Consistent.mk
    · exact List.Pairwise.nil
    · intro index inside
      cases inside
    · intro event inside
      cases inside
    · intro index
      apply iff_of_false List.not_mem_nil
      rintro ⟨⟨event, inside, _⟩, _⟩
      cases inside
    · intro index inside
      cases inside
    · intro index time seconds inside
      cases inside
    · exact List.Pairwise.nil
    · exact List.Pairwise.nil
  · intro source action target consistent orderly moved
    exact step_consistent source target action consistent orderly moved

-- A tick whose iterators do not raise advances all that are live and awake.
theorem scheduling_order_and_sleep (run : Scheduling Gen Time) (reached : Reached scheduler Orderly run) :
    run.executor.Ordered ∧ SleepsKept run.events ∧ NeverAgain run.events ∧
      (∀ index, index ∈ run.executor.behaviors ↔ Live run.events index) ∧
      ∀ (time : Time) (next : Nat → Stepped Time),
        advanced time next run.executor.behaviors run.executor =
            Stepped.untilRaise next (run.executor.behaviors.filter fun index => wakeTime index run.events ≤ time) ∧
          ((run.executor.tick time next).2 = .ok () ↔
            ∀ index, Live run.events index → wakeTime index run.events ≤ time → (next index).isRaise = false) := by
  have consistent := reached_consistent run reached
  refine ⟨consistent.ordered, consistent.sleepers, consistent.stopped, consistent.live, ?_⟩
  intro time next
  obtain ⟨listed, _, returned⟩ := loop_folds time next run.executor.behaviors run.executor consistent.ordered
    consistent.running (ordered_nodup run.executor consistent.ordered) (fun _ inside => inside)
  rw [awake_due run consistent time] at listed returned
  refine ⟨listed, returned.trans ?_⟩
  apply forall_congr'
  intro index
  rw [List.mem_filter, decide_eq_true_eq, consistent.live index, and_imp]

end Runs

instance (run : Scheduling Nat Int) : (action : ExecutorAction Nat Int) → Decidable (run.Forward action)
  | .add _ _ | .remove _ => inferInstanceAs (Decidable True)
  | .tick _ _ => inferInstanceAs (Decidable (∀ now ∈ run.clock, _))

instance (run : Scheduling Nat Int) : (action : ExecutorAction Nat Int) → Decidable (run.Orderly action)
  | .add _ _ => inferInstanceAs (Decidable True)
  | .remove index => inferInstanceAs (Decidable (run.executor.Alone index))
  | .tick _ _ => inferInstanceAs (Decidable (∀ now ∈ run.clock, _))

-- One sleeps, one ends and one is taken off.
def shift : List (ExecutorAction Nat Int) :=
  [.add (.iterator 7) 1, .add (.iterator 8) 0, .add (.iterator 9) 1,
    .tick 5 fun index => if index = 0 then .yields (some (.SLEEP, 3)) else if index = 1 then .stopIteration else .yields none,
    .remove 2]

theorem scheduling_order_and_sleep_shift : ∃ run : Scheduling Nat Int, Live run.events 0 ∧ ¬ Live run.events 1 ∧
    ¬ Live run.events 2 ∧ advanced 8 (fun _ => .yields none) run.executor.behaviors run.executor = [0] := by
  obtain ⟨run, reached, live, ended, removed, only⟩ := replay_exists scheduler Orderly shift ⟨⟨[], []⟩, [], none⟩
    (fun run : Scheduling Nat Int => Live run.events 0 ∧ ¬ Live run.events 1 ∧ ¬ Live run.events 2 ∧
      Stepped.untilRaise (fun _ => (.yields none : Stepped Int))
        (run.executor.behaviors.filter fun index => wakeTime index run.events ≤ 8) = [0])
    rfl (by decide +kernel)
  obtain ⟨_, _, _, _, tick⟩ := scheduling_order_and_sleep run reached
  exact ⟨run, live, ended, removed, (tick 8 fun _ => .yields none).1.trans only⟩

-- An exception ends a tick before the instances behind it had their turn, and of
-- two instances on one iterator the wrong one is taken off.
theorem live_not_advanced :
    (∃ run : Scheduling Nat Int, Reached scheduler Forward run ∧ (Live run.events 1 ∧ wakeTime 1 run.events ≤ 5) ∧
      1 ∉ advanced 5 (fun _ => .raises "ValueError") run.executor.behaviors run.executor) ∧
    ∃ run : Scheduling Nat Int, Reached scheduler Forward run ∧ (Live run.events 0 ∧ wakeTime 0 run.events ≤ 5) ∧
      ¬ Live run.events 1 ∧ advanced 5 (fun _ => .yields none) run.executor.behaviors run.executor = [1] := by
  apply And.intro
  · exact replay_exists scheduler Forward [.add (.iterator 7) 0, .add (.iterator 8) 0] ⟨⟨[], []⟩, [], none⟩
      (fun run : Scheduling Nat Int => (Live run.events 1 ∧ wakeTime 1 run.events ≤ 5) ∧
        1 ∉ advanced 5 (fun _ => .raises "ValueError") run.executor.behaviors run.executor) rfl (by decide +kernel)
  · exact replay_exists scheduler Forward [.add (.iterator 7) 0, .add (.iterator 7) 0, .remove 1] ⟨⟨[], []⟩, [], none⟩
      (fun run : Scheduling Nat Int => (Live run.events 0 ∧ wakeTime 0 run.events ≤ 5) ∧
        ¬ Live run.events 1 ∧ advanced 5 (fun _ => .yields none) run.executor.behaviors run.executor = [1])
      rfl (by decide +kernel)

end Scheduling

end Animacharacter.Behaviors
