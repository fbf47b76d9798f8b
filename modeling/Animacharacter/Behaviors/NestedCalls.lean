import Mathlib.Algebra.Ring.Int.Defs
import Animacharacter.Library.StepSystem
import Animacharacter.Behaviors.Turns

set_option autoImplicit false

namespace Animacharacter.Behaviors

open StepSystem

variable {Gen Time : Type}

-- A call of the engine from within a behavior's step, or from outside a tick.
-- What it raises is caught where it is made.
inductive NestedCall (Gen : Type) where
  | playBehavior (name : String) (priority : Int) (call : String → Started Gen)
  | playBehaviorGroup (group : String) (priority : Int) (call : String → Started Gen)
  | stopBehavior (name : String)
  | stopAll

-- A step of a behavior: the calls made during next(gen), then what it gives.
-- Nothing but StopIteration is raised.
structure BehaviorStep (Gen Time : Type) where
  calls : List (NestedCall Gen)
  outcome : Stepped Time
  quiet : outcome.isRaise = false

inductive NestedAction (Gen Time : Type) where
  | loadBehavior (name : String) (groups : List String)
  | call (made : NestedCall Gen)
  | tick (time : Time) (next : Nat → BehaviorStep Gen Time)

-- `stopped` is logged as a stop_behavior returns, `advanced` as next(gen) is called.
inductive InstanceEvent where
  | stopped (index : Nat)
  | advanced (index : Nat)
deriving DecidableEq

def InstanceEvent.index : InstanceEvent → Nat
  | .stopped index | .advanced index => index

-- The engine with what was done to its instances, the latest first.
structure NestedRun (Gen Time : Type) where
  engine : BehaviorEngine Gen Time
  events : List InstanceEvent

namespace NestedRun

variable [BEq Gen] [BEq Time] [LT Time] [DecidableLT Time] [Max Time] [Add Time] [Zero Time]

def stopBehavior (run : NestedRun Gen Time) (name : String) : NestedRun Gen Time where
  engine := run.engine.stopBehavior name
  events :=
    match run.engine.running.get name with
    | none => run.events
    | some index => .stopped index :: run.events

def call (run : NestedRun Gen Time) : NestedCall Gen → NestedRun Gen Time
  | .playBehavior name priority call => { run with engine := (run.engine.playBehavior name priority call).1 }
  | .playBehaviorGroup group priority call => { run with engine := (run.engine.playBehaviorGroup group priority call).1 }
  | .stopBehavior name => run.stopBehavior name
  | .stopAll => run.engine.running.keys.foldl stopBehavior run

def setExecutor (run : NestedRun Gen Time) (executor : BehaviorExecutor Gen Time) : NestedRun Gen Time :=
  { run with engine := { run.engine with executor := executor } }

def advance (run : NestedRun Gen Time) (index : Nat) : NestedRun Gen Time :=
  { run with events := .advanced index :: run.events }

-- The instance's part of tick once its iterator was advanced and made its calls.
def handle (run : NestedRun Gen Time) (index : Nat) (behavior : BehaviorInstance Gen Time) (time : Time)
    (outcome : Stepped Time) : NestedRun Gen Time × Except Raised Unit :=
  match behavior.step time outcome with
  | .error raised => (run, .error raised)
  | .ok none => (run, .ok ())
  | .ok (some action) =>
      let behavior := behavior.handleAction action time
      let executor := run.engine.executor.setInstance index behavior
      if behavior.done then
        if executor.scheduled index then (run.setExecutor (executor.remove index), .ok ())
        else (run.setExecutor executor, .error (.ValueError "list.remove(x): x not in list"))
      else (run.setExecutor executor, .ok ())

-- The loop of the executor's tick over the instances scheduled at its start.
def tickLoop (time : Time) (next : Nat → BehaviorStep Gen Time) :
    List Nat → NestedRun Gen Time → NestedRun Gen Time × Except Raised Unit
  | [], run => (run, .ok ())
  | index :: rest, run =>
      match run.engine.executor.instances[index]? with
      | none => tickLoop time next rest run
      | some behavior =>
          if behavior.done = true ∨ time < behavior.sleepUntil then tickLoop time next rest run
          else
            match ((next index).calls.foldl call (run.advance index)).handle index behavior time (next index).outcome with
            | (run, .error raised) => (run, .error raised)
            | (run, .ok ()) => tickLoop time next rest run

def tick (run : NestedRun Gen Time) (time : Time) (next : Nat → BehaviorStep Gen Time) :
    NestedRun Gen Time × Except Raised Unit :=
  match tickLoop time next run.engine.executor.behaviors run with
  | (run, .error raised) => (run, .error raised)
  | (run, .ok ()) => ({ run with engine := run.engine.cleanupFinished }, .ok ())

def step (run : NestedRun Gen Time) : NestedAction Gen Time → Option (NestedRun Gen Time)
  | .loadBehavior name groups => some { run with engine := (run.engine.loadBehavior name groups).1 }
  | .call made => some (run.call made)
  | .tick time next => some (run.tick time next).1

def nestedEngine : System (NestedRun Gen Time) (NestedAction Gen Time) where
  start run := run = ⟨.init, []⟩
  step := step

-- Without calls it is the engine's tick.
theorem tick_loop_plain (time : Time) (next : Nat → BehaviorStep Gen Time) (plain : ∀ index, (next index).calls = [])
    (rest : List Nat) (run : NestedRun Gen Time) :
    ((tickLoop time next rest run).1.engine, (tickLoop time next rest run).2) =
      (let done := BehaviorExecutor.tickLoop time (fun index => (next index).outcome) rest run.engine.executor
       ({ run.engine with executor := done.1 }, done.2)) := by
  induction rest generalizing run with
  | nil => rfl
  | cons index rest ih =>
      rw [tickLoop, BehaviorExecutor.tickLoop]
      cases found : run.engine.executor.instances[index]? with
      | none => exact ih run
      | some behavior =>
          by_cases asleep : behavior.done = true ∨ time < behavior.sleepUntil
          · simp only [if_pos asleep, BehaviorInstance.step]
            exact ih run
          · simp only [if_neg asleep, plain index, List.foldl_nil, handle]
            cases stepped : behavior.step time (next index).outcome with
            | error raised => rfl
            | ok action =>
                cases action with
                | none => exact ih (run.advance index)
                | some action =>
                    by_cases ends : (behavior.handleAction action time).done = true
                    · by_cases inside : (run.engine.executor.setInstance index
                          (behavior.handleAction action time)).scheduled index = true
                      · simp only [advance, ends, inside, if_true]
                        exact ih _
                      · simp only [advance, ends, inside, if_true]
                        rfl
                    · simp only [if_neg ends]
                      exact ih _

theorem tick_plain (time : Time) (next : Nat → BehaviorStep Gen Time) (plain : ∀ index, (next index).calls = [])
    (run : NestedRun Gen Time) :
    ((run.tick time next).1.engine, (run.tick time next).2) =
      run.engine.tick time (fun index => (next index).outcome) := by
  have loop := tick_loop_plain time next plain run.engine.executor.behaviors run
  rw [tick, BehaviorEngine.tick, BehaviorExecutor.tick]
  cases nested : tickLoop time next run.engine.executor.behaviors run with
  | mk after result =>
      cases straight : BehaviorExecutor.tickLoop time (fun index => (next index).outcome)
          run.engine.executor.behaviors run.engine.executor with
      | mk executor outcome =>
          rw [nested, straight] at loop
          obtain ⟨same, equal⟩ := Prod.mk.inj loop
          dsimp only at same equal
          subst equal
          cases result with
          | error raised => simp [same]
          | ok done => simp [same]

end NestedRun

namespace NestedRun

def iterator (run : NestedRun Gen Time) (index : Nat) : Option Gen :=
  (run.engine.executor.instances[index]?).map BehaviorInstance.gen

-- After stop_behavior has returned, the iterator is not advanced any more.
def NeverAdvancedAgain (run : NestedRun Gen Time) : Prop :=
  run.events.Pairwise fun later earlier => earlier = .stopped earlier.index → later = .advanced later.index →
    run.iterator later.index ≠ run.iterator earlier.index

-- A behavior function does not return the iterator of a stopped instance.
def Unused (run : NestedRun Gen Time) : Started Gen → Prop
  | .iterator gen => ∀ event ∈ run.events, event = .stopped event.index → run.iterator event.index ≠ some gen
  | .other | .raises _ => True

section Conditions

variable [BEq Gen] [BEq Time] [LT Time] [DecidableLT Time] [Max Time] [Add Time] [Zero Time]

-- The stopped instance is not `due` in the tick that is running, and no other
-- scheduled instance compares equal to it or has its iterator.
def stopMeets (due : List Nat) (run : NestedRun Gen Time) (name : String) : Prop :=
  ∀ index ∈ run.engine.running.get name, index ∉ due ∧ ∀ other ∈ run.engine.executor.behaviors, other ≠ index →
    run.engine.executor.same other index = false ∧ run.iterator other ≠ run.iterator index

def stopsMeet (due : List Nat) : List String → NestedRun Gen Time → Prop
  | [], _ => True
  | name :: rest, run => run.stopMeets due name ∧ stopsMeet due rest (run.stopBehavior name)

def callMeets (due : List Nat) (run : NestedRun Gen Time) : NestedCall Gen → Prop
  | .playBehavior name _ call => run.Unused (call name)
  | .playBehaviorGroup group _ call =>
      match run.engine.registry.byGroup group with
      | .error _ => True
      | .ok entries => ∀ entry ∈ entries, run.Unused (call entry.name)
  | .stopBehavior name => run.stopMeets due name
  | .stopAll => stopsMeet due run.engine.running.keys run

def callsMeet (due : List Nat) : List (NestedCall Gen) → NestedRun Gen Time → Prop
  | [], _ => True
  | made :: rest, run => run.callMeets due made ∧ callsMeet due rest (run.call made)

-- An instance that is stopped in its own step does not end in it.
def stepMeets (due : List Nat) (run : NestedRun Gen Time) (index : Nat) (made : BehaviorStep Gen Time) : Prop :=
  callsMeet due made.calls (run.advance index) ∧
    (.stopped index ∈ (made.calls.foldl call (run.advance index)).events → made.outcome.ends = false)

-- The condition on each step of a tick. Those of the rest of the snapshot that
-- are awake are due.
def loopMeets (time : Time) (next : Nat → BehaviorStep Gen Time) : List Nat → NestedRun Gen Time → Prop
  | [], _ => True
  | index :: rest, run =>
      match run.engine.executor.instances[index]? with
      | none => loopMeets time next rest run
      | some behavior =>
          if behavior.done = true ∨ time < behavior.sleepUntil then loopMeets time next rest run
          else
            run.stepMeets (rest.filter (run.engine.executor.awake time)) index (next index) ∧
              loopMeets time next rest
                (((next index).calls.foldl call (run.advance index)).handle index behavior time (next index).outcome).1

def Meets (run : NestedRun Gen Time) : NestedAction Gen Time → Prop
  | .loadBehavior _ _ => True
  | .call made => run.callMeets [] made
  | .tick time next => loopMeets time next run.engine.executor.behaviors run

end Conditions

structure Kept (run : NestedRun Gen Time) : Prop where
  ordered : run.engine.executor.Ordered
  running : run.engine.executor.Running
  known : ∀ event ∈ run.events, event.index < run.engine.executor.instances.length
  started : ∀ (name : String) (index : Nat), run.engine.running.get name = some index →
    index < run.engine.executor.instances.length
  parted : ∀ index : Nat, .stopped index ∈ run.events → ∀ other ∈ run.engine.executor.behaviors,
    run.iterator other ≠ run.iterator index
  past : run.NeverAdvancedAgain

-- What calls do to a run: instances are only added, and those that are no
-- longer scheduled were stopped and are not due.
structure After (due : List Nat) (run next : NestedRun Gen Time) : Prop where
  kept : next.Kept
  grown : ∃ more, next.engine.executor.instances = run.engine.executor.instances ++ more
  logged : ∀ event ∈ run.events, event ∈ next.events
  stays : ∀ index ∈ run.engine.executor.behaviors, index ∈ next.engine.executor.behaviors ∨
    .stopped index ∈ next.events ∧ index ∉ due

theorem after_refl (due : List Nat) (run : NestedRun Gen Time) (kept : run.Kept) : After due run run :=
  ⟨kept, ⟨[], (List.append_nil _).symm⟩, fun _ inside => inside, fun _ inside => .inl inside⟩

theorem after_trans (due : List Nat) (run middle next : NestedRun Gen Time) (first : After due run middle)
    (second : After due middle next) : After due run next := by
  apply After.mk second.kept
  · obtain ⟨some, grown⟩ := first.grown
    obtain ⟨more, grows⟩ := second.grown
    exact ⟨some ++ more, by rw [grows, grown, List.append_assoc]⟩
  · exact fun event inside => second.logged event (first.logged event inside)
  · intro index inside
    rcases first.stays index inside with stays | ⟨stopped, apart⟩
    · exact second.stays index stays
    · exact .inr ⟨second.logged _ stopped, apart⟩

theorem grown_get (run next : NestedRun Gen Time)
    (grown : ∃ more, next.engine.executor.instances = run.engine.executor.instances ++ more) (index : Nat)
    (known : index < run.engine.executor.instances.length) :
    next.engine.executor.instances[index]? = run.engine.executor.instances[index]? := by
  obtain ⟨more, grown⟩ := grown
  rw [grown, List.getElem?_append_left known]

-- The past is about instances that were made before.
theorem past_grown (run next : NestedRun Gen Time) (same : next.events = run.events)
    (iterators : ∀ index < run.engine.executor.instances.length, next.iterator index = run.iterator index)
    (kept : run.Kept) : next.NeverAdvancedAgain := by
  rw [NeverAdvancedAgain, same]
  apply List.Pairwise.imp_of_mem _ kept.past
  intro later earlier second first apart stopped again
  rw [iterators earlier.index (kept.known earlier first), iterators later.index (kept.known later second)]
  exact apart stopped again

theorem same_after (due : List Nat) (run : NestedRun Gen Time) (engine : BehaviorEngine Gen Time) (kept : run.Kept)
    (executor : engine.executor = run.engine.executor)
    (running : ∀ (name : String) (index : Nat), engine.running.get name = some index →
      run.engine.running.get name = some index) : After due run { run with engine := engine } := by
  obtain ⟨registry, changed, names⟩ := engine
  subst executor
  exact after_trans due run _ _ (after_refl due run kept)
    ⟨⟨kept.ordered, kept.running, kept.known, fun name index found => kept.started name index (running name index found),
      kept.parted, kept.past⟩, ⟨[], (List.append_nil _).symm⟩, fun _ inside => inside, fun _ inside => .inl inside⟩

theorem unused_played (run : NestedRun Gen Time) (engine : BehaviorEngine Gen Time) (started : Started Gen)
    (kept : run.Kept) (grown : ∃ more, engine.executor.instances = run.engine.executor.instances ++ more)
    (unused : run.Unused started) : Unused { run with engine := engine } started := by
  cases started with
  | other => trivial
  | raises exception => trivial
  | iterator gen =>
      intro event inside stopped
      rw [iterator, grown_get run { run with engine := engine } grown event.index (kept.known event inside)]
      exact unused event inside stopped

section Plays

variable [Zero Time]

theorem added_after (due : List Nat) (run : NestedRun Gen Time) (engine : BehaviorEngine Gen Time) (name : String)
    (gen : Gen) (priority : Int) (kept : run.Kept) (unused : run.Unused (.iterator gen))
    (executor : engine.executor = run.engine.executor.added gen priority)
    (running : engine.running = run.engine.running.set name run.engine.executor.instances.length) :
    After due run { run with engine := engine } := by
  have grown : engine.executor.instances = run.engine.executor.instances ++ [⟨gen, priority, 0, false⟩] := by
    rw [executor, BehaviorExecutor.added_instances]
  have longer : run.engine.executor.instances.length < engine.executor.instances.length := by
    rw [grown, List.length_append, List.length_singleton]
    exact Nat.lt_succ_self _
  have known := BehaviorExecutor.running_known run.engine.executor kept.running
  have iterators : ∀ index < run.engine.executor.instances.length,
      iterator { run with engine := engine } index = run.iterator index := by
    intro index old
    rw [iterator, executor, BehaviorExecutor.added_old run.engine.executor gen priority index old, iterator]
  apply After.mk
  · apply Kept.mk
    · rw [executor]
      exact BehaviorExecutor.added_ordered run.engine.executor gen priority kept.ordered known
    · rw [executor]
      exact BehaviorExecutor.added_running run.engine.executor gen priority kept.running
    · exact fun event inside => lt_trans (kept.known event inside) longer
    · intro other index found
      rw [running, Dict.get_set] at found
      split at found
      · cases found
        exact longer
      · exact lt_trans (kept.started other index found) longer
    · intro index stopped other inside
      rw [executor, BehaviorExecutor.mem_added] at inside
      rw [iterators index (kept.known _ stopped)]
      rcases inside with old | rfl
      · rw [iterators other (known other old)]
        exact kept.parted index stopped other old
      · rw [iterator, executor, BehaviorExecutor.added_new]
        exact Ne.symm (unused _ stopped rfl)
    · exact past_grown run { run with engine := engine } rfl iterators kept
  · exact ⟨_, grown⟩
  · exact fun event inside => inside
  · intro index inside
    left
    rw [executor, BehaviorExecutor.mem_added]
    exact .inl inside

theorem play_after (due : List Nat) (run : NestedRun Gen Time) (name : String) (priority : Int)
    (call : String → Started Gen) (kept : run.Kept) (unused : run.Unused (call name)) :
    After due run { run with engine := (run.engine.playBehavior name priority call).1 } := by
  rw [BehaviorEngine.playBehavior]
  cases run.engine.registry.borrow name with
  | mk registry borrowed =>
      cases borrowed with
      | error raised => exact same_after due run _ kept rfl fun _ _ found => found
      | ok lent =>
          cases started : call name with
          | other => exact same_after due run _ kept rfl fun _ _ found => found
          | raises exception => exact same_after due run _ kept rfl fun _ _ found => found
          | iterator gen =>
              rw [started] at unused
              exact added_after due run _ name gen priority kept unused rfl rfl

theorem play_all_after (due : List Nat) (priority : Int) (call : String → Started Gen) (entries : List BehaviorEntry)
    (run : NestedRun Gen Time) (kept : run.Kept) (unused : ∀ entry ∈ entries, run.Unused (call entry.name)) :
    After due run { run with engine := (BehaviorEngine.playAll priority call entries run.engine).1 } := by
  induction entries generalizing run with
  | nil => exact after_refl due run kept
  | cons entry rest ih =>
      have first := play_after due run entry.name priority call kept (unused entry List.mem_cons_self)
      rw [BehaviorEngine.playAll]
      cases played : run.engine.playBehavior entry.name priority call with
      | mk engine result =>
          rw [played] at first
          cases result with
          | error raised => exact first
          | ok index =>
              apply after_trans due run { run with engine := engine } _ first
              apply ih { run with engine := engine } first.kept
              intro other inside
              exact unused_played run engine _ kept first.grown (unused other (List.mem_cons_of_mem entry inside))

end Plays

section Stops

variable [BEq Gen] [BEq Time]

theorem cleanup_keeps (entries : List (String × Nat)) (engine : BehaviorEngine Gen Time) :
    (entries.foldl BehaviorEngine.cleanupOne engine).executor = engine.executor ∧
      ∀ (name : String) (index : Nat), (entries.foldl BehaviorEngine.cleanupOne engine).running.get name = some index →
        engine.running.get name = some index := by
  induction entries generalizing engine with
  | nil => exact ⟨rfl, fun _ _ found => found⟩
  | cons entry rest ih =>
      obtain ⟨executor, running⟩ := ih (engine.cleanupOne entry)
      have one : (engine.cleanupOne entry).executor = engine.executor ∧ ∀ (name : String) (index : Nat),
          (engine.cleanupOne entry).running.get name = some index → engine.running.get name = some index := by
        simp only [BehaviorEngine.cleanupOne]
        split
        · refine ⟨rfl, ?_⟩
          intro name index found
          rw [Dict.get_pop] at found
          split at found
          · cases found
          · exact found
        · exact ⟨rfl, fun _ _ found => found⟩
      exact ⟨executor.trans one.1, fun name index found => one.2 name index (running name index found)⟩

theorem stop_found (run : NestedRun Gen Time) (name : String) (index : Nat)
    (found : run.engine.running.get name = some index) :
    run.stopBehavior name = ⟨⟨run.engine.registry.setBorrowed name false, run.engine.executor.remove index,
      run.engine.running.pop name⟩, .stopped index :: run.events⟩ := by
  simp [stopBehavior, BehaviorEngine.stopBehavior, found]

theorem removed_member (run : NestedRun Gen Time) (index : Nat) (kept : run.Kept)
    (alone : run.engine.executor.Alone index) (other : Nat) :
    other ∈ (run.engine.executor.remove index).behaviors ↔ other ≠ index ∧ other ∈ run.engine.executor.behaviors := by
  rw [BehaviorExecutor.remove_alone run.engine.executor index alone]
  exact (BehaviorExecutor.ordered_nodup run.engine.executor kept.ordered).mem_erase_iff

theorem stop_kept (run : NestedRun Gen Time) (name : String) (index : Nat) (kept : run.Kept)
    (found : run.engine.running.get name = some index) (alone : run.engine.executor.Alone index)
    (apart : ∀ other ∈ run.engine.executor.behaviors, other ≠ index → run.iterator other ≠ run.iterator index) :
    (run.stopBehavior name).Kept := by
  have member := removed_member run index kept alone
  rw [stop_found run name index found]
  apply Kept.mk
  · have erased := BehaviorExecutor.remove_alone run.engine.executor index alone
    exact List.Pairwise.sublist (erased ▸ List.erase_sublist) kept.ordered
  · intro other inside
    exact kept.running other ((member other).mp inside).2
  · intro event inside
    rcases List.mem_cons.mp inside with rfl | before
    · exact kept.started name index found
    · exact kept.known event before
  · intro other started running
    rw [Dict.get_pop] at running
    split at running
    · cases running
    · exact kept.started other started running
  · intro other inside again scheduled
    obtain ⟨differs, before⟩ := (member again).mp scheduled
    rcases List.mem_cons.mp inside with same | earlier
    · cases same
      exact apart again before differs
    · exact kept.parted other earlier again before
  · apply List.pairwise_cons.mpr ⟨_, kept.past⟩
    intro event inside _ called
    cases called

theorem stop_after (due : List Nat) (run : NestedRun Gen Time) (name : String) (kept : run.Kept)
    (meets : run.stopMeets due name) : After due run (run.stopBehavior name) := by
  cases found : run.engine.running.get name with
  | none =>
      have unchanged : run.stopBehavior name = run := by simp [stopBehavior, BehaviorEngine.stopBehavior, found]
      rw [unchanged]
      exact after_refl due run kept
  | some index =>
      obtain ⟨apart, others⟩ := meets index found
      have alone : run.engine.executor.Alone index := by
        intro other inside same
        by_contra differs
        rw [(others other inside differs).1] at same
        cases same
      have next := stop_kept run name index kept found alone fun other inside differs => (others other inside differs).2
      have member := removed_member run index kept alone
      rw [stop_found run name index found] at next ⊢
      apply After.mk
      · exact next
      · exact ⟨[], (List.append_nil _).symm⟩
      · exact fun event inside => List.mem_cons_of_mem _ inside
      · intro other inside
        by_cases same : other = index
        · subst same
          exact .inr ⟨List.mem_cons_self, apart⟩
        · exact .inl ((member other).mpr ⟨same, inside⟩)

theorem stops_after (due : List Nat) (names : List String) (run : NestedRun Gen Time) (kept : run.Kept)
    (meet : stopsMeet due names run) : After due run (names.foldl stopBehavior run) := by
  induction names generalizing run with
  | nil => exact after_refl due run kept
  | cons name rest ih =>
      have first := stop_after due run name kept meet.1
      exact after_trans due run _ _ first (ih (run.stopBehavior name) first.kept meet.2)

variable [Zero Time]

theorem call_after (due : List Nat) (run : NestedRun Gen Time) (made : NestedCall Gen) (kept : run.Kept)
    (meets : run.callMeets due made) : After due run (run.call made) := by
  cases made with
  | playBehavior name priority call => exact play_after due run name priority call kept meets
  | playBehaviorGroup group priority call =>
      rw [callMeets] at meets
      rw [NestedRun.call, BehaviorEngine.playBehaviorGroup]
      cases listed : run.engine.registry.byGroup group with
      | error raised => exact after_refl due run kept
      | ok entries =>
          rw [listed] at meets
          exact play_all_after due priority call entries run kept meets
  | stopBehavior name => exact stop_after due run name kept meets
  | stopAll => exact stops_after due run.engine.running.keys run kept meets

theorem calls_after (due : List Nat) (calls : List (NestedCall Gen)) (run : NestedRun Gen Time) (kept : run.Kept)
    (meet : callsMeet due calls run) : After due run (calls.foldl call run) := by
  induction calls generalizing run with
  | nil => exact after_refl due run kept
  | cons made rest ih =>
      have first := call_after due run made kept meet.1
      exact after_trans due run _ _ first (ih (run.call made) first.kept meet.2)

end Stops

-- A scheduled instance may be advanced: it was not stopped.
theorem advance_kept (run : NestedRun Gen Time) (index : Nat) (kept : run.Kept)
    (scheduled : index ∈ run.engine.executor.behaviors) : (run.advance index).Kept := by
  apply Kept.mk
  · exact kept.ordered
  · exact kept.running
  · intro event inside
    rcases List.mem_cons.mp inside with rfl | before
    · exact BehaviorExecutor.running_known run.engine.executor kept.running index scheduled
    · exact kept.known event before
  · exact kept.started
  · intro stopped inside other member
    exact kept.parted stopped ((List.mem_cons.mp inside).resolve_left (by simp)) other member
  · apply List.pairwise_cons.mpr ⟨_, kept.past⟩
    intro event inside stopped _
    exact kept.parted event.index (by rw [← stopped]; exact inside) index scheduled

open BehaviorExecutor

section Turns

variable [Max Time] [Add Time] [Zero Time]

theorem turn_kept (run : NestedRun Gen Time) (index : Nat) (behavior : BehaviorInstance Gen Time) (time : Time)
    (next : Nat → Stepped Time) (kept : run.Kept) (found : run.engine.executor.instances[index]? = some behavior) :
    (run.setExecutor (turn time next run.engine.executor index)).Kept := by
  have length : (turn time next run.engine.executor index).instances.length = run.engine.executor.instances.length := by
    rw [turn_instances run.engine.executor time next index behavior found, List.length_set]
  have iterators : ∀ other, (run.setExecutor (turn time next run.engine.executor index)).iterator other =
      run.iterator other := turn_gen run.engine.executor time next index
  have member := fun other => mem_turn run.engine.executor time next index other kept.ordered behavior found
  apply Kept.mk
  · exact turn_ordered run.engine.executor time next index kept.ordered
  · by_cases inside : index ∈ run.engine.executor.behaviors
    · exact turn_running run.engine.executor time next index kept.ordered kept.running inside
    · intro other stays
      have before := ((member other).mp stays).1
      have apart : index ≠ other := fun same => inside (same ▸ before)
      rw [setExecutor, turn_others run.engine.executor time next index other apart]
      exact kept.running other before
  · intro event inside
    exact lt_of_lt_of_eq (kept.known event inside) length.symm
  · intro name other running
    exact lt_of_lt_of_eq (kept.started name other running) length.symm
  · intro stopped inside other stays
    rw [iterators, iterators]
    exact kept.parted stopped inside other ((member other).mp stays).1
  · exact past_grown run _ rfl (fun other _ => iterators other) kept

end Turns

section Ticks

variable [LT Time] [DecidableLT Time]

-- What is left of the snapshot is scheduled or asleep.
def Pending (time : Time) (rest : List Nat) (run : NestedRun Gen Time) : Prop :=
  ∀ index ∈ rest, index < run.engine.executor.instances.length ∧
    (index ∈ run.engine.executor.behaviors ∨ run.engine.executor.awake time index = false)

theorem calls_pending (time : Time) (rest : List Nat) (run next : NestedRun Gen Time)
    (pending : run.Pending time rest) (after : After (rest.filter (run.engine.executor.awake time)) run next) :
    next.Pending time rest := by
  intro index inside
  obtain ⟨known, place⟩ := pending index inside
  have same := grown_get run next after.grown index known
  have wakes : next.engine.executor.awake time index = run.engine.executor.awake time index := by
    rw [awake, same, awake]
  refine ⟨(List.getElem?_eq_some_iff.mp (same.trans (List.getElem?_eq_getElem known))).1, ?_⟩
  rcases place with scheduled | asleep
  · rcases after.stays index scheduled with stays | ⟨_, apart⟩
    · exact .inl stays
    · right
      rw [wakes, ← Bool.not_eq_true]
      exact fun due => apart (List.mem_filter.mpr ⟨inside, due⟩)
  · exact .inr (wakes.trans asleep)

variable [Max Time] [Add Time] [Zero Time]

theorem turn_pending (time : Time) (rest : List Nat) (run : NestedRun Gen Time) (index : Nat)
    (behavior : BehaviorInstance Gen Time) (next : Nat → Stepped Time) (kept : run.Kept) (fresh : index ∉ rest)
    (found : run.engine.executor.instances[index]? = some behavior) (pending : run.Pending time rest) :
    (run.setExecutor (turn time next run.engine.executor index)).Pending time rest := by
  intro other inside
  have apart : index ≠ other := fun same => fresh (same ▸ inside)
  have same := turn_others run.engine.executor time next index other apart
  obtain ⟨known, place⟩ := pending other inside
  apply And.intro
  · rw [setExecutor, turn_instances run.engine.executor time next index behavior found, List.length_set]
    exact known
  · rw [setExecutor, mem_turn run.engine.executor time next index other kept.ordered behavior found, awake, same, ← awake]
    exact place.imp_left fun scheduled => ⟨scheduled, fun ended => apart ended.1.symm⟩

variable [BEq Gen] [BEq Time]

theorem handle_turn (run : NestedRun Gen Time) (index : Nat) (behavior : BehaviorInstance Gen Time) (time : Time)
    (outcome : Stepped Time) (found : run.engine.executor.instances[index]? = some behavior)
    (running : run.engine.executor.Running) (awaits : behavior.done = false) (wakes : ¬ time < behavior.sleepUntil)
    (quiet : outcome.isRaise = false) (scheduled : outcome.ends = true → index ∈ run.engine.executor.behaviors) :
    run.handle index behavior time outcome =
      (run.setExecutor (turn time (fun _ => outcome) run.engine.executor index), .ok ()) := by
  rw [handle]
  cases behavior.stepped outcome time awaits wakes quiet with
  | silent stepped after stays =>
      simp only [stepped, turn_unchanged run.engine.executor time (fun _ => outcome) index behavior found after stays]
      rfl
  | acts action stepped after =>
      have done := behavior.after_done outcome time awaits
      rw [after] at done
      cases ends : outcome.ends with
      | false =>
          rw [ends] at done
          simp [stepped, done, turn_stays run.engine.executor time (fun _ => outcome) index behavior _ found after ends]
      | true =>
          rw [ends] at done
          obtain ⟨inside, removed⟩ :=
            turn_ends run.engine.executor time (fun _ => outcome) index behavior _ found running after done ends
          simp [stepped, done, inside.mpr (scheduled ends), removed]

theorem loop_kept (time : Time) (next : Nat → BehaviorStep Gen Time) (rest : List Nat) (run : NestedRun Gen Time)
    (kept : run.Kept) (distinct : rest.Nodup) (pending : run.Pending time rest)
    (meets : loopMeets time next rest run) :
    (tickLoop time next rest run).1.Kept ∧ (tickLoop time next rest run).2 = .ok () := by
  induction rest generalizing run with
  | nil => exact ⟨kept, rfl⟩
  | cons index rest ih =>
      obtain ⟨fresh, distinct⟩ := List.nodup_cons.mp distinct
      have left : run.Pending time rest := fun other inside => pending other (List.mem_cons_of_mem index inside)
      obtain ⟨known, place⟩ := pending index List.mem_cons_self
      rw [loopMeets] at meets
      rw [tickLoop]
      cases found : run.engine.executor.instances[index]? with
      | none =>
          rw [found] at meets
          exact ih run kept distinct left meets
      | some behavior =>
          simp only [found] at meets
          by_cases skipped : behavior.done = true ∨ time < behavior.sleepUntil
          · rw [if_pos skipped] at meets
            simp only [if_pos skipped]
            exact ih run kept distinct left meets
          · rw [if_neg skipped] at meets
            simp only [if_neg skipped]
            obtain ⟨⟨calls, ending⟩, meets⟩ := meets
            rw [not_or] at skipped
            have scheduled : index ∈ run.engine.executor.behaviors := by
              apply place.resolve_right
              simp [awake, found, skipped.2]
            have after := calls_after _ (next index).calls (run.advance index) (advance_kept run index kept scheduled) calls
            have same := (grown_get (run.advance index) _ after.grown index known).trans found
            have stays : (next index).outcome.ends = true →
                index ∈ ((next index).calls.foldl call (run.advance index)).engine.executor.behaviors := by
              intro ends
              rcases after.stays index scheduled with stays | ⟨stopped, _⟩
              · exact stays
              · rw [ending stopped] at ends
                cases ends
            have handled := handle_turn _ index behavior time (next index).outcome same after.kept.running
              (by simpa using skipped.1) skipped.2 (next index).quiet stays
            rw [handled] at meets ⊢
            apply ih
            · exact turn_kept _ index behavior time _ after.kept same
            · exact distinct
            · exact turn_pending time rest _ index behavior _ after.kept fresh same
                (calls_pending time rest (run.advance index) _ left after)
            · exact meets

theorem tick_kept (run : NestedRun Gen Time) (time : Time) (next : Nat → BehaviorStep Gen Time) (kept : run.Kept)
    (meets : loopMeets time next run.engine.executor.behaviors run) :
    (run.tick time next).1.Kept ∧ (run.tick time next).2 = .ok () := by
  have pending : run.Pending time run.engine.executor.behaviors :=
    fun index inside => ⟨running_known run.engine.executor kept.running index inside, .inl inside⟩
  obtain ⟨done, returned⟩ := loop_kept time next run.engine.executor.behaviors run kept
    (ordered_nodup run.engine.executor kept.ordered) pending meets
  rw [tick]
  cases looped : tickLoop time next run.engine.executor.behaviors run with
  | mk after result =>
      rw [looped] at done returned
      cases returned
      obtain ⟨executor, running⟩ := cleanup_keeps after.engine.running.entries after.engine
      exact ⟨(same_after [] after _ done executor running).kept, rfl⟩

theorem step_kept (run next : NestedRun Gen Time) (action : NestedAction Gen Time) (kept : run.Kept)
    (meets : run.Meets action) (moved : run.step action = some next) : next.Kept := by
  cases action with
  | loadBehavior name groups =>
      cases moved
      exact (same_after [] run (run.engine.loadBehavior name groups).1 kept rfl fun _ _ found => found).kept
  | call made =>
      cases moved
      exact (call_after [] run made kept meets).kept
  | tick time steps =>
      cases moved
      exact (tick_kept run time steps kept meets).1

theorem reached_kept (run : NestedRun Gen Time) (reached : Reached nestedEngine Meets run) : run.Kept := by
  apply reached_invariant nestedEngine Meets Kept _ _ run reached
  · rintro initial rfl
    apply Kept.mk
    · exact List.Pairwise.nil
    · intro index inside
      cases inside
    · intro event inside
      cases inside
    · intro name index found
      cases found
    · intro index stopped
      cases stopped
    · exact List.Pairwise.nil
  · intro source action target kept meets moved
    exact step_kept source target action kept meets moved

theorem nested_calls_survived (run : NestedRun Gen Time) (reached : Reached nestedEngine Meets run) :
    run.NeverAdvancedAgain ∧ ∀ (time : Time) (next : Nat → BehaviorStep Gen Time), run.Meets (.tick time next) →
      (run.tick time next).2 = .ok () := by
  have kept := reached_kept run reached
  exact ⟨kept.past, fun time next meets => (tick_kept run time next kept meets).2⟩

end Ticks

section Decisions

instance (run : NestedRun Nat Int) : (started : Started Nat) → Decidable (run.Unused started)
  | .iterator _ => inferInstanceAs (Decidable (∀ event ∈ run.events, _ → _))
  | .other | .raises _ => inferInstanceAs (Decidable True)

instance (due : List Nat) (run : NestedRun Nat Int) (name : String) : Decidable (run.stopMeets due name) :=
  have : DecidablePred fun index => index ∉ due ∧ ∀ other ∈ run.engine.executor.behaviors, other ≠ index →
      run.engine.executor.same other index = false ∧ run.iterator other ≠ run.iterator index :=
    fun _ => inferInstanceAs (Decidable (_ ∧ ∀ other ∈ run.engine.executor.behaviors, _ → _))
  Option.decidableForallMem (run.engine.running.get name)

instance decidableStopsMeet (due : List Nat) :
    (names : List String) → (run : NestedRun Nat Int) → Decidable (stopsMeet due names run)
  | [], _ => inferInstanceAs (Decidable True)
  | name :: rest, run =>
      have := decidableStopsMeet due rest (run.stopBehavior name)
      inferInstanceAs (Decidable (run.stopMeets due name ∧ stopsMeet due rest (run.stopBehavior name)))

instance (due : List Nat) (run : NestedRun Nat Int) : (made : NestedCall Nat) → Decidable (run.callMeets due made)
  | .playBehavior name _ call => inferInstanceAs (Decidable (run.Unused (call name)))
  | .playBehaviorGroup group _ call =>
      match listed : run.engine.registry.byGroup group with
      | .error _ => decidable_of_iff True (by simp only [callMeets, listed])
      | .ok entries =>
          decidable_of_iff (∀ entry ∈ entries, run.Unused (call entry.name)) (by simp only [callMeets, listed])
  | .stopBehavior name => inferInstanceAs (Decidable (run.stopMeets due name))
  | .stopAll => inferInstanceAs (Decidable (stopsMeet due run.engine.running.keys run))

instance decidableCallsMeet (due : List Nat) :
    (calls : List (NestedCall Nat)) → (run : NestedRun Nat Int) → Decidable (callsMeet due calls run)
  | [], _ => inferInstanceAs (Decidable True)
  | made :: rest, run =>
      have := decidableCallsMeet due rest (run.call made)
      inferInstanceAs (Decidable (run.callMeets due made ∧ callsMeet due rest (run.call made)))

instance (due : List Nat) (run : NestedRun Nat Int) (index : Nat) (made : BehaviorStep Nat Int) :
    Decidable (run.stepMeets due index made) :=
  inferInstanceAs (Decidable (callsMeet due made.calls (run.advance index) ∧ (_ → _)))

instance decidableLoopMeets (time : Int) (next : Nat → BehaviorStep Nat Int) :
    (rest : List Nat) → (run : NestedRun Nat Int) → Decidable (loopMeets time next rest run)
  | [], _ => inferInstanceAs (Decidable True)
  | index :: rest, run =>
      have := decidableLoopMeets time next rest
      match found : run.engine.executor.instances[index]? with
      | none => decidable_of_iff (loopMeets time next rest run) (by simp [loopMeets, found])
      | some behavior =>
          if asleep : behavior.done = true ∨ time < behavior.sleepUntil then
            decidable_of_iff (loopMeets time next rest run) (by simp only [loopMeets, found, if_pos asleep])
          else
            decidable_of_iff (run.stepMeets (rest.filter (run.engine.executor.awake time)) index (next index) ∧
              loopMeets time next rest
                (((next index).calls.foldl call (run.advance index)).handle index behavior time (next index).outcome).1)
              (by simp only [loopMeets, found, if_neg asleep])

instance (run : NestedRun Nat Int) : (action : NestedAction Nat Int) → Decidable (run.Meets action)
  | .loadBehavior _ _ => inferInstanceAs (Decidable True)
  | .call made => inferInstanceAs (Decidable (run.callMeets [] made))
  | .tick time next => inferInstanceAs (Decidable (loopMeets time next run.engine.executor.behaviors run))

instance (run : NestedRun Nat Int) : Decidable run.NeverAdvancedAgain :=
  inferInstanceAs (Decidable (run.events.Pairwise fun _ _ => _ → _ → _ ≠ _))

-- The second behavior stops the first, plays it anew and ends.
def handover : List (NestedAction Nat Int) :=
  [.loadBehavior "wave" [], .loadBehavior "blink" [], .call (.playBehavior "wave" 0 fun _ => .iterator 1),
    .call (.playBehavior "blink" 1 fun _ => .iterator 2),
    .tick 10 fun index =>
      if index = 1 then ⟨[.stopBehavior "wave", .playBehavior "wave" 0 fun _ => .iterator 3], .stopIteration, rfl⟩
      else ⟨[], .yields none, rfl⟩]

theorem nested_calls_survived_handover : ∃ run : NestedRun Nat Int,
    run.engine.running.keys = ["wave"] ∧ run.events = [.stopped 0, .advanced 1, .advanced 0] ∧
      run.NeverAdvancedAgain ∧ (run.tick 11 fun _ => ⟨[.stopAll], .yields none, rfl⟩).2 = .ok () := by
  obtain ⟨run, reached, running, events, meets⟩ := replay_exists nestedEngine Meets handover ⟨.init, []⟩
    (fun run : NestedRun Nat Int => run.engine.running.keys = ["wave"] ∧
      run.events = [.stopped 0, .advanced 1, .advanced 0] ∧
      run.Meets (.tick 11 fun _ => ⟨[.stopAll], .yields none, rfl⟩)) rfl (by decide +kernel)
  obtain ⟨past, ticks⟩ := nested_calls_survived run reached
  exact ⟨run, running, events, past, ticks 11 _ meets⟩

-- The first behavior stops the second, which still has its turn and ends.
def overtaken : List (NestedAction Nat Int) :=
  [.loadBehavior "wave" [], .loadBehavior "blink" [], .call (.playBehavior "wave" 0 fun _ => .iterator 1),
    .call (.playBehavior "blink" 0 fun _ => .iterator 2)]

theorem stopped_still_advanced : ∃ run : NestedRun Nat Int, Reached nestedEngine anyAction run ∧
    ∃ next : Nat → BehaviorStep Nat Int,
      (run.tick 10 next).2 = .error (.ValueError "list.remove(x): x not in list") ∧
        ¬ (run.tick 10 next).1.NeverAdvancedAgain := by
  obtain ⟨run, reached, raised, past⟩ := replay_exists nestedEngine anyAction overtaken ⟨.init, []⟩
    (fun run : NestedRun Nat Int =>
      (run.tick 10 fun index =>
        if index = 0 then ⟨[.stopBehavior "blink"], .yields none, rfl⟩ else ⟨[], .stopIteration, rfl⟩).2 =
          .error (.ValueError "list.remove(x): x not in list") ∧
      ¬ (run.tick 10 fun index =>
        if index = 0 then ⟨[.stopBehavior "blink"], .yields none, rfl⟩
        else ⟨[], .stopIteration, rfl⟩).1.NeverAdvancedAgain) rfl (by decide +kernel)
  exact ⟨run, reached, _, raised, past⟩

end Decisions

end NestedRun

end Animacharacter.Behaviors
