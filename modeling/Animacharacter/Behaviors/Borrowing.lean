import Mathlib.Algebra.Ring.Int.Defs
import Animacharacter.Library.StepSystem
import Animacharacter.Behaviors.Engine

set_option autoImplicit false

namespace Animacharacter.Behaviors

open StepSystem

variable {Gen Time : Type}

-- A call of the engine; `call` and `next` say what the behavior functions and
-- their iterators do when they are called during it.
inductive EngineAction (Gen Time : Type) where
  | loadBehavior (name : String) (groups : List String)
  | playBehavior (name : String) (priority : Int) (call : String → Started Gen)
  | playBehaviorGroup (group : String) (priority : Int) (call : String → Started Gen)
  | stopBehavior (name : String)
  | stopAll
  | tick (time : Time) (next : Nat → Stepped Time)

def Started.isIterator : Started Gen → Bool
  | .iterator _ => true
  | .other | .raises _ => false

namespace BehaviorRegistry

def isBorrowed (registry : BehaviorRegistry) (name : String) : Bool :=
  ((registry.entries.get name).map BehaviorEntry.borrowed).getD false

-- Names and groups as register makes them: a group lists registered names once.
structure Sound (registry : BehaviorRegistry) : Prop where
  named : ∀ (name : String) (entry : BehaviorEntry), registry.entries.get name = some entry → entry.name = name
  distinct : ∀ (group : String) (names : List String), registry.groups.get group = some names → names.Nodup
  registered : ∀ (group : String) (names : List String), registry.groups.get group = some names →
    ∀ name ∈ names, (registry.entries.get name).isSome = true

-- Played in turn, the names of a group stop at the first borrowed one; the
-- functions of those before it return iterators.
def groupStarts (registry : BehaviorRegistry) (call : String → Started Gen) : List String → Prop
  | [] => True
  | name :: rest => registry.isBorrowed name = true ∨ (call name).isIterator = true ∧ registry.groupStarts call rest

instance (registry : BehaviorRegistry) (call : String → Started Gen) :
    (names : List String) → Decidable (registry.groupStarts call names)
  | [] => inferInstanceAs (Decidable True)
  | _ :: rest =>
      have := instDecidableGroupStarts registry call rest
      inferInstanceAs (Decidable (_ ∨ _ ∧ _))

end BehaviorRegistry

namespace BehaviorEngine

-- An entry is borrowed exactly when its name is running, and only registered names run.
structure Matched (engine : BehaviorEngine Gen Time) : Prop where
  borrowed : ∀ (name : String) (entry : BehaviorEntry), engine.registry.entries.get name = some entry →
    (entry.borrowed = true ↔ name ∈ engine.running.keys)
  registered : ∀ name ∈ engine.running.keys, ∃ entry, engine.registry.entries.get name = some entry

def Playable [Zero Time] (engine : BehaviorEngine Gen Time) : Prop :=
  ∀ (name : String) (entry : BehaviorEntry), engine.registry.entries.get name = some entry → name ∉ engine.running.keys →
    ∀ (priority : Int) (call : String → Started Gen), (call name).isIterator = true →
      ∃ index, (engine.playBehavior name priority call).2 = .ok index

-- No call plays a free entry whose function raises or does not return an iterator.
def startsWhatItBorrows (engine : BehaviorEngine Gen Time) : EngineAction Gen Time → Prop
  | .playBehavior name _ call =>
      ∀ entry ∈ engine.registry.entries.get name, entry.borrowed = false → (call name).isIterator = true
  | .playBehaviorGroup group _ call => engine.registry.groupStarts call (engine.registry.groupNames group)
  | _ => True

end BehaviorEngine

namespace BehaviorRegistry

theorem set_borrowed_get (registry : BehaviorRegistry) (name other : String) (borrowed : Bool) :
    (registry.setBorrowed name borrowed).entries.get other =
      if name = other then (registry.entries.get other).map fun entry => { entry with borrowed := borrowed }
      else registry.entries.get other := by
  unfold setBorrowed
  split
  · rename_i missing
    by_cases same : name = other
    · subst same
      simp [missing]
    · simp [same]
  · rename_i entry found
    by_cases same : name = other
    · subst same
      simp [found]
    · simp [same]

theorem set_borrowed_known (registry : BehaviorRegistry) (name other : String) (borrowed : Bool) :
    ((registry.setBorrowed name borrowed).entries.get other).isSome = (registry.entries.get other).isSome := by
  rw [set_borrowed_get]
  split
  · exact Option.isSome_map
  · rfl

theorem set_borrowed_groups (registry : BehaviorRegistry) (name : String) (borrowed : Bool) :
    (registry.setBorrowed name borrowed).groups = registry.groups := by
  unfold setBorrowed
  split <;> rfl

theorem release_borrowed (registry : BehaviorRegistry) (name other : String) :
    (registry.setBorrowed name false).isBorrowed other = if name = other then false else registry.isBorrowed other := by
  rw [isBorrowed, set_borrowed_get]
  by_cases same : name = other
  · subst same
    cases found : registry.entries.get name <;> simp
  · simp [same, isBorrowed]

theorem borrow_borrowed (registry : BehaviorRegistry) (name other : String) (entry : BehaviorEntry)
    (found : registry.entries.get name = some entry) :
    (registry.setBorrowed name true).isBorrowed other = if name = other then true else registry.isBorrowed other := by
  rw [isBorrowed, set_borrowed_get]
  by_cases same : name = other
  · subst same
    simp [found]
  · simp [same, isBorrowed]

theorem set_borrowed_sound (registry : BehaviorRegistry) (name : String) (borrowed : Bool) (sound : registry.Sound) :
    (registry.setBorrowed name borrowed).Sound := by
  refine ⟨?_, ?_, ?_⟩
  · intro other entry found
    rw [set_borrowed_get] at found
    split at found
    · obtain ⟨before, known, rfl⟩ := Option.map_eq_some_iff.mp found
      exact sound.named other before known
    · exact sound.named other entry found
  · intro group names found
    rw [set_borrowed_groups] at found
    exact sound.distinct group names found
  · intro group names found member inside
    rw [set_borrowed_groups] at found
    rw [set_borrowed_known]
    exact sound.registered group names found member inside

theorem add_to_group (name first : String) (groups : Dict String (List String)) (group : String) (names : List String)
    (found : (addToGroup name groups first).get group = some names)
    (distinct : ∀ (group : String) (names : List String), groups.get group = some names → names.Nodup) :
    names.Nodup ∧ ∀ member ∈ names, member = name ∨ ∃ before, groups.get group = some before ∧ member ∈ before := by
  rw [addToGroup, Dict.get_set] at found
  split at found
  · rename_i same
    subst same
    have earlier : ((groups.get first).getD []).Nodup ∧ ∀ member ∈ (groups.get first).getD [],
        ∃ before, groups.get first = some before ∧ member ∈ before := by
      cases known : groups.get first with
      | none => exact ⟨List.nodup_nil, fun _ inside => by cases inside⟩
      | some before => exact ⟨distinct first before known, fun _ inside => ⟨before, rfl, inside⟩⟩
    cases Option.some.inj found
    split
    · exact ⟨earlier.1, fun member inside => .inr (earlier.2 member inside)⟩
    · rename_i fresh
      refine ⟨by simpa using List.Nodup.concat fresh earlier.1, fun member inside => ?_⟩
      rcases List.mem_append.mp inside with old | new
      · exact .inr (earlier.2 member old)
      · exact .inl (List.mem_singleton.mp new)
  · exact ⟨distinct group names found, fun member inside => .inr ⟨names, found, inside⟩⟩

theorem add_to_groups (name : String) (chosen : List String) (groups : Dict String (List String)) (group : String)
    (names : List String) (found : (chosen.foldl (addToGroup name) groups).get group = some names)
    (distinct : ∀ (group : String) (names : List String), groups.get group = some names → names.Nodup) :
    names.Nodup ∧ ∀ member ∈ names, member = name ∨ ∃ before, groups.get group = some before ∧ member ∈ before := by
  induction chosen generalizing groups with
  | nil => exact ⟨distinct group names found, fun member inside => .inr ⟨names, found, inside⟩⟩
  | cons first rest ih =>
      obtain ⟨nodup, members⟩ := ih (addToGroup name groups first) found
        fun other after had => (add_to_group name first groups other after had distinct).1
      refine ⟨nodup, fun member inside => ?_⟩
      rcases members member inside with same | ⟨before, had, old⟩
      · exact .inl same
      · exact (add_to_group name first groups group before had distinct).2 member old

theorem register_sound (registry : BehaviorRegistry) (name : String) (groups : List String) (sound : registry.Sound) :
    (registry.register name groups).1.Sound := by
  unfold register
  split
  · exact sound
  · refine ⟨?_, ?_, ?_⟩
    · intro other entry found
      rw [Dict.get_set] at found
      split at found
      · rename_i same
        cases found
        exact same
      · exact sound.named other entry found
    · intro group names found
      exact (add_to_groups name groups registry.groups group names found sound.distinct).1
    · intro group names found member inside
      rw [Dict.get_set]
      split
      · rfl
      · rename_i other
        rcases (add_to_groups name groups registry.groups group names found sound.distinct).2 member inside with
          same | ⟨before, had, old⟩
        · exact absurd same.symm other
        · exact sound.registered group before had member old

theorem register_borrowed (registry : BehaviorRegistry) (name other : String) (groups : List String) :
    (registry.register name groups).1.isBorrowed other = registry.isBorrowed other := by
  unfold register
  split
  · rfl
  · rename_i fresh
    simp only [isBorrowed, Dict.get_set]
    split
    · rename_i same
      rw [← same, fresh]
      rfl
    · rfl

theorem entries_of_registered (registry : BehaviorRegistry) (sound : registry.Sound) (names : List String)
    (registered : ∀ name ∈ names, (registry.entries.get name).isSome = true) :
    ∃ entries, registry.entriesOf names = .ok entries ∧ entries.map BehaviorEntry.name = names := by
  induction names with
  | nil => exact ⟨[], rfl, rfl⟩
  | cons name rest ih =>
      obtain ⟨entries, found, same⟩ := ih fun other inside => registered other (List.mem_cons_of_mem _ inside)
      obtain ⟨entry, known⟩ := Option.isSome_iff_exists.mp (registered name List.mem_cons_self)
      refine ⟨entry :: entries, ?_, ?_⟩
      · simp only [entriesOf, known, found]
        rfl
      · rw [List.map_cons, same, sound.named name entry known]

theorem group_names (registry : BehaviorRegistry) (sound : registry.Sound) (group : String) :
    (registry.groupNames group).Nodup ∧
      ∀ name ∈ registry.groupNames group, (registry.entries.get name).isSome = true := by
  have listed : ((registry.groups.get group).getD []).Nodup ∧
      ∀ name ∈ (registry.groups.get group).getD [], (registry.entries.get name).isSome = true := by
    cases found : registry.groups.get group with
    | none => exact ⟨List.nodup_nil, fun _ inside => by cases inside⟩
    | some names => exact ⟨sound.distinct group names found, sound.registered group names found⟩
  have sorted := List.perm_insertionSort (fun left right : String => ¬ right < left) ((registry.groups.get group).getD [])
  exact ⟨sorted.nodup_iff.mpr listed.1, fun name inside => listed.2 name (sorted.mem_iff.mp inside)⟩

theorem group_starts_congr (registry other : BehaviorRegistry) (call : String → Started Gen) (names : List String)
    (same : ∀ name ∈ names, registry.isBorrowed name = other.isBorrowed name) :
    registry.groupStarts call names ↔ other.groupStarts call names := by
  induction names with
  | nil => exact Iff.rfl
  | cons name rest ih =>
      rw [groupStarts, groupStarts, same name List.mem_cons_self, ih fun one inside => same one (List.mem_cons_of_mem _ inside)]

end BehaviorRegistry

namespace BehaviorEngine

theorem matched_iff (engine : BehaviorEngine Gen Time) :
    engine.Matched ↔ ∀ name, engine.registry.isBorrowed name = (engine.running.get name).isSome := by
  constructor
  · intro matched name
    cases found : engine.registry.entries.get name with
    | none =>
        have idle : name ∉ engine.running.keys := by
          intro running
          obtain ⟨entry, known⟩ := matched.registered name running
          rw [found] at known
          cases known
        rw [Dict.mem_keys_iff, ← Option.isSome_iff_exists, Bool.not_eq_true] at idle
        simp [BehaviorRegistry.isBorrowed, found, idle]
    | some entry =>
        have same := matched.borrowed name entry found
        rw [Dict.mem_keys_iff, ← Option.isSome_iff_exists] at same
        simpa [BehaviorRegistry.isBorrowed, found] using Bool.eq_iff_iff.mpr same
  · intro tracked
    refine ⟨?_, ?_⟩
    · intro name entry found
      rw [Dict.mem_keys_iff, ← Option.isSome_iff_exists, ← tracked name]
      simp [BehaviorRegistry.isBorrowed, found]
    · intro name running
      rw [Dict.mem_keys_iff, ← Option.isSome_iff_exists, ← tracked name] at running
      cases found : engine.registry.entries.get name with
      | none => simp [BehaviorRegistry.isBorrowed, found] at running
      | some entry => exact ⟨entry, rfl⟩

structure Kept (engine : BehaviorEngine Gen Time) : Prop where
  sound : engine.registry.Sound
  matched : engine.Matched

theorem released_kept (engine : BehaviorEngine Gen Time) (executor : BehaviorExecutor Gen Time) (name : String)
    (kept : engine.Kept) :
    Kept ⟨engine.registry.setBorrowed name false, executor, engine.running.pop name⟩ := by
  refine ⟨BehaviorRegistry.set_borrowed_sound engine.registry name false kept.sound, (matched_iff _).mpr fun other => ?_⟩
  rw [BehaviorRegistry.release_borrowed, Dict.get_pop, (matched_iff engine).mp kept.matched other]
  split <;> rfl

theorem executed_kept (engine : BehaviorEngine Gen Time) (executor : BehaviorExecutor Gen Time) (kept : engine.Kept) :
    Kept { engine with executor := executor } :=
  ⟨kept.sound, (matched_iff _).mpr ((matched_iff engine).mp kept.matched)⟩

theorem fold_kept {Item : Type} (change : BehaviorEngine Gen Time → Item → BehaviorEngine Gen Time)
    (each : ∀ engine item, engine.Kept → (change engine item).Kept) (items : List Item) (engine : BehaviorEngine Gen Time)
    (kept : engine.Kept) : (items.foldl change engine).Kept := by
  induction items generalizing engine with
  | nil => exact kept
  | cons item rest ih => exact ih (change engine item) (each engine item kept)

theorem started_kept (engine : BehaviorEngine Gen Time) (executor : BehaviorExecutor Gen Time) (name : String)
    (entry : BehaviorEntry) (index : Nat) (found : engine.registry.entries.get name = some entry) (kept : engine.Kept) :
    Kept ⟨engine.registry.setBorrowed name true, executor, engine.running.set name index⟩ := by
  refine ⟨BehaviorRegistry.set_borrowed_sound engine.registry name true kept.sound, (matched_iff _).mpr fun other => ?_⟩
  rw [BehaviorRegistry.borrow_borrowed _ _ _ entry found, Dict.get_set, (matched_iff engine).mp kept.matched other]
  split <;> rfl

-- A free behavior is not running, so borrowing it alone breaks the match.
theorem lost_unmatched (engine : BehaviorEngine Gen Time) (executor : BehaviorExecutor Gen Time) (name : String)
    (entry : BehaviorEntry) (found : engine.registry.entries.get name = some entry) (free : entry.borrowed = false)
    (kept : engine.Kept) : ¬ Matched ⟨engine.registry.setBorrowed name true, executor, engine.running⟩ := by
  intro matched
  have now := (matched_iff _).mp matched name
  rw [BehaviorRegistry.borrow_borrowed _ _ _ entry found, if_pos rfl, ← (matched_iff engine).mp kept.matched name] at now
  simp [BehaviorRegistry.isBorrowed, found, free] at now

section Play

variable [Zero Time]

-- What playing a behavior does: it is refused before anything has changed, it
-- runs, or it stays borrowed without running.
inductive Played (engine : BehaviorEngine Gen Time) (name : String) (call : String → Started Gen)
    (result : BehaviorEngine Gen Time × Except Raised Nat) : Prop where
  | refused (raised : Raised) (outcome : result = (engine, .error raised))
      (reason : engine.registry.entries.get name = none ∨ engine.registry.isBorrowed name = true)
  | started (entry : BehaviorEntry) (found : engine.registry.entries.get name = some entry)
      (free : entry.borrowed = false) (iterates : (call name).isIterator = true) (executor : BehaviorExecutor Gen Time)
      (index : Nat)
      (outcome : result = (⟨engine.registry.setBorrowed name true, executor, engine.running.set name index⟩, .ok index))
  | lost (entry : BehaviorEntry) (found : engine.registry.entries.get name = some entry)
      (free : entry.borrowed = false) (fails : (call name).isIterator = false) (executor : BehaviorExecutor Gen Time)
      (raised : Raised)
      (outcome : result =
        (⟨engine.registry.setBorrowed name true, executor, engine.running⟩, .error raised))

theorem play_cases (engine : BehaviorEngine Gen Time) (name : String) (priority : Int) (call : String → Started Gen) :
    Played engine name call (engine.playBehavior name priority call) := by
  cases found : engine.registry.entries.get name with
  | none =>
      refine .refused (.KeyError name) ?_ (.inl found)
      simp [playBehavior, BehaviorRegistry.borrow, found]
  | some entry =>
      cases free : entry.borrowed with
      | true =>
          refine .refused (.RuntimeError s!"Behavior '{name}' is already borrowed") ?_ (.inr ?_)
          · simp [playBehavior, BehaviorRegistry.borrow, found, free]
          · simp [BehaviorRegistry.isBorrowed, found, free]
      | false =>
          cases started : call name with
          | iterator gen =>
              refine .started entry found free (by rw [started]; rfl) (engine.executor.add (.iterator gen) priority).1
                engine.executor.instances.length ?_
              simp [playBehavior, BehaviorRegistry.borrow, found, free, started, BehaviorExecutor.add]
          | other =>
              refine .lost entry found free (by rw [started]; rfl) engine.executor
                (.TypeError "Behaviour fn must return an iterator") ?_
              simp [playBehavior, BehaviorRegistry.borrow, found, free, started, BehaviorExecutor.add]
          | raises exception =>
              refine .lost entry found free (by rw [started]; rfl) engine.executor (.raised exception) ?_
              simp [playBehavior, BehaviorRegistry.borrow, found, free, started, BehaviorExecutor.add]

theorem play_matched (engine : BehaviorEngine Gen Time) (name : String) (priority : Int) (call : String → Started Gen)
    (kept : engine.Kept) : (engine.playBehavior name priority call).1.registry.Sound ∧
      ((engine.playBehavior name priority call).1.Matched ↔
        engine.startsWhatItBorrows (.playBehavior name priority call)) := by
  cases play_cases engine name priority call with
  | refused raised outcome reason =>
      rw [outcome]
      refine ⟨kept.sound, iff_of_true kept.matched ?_⟩
      intro entry member free
      rw [Option.mem_def] at member
      rcases reason with missing | borrowed
      · rw [missing] at member
        cases member
      · simp [BehaviorRegistry.isBorrowed, member, free] at borrowed
  | started entry found free iterates executor index outcome =>
      rw [outcome]
      have after := started_kept engine executor name entry index found kept
      exact ⟨after.sound, iff_of_true after.matched fun _ _ _ => iterates⟩
  | lost entry found free fails executor raised outcome =>
      rw [outcome]
      refine ⟨BehaviorRegistry.set_borrowed_sound engine.registry name true kept.sound,
        iff_of_false (lost_unmatched engine executor name entry found free kept) ?_⟩
      intro starts
      have iterates := starts entry found free
      rw [fails] at iterates
      cases iterates

theorem play_all_matched (priority : Int) (call : String → Started Gen) (entries : List BehaviorEntry)
    (engine : BehaviorEngine Gen Time) (kept : engine.Kept) (distinct : (entries.map BehaviorEntry.name).Nodup)
    (registered : ∀ name ∈ entries.map BehaviorEntry.name, (engine.registry.entries.get name).isSome = true) :
    (playAll priority call entries engine).1.registry.Sound ∧ ((playAll priority call entries engine).1.Matched ↔
      engine.registry.groupStarts call (entries.map BehaviorEntry.name)) := by
  induction entries generalizing engine with
  | nil => exact ⟨kept.sound, iff_of_true kept.matched trivial⟩
  | cons first rest ih =>
      rw [List.map_cons, List.nodup_cons] at distinct
      have known := registered first.name List.mem_cons_self
      simp only [playAll, List.map_cons, BehaviorRegistry.groupStarts]
      cases play_cases engine first.name priority call with
      | refused raised outcome reason =>
          rw [outcome]
          refine ⟨kept.sound, iff_of_true kept.matched (.inl ?_)⟩
          rcases reason with missing | borrowed
          · rw [missing] at known
            cases known
          · exact borrowed
      | lost entry found free fails executor raised outcome =>
          rw [outcome]
          refine ⟨BehaviorRegistry.set_borrowed_sound engine.registry first.name true kept.sound,
            iff_of_false (lost_unmatched engine executor first.name entry found free kept) ?_⟩
          rintro (borrowed | ⟨iterates, _⟩)
          · simp [BehaviorRegistry.isBorrowed, found, free] at borrowed
          · rw [fails] at iterates
            cases iterates
      | started entry found free iterates executor index outcome =>
          rw [outcome]
          have after := started_kept engine executor first.name entry index found kept
          obtain ⟨sound, matched⟩ := ih _ after distinct.2 fun name inside => by
            rw [BehaviorRegistry.set_borrowed_known]
            exact registered name (List.mem_cons_of_mem _ inside)
          refine ⟨sound, matched.trans ?_⟩
          have others := BehaviorRegistry.group_starts_congr (engine.registry.setBorrowed first.name true) engine.registry
            call (rest.map BehaviorEntry.name) fun name inside => by
              have apart : first.name ≠ name := fun same => distinct.1 (same ▸ inside)
              rw [BehaviorRegistry.borrow_borrowed _ _ _ entry found, if_neg apart]
          have idle : ¬ engine.registry.isBorrowed first.name = true := by
            simp [BehaviorRegistry.isBorrowed, found, free]
          rw [others]
          exact ⟨fun starts => .inr ⟨iterates, starts⟩, fun either => (either.resolve_left idle).2⟩

theorem kept_playable (engine : BehaviorEngine Gen Time) (kept : engine.Kept) : engine.Playable := by
  intro name entry found idle priority call iterates
  have free : engine.registry.isBorrowed name = false := by
    rw [(matched_iff engine).mp kept.matched name]
    rw [Dict.mem_keys_iff, ← Option.isSome_iff_exists, Bool.not_eq_true] at idle
    exact idle
  cases play_cases engine name priority call with
  | refused raised outcome reason =>
      rcases reason with missing | borrowed
      · rw [found] at missing
        cases missing
      · rw [free] at borrowed
        cases borrowed
  | started _ _ _ _ executor index outcome => exact ⟨index, by rw [outcome]⟩
  | lost _ _ _ fails _ _ _ =>
      rw [iterates] at fails
      cases fails

end Play

section Runs

variable [BEq Gen] [BEq Time]

theorem stop_kept (engine : BehaviorEngine Gen Time) (name : String) (kept : engine.Kept) :
    (engine.stopBehavior name).Kept := by
  unfold stopBehavior
  split
  · exact kept
  · exact released_kept engine _ name kept

theorem cleanup_kept (engine : BehaviorEngine Gen Time) (running : String × Nat) (kept : engine.Kept) :
    (engine.cleanupOne running).Kept := by
  simp only [cleanupOne]
  split
  · exact released_kept engine engine.executor running.1 kept
  · exact kept

variable [LT Time] [DecidableLT Time] [Max Time] [Add Time] [Zero Time]

theorem tick_kept (engine : BehaviorEngine Gen Time) (time : Time) (next : Nat → Stepped Time) (kept : engine.Kept) :
    (engine.tick time next).1.Kept := by
  unfold tick
  split
  · exact executed_kept engine _ kept
  · exact fold_kept cleanupOne cleanup_kept _ _ (executed_kept engine _ kept)

def step (engine : BehaviorEngine Gen Time) : EngineAction Gen Time → Option (BehaviorEngine Gen Time)
  | .loadBehavior name groups => some (engine.loadBehavior name groups).1
  | .playBehavior name priority call => some (engine.playBehavior name priority call).1
  | .playBehaviorGroup group priority call => some (engine.playBehaviorGroup group priority call).1
  | .stopBehavior name => some (engine.stopBehavior name)
  | .stopAll => some engine.stopAll
  | .tick time next => some (engine.tick time next).1

def behaviorEngine : System (BehaviorEngine Gen Time) (EngineAction Gen Time) where
  start engine := engine = .init
  step := step

theorem step_matched (engine next : BehaviorEngine Gen Time) (action : EngineAction Gen Time) (kept : engine.Kept)
    (moved : engine.step action = some next) :
    next.registry.Sound ∧ (next.Matched ↔ engine.startsWhatItBorrows action) := by
  cases action with
  | loadBehavior name groups =>
      cases moved
      refine ⟨BehaviorRegistry.register_sound engine.registry name groups kept.sound, iff_of_true ?_ trivial⟩
      refine (matched_iff _).mpr fun other => ?_
      exact (BehaviorRegistry.register_borrowed engine.registry name other groups).trans
        ((matched_iff engine).mp kept.matched other)
  | playBehavior name priority call =>
      cases moved
      exact play_matched engine name priority call kept
  | playBehaviorGroup group priority call =>
      cases moved
      obtain ⟨distinct, registered⟩ := BehaviorRegistry.group_names engine.registry kept.sound group
      obtain ⟨entries, found, same⟩ := BehaviorRegistry.entries_of_registered engine.registry kept.sound _ registered
      have played := play_all_matched priority call entries engine kept (same ▸ distinct) (same ▸ registered)
      rw [same] at played
      simpa only [playBehaviorGroup, BehaviorRegistry.byGroup, found, startsWhatItBorrows] using played
  | stopBehavior name =>
      cases moved
      have after := stop_kept engine name kept
      exact ⟨after.sound, iff_of_true after.matched trivial⟩
  | stopAll =>
      cases moved
      have after := fold_kept stopBehavior stop_kept engine.running.keys engine kept
      exact ⟨after.sound, iff_of_true after.matched trivial⟩
  | tick time next =>
      cases moved
      have after := tick_kept engine time next kept
      exact ⟨after.sound, iff_of_true after.matched trivial⟩

theorem reached_kept (engine : BehaviorEngine Gen Time) (reached : Reached behaviorEngine startsWhatItBorrows engine) :
    engine.Kept := by
  apply reached_invariant behaviorEngine startsWhatItBorrows Kept _ _ engine reached
  · rintro initial rfl
    refine ⟨⟨?_, ?_, ?_⟩, (matched_iff _).mpr fun _ => rfl⟩
    · intro name entry found
      cases found
    · intro group names found
      cases found
    · intro group names found
      cases found
  · intro source action target kept starts moved
    obtain ⟨sound, matched⟩ := step_matched source target action kept moved
    exact ⟨sound, matched.mpr starts⟩

theorem borrowed_matches_running (engine : BehaviorEngine Gen Time)
    (reached : Reached behaviorEngine startsWhatItBorrows engine) :
    engine.Matched ∧ engine.Playable ∧ ∀ action next, engine.step action = some next →
      (next.Matched ↔ engine.startsWhatItBorrows action) := by
  have kept := reached_kept engine reached
  exact ⟨kept.matched, kept_playable engine kept, fun action next moved => (step_matched engine next action kept moved).2⟩

end Runs

instance (engine : BehaviorEngine Nat Int) : (action : EngineAction Nat Int) → Decidable (engine.startsWhatItBorrows action)
  | .playBehavior _ _ _ => inferInstanceAs (Decidable (∀ _ ∈ _, _ → _))
  | .playBehaviorGroup group _ call =>
      inferInstanceAs (Decidable (engine.registry.groupStarts call (engine.registry.groupNames group)))
  | .loadBehavior _ _ | .stopBehavior _ | .stopAll | .tick _ _ => inferInstanceAs (Decidable True)

-- A group is played; one of its behaviors is stopped and played again, the other finishes.
def greeting : List (EngineAction Nat Int) :=
  [.loadBehavior "wave" ["greet"], .loadBehavior "blink" ["greet", "idle"],
    .playBehaviorGroup "greet" 0 fun name => .iterator name.length, .stopBehavior "wave",
    .playBehavior "wave" 1 fun _ => .iterator 9, .tick 10 fun index => if index = 0 then .stopIteration else .yields none]

theorem borrowed_matches_running_greeting : ∃ engine : BehaviorEngine Nat Int,
    engine.running.keys = ["wave"] ∧ engine.Matched := by
  obtain ⟨engine, reached, ends⟩ := replay_exists behaviorEngine startsWhatItBorrows greeting .init
    (fun engine : BehaviorEngine Nat Int => engine.running.keys = ["wave"]) rfl (by decide +kernel)
  exact ⟨engine, ends, (borrowed_matches_running engine reached).1⟩

def failingPlay : List (EngineAction Nat Int) :=
  [.loadBehavior "wave" [], .playBehavior "wave" 0 fun _ => .raises "setup failed"]

-- The behavior that failed to start is not running and cannot be played any more.
theorem failed_play_borrowed : ∃ engine : BehaviorEngine Nat Int, Reached behaviorEngine anyAction engine ∧
    engine.running.keys = [] ∧
    (engine.playBehavior "wave" 0 fun _ => .iterator 1).2 = .error (.RuntimeError "Behavior 'wave' is already borrowed") ∧
    ¬ engine.Matched := by
  obtain ⟨engine, reached, idle, borrowed, refused⟩ := replay_exists behaviorEngine anyAction failingPlay .init
    (fun engine : BehaviorEngine Nat Int => engine.running.keys = [] ∧
      engine.registry.entries.get "wave" = some ⟨"wave", [], true⟩ ∧
      (engine.playBehavior "wave" 0 fun _ => .iterator 1).2 =
        .error (.RuntimeError "Behavior 'wave' is already borrowed"))
    rfl (by decide +kernel)
  refine ⟨engine, reached, idle, refused, fun matched => ?_⟩
  have running := (matched.borrowed "wave" ⟨"wave", [], true⟩ borrowed).mp rfl
  rw [idle] at running
  cases running

end BehaviorEngine

end Animacharacter.Behaviors
