import Mathlib.Logic.Relation

set_option autoImplicit false

namespace StepSystem

-- An executable transition system. Every choice of the environment is part of
-- the action, so `step` is a function; `none` says the action is not enabled.
structure System (State Action : Type) where
  start : State → Prop
  step : State → Action → Option State

variable {State Action : Type}

def AllowedStep (system : System State Action) (allowed : State → Action → Prop) (source target : State) : Prop :=
  ∃ action, allowed source action ∧ system.step source action = some target

def Runs (system : System State Action) (allowed : State → Action → Prop) : State → State → Prop :=
  Relation.ReflTransGen (AllowedStep system allowed)

def Reached (system : System State Action) (allowed : State → Action → Prop) (state : State) : Prop :=
  ∃ initial, system.start initial ∧ Runs system allowed initial state

def anyAction : State → Action → Prop := fun _ _ => True

instance : ∀ (state : State) (action : Action), Decidable (anyAction state action) :=
  fun _ _ => inferInstanceAs (Decidable True)

theorem runs_invariant (system : System State Action) (allowed : State → Action → Prop) (inv : State → Prop)
    (preserved : ∀ source action target, inv source → allowed source action →
      system.step source action = some target → inv target)
    (source target : State) (runs : Runs system allowed source target) (base : inv source) : inv target := by
  induction runs with
  | refl => exact base
  | tail _ last ih =>
      obtain ⟨action, admitted, moved⟩ := last
      exact preserved _ action _ ih admitted moved

theorem reached_invariant (system : System State Action) (allowed : State → Action → Prop) (inv : State → Prop)
    (base : ∀ state, system.start state → inv state)
    (preserved : ∀ source action target, inv source → allowed source action →
      system.step source action = some target → inv target)
    (state : State) (reached : Reached system allowed state) : inv state := by
  obtain ⟨initial, started, runs⟩ := reached
  exact runs_invariant system allowed inv preserved initial state runs (base initial started)

theorem runs_weaken (system : System State Action) (strong weak : State → Action → Prop)
    (weaker : ∀ state action, strong state action → weak state action) (source target : State)
    (runs : Runs system strong source target) : Runs system weak source target := by
  induction runs with
  | refl => exact .refl
  | tail _ last ih =>
      obtain ⟨action, admitted, moved⟩ := last
      exact ih.tail ⟨action, weaker _ _ admitted, moved⟩

-- Replays a list of actions; concrete runs are evaluated with it.
def replay (system : System State Action) (allowed : State → Action → Prop)
    [∀ state action, Decidable (allowed state action)] : State → List Action → Option State
  | state, [] => some state
  | state, action :: rest =>
      if allowed state action then
        match system.step state action with
        | none => none
        | some next => replay system allowed next rest
      else none

theorem replay_runs (system : System State Action) (allowed : State → Action → Prop)
    [∀ state action, Decidable (allowed state action)] (actions : List Action) (source target : State)
    (replayed : replay system allowed source actions = some target) : Runs system allowed source target := by
  induction actions generalizing source with
  | nil =>
      cases replayed
      exact .refl
  | cons action rest ih =>
      simp only [replay] at replayed
      split at replayed
      · rename_i admitted
        split at replayed
        · cases replayed
        · rename_i next moved
          exact Relation.ReflTransGen.head ⟨action, admitted, moved⟩ (ih next replayed)
      · cases replayed

theorem replay_reached (system : System State Action) (allowed : State → Action → Prop)
    [∀ state action, Decidable (allowed state action)] (actions : List Action) (initial target : State)
    (started : system.start initial) (replayed : replay system allowed initial actions = some target) :
    Reached system allowed target :=
  ⟨initial, started, replay_runs system allowed actions initial target replayed⟩

theorem replay_exists (system : System State Action) (allowed : State → Action → Prop)
    [∀ state action, Decidable (allowed state action)] (actions : List Action) (initial : State)
    (goal : State → Prop) [DecidablePred goal] (started : system.start initial)
    (ends : (replay system allowed initial actions).any (fun state => decide (goal state)) = true) :
    ∃ state, Reached system allowed state ∧ goal state := by
  obtain ⟨state, replayed, holds⟩ := (Option.any_eq_true _ _).mp ends
  exact ⟨state, replay_reached system allowed actions initial state started replayed, of_decide_eq_true holds⟩

-- Copies of a system beside each other; an action names the one that moves.
def pool (system : System State Action) : System (List State) (Nat × Action) where
  start members := ∀ member ∈ members, system.start member
  step members action := (members[action.1]?).bind fun member => (system.step member action.2).map (members.set action.1)

def poolAllowed (allowed : State → Action → Prop) (members : List State) (action : Nat × Action) : Prop :=
  ∀ member ∈ members[action.1]?, allowed member action.2

instance (allowed : State → Action → Prop) [∀ state action, Decidable (allowed state action)] (members : List State)
    (action : Nat × Action) : Decidable (poolAllowed allowed members action) :=
  inferInstanceAs (Decidable (∀ member ∈ members[action.1]?, _))

theorem set_all (property : State → Prop) (members : List State) (index : Nat) (changed : State)
    (all : ∀ member ∈ members, property member) (holds : property changed) :
    ∀ member ∈ members.set index changed, property member := by
  intro member inside
  rcases List.mem_or_eq_of_mem_set inside with old | replaced
  · exact all member old
  · rw [replaced]
    exact holds

theorem pool_invariant (system : System State Action) (allowed : State → Action → Prop) (inv : State → Prop)
    (base : ∀ state, system.start state → inv state)
    (preserved : ∀ source action target, inv source → allowed source action →
      system.step source action = some target → inv target)
    (members : List State) (reached : Reached (pool system) (poolAllowed allowed) members) :
    ∀ member ∈ members, inv member := by
  refine reached_invariant (pool system) (poolAllowed allowed) (fun members => ∀ member ∈ members, inv member)
    (fun initial started member inside => base member (started member inside)) ?_ members reached
  intro source action target all admitted moved
  simp only [pool, Option.bind_eq_some_iff, Option.map_eq_some_iff] at moved
  obtain ⟨member, present, changed, moved, rfl⟩ := moved
  exact set_all inv source action.1 changed all
    (preserved member action.2 changed (all member (List.mem_of_getElem? present)) (admitted member present) moved)

end StepSystem
