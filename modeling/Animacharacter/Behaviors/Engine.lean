import Mathlib.Data.List.Sort
import Mathlib.Order.Basic
import Animacharacter.Library.Dict

set_option autoImplicit false

namespace Animacharacter.Behaviors

variable {Gen Time : Type} [BEq Gen] [BEq Time] [LT Time] [DecidableLT Time] [Max Time] [Add Time] [Zero Time]

inductive Raised where
  | KeyError (text : String)
  | RuntimeError (text : String)
  | TypeError (text : String)
  | ValueError (text : String)
  | raised (exception : String)
deriving DecidableEq, Repr

inductive BehaviorActionType where
  | STOP
  | CONTINUE
  | SLEEP
  | TICK
deriving DecidableEq, Repr

inductive Started (Gen : Type) where
  | iterator (gen : Gen)
  | other
  | raises (exception : String)

-- What next(gen) gives. A value that is not an action raises where it is handled.
inductive Stepped (Time : Type) where
  | yields (action : Option (BehaviorActionType × Time))
  | stopIteration
  | raises (exception : String)

structure BehaviorInstance (Gen Time : Type) where
  gen : Gen
  priority : Int
  sleepUntil : Time
  done : Bool
deriving BEq, Repr

namespace BehaviorInstance

def step (behavior : BehaviorInstance Gen Time) (time : Time) (next : Stepped Time) :
    Except Raised (Option (BehaviorActionType × Time)) :=
  if behavior.done = true ∨ time < behavior.sleepUntil then .ok none
  else
    match next with
    | .yields action => .ok action
    | .stopIteration => .ok (some (.STOP, 0))
    | .raises exception => .error (.raised exception)

def handleAction (behavior : BehaviorInstance Gen Time) (action : BehaviorActionType × Time) (time : Time) :
    BehaviorInstance Gen Time :=
  match action.1 with
  | .STOP => { behavior with done := true }
  | .SLEEP => { behavior with sleepUntil := max 0 time + action.2 }
  | .CONTINUE | .TICK => behavior

end BehaviorInstance

-- An instance is known by its place among all that were ever made; `behaviors`
-- holds the places of the scheduled ones.
structure BehaviorExecutor (Gen Time : Type) where
  instances : List (BehaviorInstance Gen Time)
  behaviors : List Nat

namespace BehaviorExecutor

def priority (executor : BehaviorExecutor Gen Time) (index : Nat) : Int :=
  ((executor.instances[index]?).map BehaviorInstance.priority).getD 0

-- `==` of two instances, which a dataclass decides by their fields.
def same (executor : BehaviorExecutor Gen Time) (left right : Nat) : Bool :=
  left = right ||
    match executor.instances[left]?, executor.instances[right]? with
    | some one, some other => one == other
    | _, _ => false

def scheduled (executor : BehaviorExecutor Gen Time) (index : Nat) : Bool :=
  executor.behaviors.any fun other => executor.same other index

def add (executor : BehaviorExecutor Gen Time) (started : Started Gen) (priority : Int) :
    BehaviorExecutor Gen Time × Except Raised Nat :=
  match started with
  | .raises exception => (executor, .error (.raised exception))
  | .other => (executor, .error (.TypeError "Behaviour fn must return an iterator"))
  | .iterator gen =>
      let index := executor.instances.length
      let executor : BehaviorExecutor Gen Time :=
        { executor with instances := executor.instances ++ [⟨gen, priority, 0, false⟩] }
      let behaviors := (executor.behaviors ++ [index]).insertionSort fun left right =>
        executor.priority left ≤ executor.priority right
      ({ executor with behaviors := behaviors }, .ok index)

def remove (executor : BehaviorExecutor Gen Time) (index : Nat) : BehaviorExecutor Gen Time :=
  { executor with behaviors := executor.behaviors.eraseP fun other => executor.same other index }

def setInstance (executor : BehaviorExecutor Gen Time) (index : Nat) (behavior : BehaviorInstance Gen Time) :
    BehaviorExecutor Gen Time := { executor with instances := executor.instances.set index behavior }

-- The loop of tick over the instances scheduled at its start.
def tickLoop (time : Time) (next : Nat → Stepped Time) :
    List Nat → BehaviorExecutor Gen Time → BehaviorExecutor Gen Time × Except Raised Unit
  | [], executor => (executor, .ok ())
  | index :: rest, executor =>
      match executor.instances[index]? with
      | none => tickLoop time next rest executor
      | some behavior =>
          match behavior.step time (next index) with
          | .error raised => (executor, .error raised)
          | .ok none => tickLoop time next rest executor
          | .ok (some action) =>
              let behavior := behavior.handleAction action time
              let executor := executor.setInstance index behavior
              if behavior.done then
                if executor.scheduled index then tickLoop time next rest (executor.remove index)
                else (executor, .error (.ValueError "list.remove(x): x not in list"))
              else tickLoop time next rest executor

def tick (executor : BehaviorExecutor Gen Time) (time : Time) (next : Nat → Stepped Time) :
    BehaviorExecutor Gen Time × Except Raised Unit := tickLoop time next executor.behaviors executor

end BehaviorExecutor

-- The behavior function stays with the environment, which says what a call of it gives.
structure BehaviorEntry where
  name : String
  groups : List String
  borrowed : Bool
deriving DecidableEq, Repr

structure BehaviorRegistry where
  entries : Dict String BehaviorEntry
  groups : Dict String (List String)

namespace BehaviorRegistry

def addToGroup (name : String) (groups : Dict String (List String)) (group : String) : Dict String (List String) :=
  let names := (groups.get group).getD []
  groups.set group (if name ∈ names then names else names ++ [name])

def register (registry : BehaviorRegistry) (name : String) (groups : List String) :
    BehaviorRegistry × Except Raised Unit :=
  match registry.entries.get name with
  | some _ => (registry, .error (.KeyError s!"Behavior '{name}' is already registered"))
  | none =>
      (⟨registry.entries.set name ⟨name, groups, false⟩, groups.foldl (addToGroup name) registry.groups⟩, .ok ())

-- sorted(self._groups.get(group, [])); strings are ordered by their characters.
def groupNames (registry : BehaviorRegistry) (group : String) : List String :=
  ((registry.groups.get group).getD []).insertionSort fun left right => ¬ right < left

def entriesOf (registry : BehaviorRegistry) : List String → Except Raised (List BehaviorEntry)
  | [] => .ok []
  | name :: rest =>
      match registry.entries.get name with
      | none => .error (.KeyError name)
      | some entry => (registry.entriesOf rest).map fun entries => entry :: entries

def byGroup (registry : BehaviorRegistry) (group : String) : Except Raised (List BehaviorEntry) :=
  registry.entriesOf (registry.groupNames group)

def setBorrowed (registry : BehaviorRegistry) (name : String) (borrowed : Bool) : BehaviorRegistry :=
  match registry.entries.get name with
  | none => registry
  | some entry => { registry with entries := registry.entries.set name { entry with borrowed := borrowed } }

def borrow (registry : BehaviorRegistry) (name : String) : BehaviorRegistry × Except Raised Unit :=
  match registry.entries.get name with
  | none => (registry, .error (.KeyError name))
  | some entry =>
      if entry.borrowed then (registry, .error (.RuntimeError s!"Behavior '{name}' is already borrowed"))
      else (registry.setBorrowed name true, .ok ())

end BehaviorRegistry

-- The entry that `running` keeps beside an instance is the registered one of the
-- same name, since no entry is ever replaced.
structure BehaviorEngine (Gen Time : Type) where
  registry : BehaviorRegistry
  executor : BehaviorExecutor Gen Time
  running : Dict String Nat

namespace BehaviorEngine

def init : BehaviorEngine Gen Time where
  registry := ⟨.empty, .empty⟩
  executor := ⟨[], []⟩
  running := .empty

def loadBehavior (engine : BehaviorEngine Gen Time) (name : String) (groups : List String) :
    BehaviorEngine Gen Time × Except Raised Unit :=
  let (registry, result) := engine.registry.register name groups
  ({ engine with registry := registry }, result)

def playBehavior (engine : BehaviorEngine Gen Time) (name : String) (priority : Int) (call : String → Started Gen) :
    BehaviorEngine Gen Time × Except Raised Nat :=
  match engine.registry.borrow name with
  | (registry, .error raised) => ({ engine with registry := registry }, .error raised)
  | (registry, .ok ()) =>
      match engine.executor.add (call name) priority with
      | (executor, .error raised) => ({ engine with registry := registry, executor := executor }, .error raised)
      | (executor, .ok index) => (⟨registry, executor, engine.running.set name index⟩, .ok index)

def playAll (priority : Int) (call : String → Started Gen) :
    List BehaviorEntry → BehaviorEngine Gen Time → BehaviorEngine Gen Time × Except Raised (List Nat)
  | [], engine => (engine, .ok [])
  | entry :: rest, engine =>
      match engine.playBehavior entry.name priority call with
      | (engine, .error raised) => (engine, .error raised)
      | (engine, .ok index) =>
          let (engine, played) := playAll priority call rest engine
          (engine, played.map fun indices => index :: indices)

def playBehaviorGroup (engine : BehaviorEngine Gen Time) (group : String) (priority : Int) (call : String → Started Gen) :
    BehaviorEngine Gen Time × Except Raised (List Nat) :=
  match engine.registry.byGroup group with
  | .error raised => (engine, .error raised)
  | .ok entries => playAll priority call entries engine

def stopBehavior (engine : BehaviorEngine Gen Time) (name : String) : BehaviorEngine Gen Time :=
  match engine.running.get name with
  | none => engine
  | some index => ⟨engine.registry.setBorrowed name false, engine.executor.remove index, engine.running.pop name⟩

def stopAll (engine : BehaviorEngine Gen Time) : BehaviorEngine Gen Time := engine.running.keys.foldl stopBehavior engine

def cleanupOne (engine : BehaviorEngine Gen Time) (running : String × Nat) : BehaviorEngine Gen Time :=
  let done := ((engine.executor.instances[running.2]?).map BehaviorInstance.done).getD false
  if done = true ∨ engine.executor.scheduled running.2 = false then
    { engine with
      registry := engine.registry.setBorrowed running.1 false
      running := engine.running.pop running.1 }
  else engine

def cleanupFinished (engine : BehaviorEngine Gen Time) : BehaviorEngine Gen Time :=
  engine.running.entries.foldl cleanupOne engine

def tick (engine : BehaviorEngine Gen Time) (time : Time) (next : Nat → Stepped Time) :
    BehaviorEngine Gen Time × Except Raised Unit :=
  match engine.executor.tick time next with
  | (executor, .error raised) => ({ engine with executor := executor }, .error raised)
  | (executor, .ok ()) => ({ engine with executor := executor }.cleanupFinished, .ok ())

end BehaviorEngine

end Animacharacter.Behaviors
