import Animacharacter.JsonTree.DeepMerge
import Animacharacter.Library.StepSystem

set_option autoImplicit false

namespace Animacharacter.JsonTree

open Objects

abbrev Json (K A : Type) := Doc Unit K A

-- A node knows its children and the dicts of its keys by reference. Its path is
-- the names from the root down, its own at the end.
structure Node (K : Type) where
  path : List K
  children : Dict K Nat
  data : Dict K Nat
deriving DecidableEq

structure Publication (K A : Type) where
  path : List K
  key : K
  value : Json K A

-- The nodes in the order they were made, the root first. The publications are
-- kept with what their values were at the call.
structure Tree (K A : Type) where
  heap : Heap K A
  nodes : List (Node K)
  published : List (Publication K A)

inductive Action (K A : Type) where
  | objects (heap : Heap K A)
  | child (parent : Nat) (name : K)
  | publish (node : Nat) (key : K) (value : Nat)

variable {K A : Type}

def content (doc : Doc Nat K A) : Json K A := doc.relabel fun _ => ()

variable [DecidableEq K]

namespace Json

def lookup (doc : Json K A) : List K → Option (Json K A)
  | [] => some doc
  | key :: rest =>
      match doc with
      | .atom _ => none
      | .list _ _ => none
      | .dict _ parts =>
          match Entries.find key parts with
          | none => none
          | some part => lookup part rest

def leaf (doc : Json K A) (path : List K) : Option A :=
  match doc.lookup path with
  | some (.atom value) => some value
  | _ => none

theorem lookup_append (doc : Json K A) (path below : List K) :
    doc.lookup (path ++ below) = (doc.lookup path).bind fun part => part.lookup below := by
  induction path generalizing doc with
  | nil => rfl
  | cons key rest ih =>
      cases doc with
      | atom value => rfl
      | list label items => rfl
      | dict label parts =>
          rw [List.cons_append, lookup, lookup]
          cases Entries.find key parts with
          | none => rfl
          | some part => exact ih part

theorem leaf_append (doc : Json K A) (path below : List K) :
    doc.leaf (path ++ below) = (doc.lookup path).bind fun part => part.leaf below := by
  rw [leaf, lookup_append]
  cases doc.lookup path <;> rfl

end Json

namespace Node

def start (path : List K) : Node K := ⟨path, Dict.empty, Dict.empty⟩

def addChild (node : Node K) (name : K) (child : Nat) : Node K :=
  if name ∈ node.children.keys then node else { node with children := node.children.set name child }

end Node

def buildData (heap : Heap K A) : List (K × Nat) → List (K × Json K A) → Option (List (K × Json K A))
  | [], result => some result
  | (key, cell) :: rest, result =>
      match read heap (.ref cell) with
      | none => none
      | some doc => buildData heap rest (Entries.assign key (content doc) result)

def buildChildren (build : Nat → Option (List (K × Json K A))) :
    List (K × Nat) → List (K × Json K A) → Option (List (K × Json K A))
  | [], result => some result
  | (name, child) :: rest, result =>
      match build child with
      | none => none
      | some [] => buildChildren build rest result
      | some data => buildChildren build rest (Entries.assign name (.dict () data) result)

namespace Tree

def root : Tree K A := ⟨[], [Node.start []], []⟩

def child (tree : Tree K A) (parent : Nat) (name : K) : Option (Tree K A) :=
  (tree.nodes[parent]?).map fun owner => { tree with
    nodes := tree.nodes.set parent (owner.addChild name tree.nodes.length) ++ [Node.start (owner.path ++ [name])] }

-- The dict of the key: an empty one is made the first time.
def openKey (tree : Tree K A) (node : Nat) (owner : Node K) (key : K) : Tree K A × Nat :=
  match owner.data.get key with
  | some cell => (tree, cell)
  | none =>
      ({ tree with
          heap := tree.heap ++ [.dict Dict.empty]
          nodes := tree.nodes.set node { owner with data := owner.data.set key tree.heap.length } },
        tree.heap.length)

-- An exception of deep_merge is the caller's; what has been merged stays.
def publish (tree : Tree K A) (node : Nat) (key : K) (value : Nat) : Option (Tree K A) :=
  (tree.nodes[node]?).map fun owner =>
    let opened := tree.openKey node owner key
    { opened.1 with
      heap := (deepMerge opened.1.heap opened.2 value).heap
      published := match read tree.heap (.ref value) with
        | none => tree.published
        | some doc => tree.published ++ [⟨owner.path, key, content doc⟩] }

def step (tree : Tree K A) : Action K A → Option (Tree K A)
  | .objects heap => some { tree with heap := heap }
  | .child parent name => tree.child parent name
  | .publish node key value => tree.publish node key value

def system (K A : Type) [DecidableEq K] : StepSystem.System (Tree K A) (Action K A) where
  start tree := tree = root
  step := step

def build (tree : Tree K A) : Nat → Nat → Option (List (K × Json K A))
  | 0, _ => none
  | depth + 1, node =>
      match tree.nodes[node]? with
      | none => none
      | some owner =>
          (buildData tree.heap owner.data.entries []).bind (buildChildren (build tree depth) owner.children.entries)

-- gather() of the root, written out; none when a dict in it goes round in a circle.
def gather (tree : Tree K A) : Option (Json K A) := (tree.build tree.nodes.length 0).map (.dict ())

def walk (tree : Tree K A) : Nat → List K → Option Nat
  | node, [] => some node
  | node, name :: rest =>
      match tree.nodes[node]? with
      | none => none
      | some owner =>
          match owner.children.get name with
          | none => none
          | some child => walk tree child rest

end Tree

end Animacharacter.JsonTree
