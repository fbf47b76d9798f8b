import Animacharacter.JsonTree.Gather

set_option autoImplicit false

namespace Animacharacter.JsonTree

open Objects
open StepSystem

variable {K A : Type} [DecidableEq K]

namespace Tree

-- Nothing the tree keeps has changed.
theorem heap_inv (tree : Tree K A) (inv : tree.Inv) (next : Heap K A)
    (kept : ∀ node key doc, tree.Slot node key doc → Holds next doc) : Inv { tree with heap := next } := by
  have back (node : Nat) (key : K) (doc : Doc Nat K A) (slot : Slot { tree with heap := next } node key doc) :
      tree.Slot node key doc := by
    obtain ⟨owner, cell, found, known, holds, own⟩ := slot
    obtain ⟨old, stands, label⟩ := inv.readable node owner key cell found known
    have was : tree.Slot node key old := ⟨owner, cell, found, known, stands, label⟩
    have same := holds_unique next doc old holds (kept node key old was)
      ((label_val doc cell own).trans (label_val old cell label).symm)
    rwa [same]
  have walks (path : List K) : walk { tree with heap := next } 0 path = tree.walk 0 path :=
    walk_same tree { tree with heap := next } (fun _ => rfl) path 0
  constructor
  · exact inv.rooted
  · exact inv.edges
  · exact inv.keys
  · intro node owner key cell found known
    obtain ⟨doc, holds, own⟩ := inv.readable node owner key cell found known
    exact ⟨doc, kept node key doc ⟨owner, cell, found, known, holds, own⟩, own⟩
  · intro node key doc slot
    exact inv.once node key doc (back node key doc slot)
  · intro node key doc other name second slot also
    exact inv.separate node key doc other name second (back node key doc slot) (back other name second also)
  · intro path node key doc walked slot
    exact inv.contents path node key doc ((walks path).symm.trans walked) (back node key doc slot)
  · intro entry member
    obtain ⟨node, doc, walked, slot⟩ := inv.logged entry member
    obtain ⟨owner, cell, found, known, holds, own⟩ := slot
    exact ⟨node, doc, (walks entry.path).trans walked,
      owner, cell, found, known, kept node entry.key doc ⟨owner, cell, found, known, holds, own⟩, own⟩

theorem get_addChild (owner : Node K) (name other : K) (id child : Nat) :
    (owner.addChild name id).children.get other = some child ↔
      owner.children.get other = some child ∨ (other = name ∧ name ∉ owner.children.keys ∧ child = id) := by
  rw [Node.addChild]
  split
  · rename_i taken
    simp [taken]
  · rename_i free
    dsimp only
    rw [Dict.get_set]
    by_cases same : name = other
    · subst same
      have none : owner.children.get name = none := by
        by_contra some
        exact free ((owner.children.mem_keys_iff name).mpr (Option.ne_none_iff_exists'.mp some))
      simp [none, free, eq_comm]
    · simp [same, Ne.symm same]

theorem addChild_data (owner : Node K) (name : K) (id : Nat) : (owner.addChild name id).data = owner.data := by
  rw [Node.addChild]
  split <;> rfl

theorem addChild_path (owner : Node K) (name : K) (id : Nat) : (owner.addChild name id).path = owner.path := by
  rw [Node.addChild]
  split <;> rfl

def grown (tree : Tree K A) (parent : Nat) (owner : Node K) (name : K) : Tree K A := { tree with
  nodes := tree.nodes.set parent (owner.addChild name tree.nodes.length) ++ [Node.start (owner.path ++ [name])] }

theorem grown_new (tree : Tree K A) (parent : Nat) (owner : Node K) (name : K) :
    (tree.grown parent owner name).nodes[tree.nodes.length]? = some (Node.start (owner.path ++ [name])) := by
  simp [grown]

-- What child() leaves of a node that was there before.
structure Grew (tree : Tree K A) (parent : Nat) (owner : Node K) (name : K) (node : Nat) (old kid : Node K) : Prop where
  path : kid.path = old.path
  data : kid.data = old.data
  children : ∀ other child, kid.children.get other = some child ↔ old.children.get other = some child ∨
    (node = parent ∧ other = name ∧ name ∉ owner.children.keys ∧ child = tree.nodes.length)

theorem grown_old (tree : Tree K A) (parent : Nat) (owner : Node K) (name : K)
    (found : tree.nodes[parent]? = some owner) (node : Nat) (old : Node K) (present : tree.nodes[node]? = some old) :
    ∃ kid, (tree.grown parent owner name).nodes[node]? = some kid ∧ tree.Grew parent owner name node old kid := by
  have inside := (List.getElem?_eq_some_iff.mp present).1
  have left : (tree.grown parent owner name).nodes[node]? =
      (tree.nodes.set parent (owner.addChild name tree.nodes.length))[node]? := by
    rw [grown, List.getElem?_append_left (by rwa [List.length_set])]
  by_cases same : node = parent
  · subst same
    cases found.symm.trans present
    refine ⟨owner.addChild name tree.nodes.length, by rw [left, List.getElem?_set_self inside],
      addChild_path owner name _, addChild_data owner name _, fun other child => ?_⟩
    rw [get_addChild]
    simp
  · refine ⟨old, by rw [left, List.getElem?_set_ne (Ne.symm same), present], rfl, rfl, fun other child => ?_⟩
    simp [same]

theorem grown_cases (tree : Tree K A) (parent : Nat) (owner : Node K) (name : K)
    (found : tree.nodes[parent]? = some owner) (node : Nat) (kid : Node K)
    (present : (tree.grown parent owner name).nodes[node]? = some kid) :
    (node = tree.nodes.length ∧ kid = Node.start (owner.path ++ [name])) ∨
      ∃ old, tree.nodes[node]? = some old ∧ tree.Grew parent owner name node old kid := by
  have bound := (List.getElem?_eq_some_iff.mp present).1
  simp only [grown, List.length_append, List.length_set, List.length_singleton] at bound
  rcases Nat.lt_succ_iff_lt_or_eq.mp bound with before | rfl
  · obtain ⟨again, also, grew⟩ := tree.grown_old parent owner name found node _ (List.getElem?_eq_getElem before)
    cases present.symm.trans also
    exact .inr ⟨_, List.getElem?_eq_getElem before, grew⟩
  · exact .inl ⟨rfl, Option.some.inj (present.symm.trans (tree.grown_new parent owner name))⟩

theorem walk_kept (tree : Tree K A) (parent : Nat) (owner : Node K) (name : K)
    (found : tree.nodes[parent]? = some owner) (path : List K) (start node : Nat)
    (walked : tree.walk start path = some node) : (tree.grown parent owner name).walk start path = some node := by
  induction path generalizing start with
  | nil => exact walked
  | cons step rest ih =>
      rw [walk] at walked
      split at walked
      · cases walked
      · rename_i old present
        split at walked
        · cases walked
        · rename_i child known
          obtain ⟨kid, also, grew⟩ := tree.grown_old parent owner name found start old present
          rw [walk, also]
          dsimp only
          rw [(grew.children step child).mpr (.inl known)]
          exact ih child walked

-- A way that is new ends at the new node, which has no children yet.
theorem walk_grown (tree : Tree K A) (parent : Nat) (owner : Node K) (name : K)
    (found : tree.nodes[parent]? = some owner) (path : List K) (start node : Nat)
    (walked : (tree.grown parent owner name).walk start path = some node) :
    node = tree.nodes.length ∨ tree.walk start path = some node := by
  induction path generalizing start with
  | nil => exact .inr walked
  | cons step rest ih =>
      rw [walk] at walked
      split at walked
      · cases walked
      · rename_i kid present
        split at walked
        · cases walked
        · rename_i child known
          rcases tree.grown_cases parent owner name found start kid present with ⟨_, rfl⟩ | ⟨old, was, grew⟩
          · cases known
          · rcases (grew.children step child).mp known with before | ⟨_, _, _, rfl⟩
            · rw [walk, was]
              dsimp only
              rw [before]
              exact ih child walked
            · rcases ih tree.nodes.length walked with new | outside
              · exact .inl new
              · cases rest with
                | nil =>
                    cases outside
                    exact .inl rfl
                | cons next others =>
                    rw [walk, List.getElem?_eq_none (Nat.le_refl _)] at outside
                    cases outside

theorem grown_slot (tree : Tree K A) (parent : Nat) (owner : Node K) (name : K)
    (found : tree.nodes[parent]? = some owner) (node : Nat) (key : K) (doc : Doc Nat K A) :
    (tree.grown parent owner name).Slot node key doc ↔ tree.Slot node key doc := by
  constructor
  · rintro ⟨kid, cell, present, known, holds, own⟩
    rcases tree.grown_cases parent owner name found node kid present with ⟨_, rfl⟩ | ⟨old, was, grew⟩
    · cases known
    · exact ⟨old, cell, was, grew.data ▸ known, holds, own⟩
  · rintro ⟨old, cell, was, known, holds, own⟩
    obtain ⟨kid, present, grew⟩ := tree.grown_old parent owner name found node old was
    exact ⟨kid, cell, present, grew.data.symm ▸ known, holds, own⟩

theorem child_inv (tree : Tree K A) (inv : tree.Inv) (parent : Nat) (owner : Node K) (name : K)
    (found : tree.nodes[parent]? = some owner) (free : name ∉ owner.data.keys) :
    (tree.grown parent owner name).Inv := by
  have slots := tree.grown_slot parent owner name found
  have older := (List.getElem?_eq_some_iff.mp found).1
  constructor
  · obtain ⟨top, present, start⟩ := inv.rooted
    obtain ⟨kid, also, grew⟩ := tree.grown_old parent owner name found 0 top present
    exact ⟨kid, also, grew.path.trans start⟩
  · intro node kid other child present known
    rcases tree.grown_cases parent owner name found node kid present with ⟨_, rfl⟩ | ⟨old, was, grew⟩
    · cases known
    · rcases (grew.children other child).mp known with before | ⟨rfl, rfl, _, rfl⟩
      · obtain ⟨later, next, reached, path⟩ := inv.edges node old other child was before
        obtain ⟨again, also, same⟩ := tree.grown_old parent owner name found child next reached
        exact ⟨later, again, also, by rw [same.path, path, grew.path]⟩
      · cases found.symm.trans was
        exact ⟨older, _, tree.grown_new node owner other, by rw [grew.path]; rfl⟩
  · intro node kid key present member
    rcases tree.grown_cases parent owner name found node kid present with ⟨_, rfl⟩ | ⟨old, was, grew⟩
    · cases member
    · rw [grew.data] at member
      intro named
      obtain ⟨child, known⟩ := (kid.children.mem_keys_iff key).mp named
      rcases (grew.children key child).mp known with before | ⟨rfl, rfl, _, _⟩
      · exact inv.keys node old key was member ((old.children.mem_keys_iff key).mpr ⟨child, before⟩)
      · cases found.symm.trans was
        exact free member
  · intro node kid key cell present known
    rcases tree.grown_cases parent owner name found node kid present with ⟨_, rfl⟩ | ⟨old, was, grew⟩
    · cases known
    · exact inv.readable node old key cell was (grew.data ▸ known)
  · intro node key doc slot
    exact inv.once node key doc ((slots node key doc).mp slot)
  · intro node key doc other second next slot also
    exact inv.separate node key doc other second next ((slots node key doc).mp slot) ((slots other second next).mp also)
  · intro path node key doc walked slot
    have before := (slots node key doc).mp slot
    rcases tree.walk_grown parent owner name found path 0 node walked with rfl | old
    · obtain ⟨_, _, outside, _⟩ := before
      rw [List.getElem?_eq_none (Nat.le_refl _)] at outside
      cases outside
    · exact inv.contents path node key doc old before
  · intro entry member
    obtain ⟨node, doc, walked, slot⟩ := inv.logged entry member
    exact ⟨node, doc, tree.walk_kept parent owner name found entry.path 0 node walked, (slots node entry.key doc).mpr slot⟩

def opened (tree : Tree K A) (node : Nat) (owner : Node K) (key : K) : Tree K A := { tree with
  heap := tree.heap ++ [.dict Dict.empty]
  nodes := tree.nodes.set node { owner with data := owner.data.set key tree.heap.length } }

theorem opened_node (tree : Tree K A) (node : Nat) (owner : Node K) (key : K) (found : tree.nodes[node]? = some owner)
    (other : Nat) (kid : Node K) : (tree.opened node owner key).nodes[other]? = some kid ↔
      (other = node ∧ kid = { owner with data := owner.data.set key tree.heap.length }) ∨
        (other ≠ node ∧ tree.nodes[other]? = some kid) := by
  have inside := (List.getElem?_eq_some_iff.mp found).1
  by_cases same : other = node
  · subst same
    simp [opened, inside, eq_comm]
  · simp [opened, List.getElem?_set_ne (Ne.symm same), same]

theorem opened_holds (tree : Tree K A) (node : Nat) (owner : Node K) (key : K) (doc : Doc Nat K A)
    (holds : Holds tree.heap doc) : Holds (tree.opened node owner key).heap doc := by
  apply holds_agree tree.heap _ doc holds
  intro cell labelled
  exact List.getElem?_append_left (holds_labels tree.heap doc holds cell labelled)

theorem opened_walk (tree : Tree K A) (node : Nat) (owner : Node K) (key : K) (found : tree.nodes[node]? = some owner)
    (path : List K) (start : Nat) : (tree.opened node owner key).walk start path = tree.walk start path := by
  apply walk_same tree (tree.opened node owner key)
  intro other
  obtain ⟨inside, here⟩ := List.getElem?_eq_some_iff.mp found
  by_cases same : other = node
  · subst same
    simp [opened, inside, here]
  · simp [opened, List.getElem?_set_ne (Ne.symm same)]

theorem opened_slot (tree : Tree K A) (inv : tree.Inv) (node : Nat) (owner : Node K) (key : K)
    (found : tree.nodes[node]? = some owner) (new : owner.data.get key = none) (other : Nat) (name : K)
    (doc : Doc Nat K A) : (tree.opened node owner key).Slot other name doc ↔
      (other = node ∧ name = key ∧ doc = .dict tree.heap.length []) ∨ tree.Slot other name doc := by
  have fresh : (tree.opened node owner key).heap[tree.heap.length]? = some (.dict Dict.empty) := by simp [opened]
  have empty : Holds (tree.opened node owner key).heap (.dict tree.heap.length []) :=
    .dict _ _ Dict.empty fresh rfl nofun
  -- A document in the new heap whose dict is of the tree was in the old one.
  have back (place : Nat) (kid : Node K) (slot : K) (cell : Nat) (present : tree.nodes[place]? = some kid)
      (known : kid.data.get slot = some cell) (holds : Holds (tree.opened node owner key).heap doc)
      (own : doc.dictLabel = some cell) : tree.Slot place slot doc := by
    obtain ⟨old, stands, label⟩ := inv.readable place kid slot cell present known
    have same := holds_unique _ doc old holds (tree.opened_holds node owner key old stands)
      ((label_val doc cell own).trans (label_val old cell label).symm)
    exact ⟨kid, cell, present, known, by rwa [same], own⟩
  constructor
  · rintro ⟨kid, cell, present, known, holds, own⟩
    rcases (tree.opened_node node owner key found other kid).mp present with ⟨rfl, rfl⟩ | ⟨_, was⟩
    · rw [Dict.get_set] at known
      split at known
      · rename_i same
        cases known
        exact .inl ⟨rfl, same.symm, holds_unique _ doc _ holds empty (label_val doc _ own)⟩
      · exact .inr (back other owner name cell found known holds own)
    · exact .inr (back other kid name cell was known holds own)
  · rintro (⟨rfl, rfl, rfl⟩ | ⟨kid, cell, was, known, holds, own⟩)
    · exact ⟨_, tree.heap.length, (tree.opened_node other owner name found other _).mpr (.inl ⟨rfl, rfl⟩),
        by rw [Dict.get_set, if_pos rfl], empty, rfl⟩
    · have stands := tree.opened_holds node owner key doc holds
      by_cases same : other = node
      · subst same
        cases found.symm.trans was
        refine ⟨_, cell, (tree.opened_node other owner key found other _).mpr (.inl ⟨rfl, rfl⟩), ?_, stands, own⟩
        rw [Dict.get_set, if_neg, known]
        rintro rfl
        rw [new] at known
        cases known
      · exact ⟨kid, cell, (tree.opened_node node owner key found other kid).mpr (.inr ⟨same, was⟩), known, stands, own⟩

-- A key that is new has no publications yet, and its dict is in nobody's hands.
section Opened

variable (tree : Tree K A) (inv : tree.Inv) (node : Nat) (owner : Node K) (key : K)
  (found : tree.nodes[node]? = some owner) (new : owner.data.get key = none)

include inv found

theorem opened_edges (other : Nat) (kid : Node K) (name : K) (child : Nat)
    (present : (tree.opened node owner key).nodes[other]? = some kid) (known : kid.children.get name = some child) :
    other < child ∧ ∃ next : Node K, (tree.opened node owner key).nodes[child]? = some next ∧
      next.path = kid.path ++ [name] := by
  have nodes := tree.opened_node node owner key found
  have was : ∃ old : Node K, tree.nodes[other]? = some old ∧ old.children = kid.children ∧ old.path = kid.path := by
    rcases (nodes other kid).mp present with ⟨rfl, rfl⟩ | ⟨_, was⟩
    · exact ⟨owner, found, rfl, rfl⟩
    · exact ⟨kid, was, rfl, rfl⟩
  obtain ⟨old, before, children, path⟩ := was
  obtain ⟨later, next, reached, below⟩ := inv.edges other old name child before (children ▸ known)
  rw [← path]
  by_cases same : child = node
  · subst same
    cases found.symm.trans reached
    exact ⟨later, _, (nodes child _).mpr (.inl ⟨rfl, rfl⟩), below⟩
  · exact ⟨later, next, (nodes child next).mpr (.inr ⟨same, reached⟩), below⟩

include new

-- The new dictionary is nowhere in the slots there were.
theorem opened_separate (other : Nat) (name : K) (doc : Doc Nat K A) (second : Nat) (place : K) (next : Doc Nat K A)
    (slot : (tree.opened node owner key).Slot other name doc)
    (also : (tree.opened node owner key).Slot second place next)
    (differ : other ≠ second ∨ name ≠ place) : ∀ cell ∈ doc.dicts, cell ∉ next.labels := by
  have slots := tree.opened_slot inv node owner key found new
  have outside (other : Nat) (name : K) (doc : Doc Nat K A) (slot : tree.Slot other name doc) :
      tree.heap.length ∉ doc.labels := by
    obtain ⟨_, _, _, _, holds, _⟩ := slot
    intro member
    exact Nat.lt_irrefl _ (holds_labels tree.heap doc holds _ member)
  rcases (slots other name doc).mp slot with ⟨rfl, rfl, rfl⟩ | old
  · rcases (slots second place next).mp also with ⟨rfl, rfl, _⟩ | known
    · simp at differ
    · intro cell member
      rw [Doc.dicts_dict, Doc.dictsOf, List.flatMap_nil, List.mem_singleton] at member
      rw [member]
      exact outside second place next known
  · rcases (slots second place next).mp also with ⟨rfl, rfl, rfl⟩ | known
    · intro cell member labelled
      rw [Doc.labels_dict, Doc.labelsOf, List.flatMap_nil, List.mem_singleton] at labelled
      exact outside other name doc old (labelled ▸ dicts_labels doc cell member)
    · exact inv.separate other name doc second place next old known differ

theorem unopened_values (path : List K) (walked : tree.walk 0 path = some node) : tree.valuesAt path key = [] := by
  rw [valuesAt, List.map_eq_nil_iff, List.filter_eq_nil_iff]
  intro entry member same
  simp only [decide_eq_true_eq] at same
  obtain ⟨place, doc, reached, kid, cell, present, known, _⟩ := inv.logged entry member
  rw [same.1, walked] at reached
  cases reached
  cases found.symm.trans present
  rw [same.2, new] at known
  cases known

end Opened

theorem open_inv (tree : Tree K A) (inv : tree.Inv) (node : Nat) (owner : Node K) (key : K)
    (found : tree.nodes[node]? = some owner) (new : owner.data.get key = none) (free : key ∉ owner.children.keys) :
    (tree.opened node owner key).Inv := by
  have slots := tree.opened_slot inv node owner key found new
  have nodes := tree.opened_node node owner key found
  have walks (path : List K) := tree.opened_walk node owner key found path 0
  apply Inv.mk
  · obtain ⟨top, present, start⟩ := inv.rooted
    by_cases same : 0 = node
    · subst same
      cases found.symm.trans present
      exact ⟨_, (nodes 0 _).mpr (.inl ⟨rfl, rfl⟩), start⟩
    · exact ⟨top, (nodes 0 top).mpr (.inr ⟨same, present⟩), start⟩
  · exact tree.opened_edges inv node owner key found
  · intro other kid name present member
    rcases (nodes other kid).mp present with ⟨rfl, rfl⟩ | ⟨_, was⟩
    · obtain ⟨cell, known⟩ := (Dict.mem_keys_iff _ name).mp member
      rw [Dict.get_set] at known
      split at known
      · rename_i same
        exact same ▸ free
      · exact inv.keys other owner name found ((owner.data.mem_keys_iff name).mpr ⟨cell, known⟩)
    · exact inv.keys other kid name was member
  · intro other kid name cell present known
    rcases (nodes other kid).mp present with ⟨rfl, rfl⟩ | ⟨_, was⟩
    · rw [Dict.get_set] at known
      split at known
      · rename_i same
        cases known
        obtain ⟨_, _, _, _, holds, own⟩ := (slots other key _).mpr (.inl ⟨rfl, rfl, rfl⟩)
        exact ⟨_, holds, rfl⟩
      · obtain ⟨doc, holds, own⟩ := inv.readable other owner name cell found known
        exact ⟨doc, tree.opened_holds other owner key doc holds, own⟩
    · obtain ⟨doc, holds, own⟩ := inv.readable other kid name cell was known
      exact ⟨doc, tree.opened_holds node owner key doc holds, own⟩
  · intro other name doc slot
    rcases (slots other name doc).mp slot with ⟨_, _, rfl⟩ | old
    · intro cell member
      simp_all [Doc.dictsOf, Doc.labelsOf]
    · exact inv.once other name doc old
  · exact tree.opened_separate inv node owner key found new
  · intro path other name doc walked slot
    rw [walks] at walked
    rcases (slots other name doc).mp slot with ⟨rfl, rfl, rfl⟩ | old
    · show _ = mergeAll (tree.valuesAt path name)
      rw [tree.unopened_values inv other owner name found new path walked]
      rfl
    · exact inv.contents path other name doc walked old
  · intro entry member
    obtain ⟨place, doc, walked, slot⟩ := inv.logged entry member
    exact ⟨place, doc, (walks entry.path).trans walked, (slots place entry.key doc).mpr (.inr slot)⟩

def recorded (tree : Tree K A) (next : Heap K A) (entry : Publication K A) : Tree K A :=
  { tree with heap := next, published := tree.published ++ [entry] }

theorem recorded_values (tree : Tree K A) (next : Heap K A) (entry : Publication K A) (path : List K) (key : K) :
    (tree.recorded next entry).valuesAt path key =
      tree.valuesAt path key ++ if entry.path = path ∧ entry.key = key then [entry.value] else [] := by
  rw [valuesAt, valuesAt, recorded]
  dsimp only
  rw [List.filter_append, List.map_append, List.filter_singleton]
  by_cases same : entry.path = path ∧ entry.key = key
  · rw [if_pos same, decide_eq_true same]
    rfl
  · rw [if_neg same, decide_eq_false same]
    rfl

theorem merged_slot (tree : Tree K A) (inv : tree.Inv) (node : Nat) (key : K) (dst src : Doc Nat K A) (cell : Nat)
    (next : Heap K A) (entry : Publication K A) (slot : tree.Slot node key dst) (source : src.dictLabel = some cell)
    (apart : ∀ other name doc, tree.Slot other name doc → Apart src doc) (merges : Merges tree.heap next dst src)
    (other : Nat) (name : K) (doc : Doc Nat K A) : (tree.recorded next entry).Slot other name doc ↔
      (other = node ∧ name = key ∧ doc = merge dst src) ∨
        ((other ≠ node ∨ name ≠ key) ∧ tree.Slot other name doc) := by
  have kept (place : Nat) (slotKey : K) (held : Doc Nat K A) (also : tree.Slot place slotKey held)
      (differ : place ≠ node ∨ slotKey ≠ key) : Holds next held := by
    have holds : Holds tree.heap held := by
      obtain ⟨_, _, _, _, holds, _⟩ := also
      exact holds
    apply holds_agree tree.heap next held holds
    intro cell labelled
    apply merges.frame cell
    · intro touched
      have differs : node ≠ place ∨ key ≠ slotKey := differ.imp Ne.symm Ne.symm
      exact inv.separate node key dst place slotKey held slot also differs cell touched labelled
    · intro touched
      exact (apart place slotKey held also).1 cell touched labelled
  obtain ⟨owner, inner, found, known, holds, own⟩ := slot
  have label := merge_label dst src inner cell own source
  constructor
  · rintro ⟨kid, place, present, given, stands, mine⟩
    by_cases same : other = node ∧ name = key
    · obtain ⟨rfl, rfl⟩ := same
      cases found.symm.trans present
      cases known.symm.trans given
      exact .inl ⟨rfl, rfl, holds_unique next doc _ stands merges.merged
        ((label_val doc inner mine).trans (label_val _ inner label).symm)⟩
    · have differ : other ≠ node ∨ name ≠ key := not_and_or.mp same
      obtain ⟨old, was, label⟩ := inv.readable other kid name place present given
      have before : tree.Slot other name old := ⟨kid, place, present, given, was, label⟩
      have equal := holds_unique next doc old stands (kept other name old before differ)
        ((label_val doc place mine).trans (label_val old place label).symm)
      exact .inr ⟨differ, equal ▸ before⟩
  · rintro (⟨rfl, rfl, rfl⟩ | ⟨differ, before⟩)
    · exact ⟨owner, inner, found, known, merges.merged, label⟩
    · obtain ⟨kid, place, present, given, _, mine⟩ := before
      exact ⟨kid, place, present, given, kept other name doc ⟨kid, place, present, given, ‹_›, mine⟩ differ, mine⟩

theorem mergeAll_append (values : List (Json K A)) (value : Json K A) :
    mergeAll (values ++ [value]) = merge (mergeAll values) value := by
  rw [mergeAll, mergeAll, List.foldl_append]
  rfl

-- The merged dictionary shares nothing with the other slots.
theorem merged_apart (tree : Tree K A) (inv : tree.Inv) (node : Nat) (key : K) (dst src : Doc Nat K A)
    (slot : tree.Slot node key dst) (apart : ∀ other name doc, tree.Slot other name doc → Apart src doc)
    (other : Nat) (name : K) (doc : Doc Nat K A) (also : tree.Slot other name doc)
    (differ : other ≠ node ∨ name ≠ key) :
    (∀ cell ∈ (merge dst src).dicts, cell ∉ doc.labels) ∧ ∀ cell ∈ doc.dicts, cell ∉ (merge dst src).labels := by
  apply And.intro
  · intro cell member
    rcases merge_dicts_mem dst src cell member with mine | yours
    · exact inv.separate node key dst other name doc slot also (differ.imp Ne.symm Ne.symm) cell mine
    · exact (apart other name doc also).1 cell yours
  · intro cell member labelled
    have bound := merge_labels dst src cell
    rw [List.count_eq_zero.mpr (inv.separate other name doc node key dst also slot differ cell member),
      List.count_eq_zero.mpr ((apart other name doc also).2 cell member)] at bound
    exact List.count_eq_zero.mp (Nat.le_zero.mp bound) labelled

theorem merge_inv (tree : Tree K A) (inv : tree.Inv) (node : Nat) (owner : Node K) (key : K) (dst src : Doc Nat K A)
    (cell : Nat) (next : Heap K A) (found : tree.nodes[node]? = some owner) (attached : tree.Attached node owner)
    (slot : tree.Slot node key dst) (source : src.dictLabel = some cell) (once : Once src.dicts src.labels)
    (apart : ∀ other name doc, tree.Slot other name doc → Apart src doc) (merges : Merges tree.heap next dst src) :
    (tree.recorded next ⟨owner.path, key, content src⟩).Inv := by
  have slots := tree.merged_slot inv node key dst src cell next ⟨owner.path, key, content src⟩ slot source apart merges
  have walks (path : List K) : (tree.recorded next ⟨owner.path, key, content src⟩).walk 0 path = tree.walk 0 path :=
    walk_same tree (tree.recorded next _) (fun _ => rfl) path 0
  have shared := tree.merged_apart inv node key dst src slot apart
  apply Inv.mk
  · exact inv.rooted
  · exact inv.edges
  · exact inv.keys
  · intro other kid name place present known
    obtain ⟨doc, holds, own⟩ := inv.readable other kid name place present known
    by_cases same : other = node ∧ name = key
    · obtain ⟨rfl, rfl⟩ := same
      obtain ⟨again, mine, reached, given, stands, label⟩ := (slots other name _).mpr (.inl ⟨rfl, rfl, rfl⟩)
      cases present.symm.trans reached
      cases known.symm.trans given
      exact ⟨_, stands, label⟩
    · obtain ⟨_, _, _, _, stands, label⟩ := (slots other name doc).mpr
        (.inr ⟨not_and_or.mp same, kid, place, present, known, holds, own⟩)
      exact ⟨doc, stands, own⟩
  · intro other name doc also
    rcases (slots other name doc).mp also with ⟨_, _, rfl⟩ | ⟨_, before⟩
    · have both := once_append dst src (inv.once node key dst slot) once (apart node key dst slot).2
        (apart node key dst slot).1
      apply both.mono
      · intro place member
        exact List.mem_append.mpr (merge_dicts_mem dst src place member)
      · intro place
        rw [List.count_append]
        exact merge_labels dst src place
    · exact inv.once other name doc before
  · intro other name doc second place held also known differ
    rcases (slots other name doc).mp also with ⟨rfl, rfl, rfl⟩ | ⟨apart, before⟩
    · rcases (slots second place held).mp known with ⟨rfl, rfl, _⟩ | ⟨apart, after⟩
      · simp at differ
      · exact (shared second place held after apart).1
    · rcases (slots second place held).mp known with ⟨rfl, rfl, rfl⟩ | ⟨_, after⟩
      · exact (shared other name doc before apart).2
      · exact inv.separate other name doc second place held before after differ
  · intro path other name doc walked also
    rw [walks] at walked
    rw [recorded_values]
    rcases (slots other name doc).mp also with ⟨rfl, rfl, rfl⟩ | ⟨differ, before⟩
    · obtain ⟨last, reached, same⟩ := tree.walk_root inv path other walked
      cases found.symm.trans reached
      have was : content dst = mergeAll (tree.valuesAt path name) := inv.contents path other name dst walked slot
      rw [if_pos ⟨same, rfl⟩, mergeAll_append, ← was]
      exact merge_relabel _ dst src
    · rw [if_neg, List.append_nil]
      · exact inv.contents path other name doc walked before
      · rintro ⟨rfl, rfl⟩
        rw [attached] at walked
        cases walked
        simp at differ
  · intro entry member
    rcases List.mem_append.mp member with old | new
    · obtain ⟨place, doc, walked, logged⟩ := inv.logged entry old
      by_cases same : place = node ∧ entry.key = key
      · exact ⟨place, _, (walks entry.path).trans walked, (slots place entry.key _).mpr (.inl ⟨same.1, same.2, rfl⟩)⟩
      · exact ⟨place, doc, (walks entry.path).trans walked,
          (slots place entry.key doc).mpr (.inr ⟨not_and_or.mp same, logged⟩)⟩
    · rw [List.mem_singleton.mp new]
      exact ⟨node, _, (walks owner.path).trans attached, (slots node key _).mpr (.inl ⟨rfl, rfl, rfl⟩)⟩

-- A publication under a key that has its dict.
theorem known_inv (tree : Tree K A) (inv : tree.Inv) (node : Nat) (owner : Node K) (key : K) (cell value : Nat)
    (src : Doc Nat K A) (found : tree.nodes[node]? = some owner) (known : owner.data.get key = some cell)
    (attached : tree.Attached node owner) (given : Holds tree.heap src) (source : src.dictLabel = some value)
    (once : Once src.dicts src.labels) (apart : ∀ other name doc, tree.Slot other name doc → Apart src doc) :
    ∃ next, deepMerge tree.heap cell value = .done next ∧
      (tree.recorded next ⟨owner.path, key, content src⟩).Inv := by
  obtain ⟨dst, holds, own⟩ := inv.readable node owner key cell found known
  have slot : tree.Slot node key dst := ⟨owner, cell, found, known, holds, own⟩
  have both := once_append dst src (inv.once node key dst slot) once (apart node key dst slot).2
    (apart node key dst slot).1
  obtain ⟨next, done, merges⟩ := deep_merge tree.heap dst src cell value own source holds given both
  exact ⟨next, done, tree.merge_inv inv node owner key dst src value next found attached slot source once apart merges⟩

theorem publish_inv (tree target : Tree K A) (inv : tree.Inv) (node : Nat) (owner : Node K) (key : K) (value : Nat)
    (found : tree.nodes[node]? = some owner) (free : key ∉ owner.children.keys)
    (attached : tree.Attached node owner) (src : Doc Nat K A) (readable : read tree.heap (.ref value) = some src)
    (source : src.dictLabel = some value) (once : Once src.dicts src.labels)
    (others : ∀ other ∈ tree.stored, Apart src other) (moved : tree.publish node key value = some target) :
    target.Inv := by
  obtain ⟨given, _⟩ := (read_iff tree.heap _ src).mp readable
  have apart (other : Nat) (name : K) (doc : Doc Nat K A) (slot : tree.Slot other name doc) : Apart src doc :=
    others doc (tree.slot_stored other name doc slot)
  rw [publish, found, Option.map_some, Option.some.injEq] at moved
  subst moved
  simp only [readable]
  cases known : owner.data.get key with
  | some cell =>
      obtain ⟨next, done, after⟩ :=
        tree.known_inv inv node owner key cell value src found known attached given source once apart
      simp only [openKey, known, done, Merged.heap]
      exact after
  | none =>
      have inside := (tree.opened_node node owner key found node _).mpr (.inl ⟨rfl, rfl⟩)
      obtain ⟨next, done, after⟩ := (tree.opened node owner key).known_inv
        (tree.open_inv inv node owner key found known free) node _ key tree.heap.length value src inside
        (by rw [Dict.get_set, if_pos rfl]) ((tree.opened_walk node owner key found owner.path 0).trans attached)
        (tree.opened_holds node owner key src given) source once (by
          intro other name doc slot
          rcases (tree.opened_slot inv node owner key found known other name doc).mp slot with ⟨_, _, rfl⟩ | old
          · have fresh : tree.heap.length ∉ src.labels :=
              fun labelled => Nat.lt_irrefl _ (holds_labels tree.heap src given _ labelled)
            constructor
            · intro cell member labelled
              rw [Doc.labels_dict, Doc.labelsOf, List.flatMap_nil, List.mem_singleton] at labelled
              exact fresh (labelled ▸ dicts_labels src cell member)
            · intro cell member
              rw [Doc.dicts_dict, Doc.dictsOf, List.flatMap_nil, List.mem_singleton] at member
              rwa [member]
          · exact apart other name doc old)
      simp only [opened] at done
      simp only [openKey, known, done, Merged.heap]
      exact after

theorem step_inv (tree : Tree K A) (action : Action K A) (target : Tree K A) (inv : tree.Inv)
    (allowed : tree.Allowed action) (moved : (system K A).step tree action = some target) : target.Inv := by
  cases action with
  | objects heap =>
      cases moved
      apply tree.heap_inv inv heap
      intro node key doc slot
      have same := allowed.1 doc (tree.slot_stored node key doc slot)
      obtain ⟨_, _, _, _, holds, _⟩ := slot
      exact holds_agree tree.heap heap doc holds same
  | child parent name =>
      obtain ⟨owner, found, rfl⟩ := Option.map_eq_some_iff.mp moved
      exact tree.child_inv inv parent owner name found (allowed.1 owner found)
  | publish node key value =>
      cases found : tree.nodes[node]? with
      | none => simp [system, step, publish, found] at moved
      | some owner =>
          obtain ⟨⟨free, src, reads, source⟩, attached, sound⟩ := allowed
          obtain ⟨once, others⟩ := sound src reads
          exact tree.publish_inv target inv node owner key value found (free owner found) (attached owner found) src
            reads source once others moved

theorem root_inv : (root : Tree K A).Inv := by
  have lone (node : Nat) (owner : Node K) (found : (root : Tree K A).nodes[node]? = some owner) :
      owner = Node.start [] := by
    cases node with
    | zero => exact (Option.some.inj found).symm
    | succ node => cases found
  have absent (node : Nat) (key : K) (doc : Doc Nat K A) : ¬ (root : Tree K A).Slot node key doc := by
    rintro ⟨owner, cell, found, known, _⟩
    rw [lone node owner found] at known
    cases known
  constructor
  · exact ⟨Node.start [], rfl, rfl⟩
  · intro node owner name child found known
    rw [lone node owner found] at known
    cases known
  · intro node owner key found member
    rw [lone node owner found] at member
    cases member
  · intro node owner key cell found known
    rw [lone node owner found] at known
    cases known
  · exact fun node key doc slot => absurd slot (absent node key doc)
  · exact fun node key doc _ _ _ slot => absurd slot (absent node key doc)
  · exact fun _ node key doc _ slot => absurd slot (absent node key doc)
  · exact nofun

theorem publications_gathered (tree : Tree K A) (reached : Reached (system K A) Allowed tree) : tree.Gathered := by
  apply inv_gathered
  apply reached_invariant (system K A) Allowed Inv _ _ tree reached
  · rintro _ rfl
    exact root_inv
  · exact fun source action target inv allowed moved => source.step_inv action target inv allowed moved

def leafAt (tree : Tree K A) (path : List K) : Option A := tree.gather.bind fun result => result.leaf path

-- Two publications of a key on one node, and one on its parent.
def servoConfig : List (Action String Nat) :=
  [.child 0 "arm", .objects [.dict (Dict.empty.set "limits" (.ref 1)), .dict (Dict.empty.set "low" (.atom 10)),
      .dict (Dict.empty.set "limits" (.ref 3)), .dict (Dict.empty.set "high" (.atom 90)),
      .dict (Dict.empty.set "speed" (.atom 5))],
    .publish 1 "servo" 0, .publish 1 "servo" 2, .publish 0 "base" 4]

theorem publications_gathered_servo : ∃ tree : Tree String Nat, Reached (system String Nat) Allowed tree ∧
    tree.Gathered ∧ tree.published.length = 3 ∧ tree.leafAt ["arm", "servo", "limits", "low"] = some 10 ∧
      tree.leafAt ["arm", "servo", "limits", "high"] = some 90 ∧ tree.leafAt ["base", "speed"] = some 5 := by
  obtain ⟨tree, reached, facts⟩ := replay_exists (system String Nat) Allowed servoConfig root
    (fun tree => tree.published.length = 3 ∧ tree.leafAt ["arm", "servo", "limits", "low"] = some 10 ∧
      tree.leafAt ["arm", "servo", "limits", "high"] = some 90 ∧ tree.leafAt ["base", "speed"] = some 5) rfl
    (by decide +kernel)
  exact ⟨tree, reached, publications_gathered tree reached, facts⟩

theorem leaf_gathered (tree : Tree K A) (gathered : tree.Gathered) (entry : Publication K A)
    (member : entry ∈ tree.published) (below : List K) : tree.leafAt (entry.path ++ [entry.key] ++ below) =
      (mergeAll (tree.valuesAt entry.path entry.key)).leaf below := by
  obtain ⟨result, done, found⟩ := gathered
  rw [leafAt, done, Option.bind_some, Json.leaf_append, found entry member]
  rfl

-- A second child() of one name gives a node that gather() never meets.
def secondChild : List (Action String Nat) :=
  [.child 0 "arm", .child 0 "arm", .objects [.dict (Dict.empty.set "speed" (.atom 5))], .publish 2 "servo" 0]

-- One dict under two keys: a later publication under one is seen under both.
def sharedDict : List (Action String Nat) :=
  [.objects [.dict (Dict.empty.set "limits" (.ref 1)), .dict Dict.empty,
      .dict (Dict.empty.set "limits" (.ref 3)), .dict (Dict.empty.set "low" (.atom 10))],
    .publish 0 "left" 0, .publish 0 "right" 0, .publish 0 "left" 2]

theorem missing_publications :
    (∃ tree : Tree String Nat, Reached (system String Nat) Asked tree ∧ ¬ tree.Gathered ∧
      tree.leafAt ["arm", "servo", "speed"] = none) ∧
    ∃ tree : Tree String Nat, Reached (system String Nat) Asked tree ∧ ¬ tree.Gathered ∧
      tree.leafAt ["right", "limits", "low"] = some 10 := by
  constructor
  · obtain ⟨tree, reached, shown, entry, member, differ⟩ := replay_exists (system String Nat) Asked secondChild root
      (fun tree => tree.leafAt ["arm", "servo", "speed"] = none ∧ ∃ entry ∈ tree.published,
        tree.leafAt (entry.path ++ [entry.key] ++ ["speed"]) ≠
          (mergeAll (tree.valuesAt entry.path entry.key)).leaf ["speed"]) rfl (by decide +kernel)
    exact ⟨tree, reached, fun gathered => differ (tree.leaf_gathered gathered entry member _), shown⟩
  · obtain ⟨tree, reached, shown, entry, member, differ⟩ := replay_exists (system String Nat) Asked sharedDict root
      (fun tree => tree.leafAt ["right", "limits", "low"] = some 10 ∧ ∃ entry ∈ tree.published,
        tree.leafAt (entry.path ++ [entry.key] ++ ["limits", "low"]) ≠
          (mergeAll (tree.valuesAt entry.path entry.key)).leaf ["limits", "low"]) rfl (by decide +kernel)
    exact ⟨tree, reached, fun gathered => differ (tree.leaf_gathered gathered entry member _), shown⟩

end Tree

end Animacharacter.JsonTree
