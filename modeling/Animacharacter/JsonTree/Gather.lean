import Animacharacter.JsonTree.Node

set_option autoImplicit false

namespace Animacharacter.JsonTree

open Objects

variable {K A : Type} [DecidableEq K]

-- The publications of a key on the nodes of one path, merged in their order.
def mergeAll (values : List (Json K A)) : Json K A := values.foldl merge (.dict () [])

namespace Tree

def valuesAt (tree : Tree K A) (path : List K) (key : K) : List (Json K A) :=
  (tree.published.filter fun entry => entry.path = path ∧ entry.key = key).map Publication.value

def Gathered (tree : Tree K A) : Prop :=
  ∃ result, tree.gather = some result ∧ ∀ entry ∈ tree.published,
    result.lookup (entry.path ++ [entry.key]) = some (mergeAll (tree.valuesAt entry.path entry.key))

-- What the tree keeps by reference.
def stored (tree : Tree K A) : List (Doc Nat K A) :=
  tree.nodes.flatMap fun owner => owner.data.entries.filterMap fun entry => read tree.heap (.ref entry.2)

def Apart (doc other : Doc Nat K A) : Prop :=
  (∀ cell ∈ doc.dicts, cell ∉ other.labels) ∧ ∀ cell ∈ other.dicts, cell ∉ doc.labels

instance (doc other : Doc Nat K A) : Decidable (Apart doc other) :=
  inferInstanceAs (Decidable ((∀ cell ∈ doc.dicts, _) ∧ ∀ cell ∈ other.dicts, _))

def Attached (tree : Tree K A) (node : Nat) (owner : Node K) : Prop := tree.walk 0 owner.path = some node

instance (tree : Tree K A) (node : Nat) (owner : Node K) : Decidable (tree.Attached node owner) :=
  inferInstanceAs (Decidable (_ = _))

-- Keys are other names than those of the children, a value is a dict, and nobody
-- else changes an object that the tree keeps.
def Asked (tree : Tree K A) : Action K A → Prop
  | .objects heap => ∀ doc ∈ tree.stored, ∀ cell ∈ doc.labels, heap[cell]? = tree.heap[cell]?
  | .child parent name => ∀ owner ∈ tree.nodes[parent]?, name ∉ owner.data.keys
  | .publish node key value => (∀ owner ∈ tree.nodes[node]?, key ∉ owner.children.keys) ∧
      ∃ doc ∈ read tree.heap (.ref value), doc.dictLabel = some value

instance [DecidableEq A] (tree : Tree K A) (action : Action K A) : Decidable (tree.Asked action) :=
  match action with
  | .objects heap =>
      inferInstanceAs (Decidable (∀ doc ∈ tree.stored, ∀ cell ∈ doc.labels, heap[cell]? = tree.heap[cell]?))
  | .child parent _ => inferInstanceAs (Decidable (∀ owner ∈ tree.nodes[parent]?, _ ∉ owner.data.keys))
  | .publish node _ value => inferInstanceAs (Decidable ((∀ owner ∈ tree.nodes[node]?, _ ∉ owner.children.keys) ∧
      ∃ doc ∈ read tree.heap (.ref value), _))

-- A publication on a node that its path leads to, of a dict that neither holds
-- one of its dicts twice nor shares one with what the tree keeps.
def Places (tree : Tree K A) : Action K A → Prop
  | .objects _ => True
  | .child _ _ => True
  | .publish node _ value => (∀ owner ∈ tree.nodes[node]?, tree.Attached node owner) ∧
      ∀ doc ∈ read tree.heap (.ref value), Once doc.dicts doc.labels ∧ ∀ other ∈ tree.stored, Apart doc other

instance (tree : Tree K A) (action : Action K A) : Decidable (tree.Places action) :=
  match action with
  | .objects _ => inferInstanceAs (Decidable True)
  | .child _ _ => inferInstanceAs (Decidable True)
  | .publish node _ value => inferInstanceAs (Decidable ((∀ owner ∈ tree.nodes[node]?, tree.Attached node owner) ∧
      ∀ doc ∈ read tree.heap (.ref value), Once doc.dicts doc.labels ∧ ∀ other ∈ tree.stored, _))

def Allowed (tree : Tree K A) (action : Action K A) : Prop := tree.Asked action ∧ tree.Places action

instance [DecidableEq A] (tree : Tree K A) (action : Action K A) : Decidable (tree.Allowed action) :=
  inferInstanceAs (Decidable (_ ∧ _))

-- A key of a node with the document that its dict is.
def Slot (tree : Tree K A) (node : Nat) (key : K) (doc : Doc Nat K A) : Prop :=
  ∃ owner cell, tree.nodes[node]? = some owner ∧ owner.data.get key = some cell ∧ Holds tree.heap doc ∧
    doc.dictLabel = some cell

structure Inv (tree : Tree K A) : Prop where
  rooted : ∃ owner, tree.nodes[0]? = some owner ∧ owner.path = []
  edges : ∀ (node : Nat) (owner : Node K) (name : K) (child : Nat),
    tree.nodes[node]? = some owner → owner.children.get name = some child →
      node < child ∧ ∃ kid : Node K, tree.nodes[child]? = some kid ∧ kid.path = owner.path ++ [name]
  keys : ∀ (node : Nat) (owner : Node K) (key : K),
    tree.nodes[node]? = some owner → key ∈ owner.data.keys → key ∉ owner.children.keys
  readable : ∀ (node : Nat) (owner : Node K) (key : K) (cell : Nat),
    tree.nodes[node]? = some owner → owner.data.get key = some cell →
      ∃ doc, Holds tree.heap doc ∧ doc.dictLabel = some cell
  once : ∀ node key doc, tree.Slot node key doc → Once doc.dicts doc.labels
  separate : ∀ node key doc other name second, tree.Slot node key doc → tree.Slot other name second →
    node ≠ other ∨ key ≠ name → ∀ cell ∈ doc.dicts, cell ∉ second.labels
  contents : ∀ path node key doc, tree.walk 0 path = some node → tree.Slot node key doc →
    content doc = mergeAll (tree.valuesAt path key)
  logged : ∀ entry ∈ tree.published, ∃ node doc, tree.walk 0 entry.path = some node ∧ tree.Slot node entry.key doc

omit [DecidableEq K] in
theorem label_val (doc : Doc Nat K A) (cell : Nat) (own : doc.dictLabel = some cell) : doc.val = .ref cell := by
  obtain ⟨parts, rfl⟩ := doc.dict_of_label cell own
  rfl

theorem slot_stored (tree : Tree K A) (node : Nat) (key : K) (doc : Doc Nat K A) (slot : tree.Slot node key doc) :
    doc ∈ tree.stored := by
  obtain ⟨owner, cell, found, known, holds, own⟩ := slot
  apply List.mem_flatMap.mpr
  refine ⟨owner, List.mem_of_getElem? found, List.mem_filterMap.mpr ⟨(key, cell), ?_, ?_⟩⟩
  · exact (owner.data.mem_entries_iff key cell).mpr known
  · exact (read_iff tree.heap _ doc).mpr ⟨holds, label_val doc cell own⟩

theorem walk_path (tree : Tree K A) (inv : tree.Inv) (path : List K) (start : Nat) (owner : Node K)
    (found : tree.nodes[start]? = some owner) (node : Nat) (walked : tree.walk start path = some node) :
    ∃ last : Node K, tree.nodes[node]? = some last ∧ last.path = owner.path ++ path := by
  induction path generalizing start owner with
  | nil =>
      cases walked
      exact ⟨owner, found, (List.append_nil _).symm⟩
  | cons name rest ih =>
      rw [walk, found] at walked
      dsimp only at walked
      cases known : owner.children.get name with
      | none =>
          rw [known] at walked
          cases walked
      | some child =>
          rw [known] at walked
          obtain ⟨_, kid, present, below⟩ := inv.edges start owner name child found known
          obtain ⟨last, reached, path⟩ := ih child kid present walked
          exact ⟨last, reached, by rw [path, below, List.append_assoc, List.singleton_append]⟩

theorem walk_root (tree : Tree K A) (inv : tree.Inv) (path : List K) (node : Nat)
    (walked : tree.walk 0 path = some node) : ∃ last : Node K, tree.nodes[node]? = some last ∧ last.path = path := by
  obtain ⟨owner, found, start⟩ := inv.rooted
  obtain ⟨last, reached, same⟩ := tree.walk_path inv path 0 owner found node walked
  exact ⟨last, reached, by rw [same, start, List.nil_append]⟩

theorem data_kept (heap : Heap K A) (entries : List (K × Nat)) (before result : List (K × Json K A)) (key : K)
    (absent : key ∉ entries.map Prod.fst) (done : buildData heap entries before = some result) :
    Entries.find key result = Entries.find key before := by
  induction entries generalizing before with
  | nil =>
      cases done
      rfl
  | cons entry rest ih =>
      rw [List.map_cons, List.mem_cons, not_or] at absent
      rw [buildData] at done
      split at done
      · cases done
      · rw [ih _ absent.2 done, Entries.find_assign, if_neg (Ne.symm absent.1)]

theorem data_build (heap : Heap K A) (entries : List (K × Nat)) (before : List (K × Json K A))
    (unique : (entries.map Prod.fst).Nodup)
    (readable : ∀ entry ∈ entries, ∃ doc, read heap (.ref entry.2) = some doc) :
    ∃ result, buildData heap entries before = some result ∧
      ∀ key cell doc, (key, cell) ∈ entries → read heap (.ref cell) = some doc →
        Entries.find key result = some (content doc) := by
  induction entries generalizing before with
  | nil => exact ⟨before, rfl, nofun⟩
  | cons entry rest ih =>
      obtain ⟨key, cell⟩ := entry
      rw [List.map_cons, List.nodup_cons] at unique
      obtain ⟨doc, reads⟩ := readable (key, cell) (List.mem_cons_self ..)
      obtain ⟨result, done, found⟩ := ih (Entries.assign key (content doc) before) unique.2
        (fun entry member => readable entry (List.mem_cons_of_mem _ member))
      refine ⟨result, by rw [buildData, reads]; exact done, fun other place given member readsToo => ?_⟩
      rcases List.mem_cons.mp member with head | tail
      · cases head
        cases reads.symm.trans readsToo
        rw [data_kept heap rest _ result key unique.1 done, Entries.find_assign, if_pos rfl]
      · exact found other place given tail readsToo

theorem children_kept (build : Nat → Option (List (K × Json K A))) (entries : List (K × Nat))
    (before result : List (K × Json K A)) (key : K) (absent : key ∉ entries.map Prod.fst)
    (done : buildChildren build entries before = some result) : Entries.find key result = Entries.find key before := by
  induction entries generalizing before with
  | nil =>
      cases done
      rfl
  | cons entry rest ih =>
      rw [List.map_cons, List.mem_cons, not_or] at absent
      rw [buildChildren] at done
      split at done
      · cases done
      · exact ih before absent.2 done
      · rw [ih _ absent.2 done, Entries.find_assign, if_neg (Ne.symm absent.1)]

theorem children_build (build : Nat → Option (List (K × Json K A))) (entries : List (K × Nat))
    (before : List (K × Json K A)) (unique : (entries.map Prod.fst).Nodup)
    (builds : ∀ entry ∈ entries, ∃ part, build entry.2 = some part) :
    ∃ result, buildChildren build entries before = some result ∧
      ∀ name child part, (name, child) ∈ entries → build child = some part → part ≠ [] →
        Entries.find name result = some (.dict () part) := by
  induction entries generalizing before with
  | nil => exact ⟨before, rfl, nofun⟩
  | cons entry rest ih =>
      obtain ⟨name, child⟩ := entry
      rw [List.map_cons, List.nodup_cons] at unique
      obtain ⟨part, built⟩ := builds (name, child) (List.mem_cons_self ..)
      have others : ∀ entry ∈ rest, ∃ part, build entry.2 = some part :=
        fun entry member => builds entry (List.mem_cons_of_mem _ member)
      cases part with
      | nil =>
          obtain ⟨result, done, found⟩ := ih before unique.2 others
          refine ⟨result, by rw [buildChildren, built]; exact done, fun other place given member known full => ?_⟩
          rcases List.mem_cons.mp member with head | tail
          · cases head
            cases built.symm.trans known
            exact absurd rfl full
          · exact found other place given tail known full
      | cons first more =>
          obtain ⟨result, done, found⟩ := ih (Entries.assign name (.dict () (first :: more)) before) unique.2 others
          refine ⟨result, by rw [buildChildren, built]; exact done, fun other place given member known full => ?_⟩
          rcases List.mem_cons.mp member with head | tail
          · cases head
            cases built.symm.trans known
            rw [children_kept build rest _ result name unique.1 done, Entries.find_assign, if_pos rfl]
          · exact found other place given tail known full

-- A node is built of its keys and of the children that have something to tell.
theorem node_build (tree : Tree K A) (inv : tree.Inv) (depth node : Nat) (owner : Node K)
    (found : tree.nodes[node]? = some owner) (deep : tree.nodes.length ≤ node + depth) :
    ∃ result, tree.build depth node = some result ∧
      (∀ key doc, tree.Slot node key doc → Entries.find key result = some (content doc)) ∧
      ∀ name child, owner.children.get name = some child → ∃ part, tree.build (depth - 1) child = some part ∧
        (part ≠ [] → Entries.find name result = some (.dict () part)) := by
  induction depth generalizing node owner with
  | zero =>
      have inside := (List.getElem?_eq_some_iff.mp found).1
      omega
  | succ depth ih =>
      have readable : ∀ entry ∈ owner.data.entries, ∃ doc, read tree.heap (.ref entry.2) = some doc := by
        intro entry member
        obtain ⟨doc, holds, own⟩ := inv.readable node owner entry.1 entry.2 found
          ((owner.data.mem_entries_iff entry.1 entry.2).mp member)
        exact ⟨doc, (read_iff tree.heap _ doc).mpr ⟨holds, label_val doc entry.2 own⟩⟩
      have builds : ∀ entry ∈ owner.children.entries, ∃ part, tree.build depth entry.2 = some part := by
        intro entry member
        obtain ⟨later, kid, present, _⟩ := inv.edges node owner entry.1 entry.2 found
          ((owner.children.mem_entries_iff entry.1 entry.2).mp member)
        obtain ⟨part, built, _⟩ := ih entry.2 kid present (by omega)
        exact ⟨part, built⟩
      obtain ⟨data, dataDone, dataFound⟩ := data_build tree.heap owner.data.entries [] owner.data.unique readable
      obtain ⟨result, done, childFound⟩ :=
        children_build (tree.build depth) owner.children.entries data owner.children.unique builds
      refine ⟨result, ?_, ?_, ?_⟩
      · rw [build, found]
        dsimp only
        rw [dataDone, Option.bind_some, done]
      · rintro key doc ⟨same, cell, again, known, holds, own⟩
        cases found.symm.trans again
        have apart := inv.keys node owner key found ((owner.data.mem_keys_iff key).mpr ⟨cell, known⟩)
        rw [children_kept (tree.build depth) owner.children.entries data result key apart done]
        exact dataFound key cell doc ((owner.data.mem_entries_iff key cell).mpr known)
          ((read_iff tree.heap _ doc).mpr ⟨holds, label_val doc cell own⟩)
      · intro name child known
        have member := (owner.children.mem_entries_iff name child).mpr known
        obtain ⟨part, built⟩ := builds (name, child) member
        exact ⟨part, built, fun full => childFound name child part member built full⟩

theorem build_lookup (tree : Tree K A) (inv : tree.Inv) (path : List K) (depth node last : Nat) (owner : Node K)
    (found : tree.nodes[node]? = some owner) (deep : tree.nodes.length ≤ node + depth)
    (walked : tree.walk node path = some last) (key : K) (doc : Doc Nat K A) (slot : tree.Slot last key doc) :
    ∃ result, tree.build depth node = some result ∧
      Json.lookup (.dict () result) (path ++ [key]) = some (content doc) := by
  obtain ⟨result, done, keys, children⟩ := tree.node_build inv depth node owner found deep
  refine ⟨result, done, ?_⟩
  induction path generalizing depth node owner result with
  | nil =>
      cases walked
      rw [List.nil_append, Json.lookup, keys key doc slot]
      rfl
  | cons name rest ih =>
      rw [walk, found] at walked
      dsimp only at walked
      cases known : owner.children.get name with
      | none =>
          rw [known] at walked
          cases walked
      | some child =>
          rw [known] at walked
          obtain ⟨later, kid, present, _⟩ := inv.edges node owner name child found known
          obtain ⟨part, built, placed⟩ := children name child known
          have inside := (List.getElem?_eq_some_iff.mp found).1
          have lower : tree.nodes.length ≤ child + (depth - 1) := by omega
          obtain ⟨same, again, partKeys, partChildren⟩ := tree.node_build inv (depth - 1) child kid present lower
          cases built.symm.trans again
          have below := ih (depth - 1) child kid present lower walked part built partKeys partChildren
          have full : part ≠ [] := by
            rintro rfl
            cases rest <;> cases below
          rw [List.cons_append, Json.lookup, placed full]
          exact below

theorem inv_gathered (tree : Tree K A) (inv : tree.Inv) : tree.Gathered := by
  obtain ⟨owner, found, _⟩ := inv.rooted
  obtain ⟨result, done, _⟩ := tree.node_build inv tree.nodes.length 0 owner found (Nat.le_add_left _ _)
  refine ⟨.dict () result, by rw [gather, done]; rfl, fun entry member => ?_⟩
  obtain ⟨node, doc, walked, slot⟩ := inv.logged entry member
  obtain ⟨same, again, looked⟩ := tree.build_lookup inv entry.path tree.nodes.length 0 node owner found
    (Nat.le_add_left _ _) walked entry.key doc slot
  cases done.symm.trans again
  rw [looked, inv.contents entry.path node entry.key doc walked slot]

theorem walk_same (tree next : Tree K A)
    (same : ∀ node : Nat, (next.nodes[node]?).map Node.children = (tree.nodes[node]?).map Node.children)
    (path : List K) (start : Nat) : next.walk start path = tree.walk start path := by
  induction path generalizing start with
  | nil => rfl
  | cons name rest ih =>
      have here := same start
      rw [walk, walk]
      cases before : tree.nodes[start]? with
      | none =>
          rw [before, Option.map_none, Option.map_eq_none_iff] at here
          rw [here]
      | some owner =>
          rw [before, Option.map_some, Option.map_eq_some_iff] at here
          obtain ⟨kept, found, children⟩ := here
          rw [found]
          dsimp only
          rw [children]
          cases owner.children.get name with
          | none => rfl
          | some child => exact ih child

end Tree

end Animacharacter.JsonTree
