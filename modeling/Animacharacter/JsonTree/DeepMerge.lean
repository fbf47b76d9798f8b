import Animacharacter.Library.Objects

set_option autoImplicit false

namespace Animacharacter.JsonTree

open Objects

variable {L M K A : Type}

def fieldsAt (heap : Heap K A) (cell : Nat) : Option (Dict K (Val A)) :=
  match heap[cell]? with
  | some (.dict fields) => some fields
  | some (.list _) => none
  | none => none

-- isinstance(value, dict), with the cell of the dict.
def dictCell (heap : Heap K A) : Val A → Option Nat
  | .atom _ => none
  | .ref cell => (fieldsAt heap cell).map fun _ => cell

theorem dictCell_val (heap : Heap K A) (doc : Doc Nat K A) (holds : Holds heap doc) :
    dictCell heap doc.val = doc.dictLabel := by
  cases holds with
  | atom value => rfl
  | dict cell parts fields stored written held => simp [Doc.val, dictCell, fieldsAt, stored, Doc.dictLabel]
  | list cell items stored held => simp [Doc.val, dictCell, fieldsAt, stored, Doc.dictLabel]

variable [DecidableEq K]

-- What deep_merge means for values written out in full: a dict takes the other's
-- keys one by one, and anything else is overwritten.
mutual
def merge : Doc L K A → Doc L K A → Doc L K A
  | .dict label fields, .dict _ items => .dict label (mergeParts fields items)
  | .dict _ _, .atom value => .atom value
  | .dict _ _, .list label items => .list label items
  | .atom _, src => src
  | .list _ _, src => src

def mergeParts (fields : List (K × Doc L K A)) : List (K × Doc L K A) → List (K × Doc L K A)
  | [] => fields
  | (key, value) :: rest =>
      match Entries.find key fields with
      | none => mergeParts (Entries.assign key value fields) rest
      | some old => mergeParts (Entries.assign key (merge old value) fields) rest
end

inductive MergeError where
  | attributeError
  | runtimeError
  | recursionError
deriving DecidableEq, Repr

inductive Merged (K A : Type) where
  | done (heap : Heap K A)
  | raised (error : MergeError) (heap : Heap K A)
deriving DecidableEq

def Merged.heap : Merged K A → Heap K A
  | .done heap => heap
  | .raised _ heap => heap

def mergeItem (nested : Heap K A → Nat → Nat → Merged K A) (heap : Heap K A) (dst : Nat) (fields : Dict K (Val A))
    (key : K) (value : Val A) : Merged K A :=
  match (fields.get key).bind (dictCell heap), dictCell heap value with
  | some inner, some cell => nested heap inner cell
  | _, _ => .done (heap.set dst (.dict (fields.set key value)))

-- The loop over src.items(). Each round asks for the size of src again, and the
-- item it gets is the one that src has at its place by then.
def mergeItems (nested : Heap K A → Nat → Nat → Merged K A) (dst src size : Nat) : Nat → Heap K A → Merged K A
  | remaining, heap =>
      match fieldsAt heap src, fieldsAt heap dst with
      | some items, some fields =>
          if items.entries.length = size then
            match remaining, items.entries[size - remaining]? with
            | remaining + 1, some (key, value) =>
                match mergeItem nested heap dst fields key value with
                | .done heap => mergeItems nested dst src size remaining heap
                | .raised error heap => .raised error heap
            | _, _ => .done heap
          else .raised .runtimeError heap
      | _, _ => .raised .attributeError heap

def deepMergeTo : Nat → Heap K A → Nat → Nat → Merged K A
  | 0, heap, _, _ => .raised .recursionError heap
  | depth + 1, heap, dst, src =>
      match fieldsAt heap src with
      | some items => mergeItems (deepMergeTo depth) dst src items.entries.length items.entries.length heap
      | none => .raised .attributeError heap

-- A call that goes deeper than there are pairs of objects goes round in a circle,
-- which ends in a RecursionError.
def deepMerge (heap : Heap K A) (dst src : Nat) : Merged K A := deepMergeTo (heap.length * heap.length) heap dst src

-- What a key of src leaves at the same key of dst.
def joined (fields : List (K × Doc L K A)) (key : K) (value : Doc L K A) : Doc L K A :=
  match Entries.find key fields with
  | none => value
  | some old => merge old value

theorem mergeParts_cons (fields : List (K × Doc L K A)) (key : K) (value : Doc L K A) (rest : List (K × Doc L K A)) :
    mergeParts fields ((key, value) :: rest) =
      mergeParts (Entries.assign key (joined fields key value) fields) rest := by
  rw [mergeParts, joined]
  split <;> rfl

theorem merge_dicts (label other : L) (fields items : List (K × Doc L K A)) :
    merge (.dict label fields) (.dict other items) = .dict label (mergeParts fields items) := by
  rw [merge]

theorem merge_overwrites (dst src : Doc L K A) (plain : dst.dictLabel = none ∨ src.dictLabel = none) :
    merge dst src = src := by
  cases dst <;> cases src <;> simp_all [merge, Doc.dictLabel]

theorem joined_map (change : L → M) (fields : List (K × Doc L K A)) (key : K) (value : Doc L K A)
    (merges : ∀ old : Doc L K A, (merge old value).relabel change = merge (old.relabel change) (value.relabel change)) :
    (joined fields key value).relabel change =
      joined (fields.map fun entry => (entry.1, entry.2.relabel change)) key (value.relabel change) := by
  rw [joined, joined, Entries.find_map]
  cases Entries.find key fields with
  | none => rfl
  | some old => exact merges old

-- Merging does not look at the labels.
theorem merge_relabel (change : L → M) (dst src : Doc L K A) :
    (merge dst src).relabel change = merge (dst.relabel change) (src.relabel change) := by
  induction src using Doc.parts_induction generalizing dst with
  | atom value => cases dst <;> simp [merge]
  | list label items ih => cases dst <;> simp [merge]
  | dict label items ih =>
      cases dst with
      | atom value => simp [merge]
      | list other values => simp [merge]
      | dict other fields =>
          rw [merge_dicts, Doc.relabel_dict, Doc.relabel_dict, Doc.relabel_dict, merge_dicts]
          congr 1
          induction items generalizing fields with
          | nil => rw [mergeParts, List.map_nil, mergeParts]
          | cons entry rest inner =>
              obtain ⟨first, others⟩ := List.forall_mem_cons.mp ih
              rw [List.map_cons, mergeParts_cons, mergeParts_cons, inner others, Entries.assign_map,
                joined_map change fields entry.1 entry.2 first]

variable [DecidableEq L]

-- For a list of labels that a dict hands down: its own, and those of its parts.
theorem assign_marks (marks : Doc L K A → List L) (fields : List (K × Doc L K A)) (key : K) (value : Doc L K A) (label : L)
    (merges : ∀ old, (marks (merge old value)).count label ≤ (marks old).count label + (marks value).count label) :
    ((Entries.assign key (joined fields key value) fields).flatMap fun entry => marks entry.2).count label ≤
      (fields.flatMap fun entry => marks entry.2).count label + (marks value).count label := by
  rw [joined]
  cases found : Entries.find key fields with
  | none => simp [Entries.assign_fresh key _ fields found]
  | some old =>
      obtain ⟨before, after, split, assigned⟩ := Entries.find_split key old fields found
      have bound := merges old
      dsimp only
      rw [assigned, split]
      simp only [List.flatMap_append, List.flatMap_cons, List.count_append]
      omega

theorem merge_marks (marks : Doc L K A → List L)
    (shape : ∀ label parts, marks (.dict label parts) = label :: parts.flatMap fun entry => marks entry.2)
    (dst src : Doc L K A) (label : L) :
    (marks (merge dst src)).count label ≤ (marks dst).count label + (marks src).count label := by
  induction src using Doc.parts_induction generalizing dst with
  | atom value =>
      rw [merge_overwrites dst _ (.inr rfl)]
      exact Nat.le_add_left _ _
  | list other items ih =>
      rw [merge_overwrites dst _ (.inr rfl)]
      exact Nat.le_add_left _ _
  | dict other items ih =>
      by_cases plain : dst.dictLabel = none
      · rw [merge_overwrites dst _ (.inl plain)]
        exact Nat.le_add_left _ _
      · cases dst with
        | atom value => exact absurd rfl plain
        | list _ _ => exact absurd rfl plain
        | dict own fields =>
            rw [merge_dicts, shape, shape, shape, List.count_cons, List.count_cons, List.count_cons]
            suffices parts : ((mergeParts fields items).flatMap fun entry => marks entry.2).count label ≤
                (fields.flatMap fun entry => marks entry.2).count label +
                  (items.flatMap fun entry => marks entry.2).count label by omega
            clear plain
            induction items generalizing fields with
            | nil => rw [mergeParts]; exact Nat.le_add_right _ _
            | cons entry rest inner =>
                obtain ⟨first, others⟩ := List.forall_mem_cons.mp ih
                have step := assign_marks marks fields entry.1 entry.2 label first
                have run := inner others (Entries.assign entry.1 (joined fields entry.1 entry.2) fields)
                rw [mergeParts_cons, List.flatMap_cons, List.count_append]
                omega

theorem merge_labels (dst src : Doc L K A) (label : L) :
    (merge dst src).labels.count label ≤ dst.labels.count label + src.labels.count label :=
  merge_marks Doc.labels Doc.labels_dict dst src label

theorem merge_dicts_mem (dst src : Doc L K A) (label : L) (member : label ∈ (merge dst src).dicts) :
    label ∈ dst.dicts ∨ label ∈ src.dicts := by
  have bound := merge_marks Doc.dicts Doc.dicts_dict dst src label
  have positive := List.count_pos_iff.mpr member
  rw [← List.count_pos_iff, ← List.count_pos_iff]
  omega

theorem merge_val (dst src : Doc Nat K A) (inner cell : Nat) (own : dst.dictLabel = some inner)
    (given : src.dictLabel = some cell) : (merge dst src).val = dst.val := by
  obtain ⟨fields, rfl⟩ := dst.dict_of_label inner own
  obtain ⟨items, rfl⟩ := src.dict_of_label cell given
  rw [merge_dicts]
  rfl

theorem merge_label (dst src : Doc Nat K A) (inner cell : Nat) (own : dst.dictLabel = some inner)
    (given : src.dictLabel = some cell) : (merge dst src).dictLabel = some inner := by
  obtain ⟨fields, rfl⟩ := dst.dict_of_label inner own
  obtain ⟨items, rfl⟩ := src.dict_of_label cell given
  rw [merge_dicts]
  rfl

structure Merges (heap next : Heap K A) (dst src : Doc Nat K A) : Prop where
  merged : Holds next (merge dst src)
  size : next.length = heap.length
  frame : ∀ cell, cell ∉ dst.dicts → cell ∉ src.dicts → next[cell]? = heap[cell]?

-- A call that merges src, whatever dict it is merged into.
def MergesAt (nested : Heap K A → Nat → Nat → Merged K A) (src : Doc Nat K A) : Prop :=
  ∀ heap dst inner cell, dst.dictLabel = some inner → src.dictLabel = some cell → Holds heap dst → Holds heap src →
    Once (dst.dicts ++ src.dicts) (dst.labels ++ src.labels) →
      ∃ next, nested heap inner cell = .done next ∧ Merges heap next dst src

theorem item_overwritten (heap : Heap K A) (dst : Nat) (fields : Dict K (Val A)) (parts : List (K × Doc Nat K A))
    (key : K) (value : Doc Nat K A) (stored : heap[dst]? = some (.dict fields)) (holds : Holds heap (.dict dst parts))
    (given : Holds heap value) (fresh : dst ∉ Doc.labelsOf parts ++ value.labels) :
    Holds (heap.set dst (.dict (fields.set key value.val))) (.dict dst (Entries.assign key value parts)) := by
  obtain ⟨written, held⟩ := holds_dict heap dst parts fields stored holds
  have inside : dst < heap.length := (List.getElem?_eq_some_iff.mp stored).1
  apply Holds.dict dst _ (fields.set key value.val)
  · rw [List.getElem?_set_self inside]
  · rw [Entries.assign_map, ← written]
    rfl
  · intro entry member
    have known : Holds heap entry.2 ∧ dst ∉ entry.2.labels := by
      rcases Entries.mem_assign key value parts entry member with rfl | old
      · exact ⟨given, fun labelled => fresh (List.mem_append_right _ labelled)⟩
      · exact ⟨held entry old, fun labelled =>
          fresh (List.mem_append_left _ (mem_labelsOf parts entry old dst labelled))⟩
    apply holds_agree heap _ entry.2 known.1
    intro cell labelled
    have other : dst ≠ cell := fun same => known.2 (same ▸ labelled)
    rw [List.getElem?_set_ne other]

omit [DecidableEq K] in
theorem split_count (parts before after : List (K × Doc Nat K A)) (key : K) (old value : Doc Nat K A) (dst other : Nat)
    (split : parts = before ++ (key, old) :: after) :
    (dst :: Doc.labelsOf parts ++ value.labels).count other =
      [dst].count other + (Doc.labelsOf before).count other + old.labels.count other +
        (Doc.labelsOf after).count other + value.labels.count other := by
  rw [split]
  simp only [Doc.labelsOf, List.flatMap_append, List.flatMap_cons, List.cons_append, List.count_cons,
    List.count_append, List.count_nil]
  omega

omit [DecidableEq K] in
-- The cells that a nested call may write are found nowhere else.
theorem nested_apart (parts before after : List (K × Doc Nat K A)) (key : K) (old value : Doc Nat K A) (dst other : Nat)
    (split : parts = before ++ (key, old) :: after)
    (once : Once (dst :: Doc.dictsOf parts ++ value.dicts) (dst :: Doc.labelsOf parts ++ value.labels))
    (oldDicts : ∀ other ∈ old.dicts, other ∈ Doc.dictsOf parts)
    (elsewhere : other = dst ∨ other ∈ Doc.labelsOf before ∨ other ∈ Doc.labelsOf after) :
    ¬ (other ∈ old.dicts ∨ other ∈ value.dicts) := by
  intro touched
  have bound := once other (by
    rcases touched with mine | yours
    · exact List.mem_append_left _ (List.mem_cons_of_mem _ (oldDicts other mine))
    · exact List.mem_append_right _ yours)
  have here : 0 < old.labels.count other + value.labels.count other := by
    rcases touched with mine | yours
    · exact Nat.add_pos_left (List.count_pos_iff.mpr (dicts_labels old other mine)) _
    · exact Nat.add_pos_right _ (List.count_pos_iff.mpr (dicts_labels value other yours))
  have there : 0 < [dst].count other + (Doc.labelsOf before).count other + (Doc.labelsOf after).count other := by
    rcases elsewhere with rfl | first | second
    · rw [List.count_singleton_self]
      omega
    · have positive := List.count_pos_iff.mpr first
      omega
    · have positive := List.count_pos_iff.mpr second
      omega
  rw [split_count parts before after key old value dst other split] at bound
  omega

theorem item_joined (nested : Heap K A → Nat → Nat → Merged K A) (heap : Heap K A) (dst : Nat)
    (fields : Dict K (Val A)) (parts : List (K × Doc Nat K A)) (key : K) (old value : Doc Nat K A) (inner cell : Nat)
    (stored : heap[dst]? = some (.dict fields)) (holds : Holds heap (.dict dst parts)) (given : Holds heap value)
    (once : Once (dst :: Doc.dictsOf parts ++ value.dicts) (dst :: Doc.labelsOf parts ++ value.labels))
    (found : Entries.find key parts = some old) (own : old.dictLabel = some inner)
    (source : value.dictLabel = some cell) (nestedMerges : MergesAt nested value) :
    ∃ next, nested heap inner cell = .done next ∧
      Holds next (.dict dst (Entries.assign key (merge old value) parts)) ∧ next.length = heap.length ∧
      ∀ other, other ∉ dst :: Doc.dictsOf parts → other ∉ value.dicts → next[other]? = heap[other]? := by
  obtain ⟨written, held⟩ := holds_dict heap dst parts fields stored holds
  obtain ⟨before, after, split, assigned⟩ := Entries.find_split key old parts found
  have oldHolds : Holds heap old := held (key, old) (by rw [split]; simp)
  have oldDicts : ∀ other ∈ old.dicts, other ∈ Doc.dictsOf parts := by
    intro other member
    rw [split]
    simp [Doc.dictsOf, member]
  obtain ⟨next, done, merges⟩ := nestedMerges heap old inner cell own source oldHolds given (by
    intro other member
    have bound := once other (by
      rcases List.mem_append.mp member with mine | yours
      · exact List.mem_append_left _ (List.mem_cons_of_mem _ (oldDicts other mine))
      · exact List.mem_append_right _ yours)
    rw [split_count parts before after key old value dst other split] at bound
    rw [List.count_append]
    omega)
  have apart (other : Nat) (elsewhere : other = dst ∨ other ∈ Doc.labelsOf before ∨ other ∈ Doc.labelsOf after) :
      next[other]? = heap[other]? := by
    have untouched := nested_apart parts before after key old value dst other split once oldDicts elsewhere
    exact merges.frame other (fun mine => untouched (.inl mine)) (fun yours => untouched (.inr yours))
  refine ⟨next, done, ?_, merges.size, ?_⟩
  · apply Holds.dict dst _ fields ((apart dst (.inl rfl)).trans stored)
    · rw [Entries.assign_map, merge_val old value inner cell own source, ← written]
      exact (Entries.assign_found key old.val fields.entries (by rw [written, Entries.find_map, found]; rfl)).symm
    · intro entry member
      rw [assigned, List.mem_append, List.mem_cons] at member
      have kept (side : List (K × Doc Nat K A)) (inside : entry ∈ side) (known : entry ∈ parts)
          (same : ∀ other ∈ Doc.labelsOf side, next[other]? = heap[other]?) : Holds next entry.2 :=
        holds_agree heap next entry.2 (held entry known)
          (fun other labelled => same other (mem_labelsOf side entry inside other labelled))
      rcases member with first | rfl | second
      · exact kept before first (by rw [split]; simp [first]) (fun other inside => apart other (.inr (.inl inside)))
      · exact merges.merged
      · exact kept after second (by rw [split]; simp [second]) (fun other inside => apart other (.inr (.inr inside)))
  · intro other outside away
    exact merges.frame other (fun mine => outside (List.mem_cons_of_mem _ (oldDicts other mine))) away

theorem item_merges (nested : Heap K A → Nat → Nat → Merged K A) (heap : Heap K A) (dst : Nat)
    (fields : Dict K (Val A)) (parts : List (K × Doc Nat K A)) (key : K) (value : Doc Nat K A)
    (stored : heap[dst]? = some (.dict fields)) (holds : Holds heap (.dict dst parts)) (given : Holds heap value)
    (once : Once (dst :: Doc.dictsOf parts ++ value.dicts) (dst :: Doc.labelsOf parts ++ value.labels))
    (nestedMerges : MergesAt nested value) :
    ∃ next, mergeItem nested heap dst fields key value.val = .done next ∧
      Holds next (.dict dst (Entries.assign key (joined parts key value) parts)) ∧ next.length = heap.length ∧
      ∀ other, other ∉ dst :: Doc.dictsOf parts → other ∉ value.dicts → next[other]? = heap[other]? := by
  obtain ⟨written, held⟩ := holds_dict heap dst parts fields stored holds
  have known : fields.get key = (Entries.find key parts).map Doc.val := by
    rw [Dict.get, written, Entries.find_map]
  have fresh : dst ∉ Doc.labelsOf parts ++ value.labels := by
    have bound := once dst (List.mem_append_left _ (List.mem_cons_self ..))
    rw [List.cons_append, List.count_cons_self] at bound
    exact List.count_eq_zero.mp (by omega)
  have overwritten : ∃ next, Merged.done (heap.set dst (.dict (fields.set key value.val))) = .done next ∧
      Holds next (.dict dst (Entries.assign key value parts)) ∧ next.length = heap.length ∧
      ∀ other, other ∉ dst :: Doc.dictsOf parts → other ∉ value.dicts → next[other]? = heap[other]? := by
    refine ⟨_, rfl, item_overwritten heap dst fields parts key value stored holds given fresh,
      List.length_set, fun other outside _ => ?_⟩
    rw [List.getElem?_set_ne]
    rintro rfl
    exact outside (List.mem_cons_self ..)
  rw [mergeItem, known, dictCell_val heap value given, joined]
  cases found : Entries.find key parts with
  | none => exact overwritten
  | some old =>
      have oldHolds : Holds heap old := held (key, old) (Entries.find_some_mem key old parts found)
      dsimp only [Option.map_some, Option.bind_some]
      rw [dictCell_val heap old oldHolds]
      cases own : old.dictLabel with
      | none =>
          rw [merge_overwrites old value (.inl own)]
          exact overwritten
      | some inner =>
          cases source : value.dictLabel with
          | none =>
              rw [merge_overwrites old value (.inr source)]
              exact overwritten
          | some cell =>
              exact item_joined nested heap dst fields parts key old value inner cell stored holds given once found
                own source nestedMerges

theorem assign_labels (parts : List (K × Doc Nat K A)) (key : K) (value : Doc Nat K A) (cell : Nat) :
    (Doc.labelsOf (Entries.assign key (joined parts key value) parts)).count cell ≤
      (Doc.labelsOf parts).count cell + value.labels.count cell :=
  assign_marks Doc.labels parts key value cell fun old => merge_labels old value cell

theorem assign_dicts (parts : List (K × Doc Nat K A)) (key : K) (value : Doc Nat K A) (cell : Nat)
    (member : cell ∈ Doc.dictsOf (Entries.assign key (joined parts key value) parts)) :
    cell ∈ Doc.dictsOf parts ∨ cell ∈ value.dicts := by
  have bound := assign_marks Doc.dicts parts key value cell
    fun old => merge_marks Doc.dicts Doc.dicts_dict old value cell
  have positive := List.count_pos_iff.mpr member
  rw [← List.count_pos_iff, ← List.count_pos_iff]
  simp only [Doc.dictsOf] at positive bound ⊢
  omega

section Items

variable (dst src : Nat) (parts rest : List (K × Doc Nat K A)) (key : K) (value : Doc Nat K A)
  (once : Once (dst :: Doc.dictsOf parts ++ src :: Doc.dictsOf ((key, value) :: rest))
    (dst :: Doc.labelsOf parts ++ src :: Doc.labelsOf ((key, value) :: rest)))

include once

omit [DecidableEq K] in
theorem once_item : Once (dst :: Doc.dictsOf parts ++ value.dicts) (dst :: Doc.labelsOf parts ++ value.labels) := by
  apply once.mono
  · intro cell member
    simp only [Doc.dictsOf, List.flatMap_cons, List.mem_append, List.mem_cons] at member ⊢
    tauto
  · intro cell
    simp only [Doc.labelsOf, List.flatMap_cons, List.count_append, List.count_cons]
    omega

omit [DecidableEq K] in
theorem once_item_first : Once (dst :: Doc.dictsOf parts ++ src :: Doc.dictsOf ((key, value) :: rest))
    ((dst :: Doc.labelsOf parts ++ value.labels) ++ (src :: Doc.labelsOf rest)) := by
  apply once.mono
  · exact fun _ member => member
  · intro cell
    simp only [Doc.labelsOf, List.flatMap_cons, List.count_append, List.count_cons]
    omega

theorem once_rest :
    Once (dst :: Doc.dictsOf (Entries.assign key (joined parts key value) parts) ++ src :: Doc.dictsOf rest)
      (dst :: Doc.labelsOf (Entries.assign key (joined parts key value) parts) ++ src :: Doc.labelsOf rest) := by
  apply (once_item_first dst src parts rest key value once).mono
  · intro cell member
    have below := assign_dicts parts key value cell
    simp only [Doc.dictsOf, List.flatMap_cons, List.mem_append, List.mem_cons] at member below ⊢
    tauto
  · intro cell
    have bound := assign_labels parts key value cell
    simp only [List.count_append, List.count_cons] at bound ⊢
    omega

omit [DecidableEq K] in
-- src and the items to come are none of the cells that an item may write.
theorem later_untouched (cell : Nat) (later : cell ∈ src :: Doc.labelsOf rest) :
    cell ∉ dst :: Doc.dictsOf parts ∧ cell ∉ value.dicts := by
  have first := once_item_first dst src parts rest key value once
  apply And.intro
  · intro touched
    refine first.apart _ _ _ cell (List.mem_append_left _ touched) (List.mem_append_left _ ?_) later
    rcases List.mem_cons.mp touched with rfl | below
    · exact List.mem_cons_self ..
    · exact List.mem_cons_of_mem _ (dictsOf_labelsOf parts cell below)
  · intro touched
    refine first.apart _ _ _ cell (List.mem_append_right _ ?_)
      (List.mem_append_right _ (dicts_labels value cell touched)) later
    rw [Doc.dictsOf, List.flatMap_cons]
    exact List.mem_cons_of_mem _ (List.mem_append_left _ touched)

end Items

omit [DecidableEq K] in
theorem holds_stored (heap : Heap K A) (dst : Nat) (parts : List (K × Doc Nat K A))
    (holds : Holds heap (.dict dst parts)) : ∃ fields, heap[dst]? = some (.dict fields) := by
  cases holds with
  | dict _ _ fields stored _ _ => exact ⟨fields, stored⟩

theorem items_merge (nested : Heap K A → Nat → Nat → Merged K A) (dst src : Nat) (items : Dict K (Val A))
    (rest parts : List (K × Doc Nat K A)) (past : List (K × Val A)) (heap : Heap K A)
    (split : items.entries = past ++ rest.map fun entry => (entry.1, entry.2.val))
    (source : heap[src]? = some (.dict items)) (holds : Holds heap (.dict dst parts))
    (given : ∀ entry ∈ rest, Holds heap entry.2) (nestedMerges : ∀ entry ∈ rest, MergesAt nested entry.2)
    (once : Once (dst :: Doc.dictsOf parts ++ src :: Doc.dictsOf rest)
      (dst :: Doc.labelsOf parts ++ src :: Doc.labelsOf rest)) :
    ∃ next, mergeItems nested dst src items.entries.length rest.length heap = .done next ∧
      Holds next (.dict dst (mergeParts parts rest)) ∧ next.length = heap.length ∧
      ∀ other, other ∉ dst :: Doc.dictsOf parts → other ∉ Doc.dictsOf rest → next[other]? = heap[other]? := by
  obtain ⟨fields, stored⟩ := holds_stored heap dst parts holds
  induction rest generalizing parts past heap fields with
  | nil =>
      refine ⟨heap, ?_, by rw [mergeParts]; exact holds, rfl, fun _ _ _ => rfl⟩
      simp only [List.length_nil, mergeItems, fieldsAt, source, stored, if_true]
  | cons entry rest ih =>
      obtain ⟨key, value⟩ := entry
      obtain ⟨first, others⟩ := List.forall_mem_cons.mp given
      obtain ⟨merges, nestedRest⟩ := List.forall_mem_cons.mp nestedMerges
      have onceItem := once_item dst src parts rest key value once
      obtain ⟨next, done, nextHolds, size, frame⟩ :=
        item_merges nested heap dst fields parts key value stored holds first onceItem merges
      have untouched (cell : Nat) (later : cell ∈ src :: Doc.labelsOf rest) : next[cell]? = heap[cell]? := by
        obtain ⟨outside, away⟩ := later_untouched dst src parts rest key value once cell later
        exact frame cell outside away
      obtain ⟨nextFields, nextStored⟩ := holds_stored next dst _ nextHolds
      obtain ⟨last, rounds, lastHolds, lastSize, lastFrame⟩ :=
        ih (Entries.assign key (joined parts key value) parts) (past ++ [(key, value.val)]) next
          (by rw [split, List.map_cons, List.append_assoc, List.singleton_append])
          ((untouched src (List.mem_cons_self ..)).trans source) nextHolds
          (fun entry member => holds_agree heap next entry.2 (others entry member) (fun cell labelled =>
            untouched cell (List.mem_cons_of_mem _ (mem_labelsOf rest entry member cell labelled))))
          nestedRest (once_rest dst src parts rest key value once)
          nextFields nextStored
      have place : items.entries[items.entries.length - (rest.length + 1)]? = some (key, value.val) := by
        rw [split]
        simp
      refine ⟨last, ?_, by rw [mergeParts_cons]; exact lastHolds, lastSize.trans size, fun other outside away => ?_⟩
      · rw [List.length_cons, mergeItems]
        simp only [fieldsAt, source, stored, if_true, place, done]
        exact rounds
      · simp only [Doc.dictsOf, List.flatMap_cons, List.mem_append, not_or] at away
        rw [lastFrame other _ away.2]
        · exact frame other outside away.1
        · intro touched
          rcases List.mem_cons.mp touched with rfl | below
          · exact outside (List.mem_cons_self ..)
          · rcases assign_dicts parts key value other below with mine | yours
            · exact outside (List.mem_cons_of_mem _ mine)
            · exact away.1 yours

theorem deep_merge_at (src : Doc Nat K A) (depth : Nat) (deep : src.depth ≤ depth) :
    MergesAt (deepMergeTo depth) src := by
  induction src using Doc.parts_induction generalizing depth with
  | atom value => intro _ _ _ _ _ own; cases own
  | list label items ih => intro _ _ _ _ _ own; cases own
  | dict label items ih =>
      intro heap dst inner cell own source holds given once
      obtain ⟨parts, rfl⟩ := dst.dict_of_label inner own
      cases source
      obtain ⟨depth, rfl⟩ : ∃ less, depth = less + 1 := by
        rw [Doc.depth_dict] at deep
        exact ⟨depth - 1, by omega⟩
      rw [Doc.depth_dict, Nat.succ_le_succ_iff, foldr_max_le, List.forall_mem_map] at deep
      cases given with
      | dict _ _ fields stored written held =>
          have length : items.length = fields.entries.length := by rw [written, List.length_map]
          obtain ⟨next, done, merged, size, frame⟩ := items_merge (deepMergeTo depth) inner label fields items parts []
            heap written stored holds held (fun entry member => ih entry member depth (deep entry member))
            (by simpa only [Doc.dicts_dict, Doc.labels_dict] using once)
          refine ⟨next, ?_, by rw [merge_dicts]; exact merged, size, fun other outside away => ?_⟩
          · rw [deepMergeTo, fieldsAt, stored]
            dsimp only
            rw [← length] at done ⊢
            exact done
          · rw [Doc.dicts_dict] at outside away
            exact frame other outside (fun below => away (List.mem_cons_of_mem _ below))

-- deep_merge of two values of which no dict is found twice: it ends, and dst
-- becomes the merge of both.
theorem deep_merge (heap : Heap K A) (dst src : Doc Nat K A) (inner cell : Nat) (own : dst.dictLabel = some inner)
    (source : src.dictLabel = some cell) (holds : Holds heap dst) (given : Holds heap src)
    (once : Once (dst.dicts ++ src.dicts) (dst.labels ++ src.labels)) :
    ∃ next, deepMerge heap inner cell = .done next ∧ Merges heap next dst src := by
  have deep : src.depth ≤ heap.length * heap.length :=
    Nat.le_trans (holds_depth heap src given) (Nat.le_mul_self heap.length)
  exact deep_merge_at src _ deep heap dst inner cell own source holds given once

end Animacharacter.JsonTree
