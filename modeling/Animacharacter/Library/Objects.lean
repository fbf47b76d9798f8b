import Animacharacter.Library.Dict
import Mathlib.Data.List.Perm.Subperm

set_option autoImplicit false

namespace Objects

-- Dicts and lists are the cells of a heap. A value that is one of them is held
-- by reference, so two holders of a dict see each other's changes.
inductive Val (A : Type) where
  | atom (value : A)
  | ref (cell : Nat)
deriving DecidableEq, Repr

inductive Obj (K A : Type) where
  | dict (fields : Dict K (Val A))
  | list (items : List (Val A))
deriving DecidableEq

abbrev Heap (K A : Type) := List (Obj K A)

-- A value written out in full, with a label on each of its dicts and lists.
inductive Doc (L K A : Type) where
  | atom (value : A)
  | dict (label : L) (parts : List (K × Doc L K A))
  | list (label : L) (items : List (Doc L K A))

namespace Doc

variable {L M K A R : Type}

mutual
def fold (atom : A → R) (dict : L → List (K × R) → R) (list : L → List R → R) : Doc L K A → R
  | .atom value => atom value
  | .dict label parts => dict label (foldParts atom dict list parts)
  | .list label items => list label (foldItems atom dict list items)

def foldParts (atom : A → R) (dict : L → List (K × R) → R) (list : L → List R → R) :
    List (K × Doc L K A) → List (K × R)
  | [] => []
  | (key, part) :: rest => (key, fold atom dict list part) :: foldParts atom dict list rest

def foldItems (atom : A → R) (dict : L → List (K × R) → R) (list : L → List R → R) : List (Doc L K A) → List R
  | [] => []
  | item :: rest => fold atom dict list item :: foldItems atom dict list rest
end

@[elab_as_elim] theorem parts_induction (property : Doc L K A → Prop) (atom : ∀ value, property (.atom value))
    (dict : ∀ label parts, (∀ entry ∈ parts, property entry.2) → property (.dict label parts))
    (list : ∀ label items, (∀ item ∈ items, property item) → property (.list label items)) (doc : Doc L K A) :
    property doc := by
  refine @Doc.rec L K A property (fun parts => ∀ entry ∈ parts, property entry.2)
    (fun items => ∀ item ∈ items, property item) (fun entry => property entry.2)
    atom dict list nofun ?_ nofun ?_ (fun _ _ part => part) doc
  · intro entry rest first others
    exact List.forall_mem_cons.mpr ⟨first, others⟩
  · intro item rest first others
    exact List.forall_mem_cons.mpr ⟨first, others⟩

theorem foldParts_map (atom : A → R) (dict : L → List (K × R) → R) (list : L → List R → R)
    (parts : List (K × Doc L K A)) :
    foldParts atom dict list parts = parts.map fun entry => (entry.1, fold atom dict list entry.2) := by
  induction parts with
  | nil => rfl
  | cons entry rest ih => rw [foldParts, ih, List.map_cons]

theorem foldItems_map (atom : A → R) (dict : L → List (K × R) → R) (list : L → List R → R)
    (items : List (Doc L K A)) : foldItems atom dict list items = items.map (fold atom dict list) := by
  induction items with
  | nil => rfl
  | cons item rest ih => rw [foldItems, ih, List.map_cons]

@[simp] theorem fold_atom (atom : A → R) (dict : L → List (K × R) → R) (list : L → List R → R) (value : A) :
    fold atom dict list (.atom value) = atom value := rfl

@[simp] theorem fold_dict (atom : A → R) (dict : L → List (K × R) → R) (list : L → List R → R) (label : L)
    (parts : List (K × Doc L K A)) :
    fold atom dict list (.dict label parts) =
      dict label (parts.map fun entry => (entry.1, fold atom dict list entry.2)) := by
  rw [fold, foldParts_map]

@[simp] theorem fold_list (atom : A → R) (dict : L → List (K × R) → R) (list : L → List R → R) (label : L)
    (items : List (Doc L K A)) :
    fold atom dict list (.list label items) = list label (items.map (fold atom dict list)) := by
  rw [fold, foldItems_map]

def relabel (change : L → M) : Doc L K A → Doc M K A :=
  fold .atom (fun label parts => .dict (change label) parts) (fun label items => .list (change label) items)

-- The labels of the dicts that dicts alone lead to: what a deep merge may write.
def dicts : Doc L K A → List L :=
  fold (fun _ => []) (fun label parts => label :: parts.flatMap Prod.snd) (fun _ _ => [])

def labels : Doc L K A → List L :=
  fold (fun _ => []) (fun label parts => label :: parts.flatMap Prod.snd) (fun label items => label :: items.flatten)

def depth : Doc L K A → Nat :=
  fold (fun _ => 0) (fun _ parts => (parts.map Prod.snd).foldr max 0 + 1) (fun _ items => items.foldr max 0 + 1)

def val : Doc Nat K A → Val A
  | .atom value => .atom value
  | .dict cell _ => .ref cell
  | .list cell _ => .ref cell

def dictLabel : Doc L K A → Option L
  | .atom _ => none
  | .dict label _ => some label
  | .list _ _ => none

def labelsOf (parts : List (K × Doc L K A)) : List L := parts.flatMap fun entry => entry.2.labels

def dictsOf (parts : List (K × Doc L K A)) : List L := parts.flatMap fun entry => entry.2.dicts

theorem dict_of_label (doc : Doc L K A) (label : L) (own : doc.dictLabel = some label) :
    ∃ parts, doc = .dict label parts := by
  cases doc with
  | atom value => cases own
  | dict other parts =>
      cases own
      exact ⟨parts, rfl⟩
  | list other items => cases own

@[simp] theorem relabel_atom (change : L → M) (value : A) :
    (.atom value : Doc L K A).relabel change = .atom value := rfl

@[simp] theorem relabel_dict (change : L → M) (label : L) (parts : List (K × Doc L K A)) :
    (.dict label parts : Doc L K A).relabel change =
      .dict (change label) (parts.map fun entry => (entry.1, entry.2.relabel change)) := by
  simp [relabel]

@[simp] theorem relabel_list (change : L → M) (label : L) (items : List (Doc L K A)) :
    (.list label items : Doc L K A).relabel change = .list (change label) (items.map (relabel change)) := by
  simp [relabel]

@[simp] theorem labels_atom (value : A) : (.atom value : Doc L K A).labels = [] := rfl

@[simp] theorem labels_dict (label : L) (parts : List (K × Doc L K A)) :
    (.dict label parts : Doc L K A).labels = label :: labelsOf parts := by
  simp [labels, labelsOf, List.flatMap_map]

@[simp] theorem labels_list (label : L) (items : List (Doc L K A)) :
    (.list label items : Doc L K A).labels = label :: items.flatMap labels := by
  simp [labels, List.flatMap]

@[simp] theorem dicts_atom (value : A) : (.atom value : Doc L K A).dicts = [] := rfl

@[simp] theorem dicts_dict (label : L) (parts : List (K × Doc L K A)) :
    (.dict label parts : Doc L K A).dicts = label :: dictsOf parts := by
  simp [dicts, dictsOf, List.flatMap_map]

@[simp] theorem dicts_list (label : L) (items : List (Doc L K A)) : (.list label items : Doc L K A).dicts = [] := by
  simp [dicts]

@[simp] theorem depth_atom (value : A) : (.atom value : Doc L K A).depth = 0 := rfl

@[simp] theorem depth_dict (label : L) (parts : List (K × Doc L K A)) :
    (.dict label parts : Doc L K A).depth = (parts.map fun entry => entry.2.depth).foldr max 0 + 1 := by
  simp [depth, Function.comp_def]

@[simp] theorem depth_list (label : L) (items : List (Doc L K A)) :
    (.list label items : Doc L K A).depth = (items.map depth).foldr max 0 + 1 := by
  simp [depth]

end Doc

variable {K A : Type}

-- The heap holds the document: its labels are the cells it is found in.
inductive Holds (heap : Heap K A) : Doc Nat K A → Prop where
  | atom (value : A) : Holds heap (.atom value)
  | dict (cell : Nat) (parts : List (K × Doc Nat K A)) (fields : Dict K (Val A))
      (stored : heap[cell]? = some (.dict fields))
      (written : fields.entries = parts.map fun entry => (entry.1, entry.2.val))
      (held : ∀ entry ∈ parts, Holds heap entry.2) : Holds heap (.dict cell parts)
  | list (cell : Nat) (items : List (Doc Nat K A)) (stored : heap[cell]? = some (.list (items.map Doc.val)))
      (held : ∀ item ∈ items, Holds heap item) : Holds heap (.list cell items)

theorem mem_labelsOf (parts : List (K × Doc Nat K A)) (entry : K × Doc Nat K A) (member : entry ∈ parts) (cell : Nat)
    (labelled : cell ∈ entry.2.labels) : cell ∈ Doc.labelsOf parts :=
  List.mem_flatMap.mpr ⟨entry, member, labelled⟩

theorem dicts_labels (doc : Doc Nat K A) (cell : Nat) (member : cell ∈ doc.dicts) : cell ∈ doc.labels := by
  induction doc using Doc.parts_induction with
  | atom value => exact member
  | dict label parts ih =>
      rw [Doc.dicts_dict] at member
      rw [Doc.labels_dict]
      rcases List.mem_cons.mp member with rfl | below
      · exact List.mem_cons_self ..
      · obtain ⟨entry, inside, within⟩ := List.mem_flatMap.mp below
        exact List.mem_cons_of_mem _ (mem_labelsOf parts entry inside cell (ih entry inside within))
  | list label items ih =>
      rw [Doc.dicts_list] at member
      cases member

theorem dictsOf_labelsOf (parts : List (K × Doc Nat K A)) (cell : Nat) (member : cell ∈ Doc.dictsOf parts) :
    cell ∈ Doc.labelsOf parts := by
  obtain ⟨entry, inside, within⟩ := List.mem_flatMap.mp member
  exact mem_labelsOf parts entry inside cell (dicts_labels entry.2 cell within)

theorem holds_agree (heap next : Heap K A) (doc : Doc Nat K A) (holds : Holds heap doc)
    (same : ∀ cell ∈ doc.labels, next[cell]? = heap[cell]?) : Holds next doc := by
  induction holds with
  | atom value => exact .atom value
  | dict cell parts fields stored written held ih =>
      rw [Doc.labels_dict] at same
      apply Holds.dict cell parts fields ((same cell (List.mem_cons_self ..)).trans stored) written
      intro entry member
      apply ih entry member
      intro other labelled
      exact same other (List.mem_cons_of_mem _ (mem_labelsOf parts entry member other labelled))
  | list cell items stored held ih =>
      rw [Doc.labels_list] at same
      apply Holds.list cell items ((same cell (List.mem_cons_self ..)).trans stored)
      intro item member
      apply ih item member
      intro other labelled
      exact same other (List.mem_cons_of_mem _ (List.mem_flatMap.mpr ⟨item, member, labelled⟩))

theorem map_eq_on {X Y : Type} (image : X → Y) (left right : List X)
    (unique : ∀ item ∈ left, ∀ other ∈ right, image item = image other → item = other)
    (same : left.map image = right.map image) : left = right := by
  induction left generalizing right with
  | nil => exact (List.map_eq_nil_iff.mp same.symm).symm
  | cons item rest ih =>
      cases right with
      | nil => cases same
      | cons other others =>
          simp only [List.map_cons, List.cons.injEq] at same
          rw [unique item (List.mem_cons_self ..) other (List.mem_cons_self ..) same.1, ih others _ same.2]
          intro first inside second within
          exact unique first (List.mem_cons_of_mem _ inside) second (List.mem_cons_of_mem _ within)

theorem holds_dict (heap : Heap K A) (cell : Nat) (parts : List (K × Doc Nat K A)) (fields : Dict K (Val A))
    (stored : heap[cell]? = some (.dict fields)) (holds : Holds heap (.dict cell parts)) :
    fields.entries = parts.map (fun entry => (entry.1, entry.2.val)) ∧ ∀ entry ∈ parts, Holds heap entry.2 := by
  cases holds with
  | dict _ _ found standing written held =>
      rw [stored, Option.some.injEq, Obj.dict.injEq] at standing
      rw [standing]
      exact ⟨written, held⟩

theorem holds_unique (heap : Heap K A) (doc other : Doc Nat K A) (holds : Holds heap doc) (also : Holds heap other)
    (same : doc.val = other.val) : doc = other := by
  induction holds generalizing other with
  | atom value =>
      cases also <;> simp_all [Doc.val]
  | dict cell parts fields stored written held ih =>
      cases also with
      | atom value => simp [Doc.val] at same
      | dict place others found standing entries rest =>
          simp only [Doc.val, Val.ref.injEq] at same
          subst same
          rw [stored, Option.some.injEq, Obj.dict.injEq] at standing
          subst standing
          rw [map_eq_on _ parts others _ (written.symm.trans entries)]
          intro entry member second inside equal
          simp only [Prod.mk.injEq] at equal
          exact Prod.ext equal.1 (ih entry member second.2 (rest second inside) equal.2)
      | list place items standing rest =>
          simp only [Doc.val, Val.ref.injEq] at same
          subst same
          simp [stored] at standing
  | list cell items stored held ih =>
      cases also with
      | atom value => simp [Doc.val] at same
      | dict place others found standing entries rest =>
          simp only [Doc.val, Val.ref.injEq] at same
          subst same
          simp [stored] at standing
      | list place others standing rest =>
          simp only [Doc.val, Val.ref.injEq] at same
          subst same
          simp only [stored, Option.some.injEq, Obj.list.injEq] at standing
          rw [map_eq_on _ items others _ standing]
          intro item member second inside equal
          exact ih item member second (rest second inside) equal

theorem foldr_max_mem (heights : List Nat) (nonempty : heights ≠ []) : heights.foldr max 0 ∈ heights := by
  induction heights with
  | nil => exact absurd rfl nonempty
  | cons height rest ih =>
      rw [List.foldr_cons]
      by_cases last : rest = []
      · simp [last]
      · rcases Nat.le_total (rest.foldr max 0) height with lower | higher
        · simp [Nat.max_eq_left lower]
        · rw [Nat.max_eq_right higher]
          exact List.mem_cons_of_mem _ (ih last)

theorem foldr_max_le (heights : List Nat) (bound : Nat) :
    heights.foldr max 0 ≤ bound ↔ ∀ height ∈ heights, height ≤ bound := by
  induction heights with
  | nil => simp
  | cons height rest ih => rw [List.foldr_cons, Nat.max_le, ih, List.forall_mem_cons]

-- The cells on a longest way down, each of a document that is no deeper.
def Descent (heap : Heap K A) (depth : Nat) (cells : List Nat) : Prop :=
  cells.length = depth ∧ cells.Nodup ∧
    ∀ cell ∈ cells, ∃ doc, Holds heap doc ∧ doc.val = .ref cell ∧ doc.depth ≤ depth

theorem descent_step (heap : Heap K A) (doc : Doc Nat K A) (cell : Nat) (holds : Holds heap doc)
    (found : doc.val = .ref cell) (heights : List Nat) (deep : doc.depth = heights.foldr max 0 + 1)
    (below : ∀ height ∈ heights, ∃ cells, Descent heap height cells) : ∃ cells, Descent heap doc.depth cells := by
  by_cases empty : heights = []
  · refine ⟨[cell], ?_, List.nodup_singleton cell, ?_⟩
    · simp [deep, empty]
    · intro other member
      rw [List.mem_singleton.mp member]
      exact ⟨doc, holds, found, Nat.le_refl _⟩
  · obtain ⟨cells, length, distinct, held⟩ := below _ (foldr_max_mem heights empty)
    refine ⟨cell :: cells, ?_, List.nodup_cons.mpr ⟨?_, distinct⟩, ?_⟩
    · rw [List.length_cons, length, deep]
    · intro again
      obtain ⟨other, stands, value, lower⟩ := held cell again
      have same := holds_unique heap other doc stands holds (value.trans found.symm)
      rw [same, deep] at lower
      exact Nat.not_succ_le_self _ lower
    · intro other member
      rcases List.mem_cons.mp member with rfl | inside
      · exact ⟨doc, holds, found, Nat.le_refl _⟩
      · obtain ⟨below, stands, value, lower⟩ := held other inside
        exact ⟨below, stands, value, by omega⟩

theorem holds_descent (heap : Heap K A) (doc : Doc Nat K A) (holds : Holds heap doc) :
    ∃ cells, Descent heap doc.depth cells := by
  induction holds with
  | atom value => exact ⟨[], rfl, List.nodup_nil, fun _ member => absurd member List.not_mem_nil⟩
  | dict cell parts fields stored written held ih =>
      apply descent_step heap _ cell (.dict cell parts fields stored written held) rfl _ (Doc.depth_dict cell parts)
      intro height member
      obtain ⟨entry, inside, rfl⟩ := List.mem_map.mp member
      exact ih entry inside
  | list cell items stored held ih =>
      apply descent_step heap _ cell (.list cell items stored held) rfl _ (Doc.depth_list cell items)
      intro height member
      obtain ⟨item, inside, rfl⟩ := List.mem_map.mp member
      exact ih item inside

theorem holds_cell (heap : Heap K A) (doc : Doc Nat K A) (holds : Holds heap doc) (cell : Nat)
    (found : doc.val = .ref cell) : cell < heap.length := by
  cases holds with
  | atom value => cases found
  | dict place parts fields stored written held =>
      cases found
      exact (List.getElem?_eq_some_iff.mp stored).1
  | list place items stored held =>
      cases found
      exact (List.getElem?_eq_some_iff.mp stored).1

theorem holds_labels (heap : Heap K A) (doc : Doc Nat K A) (holds : Holds heap doc) :
    ∀ cell ∈ doc.labels, cell < heap.length := by
  induction holds with
  | atom value => exact nofun
  | dict cell parts fields stored written held ih =>
      rw [Doc.labels_dict, List.forall_mem_cons]
      refine ⟨(List.getElem?_eq_some_iff.mp stored).1, fun other member => ?_⟩
      obtain ⟨entry, inside, within⟩ := List.mem_flatMap.mp member
      exact ih entry inside other within
  | list cell items stored held ih =>
      rw [Doc.labels_list, List.forall_mem_cons]
      refine ⟨(List.getElem?_eq_some_iff.mp stored).1, fun other member => ?_⟩
      obtain ⟨item, inside, within⟩ := List.mem_flatMap.mp member
      exact ih item inside other within

-- No document is deeper than the heap is large: a way down meets no cell twice.
theorem holds_depth (heap : Heap K A) (doc : Doc Nat K A) (holds : Holds heap doc) : doc.depth ≤ heap.length := by
  obtain ⟨cells, length, distinct, held⟩ := holds_descent heap doc holds
  have inside : cells ⊆ List.range heap.length := by
    intro cell member
    obtain ⟨other, stands, value, _⟩ := held cell member
    exact List.mem_range.mpr (holds_cell heap other stands cell value)
  have short := (List.subperm_of_subset distinct inside).length_le
  rwa [length, List.length_range] at short

def readItems (read : Val A → Option (Doc Nat K A)) : List (Val A) → Option (List (Doc Nat K A))
  | [] => some []
  | value :: rest =>
      match read value, readItems read rest with
      | some item, some items => some (item :: items)
      | _, _ => none

def readParts (read : Val A → Option (Doc Nat K A)) : List (K × Val A) → Option (List (K × Doc Nat K A))
  | [] => some []
  | (key, value) :: rest =>
      match read value, readParts read rest with
      | some part, some parts => some ((key, part) :: parts)
      | _, _ => none

def readTo (heap : Heap K A) : Nat → Val A → Option (Doc Nat K A)
  | _, .atom value => some (.atom value)
  | 0, .ref _ => none
  | depth + 1, .ref cell =>
      match heap[cell]? with
      | none => none
      | some (.dict fields) => (readParts (readTo heap depth) fields.entries).map (.dict cell)
      | some (.list items) => (readItems (readTo heap depth) items).map (.list cell)

-- The document a value is, or none when its objects go round in a circle.
def read (heap : Heap K A) (value : Val A) : Option (Doc Nat K A) := readTo heap heap.length value

theorem readItems_map (read : Val A → Option (Doc Nat K A)) (items : List (Doc Nat K A))
    (reads : ∀ item ∈ items, read item.val = some item) : readItems read (items.map Doc.val) = some items := by
  induction items with
  | nil => rfl
  | cons item rest ih =>
      obtain ⟨first, others⟩ := List.forall_mem_cons.mp reads
      rw [List.map_cons, readItems, first, ih others]

theorem readParts_map (read : Val A → Option (Doc Nat K A)) (parts : List (K × Doc Nat K A))
    (reads : ∀ entry ∈ parts, read entry.2.val = some entry.2) :
    readParts read (parts.map fun entry => (entry.1, entry.2.val)) = some parts := by
  induction parts with
  | nil => rfl
  | cons entry rest ih =>
      obtain ⟨first, others⟩ := List.forall_mem_cons.mp reads
      rw [List.map_cons, readParts, first, ih others]

theorem readItems_some (heap : Heap K A) (read : Val A → Option (Doc Nat K A))
    (reads : ∀ value doc, read value = some doc → Holds heap doc ∧ doc.val = value) (values : List (Val A))
    (items : List (Doc Nat K A)) (done : readItems read values = some items) :
    values = items.map Doc.val ∧ ∀ item ∈ items, Holds heap item := by
  induction values generalizing items with
  | nil =>
      cases done
      exact ⟨rfl, nofun⟩
  | cons value rest ih =>
      simp only [readItems] at done
      split at done
      · rename_i item others first remaining
        cases done
        obtain ⟨holds, same⟩ := reads value item first
        obtain ⟨values, held⟩ := ih others remaining
        exact ⟨by rw [List.map_cons, same, ← values], List.forall_mem_cons.mpr ⟨holds, held⟩⟩
      · cases done

theorem readParts_some (heap : Heap K A) (read : Val A → Option (Doc Nat K A))
    (reads : ∀ value doc, read value = some doc → Holds heap doc ∧ doc.val = value) (entries : List (K × Val A))
    (parts : List (K × Doc Nat K A)) (done : readParts read entries = some parts) :
    entries = parts.map (fun entry => (entry.1, entry.2.val)) ∧ ∀ entry ∈ parts, Holds heap entry.2 := by
  induction entries generalizing parts with
  | nil =>
      cases done
      exact ⟨rfl, nofun⟩
  | cons entry rest ih =>
      simp only [readParts] at done
      split at done
      · rename_i part others first remaining
        cases done
        obtain ⟨holds, same⟩ := reads entry.2 part first
        obtain ⟨values, held⟩ := ih others remaining
        exact ⟨by rw [List.map_cons, same, ← values], List.forall_mem_cons.mpr ⟨holds, held⟩⟩
      · cases done

theorem readTo_holds (heap : Heap K A) (depth : Nat) (value : Val A) (doc : Doc Nat K A)
    (done : readTo heap depth value = some doc) : Holds heap doc ∧ doc.val = value := by
  induction depth generalizing value doc with
  | zero =>
      cases value with
      | atom value =>
          cases done
          exact ⟨.atom value, rfl⟩
      | ref cell => cases done
  | succ depth ih =>
      cases value with
      | atom value =>
          cases done
          exact ⟨.atom value, rfl⟩
      | ref cell =>
          simp only [readTo] at done
          split at done
          · cases done
          · rename_i fields stored
            obtain ⟨parts, readAll, rfl⟩ := Option.map_eq_some_iff.mp done
            obtain ⟨written, held⟩ := readParts_some heap _ ih fields.entries parts readAll
            exact ⟨.dict cell parts fields stored written held, rfl⟩
          · rename_i items stored
            obtain ⟨docs, readAll, rfl⟩ := Option.map_eq_some_iff.mp done
            obtain ⟨rfl, held⟩ := readItems_some heap _ ih items docs readAll
            exact ⟨.list cell docs stored held, rfl⟩

theorem holds_readTo (heap : Heap K A) (doc : Doc Nat K A) (holds : Holds heap doc) (depth : Nat)
    (deep : doc.depth ≤ depth) : readTo heap depth doc.val = some doc := by
  induction holds generalizing depth with
  | atom value => cases depth <;> rfl
  | dict cell parts fields stored written held ih =>
      rw [Doc.depth_dict] at deep
      obtain ⟨depth, rfl⟩ := Nat.exists_eq_add_of_lt (Nat.lt_of_lt_of_le (Nat.succ_pos _) deep)
      rw [Nat.zero_add, Nat.succ_le_succ_iff, foldr_max_le, List.forall_mem_map] at deep
      rw [Doc.val, Nat.zero_add, readTo, stored]
      dsimp only
      rw [written, readParts_map _ parts fun entry member => ih entry member depth (deep entry member)]
      rfl
  | list cell items stored held ih =>
      rw [Doc.depth_list] at deep
      obtain ⟨depth, rfl⟩ := Nat.exists_eq_add_of_lt (Nat.lt_of_lt_of_le (Nat.succ_pos _) deep)
      rw [Nat.zero_add, Nat.succ_le_succ_iff, foldr_max_le, List.forall_mem_map] at deep
      rw [Doc.val, Nat.zero_add, readTo, stored]
      dsimp only
      rw [readItems_map _ items fun item member => ih item member depth (deep item member)]
      rfl

theorem read_iff (heap : Heap K A) (value : Val A) (doc : Doc Nat K A) :
    read heap value = some doc ↔ Holds heap doc ∧ doc.val = value := by
  constructor
  · intro done
    exact readTo_holds heap heap.length value doc done
  · rintro ⟨holds, rfl⟩
    exact holds_readTo heap doc holds heap.length (holds_depth heap doc holds)

-- No cell of the first list is found at more than one place.
def Once (dicts labels : List Nat) : Prop := ∀ cell ∈ dicts, labels.count cell ≤ 1

instance (dicts labels : List Nat) : Decidable (Once dicts labels) :=
  inferInstanceAs (Decidable (∀ cell ∈ dicts, _))

theorem Once.mono (dicts labels fewer less : List Nat) (once : Once dicts labels)
    (covered : ∀ cell ∈ fewer, cell ∈ dicts) (bound : ∀ cell, less.count cell ≤ labels.count cell) :
    Once fewer less :=
  fun cell member => Nat.le_trans (bound cell) (once cell (covered cell member))

-- One cell in two of the lists is counted twice.
theorem Once.apart (dicts left right : List Nat) (once : Once dicts (left ++ right)) (cell : Nat)
    (member : cell ∈ dicts) (inside : cell ∈ left) : cell ∉ right := by
  intro also
  have bound := once cell member
  have first := List.count_pos_iff.mpr inside
  have second := List.count_pos_iff.mpr also
  rw [List.count_append] at bound
  omega

theorem once_append (doc other : Doc Nat K A) (once : Once doc.dicts doc.labels) (also : Once other.dicts other.labels)
    (apart : ∀ cell ∈ doc.dicts, cell ∉ other.labels) (back : ∀ cell ∈ other.dicts, cell ∉ doc.labels) :
    Once (doc.dicts ++ other.dicts) (doc.labels ++ other.labels) := by
  intro cell member
  rw [List.count_append]
  rcases List.mem_append.mp member with mine | yours
  · rw [List.count_eq_zero.mpr (apart cell mine), Nat.add_zero]
    exact once cell mine
  · rw [List.count_eq_zero.mpr (back cell yours), Nat.zero_add]
    exact also cell yours

end Objects
