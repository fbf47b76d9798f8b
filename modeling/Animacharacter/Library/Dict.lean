import Mathlib.Data.List.Nodup

set_option autoImplicit false

namespace Entries

variable {K V : Type} [DecidableEq K]

def find (key : K) : List (K × V) → Option V
  | [] => none
  | (name, value) :: rest => if name = key then some value else find key rest

-- Assignment keeps the place of a known key and appends a new one.
def assign (key : K) (value : V) : List (K × V) → List (K × V)
  | [] => [(key, value)]
  | (name, old) :: rest => if name = key then (name, value) :: rest else (name, old) :: assign key value rest

def drop (key : K) : List (K × V) → List (K × V)
  | [] => []
  | (name, value) :: rest => if name = key then rest else (name, value) :: drop key rest

theorem find_some_mem (key : K) (value : V) (entries : List (K × V)) (found : find key entries = some value) :
    (key, value) ∈ entries := by
  induction entries with
  | nil => cases found
  | cons entry rest ih =>
      obtain ⟨name, old⟩ := entry
      simp only [find] at found
      split at found
      · rename_i same
        cases found
        simp [same]
      · exact List.mem_cons_of_mem _ (ih found)

theorem find_none_iff (key : K) (entries : List (K × V)) : find key entries = none ↔ key ∉ entries.map Prod.fst := by
  induction entries with
  | nil => simp [find]
  | cons entry rest ih =>
      obtain ⟨name, old⟩ := entry
      by_cases same : name = key
      · simp [find, same]
      · simp [find, same, ih, Ne.symm same]

theorem mem_find (key : K) (value : V) (entries : List (K × V)) (unique : (entries.map Prod.fst).Nodup)
    (member : (key, value) ∈ entries) : find key entries = some value := by
  induction entries with
  | nil => cases member
  | cons entry rest ih =>
      obtain ⟨name, old⟩ := entry
      simp only [List.map_cons, List.nodup_cons] at unique
      rcases List.mem_cons.mp member with head | tail
      · cases head
        simp [find]
      · have distinct : name ≠ key := by
          rintro rfl
          exact unique.1 (List.mem_map_of_mem tail)
        simp [find, distinct, ih unique.2 tail]

theorem find_assign (key other : K) (value : V) (entries : List (K × V)) :
    find other (assign key value entries) = if key = other then some value else find other entries := by
  induction entries with
  | nil => simp [assign, find]
  | cons entry rest ih =>
      obtain ⟨name, old⟩ := entry
      by_cases same : name = key
      · subst same
        by_cases hit : name = other <;> simp [assign, find, hit]
      · by_cases hit : name = other
        · subst hit
          simp [assign, find, same, Ne.symm same]
        · simp [assign, find, hit, same, ih]

theorem find_drop (key other : K) (entries : List (K × V)) (unique : (entries.map Prod.fst).Nodup) :
    find other (drop key entries) = if key = other then none else find other entries := by
  induction entries with
  | nil => simp [drop, find]
  | cons entry rest ih =>
      obtain ⟨name, old⟩ := entry
      simp only [List.map_cons, List.nodup_cons] at unique
      by_cases same : name = key
      · subst same
        by_cases hit : name = other
        · subst hit
          simpa [drop] using (find_none_iff name rest).mpr unique.1
        · simp [drop, find, hit]
      · by_cases hit : name = other
        · subst hit
          simp [drop, find, same, Ne.symm same]
        · simp [drop, find, hit, same, ih unique.2]

theorem names_assign (key : K) (value : V) (entries : List (K × V)) :
    (assign key value entries).map Prod.fst =
      if key ∈ entries.map Prod.fst then entries.map Prod.fst else entries.map Prod.fst ++ [key] := by
  induction entries with
  | nil => simp [assign]
  | cons entry rest ih =>
      obtain ⟨name, old⟩ := entry
      by_cases same : name = key
      · simp [assign, same]
      · simp only [assign, same, if_false, List.map_cons, ih, List.mem_cons, Ne.symm same, false_or]
        split <;> simp

theorem names_drop (key : K) (entries : List (K × V)) :
    (drop key entries).map Prod.fst = (entries.map Prod.fst).erase key := by
  induction entries with
  | nil => simp [drop]
  | cons entry rest ih =>
      obtain ⟨name, old⟩ := entry
      by_cases same : name = key
      · simp [drop, same]
      · simp [drop, same, ih]

theorem assign_found (key : K) (value : V) (entries : List (K × V)) (found : find key entries = some value) :
    assign key value entries = entries := by
  induction entries with
  | nil => cases found
  | cons entry rest ih =>
      obtain ⟨name, old⟩ := entry
      simp only [find] at found
      split at found
      · rename_i same
        cases found
        simp [assign, same]
      · rename_i other
        simp [assign, other, ih found]

theorem assign_fresh (key : K) (value : V) (entries : List (K × V)) (missing : find key entries = none) :
    assign key value entries = entries ++ [(key, value)] := by
  induction entries with
  | nil => rfl
  | cons entry rest ih =>
      obtain ⟨name, old⟩ := entry
      simp only [find] at missing
      split at missing
      · cases missing
      · rename_i other
        simp [assign, other, ih missing]

theorem find_split (key : K) (value : V) (entries : List (K × V)) (found : find key entries = some value) :
    ∃ before after, entries = before ++ (key, value) :: after ∧
      ∀ fresh, assign key fresh entries = before ++ (key, fresh) :: after := by
  induction entries with
  | nil => cases found
  | cons entry rest ih =>
      obtain ⟨name, old⟩ := entry
      simp only [find] at found
      split at found
      · rename_i same
        cases found
        exact ⟨[], rest, by simp [same], fun fresh => by simp [assign, same]⟩
      · rename_i other
        obtain ⟨before, after, split, assigned⟩ := ih found
        refine ⟨(name, old) :: before, after, by rw [split, List.cons_append], fun fresh => ?_⟩
        simp [assign, other, assigned]

theorem mem_assign (key : K) (value : V) (entries : List (K × V)) (entry : K × V)
    (member : entry ∈ assign key value entries) : entry = (key, value) ∨ entry ∈ entries := by
  cases found : find key entries with
  | none =>
      rw [assign_fresh key value entries found, List.mem_append, List.mem_singleton] at member
      exact member.symm
  | some old =>
      obtain ⟨before, after, split, assigned⟩ := find_split key old entries found
      rw [assigned, List.mem_append, List.mem_cons] at member
      rw [split, List.mem_append, List.mem_cons]
      tauto

theorem find_map {W : Type} (change : V → W) (key : K) (entries : List (K × V)) :
    find key (entries.map fun entry => (entry.1, change entry.2)) = (find key entries).map change := by
  induction entries with
  | nil => rfl
  | cons entry rest ih =>
      rw [List.map_cons, find, find, ih]
      split <;> rfl

theorem assign_map {W : Type} (change : V → W) (key : K) (value : V) (entries : List (K × V)) :
    (assign key value entries).map (fun entry => (entry.1, change entry.2)) =
      assign key (change value) (entries.map fun entry => (entry.1, change entry.2)) := by
  induction entries with
  | nil => rfl
  | cons entry rest ih =>
      rw [List.map_cons, assign, assign]
      split
      · rfl
      · rw [List.map_cons, ih]

end Entries

-- A dictionary that remembers insertion order: one entry for each key.
structure Dict (K V : Type) where
  entries : List (K × V)
  unique : (entries.map Prod.fst).Nodup

namespace Dict

variable {K V : Type} [DecidableEq K]

def empty : Dict K V := ⟨[], List.nodup_nil⟩

def keys (dict : Dict K V) : List K := dict.entries.map Prod.fst

def get (dict : Dict K V) (key : K) : Option V := Entries.find key dict.entries

theorem assign_unique (dict : Dict K V) (key : K) (value : V) :
    ((Entries.assign key value dict.entries).map Prod.fst).Nodup := by
  rw [Entries.names_assign]
  split
  · exact dict.unique
  · rename_i fresh
    simpa using List.Nodup.concat fresh dict.unique

theorem drop_unique (dict : Dict K V) (key : K) : ((Entries.drop key dict.entries).map Prod.fst).Nodup := by
  rw [Entries.names_drop]
  exact dict.unique.erase key

def set (dict : Dict K V) (key : K) (value : V) : Dict K V :=
  ⟨Entries.assign key value dict.entries, dict.assign_unique key value⟩

def update (dict other : Dict K V) : Dict K V :=
  other.entries.foldl (fun dict entry => dict.set entry.1 entry.2) dict

def pop (dict : Dict K V) (key : K) : Dict K V := ⟨Entries.drop key dict.entries, dict.drop_unique key⟩

instance [DecidableEq V] : DecidableEq (Dict K V) := fun left right =>
  decidable_of_iff (left.entries = right.entries) (by cases left; cases right; simp)

omit [DecidableEq K] in
theorem ext_entries (left right : Dict K V) (same : left.entries = right.entries) : left = right := by
  cases left
  cases right
  cases same
  rfl

@[simp] theorem get_set (dict : Dict K V) (key other : K) (value : V) :
    (dict.set key value).get other = if key = other then some value else dict.get other :=
  Entries.find_assign key other value dict.entries

@[simp] theorem get_pop (dict : Dict K V) (key other : K) :
    (dict.pop key).get other = if key = other then none else dict.get other :=
  Entries.find_drop key other dict.entries dict.unique

theorem mem_entries_iff (dict : Dict K V) (key : K) (value : V) :
    (key, value) ∈ dict.entries ↔ dict.get key = some value :=
  ⟨Entries.mem_find key value dict.entries dict.unique, Entries.find_some_mem key value dict.entries⟩

theorem mem_keys_iff (dict : Dict K V) (key : K) : key ∈ dict.keys ↔ ∃ value, dict.get key = some value := by
  rw [← Option.ne_none_iff_exists']
  exact not_iff_not.mp (not_not.trans (Entries.find_none_iff key dict.entries)).symm

theorem keys_set (dict : Dict K V) (key : K) (value : V) :
    (dict.set key value).keys = if key ∈ dict.keys then dict.keys else dict.keys ++ [key] :=
  Entries.names_assign key value dict.entries

theorem keys_pop (dict : Dict K V) (key : K) : (dict.pop key).keys = dict.keys.erase key :=
  Entries.names_drop key dict.entries

theorem set_same (dict : Dict K V) (key : K) (value : V) (found : dict.get key = some value) :
    dict.set key value = dict :=
  ext_entries _ _ (Entries.assign_found key value dict.entries found)

theorem get_set_all (entries : List (K × V)) (dict : Dict K V) (key : K) (unique : (entries.map Prod.fst).Nodup) :
    (entries.foldl (fun dict entry => dict.set entry.1 entry.2) dict).get key =
      (Entries.find key entries).or (dict.get key) := by
  induction entries generalizing dict with
  | nil => rfl
  | cons entry rest ih =>
      rw [List.map_cons, List.nodup_cons] at unique
      rw [List.foldl_cons, ih _ unique.2, get_set, Entries.find]
      by_cases same : entry.1 = key
      · rw [if_pos same, if_pos same, (Entries.find_none_iff key rest).mpr (same ▸ unique.1)]
        rfl
      · rw [if_neg same, if_neg same]

@[simp] theorem get_update (dict other : Dict K V) (key : K) :
    (dict.update other).get key = (other.get key).or (dict.get key) :=
  get_set_all other.entries dict key other.unique

end Dict
