import Mathlib.Algebra.Group.Nat.Defs
import Mathlib.Data.List.Induction

set_option autoImplicit false

namespace Animacharacter.SerialDevice

variable {T : Type}

def BLOCKSIZE : Nat := 16
def BLOCKSAMOUNT : Nat := 16

structure TableBlock (T : Type) where
  items : Vector T BLOCKSIZE

-- `none` is the null pointer of a block that has not been allocated.
structure FastTable (T : Type) where
  blocks : Vector (Option (TableBlock T)) BLOCKSAMOUNT

def TableBlock.init [Inhabited T] : TableBlock T := ⟨Vector.replicate BLOCKSIZE default⟩

theorem high_half (key : UInt8) : (key >>> 4).toNat = key.toNat / 16 := by
  rw [UInt8.toNat_shiftRight]
  exact Nat.shiftRight_eq_div_pow key.toNat 4

theorem low_half (key : UInt8) : (key &&& 0x0F).toNat = key.toNat % 16 := by
  rw [UInt8.toNat_and]
  exact Nat.and_two_pow_sub_one_eq_mod key.toNat 4

theorem block_index_inside (key : UInt8) : (key >>> 4).toNat < BLOCKSAMOUNT := by
  have range := key.toNat_lt
  rw [high_half, BLOCKSAMOUNT]
  omega

theorem inside_block_index_inside (key : UInt8) : (key &&& 0x0F).toNat < BLOCKSIZE := by
  rw [low_half]
  exact Nat.mod_lt _ (by decide)

namespace FastTable

def init : FastTable T := ⟨Vector.replicate BLOCKSAMOUNT none⟩

def blockIndex (key : UInt8) : Fin BLOCKSAMOUNT := ⟨(key >>> 4).toNat, block_index_inside key⟩

def insideBlockIndex (key : UInt8) : Fin BLOCKSIZE := ⟨(key &&& 0x0F).toNat, inside_block_index_inside key⟩

def put [Inhabited T] (table : FastTable T) (key : UInt8) (value : T) : FastTable T :=
  let block := table.blocks[blockIndex key].getD TableBlock.init
  let filled : TableBlock T := ⟨block.items.set (insideBlockIndex key) value⟩
  ⟨table.blocks.set (blockIndex key) (some filled)⟩

-- `none` is the null pointer that is returned for a key of a block not allocated.
def get (table : FastTable T) (key : UInt8) : Option T :=
  match table.blocks[blockIndex key] with
  | none => none
  | some block => some block.items[insideBlockIndex key]

theorem same_key (key other : UInt8) (block : blockIndex key = blockIndex other)
    (inside : insideBlockIndex key = insideBlockIndex other) : key = other := by
  have high : (key >>> 4).toNat = (other >>> 4).toNat := Fin.mk.inj block
  have low : (key &&& 0x0F).toNat = (other &&& 0x0F).toNat := Fin.mk.inj inside
  rw [high_half, high_half] at high
  rw [low_half, low_half] at low
  apply UInt8.toNat_inj.mp
  omega

theorem get_init (key : UInt8) : (init : FastTable T).get key = none := by
  simp [get, init]

-- A put allocates the whole block: its other keys get the default value.
theorem get_put [Inhabited T] (table : FastTable T) (key other : UInt8) (value : T) :
    (table.put key value).get other =
      if key = other then some value
      else if blockIndex key = blockIndex other then some ((table.get other).getD default)
      else table.get other := by
  by_cases same : key = other
  · subst same
    simp [get, put]
  · rw [if_neg same]
    by_cases near : blockIndex key = blockIndex other
    · have apart : (insideBlockIndex key).val ≠ (insideBlockIndex other).val :=
        fun inside => same (same_key key other near (Fin.ext inside))
      rw [if_pos near]
      cases allocated : table.blocks[blockIndex other] <;>
        simp_all [get, put, TableBlock.init, Vector.getElem_set_ne]
    · have apart : (blockIndex key).val ≠ (blockIndex other).val := fun block => near (Fin.ext block)
      rw [if_neg near]
      simp [get, put, Vector.getElem_set_ne _ _ apart]

def putAll [Inhabited T] (table : FastTable T) (entries : List (UInt8 × T)) : FastTable T :=
  entries.foldl (fun table entry => table.put entry.1 entry.2) table

def lastPut (key : UInt8) (entries : List (UInt8 × T)) : Option T :=
  entries.foldl (fun last entry => if entry.1 = key then some entry.2 else last) none

def Touched (entries : List (UInt8 × T)) (key : UInt8) : Prop :=
  ∃ entry ∈ entries, blockIndex entry.1 = blockIndex key

theorem last_put_append (key : UInt8) (entries : List (UInt8 × T)) (entry : UInt8 × T) :
    lastPut key (entries ++ [entry]) = if entry.1 = key then some entry.2 else lastPut key entries := by
  rw [lastPut, List.foldl_append]
  rfl

theorem last_put_none (key : UInt8) (entries : List (UInt8 × T)) :
    lastPut key entries = none ↔ ∀ value, (key, value) ∉ entries := by
  induction entries using List.reverseRecOn with
  | nil => exact iff_of_true rfl nofun
  | append_singleton entries entry ih =>
      rw [last_put_append]
      by_cases same : entry.1 = key
      · rw [if_pos same]
        apply iff_of_false nofun
        intro absent
        exact absent entry.2 (by rw [← same]; exact List.mem_append_right _ (List.mem_singleton_self _))
      · rw [if_neg same, ih]
        constructor
        · intro absent value member
          rcases List.mem_append.mp member with old | new
          · exact absent value old
          · exact same (by rw [← List.mem_singleton.mp new])
        · intro absent value member
          exact absent value (List.mem_append_left _ member)

theorem touched_append (entries : List (UInt8 × T)) (entry : UInt8 × T) (key : UInt8) :
    Touched (entries ++ [entry]) key ↔ Touched entries key ∨ blockIndex entry.1 = blockIndex key := by
  simp [Touched, or_and_right, exists_or]

-- What a table answers after any sequence of puts: the last value of the key,
-- the default next to other keys of its block, and null in an empty block.
structure Answers [Inhabited T] (table : FastTable T) (entries : List (UInt8 × T)) (key : UInt8) : Prop where
  held : ∀ value, lastPut key entries = some value → table.get key = some value
  beside : lastPut key entries = none → Touched entries key → table.get key = some default
  empty : ¬ Touched entries key → table.get key = none

theorem put_all_answers [Inhabited T] (entries : List (UInt8 × T)) (key : UInt8) :
    Answers (init.putAll entries) entries key := by
  induction entries using List.reverseRecOn with
  | nil => exact ⟨nofun, fun _ touched => by simp [Touched] at touched, fun _ => get_init key⟩
  | append_singleton entries entry ih =>
      have step : init.putAll (entries ++ [entry]) = (init.putAll entries).put entry.1 entry.2 := by
        rw [putAll, List.foldl_append]
        rfl
      rw [step]
      constructor
      · intro value last
        rw [last_put_append] at last
        rw [get_put]
        by_cases same : entry.1 = key
        · rw [if_pos same] at last ⊢
          exact last
        · rw [if_neg same] at last ⊢
          rw [ih.held value last]
          exact ite_self _
      · intro last touched
        rw [last_put_append] at last
        rw [touched_append] at touched
        rw [get_put]
        by_cases same : entry.1 = key
        · rw [if_pos same] at last
          cases last
        · rw [if_neg same] at last ⊢
          by_cases old : Touched entries key
          · rw [ih.beside last old]
            exact ite_self _
          · rw [if_pos (touched.resolve_left old), ih.empty old]
            rfl
      · intro untouched
        rw [touched_append, not_or] at untouched
        rw [get_put, if_neg (fun same => untouched.2 (by rw [same])), if_neg untouched.2]
        exact ih.empty untouched.1

end FastTable

end Animacharacter.SerialDevice
