import Animacharacter.Library.Dict

set_option autoImplicit false

namespace Animacharacter.Animadummies

variable {Value : Type}

structure Actuator (Value : Type) where
  id : Nat
  value : Value

def validateNewValue (val : Value) : Value := val

def Actuator.posefrom (self actuator : Actuator Value) : Actuator Value :=
  { self with value := validateNewValue actuator.value }

-- Actuators are shared objects, so groups hold references to them. The arrays
-- of a group are fixed by its constructor.
inductive ActuatorGroup where
  | init (actuatorsarray : List Nat) (subgroupsarray : List ActuatorGroup)

namespace ActuatorGroup

def actuatorsarray : ActuatorGroup → List Nat
  | .init actuatorsarray _ => actuatorsarray

-- { act.id : act for act in self._actuatorsarray }
def ownTable (actuators : Nat → Actuator Value) (actuatorsarray : List Nat) : Dict Nat Nat :=
  actuatorsarray.foldl (fun table act => table.set (actuators act).id act) Dict.empty

mutual
def actTable (actuators : Nat → Actuator Value) : ActuatorGroup → Dict Nat Nat
  | .init actuatorsarray subgroupsarray =>
      updateTable actuators (ownTable actuators actuatorsarray) subgroupsarray

def updateTable (actuators : Nat → Actuator Value) (table : Dict Nat Nat) : List ActuatorGroup → Dict Nat Nat
  | [] => table
  | sg :: rest => updateTable actuators (table.update (actTable actuators sg)) rest
end

-- One round of the loop over the actuators of the source.
def poseOne (table : Dict Nat Nat) (actuators : Nat → Actuator Value) (act : Nat) : Nat → Actuator Value :=
  match table.get (actuators act).id with
  | none => actuators
  | some own => Function.update actuators own ((actuators own).posefrom (actuators act))

def posefrom (actuators : Nat → Actuator Value) (self group : ActuatorGroup) : Nat → Actuator Value :=
  group.actuatorsarray.foldl (poseOne (self.actTable actuators)) actuators

mutual
def genMotiondata (actuators : Nat → Actuator Value) : ActuatorGroup → List (Nat × Value)
  | .init actuatorsarray subgroupsarray =>
      actuatorsarray.map (fun act => ((actuators act).id, (actuators act).value)) ++
        genAll actuators subgroupsarray

def genAll (actuators : Nat → Actuator Value) : List ActuatorGroup → List (Nat × Value)
  | [] => []
  | sg :: rest => genMotiondata actuators sg ++ genAll actuators rest
end

mutual
def everywhere : ActuatorGroup → List Nat
  | .init actuatorsarray subgroupsarray => actuatorsarray ++ everywhereAll subgroupsarray

def everywhereAll : List ActuatorGroup → List Nat
  | [] => []
  | sg :: rest => everywhere sg ++ everywhereAll rest
end

theorem everywhere_own (group : ActuatorGroup) (act : Nat) (member : act ∈ group.actuatorsarray) :
    act ∈ group.everywhere := by
  cases group with
  | init actuatorsarray subgroupsarray => exact List.mem_append_left _ member

mutual
theorem gen_motiondata_everywhere (actuators : Nat → Actuator Value) (group : ActuatorGroup) :
    group.genMotiondata actuators =
      group.everywhere.map (fun act => ((actuators act).id, (actuators act).value)) := by
  cases group with
  | init actuatorsarray subgroupsarray =>
      rw [genMotiondata, everywhere, List.map_append, gen_all_everywhere actuators subgroupsarray]

theorem gen_all_everywhere (actuators : Nat → Actuator Value) (groups : List ActuatorGroup) :
    genAll actuators groups =
      (everywhereAll groups).map (fun act => ((actuators act).id, (actuators act).value)) := by
  cases groups with
  | nil => rfl
  | cons sg rest =>
      rw [genAll, everywhereAll, List.map_append, gen_motiondata_everywhere actuators sg,
        gen_all_everywhere actuators rest]
end

-- The table names actuators of the list by their ids, and has a name for each id.
structure Names (actuators : Nat → Actuator Value) (table : Dict Nat Nat) (acts : List Nat) : Prop where
  named : ∀ id act, table.get id = some act → act ∈ acts ∧ (actuators act).id = id
  found : ∀ act ∈ acts, ∃ own, table.get (actuators act).id = some own

theorem names_set (actuators : Nat → Actuator Value) (table : Dict Nat Nat) (acts : List Nat) (act : Nat)
    (names : Names actuators table acts) : Names actuators (table.set (actuators act).id act) (acts ++ [act]) := by
  constructor
  · intro id own known
    rw [Dict.get_set] at known
    split at known
    · rename_i same
      cases known
      exact ⟨List.mem_append_right _ (List.mem_singleton_self _), same⟩
    · exact ⟨List.mem_append_left _ (names.named id own known).1, (names.named id own known).2⟩
  · intro other member
    rw [Dict.get_set]
    split
    · exact ⟨act, rfl⟩
    · rename_i distinct
      rcases List.mem_append.mp member with old | new
      · exact names.found other old
      · rw [List.mem_singleton.mp new] at distinct
        exact absurd rfl distinct

theorem names_own (actuators : Nat → Actuator Value) (acts : List Nat) (table : Dict Nat Nat) (before : List Nat)
    (names : Names actuators table before) :
    Names actuators (acts.foldl (fun table act => table.set (actuators act).id act) table) (before ++ acts) := by
  induction acts generalizing table before with
  | nil => rwa [List.append_nil]
  | cons act rest ih =>
      rw [List.append_cons]
      exact ih _ _ (names_set actuators table before act names)

theorem names_update (actuators : Nat → Actuator Value) (table other : Dict Nat Nat) (acts others : List Nat)
    (names : Names actuators table acts) (more : Names actuators other others) :
    Names actuators (table.update other) (acts ++ others) := by
  constructor
  · intro id act known
    rw [Dict.get_update, Option.or_eq_some_iff] at known
    rcases known with new | ⟨_, old⟩
    · exact ⟨List.mem_append_right _ (more.named id act new).1, (more.named id act new).2⟩
    · exact ⟨List.mem_append_left _ (names.named id act old).1, (names.named id act old).2⟩
  · intro act member
    rw [Dict.get_update]
    rcases List.mem_append.mp member with old | new
    · obtain ⟨own, known⟩ := names.found act old
      rw [known]
      exact ⟨_, Option.or_some⟩
    · obtain ⟨own, known⟩ := more.found act new
      rw [known]
      exact ⟨own, rfl⟩

mutual
theorem names_table (actuators : Nat → Actuator Value) (group : ActuatorGroup) :
    Names actuators (group.actTable actuators) group.everywhere := by
  cases group with
  | init actuatorsarray subgroupsarray =>
      have empty : Names actuators Dict.empty [] := ⟨nofun, nofun⟩
      exact names_subgroups actuators subgroupsarray _ _ (names_own actuators actuatorsarray Dict.empty [] empty)

theorem names_subgroups (actuators : Nat → Actuator Value) (groups : List ActuatorGroup) (table : Dict Nat Nat)
    (acts : List Nat) (names : Names actuators table acts) :
    Names actuators (updateTable actuators table groups) (acts ++ everywhereAll groups) := by
  cases groups with
  | nil => simpa [updateTable, everywhereAll] using names
  | cons sg rest =>
      rw [updateTable, everywhereAll, ← List.append_assoc]
      exact names_subgroups actuators rest _ _
        (names_update actuators table _ acts _ names (names_table actuators sg))
end

-- Distinct actuator ids inside a group.
def DistinctIds (actuators : Nat → Actuator Value) (acts : List Nat) : Prop :=
  (acts.map fun act => (actuators act).id).Nodup

theorem distinct_same (actuators : Nat → Actuator Value) (acts : List Nat) (distinct : DistinctIds actuators acts)
    (first second : Nat) (left : first ∈ acts) (right : second ∈ acts)
    (same : (actuators first).id = (actuators second).id) : first = second :=
  List.inj_on_of_nodup_map distinct left right same

theorem pose_one_id (table : Dict Nat Nat) (actuators : Nat → Actuator Value) (act other : Nat) :
    (poseOne table actuators act other).id = (actuators other).id := by
  rw [poseOne]
  cases table.get (actuators act).id with
  | none => rfl
  | some own =>
      dsimp only
      by_cases same : other = own
      · rw [same, Function.update_self]
        rfl
      · rw [Function.update_of_ne same]

theorem pose_one_value (table : Dict Nat Nat) (actuators : Nat → Actuator Value) (act other : Nat) :
    (poseOne table actuators act other).value =
      if table.get (actuators act).id = some other then (actuators act).value else (actuators other).value := by
  rw [poseOne]
  cases table.get (actuators act).id with
  | none => rw [if_neg nofun]
  | some own =>
      dsimp only
      by_cases same : other = own
      · rw [same, Function.update_self, if_pos rfl]
        rfl
      · rw [Function.update_of_ne same, if_neg (fun hit => same (Option.some.inj hit).symm)]

theorem pose_all_ids (table : Dict Nat Nat) (acts : List Nat) (actuators : Nat → Actuator Value) (other : Nat) :
    (acts.foldl (poseOne table) actuators other).id = (actuators other).id := by
  induction acts generalizing actuators with
  | nil => rfl
  | cons act rest ih => rw [List.foldl_cons, ih, pose_one_id]

-- The table keeps to the ids, so no two actuators of the loop aim at one target
-- and none of them is the target of an earlier one.
theorem pose_all_values (table : Dict Nat Nat) (acts : List Nat) (actuators : Nat → Actuator Value)
    (named : ∀ id own, table.get id = some own → (actuators own).id = id) (distinct : DistinctIds actuators acts)
    (own : Nat) :
    (∀ act ∈ acts, table.get (actuators act).id = some own →
      (acts.foldl (poseOne table) actuators own).value = (actuators act).value) ∧
    ((∀ act ∈ acts, table.get (actuators act).id ≠ some own) →
      (acts.foldl (poseOne table) actuators own).value = (actuators own).value) := by
  induction acts generalizing actuators with
  | nil => exact ⟨nofun, fun _ => rfl⟩
  | cons act rest ih =>
      have others : (actuators act).id ∉ rest.map fun act => (actuators act).id := (List.nodup_cons.mp distinct).1
      have ids (other : Nat) := pose_one_id table actuators act other
      obtain ⟨copied, kept⟩ := ih (poseOne table actuators act)
        (fun id own known => (ids own).trans (named id own known))
        (by simpa only [DistinctIds, ids] using (List.nodup_cons.mp distinct).2)
      simp only [ids] at copied kept
      have source (other : Nat) (member : other ∈ rest) :
          (poseOne table actuators act other).value = (actuators other).value := by
        rw [pose_one_value, if_neg]
        intro aimed
        exact others (named _ other aimed ▸ List.mem_map_of_mem member)
      rw [List.foldl_cons]
      constructor
      · intro other member aimed
        rcases List.mem_cons.mp member with rfl | later
        · have untouched : ∀ later ∈ rest, table.get (actuators later).id ≠ some own := by
            intro later inside also
            have same : (actuators other).id = (actuators later).id :=
              (named _ own aimed).symm.trans (named _ own also)
            exact others (same ▸ List.mem_map_of_mem inside)
          rw [kept untouched, pose_one_value, if_pos aimed]
        · rw [copied other later aimed, source other later]
      · intro missed
        rw [kept (fun later inside => missed later (List.mem_cons_of_mem _ inside)), pose_one_value,
          if_neg (missed act List.mem_cons_self)]

-- Every actuator of the first group has the value of its namesake in the second,
-- and those without one have kept theirs.
def PoseCopied (before after : Nat → Actuator Value) (self group : ActuatorGroup) : Prop :=
  ∀ own ∈ self.everywhere,
    (∀ other ∈ group.everywhere, (after other).id = (after own).id → (after own).value = (after other).value) ∧
    ((∀ other ∈ group.everywhere, (after other).id ≠ (after own).id) → (after own).value = (before own).value)

section Pose

variable (actuators : Nat → Actuator Value) (self group : ActuatorGroup)
  (selfIds : DistinctIds actuators self.everywhere) (groupIds : DistinctIds actuators group.everywhere)

theorem posefrom_id (other : Nat) : (posefrom actuators self group other).id = (actuators other).id :=
  pose_all_ids _ _ _ other

theorem table_named (id own : Nat) (known : (self.actTable actuators).get id = some own) : (actuators own).id = id :=
  ((names_table actuators self).named id own known).2

include selfIds in
theorem table_finds (own : Nat) (member : own ∈ self.everywhere) :
    (self.actTable actuators).get (actuators own).id = some own := by
  obtain ⟨named, known⟩ := (names_table actuators self).found own member
  obtain ⟨inside, same⟩ := (names_table actuators self).named _ named known
  rw [known, distinct_same actuators self.everywhere selfIds named own inside member same]

include groupIds in
theorem own_ids_distinct : DistinctIds actuators group.actuatorsarray := by
  cases group with
  | init actuatorsarray subgroupsarray =>
      rw [DistinctIds, everywhere, List.map_append] at groupIds
      exact groupIds.of_append_left

include selfIds groupIds in
theorem posefrom_copied (own act : Nat) (member : own ∈ self.everywhere) (direct : act ∈ group.actuatorsarray)
    (same : (actuators act).id = (actuators own).id) :
    (posefrom actuators self group own).value = (actuators act).value := by
  apply (pose_all_values _ _ actuators (table_named actuators self) (own_ids_distinct actuators group groupIds) own).1
    act direct
  rw [same]
  exact table_finds actuators self selfIds own member

include groupIds in
theorem posefrom_kept (own : Nat) (missed : ∀ act ∈ group.actuatorsarray, (actuators act).id ≠ (actuators own).id) :
    (posefrom actuators self group own).value = (actuators own).value := by
  apply (pose_all_values _ _ actuators (table_named actuators self) (own_ids_distinct actuators group groupIds) own).2
  intro act direct aimed
  exact missed act direct (table_named actuators self _ own aimed).symm

include groupIds in
theorem posefrom_source (other : Nat) (member : other ∈ group.everywhere) :
    (posefrom actuators self group other).value = (actuators other).value := by
  obtain ⟨copied, kept⟩ := pose_all_values _ _ actuators (table_named actuators self)
    (own_ids_distinct actuators group groupIds) other
  by_cases aimed : ∃ act ∈ group.actuatorsarray, (self.actTable actuators).get (actuators act).id = some other
  · obtain ⟨act, direct, hits⟩ := aimed
    have same : other = act := distinct_same actuators group.everywhere groupIds other act member
      (everywhere_own group act direct) (table_named actuators self _ other hits)
    rw [posefrom, copied act direct hits, same]
  · exact kept (fun act direct hits => aimed ⟨act, direct, hits⟩)

include groupIds in
theorem nested_missed (own other : Nat) (member : other ∈ group.everywhere)
    (same : (actuators other).id = (actuators own).id) (nested : other ∉ group.actuatorsarray) :
    ∀ act ∈ group.actuatorsarray, (actuators act).id ≠ (actuators own).id := by
  intro act direct also
  have equal := distinct_same actuators group.everywhere groupIds other act member (everywhere_own group act direct)
    (same.trans also.symm)
  exact nested (equal ▸ direct)

include selfIds groupIds in
-- The loop of the source sees its own actuators only; what lies in a subgroup is
-- copied exactly where there is nothing to copy.
theorem pose_copied :
    PoseCopied actuators (posefrom actuators self group) self group ↔
      ∀ own ∈ self.everywhere, ∀ other ∈ group.everywhere, (actuators other).id = (actuators own).id →
        other ∈ group.actuatorsarray ∨ (actuators own).value = (actuators other).value := by
  simp only [PoseCopied, posefrom_id]
  constructor
  · intro copied own member other inside same
    by_cases direct : other ∈ group.actuatorsarray
    · exact .inl direct
    · have arrived := (copied own member).1 other inside same
      rw [posefrom_source actuators self group groupIds other inside, posefrom_kept actuators self group groupIds own
        (nested_missed actuators group groupIds own other inside same direct)] at arrived
      exact .inr arrived
  · intro equal own member
    constructor
    · intro other inside same
      rw [posefrom_source actuators self group groupIds other inside]
      by_cases direct : other ∈ group.actuatorsarray
      · exact posefrom_copied actuators self group selfIds groupIds own other member direct same
      · rw [posefrom_kept actuators self group groupIds own
          (nested_missed actuators group groupIds own other inside same direct)]
        exact (equal own member other inside same).resolve_left direct
    · intro alone
      exact posefrom_kept actuators self group groupIds own
        (fun act direct => alone act (everywhere_own group act direct))

end Pose

-- Two dummies with one actuator of the id 7 in a subgroup, as the objects 0 and 1.
def twoDummies : Nat → Actuator Nat
  | 0 => ⟨7, 0⟩
  | _ => ⟨7, 3⟩

def dummyOf (act : Nat) : ActuatorGroup := .init [] [.init [act] []]

-- Of the actuators of one dummy the first has its id in the part itself, the
-- second one in a subgroup of it with its own value, and the third one nowhere.
def severalActuators : Nat → Actuator Nat
  | 0 => ⟨7, 0⟩
  | 1 => ⟨8, 5⟩
  | 2 => ⟨9, 4⟩
  | 3 => ⟨7, 3⟩
  | 4 => ⟨12, 6⟩
  | _ => ⟨8, 5⟩

def dummy : ActuatorGroup := .init [0] [.init [1] [.init [2] []]]

def part : ActuatorGroup := .init [3, 4] [.init [5] []]

theorem pose_copied_from_part :
    dummy.everywhere.map (fun act => (posefrom severalActuators dummy part act).value) = [3, 5, 4] ∧
      PoseCopied severalActuators (posefrom severalActuators dummy part) dummy part := by
  have selfIds : DistinctIds severalActuators dummy.everywhere := by
    rw [DistinctIds]
    decide
  have groupIds : DistinctIds severalActuators part.everywhere := by
    rw [DistinctIds]
    decide
  refine ⟨rfl, (pose_copied severalActuators dummy part selfIds groupIds).mpr ?_⟩
  decide

theorem nested_source_not_copied :
    DistinctIds twoDummies (dummyOf 0).everywhere ∧ DistinctIds twoDummies (dummyOf 1).everywhere ∧
      posefrom twoDummies (dummyOf 0) (dummyOf 1) 0 = ⟨7, 0⟩ ∧
      posefrom twoDummies (dummyOf 0) (dummyOf 1) 1 = ⟨7, 3⟩ ∧
      ¬ PoseCopied twoDummies (posefrom twoDummies (dummyOf 0) (dummyOf 1)) (dummyOf 0) (dummyOf 1) := by
  refine ⟨List.nodup_singleton _, List.nodup_singleton _, rfl, rfl, fun copied => ?_⟩
  have arrived := (copied 0 (List.mem_singleton_self _)).1 1 (List.mem_singleton_self _) rfl
  cases arrived

end ActuatorGroup

end Animacharacter.Animadummies
