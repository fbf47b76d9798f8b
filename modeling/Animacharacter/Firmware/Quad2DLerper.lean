import Mathlib.Algebra.Order.Field.Basic
import Mathlib.Topology.Instances.Real.Lemmas
import Mathlib.Topology.Order.Lattice
import Mathlib.Tactic.NormNum
import Mathlib.Tactic.Linarith
import Mathlib.Tactic.Ring

set_option autoImplicit false

namespace Animacharacter.Firmware

structure Float2 (K : Type) where
  x : K
  y : K
deriving DecidableEq

-- The floats are taken as exact numbers.
structure Quad2DLerper (K : Type) (BUFF_SIZE : Nat) where
  v0Data : Fin BUFF_SIZE → K
  v1Data : Fin BUFF_SIZE → K
  v2Data : Fin BUFF_SIZE → K
  v3Data : Fin BUFF_SIZE → K
  v4Data : Fin BUFF_SIZE → K

section Source

variable {K : Type} [Field K] [LinearOrder K] {BUFF_SIZE : Nat}

def sign (val : K) : Int := (if 0 < val then 1 else 0) - (if val < 0 then 1 else 0)

def constrain (amt low high : K) : K := if amt < low then low else if high < amt then high else amt

def isInDomain (a : Float2 K) : Prop := |a.y| ≤ 1 - |a.x|

instance decidableIsInDomain (a : Float2 K) : Decidable (isInDomain a) := inferInstanceAs (Decidable (_ ≤ _))

def restrictInput (input : Float2 K) : Float2 K :=
  let x := constrain input.x (-1) 1
  let y := constrain input.y (-1) 1
  ⟨sign x * (1 / 2) * (1 + |x| - |y|), sign y * (1 / 2) * (1 - |x| + |y|)⟩

namespace Quad2DLerper

variable (lerper : Quad2DLerper K BUFF_SIZE)

def chosen (positive negative : Fin BUFF_SIZE → K) (coordinate : K) : Fin BUFF_SIZE → K :=
  if 0 < coordinate then positive else negative

-- The buffers A and B.
def vertical (y : K) : Fin BUFF_SIZE → K := chosen lerper.v1Data lerper.v3Data y

def horizontal (x : K) : Fin BUFF_SIZE → K := chosen lerper.v2Data lerper.v4Data x

def interpolate (input : Float2 K) : Fin BUFF_SIZE → K :=
  let input := if isInDomain input then input else restrictInput input
  let w1 := |input.x|
  let w2 := |input.y|
  let w3 := 1 - w1 - w2
  fun i => lerper.vertical input.y i * w1 + lerper.horizontal input.x i * w2 + lerper.v0Data i * w3

end Quad2DLerper

structure ActuatorDiffPair (K : Type) where
  currentAction : Float2 K
  lerper : Quad2DLerper K 2

namespace ActuatorDiffPair

def getArray (pair : Float2 K) : Fin 2 → K := fun i => if i = 0 then pair.x else pair.y

def init (REST UP DOWN LEFT RIGHT : Float2 K) : ActuatorDiffPair K where
  currentAction := REST
  lerper := ⟨getArray REST, getArray UP, getArray RIGHT, getArray DOWN, getArray LEFT⟩

def control (pair : ActuatorDiffPair K) (input : Float2 K) : ActuatorDiffPair K × Float2 K :=
  let output := pair.lerper.interpolate input
  let action : Float2 K := ⟨output 0, output 1⟩
  ({ pair with currentAction := action }, action)

end ActuatorDiffPair

end Source

inductive Vertex where
  | v1
  | v2
  | v3
  | v4
deriving DecidableEq

section Mesh

variable {K : Type} [Field K] [LinearOrder K] {BUFF_SIZE : Nat}

def Vertex.position : Vertex → Float2 K
  | .v1 => ⟨0, 1⟩
  | .v2 => ⟨1, 0⟩
  | .v3 => ⟨0, -1⟩
  | .v4 => ⟨-1, 0⟩

-- The outer vertices of T1 to T4, each of which has v0 at the origin as its third.
def triangles : List (Vertex × Vertex) := [(.v1, .v2), (.v2, .v3), (.v3, .v4), (.v4, .v1)]

-- The weights of the buffers A, B and C.
structure Weights (K : Type) where
  w1 : K
  w2 : K
  w3 : K

structure Weights.Convex (weights : Weights K) : Prop where
  first : 0 ≤ weights.w1
  second : 0 ≤ weights.w2
  third : 0 ≤ weights.w3
  sum : weights.w1 + weights.w2 + weights.w3 = 1

def weights (input : Float2 K) : Weights K := ⟨|input.x|, |input.y|, 1 - |input.x| - |input.y|⟩

-- The input as interpolate goes on with it.
def restricted (input : Float2 K) : Float2 K := if isInDomain input then input else restrictInput input

namespace Quad2DLerper

variable (lerper : Quad2DLerper K BUFF_SIZE)

def data : Vertex → Fin BUFF_SIZE → K
  | .v1 => lerper.v1Data
  | .v2 => lerper.v2Data
  | .v3 => lerper.v3Data
  | .v4 => lerper.v4Data

-- Where the input lies in a triangle, with these weights of its outer vertices,
-- the output is linear in the weights.
def Interpolates (input : Float2 K) (output : Fin BUFF_SIZE → K) : Prop :=
  ∀ triangle ∈ triangles, ∀ first second : K, 0 ≤ first → 0 ≤ second → first + second ≤ 1 →
    input.x = first * triangle.1.position.x + second * triangle.2.position.x →
    input.y = first * triangle.1.position.y + second * triangle.2.position.y →
    ∀ i, output i = lerper.data triangle.1 i * first + lerper.data triangle.2 i * second +
      lerper.v0Data i * (1 - first - second)

-- The weights of the outer vertices by their own axes.
def mesh (input : Float2 K) : Fin BUFF_SIZE → K := fun i =>
  lerper.vertical input.y i * |input.y| + lerper.horizontal input.x i * |input.x| +
    lerper.v0Data i * (1 - |input.x| - |input.y|)

theorem interpolate_within (input : Float2 K) (within : isInDomain input) (i : Fin BUFF_SIZE) :
    lerper.interpolate input i =
      lerper.vertical input.y i * |input.x| + lerper.horizontal input.x i * |input.y| +
        lerper.v0Data i * (1 - |input.x| - |input.y|) := by
  rw [interpolate, if_pos within]

def least (i : Fin BUFF_SIZE) : K :=
  min (lerper.v0Data i) (min (min (lerper.v1Data i) (lerper.v2Data i)) (min (lerper.v3Data i) (lerper.v4Data i)))

def greatest (i : Fin BUFF_SIZE) : K :=
  max (lerper.v0Data i) (max (max (lerper.v1Data i) (lerper.v2Data i)) (max (lerper.v3Data i) (lerper.v4Data i)))

-- The weights are convex after restrict_input, whether it is called or not, and
-- the output is weighted by them.
structure InRange (input : Float2 K) : Prop where
  restricts : (weights (restrictInput input)).Convex
  convex : (weights (restricted input)).Convex
  weighted : ∀ i, lerper.interpolate input i =
    lerper.vertical (restricted input).y i * (weights (restricted input)).w1 +
      lerper.horizontal (restricted input).x i * (weights (restricted input)).w2 +
        lerper.v0Data i * (weights (restricted input)).w3
  between : ∀ i, lerper.least i ≤ lerper.interpolate input i ∧ lerper.interpolate input i ≤ lerper.greatest i

theorem vertical_between (y : K) (i : Fin BUFF_SIZE) :
    lerper.least i ≤ lerper.vertical y i ∧ lerper.vertical y i ≤ lerper.greatest i := by
  rw [vertical, chosen]
  split <;> simp [least, greatest]

theorem horizontal_between (x : K) (i : Fin BUFF_SIZE) :
    lerper.least i ≤ lerper.horizontal x i ∧ lerper.horizontal x i ≤ lerper.greatest i := by
  rw [horizontal, chosen]
  split <;> simp [least, greatest]

omit [Field K] in
theorem rest_between (i : Fin BUFF_SIZE) : lerper.least i ≤ lerper.v0Data i ∧ lerper.v0Data i ≤ lerper.greatest i := by
  simp [least, greatest]

theorem interpolate_weighted (input : Float2 K) (i : Fin BUFF_SIZE) : lerper.interpolate input i =
    lerper.vertical (restricted input).y i * (weights (restricted input)).w1 +
      lerper.horizontal (restricted input).x i * (weights (restricted input)).w2 +
        lerper.v0Data i * (weights (restricted input)).w3 := rfl

end Quad2DLerper

end Mesh

section Meshing

variable {K : Type} [Field K] [LinearOrder K] [IsStrictOrderedRing K] {BUFF_SIZE : Nat}

theorem in_domain_iff (input : Float2 K) : isInDomain input ↔ |input.x| + |input.y| ≤ 1 := by
  rw [isInDomain, le_sub_iff_add_le, add_comm]

theorem constrain_within (amt : K) : |constrain amt (-1) 1| ≤ 1 := by
  rw [constrain]
  split
  · simp
  · split
    · simp
    · rw [abs_le]
      exact ⟨by linarith, by linarith⟩

theorem sign_within (val : K) : |(sign val : K)| ≤ 1 := by
  rcases lt_trichotomy val 0 with negative | zero | positive
  · simp [sign, negative, not_lt.mpr negative.le]
  · simp [sign, zero]
  · simp [sign, positive, not_lt.mpr positive.le]

theorem restrict_in_domain (input : Float2 K) : isInDomain (restrictInput input) := by
  have xWithin := constrain_within input.x
  have yWithin := constrain_within input.y
  have xNonneg := abs_nonneg (constrain input.x (-1) 1)
  have yNonneg := abs_nonneg (constrain input.y (-1) 1)
  have half (val extent : K) (nonneg : 0 ≤ extent) : |(sign val : K) * (1 / 2) * extent| ≤ 1 / 2 * extent := by
    rw [mul_assoc, abs_mul, abs_of_nonneg (mul_nonneg one_half_pos.le nonneg)]
    exact mul_le_of_le_one_left (mul_nonneg one_half_pos.le nonneg) (sign_within val)
  have atX := half (constrain input.x (-1) 1) (1 + |constrain input.x (-1) 1| - |constrain input.y (-1) 1|)
    (by linarith)
  have atY := half (constrain input.y (-1) 1) (1 - |constrain input.x (-1) 1| + |constrain input.y (-1) 1|)
    (by linarith)
  rw [in_domain_iff]
  exact (add_le_add atX atY).trans (by linarith)

namespace Quad2DLerper

variable (lerper : Quad2DLerper K BUFF_SIZE)

theorem interpolate_restricted (input : Float2 K) (outside : ¬ isInDomain input) :
    lerper.interpolate input = lerper.interpolate (restrictInput input) := by
  rw [interpolate, interpolate, if_neg outside, if_pos (restrict_in_domain input)]

-- At weight 0 it does not matter which of the two opposite vertices is chosen.
theorem chosen_positive (positive negative : Fin BUFF_SIZE → K) (weight : K) (nonneg : 0 ≤ weight) (i : Fin BUFF_SIZE) :
    chosen positive negative weight i * |weight| = positive i * weight := by
  rw [abs_of_nonneg nonneg, chosen]
  rcases nonneg.eq_or_lt with zero | above
  · rw [← zero, mul_zero, mul_zero]
  · rw [if_pos above]

theorem chosen_negative (positive negative : Fin BUFF_SIZE → K) (weight : K) (nonneg : 0 ≤ weight) (i : Fin BUFF_SIZE) :
    chosen positive negative (-weight) i * |-weight| = negative i * weight := by
  rw [abs_neg, abs_of_nonneg nonneg, chosen, if_neg (by linarith)]

theorem chosen_parts (positive negative : Fin BUFF_SIZE → K) (coordinate : K) (i : Fin BUFF_SIZE) :
    chosen positive negative coordinate i * |coordinate| =
      positive i * max coordinate 0 + negative i * max (-coordinate) 0 := by
  rcases le_total 0 coordinate with above | below
  · rw [chosen_positive positive negative coordinate above, max_eq_left above, max_eq_right (by linarith), mul_zero,
      add_zero]
  · have opposite := chosen_negative positive negative (-coordinate) (by linarith) i
    rw [neg_neg] at opposite
    rw [opposite, max_eq_right below, max_eq_left (by linarith), mul_zero, zero_add]

theorem mesh_interpolates (input : Float2 K) : lerper.Interpolates input (lerper.mesh input) := by
  intro triangle member first second firstNonneg secondNonneg within atX atY i
  obtain ⟨x, y⟩ := input
  simp only [triangles, List.mem_cons, List.not_mem_nil, or_false] at member
  rcases member with rfl | rfl | rfl | rfl <;>
    simp only [Vertex.position, mul_zero, mul_one, mul_neg, zero_add, add_zero] at atX atY <;>
    subst x y <;> simp only [mesh, data, vertical, horizontal]
  · rw [chosen_positive _ _ first firstNonneg, chosen_positive _ _ second secondNonneg, abs_of_nonneg firstNonneg,
      abs_of_nonneg secondNonneg]
    ring
  · rw [chosen_negative _ _ second secondNonneg, chosen_positive _ _ first firstNonneg, abs_neg,
      abs_of_nonneg firstNonneg, abs_of_nonneg secondNonneg]
    ring
  · rw [chosen_negative _ _ first firstNonneg, chosen_negative _ _ second secondNonneg, abs_neg, abs_neg,
      abs_of_nonneg firstNonneg, abs_of_nonneg secondNonneg]
    ring
  · rw [chosen_positive _ _ second secondNonneg, chosen_negative _ _ first firstNonneg, abs_neg,
      abs_of_nonneg firstNonneg, abs_of_nonneg secondNonneg]
    ring

theorem in_some_triangle (input : Float2 K) (within : isInDomain input) :
    ∃ triangle ∈ triangles, ∃ first second : K, 0 ≤ first ∧ 0 ≤ second ∧ first + second ≤ 1 ∧
      input.x = first * triangle.1.position.x + second * triangle.2.position.x ∧
      input.y = first * triangle.1.position.y + second * triangle.2.position.y := by
  obtain ⟨x, y⟩ := input
  rw [in_domain_iff] at within
  rcases le_total 0 x with right | left <;> rcases le_total 0 y with up | down
  · rw [abs_of_nonneg right, abs_of_nonneg up] at within
    exact ⟨(.v1, .v2), by simp [triangles], y, x, up, right, by linarith, by simp [Vertex.position],
      by simp [Vertex.position]⟩
  · rw [abs_of_nonneg right, abs_of_nonpos down] at within
    exact ⟨(.v2, .v3), by simp [triangles], x, -y, right, by linarith, by linarith, by simp [Vertex.position],
      by simp [Vertex.position]⟩
  · rw [abs_of_nonpos left, abs_of_nonneg up] at within
    exact ⟨(.v4, .v1), by simp [triangles], -x, y, by linarith, up, by linarith, by simp [Vertex.position],
      by simp [Vertex.position]⟩
  · rw [abs_of_nonpos left, abs_of_nonpos down] at within
    exact ⟨(.v3, .v4), by simp [triangles], -y, -x, by linarith, by linarith, by linarith, by simp [Vertex.position],
      by simp [Vertex.position]⟩

theorem interpolates_iff (input : Float2 K) (within : isInDomain input) (output : Fin BUFF_SIZE → K) :
    lerper.Interpolates input output ↔ ∀ i, output i = lerper.mesh input i := by
  apply Iff.intro
  · intro interpolates i
    obtain ⟨triangle, member, first, second, firstNonneg, secondNonneg, sum, atX, atY⟩ := in_some_triangle input within
    rw [interpolates triangle member first second firstNonneg secondNonneg sum atX atY i,
      lerper.mesh_interpolates input triangle member first second firstNonneg secondNonneg sum atX atY i]
  · intro same
    rw [funext same]
    exact lerper.mesh_interpolates input

theorem interpolates_vertex (vertex : Vertex) (output : Fin BUFF_SIZE → K)
    (interpolates : lerper.Interpolates vertex.position output) : ∀ i, output i = lerper.data vertex i := by
  have only (other : Vertex) (member : (vertex, other) ∈ triangles) : ∀ i, output i = lerper.data vertex i := by
    intro i
    rw [interpolates (vertex, other) member 1 0 (by linarith) (le_refl 0) (by linarith) (by simp) (by simp) i]
    simp
  cases vertex
  · exact only .v2 (by simp [triangles])
  · exact only .v3 (by simp [triangles])
  · exact only .v4 (by simp [triangles])
  · exact only .v1 (by simp [triangles])

theorem interpolate_interpolates_iff (input : Float2 K) (within : |input.x| + |input.y| ≤ 1) :
    lerper.Interpolates input (lerper.interpolate input) ↔
      |input.x| = |input.y| ∨ ∀ i, lerper.vertical input.y i = lerper.horizontal input.x i := by
  have inside := (in_domain_iff input).mpr within
  rw [lerper.interpolates_iff input inside]
  -- The code gives each of the two vertices the other one's weight.
  have swapped (i : Fin BUFF_SIZE) : lerper.interpolate input i = lerper.mesh input i ↔
      (|input.x| - |input.y|) * (lerper.vertical input.y i - lerper.horizontal input.x i) = 0 := by
    rw [lerper.interpolate_within input inside i, mesh, ← sub_eq_zero]
    ring_nf
  simp only [swapped, mul_eq_zero, sub_eq_zero]
  exact forall_or_left

end Quad2DLerper

-- On the vertical axis the pair goes to LEFT, up as well as down.
theorem ActuatorDiffPair.control_vertical (REST UP DOWN LEFT RIGHT : Float2 K) (y : K) (within : |y| ≤ 1) :
    ((init REST UP DOWN LEFT RIGHT).control ⟨0, y⟩).2 =
      ⟨LEFT.x * |y| + REST.x * (1 - |y|), LEFT.y * |y| + REST.y * (1 - |y|)⟩ := by
  have inside : isInDomain (⟨0, y⟩ : Float2 K) := (in_domain_iff _).mpr (by simpa using within)
  simp [control, Quad2DLerper.interpolate_within _ _ inside, Quad2DLerper.horizontal, Quad2DLerper.chosen, init,
    getArray]

theorem weights_convex (input : Float2 K) (within : isInDomain input) : (weights input).Convex := by
  rw [in_domain_iff] at within
  apply Weights.Convex.mk
  · exact abs_nonneg input.x
  · exact abs_nonneg input.y
  · simp only [weights]
    linarith
  · simp only [weights]
    ring

theorem restricted_in_domain (input : Float2 K) : isInDomain (restricted input) := by
  rw [restricted]
  split
  · rename_i within
    exact within
  · exact restrict_in_domain input

-- A weighted mean keeps the bounds of what it is the mean of.
theorem mean_between (weights : Weights K) (convex : weights.Convex) (first second third low high : K)
    (atFirst : low ≤ first ∧ first ≤ high) (atSecond : low ≤ second ∧ second ≤ high)
    (atThird : low ≤ third ∧ third ≤ high) :
    low ≤ first * weights.w1 + second * weights.w2 + third * weights.w3 ∧
      first * weights.w1 + second * weights.w2 + third * weights.w3 ≤ high := by
  have spread (bound : K) : bound = bound * weights.w1 + bound * weights.w2 + bound * weights.w3 := by
    rw [← mul_add, ← mul_add, convex.sum, mul_one]
  apply And.intro
  · rw [spread low]
    exact add_le_add (add_le_add (mul_le_mul_of_nonneg_right atFirst.1 convex.first)
      (mul_le_mul_of_nonneg_right atSecond.1 convex.second)) (mul_le_mul_of_nonneg_right atThird.1 convex.third)
  · rw [spread high]
    exact add_le_add (add_le_add (mul_le_mul_of_nonneg_right atFirst.2 convex.first)
      (mul_le_mul_of_nonneg_right atSecond.2 convex.second)) (mul_le_mul_of_nonneg_right atThird.2 convex.third)

namespace Quad2DLerper

variable (lerper : Quad2DLerper K BUFF_SIZE)

theorem interpolate_between (input : Float2 K) (i : Fin BUFF_SIZE) :
    lerper.least i ≤ lerper.interpolate input i ∧ lerper.interpolate input i ≤ lerper.greatest i := by
  rw [lerper.interpolate_weighted input i]
  exact mean_between _ (weights_convex _ (restricted_in_domain input)) _ _ _ _ _ (lerper.vertical_between _ i)
    (lerper.horizontal_between _ i) (lerper.rest_between i)

theorem interpolate_in_range (input : Float2 K) : lerper.InRange input := by
  apply InRange.mk
  · exact weights_convex (restrictInput input) (restrict_in_domain input)
  · exact weights_convex (restricted input) (restricted_in_domain input)
  · exact lerper.interpolate_weighted input
  · exact lerper.interpolate_between input

end Quad2DLerper

-- No command drives an actuator of the pair beyond its five configured positions.
theorem ActuatorDiffPair.control_between (REST UP DOWN LEFT RIGHT input : Float2 K) :
    let lerper := (init REST UP DOWN LEFT RIGHT).lerper
    let action := ((init REST UP DOWN LEFT RIGHT).control input).2
    (lerper.least 0 ≤ action.x ∧ action.x ≤ lerper.greatest 0) ∧
      (lerper.least 1 ≤ action.y ∧ action.y ≤ lerper.greatest 1) :=
  ⟨Quad2DLerper.interpolate_between _ input 0, Quad2DLerper.interpolate_between _ input 1⟩

end Meshing

-- An interpolation of the mesh is continuous, across the axes too.
theorem Quad2DLerper.mesh_continuous {BUFF_SIZE : Nat} (lerper : Quad2DLerper ℝ BUFF_SIZE) (i : Fin BUFF_SIZE) :
    Continuous fun input : ℝ × ℝ => lerper.mesh ⟨input.1, input.2⟩ i := by
  simp only [mesh, vertical, horizontal, chosen_parts]
  fun_prop

def upOnly (K : Type) [Field K] : Quad2DLerper K 1 where
  v0Data _ := 0
  v1Data _ := 1
  v2Data _ := 0
  v3Data _ := 0
  v4Data _ := 0

theorem interpolate_interpolates_diagonal :
    (upOnly ℝ).Interpolates ⟨1 / 2, 1 / 2⟩ ((upOnly ℝ).interpolate ⟨1 / 2, 1 / 2⟩) :=
  ((upOnly ℝ).interpolate_interpolates_iff ⟨1 / 2, 1 / 2⟩ (by norm_num [abs_of_pos])).mpr (.inl rfl)

theorem interpolate_in_range_outside : (upOnly ℝ).InRange ⟨-3, 5⟩ := (upOnly ℝ).interpolate_in_range ⟨-3, 5⟩

-- At v1, where the data is 1, the output is the data of v4.
theorem vertex_not_returned : (upOnly ℝ).interpolate ⟨0, 1⟩ 0 = 0 ∧
    ¬ (upOnly ℝ).Interpolates ⟨0, 1⟩ ((upOnly ℝ).interpolate ⟨0, 1⟩) := by
  have inside : isInDomain (⟨0, 1⟩ : Float2 ℝ) := (in_domain_iff _).mpr (by simp)
  have zero : (upOnly ℝ).interpolate ⟨0, 1⟩ 0 = 0 := by
    simp [Quad2DLerper.interpolate_within _ _ inside, Quad2DLerper.horizontal, Quad2DLerper.chosen, upOnly]
  refine ⟨zero, ?_⟩
  intro interpolates
  have one := (upOnly ℝ).interpolates_vertex .v1 _ interpolates 0
  rw [zero] at one
  exact zero_ne_one one

end Animacharacter.Firmware
