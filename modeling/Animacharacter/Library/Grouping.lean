import Mathlib.Data.List.Basic
import Mathlib.Data.List.Perm.Basic

set_option autoImplicit false

namespace Grouping

variable {Item : Type}

-- The items of each test in turn, then those of no test.
def grouped (tests : List (Item → Bool)) (items : List Item) : List Item :=
  tests.flatMap (fun test => items.filter test) ++ items.filter fun item => !tests.any fun test => test item

def Disjoint (tests : List (Item → Bool)) : Prop :=
  tests.Pairwise fun one other => ∀ item, one item = true → other item = false

theorem grouped_cons (test : Item → Bool) (tests : List (Item → Bool)) (items : List Item)
    (disjoint : ∀ other ∈ tests, ∀ item, test item = true → other item = false) :
    grouped (test :: tests) items = items.filter test ++ grouped tests (items.filter fun item => !test item) := by
  have others : tests.flatMap (fun other => items.filter other) =
      tests.flatMap fun other => (items.filter fun item => !test item).filter other := by
    apply List.flatMap_congr
    intro other member
    rw [List.filter_filter]
    apply List.filter_congr
    intro item _
    cases taken : test item with
    | false => simp
    | true => simp [disjoint other member item taken]
  rw [grouped, grouped, List.flatMap_cons, List.append_assoc, others, List.filter_filter]
  simp only [List.any_cons, Bool.not_or, Bool.and_comm]

theorem grouped_perm (tests : List (Item → Bool)) (items : List Item) (disjoint : Disjoint tests) :
    (grouped tests items).Perm items := by
  induction tests generalizing items with
  | nil => simp [grouped]
  | cons test tests ih =>
      obtain ⟨first, disjoint⟩ := List.pairwise_cons.mp disjoint
      rw [grouped_cons test tests items first]
      exact (List.Perm.append_left _ (ih _ disjoint)).trans (List.filter_append_perm test items)

-- The items of one test keep their order.
theorem grouped_filter (tests : List (Item → Bool)) (items : List Item) (disjoint : Disjoint tests)
    (test : Item → Bool) (member : test ∈ tests) : (grouped tests items).filter test = items.filter test := by
  induction tests generalizing items with
  | nil => cases member
  | cons head tests ih =>
      obtain ⟨first, apart⟩ := List.pairwise_cons.mp disjoint
      rw [grouped_cons head tests items first, List.filter_append]
      rcases List.mem_cons.mp member with rfl | later
      · have rest : (grouped tests (items.filter fun item => !test item)).filter test = [] := by
          apply List.filter_eq_nil_iff.mpr
          intro item inside taken
          have left := (grouped_perm tests _ apart).mem_iff.mp inside
          simp [taken] at left
        rw [rest, List.append_nil, List.filter_filter]
        simp
      · rw [ih _ apart later, List.filter_filter, List.filter_filter]
        have none : items.filter (fun item => test item && head item) = [] := by
          apply List.filter_eq_nil_iff.mpr
          intro item _ both
          rw [Bool.and_eq_true] at both
          rw [first test later item both.2] at both
          cases both.1
        rw [none, List.nil_append]
        apply List.filter_congr
        intro item _
        cases taken : head item with
        | false => simp
        | true => simp [first test later item taken]

-- So do those of no test.
theorem grouped_rest (tests : List (Item → Bool)) (items : List Item) :
    ((grouped tests items).filter fun item => !tests.any fun test => test item) =
      items.filter fun item => !tests.any fun test => test item := by
  have groups : ((tests.flatMap fun test => items.filter test).filter fun item => !tests.any fun test => test item) =
      [] := by
    apply List.filter_eq_nil_iff.mpr
    intro item inside outside
    obtain ⟨test, member, found⟩ := List.mem_flatMap.mp inside
    have hit : (tests.any fun test => test item) = true :=
      List.any_eq_true.mpr ⟨test, member, (List.mem_filter.mp found).2⟩
    simp [hit] at outside
  rw [grouped, List.filter_append, groups, List.nil_append, List.filter_filter]
  simp

end Grouping
