set_option autoImplicit false

namespace Histories

variable {Event : Type}

-- The history has an event that starts something, and all later ones are quiet.
def Since (starts quiet : Event → Prop) (history : List Event) : Prop :=
  ∃ before event after, history = before ++ event :: after ∧ starts event ∧ ∀ later ∈ after, quiet later

theorem since_nil (starts quiet : Event → Prop) : ¬ Since starts quiet [] := by
  rintro ⟨before, event, after, split, _⟩
  cases before with
  | nil => cases split
  | cons first rest => cases split

-- One more event starts it anew or is quiet.
theorem since_append (starts quiet : Event → Prop) (history : List Event) (event : Event) :
    Since starts quiet (history ++ [event]) ↔ starts event ∨ Since starts quiet history ∧ quiet event := by
  apply Iff.intro
  · rintro ⟨before, started, after, split, starts, silent⟩
    rcases List.eq_nil_or_concat after with rfl | ⟨rest, last, rfl⟩
    · obtain ⟨rfl, only⟩ := List.append_inj' split rfl
      cases only
      exact .inl starts
    · rw [List.concat_eq_append, ← List.cons_append, ← List.append_assoc] at split
      obtain ⟨rfl, only⟩ := List.append_inj' split rfl
      cases only
      rw [List.concat_eq_append] at silent
      refine .inr ⟨⟨before, started, rest, rfl, starts, ?_⟩, silent event (by simp)⟩
      exact fun later inside => silent later (List.mem_append_left _ inside)
  · rintro (starts | ⟨⟨before, started, after, rfl, starts, silent⟩, last⟩)
    · exact ⟨history, event, [], rfl, starts, fun _ inside => absurd inside List.not_mem_nil⟩
    · refine ⟨before, started, after ++ [event], by simp, starts, ?_⟩
      intro later inside
      rcases List.mem_append.mp inside with earlier | only
      · exact silent later earlier
      · rw [List.mem_singleton.mp only]
        exact last

end Histories
