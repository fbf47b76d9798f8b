import Animacharacter.Library.StepSystem

set_option autoImplicit false

namespace StepSystem

variable {Low High LowAction HighAction : Type}

-- A forward simulation: what one step does below, some steps do above.
structure Simulates (low : System Low LowAction) (lowAllowed : Low → LowAction → Prop) (high : System High HighAction)
    (highAllowed : High → HighAction → Prop) (relation : Low → High → Prop) : Prop where
  start : ∀ state, low.start state → ∃ above, high.start above ∧ relation state above
  step : ∀ source above action target, relation source above → lowAllowed source action →
    low.step source action = some target → ∃ next, Runs high highAllowed above next ∧ relation target next

variable {low : System Low LowAction} {lowAllowed : Low → LowAction → Prop} {high : System High HighAction}
  {highAllowed : High → HighAction → Prop} {relation : Low → High → Prop}

theorem one_step (state next : High) (action : HighAction) (admitted : highAllowed state action)
    (moved : high.step state action = some next) : Runs high highAllowed state next :=
  .single ⟨action, admitted, moved⟩

theorem runs_simulated (simulates : Simulates low lowAllowed high highAllowed relation) (source target : Low)
    (above : High) (related : relation source above) (runs : Runs low lowAllowed source target) :
    ∃ next, Runs high highAllowed above next ∧ relation target next := by
  induction runs with
  | refl => exact ⟨above, .refl, related⟩
  | tail _ last ih =>
      obtain ⟨middle, sofar, related⟩ := ih
      obtain ⟨action, admitted, moved⟩ := last
      obtain ⟨next, more, related⟩ := simulates.step _ middle action _ related admitted moved
      exact ⟨next, sofar.trans more, related⟩

theorem reached_simulated (simulates : Simulates low lowAllowed high highAllowed relation) (state : Low)
    (reached : Reached low lowAllowed state) : ∃ above, Reached high highAllowed above ∧ relation state above := by
  obtain ⟨initial, started, runs⟩ := reached
  obtain ⟨above, startedAbove, related⟩ := simulates.start initial started
  obtain ⟨next, more, related⟩ := runs_simulated simulates initial state above related runs
  exact ⟨next, ⟨above, startedAbove, more⟩, related⟩

end StepSystem
