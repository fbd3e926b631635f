/-!
Runs of a step function whose steps all meet a condition.
-/

namespace Courses

universe u v w

variable {σ : Type u} {ε : Type v}

/-- Every event of a run meets a condition on it and on the state it happens in. -/
def Throughout (step : σ → ε → σ) (meets : σ → ε → Prop) (s : σ) : List ε → Prop
  | [] => True
  | event :: events => meets s event ∧ Throughout step meets (step s event) events

/-- What the events of a run give, one after the other. -/
def collected {α : Type w} (step : σ → ε → σ) (gives : σ → ε → List α) (s : σ) : List ε → List α
  | [] => []
  | event :: events => gives s event ++ collected step gives (step s event) events

namespace Throughout

variable {step : σ → ε → σ} {meets : σ → ε → Prop}

instance decidable (step : σ → ε → σ) (meets : σ → ε → Prop)
    [decides : ∀ s event, Decidable (meets s event)] (s : σ) (events : List ε) :
    Decidable (Throughout step meets s events) :=
  match events with
  | [] => isTrue trivial
  | event :: rest =>
      have := decidable step meets (step s event) rest
      inferInstanceAs (Decidable (meets s event ∧ Throughout step meets (step s event) rest))

/-- What every step that meets the condition keeps, the run keeps. -/
theorem invariant (holds : σ → Prop)
    (keeps : ∀ s event, holds s → meets s event → holds (step s event)) {s : σ} {events : List ε}
    (throughout : Throughout step meets s events) (start : holds s) :
    holds (events.foldl step s) := by
  induction events generalizing s with
  | nil => exact start
  | cons event rest ih => exact ih throughout.2 (keeps s event start throughout.1)

theorem weaken {meets' : σ → ε → Prop} {s : σ} {events : List ε}
    (throughout : Throughout step meets s events)
    (weaker : ∀ s event, meets s event → meets' s event) : Throughout step meets' s events := by
  induction events generalizing s with
  | nil => trivial
  | cons event rest ih => exact ⟨weaker s event throughout.1, ih throughout.2⟩

theorem append {s : σ} {before after : List ε} :
    Throughout step meets s (before ++ after) ↔
      Throughout step meets s before ∧ Throughout step meets (before.foldl step s) after := by
  induction before generalizing s with
  | nil => exact ⟨fun all => ⟨trivial, all⟩, fun all => all.2⟩
  | cons event rest ih =>
      constructor
      · rintro ⟨first, later⟩
        exact ⟨⟨first, (ih.mp later).1⟩, (ih.mp later).2⟩
      · rintro ⟨⟨first, early⟩, late⟩
        exact ⟨first, ih.mpr ⟨early, late⟩⟩

end Throughout

end Courses
