import Mathlib.Data.List.Basic
import Mathlib.Algebra.Order.Ring.Nat

/-!
A crew: a table of workers, each at some place.  A worker moves by taking another place in its
row; what is counted are the workers at places of a kind.
-/

namespace Crews

variable {π : Type*}

/-- A move changes a count by what the two places count. -/
theorem countP_move {crew : List π} {row : Nat} {old : π} (here : crew[row]? = some old) (new : π)
    (kind : π → Bool) : (crew.set row new).countP kind + (kind old).toNat =
      crew.countP kind + (kind new).toNat := by
  obtain ⟨bound, rfl⟩ := List.getElem?_eq_some_iff.mp here
  have present : kind crew[row] = true → 0 < crew.countP kind := fun counts =>
    List.countP_pos_iff.mpr ⟨_, List.getElem_mem bound, counts⟩
  rw [List.countP_set bound]
  cases before : kind crew[row] <;> cases after : kind new
  · simp
  · simp
  · have := present before
    simp
    omega
  · have := present before
    simp
    omega

theorem countP_pos {crew : List π} {row : Nat} {place : π} (here : crew[row]? = some place)
    {kind : π → Bool} (counts : kind place = true) : 0 < crew.countP kind :=
  List.countP_pos_iff.mpr ⟨place, List.mem_of_getElem? here, counts⟩

theorem countP_zero {crew : List π} {row : Nat} {place : π} (here : crew[row]? = some place)
    {kind : π → Bool} (none : crew.countP kind = 0) : kind place = false := by
  cases counts : kind place with
  | false => rfl
  | true => exact absurd none (Nat.ne_of_gt (countP_pos here counts))

/-- Where at most one worker counts, two that count are the same. -/
theorem countP_alone {crew : List π} {kind : π → Bool} (single : crew.countP kind ≤ 1)
    {row other : Nat} {place place' : π} (here : crew[row]? = some place)
    (there : crew[other]? = some place') (counts : kind place = true)
    (counts' : kind place' = true) : row = other := by
  induction crew generalizing row other with
  | nil => cases here
  | cons first rest ih =>
      rw [List.countP_cons] at single
      cases row with
      | zero =>
          cases other with
          | zero => rfl
          | succ other =>
              obtain rfl : first = place := Option.some.inj here
              have below : rest[other]? = some place' := there
              have positive := countP_pos below counts'
              rw [if_pos counts] at single
              omega
      | succ row =>
          cases other with
          | zero =>
              obtain rfl : first = place' := Option.some.inj there
              have below : rest[row]? = some place := here
              have positive := countP_pos below counts
              rw [if_pos counts'] at single
              omega
          | succ other =>
              have below : rest.countP kind ≤ 1 := by omega
              exact congrArg Nat.succ (ih below here there)

theorem set_here {crew : List π} {row : Nat} {old : π} (here : crew[row]? = some old) (new : π) :
    (crew.set row new)[row]? = some new := by
  obtain ⟨bound, _⟩ := List.getElem?_eq_some_iff.mp here
  simp [bound]

/-- Where a worker is after a move of another one, or of itself. -/
theorem set_cases {crew : List π} {row other : Nat} {new place : π}
    (there : (crew.set row new)[other]? = some place) :
    other = row ∧ place = new ∨ other ≠ row ∧ crew[other]? = some place := by
  by_cases same : other = row
  · subst other
    rw [List.getElem?_set_self'] at there
    cases found : crew[row]? with
    | none => simp [found] at there
    | some old =>
        refine Or.inl ⟨rfl, ?_⟩
        simpa [found] using there.symm
  · rw [List.getElem?_set_ne (Ne.symm same)] at there
    exact Or.inr ⟨same, there⟩

end Crews
