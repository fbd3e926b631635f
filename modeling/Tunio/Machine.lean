import Mathlib.Algebra.Group.Prod
import Mathlib.Algebra.Order.Ring.Nat

/-!
Machines with labelled actions.  A path takes enabled actions, each of which must be
allowed where it is taken; an invariant needs to be checked for one action only, and a
concrete step simulates a machine when a path matches it.
-/

namespace Machines

variable {σ α κ : Type*}

structure Machine (σ α : Type*) where
  enabled : σ → α → Prop
  act : σ → α → σ

inductive Steps (machine : Machine σ α) (allow : σ → α → Prop) : σ → σ → Prop
  | refl (s : σ) : Steps machine allow s s
  | step {s last : σ} (a : α) : machine.enabled s a → allow s a →
      Steps machine allow (machine.act s a) last → Steps machine allow s last

namespace Steps

variable {machine : Machine σ α} {allow : σ → α → Prop}

theorem single {s : σ} (a : α) (enabled : machine.enabled s a) (allowed : allow s a) :
    Steps machine allow s (machine.act s a) := step a enabled allowed (refl _)

theorem trans {first second third : σ} (one : Steps machine allow first second)
    (two : Steps machine allow second third) : Steps machine allow first third := by
  induction one with
  | refl => exact two
  | step a enabled allowed _ ih => exact step a enabled allowed (ih two)

theorem snoc {first last : σ} (path : Steps machine allow first last) (a : α)
    (enabled : machine.enabled last a) (allowed : allow last a) :
    Steps machine allow first (machine.act last a) := path.trans (single a enabled allowed)

theorem weaken {allow' : σ → α → Prop} {first last : σ} (path : Steps machine allow first last)
    (weaker : ∀ s a, allow s a → allow' s a) : Steps machine allow' first last := by
  induction path with
  | refl => exact refl _
  | step a enabled allowed _ ih => exact step a enabled (weaker _ a allowed) ih

/-- What every enabled and allowed action keeps, a path keeps. -/
theorem invariant {first last : σ} (path : Steps machine allow first last) (holds : σ → Prop)
    (start : holds first)
    (keeps : ∀ s a, holds s → machine.enabled s a → allow s a → holds (machine.act s a)) :
    holds last := by
  induction path with
  | refl => exact start
  | step a enabled allowed _ ih => exact ih (keeps _ a start enabled allowed)

end Steps

/-- A path of inner actions that may end with one outer action, whose label it has. -/
inductive Labelled {β : Type*} (machine : Machine σ α) (inner outer : α → Prop)
    (label : α → Option β) (name : Option β) : σ → σ → Prop
  | walk {first last : σ} : name = none → Steps machine (fun _ a => inner a) first last →
      Labelled machine inner outer label name first last
  | final {first last : σ} (a : α) : Steps machine (fun _ a => inner a) first last →
      machine.enabled last a → outer a → label a = name →
      Labelled machine inner outer label name first (machine.act last a)

namespace Labelled

variable {β : Type*} {machine : Machine σ α} {inner outer : α → Prop} {label : α → Option β}
  {name : Option β}

theorem after {first second third : σ} (path : Steps machine (fun _ a => inner a) first second)
    (labelled : Labelled machine inner outer label name second third) :
    Labelled machine inner outer label name first third := by
  cases labelled with
  | walk unnamed rest => exact walk unnamed (path.trans rest)
  | final a rest enabled last named => exact final a (path.trans rest) enabled last named

/-- What every enabled action keeps, the path keeps. -/
theorem invariant {first last : σ} (labelled : Labelled machine inner outer label name first last)
    (holds : σ → Prop) (start : holds first)
    (keeps : ∀ s a, holds s → machine.enabled s a → holds (machine.act s a)) : holds last := by
  have walked {s : σ} (path : Steps machine (fun _ a => inner a) first s) : holds s :=
    path.invariant holds start fun s a here enabled _ => keeps s a here enabled
  cases labelled with
  | walk _ path => exact walked path
  | final a path enabled => exact keeps _ a (walked path) enabled

end Labelled

/-- A path with the sum of what its actions weigh. -/
inductive Weighed {μ : Type*} [AddMonoid μ] (machine : Machine σ α) (weight : σ → α → μ) :
    σ → μ → σ → Prop
  | refl (s : σ) : Weighed machine weight s 0 s
  | step {s last : σ} {rest : μ} (a : α) : machine.enabled s a →
      Weighed machine weight (machine.act s a) rest last →
      Weighed machine weight s (weight s a + rest) last

section

variable {μ : Type*} [AddMonoid μ] {machine : Machine σ α}

theorem Steps.weighed {allow : σ → α → Prop} {first last : σ}
    (path : Steps machine allow first last) (weight : σ → α → μ) :
    ∃ total, Weighed machine weight first total last := by
  induction path with
  | refl s => exact ⟨0, Weighed.refl s⟩
  | step a enabled _ _ ih =>
      obtain ⟨rest, path⟩ := ih
      exact ⟨_, Weighed.step a enabled path⟩

/-- What every action keeps of a state and the weight so far, a path keeps. -/
theorem Weighed.invariant {weight : σ → α → μ} {first last : σ} {total : μ}
    (path : Weighed machine weight first total last) (holds : σ → μ → Prop)
    (keeps : ∀ s so_far a, holds s so_far → machine.enabled s a →
      holds (machine.act s a) (so_far + weight s a)) (so_far : μ) (start : holds first so_far) :
    holds last (so_far + total) := by
  induction path generalizing so_far with
  | refl => rwa [add_zero]
  | step a enabled _ ih =>
      rw [← add_assoc]
      exact ih _ (keeps _ so_far a start enabled)

end

/-- From `s` the machine can get to a state related to `after`. -/
def Reaches (machine : Machine σ α) (related : κ → σ → Prop) (allow : σ → α → Prop) (s : σ)
    (after : κ) : Prop :=
  ∃ last, Steps machine allow s last ∧ related after last

/-- Every machine state related to `before` can be taken to one related to `after`. -/
def Simulates (machine : Machine σ α) (related : κ → σ → Prop) (allow : σ → α → Prop)
    (before after : κ) : Prop :=
  ∀ s, related before s → Reaches machine related allow s after

variable {machine : Machine σ α} {related : κ → σ → Prop} {allow : σ → α → Prop}

namespace Reaches

theorem here {s : σ} {after : κ} (same : related after s) :
    Reaches machine related allow s after := ⟨s, Steps.refl s, same⟩

theorem act {s : σ} {after : κ} (a : α) (enabled : machine.enabled s a) (allowed : allow s a)
    (there : related after (machine.act s a)) : Reaches machine related allow s after :=
  ⟨_, Steps.single a enabled allowed, there⟩

theorem cons {s : σ} {after : κ} (a : α) (enabled : machine.enabled s a) (allowed : allow s a)
    (rest : Reaches machine related allow (machine.act s a) after) :
    Reaches machine related allow s after := by
  obtain ⟨last, path, there⟩ := rest
  exact ⟨last, Steps.step a enabled allowed path, there⟩

theorem trans {s : σ} {middle after : κ} (one : Reaches machine related allow s middle)
    (two : Simulates machine related allow middle after) :
    Reaches machine related allow s after := by
  obtain ⟨_, path, there⟩ := one
  obtain ⟨last, rest, final⟩ := two _ there
  exact ⟨last, path.trans rest, final⟩

end Reaches

namespace Simulates

theorem refl (c : κ) : Simulates machine related allow c c := fun _ => Reaches.here

theorem trans {first second third : κ} (one : Simulates machine related allow first second)
    (two : Simulates machine related allow second third) :
    Simulates machine related allow first third := fun s here => (one s here).trans two

/-- A step that the machine does not see. -/
theorem of_related {before after : κ} (same : ∀ s, related before s → related after s) :
    Simulates machine related allow before after := fun s here => Reaches.here (same s here)

end Simulates

end Machines
