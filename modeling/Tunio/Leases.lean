import Mathlib.Data.List.Perm.Basic
import Mathlib.Data.List.Nodup

/-!
Programs that take handles out of someone else's table and give them back.  The book of a run
says which handles are out.  A specification names the handles that a program owns before and
after, whatever else is out.
-/

namespace Leases

variable {H C A α β : Type}

/-- Who answers the calls and lends the handles.  What it does may depend on all that it did
before, through the number of the call; a handle that it lends is not out. -/
structure Lender (H C A : Type) where
  answer : Nat → C → A
  pick : Nat → C → List H → Option H
  unused : ∀ asked call out handle, pick asked call out = some handle → handle ∉ out

/-- `sound` says that every handle that was used or given back was out. -/
structure Book (H : Type) where
  out : List H := []
  asked : Nat := 0
  sound : Bool := true
  deriving Repr

/-- A program, with the handles that it is a program over. -/
def Lease (H C A α : Type) : Type := Lender H C A → Book H → α × Book H

instance : Monad (Lease H C A) where
  pure a := fun _ book => (a, book)
  bind m f := fun lender book => f (m lender book).1 lender (m lender book).2

/-- A call for a new handle; the answer stands for the reason where there is none. -/
def acquire (call : C) : Lease H C A (Except A H) := fun lender book =>
  match lender.pick book.asked call book.out with
  | some handle => (.ok handle, { book with asked := book.asked + 1, out := handle :: book.out })
  | none => (.error (lender.answer book.asked call), { book with asked := book.asked + 1 })

section Calls

variable [DecidableEq H]

/-- A call that uses some handles. -/
def ask (using_ : List H) (call : C) : Lease H C A A := fun lender book =>
  (lender.answer book.asked call,
    { book with asked := book.asked + 1
                sound := book.sound && using_.all fun handle => decide (handle ∈ book.out) })

def release (handle : H) : Lease H C A Unit := fun _ book =>
  ((), { book with out := book.out.erase handle
                   sound := book.sound && decide (handle ∈ book.out) })

def releaseAll : List H → Lease H C A Unit
  | [] => pure ()
  | handle :: rest => do
      release handle
      releaseAll rest

end Calls

/-- What is out is what someone owns, and all was sound so far. -/
structure Book.Owns (book : Book H) (own : List H) : Prop where
  perm : book.out.Perm own
  nodup : own.Nodup
  sound : book.sound = true

theorem Book.Owns.regroup {book : Book H} {own own' : List H} (owns : book.Owns own)
    (same : own.Perm own') : book.Owns own' :=
  ⟨owns.perm.trans same, same.nodup_iff.mp owns.nodup, owns.sound⟩

/-- From owning `before`, a program ends owning handles as `after` says for its result.  Whatever
else was out stays out. -/
def Spec (m : Lease H C A α) (before : List H) (after : α → List H → Prop) : Prop :=
  ∀ lender book kept, book.Owns (before ++ kept) →
    ∃ own, after (m lender book).1 own ∧ (m lender book).2.Owns (own ++ kept)

/-- Whatever its result, a program ends owning what it began with. -/
abbrev Keeps (m : Lease H C A α) (own : List H) : Prop := Spec m own fun _ after => after = own

namespace Spec

theorem pure {a : α} {before : List H} {after : α → List H → Prop} (holds : after a before) :
    Spec (C := C) (A := A) (Pure.pure a) before after :=
  fun _ _ _ owns => ⟨before, holds, owns⟩

theorem bind {m : Lease H C A α} {f : α → Lease H C A β} {before : List H}
    {between : α → List H → Prop} {after : β → List H → Prop} (first : Spec m before between)
    (next : ∀ a own, between a own → Spec (f a) own after) : Spec (m >>= f) before after := by
  intro lender book kept owns
  obtain ⟨own, between, owns⟩ := first lender book kept owns
  exact next _ own between lender _ kept owns

/-- A first part that owns the same handles after every result. -/
theorem seq {m : Lease H C A α} {f : α → Lease H C A β} {before between : List H}
    {after : β → List H → Prop} (first : Spec m before fun _ own => own = between)
    (next : ∀ a, Spec (f a) between after) : Spec (m >>= f) before after := by
  refine Spec.bind first ?_
  rintro a own rfl
  exact next a

theorem weaken {m : Lease H C A α} {before : List H} {after after' : α → List H → Prop}
    (spec : Spec m before after) (implies : ∀ a own, after a own → after' a own) :
    Spec m before after' := by
  intro lender book kept owns
  obtain ⟨own, holds, owns⟩ := spec lender book kept owns
  exact ⟨own, implies _ own holds, owns⟩

theorem regroup {m : Lease H C A α} {before before' : List H} {after : α → List H → Prop}
    (spec : Spec m before after) (same : before'.Perm before) : Spec m before' after :=
  fun lender book kept owns =>
    spec lender book kept (owns.regroup (same.append_right kept))

/-- The frame rule. -/
theorem frame {m : Lease H C A α} {before : List H} {after : α → List H → Prop}
    (spec : Spec m before after) (kept : List H) :
    Spec m (before ++ kept) fun a own => ∃ part, after a part ∧ own = part ++ kept := by
  intro lender book others owns
  rw [List.append_assoc] at owns
  obtain ⟨own, holds, owns⟩ := spec lender book (kept ++ others) owns
  rw [← List.append_assoc] at owns
  exact ⟨own ++ kept, ⟨own, holds, rfl⟩, owns⟩

theorem acquire (call : C) (before : List H) :
    Spec (Leases.acquire call : Lease H C A (Except A H)) before fun result own =>
      (∃ handle, result = .ok handle ∧ own = handle :: before) ∨
        ∃ answer, result = .error answer ∧ own = before := by
  intro lender book kept owns
  unfold Leases.acquire
  cases picked : lender.pick book.asked call book.out with
  | none => exact ⟨before, Or.inr ⟨_, rfl, rfl⟩, owns.perm, owns.nodup, owns.sound⟩
  | some handle =>
      have unused := lender.unused _ _ _ _ picked
      have apart : handle ∉ before ++ kept := fun among => unused (owns.perm.mem_iff.mpr among)
      exact ⟨handle :: before, Or.inl ⟨handle, rfl, rfl⟩, owns.perm.cons handle,
        List.nodup_cons.mpr ⟨apart, owns.nodup⟩, owns.sound⟩

theorem acquire_bind {call : C} {before : List H} {f : Except A H → Lease H C A β}
    {after : β → List H → Prop} (got : ∀ handle, Spec (f (.ok handle)) (handle :: before) after)
    (missed : ∀ answer, Spec (f (.error answer)) before after) :
    Spec (Leases.acquire call >>= f) before after := by
  refine Spec.bind (Spec.acquire call before) ?_
  rintro result own (⟨handle, rfl, rfl⟩ | ⟨answer, rfl, rfl⟩)
  · exact got handle
  · exact missed answer

variable [DecidableEq H]

theorem ask {using_ before : List H} (call : C) (mine : ∀ handle ∈ using_, handle ∈ before) :
    Keeps (Leases.ask using_ call : Lease H C A A) before := by
  intro lender book kept owns
  refine ⟨before, rfl, owns.perm, owns.nodup, ?_⟩
  have out : (using_.all fun handle => decide (handle ∈ book.out)) = true :=
    List.all_eq_true.mpr fun handle used =>
      decide_eq_true (owns.perm.mem_iff.mpr (List.mem_append_left kept (mine handle used)))
  exact (congrArg₂ (· && ·) owns.sound out).trans rfl

theorem release (handle : H) (before : List H) :
    Spec (Leases.release handle : Lease H C A Unit) (handle :: before)
      fun _ own => own = before := by
  intro lender book kept owns
  have among : handle ∈ book.out :=
    owns.perm.mem_iff.mpr (List.mem_append_left kept List.mem_cons_self)
  refine ⟨before, rfl, ?_, (List.nodup_cons.mp owns.nodup).2, ?_⟩
  · have less := owns.perm.erase handle
    rwa [List.cons_append, List.erase_cons_head] at less
  · exact (congrArg₂ (· && ·) owns.sound (decide_eq_true among)).trans rfl

theorem releaseAll (handles before : List H) :
    Spec (Leases.releaseAll handles : Lease H C A Unit) (handles ++ before)
      fun _ own => own = before := by
  induction handles with
  | nil => exact Spec.pure rfl
  | cons handle rest ih =>
      refine Spec.bind (Spec.release handle (rest ++ before)) ?_
      rintro - own rfl
      exact ih

theorem releaseAll_only (handles : List H) :
    Spec (Leases.releaseAll handles : Lease H C A Unit) handles fun _ own => own = [] := by
  have spec := Spec.releaseAll (C := C) (A := A) handles []
  rwa [List.append_nil] at spec

end Spec

end Leases
