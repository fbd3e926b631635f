import Mathlib.Algebra.Order.Ring.Nat

/-!
Pieces of a stream.  A slice is what a list holds from a position on; slices can be cut
at both ends, joined where they touch, and appended to the part before them.
-/

namespace Slices

variable {α : Type*} {stream : List α}

structure Slice (stream : List α) (start : Nat) (piece : List α) : Prop where
  bound : start + piece.length ≤ stream.length
  content : piece = (stream.drop start).take piece.length

theorem Slice.nil (start : Nat) (bound : start ≤ stream.length) : Slice stream start [] :=
  ⟨bound, rfl⟩

theorem Slice.of_take (start count : Nat) (bound : start ≤ stream.length) :
    Slice stream start ((stream.drop start).take count) := by
  refine ⟨?_, ?_⟩
  · rw [List.length_take, List.length_drop]
    omega
  · rw [List.length_take, List.length_drop, List.take_eq_take_iff, List.length_drop]
    omega

theorem Slice.of_prefix {piece : List α} (isPrefix : piece <+: stream) : Slice stream 0 piece := by
  refine ⟨by simpa using isPrefix.length_le, ?_⟩
  exact List.prefix_iff_eq_take.mp isPrefix

theorem Slice.drop {start : Nat} {piece : List α} (slice : Slice stream start piece) (count : Nat)
    (inside : count ≤ piece.length) : Slice stream (start + count) (piece.drop count) := by
  have bound := slice.bound
  refine ⟨?_, ?_⟩
  · rw [List.length_drop]
    omega
  · conv_lhs => rw [slice.content]
    rw [List.drop_take, List.drop_drop, List.length_drop]

theorem Slice.take {start : Nat} {piece : List α} (slice : Slice stream start piece) (count : Nat) :
    Slice stream start (piece.take count) := by
  have bound := slice.bound
  rw [slice.content, List.take_take]
  exact Slice.of_take start _ (by omega)

theorem Slice.append {start : Nat} {left right : List α} (first : Slice stream start left)
    (second : Slice stream (start + left.length) right) : Slice stream start (left ++ right) := by
  refine ⟨?_, ?_⟩
  · have bound := second.bound
    rw [List.length_append]
    omega
  · rw [List.length_append, List.take_add, List.drop_drop, ← first.content, ← second.content]

theorem Slice.take_append {start : Nat} {piece : List α} (slice : Slice stream start piece) :
    stream.take start ++ piece = stream.take (start + piece.length) := by
  conv_lhs => rw [slice.content]
  rw [← List.take_add]

theorem Slice.get {start : Nat} {piece : List α} (slice : Slice stream start piece) (index : Nat)
    (inside : index < piece.length) : piece[index]? = stream[start + index]? := by
  conv_lhs => rw [slice.content]
  rw [List.getElem?_take_of_lt inside, List.getElem?_drop]

/-- The pieces that make up the stream from a position on. -/
structure Rests (stream : List α) (start : Nat) (pieces : List (List α)) : Prop where
  bound : start ≤ stream.length
  content : stream.drop start = pieces.flatten

theorem Rests.drop (pieces : List (List α)) (count : Nat) :
    Rests pieces.flatten (pieces.take count).flatten.length (pieces.drop count) := by
  have whole : (pieces.take count).flatten ++ (pieces.drop count).flatten = pieces.flatten := by
    rw [← List.flatten_append, List.take_append_drop]
  refine ⟨?_, ?_⟩
  · rw [← whole, List.length_append]
    exact Nat.le_add_right _ _
  · conv_lhs => rw [← whole]
    exact List.drop_left

theorem Rests.whole (pieces : List (List α)) : Rests pieces.flatten 0 pieces :=
  ⟨Nat.zero_le _, rfl⟩

theorem Rests.slice {start : Nat} {piece : List α} {rest : List (List α)}
    (rests : Rests stream start (piece :: rest)) : Slice stream start piece := by
  have content : stream.drop start = piece ++ rest.flatten := rests.content
  have length := congrArg List.length content
  rw [List.length_drop, List.length_append] at length
  refine ⟨?_, ?_⟩
  · have bound := rests.bound
    omega
  · rw [content, List.take_left]

theorem Rests.tail {start : Nat} {piece : List α} {rest : List (List α)}
    (rests : Rests stream start (piece :: rest)) : Rests stream (start + piece.length) rest := by
  refine ⟨rests.slice.bound, ?_⟩
  rw [← List.drop_drop, rests.content]
  exact List.drop_left

/-- Two stretches of positions that do not meet. -/
def Apart (start length start' length' : Nat) : Prop :=
  start + length ≤ start' ∨ start' + length' ≤ start

theorem Apart.symm {start length start' length' : Nat} (apart : Apart start length start' length') :
    Apart start' length' start length := apart.elim Or.inr Or.inl

theorem Apart.mono {start length start' length' inner innerLength : Nat}
    (apart : Apart start length start' length') (lower : start ≤ inner)
    (upper : inner + innerLength ≤ start + length) : Apart inner innerLength start' length' := by
  unfold Apart at *
  omega

/-- What is apart from two stretches that touch, and does not lie between them, is apart
from both together. -/
theorem Apart.join {start length length' other otherLength : Nat}
    (left : Apart start length other otherLength)
    (right : Apart (start + length) length' other otherLength) (between : other ≠ start + length) :
    Apart start (length + length') other otherLength := by
  unfold Apart at *
  omega

end Slices
