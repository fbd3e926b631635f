import Mathlib.Algebra.BigOperators.Group.List.Basic
import Mathlib.Data.List.Basic
import Mathlib.Tactic.Ring

/-!
A ring of records: two counters run through a memory modulo its capacity, and every record lies in
one piece, past the end where it has to.  The positions are those of the counters before they are
reduced.
-/

namespace Rings

variable {β : Type*}

/-! Memory. -/

def load (memory : Nat → β) (start count : Nat) : List β :=
  (List.range count).map fun i => memory (start + i)

def store (memory : Nat → β) (start : Nat) (bytes : List β) : Nat → β := fun address =>
  if start ≤ address then bytes[address - start]?.getD (memory address) else memory address

@[simp] theorem load_length (memory : Nat → β) (start count : Nat) :
    (load memory start count).length = count := by simp [load]

theorem load_append (memory : Nat → β) (start first second : Nat) :
    load memory start (first + second) =
      load memory start first ++ load memory (start + first) second := by
  simp [load, List.range_add, Function.comp_def, Nat.add_assoc]

theorem load_store (memory : Nat → β) (start : Nat) (bytes : List β) :
    load (store memory start bytes) start bytes.length = bytes := by
  refine List.ext_getElem (by simp) ?_
  intro i _ inside
  simp [load, store, inside]

/-- A store changes nothing outside its own stretch. -/
theorem load_store_apart {memory : Nat → β} {start count place : Nat} {bytes : List β}
    (apart : start + count ≤ place ∨ place + bytes.length ≤ start) :
    load (store memory place bytes) start count = load memory start count := by
  refine List.map_congr_left ?_
  intro i member
  have inside := List.mem_range.mp member
  unfold store
  split
  · have outside : bytes.length ≤ start + i - place := by omega
    rw [List.getElem?_eq_none outside]
    rfl
  · rfl

/-! Stretches of a ring. -/

section

variable {capacity position later length length' : Nat}

/-- Two stretches that follow each other within one round do not overlap in memory. -/
theorem mod_apart (follows : position + length ≤ later)
    (round : later + length' ≤ position + capacity) :
    position % capacity + length ≤ later % capacity ∨
      later % capacity + length' ≤ position % capacity := by
  have here := Nat.div_add_mod position capacity
  have there := Nat.div_add_mod later capacity
  rcases Nat.eq_zero_or_pos capacity with rfl | positive
  · simp only [Nat.mod_zero]
    omega
  have bound := Nat.mod_lt position positive
  have bound' := Nat.mod_lt later positive
  have order : position / capacity ≤ later / capacity := Nat.div_le_div_right (by omega)
  obtain ⟨rounds, laps⟩ := Nat.exists_eq_add_of_le order
  rw [laps, Nat.mul_add] at there
  match rounds with
  | 0 => omega
  | 1 => omega
  | rounds + 2 =>
      have twice : capacity * (rounds + 2) = capacity * rounds + 2 * capacity := by ring
      omega

/-- The distance of two counters that are less than a round apart. -/
theorem distance (short : length < capacity) :
    ((position + length) % capacity + (capacity - position % capacity)) % capacity = length := by
  have bound := Nat.mod_lt position (by omega : 0 < capacity)
  have split : (position + length) % capacity = (position % capacity + length) % capacity := by
    rw [Nat.add_mod, Nat.mod_eq_of_lt short]
  rw [split]
  rcases Nat.lt_or_ge (position % capacity + length) capacity with before | past
  · rw [Nat.mod_eq_of_lt before]
    have sum : position % capacity + length + (capacity - position % capacity) =
        length + capacity := by omega
    rw [sum, Nat.add_mod_right, Nat.mod_eq_of_lt short]
  · rw [Nat.mod_eq_sub_mod past, Nat.mod_eq_of_lt (by omega : position % capacity + length - capacity < capacity)]
    have sum : position % capacity + length - capacity + (capacity - position % capacity) =
        length := by omega
    rw [sum, Nat.mod_eq_of_lt short]

end

/-! The records of a ring. -/

/-- What records take up, with the room each is given. -/
def extent (span : List β → Nat) (images : List (List β)) : Nat := (images.map span).sum

@[simp] theorem extent_nil (span : List β → Nat) : extent span [] = 0 := rfl

@[simp] theorem extent_cons (span : List β → Nat) (image : List β) (rest : List (List β)) :
    extent span (image :: rest) = span image + extent span rest := by simp [extent]

@[simp] theorem extent_append (span : List β → Nat) (images more : List (List β)) :
    extent span (images ++ more) = extent span images + extent span more := by simp [extent]

/-- The records lie in memory one after the other from a position on. -/
def Kept (capacity : Nat) (span : List β → Nat) (memory : Nat → β) : Nat → List (List β) → Prop
  | _, [] => True
  | position, image :: rest =>
      load memory (position % capacity) image.length = image ∧
        Kept capacity span memory (position + span image) rest

variable {capacity : Nat} {span : List β → Nat} {memory : Nat → β}

theorem Kept.snoc {images : List (List β)} {position : Nat} {image : List β}
    (kept : Kept capacity span memory position images)
    (last : load memory ((position + extent span images) % capacity) image.length = image) :
    Kept capacity span memory position (images ++ [image]) := by
  induction images generalizing position with
  | nil => exact ⟨last, trivial⟩
  | cons first rest ih =>
      refine ⟨kept.1, ih kept.2 ?_⟩
      rw [extent_cons, ← Nat.add_assoc] at last
      exact last

/-- Records outlive what is stored behind them within one round of where they begin. -/
theorem Kept.store {images : List (List β)} {position behind offset : Nat} {bytes : List β}
    (fits : ∀ image, image.length ≤ span image)
    (kept : Kept capacity span memory position images)
    (follows : position + extent span images ≤ behind)
    (round : behind + (offset + bytes.length) ≤ position + capacity) :
    Kept capacity span (store memory (behind % capacity + offset) bytes) position images := by
  induction images generalizing position with
  | nil => trivial
  | cons image rest ih =>
      rw [extent_cons] at follows
      have short := fits image
      have apart := mod_apart (by omega : position + image.length ≤ behind) round
      refine ⟨?_, ih kept.2 (by omega) (by omega)⟩
      rw [load_store_apart (by omega)]
      exact kept.1

/-- A ring between its counters: the records that were put in and not taken out, from a position
on.  A gap stays free, so that a full ring does not look empty. -/
structure Holds (capacity gap : Nat) (span : List β → Nat) (head tail : Nat) (memory : Nat → β)
    (position : Nat) (images : List (List β)) : Prop where
  head : head = position % capacity
  tail : tail = (position + extent span images) % capacity
  room : extent span images + gap ≤ capacity
  kept : Kept capacity span memory position images

namespace Holds

variable {gap head tail position : Nat} {images : List (List β)} {image : List β}

theorem empty (small : gap ≤ capacity) (memory : Nat → β) :
    Holds capacity gap span 0 0 memory 0 [] :=
  ⟨(Nat.zero_mod _).symm, (Nat.zero_mod _).symm, by simpa using small, trivial⟩

section

variable (holds : Holds capacity gap span head tail memory position images)
include holds

/-- The distance of the counters is what the records take up. -/
theorem used (positive : 0 < gap) : (tail + (capacity - head)) % capacity = extent span images := by
  have room := holds.room
  rw [holds.head, holds.tail]
  exact distance (by omega)

theorem is_empty (positive : 0 < gap) (spans : ∀ image ∈ images, 0 < span image) :
    head = tail ↔ images = [] := by
  have used := holds.used positive
  have room := holds.room
  constructor
  · intro same
    have bound : head < capacity := by
      rw [holds.head]
      exact Nat.mod_lt _ (by omega)
    rw [← same, Nat.add_sub_cancel' (by omega : head ≤ capacity), Nat.mod_self] at used
    cases images with
    | nil => rfl
    | cons image rest =>
        have := spans image List.mem_cons_self
        rw [extent_cons] at used
        omega
  · rintro rfl
    rw [holds.head, holds.tail]
    rfl

/-- What is stored from the tail on, in the free room, disturbs no record. -/
theorem store {offset : Nat} {bytes : List β} (fits : ∀ image, image.length ≤ span image)
    (free : extent span images + (offset + bytes.length) ≤ capacity) :
    Holds capacity gap span head tail (Rings.store memory (tail + offset) bytes) position images := by
  refine ⟨holds.head, holds.tail, holds.room, ?_⟩
  rw [holds.tail]
  exact holds.kept.store fits (Nat.le_refl _) (by omega)

/-- A record that lies at the tail is put in. -/
theorem push (there : load memory tail image.length = image)
    (free : extent span images + span image + gap ≤ capacity) :
    Holds capacity gap span head ((tail + span image) % capacity) memory position
      (images ++ [image]) := by
  refine ⟨holds.head, ?_, ?_, ?_⟩
  · rw [holds.tail, Nat.mod_add_mod, extent_append, extent_cons, extent_nil, Nat.add_zero,
      Nat.add_assoc]
  · rw [extent_append, extent_cons, extent_nil]
    omega
  · rw [holds.tail] at there
    exact holds.kept.snoc there

end

theorem first (holds : Holds capacity gap span head tail memory position (image :: images)) :
    load memory head image.length = image := by
  rw [holds.head]
  exact holds.kept.1

/-- The record at the head is taken out. -/
theorem pop (holds : Holds capacity gap span head tail memory position (image :: images)) :
    Holds capacity gap span ((head + span image) % capacity) tail memory (position + span image)
      images := by
  have room := holds.room
  rw [extent_cons] at room
  refine ⟨?_, ?_, by omega, holds.kept.2⟩
  · rw [holds.head, Nat.mod_add_mod]
  · rw [holds.tail, extent_cons, Nat.add_assoc]

end Holds

end Rings
