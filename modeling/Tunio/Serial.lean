import Mathlib.Algebra.Order.Ring.Nat

/-!
Serial number arithmetic on 32-bit words.  A counter that only grows is stored
modulo `2 ^ 32`; `num base position` is the word stored for a position counted
from `base`, and the lemmas recover positions from words that are close enough.
-/

namespace Serial

/-- A word read as a two's complement number. -/
def signed (word : UInt32) : Int := word.toInt32.toInt

/-- The word that stands for the position counted from `base`. -/
def num (base : UInt32) (position : Nat) : UInt32 := base + UInt32.ofNat position

/-- The position closest to `reference` whose word is `word`. -/
def near (base : UInt32) (reference : Nat) (word : UInt32) : Nat :=
  (reference + signed (word - num base reference)).toNat

theorem signed_eq (word : UInt32) :
    signed word = if word.toNat < 2 ^ 31 then (word.toNat : Int) else word.toNat - 2 ^ 32 := by
  have unfolded : signed word = word.toBitVec.toInt := rfl
  have same : word.toBitVec.toNat = word.toNat := rfl
  have bound := word.toNat_lt
  rw [unfolded, BitVec.toInt_eq_toNat_cond, same]
  split <;> split <;> omega

theorem toInt32_pos (word : UInt32) :
    0 < word.toInt32 ↔ 0 < word.toNat ∧ word.toNat < 2 ^ 31 := by
  have bound := word.toNat_lt
  rw [Int32.lt_iff_toInt_lt]
  change 0 < signed word ↔ _
  rw [signed_eq]
  split <;> omega

theorem num_toNat (base : UInt32) (position : Nat) :
    (num base position).toNat = (base.toNat + position) % 2 ^ 32 := by
  simp [num, UInt32.toNat_add, Nat.add_mod]

@[simp] theorem num_zero (base : UInt32) : num base 0 = base := by
  simp [num]

theorem num_add (base : UInt32) (position count : Nat) :
    num base (position + count) = num base position + UInt32.ofNat count := by
  simp [num, UInt32.ofNat_add, UInt32.add_assoc]

theorem num_succ (base : UInt32) (position : Nat) :
    num base (position + 1) = num base position + 1 := by
  rw [num_add]
  rfl

theorem num_sub_toNat (base : UInt32) (left right : Nat) (ordered : right ≤ left)
    (close : left - right < 2 ^ 32) : (num base left - num base right).toNat = left - right := by
  rw [UInt32.toNat_sub, num_toNat, num_toNat]
  omega

theorem num_sub_mod (base : UInt32) (left right : Nat) (ordered : right ≤ left) :
    (num base left - num base right).toNat = (left - right) % 2 ^ 32 := by
  rw [UInt32.toNat_sub, num_toNat, num_toNat]
  omega

theorem num_sub_behind (base : UInt32) (left right : Nat) (behind : left < right)
    (close : right - left < 2 ^ 32) :
    (num base left - num base right).toNat = 2 ^ 32 - (right - left) := by
  rw [UInt32.toNat_sub, num_toNat, num_toNat]
  omega

theorem signed_num_sub (base : UInt32) (left right : Nat)
    (lower : right ≤ left + 2 ^ 31) (upper : left < right + 2 ^ 31) :
    signed (num base left - num base right) = (left : Int) - right := by
  rw [signed_eq, UInt32.toNat_sub, num_toNat, num_toNat]
  split <;> omega

theorem num_inj (base : UInt32) {left right : Nat} (same : num base left = num base right)
    (lower : right < left + 2 ^ 32) (upper : left < right + 2 ^ 32) : left = right := by
  have words := congrArg UInt32.toNat same
  rw [num_toNat, num_toNat] at words
  omega

theorem num_eq_iff (base : UInt32) (left right : Nat)
    (lower : right < left + 2 ^ 32) (upper : left < right + 2 ^ 32) :
    num base left = num base right ↔ left = right :=
  ⟨fun same => num_inj base same lower upper, fun same => by rw [same]⟩

theorem near_num (base : UInt32) (reference position : Nat)
    (lower : reference ≤ position + 2 ^ 31) (upper : position < reference + 2 ^ 31) :
    near base reference (num base position) = position := by
  rw [near, signed_num_sub base position reference lower upper]
  omega

/-- The first position from `reference` on whose word is `word`. -/
def above (base : UInt32) (reference : Nat) (word : UInt32) : Nat :=
  reference + (word - num base reference).toNat

theorem above_lt (base : UInt32) (reference : Nat) (word : UInt32) :
    above base reference word < reference + 2 ^ 32 := by
  have bound := (word - num base reference).toNat_lt
  unfold above
  omega

@[simp] theorem num_above (base : UInt32) (reference : Nat) (word : UInt32) :
    num base (above base reference word) = word := by
  have bound := word.toNat_lt
  apply UInt32.toNat_inj.mp
  rw [num_toNat, above, UInt32.toNat_sub, num_toNat]
  omega

theorem above_num (base : UInt32) (reference position : Nat) (lower : reference ≤ position)
    (upper : position < reference + 2 ^ 32) : above base reference (num base position) = position := by
  rw [above, num_sub_toNat base position reference lower (by omega)]
  omega

theorem above_inj (base : UInt32) (reference : Nat) {left right : UInt32}
    (same : above base reference left = above base reference right) : left = right := by
  rw [← num_above base reference left, same, num_above]

end Serial
