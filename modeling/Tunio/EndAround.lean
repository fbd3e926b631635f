import Mathlib.Algebra.BigOperators.Group.List.Basic
import Tunio.OnesComplement

/-!
The Internet checksum: the complement of the one's complement sum of the 16-bit words.  Adding with
an end-around carry at each word gives the same as folding the carries of a plain sum.
-/

namespace OnesComplement

/-- The words of some bytes; a last byte alone is the high half of a word. -/
def words : List UInt8 → List Nat
  | [] => []
  | [last] => [last.toNat * 256]
  | high :: low :: rest => (high.toNat * 256 + low.toNat) :: words rest

/-- The one's complement sum of two words. -/
def endAround (a b : Nat) : Nat := if a + b < 65536 then a + b else a + b - 65535

def internetChecksum (bytes : List UInt8) : UInt16 := complement ((words bytes).foldl endAround 0)

theorem words_sum (bytes : List UInt8) : (words bytes).sum = sum bytes := by
  induction bytes using sum.induct with
  | case1 => rfl
  | case2 last => exact Nat.add_zero _
  | case3 high low rest ih =>
      unfold words sum
      rw [List.sum_cons, ih]

theorem words_lt (bytes : List UInt8) : ∀ w ∈ words bytes, w < 65536 := by
  induction bytes using sum.induct with
  | case1 => exact fun w member => absurd member List.not_mem_nil
  | case2 last =>
      intro w member
      have bound := last.toNat_lt
      rw [List.mem_singleton.mp member]
      omega
  | case3 high low rest ih =>
      intro w member
      have highBound := high.toNat_lt
      have lowBound := low.toNat_lt
      rcases List.mem_cons.mp member with rfl | later
      · omega
      · exact ih w later

/-- A sum with end-around carries is a word that is congruent to the plain sum, and is zero only
when that is. -/
structure Folds (total folded : Nat) : Prop where
  small : folded < 65536
  same : folded ≡ total [MOD 65535]
  zero : folded = 0 ↔ total = 0

theorem Folds.unique {total a b : Nat} (first : Folds total a) (second : Folds total b) : a = b := by
  have same := first.same.trans second.same.symm
  have smallA := first.small
  have smallB := second.small
  have zeroA := first.zero
  have zeroB := second.zero
  unfold Nat.ModEq at same
  omega

theorem Folds.endAround {total a b : Nat} (folds : Folds total a) (small : b < 65536) :
    Folds (total + b) (endAround a b) := by
  have smallA := folds.small
  have zero := folds.zero
  have same := folds.same
  unfold OnesComplement.endAround
  split
  · refine ⟨by omega, same.add_right b, by omega⟩
  · refine ⟨by omega, ?_, by omega⟩
    refine Nat.ModEq.trans ?_ (same.add_right b)
    unfold Nat.ModEq
    omega

theorem Folds.foldl {total a : Nat} {ws : List Nat} (folds : Folds total a)
    (small : ∀ w ∈ ws, w < 65536) : Folds (total + ws.sum) (ws.foldl OnesComplement.endAround a) := by
  induction ws generalizing total a with
  | nil => exact folds
  | cons w ws ih =>
      rw [List.sum_cons, List.foldl_cons, ← Nat.add_assoc]
      exact ih (folds.endAround (small w List.mem_cons_self)) fun other member =>
        small other (List.mem_cons_of_mem _ member)

theorem fold_folds {total : Nat} (bound : total < 2 ^ 32) : Folds total (fold 2 total) := by
  refine ⟨fold_lt bound, fold_modEq 2 total, ?_⟩
  constructor
  · intro none
    by_contra some_
    have positive := fold_pos 2 (Nat.pos_of_ne_zero some_)
    omega
  · intro none
    rw [none, fold_zero]

/-- Folding the carries of a 32-bit sum at the end gives the Internet checksum. -/
theorem complement_fold {bytes : List UInt8} (bound : sum bytes < 2 ^ 32) :
    complement (fold 2 (sum bytes)) = internetChecksum bytes := by
  have start : Folds 0 0 := ⟨by decide, rfl, Iff.rfl⟩
  have carried := start.foldl (words_lt bytes)
  rw [words_sum, Nat.zero_add] at carried
  rw [internetChecksum, (fold_folds bound).unique carried]

end OnesComplement
