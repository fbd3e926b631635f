import Mathlib.Data.Nat.ModEq
import Tunio.Octets

/-!
The checksum over 16-bit words with end-around carry.
-/

namespace OnesComplement

/-- The sum of the words of some bytes; a last byte alone is the high half of a word. -/
def sum : List UInt8 → Nat
  | [] => 0
  | [last] => last.toNat * 256
  | high :: low :: rest => high.toNat * 256 + low.toNat + sum rest

/-- The carries are added in, so many times at most. -/
def fold : Nat → Nat → Nat
  | 0, total => total
  | rounds + 1, total =>
      if total < 65536 then total else fold rounds (total % 65536 + total / 65536)

def complement (total : Nat) : UInt16 := UInt16.ofNat (65535 - total)

theorem sum_append (front rest : List UInt8) (even : front.length % 2 = 0) :
    sum (front ++ rest) = sum front + sum rest := by
  induction front using sum.induct with
  | case1 => simp [sum]
  | case2 last => simp at even
  | case3 high low front ih =>
      have even' : front.length % 2 = 0 := by
        simp only [List.length_cons] at even
        omega
      simp only [List.cons_append, sum, ih even']
      omega

theorem sum_word (w : UInt16) (rest : List UInt8) :
    sum (Octets.ofWord w ++ rest) = w.toNat + sum rest := by
  have bound := w.toNat_lt
  simp only [Octets.ofWord, List.cons_append, List.nil_append, sum, UInt8.toNat_ofNat']
  omega

theorem sum_zeros (n : Nat) : sum (List.replicate n 0) = 0 := by
  induction n using Nat.twoStepInduction with
  | zero => rfl
  | one => rfl
  | more n ih _ => simpa [List.replicate_succ, sum] using ih

/-- A sum of so many bytes fits in 32 bits. -/
theorem sum_le (bytes : List UInt8) : sum bytes ≤ 65535 * ((bytes.length + 1) / 2) := by
  induction bytes using sum.induct with
  | case1 => simp [sum]
  | case2 last =>
      have bound := last.toNat_lt
      simp only [sum, List.length_singleton]
      omega
  | case3 high low rest ih =>
      have highBound := high.toNat_lt
      have lowBound := low.toNat_lt
      simp only [sum, List.length_cons]
      omega

theorem fold_modEq (rounds total : Nat) : fold rounds total ≡ total [MOD 65535] := by
  induction rounds generalizing total with
  | zero => exact Nat.ModEq.refl _
  | succ rounds ih =>
      unfold fold
      split
      · exact Nat.ModEq.refl _
      · refine (ih _).trans ?_
        unfold Nat.ModEq
        omega

theorem fold_pos (rounds : Nat) {total : Nat} (some_ : 0 < total) : 0 < fold rounds total := by
  induction rounds generalizing total with
  | zero => exact some_
  | succ rounds ih =>
      unfold fold
      split
      · exact some_
      · exact ih (by omega)

/-- Two rounds are enough for a sum of 32 bits. -/
theorem fold_lt {total : Nat} (bound : total < 2 ^ 32) : fold 2 total < 65536 := by
  simp only [fold]
  split
  · assumption
  · split
    · assumption
    · omega

theorem fold_zero (rounds : Nat) : fold rounds 0 = 0 := by
  cases rounds <;> rfl

/-- The folded sum is all ones exactly for a positive multiple of it. -/
theorem fold_ones {total : Nat} (bound : total < 2 ^ 32) :
    fold 2 total = 65535 ↔ 0 < total ∧ total ≡ 0 [MOD 65535] := by
  have same := fold_modEq 2 total
  have small := fold_lt bound
  constructor
  · intro ones
    rw [ones] at same
    refine ⟨?_, same.symm.trans rfl⟩
    rcases Nat.eq_zero_or_pos total with none | some_
    · rw [none, fold_zero] at ones
      cases ones
    · exact some_
  · rintro ⟨some_, multiple⟩
    have positive := fold_pos 2 some_
    have divides := same.trans multiple
    unfold Nat.ModEq at divides
    omega

theorem complement_zero {total : Nat} (bound : total < 65536) :
    complement total = 0 ↔ total = 65535 := by
  rw [complement, ← UInt16.toNat_inj, UInt16.toNat_ofNat']
  change (65535 - total) % 65536 = 0 ↔ _
  omega

theorem complement_toNat {total : Nat} (bound : total < 65536) :
    (complement total).toNat = 65535 - total := by
  rw [complement, UInt16.toNat_ofNat']
  change (65535 - total) % 65536 = _
  omega

/-- The sum with its own checksum verifies. -/
theorem verifies {total : Nat} (bound : total + 65535 < 2 ^ 32) :
    complement (fold 2 (total + (complement (fold 2 total)).toNat)) = 0 := by
  have small : fold 2 total < 65536 := fold_lt (by omega)
  have same := fold_modEq 2 total
  have check := complement_toNat small
  have whole : total + (complement (fold 2 total)).toNat < 2 ^ 32 := by omega
  rw [complement_zero (fold_lt whole), fold_ones whole, check]
  constructor
  · rcases Nat.eq_zero_or_pos total with none | some_
    · rw [none, fold_zero]
      omega
    · omega
  · unfold Nat.ModEq at same ⊢
    omega

/-- A checksum of zero may be sent as all ones. -/
theorem verifies_ones {total : Nat} (bound : total + 65535 < 2 ^ 32)
    (zero : complement (fold 2 total) = 0) : complement (fold 2 (total + 65535)) = 0 := by
  rw [complement_zero (fold_lt (by omega)), fold_ones (by omega)] at zero
  rw [complement_zero (fold_lt bound), fold_ones bound]
  refine ⟨by omega, ?_⟩
  have multiple := zero.2
  unfold Nat.ModEq at multiple ⊢
  omega

end OnesComplement
