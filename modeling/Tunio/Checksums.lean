import Tunio.Acceptance
import Tunio.EndAround

/-!
The checksums as they are computed, in 32 bits: `checksum_sum` in its plain version and in the one
for SSE2, and what is made of it.
-/

namespace Tunio

open Octets IpGrammar

/-- An addition that must not overflow. -/
def addExact (a b : UInt32) : Option UInt32 :=
  if a.toNat + b.toNat < 2 ^ 32 then some (a + b) else none

namespace Checksum32

/-! The sums, over any addition of 32-bit numbers. -/

section

variable {m : Type → Type} [Monad m] (add : UInt32 → UInt32 → m UInt32)

/-- The version without SIMD, which is also the tail of the other. -/
def scalarSum : List UInt8 → UInt32 → m UInt32
  | high :: low :: rest, sum => do
      let sum ← add sum ((high.toUInt16 <<< 8) ||| low.toUInt16).toUInt32
      scalarSum rest sum
  | [last], sum => add sum (last.toUInt16 <<< 8).toUInt32
  | [], sum => pure sum

/-- Eight lanes of 16 bits, or four of 32. -/
abbrev Lanes16 := Vector UInt16 8
abbrev Lanes32 := Vector UInt32 4

/-- `_mm_loadu_si128`; the low byte of a lane comes first. -/
def loadLanes (bytes : List UInt8) : Lanes16 :=
  Vector.ofFn fun i => (bytes.getD (2 * i) 0).toUInt16 ||| ((bytes.getD (2 * i + 1) 0).toUInt16 <<< 8)

def swapLane (lane : UInt16) : UInt16 := ((lane &&& (0x00ff : UInt16)) <<< 8) ||| (lane >>> 8)

def swapBytes (v : Lanes16) : Lanes16 := v.map swapLane

/-- `_mm_unpacklo_epi16` and `_mm_unpackhi_epi16` with zeros. -/
def unpackLo (w : Lanes16) : Lanes32 := #v[w[0].toUInt32, w[1].toUInt32, w[2].toUInt32, w[3].toUInt32]

def unpackHi (w : Lanes16) : Lanes32 := #v[w[4].toUInt32, w[5].toUInt32, w[6].toUInt32, w[7].toUInt32]

/-- `_mm_add_epi32`. -/
def addLanes (a b : Lanes32) : m Lanes32 := do
  let t0 ← add a[0] b[0]
  let t1 ← add a[1] b[1]
  let t2 ← add a[2] b[2]
  let t3 ← add a[3] b[3]
  pure #v[t0, t1, t2, t3]

/-- One round of the loop, on 32 bytes. -/
def sumRound (bytes : List UInt8) (acc : Lanes32 × Lanes32) : m (Lanes32 × Lanes32) := do
  let w0 := swapBytes (loadLanes bytes)
  let w1 := swapBytes (loadLanes (bytes.drop 16))
  let acc0 ← addLanes add acc.1 (unpackLo w0)
  let acc1 ← addLanes add acc.2 (unpackHi w0)
  let acc0 ← addLanes add acc0 (unpackLo w1)
  let acc1 ← addLanes add acc1 (unpackHi w1)
  pure (acc0, acc1)

/-- The loop, with a bound on its rounds; it leaves what is too short for another. -/
def sumBlocks : Nat → List UInt8 → Lanes32 × Lanes32 → m ((Lanes32 × Lanes32) × List UInt8)
  | 0, bytes, acc => pure (acc, bytes)
  | fuel + 1, bytes, acc =>
      if 32 ≤ bytes.length then do
        let acc ← sumRound add bytes acc
        sumBlocks fuel (bytes.drop 32) acc
      else pure (acc, bytes)

def zeroLanes : Lanes32 := Vector.replicate 4 0

/-- The version for SSE2. -/
def sse2Sum (data : List UInt8) (sum : UInt32) : m UInt32 := do
  let (acc, tail) ← sumBlocks add data.length data (zeroLanes, zeroLanes)
  let t ← add acc.1[0] acc.1[1]
  let t ← add t acc.1[2]
  let t ← add t acc.1[3]
  let t ← add t acc.2[0]
  let t ← add t acc.2[1]
  let t ← add t acc.2[2]
  let t ← add t acc.2[3]
  let sum ← add sum t
  scalarSum add tail sum

/-- The sum of `tcp_udp_checksum`, with one of the two versions for the segment. -/
def pseudoSum (checksumSum : List UInt8 → UInt32 → m UInt32) (family : UInt8)
    (srcIp dstIp : Vector UInt8 16) (protocol : UInt8) (segment : List UInt8) : m UInt32 := do
  let sum ← scalarSum add (srcIp.toList.take (addrLen family)) 0
  let sum ← scalarSum add (dstIp.toList.take (addrLen family)) sum
  let sum ← add sum protocol.toUInt16.toUInt32
  let sum ← add sum (UInt16.ofNat segment.length).toUInt32
  let segmentSum ← checksumSum segment 0
  add sum segmentSum

end

/-! What the code computes. -/

/-- Additions that wrap, as those of the code. -/
def wrapping (a b : UInt32) : Id UInt32 := pure (a + b)

def checksumSum (data : List UInt8) (sum : UInt32) : UInt32 := (scalarSum wrapping data sum).run

def checksumSumSse2 (data : List UInt8) (sum : UInt32) : UInt32 := (sse2Sum wrapping data sum).run

theorem low_toNat (sum : UInt32) : (sum &&& (0xffff : UInt32)).toNat = sum.toNat % 65536 := by
  rw [UInt32.toNat_and]
  exact Nat.and_two_pow_sub_one_eq_mod _ 16

theorem high_toNat (sum : UInt32) : (sum >>> 16).toNat = sum.toNat / 65536 := by
  rw [UInt32.toNat_shiftRight, Nat.shiftRight_eq_div_pow]
  rfl

theorem fold_smaller {sum : UInt32} (carries : sum >>> 16 ≠ 0) :
    ((sum &&& (0xffff : UInt32)) + (sum >>> 16)).toNat < sum.toNat := by
  have bound := sum.toNat_lt
  rw [Ne, ← UInt32.toNat_inj, high_toNat] at carries
  change ¬sum.toNat / 65536 = 0 at carries
  rw [UInt32.toNat_add, low_toNat, high_toNat, Nat.mod_eq_of_lt (by omega)]
  omega

/-- The loop of `checksum_fold`. -/
def foldLoop (sum : UInt32) : UInt32 :=
  if sum >>> 16 ≠ 0 then foldLoop ((sum &&& (0xffff : UInt32)) + (sum >>> 16)) else sum
termination_by sum.toNat
decreasing_by exact fold_smaller ‹_›

def checksumFold (sum : UInt32) : UInt16 := (~~~foldLoop sum).toUInt16

def ipChecksum (data : List UInt8) : UInt16 := checksumFold (checksumSumSse2 data 0)

/-- The loop of `ipv4_checksum`, from an index on; it takes whole words only. -/
def ipv4Words : Nat → List UInt8 → UInt32 → UInt32
  | i, high :: low :: rest, sum =>
      let word := (high.toUInt16 <<< 8) ||| low.toUInt16
      let word := if i = 10 then 0 else word
      ipv4Words (i + 2) rest (sum + word.toUInt32)
  | _, _, sum => sum

def ipv4Checksum (header : List UInt8) : UInt16 := checksumFold (ipv4Words 0 header 0)

def verifyIpv4Checksum (header : List UInt8) : UInt16 := checksumFold (checksumSumSse2 header 0)

def tcpUdpChecksum (family : UInt8) (srcIp dstIp : Vector UInt8 16) (protocol : UInt8)
    (segment : List UInt8) : UInt16 :=
  checksumFold (pseudoSum wrapping (sse2Sum wrapping) family srcIp dstIp protocol segment).run

end Checksum32

/-! Additions that do not overflow. -/

theorem addExact_some {a b : UInt32} (fits : a.toNat + b.toNat < 2 ^ 32) :
    ∃ c, addExact a b = some c ∧ c.toNat = a.toNat + b.toNat := by
  refine ⟨a + b, if_pos fits, ?_⟩
  rw [UInt32.toNat_add]
  exact Nat.mod_eq_of_lt fits

theorem addExact_wrapping {a b c : UInt32} (exact_ : addExact a b = some c) :
    Checksum32.wrapping a b = pure c := by
  unfold addExact at exact_
  split at exact_
  · cases exact_
    rfl
  · cases exact_

namespace Checksum32

theorem word_value (high low : UInt8) :
    ((high.toUInt16 <<< 8) ||| low.toUInt16).toUInt32.toNat = high.toNat * 256 + low.toNat := by
  have highBound := high.toNat_lt
  have lowBound := low.toNat_lt
  rw [UInt16.toNat_toUInt32, UInt16.toNat_or, UInt16.toNat_shiftLeft, UInt8.toNat_toUInt16,
    UInt8.toNat_toUInt16]
  change (high.toNat <<< 8 % 65536) ||| low.toNat = _
  rw [Nat.shiftLeft_eq, Nat.mod_eq_of_lt (by omega)]
  have joined := Nat.shiftLeft_add_eq_or_of_lt lowBound high.toNat
  rw [Nat.shiftLeft_eq] at joined
  exact joined.symm

theorem last_value (last : UInt8) :
    (last.toUInt16 <<< 8).toUInt32.toNat = last.toNat * 256 := by
  have value := word_value last 0
  rwa [show (0 : UInt8).toUInt16 = 0 from rfl, UInt16.or_zero, show (0 : UInt8).toNat = 0 from rfl,
    Nat.add_zero] at value

theorem scalarSum_exact (data : List UInt8) {sum : UInt32}
    (fits : sum.toNat + OnesComplement.sum data < 2 ^ 32) :
    ∃ r, scalarSum addExact data sum = some r ∧ r.toNat = sum.toNat + OnesComplement.sum data := by
  induction data using OnesComplement.sum.induct generalizing sum with
  | case1 => exact ⟨sum, rfl, rfl⟩
  | case2 last =>
      unfold OnesComplement.sum at fits ⊢
      rw [← last_value] at fits ⊢
      obtain ⟨r, added, value⟩ := addExact_some fits
      refine ⟨r, ?_, value⟩
      rw [scalarSum, added]
  | case3 high low rest ih =>
      unfold OnesComplement.sum at fits ⊢
      rw [← word_value] at fits ⊢
      obtain ⟨next, added, value⟩ := addExact_some
        (show sum.toNat + ((high.toUInt16 <<< 8) ||| low.toUInt16).toUInt32.toNat < 2 ^ 32 by omega)
      obtain ⟨r, ran, total⟩ := ih (show next.toNat + OnesComplement.sum rest < 2 ^ 32 by omega)
      refine ⟨r, ?_, by omega⟩
      rw [scalarSum, added]
      exact ran

/-! The lanes. -/

def total (v : Lanes32) : Nat := v[0].toNat + v[1].toNat + v[2].toNat + v[3].toNat

theorem addLanes_exact {a b : Lanes32} (fits : total a + total b < 2 ^ 32) :
    ∃ c, addLanes addExact a b = some c ∧ total c = total a + total b := by
  unfold total at fits
  obtain ⟨t0, add0, value0⟩ := addExact_some (show a[0].toNat + b[0].toNat < 2 ^ 32 by omega)
  obtain ⟨t1, add1, value1⟩ := addExact_some (show a[1].toNat + b[1].toNat < 2 ^ 32 by omega)
  obtain ⟨t2, add2, value2⟩ := addExact_some (show a[2].toNat + b[2].toNat < 2 ^ 32 by omega)
  obtain ⟨t3, add3, value3⟩ := addExact_some (show a[3].toNat + b[3].toNat < 2 ^ 32 by omega)
  refine ⟨#v[t0, t1, t2, t3], ?_, ?_⟩
  · unfold addLanes
    rw [add0, add1, add2, add3]
    rfl
  · change t0.toNat + t1.toNat + t2.toNat + t3.toNat = _
    unfold total
    omega

/-- A lane that was loaded holds its bytes in the other order. -/
theorem swapLane_loaded (first second : UInt8) :
    (swapLane (first.toUInt16 ||| (second.toUInt16 <<< 8))).toNat =
      first.toNat * 256 + second.toNat := by
  have firstBound := first.toNat_lt
  have secondBound := second.toNat_lt
  have loaded : (first.toUInt16 ||| (second.toUInt16 <<< 8)).toNat =
      second.toNat * 256 + first.toNat := by
    rw [← word_value, UInt16.toNat_toUInt32, UInt16.or_comm]
  have low : ((first.toUInt16 ||| (second.toUInt16 <<< 8)) &&& (0x00ff : UInt16)).toNat =
      first.toNat := by
    rw [UInt16.toNat_and, loaded]
    refine (Nat.and_two_pow_sub_one_eq_mod _ 8).trans ?_
    omega
  have high : ((first.toUInt16 ||| (second.toUInt16 <<< 8)) >>> 8).toNat = second.toNat := by
    rw [UInt16.toNat_shiftRight, loaded]
    change (second.toNat * 256 + first.toNat) >>> 8 = _
    rw [Nat.shiftRight_eq_div_pow]
    omega
  unfold swapLane
  rw [UInt16.toNat_or, UInt16.toNat_shiftLeft, low, high]
  change (first.toNat <<< 8 % 65536) ||| second.toNat = _
  rw [Nat.shiftLeft_eq, Nat.mod_eq_of_lt (by omega)]
  have joined := Nat.shiftLeft_add_eq_or_of_lt secondBound first.toNat
  rw [Nat.shiftLeft_eq] at joined
  exact joined.symm

theorem sum_pairs (n : Nat) {bytes : List UInt8} (long : 2 * n ≤ bytes.length) :
    OnesComplement.sum (bytes.take (2 * n)) = ((List.range n).map fun k => pair bytes (2 * k)).sum := by
  induction n generalizing bytes with
  | zero => rfl
  | succ n ih =>
      match bytes, long with
      | high :: low :: rest, long =>
          have long : 2 * n ≤ rest.length := by
            simp only [List.length_cons] at long
            omega
          have later : ((fun k => pair (high :: low :: rest) (2 * k)) ∘ Nat.succ) =
              fun k => pair rest (2 * k) := rfl
          rw [List.range_succ_eq_map, List.map_cons, List.map_map, List.sum_cons, later, ← ih long]
          rfl

theorem lane_value (bytes : List UInt8) {i : Nat} (inside : i < 8) :
    ((swapBytes (loadLanes bytes))[i]).toNat = pair bytes (2 * i) := by
  unfold swapBytes loadLanes
  rw [Vector.getElem_map, Vector.getElem_ofFn]
  exact swapLane_loaded _ _

/-- Eight lanes hold the words of sixteen bytes. -/
theorem unpacked_total {bytes : List UInt8} (long : 16 ≤ bytes.length) :
    total (unpackLo (swapBytes (loadLanes bytes))) + total (unpackHi (swapBytes (loadLanes bytes))) =
      OnesComplement.sum (bytes.take 16) := by
  have words := sum_pairs 8 long
  have lo : total (unpackLo (swapBytes (loadLanes bytes))) =
      pair bytes 0 + pair bytes 2 + pair bytes 4 + pair bytes 6 := by
    rw [← lane_value bytes (show 0 < 8 by decide), ← lane_value bytes (show 1 < 8 by decide),
      ← lane_value bytes (show 2 < 8 by decide), ← lane_value bytes (show 3 < 8 by decide)]
    rfl
  have hi : total (unpackHi (swapBytes (loadLanes bytes))) =
      pair bytes 8 + pair bytes 10 + pair bytes 12 + pair bytes 14 := by
    rw [← lane_value bytes (show 4 < 8 by decide), ← lane_value bytes (show 5 < 8 by decide),
      ← lane_value bytes (show 6 < 8 by decide), ← lane_value bytes (show 7 < 8 by decide)]
    rfl
  rw [lo, hi]
  change OnesComplement.sum (bytes.take 16) = _ at words
  rw [words]
  simp only [show List.range 8 = [0, 1, 2, 3, 4, 5, 6, 7] from rfl, List.map_cons, List.map_nil,
    List.sum_cons, List.sum_nil, Nat.reduceMul]
  omega

/-- What the lanes hold and what is still to be added. -/
def held (acc : Lanes32 × Lanes32) (bytes : List UInt8) : Nat :=
  total acc.1 + total acc.2 + OnesComplement.sum bytes

theorem sumRound_exact {bytes : List UInt8} {acc : Lanes32 × Lanes32} (long : 32 ≤ bytes.length)
    (fits : held acc bytes < 2 ^ 32) :
    ∃ next, sumRound addExact bytes acc = some next ∧ held next (bytes.drop 32) = held acc bytes := by
  obtain ⟨acc0, acc1⟩ := acc
  have first := unpacked_total (show 16 ≤ bytes.length by omega)
  have second := unpacked_total (show 16 ≤ (bytes.drop 16).length by rw [List.length_drop]; omega)
  have split : OnesComplement.sum bytes = OnesComplement.sum (bytes.take 16) +
      (OnesComplement.sum ((bytes.drop 16).take 16) + OnesComplement.sum (bytes.drop 32)) := by
    have front : (bytes.take 16).length = 16 := by
      rw [List.length_take]
      omega
    have back : ((bytes.drop 16).take 16).length = 16 := by
      rw [List.length_take, List.length_drop]
      omega
    have rest : bytes.drop 32 = (bytes.drop 16).drop 16 := by rw [List.drop_drop]
    rw [rest, ← OnesComplement.sum_append _ _ (by rw [back]), List.take_append_drop,
      ← OnesComplement.sum_append _ _ (by rw [front]), List.take_append_drop]
  unfold held at fits ⊢
  dsimp only at fits ⊢
  obtain ⟨a, addA, valueA⟩ := addLanes_exact
    (show total acc0 + total (unpackLo (swapBytes (loadLanes bytes))) < 2 ^ 32 by omega)
  obtain ⟨b, addB, valueB⟩ := addLanes_exact
    (show total acc1 + total (unpackHi (swapBytes (loadLanes bytes))) < 2 ^ 32 by omega)
  obtain ⟨c, addC, valueC⟩ := addLanes_exact
    (show total a + total (unpackLo (swapBytes (loadLanes (bytes.drop 16)))) < 2 ^ 32 by omega)
  obtain ⟨d, addD, valueD⟩ := addLanes_exact
    (show total b + total (unpackHi (swapBytes (loadLanes (bytes.drop 16)))) < 2 ^ 32 by omega)
  refine ⟨(c, d), ?_, ?_⟩
  · unfold sumRound
    dsimp only
    rw [addA, addB]
    change (do
      let acc0 ← addLanes addExact a (unpackLo (swapBytes (loadLanes (bytes.drop 16))))
      let acc1 ← addLanes addExact b (unpackHi (swapBytes (loadLanes (bytes.drop 16))))
      pure (acc0, acc1)) = _
    rw [addC, addD]
    rfl
  · dsimp only
    omega

theorem sumBlocks_exact (fuel : Nat) {bytes : List UInt8} {acc : Lanes32 × Lanes32}
    (fits : held acc bytes < 2 ^ 32) :
    ∃ final tail, sumBlocks addExact fuel bytes acc = some (final, tail) ∧
      held final tail = held acc bytes := by
  induction fuel generalizing bytes acc with
  | zero => exact ⟨acc, bytes, rfl, rfl⟩
  | succ fuel ih =>
      unfold sumBlocks
      by_cases long : 32 ≤ bytes.length
      · obtain ⟨next, ran, same⟩ := sumRound_exact long fits
        obtain ⟨final, tail, rest, held⟩ := ih (same ▸ fits)
        rw [if_pos long, ran]
        exact ⟨final, tail, rest, held.trans same⟩
      · rw [if_neg long]
        exact ⟨acc, bytes, rfl, rfl⟩

/-- The bound on the rounds is large enough: less than another round is left. -/
theorem sumBlocks_ends (fuel : Nat) {bytes : List UInt8} (acc : Lanes32 × Lanes32)
    (enough : bytes.length ≤ fuel) : (sumBlocks wrapping fuel bytes acc).run.2.length < 32 := by
  induction fuel generalizing bytes acc with
  | zero =>
      change bytes.length < 32
      omega
  | succ fuel ih =>
      unfold sumBlocks
      split
      · refine ih _ ?_
        rw [List.length_drop]
        omega
      · rename_i short
        exact Nat.not_le.mp short

theorem sse2Sum_exact (data : List UInt8) {sum : UInt32}
    (fits : sum.toNat + OnesComplement.sum data < 2 ^ 32) :
    ∃ r, sse2Sum addExact data sum = some r ∧ r.toNat = sum.toNat + OnesComplement.sum data := by
  have empty : held (zeroLanes, zeroLanes) data = OnesComplement.sum data := Nat.zero_add _
  obtain ⟨⟨acc0, acc1⟩, tail, ran, same⟩ := sumBlocks_exact data.length
    (show held (zeroLanes, zeroLanes) data < 2 ^ 32 by omega)
  rw [empty] at same
  unfold held total at same
  dsimp only at same
  obtain ⟨t1, add1, value1⟩ := addExact_some (show acc0[0].toNat + acc0[1].toNat < 2 ^ 32 by omega)
  obtain ⟨t2, add2, value2⟩ := addExact_some (show t1.toNat + acc0[2].toNat < 2 ^ 32 by omega)
  obtain ⟨t3, add3, value3⟩ := addExact_some (show t2.toNat + acc0[3].toNat < 2 ^ 32 by omega)
  obtain ⟨t4, add4, value4⟩ := addExact_some (show t3.toNat + acc1[0].toNat < 2 ^ 32 by omega)
  obtain ⟨t5, add5, value5⟩ := addExact_some (show t4.toNat + acc1[1].toNat < 2 ^ 32 by omega)
  obtain ⟨t6, add6, value6⟩ := addExact_some (show t5.toNat + acc1[2].toNat < 2 ^ 32 by omega)
  obtain ⟨t7, add7, value7⟩ := addExact_some (show t6.toNat + acc1[3].toNat < 2 ^ 32 by omega)
  obtain ⟨s, add8, value8⟩ := addExact_some (show sum.toNat + t7.toNat < 2 ^ 32 by omega)
  obtain ⟨r, finished, value⟩ := scalarSum_exact tail
    (show s.toNat + OnesComplement.sum tail < 2 ^ 32 by omega)
  refine ⟨r, ?_, by omega⟩
  unfold sse2Sum
  simp only [ran, add1, add2, add3, add4, add5, add6, add7, add8, finished, Option.bind_eq_bind,
    Option.bind_some]

/-- The bytes of the addresses, the protocol, the length and the segment. -/
def pseudoTotal (family : UInt8) (srcIp dstIp : Vector UInt8 16) (protocol : UInt8)
    (segment : List UInt8) : Nat :=
  OnesComplement.sum (srcIp.toList.take (addrLen family)) +
    OnesComplement.sum (dstIp.toList.take (addrLen family)) + protocol.toNat +
    segment.length % 65536 + OnesComplement.sum segment

theorem pseudoSum_exact {checksumSum : List UInt8 → UInt32 → Option UInt32} {family : UInt8}
    {srcIp dstIp : Vector UInt8 16} {protocol : UInt8} {segment : List UInt8}
    (sums : ∃ r, checksumSum segment 0 = some r ∧ r.toNat = OnesComplement.sum segment)
    (fits : pseudoTotal family srcIp dstIp protocol segment < 2 ^ 32) :
    ∃ r, pseudoSum addExact checksumSum family srcIp dstIp protocol segment = some r ∧
      r.toNat = pseudoTotal family srcIp dstIp protocol segment := by
  unfold pseudoTotal at fits ⊢
  obtain ⟨segmentSum, summed, segmentValue⟩ := sums
  have number : protocol.toUInt16.toUInt32.toNat = protocol.toNat := rfl
  have length : (UInt16.ofNat segment.length).toUInt32.toNat = segment.length % 65536 := rfl
  have zero : (0 : UInt32).toNat = 0 := rfl
  obtain ⟨a, addA, valueA⟩ := scalarSum_exact (srcIp.toList.take (addrLen family))
    (show (0 : UInt32).toNat + OnesComplement.sum (srcIp.toList.take (addrLen family)) < 2 ^ 32 by
      omega)
  obtain ⟨b, addB, valueB⟩ := scalarSum_exact (dstIp.toList.take (addrLen family))
    (show a.toNat + OnesComplement.sum (dstIp.toList.take (addrLen family)) < 2 ^ 32 by omega)
  obtain ⟨c, addC, valueC⟩ := addExact_some
    (show b.toNat + protocol.toUInt16.toUInt32.toNat < 2 ^ 32 by omega)
  obtain ⟨d, addD, valueD⟩ := addExact_some
    (show c.toNat + (UInt16.ofNat segment.length).toUInt32.toNat < 2 ^ 32 by omega)
  obtain ⟨r, addR, valueR⟩ := addExact_some (show d.toNat + segmentSum.toNat < 2 ^ 32 by omega)
  refine ⟨r, ?_, by omega⟩
  unfold pseudoSum
  simp only [addA, addB, addC, addD, summed, addR, Option.bind_eq_bind, Option.bind_some]

/-- One round and a tail of one byte. -/
example : checksumSumSse2 (List.replicate 33 1) 0 = 4368 := by decide +kernel

/-! The additions of the code. -/

/-- Where no addition overflows, the code computes the same. -/
def Agrees {α : Type} (exact_ : Option α) (code : Id α) : Prop := ∀ r, exact_ = some r → code.run = r

theorem Agrees.pure {α : Type} (a : α) : Agrees (some a) (Pure.pure a) := fun _ same =>
  Option.some.inj same

theorem Agrees.bind {α β : Type} {x : Option α} {y : Id α} {f : α → Option β} {g : α → Id β}
    (first : Agrees x y) (next : ∀ a, Agrees (f a) (g a)) : Agrees (x >>= f) (y >>= g) := by
  intro r ran
  obtain ⟨a, done, rest⟩ := Option.bind_eq_some_iff.mp ran
  have same := first a done
  have last := next a r rest
  rw [← same] at last
  exact last

theorem addExact_agrees (a b : UInt32) : Agrees (addExact a b) (wrapping a b) := fun r exact_ => by
  rw [addExact_wrapping exact_]
  rfl

theorem scalarSum_agrees (data : List UInt8) (sum : UInt32) :
    Agrees (scalarSum addExact data sum) (scalarSum wrapping data sum) := by
  induction data using OnesComplement.sum.induct generalizing sum with
  | case1 => exact .pure sum
  | case2 last => exact addExact_agrees _ _
  | case3 high low rest ih => exact (addExact_agrees _ _).bind fun sum => ih sum

theorem addLanes_agrees (a b : Lanes32) : Agrees (addLanes addExact a b) (addLanes wrapping a b) :=
  (addExact_agrees _ _).bind fun _ => (addExact_agrees _ _).bind fun _ =>
    (addExact_agrees _ _).bind fun _ => (addExact_agrees _ _).bind fun _ => .pure _

theorem sumRound_agrees (bytes : List UInt8) (acc : Lanes32 × Lanes32) :
    Agrees (sumRound addExact bytes acc) (sumRound wrapping bytes acc) :=
  (addLanes_agrees _ _).bind fun _ => (addLanes_agrees _ _).bind fun _ =>
    (addLanes_agrees _ _).bind fun _ => (addLanes_agrees _ _).bind fun _ => .pure _

theorem sumBlocks_agrees (fuel : Nat) (bytes : List UInt8) (acc : Lanes32 × Lanes32) :
    Agrees (sumBlocks addExact fuel bytes acc) (sumBlocks wrapping fuel bytes acc) := by
  induction fuel generalizing bytes acc with
  | zero => exact .pure _
  | succ fuel ih =>
      unfold sumBlocks
      split
      · exact (sumRound_agrees bytes acc).bind fun next => ih _ next
      · exact .pure _

theorem sse2Sum_agrees (data : List UInt8) (sum : UInt32) :
    Agrees (sse2Sum addExact data sum) (sse2Sum wrapping data sum) :=
  (sumBlocks_agrees _ _ _).bind fun _ => (addExact_agrees _ _).bind fun _ =>
    (addExact_agrees _ _).bind fun _ => (addExact_agrees _ _).bind fun _ =>
      (addExact_agrees _ _).bind fun _ => (addExact_agrees _ _).bind fun _ =>
        (addExact_agrees _ _).bind fun _ => (addExact_agrees _ _).bind fun _ =>
          (addExact_agrees _ _).bind fun _ => scalarSum_agrees _ _

theorem pseudoSum_agrees (family : UInt8) (srcIp dstIp : Vector UInt8 16) (protocol : UInt8)
    (segment : List UInt8) :
    Agrees (pseudoSum addExact (sse2Sum addExact) family srcIp dstIp protocol segment)
      (pseudoSum wrapping (sse2Sum wrapping) family srcIp dstIp protocol segment) :=
  (scalarSum_agrees _ _).bind fun _ => (scalarSum_agrees _ _).bind fun _ =>
    (addExact_agrees _ _).bind fun _ => (addExact_agrees _ _).bind fun _ =>
      (sse2Sum_agrees _ _).bind fun _ => addExact_agrees _ _

/-! The folding loop. -/

theorem foldLoop_small {sum : UInt32} (small : sum.toNat < 65536) : foldLoop sum = sum := by
  have none_ : sum >>> 16 = 0 := by
    rw [← UInt32.toNat_inj, high_toNat]
    change sum.toNat / 65536 = 0
    omega
  rw [foldLoop, if_neg (not_not.mpr none_)]

/-- One round adds the carries in. -/
theorem foldLoop_round {sum : UInt32} (carries : ¬sum.toNat < 65536) :
    ∃ next : UInt32, foldLoop sum = foldLoop next ∧
      next.toNat = sum.toNat % 65536 + sum.toNat / 65536 := by
  have bound := sum.toNat_lt
  have some_ : sum >>> 16 ≠ 0 := by
    rw [Ne, ← UInt32.toNat_inj, high_toNat]
    change ¬sum.toNat / 65536 = 0
    omega
  refine ⟨(sum &&& (0xffff : UInt32)) + (sum >>> 16), ?_, ?_⟩
  · rw [foldLoop, if_pos some_]
  · rw [UInt32.toNat_add, low_toNat, high_toNat, Nat.mod_eq_of_lt (by omega)]

theorem foldLoop_toNat (sum : UInt32) : (foldLoop sum).toNat = OnesComplement.fold 2 sum.toNat := by
  have bound := sum.toNat_lt
  simp only [OnesComplement.fold]
  split
  · rename_i small
    rw [foldLoop_small small]
  · rename_i large
    obtain ⟨next, same, value⟩ := foldLoop_round large
    rw [same, ← value]
    split
    · rename_i small
      rw [foldLoop_small small]
    · rename_i large
      obtain ⟨last, same, value'⟩ := foldLoop_round large
      rw [same, foldLoop_small (by omega), value']

theorem checksumFold_eq (sum : UInt32) : checksumFold sum = Tunio.checksumFold sum.toNat := by
  have small := OnesComplement.fold_lt sum.toNat_lt
  have flipped : (~~~foldLoop sum).toNat = 2 ^ 32 - 1 - (foldLoop sum).toNat := UInt32.toNat_not _
  rw [foldLoop_toNat] at flipped
  unfold checksumFold Tunio.checksumFold
  rw [← UInt16.toNat_inj, OnesComplement.complement_toNat small, UInt32.toNat_toUInt16, flipped]
  omega

/-! What the code computes, as sums of whole numbers. -/

theorem sum_bound {data : List UInt8} (short : data.length ≤ 65535) :
    OnesComplement.sum data ≤ 65535 * 32768 := by
  have bound := OnesComplement.sum_le data
  omega

theorem checksumSumSse2_toNat {data : List UInt8} (short : data.length ≤ 65535) :
    (checksumSumSse2 data 0).toNat = OnesComplement.sum data := by
  have bound := sum_bound short
  obtain ⟨r, ran, value⟩ := sse2Sum_exact data
    (show (0 : UInt32).toNat + OnesComplement.sum data < 2 ^ 32 by
      change 0 + _ < _
      omega)
  rw [checksumSumSse2, sse2Sum_agrees data 0 r ran, value]
  exact Nat.zero_add _

theorem ipChecksum_eq {data : List UInt8} (short : data.length ≤ 65535) :
    ipChecksum data = Tunio.ipChecksum data := by
  unfold ipChecksum Tunio.ipChecksum
  rw [checksumFold_eq, checksumSumSse2_toNat short, Tunio.checksumSum, Nat.zero_add]

theorem pseudoTotal_bound (family : UInt8) (srcIp dstIp : Vector UInt8 16) (protocol : UInt8)
    {segment : List UInt8} (short : segment.length ≤ 65535) :
    pseudoTotal family srcIp dstIp protocol segment < 2 ^ 32 := by
  have address (a : Vector UInt8 16) :
      OnesComplement.sum (a.toList.take (addrLen family)) ≤ 65535 * 8 := by
    have bound := OnesComplement.sum_le (a.toList.take (addrLen family))
    have length : (a.toList.take (addrLen family)).length ≤ 16 := by
      rw [List.length_take, Vector.length_toList]
      exact Nat.min_le_right _ _
    omega
  have src := address srcIp
  have dst := address dstIp
  have number := protocol.toNat_lt
  have bound := sum_bound short
  unfold pseudoTotal
  omega

theorem tcpUdpChecksum_eq (family : UInt8) (srcIp dstIp : Vector UInt8 16) (protocol : UInt8)
    {segment : List UInt8} (short : segment.length ≤ 65535) :
    tcpUdpChecksum family srcIp dstIp protocol segment =
      Tunio.tcpUdpChecksum family srcIp dstIp protocol segment := by
  have bound := sum_bound short
  obtain ⟨r, ran, value⟩ := sse2Sum_exact segment
    (show (0 : UInt32).toNat + OnesComplement.sum segment < 2 ^ 32 by
      change 0 + _ < _
      omega)
  obtain ⟨total, summed, totalValue⟩ := pseudoSum_exact
    (show ∃ r, sse2Sum addExact segment 0 = some r ∧ r.toNat = OnesComplement.sum segment from
      ⟨r, ran, value.trans (Nat.zero_add _)⟩)
    (pseudoTotal_bound family srcIp dstIp protocol short)
  unfold tcpUdpChecksum
  rw [pseudoSum_agrees family srcIp dstIp protocol segment total summed, checksumFold_eq, totalValue]
  unfold Tunio.tcpUdpChecksum Tunio.checksumSum pseudoTotal
  dsimp only
  rw [Nat.zero_add]

/-! The header checksum. -/

/-- Away from the word at 10 the loop adds what is there. -/
theorem ipv4Words_toNat {i : Nat} {bytes : List UInt8} {sum : UInt32}
    (even : bytes.length % 2 = 0) (away : 10 < i ∨ i + bytes.length ≤ 10)
    (fits : sum.toNat + OnesComplement.sum bytes < 2 ^ 32) :
    (ipv4Words i bytes sum).toNat = sum.toNat + OnesComplement.sum bytes := by
  induction bytes using OnesComplement.sum.induct generalizing i sum with
  | case1 => rfl
  | case2 last => cases even
  | case3 high low rest ih =>
      simp only [List.length_cons] at even away
      unfold OnesComplement.sum at fits ⊢
      have other : ¬i = 10 := by omega
      have small : sum.toNat + (high.toNat * 256 + low.toNat) < 2 ^ 32 :=
        Nat.lt_of_le_of_lt (Nat.add_le_add_left (Nat.le_add_right _ _) _) fits
      have away' : 10 < i + 2 ∨ i + 2 + rest.length ≤ 10 := by omega
      have even' : rest.length % 2 = 0 := by omega
      have added : (sum + ((high.toUInt16 <<< 8) ||| low.toUInt16).toUInt32).toNat =
          sum.toNat + (high.toNat * 256 + low.toNat) := by
        rw [UInt32.toNat_add, word_value]
        exact Nat.mod_eq_of_lt small
      have later := ih even' away'
        (show (sum + ((high.toUInt16 <<< 8) ||| low.toUInt16).toUInt32).toNat +
          OnesComplement.sum rest < 2 ^ 32 by
            rw [added]
            omega)
      unfold ipv4Words
      dsimp only
      rw [if_neg other, later, added]
      omega

theorem ipv4Words_append (front rest : List UInt8) (i : Nat) (sum : UInt32)
    (even : front.length % 2 = 0) :
    ipv4Words i (front ++ rest) sum = ipv4Words (i + front.length) rest (ipv4Words i front sum) := by
  induction front using OnesComplement.sum.induct generalizing i sum with
  | case1 => rfl
  | case2 last => cases even
  | case3 high low front ih =>
      simp only [List.length_cons] at even
      simp only [List.cons_append, ipv4Words, List.length_cons]
      rw [ih _ _ (by omega)]
      congr 1
      omega

/-- The checksum of a header does not look at the one that is there. -/
theorem ipv4Checksum_eq (front rest : List UInt8) (high low : UInt8) (length : front.length = 10)
    (even : rest.length % 2 = 0) (short : rest.length ≤ 65523) :
    ipv4Checksum (front ++ high :: low :: rest) =
      Tunio.checksumFold (OnesComplement.sum front + OnesComplement.sum rest) := by
  have frontBound := OnesComplement.sum_le front
  have restBound := OnesComplement.sum_le rest
  have before : (ipv4Words 0 front 0).toNat = OnesComplement.sum front := by
    refine (ipv4Words_toNat (by omega) (Or.inr (by omega)) ?_).trans (Nat.zero_add _)
    change 0 + _ < _
    omega
  have skipped : ipv4Words 10 (high :: low :: rest) (ipv4Words 0 front 0) =
      ipv4Words 12 rest (ipv4Words 0 front 0) := by
    rw [ipv4Words, if_pos rfl]
    congr 1
    exact UInt32.add_zero _
  have after : (ipv4Words 12 rest (ipv4Words 0 front 0)).toNat =
      OnesComplement.sum front + OnesComplement.sum rest := by
    rw [ipv4Words_toNat even (Or.inl (by decide)) (by omega), before]
  unfold ipv4Checksum
  rw [checksumFold_eq, ipv4Words_append _ _ _ _ (by omega), length, Nat.zero_add, skipped, after]

/-! The properties. -/

/-- Both versions of `checksum_sum` give the sum of the words, and no addition overflows. -/
def SumsAlike (data : List UInt8) : Prop :=
  ∃ sum : UInt32, sse2Sum addExact data 0 = some sum ∧ scalarSum addExact data 0 = some sum ∧
    checksumSumSse2 data 0 = sum ∧ checksumSum data 0 = sum ∧ sum.toNat = OnesComplement.sum data

/-- Neither does the sum with a pseudo header, with either version. -/
def PseudoSumsAlike (family : UInt8) (srcIp dstIp : Vector UInt8 16) (protocol : UInt8)
    (segment : List UInt8) : Prop :=
  ∃ sum : UInt32, pseudoSum addExact (sse2Sum addExact) family srcIp dstIp protocol segment = some sum ∧
    pseudoSum addExact (scalarSum addExact) family srcIp dstIp protocol segment = some sum ∧
    tcpUdpChecksum family srcIp dstIp protocol segment = checksumFold sum

/-- Where the checksum of a TCP, UDP or ICMPv6 header stands. -/
def checksumField (protocol : UInt8) : Nat :=
  if protocol = ipProtocolTcp then 16 else if protocol = ipProtocolUdp then 6 else 2

/-- The checksum as it is sent. -/
def sentChecksum (protocol : UInt8) (csum : UInt16) : UInt16 :=
  if protocol = ipProtocolUdp ∧ csum = 0 then 0xffff else csum

theorem sums_alike {data : List UInt8} (short : data.length ≤ 65535) : SumsAlike data := by
  have bound := sum_bound short
  have fits : (0 : UInt32).toNat + OnesComplement.sum data < 2 ^ 32 := by
    change 0 + _ < _
    omega
  obtain ⟨r, ran, value⟩ := sse2Sum_exact data fits
  obtain ⟨plain, plainRan, plainValue⟩ := scalarSum_exact data fits
  have same : plain = r := UInt32.toNat_inj.mp (plainValue.trans value.symm)
  subst same
  exact ⟨plain, ran, plainRan, sse2Sum_agrees data 0 plain ran, scalarSum_agrees data 0 plain plainRan,
    value.trans (Nat.zero_add _)⟩

theorem pseudoSums_alike (family : UInt8) (srcIp dstIp : Vector UInt8 16) (protocol : UInt8)
    {segment : List UInt8} (short : segment.length ≤ 65535) :
    PseudoSumsAlike family srcIp dstIp protocol segment := by
  obtain ⟨sum, ran, plainRan, _, _, value⟩ := sums_alike short
  have bound := pseudoTotal_bound family srcIp dstIp protocol short
  obtain ⟨r, total, totalValue⟩ := pseudoSum_exact ⟨sum, ran, value⟩ bound
  obtain ⟨plain, plainTotal, plainValue⟩ := pseudoSum_exact ⟨sum, plainRan, value⟩ bound
  have same : plain = r := UInt32.toNat_inj.mp (plainValue.trans totalValue.symm)
  subst same
  refine ⟨plain, total, plainTotal, ?_⟩
  unfold tcpUdpChecksum
  rw [pseudoSum_agrees family srcIp dstIp protocol segment plain total]

theorem ipChecksum_internet {data : List UInt8} (short : data.length ≤ 65535) :
    ipChecksum data = OnesComplement.internetChecksum data := by
  have bound := sum_bound short
  rw [ipChecksum_eq short, Tunio.ipChecksum, Tunio.checksumSum, Nat.zero_add]
  exact OnesComplement.complement_fold (by omega)

/-- A header verifies with its own checksum in it. -/
theorem ipv4Checksum_verifies {header : List UInt8} (long : 12 ≤ header.length)
    (even : header.length % 2 = 0) (short : header.length ≤ 65535) :
    verifyIpv4Checksum (write header 10 (ofWord (ipv4Checksum header))) = 0 := by
  have front : (header.take 10).length = 10 := by
    rw [List.length_take]
    omega
  have rest : (header.drop 12).length = header.length - 12 := List.length_drop
  have split : header = header.take 10 ++ header[10] :: header[11] :: header.drop 12 := by
    have first : header.drop 10 = header[10] :: header.drop 11 := List.drop_eq_getElem_cons _
    have second : header.drop 11 = header[11] :: header.drop 12 := List.drop_eq_getElem_cons _
    rw [← second, ← first, List.take_append_drop]
  have checksum : ipv4Checksum header = Tunio.checksumFold
      (OnesComplement.sum (header.take 10) + OnesComplement.sum (header.drop 12)) := by
    nth_rewrite 1 [split]
    exact ipv4Checksum_eq _ _ _ _ front (by omega) (by omega)
  obtain ⟨total, bound, eq⟩ := ipChecksum_word (header.take 10) (header.drop 12) (by omega) (by omega)
  have written : write header 10 (ofWord (ipv4Checksum header)) =
      header.take 10 ++ (ofWord (ipv4Checksum header) ++ header.drop 12) := List.append_assoc _ _ _
  have length : (write header 10 (ofWord (ipv4Checksum header))).length = header.length :=
    write_length header _ (by rw [ofWord_length]; omega)
  have zeroed := eq 0
  rw [Tunio.ipChecksum, Tunio.checksumSum, OnesComplement.sum_append _ _ (by omega),
    OnesComplement.sum_word] at zeroed
  change Tunio.checksumFold (0 + (_ + (0 + _))) = OnesComplement.complement
    (OnesComplement.fold 2 (total + 0)) at zeroed
  rw [Nat.zero_add, Nat.zero_add, Nat.add_zero] at zeroed
  change ipChecksum _ = 0
  rw [ipChecksum_eq (length ▸ short), written, eq, checksum, zeroed]
  exact OnesComplement.verifies bound

/-- A segment verifies with the checksum that was computed with zeros in its place. -/
theorem tcpUdpChecksum_verifies (family : UInt8) (srcIp dstIp : Vector UInt8 16) (protocol : UInt8)
    {segment : List UInt8} (short : segment.length ≤ 65535)
    (room : checksumField protocol + 2 ≤ segment.length) :
    tcpUdpChecksum family srcIp dstIp protocol (write segment (checksumField protocol)
      (ofWord (sentChecksum protocol (tcpUdpChecksum family srcIp dstIp protocol
        (write segment (checksumField protocol) [0, 0]))))) = 0 := by
  have field : checksumField protocol % 2 = 0 := by
    unfold checksumField
    split
    · rfl
    · split <;> rfl
  generalize checksumField protocol = offset at field room ⊢
  have front : (segment.take offset).length = offset := by
    rw [List.length_take]
    omega
  have rest : (segment.drop (offset + 2)).length = segment.length - (offset + 2) := List.length_drop
  obtain ⟨total, bound, eq⟩ := tcpUdpChecksum_word family srcIp dstIp protocol (segment.take offset)
    (segment.drop (offset + 2)) (by omega) (by omega)
  have written (checksum : UInt16) : tcpUdpChecksum family srcIp dstIp protocol
      (write segment offset (ofWord checksum)) =
        OnesComplement.complement (OnesComplement.fold 2 (total + checksum.toNat)) := by
    have length : (write segment offset (ofWord checksum)).length = segment.length :=
      write_length segment _ room
    rw [tcpUdpChecksum_eq family srcIp dstIp protocol (length ▸ short), ← eq checksum]
    exact congrArg _ (List.append_assoc _ _ _)
  have zeroed : tcpUdpChecksum family srcIp dstIp protocol (write segment offset [0, 0]) =
      OnesComplement.complement (OnesComplement.fold 2 total) := written 0
  rw [written, zeroed]
  unfold sentChecksum
  split
  · rename_i ones
    exact OnesComplement.verifies_ones bound ones.2
  · exact OnesComplement.verifies bound

theorem ipChecksum_verifies {message : List UInt8} (short : message.length ≤ 65535)
    (room : 4 ≤ message.length) :
    ipChecksum (write message 2 (ofWord (ipChecksum (write message 2 [0, 0])))) = 0 := by
  have front : (message.take 2).length = 2 := by
    rw [List.length_take]
    omega
  have rest : (message.drop 4).length = message.length - 4 := List.length_drop
  obtain ⟨total, bound, eq⟩ := ipChecksum_word (message.take 2) (message.drop 4) (by omega) (by omega)
  have written (checksum : UInt16) : ipChecksum (write message 2 (ofWord checksum)) =
      OnesComplement.complement (OnesComplement.fold 2 (total + checksum.toNat)) := by
    have length : (write message 2 (ofWord checksum)).length = message.length :=
      write_length message _ room
    rw [ipChecksum_eq (length ▸ short), ← eq checksum]
    exact congrArg _ (List.append_assoc _ _ _)
  have zeroed : ipChecksum (write message 2 [0, 0]) =
      OnesComplement.complement (OnesComplement.fold 2 total) := written 0
  rw [written, zeroed]
  exact OnesComplement.verifies bound

/-- The two versions of the sum agree without an overflow, the checksum is the Internet checksum, and
what carries its own checksum verifies. -/
theorem checksums_hold :
    (∀ data : List UInt8, data.length ≤ 65535 →
      SumsAlike data ∧ ipChecksum data = OnesComplement.internetChecksum data) ∧
    (∀ header : List UInt8, 20 ≤ header.length → header.length ≤ 60 → header.length % 4 = 0 →
      verifyIpv4Checksum (write header 10 (ofWord (ipv4Checksum header))) = 0) ∧
    (∀ (family : UInt8) (srcIp dstIp : Vector UInt8 16) (protocol : UInt8) (segment : List UInt8),
      segment.length ≤ 65535 →
        PseudoSumsAlike family srcIp dstIp protocol segment ∧
        (checksumField protocol + 2 ≤ segment.length →
          tcpUdpChecksum family srcIp dstIp protocol (write segment (checksumField protocol)
            (ofWord (sentChecksum protocol (tcpUdpChecksum family srcIp dstIp protocol
              (write segment (checksumField protocol) [0, 0]))))) = 0)) ∧
    ∀ message : List UInt8, message.length ≤ 65535 → 4 ≤ message.length →
      ipChecksum (write message 2 (ofWord (ipChecksum (write message 2 [0, 0])))) = 0 := by
  refine ⟨fun data short => ⟨sums_alike short, ipChecksum_internet short⟩, ?_, ?_, ?_⟩
  · intro header least most words
    exact ipv4Checksum_verifies (by omega) (by omega) (by omega)
  · intro family srcIp dstIp protocol segment short
    exact ⟨pseudoSums_alike family srcIp dstIp protocol short,
      tcpUdpChecksum_verifies family srcIp dstIp protocol short⟩
  · exact fun message short room => ipChecksum_verifies short room

end Checksum32

end Tunio
