import Tunio.Slice
import Tunio.Reorder

/-!
The out-of-order cache against the stream of the peer.  Every cached segment is a slice
of the stream beyond a reference position, a cached FIN stands at its end, and no two
segments overlap; trimming, inserting and merging keep it so.
-/

namespace Tunio

open Serial Slices

section

variable {stream : List UInt8} {ends : Bool} {base : UInt32} {ref : Nat} {cache : OooCache}

/-- What may be cached at a position. -/
structure Slot (stream : List UInt8) (ends : Bool) (ref start : Nat) (seg : OooSegment) : Prop where
  beyond : ref < start
  near : start + seg.data.length < ref + 2 ^ 31
  slice : Slice stream start seg.data
  fin : seg.fin = true → ends = true ∧ start + seg.data.length = stream.length
  bare : seg.data.length = 0 → seg.fin = true

structure CacheOk (stream : List UInt8) (ends : Bool) (base : UInt32) (ref : Nat)
    (cache : OooCache) : Prop where
  slot : ∀ (key : UInt32) (seg : OooSegment), cache[key]? = some seg →
    Slot stream ends ref (above base ref key) seg
  apart : ∀ (key : UInt32) (seg : OooSegment) (key' : UInt32) (seg' : OooSegment),
    cache[key]? = some seg → cache[key']? = some seg' → key ≠ key' →
      Apart (above base ref key) seg.data.length (above base ref key') seg'.data.length

theorem CacheOk.empty : CacheOk stream ends base ref ∅ :=
  ⟨fun key seg found => by simp at found, fun key seg _ _ found => by simp at found⟩

theorem insert_lookup {key other : UInt32} {seg found : OooSegment}
    (lookup : (cache.insert key seg)[other]? = some found) :
    (other = key ∧ found = seg) ∨ (other ≠ key ∧ cache[other]? = some found) := by
  rw [Std.TreeMap.getElem?_insert] at lookup
  split at lookup
  · rename_i same
    exact Or.inl ⟨(Std.LawfulEqCmp.eq_of_compare same).symm, (Option.some.inj lookup).symm⟩
  · rename_i differ
    exact Or.inr ⟨fun same => differ (by simp [same]), lookup⟩

theorem insertIfNew_lookup {key other : UInt32} {seg found : OooSegment}
    (lookup : (cache.insertIfNew key seg)[other]? = some found) :
    (other = key ∧ found = seg) ∨ cache[other]? = some found := by
  rw [Std.TreeMap.getElem?_insertIfNew] at lookup
  split at lookup
  · rename_i same
    exact Or.inl ⟨(Std.LawfulEqCmp.eq_of_compare same.1).symm, (Option.some.inj lookup).symm⟩
  · exact Or.inr lookup

theorem erase_lookup {key other : UInt32} {found : OooSegment}
    (lookup : (cache.erase key)[other]? = some found) :
    other ≠ key ∧ cache[other]? = some found := by
  rw [Std.TreeMap.getElem?_erase] at lookup
  split at lookup
  · cases lookup
  · rename_i differ
    exact ⟨fun same => differ (by simp [same]), lookup⟩

theorem CacheOk.erase (ok : CacheOk stream ends base ref cache) (gone : UInt32) :
    CacheOk stream ends base ref (cache.erase gone) :=
  ⟨fun key seg found => ok.slot key seg (erase_lookup found).2,
    fun key seg key' seg' found found' =>
      ok.apart key seg key' seg' (erase_lookup found).2 (erase_lookup found').2⟩

/-- Adding one entry to a cache, in whatever way it is looked up afterwards. -/
theorem CacheOk.add {cache' : OooCache} (ok : CacheOk stream ends base ref cache) (key : UInt32)
    (seg : OooSegment) (slot : Slot stream ends ref (above base ref key) seg)
    (apart : ∀ (other : UInt32) (old : OooSegment), other ≠ key → cache[other]? = some old →
      Apart (above base ref key) seg.data.length (above base ref other) old.data.length)
    (lookup : ∀ (other : UInt32) (found : OooSegment), cache'[other]? = some found →
      (other = key ∧ found = seg) ∨ cache[other]? = some found) :
    CacheOk stream ends base ref cache' := by
  refine ⟨?_, ?_⟩
  · intro other found present
    rcases lookup other found present with ⟨rfl, rfl⟩ | old
    · exact slot
    · exact ok.slot other found old
  · intro left leftSeg right rightSeg leftPresent rightPresent differ
    rcases lookup left leftSeg leftPresent with ⟨rfl, rfl⟩ | leftOld
    · rcases lookup right rightSeg rightPresent with ⟨rfl, rfl⟩ | rightOld
      · exact absurd rfl differ
      · exact apart right rightSeg (Ne.symm differ) rightOld
    · rcases lookup right rightSeg rightPresent with ⟨rfl, rfl⟩ | rightOld
      · exact (apart left leftSeg differ leftOld).symm
      · exact ok.apart left leftSeg right rightSeg leftOld rightOld differ

theorem CacheOk.insert (ok : CacheOk stream ends base ref cache) (key : UInt32) (seg : OooSegment)
    (slot : Slot stream ends ref (above base ref key) seg)
    (apart : ∀ (other : UInt32) (old : OooSegment), other ≠ key → cache[other]? = some old →
      Apart (above base ref key) seg.data.length (above base ref other) old.data.length) :
    CacheOk stream ends base ref (cache.insert key seg) :=
  ok.add key seg slot apart fun _ _ present => (insert_lookup present).imp_right And.right

theorem CacheOk.insertIfNew (ok : CacheOk stream ends base ref cache) (key : UInt32)
    (seg : OooSegment) (slot : Slot stream ends ref (above base ref key) seg)
    (apart : ∀ (other : UInt32) (old : OooSegment), other ≠ key → cache[other]? = some old →
      Apart (above base ref key) seg.data.length (above base ref other) old.data.length) :
    CacheOk stream ends base ref (cache.insertIfNew key seg) :=
  ok.add key seg slot apart fun _ _ present => insertIfNew_lookup present

/-- An entry may be replaced by one that takes no more room. -/
theorem CacheOk.replace (ok : CacheOk stream ends base ref cache) (key : UInt32)
    (old seg : OooSegment) (present : cache[key]? = some old)
    (slot : Slot stream ends ref (above base ref key) seg)
    (shorter : seg.data.length ≤ old.data.length) :
    CacheOk stream ends base ref (cache.insert key seg) := by
  refine ok.insert key seg slot ?_
  intro other found differ lookup
  exact (ok.apart key old other found present lookup (Ne.symm differ)).mono (by omega) (by omega)

/-- An entry may be marked as the last one when it ends where the stream does. -/
theorem CacheOk.markFin (ok : CacheOk stream ends base ref cache) (key : UInt32)
    (old : OooSegment) (present : cache[key]? = some old) (finished : ends = true)
    (last : above base ref key + old.data.length = stream.length) :
    CacheOk stream ends base ref (cache.modify key fun old => { old with fin := true }) := by
  have slot := ok.slot key old present
  refine ok.add key { old with fin := true }
    ⟨slot.beyond, slot.near, slot.slice, fun _ => ⟨finished, last⟩, fun _ => rfl⟩ ?_ ?_
  · intro other found differ lookup
    exact ok.apart key old other found present lookup (Ne.symm differ)
  · intro other found lookup
    rw [Std.TreeMap.getElem?_modify] at lookup
    split at lookup
    · rename_i same
      rw [present] at lookup
      exact Or.inl ⟨(Std.LawfulEqCmp.eq_of_compare same).symm, (Option.some.inj lookup).symm⟩
    · exact Or.inr lookup

/-! Positions in place of sequence numbers. -/

theorem oooOffset_num (base : UInt32) (left right : Nat) (lower : right ≤ left + 2 ^ 31)
    (upper : left < right + 2 ^ 31) :
    oooOffset (num base right) (num base left) = (left : Int) - right :=
  signed_num_sub base left right lower upper

/-- The offset of a cached segment from a new one. -/
theorem CacheOk.offset (ok : CacheOk stream ends base ref cache) {key : UInt32} {seg : OooSegment}
    (present : cache[key]? = some seg) (start : Nat) (beyond : ref < start)
    (near : start < ref + 2 ^ 31) :
    oooOffset (num base start) key = (above base ref key : Int) - start := by
  have slot := ok.slot key seg present
  have slotBeyond := slot.beyond
  have slotNear := slot.near
  conv_lhs => rw [← num_above base ref key]
  exact oooOffset_num base _ _ (by omega) (by omega)

theorem CacheOk.length_le (ok : CacheOk stream ends base ref cache) {key : UInt32}
    {seg : OooSegment} (present : cache[key]? = some seg) :
    above base ref key + seg.data.length ≤ stream.length :=
  (ok.slot key seg present).slice.bound

/-! A FIN without data. -/

theorem scanFin_mark (seq : UInt32) (entries : List (UInt32 × OooSegment)) (key : UInt32)
    (scan : scanFin seq entries = .mark key) :
    ∃ old, (key, old) ∈ entries ∧ oooOffset seq key + old.data.length = 0 := by
  induction entries with
  | nil => simp [scanFin] at scan
  | cons entry rest ih =>
      obtain ⟨first, old⟩ := entry
      simp only [scanFin] at scan
      split at scan
      · rename_i stop
        split at scan
        · cases scan
        · cases scan
          exact ⟨old, List.mem_cons_self, stop⟩
      · split at scan
        · cases scan
        · obtain ⟨found, member, stop⟩ := ih scan
          exact ⟨found, List.mem_cons_of_mem _ member, stop⟩

theorem appendFin_ok (c : Conn) (start : Nat) (ok : CacheOk stream ends base ref c.flow.oooCache)
    (beyond : ref < start) (near : start < ref + 2 ^ 31) (finished : ends = true)
    (last : start = stream.length) :
    CacheOk stream ends base ref (appendFin c (num base start)).1.flow.oooCache := by
  unfold appendFin
  split
  · exact ok
  · rename_i key scan
    obtain ⟨old, member, stop⟩ := scanFin_mark _ _ _ scan
    have present := Std.TreeMap.mem_toList_iff_getElem?_eq_some.mp member
    rw [ok.offset present start beyond near] at stop
    exact ok.markFin key old present finished (by omega)
  · split
    · exact ok
    · have position : above base ref (num base start) = start :=
        above_num base ref start (by omega) (by omega)
      refine ok.insertIfNew (num base start) { data := [], fin := true } ?_ ?_
      · rw [position]
        refine ⟨beyond, by simpa using near, Slice.nil start (by omega), ?_, fun _ => rfl⟩
        exact fun _ => ⟨finished, by simpa using last⟩
      · intro other old _ lookup
        have bound := ok.length_le lookup
        rw [position]
        exact Or.inr (by omega)

/-! Cutting the cached segments back to what a new segment leaves of them. -/

/-- The part of a cached segment in front of `start`. -/
theorem Slot.front {position start : Nat} {old : OooSegment}
    (slot : Slot stream ends ref position old) (before : position < start)
    (reaches : start < position + old.data.length) :
    Slot stream ends ref position { data := old.data.take (start - position), fin := false } := by
  have near := slot.near
  refine ⟨slot.beyond, ?_, slot.slice.take _, by simp, ?_⟩
  · simp only [List.length_take]
    omega
  · simp only [List.length_take]
    omega

/-- The part of a cached segment from `stop` on. -/
theorem Slot.behind {position stop : Nat} {old : OooSegment}
    (slot : Slot stream ends ref position old) (beyond : ref < stop) (before : position ≤ stop)
    (reaches : stop < position + old.data.length) :
    Slot stream ends ref stop { old with data := old.data.drop (stop - position) } := by
  have near := slot.near
  have cut := slot.slice.drop (stop - position) (by omega)
  have moved : position + (stop - position) = stop := by omega
  rw [moved] at cut
  refine ⟨beyond, ?_, cut, ?_, ?_⟩
  · simp only [List.length_drop]
    omega
  · intro fin
    have last := slot.fin fin
    simp only [List.length_drop]
    exact ⟨last.1, by omega⟩
  · simp only [List.length_drop]
    omega

/-- `after` is a cache in which nothing that was under `key` overlaps the new segment. -/
structure Cut (stream : List UInt8) (ends : Bool) (base : UInt32) (ref start len : Nat)
    (before after : OooCache) (key : UInt32) : Prop where
  ok : CacheOk stream ends base ref after
  clear : ∀ (other : UInt32) (found : OooSegment), after[other]? = some found →
    Apart (above base ref other) found.data.length start len ∨
      (before[other]? = some found ∧ other ≠ key)

theorem Cut.untouched {start len : Nat} {key : UInt32} (ok : CacheOk stream ends base ref cache)
    (clear : ∀ old, cache[key]? = some old →
      Apart (above base ref key) old.data.length start len) :
    Cut stream ends base ref start len cache cache key := by
  refine ⟨ok, fun other found lookup => ?_⟩
  by_cases same : other = key
  · subst same
    exact Or.inl (clear found lookup)
  · exact Or.inr ⟨lookup, same⟩

theorem Cut.erase {key : UInt32} (ok : CacheOk stream ends base ref cache) (start len : Nat) :
    Cut stream ends base ref start len cache (cache.erase key) key :=
  ⟨ok.erase key, fun _ _ lookup => Or.inr (erase_lookup lookup).symm⟩

theorem front_lookup {start : Nat} {key other : UInt32} {old found : OooSegment}
    (before : above base ref key < start) (reaches : start < above base ref key + old.data.length)
    (lookup : (cache.insert key { data := old.data.take (start - above base ref key), fin := false }
      )[other]? = some found) :
    above base ref other + found.data.length ≤ start ∨ (cache[other]? = some found ∧ other ≠ key) := by
  rcases insert_lookup lookup with ⟨rfl, rfl⟩ | ⟨differ, kept⟩
  · refine Or.inl ?_
    simp only [List.length_take]
    omega
  · exact Or.inr ⟨kept, differ⟩

theorem CacheOk.keepFront {start : Nat} {key : UInt32} {old : OooSegment}
    (ok : CacheOk stream ends base ref cache) (present : cache[key]? = some old)
    (before : above base ref key < start) (reaches : start < above base ref key + old.data.length) :
    CacheOk stream ends base ref
      (cache.insert key { data := old.data.take (start - above base ref key), fin := false }) := by
  refine ok.replace key old _ present ((ok.slot key old present).front before reaches) ?_
  simp only [List.length_take]
  omega

theorem Cut.keepFront {start : Nat} {key : UInt32} {old : OooSegment}
    (ok : CacheOk stream ends base ref cache) (present : cache[key]? = some old)
    (before : above base ref key < start) (reaches : start < above base ref key + old.data.length)
    (len : Nat) :
    Cut stream ends base ref start len cache
      (cache.insert key { data := old.data.take (start - above base ref key), fin := false })
      key :=
  ⟨ok.keepFront present before reaches, fun _ _ lookup => (front_lookup before reaches lookup).imp_left Or.inl⟩

/-- The part behind the new segment moves to the end of the new segment; `after` holds
what is left of the cache in front of it. -/
theorem Cut.keepBehind {start len : Nat} {key : UInt32} {old : OooSegment} {after : OooCache}
    (ok : CacheOk stream ends base ref cache) (present : cache[key]? = some old)
    (okAfter : CacheOk stream ends base ref after)
    (origin : ∀ (other : UInt32) (found : OooSegment), after[other]? = some found →
      above base ref other + found.data.length ≤ start ∨
        (cache[other]? = some found ∧ other ≠ key))
    (beyond : ref < start) (near : start + len < ref + 2 ^ 31)
    (before : above base ref key ≤ start + len)
    (reaches : start + len < above base ref key + old.data.length) :
    Cut stream ends base ref start len cache
      (after.insertIfNew (num base (start + len))
        { old with data := old.data.drop (start + len - above base ref key) }) key := by
  have position : above base ref (num base (start + len)) = start + len :=
    above_num base ref _ (by omega) (by omega)
  have length : (old.data.drop (start + len - above base ref key)).length =
      above base ref key + old.data.length - (start + len) := by
    rw [List.length_drop]
    omega
  refine ⟨okAfter.insertIfNew _ _ ?_ ?_, ?_⟩
  · rw [position]
    exact (ok.slot key old present).behind (by omega) before reaches
  · intro other found _ lookup
    rw [position, length]
    rcases origin other found lookup with front | ⟨kept, differ⟩
    · exact Or.inr (by omega)
    · exact (ok.apart key old other found present kept (Ne.symm differ)).mono before (by omega)
  · intro other found lookup
    rcases insertIfNew_lookup lookup with ⟨rfl, rfl⟩ | kept
    · exact Or.inl (Or.inr (Nat.le_of_eq position.symm))
    · exact (origin other found kept).imp_left Or.inl

theorem trimStep_cut {start len : Nat} (ok : CacheOk stream ends base ref cache)
    (beyond : ref < start) (near : start + len < ref + 2 ^ 31)
    (inside : start + len ≤ stream.length) (filled : 0 < len) (key : UInt32) :
    Cut stream ends base ref start len cache (trimStep (num base start) len cache key) key := by
  unfold trimStep
  split
  · rename_i absent
    exact Cut.untouched ok fun old present => by simp [absent] at present
  · rename_i old present
    have slot := ok.slot key old present
    have bare := slot.bare
    have last := slot.fin
    dsimp only
    rw [ok.offset present start beyond (by omega), ← num_add]
    have frontLength : (-((above base ref key : Int) - start)).toNat =
        start - above base ref key := by omega
    have behindLength : ((len : Int) - ((above base ref key : Int) - start)).toNat =
        start + len - above base ref key := by omega
    rw [frontLength, behindLength]
    split
    · rename_i untouched
      refine Cut.untouched ok fun found lookup => ?_
      obtain rfl := Option.some.inj (present.symm.trans lookup)
      unfold Apart
      by_cases empty : old.data.length = 0
      · have atEnd := (last (bare empty)).2
        omega
      · omega
    · rename_i touched
      have overlaps : above base ref key < start + len ∧
          start < above base ref key + old.data.length := by
        by_cases empty : old.data.length = 0
        · have atEnd := (last (bare empty)).2
          omega
        · omega
      split
      · rename_i both
        exact Cut.keepBehind ok present (ok.keepFront present (by omega) (by omega))
          (fun _ _ lookup => front_lookup (by omega) (by omega) lookup) beyond near (by omega)
          (by omega)
      · split
        · exact Cut.keepFront ok present (by omega) (by omega) len
        · split
          · exact Cut.keepBehind ok present (ok.erase key)
              (fun _ _ lookup => Or.inr (erase_lookup lookup).symm) beyond near (by omega)
              (by omega)
          · exact Cut.erase ok start len

theorem trimOoo_cut {start len : Nat} (ok : CacheOk stream ends base ref cache)
    (beyond : ref < start) (near : start + len < ref + 2 ^ 31)
    (inside : start + len ≤ stream.length) (filled : 0 < len) :
    CacheOk stream ends base ref (trimOoo (num base start) len cache) ∧
      ∀ (key : UInt32) (seg : OooSegment), (trimOoo (num base start) len cache)[key]? = some seg →
        Apart (above base ref key) seg.data.length start len := by
  -- an entry overlaps the new segment only while its key is still to come
  have fold (keys : List UInt32) (cache : OooCache) (ok : CacheOk stream ends base ref cache)
      (pending : ∀ (key : UInt32) (seg : OooSegment), cache[key]? = some seg →
        Apart (above base ref key) seg.data.length start len ∨ key ∈ keys) :
      CacheOk stream ends base ref (keys.foldl (trimStep (num base start) len) cache) ∧
        ∀ (key : UInt32) (seg : OooSegment),
          (keys.foldl (trimStep (num base start) len) cache)[key]? = some seg →
            Apart (above base ref key) seg.data.length start len := by
    induction keys generalizing cache with
    | nil => exact ⟨ok, fun key seg lookup => (pending key seg lookup).resolve_right (by simp)⟩
    | cons first rest ih =>
        have cut := trimStep_cut ok beyond near inside filled first
        refine ih _ cut.ok fun key seg lookup => ?_
        rcases cut.clear key seg lookup with clear | ⟨kept, differ⟩
        · exact Or.inl clear
        · rcases pending key seg kept with clear | member
          · exact Or.inl clear
          · exact Or.inr ((List.mem_cons.mp member).resolve_left differ)
  refine fold cache.keys cache ok fun key seg lookup => Or.inr ?_
  rw [Std.TreeMap.mem_keys, Std.TreeMap.mem_iff_isSome_getElem?, lookup]
  rfl

/-! Joining a segment with the neighbours it touches. -/

theorem segmentEnd_eq (base : UInt32) (ref : Nat) (key : UInt32) (seg : OooSegment) :
    segmentEnd key seg = num base (above base ref key + seg.data.length) := by
  rw [num_add, num_above]
  rfl

/-- Where a cached segment ends, the next one starts. -/
theorem CacheOk.touch (ok : CacheOk stream ends base ref cache) {left right : UInt32}
    {leftSeg rightSeg : OooSegment} (leftPresent : cache[left]? = some leftSeg)
    (rightPresent : cache[right]? = some rightSeg) (touches : segmentEnd left leftSeg = right) :
    above base ref left + leftSeg.data.length = above base ref right := by
  have leftSlot := ok.slot left leftSeg leftPresent
  have rightSlot := ok.slot right rightSeg rightPresent
  have leftBeyond := leftSlot.beyond
  have leftNear := leftSlot.near
  have rightBeyond := rightSlot.beyond
  have rightNear := rightSlot.near
  rw [segmentEnd_eq base ref, ← num_above base ref right] at touches
  exact num_inj base touches (by omega) (by omega)

/-- Two segments that touch become one, under the key of either. -/
theorem CacheOk.join (ok : CacheOk stream ends base ref cache) {left right : UInt32}
    {leftSeg rightSeg : OooSegment} (leftPresent : cache[left]? = some leftSeg)
    (rightPresent : cache[right]? = some rightSeg) (touches : segmentEnd left leftSeg = right) :
    CacheOk stream ends base ref
      ((cache.insert left { data := leftSeg.data ++ rightSeg.data, fin := rightSeg.fin }).erase
        right) := by
  have leftSlot := ok.slot left leftSeg leftPresent
  have rightSlot := ok.slot right rightSeg rightPresent
  have position := ok.touch leftPresent rightPresent touches
  have near := rightSlot.near
  have last := rightSlot.fin
  have bare := rightSlot.bare
  refine (ok.erase right).add left { data := leftSeg.data ++ rightSeg.data, fin := rightSeg.fin }
    ?_ ?_ ?_
  · refine ⟨leftSlot.beyond, ?_, leftSlot.slice.append (position ▸ rightSlot.slice), ?_, ?_⟩
    · simp only [List.length_append]
      omega
    · intro fin
      simp only [List.length_append]
      exact ⟨(last fin).1, by have := (last fin).2; omega⟩
    · simp only [List.length_append]
      exact fun empty => bare (by omega)
  · intro other old notLeft lookup
    obtain ⟨notRight, kept⟩ := erase_lookup lookup
    have fromLeft := ok.apart left leftSeg other old leftPresent kept (Ne.symm notLeft)
    have fromRight := ok.apart right rightSeg other old rightPresent kept (Ne.symm notRight)
    rw [← position] at fromRight
    rw [List.length_append]
    refine fromLeft.join fromRight fun between => notRight ?_
    exact above_inj base ref (between.trans position)
  · intro other found lookup
    obtain ⟨notRight, kept⟩ := erase_lookup lookup
    rcases insert_lookup kept with new | ⟨_, old⟩
    · exact Or.inl new
    · refine Or.inr ?_
      rw [Std.TreeMap.getElem?_erase, if_neg]
      · exact old
      · exact fun same => notRight (Std.LawfulEqCmp.eq_of_compare same).symm

theorem segmentAt_present {key : UInt32} {seg : OooSegment} (present : cache[key]? = some seg) :
    segmentAt cache key = seg := by
  rw [segmentAt, present]
  rfl

theorem leftNeighbour_spec {cur key : UInt32} {left : OooSegment}
    (found : leftNeighbour cache cur = some (key, left)) :
    cache[key]? = some left ∧ key ≠ cur ∧ segmentEnd key left = cur := by
  have member := List.mem_of_find?_eq_some found
  have test := List.find?_some found
  simp only [Bool.and_eq_true, bne_iff_ne, beq_iff_eq] at test
  exact ⟨Std.TreeMap.mem_toList_iff_getElem?_eq_some.mp member, test.1.1, test.2⟩

theorem rightNeighbour_spec {cur key : UInt32} {seg right : OooSegment}
    (present : cache[cur]? = some seg) (found : rightNeighbour cache cur = some (key, right)) :
    cache[key]? = some right ∧ key ≠ cur ∧ segmentEnd cur seg = key := by
  have member := List.mem_of_find?_eq_some found
  have test := List.find?_some found
  rw [segmentAt_present present] at test
  simp only [Bool.and_eq_true, bne_iff_ne, beq_iff_eq] at test
  exact ⟨Std.TreeMap.mem_toList_iff_getElem?_eq_some.mp member, test.1, test.2.symm⟩

theorem mergeOoo_ok (fuel : Nat) (ok : CacheOk stream ends base ref cache) (cur : UInt32)
    (present : ∃ seg, cache[cur]? = some seg) :
    CacheOk stream ends base ref (mergeOoo fuel cache cur) := by
  induction fuel generalizing cache cur with
  | zero => exact ok
  | succ fuel ih =>
      obtain ⟨seg, found⟩ := present
      unfold mergeOoo
      dsimp only
      rw [segmentAt_present found]
      split
      · rename_i key left neighbour
        obtain ⟨leftPresent, differ, touches⟩ := leftNeighbour_spec neighbour
        refine ih (ok.join leftPresent found touches) key
          ⟨{ data := left.data ++ seg.data, fin := seg.fin }, ?_⟩
        rw [Std.TreeMap.getElem?_erase, if_neg, Std.TreeMap.getElem?_insert_self]
        exact fun same => differ (Std.LawfulEqCmp.eq_of_compare same).symm
      · split
        · rename_i key right neighbour
          obtain ⟨rightPresent, differ, touches⟩ := rightNeighbour_spec found neighbour
          have survives (next : OooCache) (kept : ∃ seg, next[cur]? = some seg) :
              ∃ seg, (next.erase key)[cur]? = some seg := by
            obtain ⟨seg, lookup⟩ := kept
            refine ⟨seg, ?_⟩
            rw [Std.TreeMap.getElem?_erase, if_neg]
            · exact lookup
            · exact fun same => differ (Std.LawfulEqCmp.eq_of_compare same)
          split
          · split
            · exact ih (ok.erase key) cur (survives cache ⟨seg, found⟩)
            · exact ok
          · refine ih (ok.join found rightPresent touches) cur (survives _ ?_)
            exact ⟨_, Std.TreeMap.getElem?_insert_self⟩
        · exact ok

/-! Storing a segment with data. -/

theorem storeOoo_ok {start : Nat} (ok : CacheOk stream ends base ref cache)
    (incoming : OooSegment) (slot : Slot stream ends ref start incoming)
    (filled : 0 < incoming.data.length) :
    CacheOk stream ends base ref (storeOoo cache (num base start) incoming) := by
  have near := slot.near
  have position : above base ref (num base start) = start :=
    above_num base ref start (Nat.le_of_lt slot.beyond) (by omega)
  obtain ⟨trimmed, clear⟩ := trimOoo_cut ok slot.beyond near slot.slice.bound filled
  unfold storeOoo
  dsimp only
  refine mergeOoo_ok _ (trimmed.insertIfNew _ incoming ?_ ?_) _ ?_
  · rwa [position]
  · intro other old _ lookup
    rw [position]
    exact (clear other old lookup).symm
  · rw [← Option.isSome_iff_exists, ← Std.TreeMap.mem_iff_isSome_getElem?]
    simp

/-- What the survey says about the end of the new segment. -/
structure SurveyOk (start len : Nat) (stream : List UInt8) (ends : Bool) (base : UInt32)
    (ref : Nat) (cache : OooCache) (survey : OooSurvey) : Prop where
  covered : survey.finCovered = true → ends = true ∧ start + len = stream.length
  extension : ∀ key ∈ survey.finExtension, ∃ old, cache[key]? = some old ∧
    above base ref key + old.data.length = start + len

theorem surveyOoo_ok {start len : Nat} (ok : CacheOk stream ends base ref cache)
    (beyond : ref < start) (near : start + len < ref + 2 ^ 31) :
    SurveyOk start len stream ends base ref cache (surveyOoo (num base start) len cache) := by
  have fold (entries : List (UInt32 × OooSegment)) (survey : OooSurvey)
      (cached : ∀ entry ∈ entries, cache[entry.1]? = some entry.2)
      (good : SurveyOk start len stream ends base ref cache survey) :
      SurveyOk start len stream ends base ref cache
        (entries.foldl (surveyStep (num base start) len) survey) := by
    induction entries generalizing survey with
    | nil => exact good
    | cons entry rest ih =>
        refine ih _ (fun later member => cached later (List.mem_cons_of_mem _ member)) ?_
        have present := cached entry List.mem_cons_self
        have last := (ok.slot entry.1 entry.2 present).fin
        unfold surveyStep
        dsimp only
        rw [ok.offset present start beyond (by omega)]
        refine ⟨?_, ?_⟩
        · repeat' split
          all_goals first
            | exact good.covered
            | exact fun _ => ⟨(last (by assumption)).1, by have := (last (by assumption)).2; omega⟩
        · repeat' split
          all_goals first
            | exact good.extension
            | exact fun key same => ⟨entry.2, by
                obtain rfl := Option.some.inj same
                exact ⟨present, by omega⟩⟩
  refine fold _ {} (fun entry member => Std.TreeMap.mem_toList_iff_getElem?_eq_some.mp member) ?_
  exact ⟨fun covered => by simp at covered, fun key same => by simp at same⟩

theorem appendData_ok (c : Conn) (start : Nat) (data : List UInt8) (fin : Bool)
    (ok : CacheOk stream ends base ref c.flow.oooCache) (beyond : ref < start)
    (near : start + data.length < ref + 2 ^ 31) (slice : Slice stream start data)
    (filled : 0 < data.length)
    (last : fin = true → ends = true ∧ start + data.length = stream.length) :
    CacheOk stream ends base ref (appendData c (num base start) data fin).1.flow.oooCache := by
  have survey : SurveyOk start data.length stream ends base ref c.flow.oooCache
      (surveyOoo (num base start) data.length c.flow.oooCache) := surveyOoo_ok ok beyond near
  unfold appendData
  dsimp only
  split
  · split
    · exact ok
    · rename_i notCovered
      split
      · exact ok
      · rename_i key extension
        obtain ⟨old, present, stop⟩ := survey.extension key extension
        have isFin : fin = true := by
          cases fin with
          | false => simp at notCovered
          | true => rfl
        exact ok.markFin key old present (last isFin).1 (stop.trans (last isFin).2)
  · split
    · exact ok
    · refine storeOoo_ok ok _ ⟨beyond, near, slice, ?_, fun empty => ?_⟩ filled
      · intro marked
        rcases Bool.or_eq_true _ _ ▸ marked with isFin | covered
        · exact last isFin
        · exact survey.covered covered
      · exact absurd empty (by simpa using Nat.ne_of_gt filled)

theorem oooAppend_ok (c : Conn) (start : Nat) (data : List UInt8) (fin : Bool)
    (ok : CacheOk stream ends base ref c.flow.oooCache) (beyond : ref < start)
    (near : start + data.length < ref + 2 ^ 31) (slice : Slice stream start data)
    (last : fin = true → ends = true ∧ start + data.length = stream.length) :
    CacheOk stream ends base ref (oooAppend c (num base start) data fin).1.flow.oooCache := by
  unfold oooAppend
  split
  · rename_i empty
    split
    · rename_i isFin
      have atEnd := last isFin
      exact appendFin_ok c start ok beyond (by omega) atEnd.1 (by omega)
    · exact ok
  · exact appendData_ok c start data fin ok beyond near slice (by omega) last

end

end Tunio
