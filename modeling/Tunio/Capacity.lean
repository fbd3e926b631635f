import Tunio.Cached
import Tunio.Times
import Tunio.Updates

/-!
How many segments the out-of-order cache holds.  The cap is not asked for a segment that
touches a cached one, since the two are expected to become one.  They do, unless a FIN stands
between them: data behind a cached FIN and data beyond a FIN of the new segment stay apart.
-/

namespace Tunio

open Machines Inbox

/-- A cached segment that is there on both sides of the new one. -/
def Spans (seq : UInt32) (len : Nat) (key : UInt32) (old : OooSegment) : Prop :=
  oooOffset seq key < 0 ∧ oooOffset seq key + old.data.length > len

/-- A cached segment gives up its place to a new one: it is cut back in front of it and joined
to it, or covered by it, or it goes on behind it and is joined as well.  No segment is joined
to one behind its FIN. -/
def Yields (seq : UInt32) (len : Nat) (fin : Bool) (key : UInt32) (old : OooSegment) : Prop :=
  let start := oooOffset seq key
  let stop := start + old.data.length
  (start < 0 ∧ 0 ≤ stop ∧ ¬(stop = 0 ∧ old.fin = true)) ∨
    (0 ≤ start ∧ stop ≤ len ∧ (start < stop ∨ old.fin = true)) ∨
      (0 ≤ start ∧ start ≤ len ∧ len < stop ∧ fin = false)

instance (seq : UInt32) (len : Nat) (fin : Bool) (key : UInt32) (old : OooSegment) :
    Decidable (Yields seq len fin key old) := inferInstanceAs (Decidable (_ ∨ _ ∨ _))

section

variable {cache : OooCache} {seq key other : UInt32} {len : Nat} {old found : OooSegment}

/-! Sizes. -/

theorem size_erase_present (present : cache[key]? = some old) :
    (cache.erase key).size + 1 = cache.size := by
  have member := mem_of_lookup present
  have nonempty : cache.size ≠ 0 := by
    intro none
    have empty := Std.TreeMap.isEmpty_eq_size_eq_zero (t := cache)
    rw [none] at empty
    exact Std.TreeMap.not_mem_of_isEmpty (by simpa using empty) member
  rw [Std.TreeMap.size_erase, if_pos (Std.TreeMap.mem_iff_contains.mp member)]
  omega

theorem size_insert_present (present : cache[key]? = some old) (seg : OooSegment) :
    (cache.insert key seg).size = cache.size := by
  rw [Std.TreeMap.size_insert, if_pos (Std.TreeMap.mem_iff_contains.mp (mem_of_lookup present))]

/-! Trimming. -/

theorem trimStep_size (present : cache[key]? = some old) (whole : ¬Spans seq len key old) :
    (trimStep seq len cache key).size ≤ cache.size := by
  have erased := size_erase_present present
  unfold Spans at whole
  unfold trimStep
  rw [present]
  dsimp only
  split
  · exact Nat.le_refl _
  · split
    · exact Nat.le_of_eq (size_insert_present present _)
    · split
      · refine Std.TreeMap.size_insertIfNew_le.trans ?_
        omega
      · omega

theorem trimFold_other (keys : List UInt32) (elsewhere : other ∉ keys)
    (present : cache[other]? = some found) :
    (keys.foldl (trimStep seq len) cache)[other]? = some found := by
  induction keys generalizing cache with
  | nil => exact present
  | cons key rest ih =>
      obtain ⟨differ, later⟩ := List.ne_and_not_mem_of_not_mem_cons elsewhere
      exact ih later (trimStep_other differ present)

theorem trimFold_size (keys : List UInt32) (distinct : keys.Nodup)
    (present : ∀ key ∈ keys, ∃ old, cache[key]? = some old ∧ ¬Spans seq len key old) :
    (keys.foldl (trimStep seq len) cache).size ≤ cache.size := by
  induction keys generalizing cache with
  | nil => exact Nat.le_refl _
  | cons key rest ih =>
      obtain ⟨apart, distinct⟩ := List.nodup_cons.mp distinct
      obtain ⟨old, found, whole⟩ := present key List.mem_cons_self
      refine (ih distinct fun later member => ?_).trans (trimStep_size found whole)
      obtain ⟨old, found, whole⟩ := present later (List.mem_cons_of_mem _ member)
      exact ⟨old, trimStep_other (fun same => apart (same ▸ member)) found, whole⟩

/-- What trimming makes of a segment in front of the new one: it ends where that begins. -/
theorem trimStep_front (present : cache[key]? = some old) (before : oooOffset seq key < 0)
    (reaches : 0 ≤ oooOffset seq key + old.data.length)
    (bound : oooOffset seq key + old.data.length ≤ len)
    (joins : ¬(oooOffset seq key + old.data.length = 0 ∧ old.fin = true)) :
    ∃ left, (trimStep seq len cache key)[key]? = some left ∧ left.fin = false ∧
      oooOffset seq key + left.data.length = 0 := by
  by_cases stops : oooOffset seq key + old.data.length = 0
  · refine ⟨old, ?_, Bool.eq_false_of_not_eq_true fun fin => joins ⟨stops, fin⟩, stops⟩
    unfold trimStep
    rw [present]
    dsimp only
    rw [if_pos ⟨by omega, by omega⟩]
    exact present
  · refine ⟨{ data := old.data.take (-oooOffset seq key).toNat, fin := false }, ?_, rfl, ?_⟩
    · unfold trimStep
      rw [present]
      dsimp only
      by_cases covers : (0 : Int) < len
      · rw [if_neg (by omega), if_neg (by omega), if_pos before, Std.TreeMap.getElem?_insert_self]
      · omega
    · rw [List.length_take]
      omega

theorem trimStep_inside (present : cache[key]? = some old) (begins : 0 ≤ oooOffset seq key)
    (bound : oooOffset seq key + old.data.length ≤ len)
    (taken : oooOffset seq key < oooOffset seq key + old.data.length ∨
      (old.data.length = 0 ∧ old.fin = true ∧ oooOffset seq key < len)) :
    trimStep seq len cache key = cache.erase key := by
  unfold trimStep
  rw [present]
  dsimp only
  rw [if_neg, if_neg (by omega), if_neg (by omega), if_neg (by omega)]
  rintro ⟨apart, noFin⟩
  rcases taken with filled | ⟨empty, fin, early⟩
  · omega
  · exact noFin ⟨empty, fin, begins, early⟩

/-- What goes on behind the new segment begins where that ends. -/
theorem trimStep_behind (present : cache[key]? = some old) (begins : 0 ≤ oooOffset seq key)
    (starts : oooOffset seq key ≤ len) (beyond : len < oooOffset seq key + old.data.length)
    (ends : oooOffset seq key = len → key = seq + UInt32.ofNat len) :
    ∃ right, (trimStep seq len cache key)[seq + UInt32.ofNat len]? = some right := by
  by_cases atEnd : oooOffset seq key = len
  · refine ⟨old, ?_⟩
    unfold trimStep
    rw [present]
    dsimp only
    rw [if_pos ⟨by omega, by omega⟩, ← ends atEnd]
    exact present
  · unfold trimStep
    rw [present]
    dsimp only
    rw [if_neg (by omega), if_neg (by omega), if_neg (by omega), if_pos beyond]
    exact insertIfNew_present _ _ _

/-! Merging. -/

theorem leftNeighbour_exists {cur : UInt32} {left : OooSegment} (present : cache[key]? = some left)
    (differ : key ≠ cur) (open_ : left.fin = false) (ends : segmentEnd key left = cur) :
    ∃ entry, leftNeighbour cache cur = some entry := by
  refine Option.isSome_iff_exists.mp (List.find?_isSome.mpr ⟨(key, left), ?_, ?_⟩)
  · exact Std.TreeMap.mem_toList_iff_getElem?_eq_some.mpr present
  · simp [differ, open_, ends]

theorem rightNeighbour_exists {cur : UInt32} {seg right : OooSegment}
    (present : cache[cur]? = some seg) (there : cache[segmentEnd cur seg]? = some right)
    (differ : segmentEnd cur seg ≠ cur) :
    rightNeighbour cache cur = some (segmentEnd cur seg, right) := by
  have found : ∃ entry, rightNeighbour cache cur = some entry := by
    refine Option.isSome_iff_exists.mp (List.find?_isSome.mpr ⟨(segmentEnd cur seg, right), ?_, ?_⟩)
    · exact Std.TreeMap.mem_toList_iff_getElem?_eq_some.mpr there
    · simp [segmentAt_present present, differ]
  obtain ⟨⟨key, other⟩, found⟩ := found
  obtain ⟨cached, _, same⟩ := rightNeighbour_spec present found
  rw [← same, there] at cached
  rw [found, ← same, Option.some.inj cached]

theorem joinLeft_size {cur : UInt32} {left : OooSegment} (present : cache[key]? = some left)
    (seg : OooSegment) : ((cache.insert key seg).erase cur).size ≤ cache.size :=
  Std.TreeMap.size_erase_le.trans (Nat.le_of_eq (size_insert_present present seg))

theorem joinRight_size {cur : UInt32} {right : OooSegment} (present : cache[key]? = some right)
    (differ : key ≠ cur) (seg : OooSegment) :
    ((cache.insert cur seg).erase key).size ≤ cache.size := by
  have kept : (cache.insert cur seg)[key]? = some right := (insert_other differ seg).trans present
  have erased := size_erase_present kept
  have grown : (cache.insert cur seg).size ≤ cache.size + 1 := Std.TreeMap.size_insert_le
  omega

theorem mergeOoo_size (fuel : Nat) (cache : OooCache) (cur : UInt32) :
    (mergeOoo fuel cache cur).size ≤ cache.size := by
  induction fuel generalizing cache cur with
  | zero => exact Nat.le_refl _
  | succ fuel ih =>
      unfold mergeOoo
      dsimp only
      split
      · rename_i key left found
        exact (ih _ _).trans (joinLeft_size (leftNeighbour_spec found).1 _)
      · split
        · rename_i key right found
          have member := List.mem_of_find?_eq_some found
          have present := Std.TreeMap.mem_toList_iff_getElem?_eq_some.mp member
          have differ : key ≠ cur := by
            have test := List.find?_some found
            simp only [Bool.and_eq_true, bne_iff_ne] at test
            exact test.1
          split
          · split
            · exact (ih _ _).trans Std.TreeMap.size_erase_le
            · exact Nat.le_refl _
          · exact (ih _ _).trans (joinRight_size present differ _)
        · exact Nat.le_refl _

/-- A segment with a neighbour that it can be joined to takes up one place less. -/
theorem mergeOoo_joins (fuel : Nat) {cur : UInt32} {seg : OooSegment}
    (present : cache[cur]? = some seg)
    (neighbour : (∃ key left, cache[key]? = some left ∧ key ≠ cur ∧ left.fin = false ∧
        segmentEnd key left = cur) ∨
      ∃ right, cache[segmentEnd cur seg]? = some right ∧ segmentEnd cur seg ≠ cur ∧
        (seg.fin = false ∨ (right.data.isEmpty = true ∧ right.fin = true))) :
    (mergeOoo (fuel + 1) cache cur).size + 1 ≤ cache.size := by
  unfold mergeOoo
  dsimp only
  split
  · rename_i key left found
    obtain ⟨there, differ, _⟩ := leftNeighbour_spec found
    have merged := mergeOoo_size fuel ((cache.insert key
      { data := left.data ++ (segmentAt cache cur).data, fin := (segmentAt cache cur).fin }).erase cur) key
    have kept : (cache.insert key { data := left.data ++ (segmentAt cache cur).data
                                    fin := (segmentAt cache cur).fin })[cur]? = some seg :=
      (insert_other (Ne.symm differ) _).trans present
    have erased := size_erase_present kept
    have same := size_insert_present there
      { data := left.data ++ (segmentAt cache cur).data, fin := (segmentAt cache cur).fin }
    omega
  · rename_i alone
    obtain ⟨key, left, there, differ, open_, ends⟩ | ⟨right, there, differ, joins⟩ := neighbour
    · obtain ⟨entry, found⟩ := leftNeighbour_exists there differ open_ ends
      rw [alone] at found
      cases found
    · rw [rightNeighbour_exists present there differ]
      dsimp only
      rw [segmentAt_present present]
      split
      · rename_i fin
        rw [if_pos (joins.resolve_left fun noFin => Bool.false_ne_true (noFin.symm.trans fin))]
        have erased := size_erase_present there
        have merged := mergeOoo_size fuel (cache.erase (segmentEnd cur seg)) cur
        omega
      · have merged := mergeOoo_size fuel ((cache.insert cur
          { data := seg.data ++ right.data, fin := right.fin }).erase (segmentEnd cur seg)) cur
        have kept : (cache.insert cur { data := seg.data ++ right.data
                                        fin := right.fin })[segmentEnd cur seg]? = some right :=
          (insert_other differ _).trans there
        have erased := size_erase_present kept
        have same := size_insert_present present { data := seg.data ++ right.data, fin := right.fin }
        omega

/-! Storing. -/

theorem oooOffset_eq {position : Nat} (same : oooOffset seq key = position) :
    key = seq + UInt32.ofNat position := by
  have spec : oooOffset seq key = if (key - seq).toNat < 2 ^ 31 then ((key - seq).toNat : Int)
      else (key - seq).toNat - 2 ^ 32 := Serial.signed_eq (key - seq)
  have keyBound := key.toNat_lt
  have seqBound := seq.toNat_lt
  rw [spec, UInt32.toNat_sub] at same
  rw [← UInt32.toNat_inj, UInt32.toNat_add, UInt32.toNat_ofNat']
  split at same <;> omega

theorem segmentEnd_of_offset {left : OooSegment}
    (ends : oooOffset seq key + left.data.length = 0) : segmentEnd key left = seq := by
  have spec : oooOffset seq key = if (key - seq).toNat < 2 ^ 31 then ((key - seq).toNat : Int)
      else (key - seq).toNat - 2 ^ 32 := Serial.signed_eq (key - seq)
  have keyBound := key.toNat_lt
  have seqBound := seq.toNat_lt
  rw [spec, UInt32.toNat_sub] at ends
  rw [← UInt32.toNat_inj, segmentEnd, UInt32.toNat_add, UInt32.toNat_ofNat']
  split at ends <;> omega

/-- What stands at the end of the new segment stays there, or it is covered. -/
theorem trimStep_end (present : cache[seq + UInt32.ofNat len]? = some found) (key : UInt32) :
    (∃ found, (trimStep seq len cache key)[seq + UInt32.ofNat len]? = some found) ∨
      (trimStep seq len cache key).size + 1 ≤ cache.size := by
  by_cases same : key = seq + UInt32.ofNat len
  · have erased := size_erase_present present
    unfold trimStep
    rw [same, present]
    dsimp only
    split
    · exact Or.inl ⟨found, present⟩
    · split
      · exact Or.inl (insertIfNew_present _ _ _)
      · split
        · exact Or.inl ⟨_, Std.TreeMap.getElem?_insert_self⟩
        · split
          · exact Or.inl (insertIfNew_present _ _ _)
          · exact Or.inr (Nat.le_of_eq erased)
  · exact Or.inl ⟨found, trimStep_other (Ne.symm same) present⟩

theorem trimFold_end (keys : List UInt32) (distinct : keys.Nodup)
    (whole : ∀ key ∈ keys, ∃ old, cache[key]? = some old ∧ ¬Spans seq len key old)
    (present : cache[seq + UInt32.ofNat len]? = some found) :
    (∃ found, (keys.foldl (trimStep seq len) cache)[seq + UInt32.ofNat len]? = some found) ∨
      (keys.foldl (trimStep seq len) cache).size + 1 ≤ cache.size := by
  induction keys generalizing cache found with
  | nil => exact Or.inl ⟨found, present⟩
  | cons key rest ih =>
      obtain ⟨apart, distinct⟩ := List.nodup_cons.mp distinct
      obtain ⟨old, here, fits⟩ := whole key List.mem_cons_self
      have later : ∀ other ∈ rest, ∃ old, (trimStep seq len cache key)[other]? = some old ∧
          ¬Spans seq len other old := by
        intro other member
        obtain ⟨old, there, fits⟩ := whole other (List.mem_cons_of_mem _ member)
        exact ⟨old, trimStep_other (fun same => apart (same ▸ member)) there, fits⟩
      have first := trimStep_size here fits
      have tail := trimFold_size rest distinct later
      rcases trimStep_end present key with ⟨still, stays⟩ | shrinks
      · exact (ih distinct later stays).imp_right fun fewer => fewer.trans first
      · refine Or.inr ?_
        change (rest.foldl (trimStep seq len) (trimStep seq len cache key)).size + 1 ≤ _
        omega

/-- The trimming seen from one of the cached segments. -/
theorem trimOoo_at (present : cache[key]? = some old)
    (whole : ∀ key old, cache[key]? = some old → ¬Spans seq len key old) :
    ∃ middle : OooCache, middle[key]? = some old ∧ middle.size ≤ cache.size ∧
      (trimOoo seq len cache).size ≤ (trimStep seq len middle key).size ∧
      (∀ found, (trimStep seq len middle key)[key]? = some found →
        (trimOoo seq len cache)[key]? = some found) ∧
      (∀ found, (trimStep seq len middle key)[seq + UInt32.ofNat len]? = some found →
        (∃ found, (trimOoo seq len cache)[seq + UInt32.ofNat len]? = some found) ∨
          (trimOoo seq len cache).size + 1 ≤ (trimStep seq len middle key).size) := by
  have member : key ∈ cache.keys := Std.TreeMap.mem_keys.mpr (mem_of_lookup present)
  have distinct : cache.keys.Nodup := Std.TreeMap.nodup_keys
  have listed : ∀ other ∈ cache.keys, ∃ old, cache[other]? = some old ∧
      ¬Spans seq len other old := by
    intro other member
    obtain ⟨old, found⟩ := Option.isSome_iff_exists.mp
      (Std.TreeMap.mem_iff_isSome_getElem?.mp (Std.TreeMap.mem_keys.mp member))
    exact ⟨old, found, whole other old found⟩
  unfold trimOoo
  obtain ⟨before, after, split⟩ := List.append_of_mem member
  rw [split] at distinct listed ⊢
  obtain ⟨distinctBefore, distinctRest, apart⟩ := List.nodup_append.mp distinct
  obtain ⟨absent, distinctAfter⟩ := List.nodup_cons.mp distinctRest
  have absentBefore : key ∉ before := fun inside => apart key inside key List.mem_cons_self rfl
  rw [List.foldl_append, List.foldl_cons]
  have frame (other : UInt32) (inside : other ∈ after) :
      ∃ old, (trimStep seq len (before.foldl (trimStep seq len) cache) key)[other]? = some old ∧
        ¬Spans seq len other old := by
    obtain ⟨old, found, fits⟩ := listed other
      (List.mem_append_right _ (List.mem_cons_of_mem _ inside))
    have outside : other ∉ before := fun early =>
      apart other early other (List.mem_cons_of_mem _ inside) rfl
    exact ⟨old, trimStep_other (fun same => absent (same ▸ inside))
      (trimFold_other before outside found), fits⟩
  exact ⟨before.foldl (trimStep seq len) cache, trimFold_other before absentBefore present,
    trimFold_size before distinctBefore fun other inside => listed other (List.mem_append_left _ inside),
    trimFold_size after distinctAfter frame, fun _ found => trimFold_other after absent found,
    fun _ found => trimFold_end after distinctAfter frame found⟩

theorem trimOoo_size (whole : ∀ key old, cache[key]? = some old → ¬Spans seq len key old) :
    (trimOoo seq len cache).size ≤ cache.size := by
  refine trimFold_size cache.keys Std.TreeMap.nodup_keys fun key member => ?_
  obtain ⟨old, found⟩ := Option.isSome_iff_exists.mp
    (Std.TreeMap.mem_iff_isSome_getElem?.mp (Std.TreeMap.mem_keys.mp member))
  exact ⟨old, found, whole key old found⟩

theorem storeOoo_size (incoming : OooSegment)
    (whole : ∀ key old, cache[key]? = some old → ¬Spans seq incoming.data.length key old) :
    (storeOoo cache seq incoming).size ≤ cache.size + 1 := by
  have trimmed := trimOoo_size whole
  have inserted : ((trimOoo seq incoming.data.length cache).insertIfNew seq incoming).size ≤
      (trimOoo seq incoming.data.length cache).size + 1 := Std.TreeMap.size_insertIfNew_le
  exact (mergeOoo_size _ _ seq).trans (inserted.trans (Nat.succ_le_succ trimmed))

/-- Storing takes no more room if trimming makes some, if something is at `seq` already or if
the new segment has a neighbour to be joined to. -/
theorem storeOoo_joined (incoming : OooSegment) (trimmed : OooCache)
    (same : trimOoo seq incoming.data.length cache = trimmed) (small : trimmed.size ≤ cache.size)
    (joins : trimmed.size + 1 ≤ cache.size ∨
      (∃ key left, trimmed[key]? = some left ∧ key ≠ seq ∧ left.fin = false ∧
        segmentEnd key left = seq) ∨
      ∃ right, trimmed[segmentEnd seq incoming]? = some right ∧
        (incoming.fin = false ∨ (right.data.isEmpty = true ∧ right.fin = true))) :
    (storeOoo cache seq incoming).size ≤ cache.size := by
  unfold storeOoo
  dsimp only
  rw [same]
  have merged := mergeOoo_size (trimmed.insertIfNew seq incoming).size
    (trimmed.insertIfNew seq incoming) seq
  have grown : (trimmed.insertIfNew seq incoming).size ≤ trimmed.size + 1 :=
    Std.TreeMap.size_insertIfNew_le
  by_cases there : seq ∈ trimmed
  · have kept : (trimmed.insertIfNew seq incoming).size = trimmed.size := by
      rw [Std.TreeMap.size_insertIfNew, if_pos there]
    omega
  · have present : (trimmed.insertIfNew seq incoming)[seq]? = some incoming := by
      rw [Std.TreeMap.getElem?_insertIfNew, if_pos ⟨Std.ReflCmp.compare_self, there⟩]
    have filled : 0 < (trimmed.insertIfNew seq incoming).size := by
      have erased := size_erase_present present
      omega
    obtain ⟨fuel, size⟩ := Nat.exists_eq_add_of_lt filled
    rw [Nat.zero_add] at size
    rcases joins with fewer | ⟨key, left, found, differ, open_, ends⟩ | ⟨right, found, open_⟩
    · omega
    · have joined := mergeOoo_joins fuel present (Or.inl ⟨key, left, insertIfNew_kept found incoming,
        differ, open_, ends⟩)
      rw [size] at grown ⊢
      omega
    · have differ : segmentEnd seq incoming ≠ seq := fun loop => there (mem_of_lookup (loop ▸ found))
      have joined := mergeOoo_joins fuel present (Or.inr ⟨right, insertIfNew_kept found incoming,
        differ, open_⟩)
      rw [size] at grown ⊢
      omega

/-- A cached segment that gives up its place makes room for the new one. -/
theorem storeOoo_yields (incoming : OooSegment)
    (whole : ∀ key old, cache[key]? = some old → ¬Spans seq incoming.data.length key old)
    (covered : ∀ key old, cache[key]? = some old →
      oooOffset seq key + old.data.length = incoming.data.length → old.fin = true →
        incoming.fin = true)
    (present : cache[key]? = some old) (filled : incoming.data ≠ [])
    (yields : Yields seq incoming.data.length incoming.fin key old) :
    (storeOoo cache seq incoming).size ≤ cache.size := by
  have some_ : 0 < incoming.data.length := List.length_pos_iff.mpr filled
  obtain ⟨middle, here, fewer, rest, stays, ends⟩ := trimOoo_at present whole
  have fits := whole key old present
  have step := trimStep_size here fits
  refine storeOoo_joined incoming _ rfl (trimOoo_size whole) ?_
  rcases yields with ⟨before, reaches, joins⟩ | ⟨begins, bound, taken⟩ | ⟨begins, starts, beyond, open_⟩
  · -- in front: what is left ends where the new segment begins
    unfold Spans at fits
    have bound : oooOffset seq key + old.data.length ≤ incoming.data.length := by omega
    obtain ⟨left, kept, noFin, stops⟩ := trimStep_front here before reaches bound joins
    refine Or.inr (Or.inl ⟨key, left, stays left kept, ?_, noFin, segmentEnd_of_offset stops⟩)
    rintro rfl
    have zero : oooOffset key key = 0 := by simp [oooOffset]
    omega
  · by_cases inside : oooOffset seq key < oooOffset seq key + old.data.length ∨
        (old.data.length = 0 ∧ old.fin = true ∧ oooOffset seq key < incoming.data.length)
    · -- covered
      have erased := size_erase_present here
      rw [trimStep_inside here begins bound inside] at rest
      exact Or.inl (by omega)
    · -- a bare FIN right behind the new segment
      have empty : old.data.length = 0 := by omega
      have fin : old.fin = true := taken.resolve_left (by omega)
      have atEnd : oooOffset seq key = incoming.data.length := by
        by_contra apart
        exact inside (Or.inr ⟨empty, fin, by omega⟩)
      have behind : key = segmentEnd seq incoming := oooOffset_eq atEnd
      have kept : (trimStep seq incoming.data.length middle key)[key]? = some old := by
        unfold trimStep
        rw [here]
        dsimp only
        rw [if_pos ⟨by omega, by omega⟩]
        exact here
      refine Or.inr (Or.inr ⟨old, behind ▸ stays old kept, Or.inr ⟨?_, fin⟩⟩)
      simpa using empty
  · -- behind: what is left begins where the new segment ends
    obtain ⟨right, kept⟩ := trimStep_behind here begins starts beyond oooOffset_eq
    rcases ends right kept with ⟨right, still⟩ | shrinks
    · exact Or.inr (Or.inr ⟨right, still, Or.inl open_⟩)
    · exact Or.inl (by omega)

end

/-! What the survey has seen. -/

theorem surveyOoo_covered {cache : OooCache} {seq key : UInt32} {len : Nat} {old : OooSegment}
    (present : cache[key]? = some old) (ends : oooOffset seq key + old.data.length = len)
    (fin : old.fin = true) : (surveyOoo seq len cache).finCovered = true := by
  have step (survey : OooSurvey) (entry : UInt32 × OooSegment) :
      (surveyStep seq len survey entry).finCovered =
        if oooOffset seq entry.1 + entry.2.data.length = len ∧ entry.2.fin = true then true
        else survey.finCovered := by
    unfold surveyStep
    dsimp only
    by_cases stops : oooOffset seq entry.1 + entry.2.data.length = len
    · by_cases isFin : entry.2.fin = true
      · simp only [stops, isFin, if_true, and_self]
      · simp only [stops, isFin, if_true, and_false, if_false, Bool.false_eq_true]
        split <;> split <;> rfl
    · simp only [stops, if_false, false_and]
      split <;> split <;> rfl
  have kept (entries : List (UInt32 × OooSegment)) (survey : OooSurvey)
      (seen : survey.finCovered = true) :
      (entries.foldl (surveyStep seq len) survey).finCovered = true := by
    induction entries generalizing survey with
    | nil => exact seen
    | cons entry rest ih =>
        refine ih _ ?_
        rw [step]
        split
        · rfl
        · exact seen
  have fold (entries : List (UInt32 × OooSegment)) (survey : OooSurvey)
      (member : (key, old) ∈ entries) :
      (entries.foldl (surveyStep seq len) survey).finCovered = true := by
    induction entries generalizing survey with
    | nil => cases member
    | cons entry rest ih =>
        rcases List.mem_cons.mp member with rfl | later
        · refine kept rest _ ?_
          rw [step, if_pos ⟨ends, fin⟩]
        · exact ih _ later
  exact fold _ _ (Std.TreeMap.mem_toList_iff_getElem?_eq_some.mpr present)

/-- A segment that is cached on both sides brings nothing new, and more than all of it cannot
be counted as overlapping: the queue would be over its limit. -/
theorem admitted_whole {c : Conn} {seq : UInt32} {len : Nat} (backed : Backed c.flow)
    (narrow : c.eng.cfg.maxRxQueuePerFlow < 2 ^ 64)
    (new : sizeSub len (surveyOoo seq len c.flow.oooCache).overlap ≠ 0)
    (admitted : (admitOoo c (surveyOoo seq len c.flow.oooCache)
      (sizeSub len (surveyOoo seq len c.flow.oooCache).overlap)).isSome = true) :
    ∀ key old, c.flow.oooCache[key]? = some old → ¬Spans seq len key old := by
  rintro key old present ⟨before, behind⟩
  have overlap := surveyOoo_overlap seq len c.flow.oooCache
  have all : len ≤ (surveyOoo seq len c.flow.oooCache).overlap := by
    have one : covered seq len key old ≤ overlapping seq len c.flow.oooCache.toList :=
      covered_le_overlapping (Std.TreeMap.mem_toList_iff_getElem?_eq_some.mpr present)
    unfold covered at one
    omega
  have held : (surveyOoo seq len c.flow.oooCache).overlap ≤ c.flow.oooBytes := by
    rw [overlap]
    exact (overlapping_le _).trans backed
  generalize (surveyOoo seq len c.flow.oooCache) = survey at new admitted all held
  generalize count : sizeSub len survey.overlap = netAdd at new admitted
  unfold admitOoo at admitted
  split at admitted
  · cases admitted
  · split at admitted
    · cases admitted
    · unfold sizeSub at count
      split at count <;> omega

/-! The bound. -/

/-- The cache has as many segments as are counted, and not too many. -/
structure Capped (bound : Nat) (flow : TcpFlow) : Prop where
  tallied : flow.oooCount = flow.oooCache.size
  bounded : flow.oooCache.size ≤ bound

/-- A data segment is put beside a full cache, with nothing there to give up its place. -/
def Overfills (c : Conn) (seq : UInt32) (data : List UInt8) (fin : Bool) : Prop :=
  let survey := surveyOoo seq data.length c.flow.oooCache
  let netAdd := sizeSub data.length survey.overlap
  data ≠ [] ∧ c.eng.cfg.tcpOooMaxSegments ≤ c.flow.oooCache.size ∧ netAdd ≠ 0 ∧
    (admitOoo c survey netAdd).isSome = true ∧
      ∀ entry ∈ c.flow.oooCache.toList,
        ¬Yields seq data.length (fin || survey.finCovered) entry.1 entry.2

instance (c : Conn) (seq : UInt32) (data : List UInt8) (fin : Bool) :
    Decidable (Overfills c seq data fin) := inferInstanceAs (Decidable (_ ∧ _ ∧ _ ∧ _ ∧ _))

theorem oooAppend_capped {bound : Nat} (c : Conn) (seq : UInt32) (data : List UInt8) (fin : Bool)
    (capped : Capped bound c.flow) (room : c.eng.cfg.tcpOooMaxSegments ≤ bound)
    (backed : Backed c.flow) (narrow : c.eng.cfg.maxRxQueuePerFlow < 2 ^ 64)
    (fits : ¬Overfills c seq data fin) : Capped bound (oooAppend c seq data fin).1.flow := by
  have marked (key : UInt32) :
      Capped bound { c.flow with
        oooCache := c.flow.oooCache.modify key fun old => { old with fin := true } } := by
    have same : (c.flow.oooCache.modify key fun old => { old with fin := true }).size =
        c.flow.oooCache.size := Std.TreeMap.size_modify
    exact ⟨capped.tallied.trans same.symm, (Nat.le_of_eq same).trans capped.bounded⟩
  unfold oooAppend
  split
  · split
    · unfold appendFin
      split
      · exact capped
      · exact marked _
      · split
        · exact capped
        · rename_i below
          refine ⟨rfl, Nat.le_trans Std.TreeMap.size_insertIfNew_le ?_⟩
          omega
    · exact capped
  · rename_i filled
    unfold appendData
    dsimp only
    split
    · split
      · exact capped
      · split
        · exact capped
        · exact marked _
    · rename_i new
      split
      · exact capped
      · rename_i account admitted
        have admits : (admitOoo c (surveyOoo seq data.length c.flow.oooCache)
            (sizeSub data.length (surveyOoo seq data.length c.flow.oooCache).overlap)).isSome = true := by
          rw [admitted]
          rfl
        have whole := admitted_whole backed narrow new admits
        refine ⟨rfl, ?_⟩
        dsimp only
        by_cases full : c.eng.cfg.tcpOooMaxSegments ≤ c.flow.oooCache.size
        · have some_ : data ≠ [] := fun none => filled (by rw [none]; rfl)
          have yields : ∃ entry ∈ c.flow.oooCache.toList, Yields seq data.length
              (fin || (surveyOoo seq data.length c.flow.oooCache).finCovered) entry.1 entry.2 := by
            by_contra none
            refine fits ⟨some_, full, new, admits, fun entry member yields => ?_⟩
            exact none ⟨entry, member, yields⟩
          obtain ⟨entry, member, yields⟩ := yields
          refine (storeOoo_yields _ whole ?_ (Std.TreeMap.mem_toList_iff_getElem?_eq_some.mp member)
            some_ yields).trans capped.bounded
          intro key old present ends isFin
          dsimp only at ends ⊢
          rw [surveyOoo_covered present ends isFin, Bool.or_true]
        · refine (storeOoo_size _ whole).trans ?_
          omega

/-! Up to the data of a segment nothing is taken from the budgets. -/

structure Budget where
  cfg : TunConfig
  account : BufferAccountant
  rxBytes : Nat
  oooBytes : Nat

def Conn.budget (c : Conn) : Budget := {
  cfg := c.eng.cfg
  account := c.eng.account
  rxBytes := c.flow.rxBytes
  oooBytes := c.flow.oooBytes
}

theorem sendSegment_budget (c : Conn) (seq : UInt32) (flags : UInt8) (payload : List UInt8)
    (withMss : Bool) : (sendSegment c seq flags payload withMss).budget = c.budget := by
  unfold sendSegment
  split <;> rfl

theorem sendFin_budget (c : Conn) :
    (sendFin c).flow.state = .closed ∨ (sendFin c).budget = c.budget := by
  rcases sendFin_cases c with
    ⟨_, same⟩ | ⟨_, _, ⟨_, same⟩ | ⟨_, ⟨_, same⟩ | ⟨_, same⟩ | ⟨_, same⟩⟩⟩
  · rw [same]
    exact Or.inr rfl
  · rw [same]
    exact Or.inr rfl
  · rw [same]
    exact Or.inr (sendSegment_budget { c with
      flow.finSent := true
      flow.state := c.flow.state.finished
      flow.closeStartedAt := c.eng.now } _ _ _ _)
  · rw [same]
    exact Or.inl (abortFlow_state _)
  · rw [same]
    exact Or.inr rfl

theorem advanceUna_budget (c : Conn) (ack : UInt32) : (advanceUna c ack).budget = c.budget := by
  unfold advanceUna acceptProbe
  dsimp only
  split
  · rfl
  · split
    · split
      · split <;> rfl
      · rfl
    · rfl

theorem handleAckField_budget (c : Conn) (th : TcpHeader) :
    (handleAckField c th).1.flow.state = .closed ∨ (handleAckField c th).1.budget = c.budget := by
  have deferred (c : Conn) :
      (sendDeferredFin c).flow.state = .closed ∨ (sendDeferredFin c).budget = c.budget := by
    unfold sendDeferredFin
    split
    · exact sendFin_budget { c with flow.finPending := false }
    · exact Or.inr rfl
  have confirmed (c : Conn) (ack : UInt32) :
      (confirmFin c ack).1.flow.state = .closed ∨ (confirmFin c ack).1.budget = c.budget := by
    unfold confirmFin
    split
    · split <;> exact Or.inr rfl
    · split
      · exact Or.inl (closeFlow_state c _)
      · exact Or.inr rfl
  have acked : (handleAck c th.ack).1.flow.state = .closed ∨
      (handleAck c th.ack).1.budget = c.budget := by
    have cleared : (clearProbe (advanceUna c th.ack)).budget = c.budget :=
      advanceUna_budget c th.ack
    unfold handleAck
    rcases confirmed (sendDeferredFin (clearProbe (advanceUna c th.ack))) th.ack with closed | same
    · exact Or.inl closed
    · rcases deferred (clearProbe (advanceUna c th.ack)) with closed | kept
      · exact Or.inl ((Aside.confirmFin _ th.ack).stays closed)
      · exact Or.inr (same.trans (kept.trans cleared))
  unfold handleAckField
  split
  · split
    · rename_i result
      rw [result] at acked
      exact acked
    · rename_i result
      rw [result] at acked
      exact acked
  · exact Or.inr rfl

theorem flushReads_budget (c : Conn) (rests : c.flow.activeRead = none ∨ c.flow.rxBytes = 0) :
    (flushReads c).budget = c.budget := by
  have compacted (c : Conn) : (compactRx c).budget = c.budget := by
    unfold compactRx
    split <;> rfl
  have ended (c : Conn) : (deliverEof c).budget = c.budget := by
    unfold deliverEof
    split
    · split <;> rfl
    · rfl
  unfold flushReads
  rw [ended, compacted]
  split
  · rename_i reading
    rw [if_neg]
    rw [rests.resolve_left (by rw [reading]; exact nofun)]
    exact Nat.lt_irrefl 0
  · rfl

theorem stage_budget (c : Conn) (th : TcpHeader) (rested : c.inbox.Rested)
    (isOpen : (c.stage th).flow.state ≠ .closed) : (c.stage th).budget = c.budget := by
  have inbox := (Aside.handleAckField c th).inbox
  have field := handleAckField_budget c th
  unfold Conn.stage at isOpen ⊢
  split at isOpen
  · rename_i waiting
    have left : (handleAckField c th).1.flow.state ≠ .closed := by
      rw [waiting]
      decide
    rw [if_pos waiting]
    have rests : (handleAckField c th).1.inbox.Rested := by
      rwa [inbox.resolve_left left]
    refine Eq.trans ?_ (field.resolve_left left)
    generalize (handleAckField c th).1 = d at rests ⊢
    have empty := rests.empty
    unfold completeHandshake
    dsimp only
    have notified (c : Conn) : (notifyAccept c).budget = c.budget ∧
        (notifyAccept c).flow.activeRead = c.flow.activeRead ∧
          (notifyAccept c).flow.rxBytes = c.flow.rxBytes := by
      unfold notifyAccept
      split <;> exact ⟨rfl, rfl, rfl⟩
    split
    · exact flushReads_budget _ empty
    · obtain ⟨budget, reading, queued⟩ := notified { d with
        flow.state := .established
        eng.stats.tcpConnections := d.eng.stats.tcpConnections + 1 }
      exact (flushReads_budget _ (by rwa [reading, queued])).trans budget
  · rename_i past
    rw [if_neg past]
    exact field.resolve_left isOpen

/-! What delivers leaves the cache alone; the flush only takes segments out. -/

theorem Capped.congr {bound : Nat} {flow flow' : TcpFlow} (same : flow'.shelf = flow.shelf)
    (capped : Capped bound flow) : Capped bound flow' := by
  have cache : flow'.oooCache = flow.oooCache := congrArg Shelf.cache same
  have count : flow'.oooCount = flow.oooCount := congrArg Shelf.count same
  refine ⟨?_, ?_⟩
  · rw [cache, count]
    exact capped.tallied
  · rw [cache]
    exact capped.bounded

theorem Capped.bare {bound : Nat} {flow : TcpFlow} (same : flow.shelf = Shelf.bare) :
    Capped bound flow := by
  have cache : flow.oooCache = ∅ := congrArg Shelf.cache same
  have count : flow.oooCount = 0 := congrArg Shelf.count same
  refine ⟨?_, ?_⟩
  · rw [cache, count]
    rfl
  · rw [cache]
    exact Nat.zero_le _

theorem notifyWindowUpdated_shelf (c : Conn) :
    (notifyWindowUpdated c).flow.shelf = c.flow.shelf := by
  unfold notifyWindowUpdated
  split
  · rfl
  · dsimp only
    split
    · exact sendAck_shelf c
    · rfl

theorem flushReads_shelf (c : Conn) : (flushReads c).flow.shelf = c.flow.shelf := by
  have pending (c : Conn) : (flushPendingAck c).flow.shelf = c.flow.shelf := by
    unfold flushPendingAck
    split
    · exact sendAck_shelf c
    · rfl
  have ended (c : Conn) : (deliverEof c).flow.shelf = c.flow.shelf := by
    unfold deliverEof
    split
    · split <;> rfl
    · rfl
  have served (c : Conn) (op : ReadOp) : (serveRead c op).flow.shelf = c.flow.shelf := by
    unfold serveRead
    dsimp only
    rw [pending, notifyWindowUpdated_shelf]
    rfl
  unfold flushReads
  rw [ended, compactRx_shelf]
  split
  · split
    · exact served c _
    · rfl
  · rfl

theorem handleFin_shelf (c : Conn) (finSeq : UInt32) :
    (handleFin c finSeq).flow.shelf = c.flow.shelf := by
  have taken : (takeFin c).flow.shelf = c.flow.shelf := by
    unfold takeFin
    split <;> rfl
  have state (c : Conn) : (finState c).flow.shelf = c.flow.shelf := by
    unfold finState
    split <;> rfl
  unfold handleFin
  split
  · rw [flushReads_shelf, state, sendAck_shelf, taken]
  · split
    · exact sendAck_shelf c
    · rfl

theorem finOoo_shelf (c : Conn) (key : UInt32) (seg : OooSegment) :
    (finOoo c key seg).flow.shelf = c.flow.shelf := by
  unfold finOoo
  split
  · exact handleFin_shelf c _
  · rfl

theorem deliverData_shelf (c : Conn) (data : List UInt8) :
    (deliverData c data).flow.shelf = c.flow.shelf := by
  have noted (c : Conn) : (noteDataAck c).flow.shelf = c.flow.shelf := by
    unfold noteDataAck
    split
    · exact sendAck_shelf c
    · rfl
  have filled (c : Conn) (op : ReadOp) : (fillRead c op data).flow.shelf = c.flow.shelf := by
    unfold fillRead
    dsimp only
    split <;> rfl
  unfold deliverData
  split
  · rfl
  · split
    · exact sendAck_shelf _
    · split
      · rfl
      · unfold placeData
        split
        · unfold deliverDirect
          dsimp only
          split
          · exact filled _ _
          · rw [sendAck_shelf]
            split
            · rw [flushReads_shelf, filled]
            · exact filled _ _
        · unfold deliverBuffered
          dsimp only
          rw [flushReads_shelf, noted]
          rfl

theorem deliverFresh_shelf (c : Conn) (key : UInt32) (seg : OooSegment) :
    (deliverFresh c key seg).flow.shelf = c.flow.shelf := by
  unfold deliverFresh
  dsimp only
  split
  · exact deliverData_shelf c _
  · rfl

theorem takeOoo_capped {bound : Nat} {c : Conn} {key : UInt32} {seg : OooSegment}
    (present : c.flow.oooCache[key]? = some seg) (capped : Capped bound c.flow) :
    Capped bound (takeOoo c key seg).flow := by
  have gone := size_erase_present present
  refine Capped.congr (notifyWindowUpdated_shelf _) ⟨?_, ?_⟩
  · change sizeSub c.flow.oooCount 1 = (c.flow.oooCache.erase key).size
    rw [capped.tallied]
    unfold sizeSub
    rw [if_pos (by omega)]
    omega
  · change (c.flow.oooCache.erase key).size ≤ bound
    exact Std.TreeMap.size_erase_le.trans capped.bounded

theorem deliverOoo_capped {bound : Nat} (fuel : Nat) (c : Conn) (delivered : Bool)
    (capped : Capped bound c.flow) : Capped bound (deliverOoo fuel c delivered).1.flow := by
  induction fuel generalizing c delivered with
  | zero => exact capped
  | succ fuel ih =>
      unfold deliverOoo
      split
      · exact capped
      · rename_i key seg ready
        have taken := takeOoo_capped (readyOoo_cached c.flow key seg ready) capped
        have round : Capped bound (finOoo (deliverFresh (takeOoo c key seg) key seg) key seg).flow :=
          taken.congr ((finOoo_shelf _ key seg).trans (deliverFresh_shelf _ key seg))
        dsimp only
        split
        · exact round
        · exact ih _ true round

/-- The first loop runs to its end, and the cache does not grow. -/
theorem pruneOoo_size (entries : List (UInt32 × OooSegment)) (c : Conn) (pruned : Bool)
    (past : Past c.flow.state) :
    (∃ done, (pruneOoo entries c pruned).2 = some done) ∧
      (pruneOoo entries c pruned).1.flow.oooCache.size ≤ c.flow.oooCache.size := by
  induction entries generalizing c pruned with
  | nil => exact ⟨⟨pruned, rfl⟩, Nat.le_refl _⟩
  | cons entry rest ih =>
      unfold pruneOoo
      split
      · exact ih c pruned past
      · have after := (Quiet.finOoo c entry.1 entry.2).past past
        have cache := finOoo_oooCache c entry.1 entry.2
        dsimp only
        rw [if_neg after.1]
        have discarded := ih (discardOoo (finOoo c entry.1 entry.2) entry.1 entry.2) true
          (by rwa [discardOoo_state])
        rw [discardOoo_oooCache, cache] at discarded
        exact ⟨discarded.1, discarded.2.trans Std.TreeMap.size_erase_le⟩

theorem flushOoo_capped {bound : Nat} (c : Conn) (past : Past c.flow.state)
    (capped : Capped bound c.flow) : Capped bound (flushOoo c).flow := by
  obtain ⟨⟨done, ran⟩, fewer⟩ := pruneOoo_size c.flow.oooCache.toList c false past
  unfold flushOoo
  split
  · rename_i result
    rw [result] at ran
    cases ran
  · rename_i c₁ pruned result
    rw [result] at fewer
    have counted : Capped bound (countCached c₁).flow := ⟨rfl, fewer.trans capped.bounded⟩
    have delivered := deliverOoo_capped (c₁.flow.oooCache.size + 1) (countCached c₁) false counted
    split
    · rename_i result
      rw [result] at delivered
      exact delivered
    · rename_i result
      rw [result] at delivered
      refine delivered.congr ?_
      unfold announceOoo
      split
      · exact sendAck_shelf _
      · split
        · exact notifyWindowUpdated_shelf _
        · rfl

theorem handlePayload_capped {bound : Nat} (c : Conn) (th : TcpHeader) (data : List UInt8)
    (past : Past c.flow.state) (filled : data ≠ []) (capped : Capped bound c.flow)
    (room : c.eng.cfg.tcpOooMaxSegments ≤ bound) (backed : Backed c.flow)
    (narrow : c.eng.cfg.maxRxQueuePerFlow < 2 ^ 64)
    (fits : seqGt th.seq c.flow.rcvNxt = true →
      ¬Overfills c th.seq data (hasFlag th.flags tcpFin)) :
    Capped bound (handlePayload c th data).flow := by
  have some_ : data.length > 0 := List.length_pos_iff.mpr filled
  have delivered (fresh : List UInt8) : Capped bound (flushOoo (deliverData c fresh)).flow :=
    flushOoo_capped _ ((Quiet.deliverData c fresh).past past) (capped.congr (deliverData_shelf c fresh))
  have handled : Capped bound (handleData c th.seq data th.flags).flow := by
    unfold handleData
    split
    · exact delivered data
    · split
      · rename_i early
        have appended := oooAppend_capped c th.seq data (hasFlag th.flags tcpFin) capped room backed
          narrow (fits early)
        dsimp only
        split
        · exact appended
        · exact appended.congr (sendAck_shelf _)
      · dsimp only
        split
        · exact delivered _
        · exact capped.congr (sendAck_shelf _)
  have signalled (c : Conn) : (signalWrite c).flow.shelf = c.flow.shelf := by
    unfold signalWrite
    split
    · split <;> rfl
    · rfl
  unfold handlePayload
  dsimp only
  refine Capped.congr (signalled _) ?_
  rw [if_pos some_]
  split
  · unfold segmentFin
    rw [if_neg fun bare => Nat.ne_of_gt some_ bare.1]
    exact handled.congr (handleFin_shelf _ _)
  · exact handled

/-! Steps without data. -/

/-- The effects that leave the bound to itself: a bare FIN is put into the cache only below
the cap, and nothing is taken out with the count left behind. -/
def Effect.spares : Effect → Bool
  | .append _ data _ => data.isEmpty
  | .discard _ _ | .remove _ _ | .countCached => false
  | _ => true

theorem apply_cfg (c : Conn) (effect : Effect) (permits : c.Permits effect) :
    (c.apply effect).eng.cfg = c.eng.cfg := by
  by_cases own : ∀ eng, effect ≠ .elsewhere eng
  · exact (Ages.apply c effect permits own).cfg
  · push Not at own
    obtain ⟨eng, rfl⟩ := own
    rfl

/-- Everything the bound of the cache rests on. -/
structure Orderly (bound : Nat) (c : Conn) : Prop where
  capped : Capped bound c.flow
  backed : Backed c.flow
  room : c.eng.cfg.tcpOooMaxSegments ≤ bound
  narrow : c.eng.cfg.maxRxQueuePerFlow < 2 ^ 64

theorem Orderly.apply {bound : Nat} {c : Conn} (orderly : Orderly bound c) (effect : Effect)
    (permits : c.Permits effect) (spares : effect.spares = true) :
    Orderly bound (c.apply effect) := by
  have cfg := apply_cfg c effect permits
  refine ⟨?_, apply_backed c effect orderly.backed permits, ?_, ?_⟩
  · cases shelves : effect.shelves with
    | false => exact orderly.capped.congr (apply_shelf c effect shelves)
    | true =>
        have cleared (closes : effect = .giveUp ∨ effect = .abort ∨ effect = .resetBy ∨
            ∃ err, effect = .close err) : Capped bound (c.apply effect).flow := by
          rcases apply_clears c effect closes with bare | same
          · exact Capped.bare bare
          · exact orderly.capped.congr same
        cases effect with
        | append seq data fin =>
            have bare : data = [] := List.isEmpty_iff.mp spares
            exact oooAppend_capped c seq data fin orderly.capped orderly.room orderly.backed
              orderly.narrow fun overfills => overfills.1 bare
        | discard | remove | countCached => cases spares
        | drop => exact Capped.bare (dropReceived_shelf c)
        | giveUp => exact cleared (Or.inl rfl)
        | abort => exact cleared (Or.inr (Or.inl rfl))
        | resetBy => exact cleared (Or.inr (Or.inr (Or.inl rfl)))
        | close err => exact cleared (Or.inr (Or.inr (Or.inr ⟨err, rfl⟩)))
        | _ => cases shelves
  · rw [cfg]
    exact orderly.room
  · rw [cfg]
    exact orderly.narrow

theorem Orderly.path {bound : Nat} {before after : Conn} (orderly : Orderly bound before)
    (path : Steps flowMachine (fun _ effect => effect.spares = true) before after) :
    Orderly bound after :=
  path.invariant (Orderly bound) orderly fun _ effect here permits spares =>
    here.apply effect permits spares

theorem Unfolds.spares {scope : Scope} {before after : Conn} (path : Unfolds 0 scope before after) :
    Steps flowMachine (fun _ effect => effect.spares = true) before after := by
  refine path.weaken fun c effect ⟨plain, _⟩ => ?_
  cases effect with
  | append seq data fin =>
      have bare : data.length ≤ 0 := of_decide_eq_true plain
      exact List.isEmpty_iff.mpr (List.length_eq_zero_iff.mp (Nat.le_zero.mp bare))
  | discard | remove | countCached => cases plain
  | _ => rfl

theorem Begins.spares {scope : Scope} {begins : Effect → Prop} {before after : Conn}
    (once : Begins 0 scope begins before after)
    (plain : ∀ effect, begins effect → effect.spares = true) :
    Steps flowMachine (fun _ effect => effect.spares = true) before after := by
  obtain ⟨middle, effect, first, permits, begun, rest⟩ := once
  exact (first.spares.snoc effect permits (plain effect begun)).trans rest.spares

theorem step_spares (c : Conn) (event : Event) (bare : event.size = 0) :
    Steps flowMachine (fun _ effect => effect.spares = true) c (step c event) := by
  have evolves : Evolves 0 c (step c event) event := step_evolves c event (Nat.le_of_eq bare)
  cases event with
  | read buffers handler =>
      refine Begins.spares evolves fun effect begun => ?_
      cases effect <;> first | rfl | exact begun.elim
  | write buffers handler =>
      refine Begins.spares evolves fun effect begun => ?_
      cases effect <;> first | rfl | exact begun.elim
  | elsewhere eng =>
      have permits : c.Permits (.elsewhere eng) := trivial
      exact Steps.single (Effect.elsewhere eng) permits rfl
  | _ => exact Unfolds.spares evolves

/-! Runs. -/

/-- A segment whose data does not fit into the cache is put there all the same. -/
def Crowds (c : Conn) : Event → Prop
  | .segment th data =>
      c.takes th = true ∧ seqGt th.seq c.flow.rcvNxt = true ∧
        Overfills c th.seq data (hasFlag th.flags tcpFin)
  | _ => False

instance (c : Conn) (event : Event) : Decidable (Crowds c event) :=
  match event with
  | .segment _ _ => inferInstanceAs (Decidable (_ ∧ _ ∧ _))
  | .read _ _ | .write _ _ | .shutdownSend | .shutdownReceive | .close | .reset | .accept
  | .reject | .handOut | .timer _ | .resume _ | .device _ _ | .ackTimerExpires | .ackTimerRuns
  | .sweep | .closeAll | .elsewhere _ => isFalse id

theorem step_orderly {bound : Nat} (c : Conn) (event : Event)
    (rested : c.flow.state ≠ .closed → c.inbox.Rested) (orderly : Orderly bound c)
    (roomy : ¬Crowds c event) : Orderly bound (step c event) := by
  by_cases bare : event.size = 0
  · exact orderly.path (step_spares c event bare)
  · cases event with
    | segment th data =>
        change Orderly bound (receiveSegment c th data)
        have filled : data ≠ [] := fun none => bare (by rw [none]; rfl)
        cases takes : c.takes th with
        | false => exact orderly.path (receiveSegment_unfolds c th data takes).spares
        | true =>
            have isOpen : c.flow.state ≠ .closed := by
              intro closed
              simp [Conn.takes, closed] at takes
            obtain ⟨path, past, inbox, same⟩ := receiveSegment_takes c th data takes
            have budget := stage_budget c th (rested isOpen) past.1
            have before := orderly.path path.spares
            have cache : (c.stage th).flow.oooCache = c.flow.oooCache := by
              rcases inbox with kept | flushed
              · exact congrArg Inbox.oooCache kept
              · exact (congrArg Inbox.oooCache flushed).trans (Inbox.flush_oooCache _)
            have next : (c.stage th).flow.rcvNxt = c.flow.rcvNxt := by
              rcases inbox with kept | flushed
              · exact congrArg Inbox.rcvNxt kept
              · exact (congrArg Inbox.rcvNxt flushed).trans (Inbox.flush_rcvNxt _)
            generalize c.stage th = d at path past budget before cache next same ⊢
            have fits : seqGt th.seq d.flow.rcvNxt = true →
                ¬Overfills d th.seq data (hasFlag th.flags tcpFin) := by
              intro early overfills
              rw [next] at early
              refine roomy ⟨takes, early, ?_⟩
              have cfg : d.eng.cfg = c.eng.cfg := congrArg Budget.cfg budget
              have account : d.eng.account = c.eng.account := congrArg Budget.account budget
              have queued : d.flow.rxBytes = c.flow.rxBytes := congrArg Budget.rxBytes budget
              have cached : d.flow.oooBytes = c.flow.oooBytes := congrArg Budget.oooBytes budget
              unfold Overfills admitOoo at overfills ⊢
              rwa [cfg, account, queued, cached, cache] at overfills
            have whole : Unfolds data.length .operation d (handlePayload d th data) :=
              Unfolds.handlePayload d th data past (Nat.le_refl _)
            have kept : Backed (handlePayload d th data).flow ∧
                (handlePayload d th data).eng.cfg.tcpOooMaxSegments ≤ bound ∧
                (handlePayload d th data).eng.cfg.maxRxQueuePerFlow < 2 ^ 64 := by
              refine whole.invariant (fun c => Backed c.flow ∧
                c.eng.cfg.tcpOooMaxSegments ≤ bound ∧ c.eng.cfg.maxRxQueuePerFlow < 2 ^ 64)
                ⟨before.backed, before.room, before.narrow⟩ ?_
              intro c effect here permits _
              have cfg : (flowMachine.act c effect).eng.cfg = c.eng.cfg :=
                apply_cfg c effect permits
              rw [cfg]
              exact ⟨apply_backed c effect here.1 permits, here.2⟩
            have capped : Capped bound (handlePayload d th data).flow :=
              handlePayload_capped d th data past filled before.capped before.room before.backed
                before.narrow fits
            rw [same]
            exact ⟨capped, kept.1, kept.2.1, kept.2.2⟩
    | _ => exact absurd rfl bare

/-- As long as no segment crowds the cache, it has as many segments as are counted, and never
more than the configured number, or one. -/
theorem run_capped (eng : TcpEngine) (id : FlowId) (key : FiveTuple) (th : TcpHeader)
    (payload data : List UInt8) (iss : UInt32) (events : List Event)
    (narrow : eng.cfg.maxRxQueuePerFlow < 2 ^ 64)
    (roomy : Always (fun c event => ¬Crowds c event) (openFlow eng id key th payload data iss)
      events) :
    let flow := (run (openFlow eng id key th payload data iss) events).flow
    flow.oooCache.size = flow.oooCount ∧ flow.oooCount ≤ max 1 eng.cfg.tcpOooMaxSegments := by
  have shelf := openFlow_shelf eng id key th payload data iss
  have cfg : (openFlow eng id key th payload data iss).eng.cfg = eng.cfg :=
    congrArg Times.cfg (openFlow_times eng id key th payload data iss)
  have start : Orderly (max 1 eng.cfg.tcpOooMaxSegments) (openFlow eng id key th payload data iss) :=
    ⟨Capped.bare shelf, Backed.bare shelf, by rw [cfg]; exact Nat.le_max_right _ _,
      by rwa [cfg]⟩
  have rested : (openFlow eng id key th payload data iss).flow.state ≠ .closed →
      (openFlow eng id key th payload data iss).inbox.Rested :=
    fun _ => openFlow_rested eng id key th payload data iss
  generalize openFlow eng id key th payload data iss = c at roomy start rested
  have orderly : Orderly (max 1 eng.cfg.tcpOooMaxSegments) (run c events) := by
    induction events generalizing c with
    | nil => exact start
    | cons event events ih =>
        exact ih _ roomy.2 (step_orderly c event rested start roomy.1) (step_rested c event rested)
  exact ⟨orderly.capped.tallied.symm, orderly.capped.tallied ▸ orderly.capped.bounded⟩

/-- Room for one segment; two bytes arrive early and one more right behind them. -/
def cappedEvents (flags : UInt8) : List Event :=
  [.accept, .segment (peerSegment 8 1001 tcpAck 1000) [],
    .segment (peerSegment 20 1001 flags 1000) [1, 2],
    .segment (peerSegment 22 1001 tcpAck 1000) [3]]

/-- The byte is joined to the two before it. -/
theorem capped_joined :
    let flow := (run (opened { tcpOooMaxSegments := 1 } 1000) (cappedEvents tcpAck)).flow
    flow.oooCache.size = flow.oooCount ∧ flow.oooCount ≤ 1 :=
  run_capped _ _ _ _ _ _ _ (cappedEvents tcpAck) (by decide) (by decide)

/-- Behind a FIN it is not, and takes a second place. -/
theorem capped_fails :
    let flow := (run (opened { tcpOooMaxSegments := 1 } 1000)
      (cappedEvents (tcpAck ||| tcpFin))).flow
    flow.oooCache.size = 2 ∧ flow.oooCount = 2 ∧ ¬flow.oooCount ≤ max 1 1 :=
  ⟨by decide, by decide, by decide⟩

end Tunio
