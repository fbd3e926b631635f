import Tunio.Layout

/-!
Calls of `ooo_append` and `flush_ooo` in any order.  As long as what is cached and what arrives
stay within half of the circle of the sequence numbers, the cache holds each byte once, its
counters are right, and a segment that is stored replaces what it overlaps and nothing else.
-/

namespace Tunio

open Machines Serial

/-- What is cached and the new segment are within less than half of the circle. -/
def Spanned (cache : OooCache) (seq : UInt32) (len : Nat) : Prop :=
  ∃ base, place base seq + len < 2 ^ 31 ∧
    ∀ (key : UInt32) (seg : OooSegment), cache[key]? = some seg →
      place base key + seg.data.length < 2 ^ 31

/-- No segment reaches over the start of another one, wherever they lie, and none is empty but a
bare FIN. -/
structure Parted (cache : OooCache) : Prop where
  spread : ∀ (key : UInt32) (seg : OooSegment) (key' : UInt32) (seg' : OooSegment),
    cache[key]? = some seg → cache[key']? = some seg' → key ≠ key' →
      seg.data.length ≤ (key' - key).toNat
  bare : ∀ (key : UInt32) (seg : OooSegment), cache[key]? = some seg → seg.data = [] →
    seg.fin = true

/-- The cache with its two counters. -/
structure Tidy (flow : TcpFlow) : Prop where
  parted : Parted flow.oooCache
  summed : flow.oooBytes = cachedBytes flow.oooCache
  counted : flow.oooCount = flow.oooCache.size

section

variable {base seq key : UInt32} {cache : OooCache} {old : OooSegment}

theorem Parted.placed (parted : Parted cache)
    (near : ∀ (key : UInt32) (seg : OooSegment), cache[key]? = some seg →
      place base key + seg.data.length < 2 ^ 31) : Placed base cache := by
  refine ⟨near, ?_, parted.bare⟩
  intro key seg key' seg' here there before
  have differ : key ≠ key' := by
    rintro rfl
    exact absurd before (Nat.lt_irrefl _)
  have spread := parted.spread key seg key' seg' here there differ
  have distance := sub_toNat_cases base key key'
  omega

theorem Placed.parted (placed : Placed base cache) : Parted cache := by
  refine ⟨?_, placed.bare⟩
  intro key seg key' seg' here there differ
  have apart : place base key ≠ place base key' := fun same => differ (place_inj same)
  have before := placed.spread key seg key' seg' here there
  have near := placed.near key seg here
  have near' := placed.near key' seg' there
  have distance := sub_toNat_cases base key key'
  omega

theorem Parted.erase (parted : Parted cache) (gone : UInt32) : Parted (cache.erase gone) :=
  ⟨fun key seg key' seg' here there =>
    parted.spread key seg key' seg' (erase_lookup here).2 (erase_lookup there).2,
    fun key seg here => parted.bare key seg (erase_lookup here).2⟩

theorem Parted.empty : Parted ∅ :=
  ⟨fun key seg _ _ here => by simp at here, fun key seg here => by simp at here⟩

/-! A FIN that is added to a cached segment. -/

theorem markFin_lookup {other : UInt32} {found : OooSegment}
    (there : (cache.modify key fun old => { old with fin := true })[other]? = some found) :
    ∃ old, cache[other]? = some old ∧ found.data = old.data ∧
      (old.fin = true → found.fin = true) := by
  rw [Std.TreeMap.getElem?_modify] at there
  split at there
  · rename_i same
    obtain rfl := Std.LawfulEqCmp.eq_of_compare same
    obtain ⟨old, present, rfl⟩ := Option.map_eq_some_iff.mp there
    exact ⟨old, present, rfl, fun _ => rfl⟩
  · exact ⟨found, there, rfl, id⟩

theorem markFin_kept (key : UInt32) {other : UInt32} {found : OooSegment} (there : cache[other]? = some found) :
    ∃ marked, (cache.modify key fun old => { old with fin := true })[other]? = some marked ∧
      marked.data = found.data := by
  rw [Std.TreeMap.getElem?_modify]
  split
  · rename_i same
    obtain rfl := Std.LawfulEqCmp.eq_of_compare same
    rw [there]
    exact ⟨_, rfl, rfl⟩
  · exact ⟨found, there, rfl⟩

theorem Parted.markFin (parted : Parted cache) (key : UInt32) :
    Parted (cache.modify key fun old => { old with fin := true }) := by
  refine ⟨?_, ?_⟩
  · intro left x right y here there differ
    obtain ⟨x', here', leftData, _⟩ := markFin_lookup here
    obtain ⟨y', there', _, _⟩ := markFin_lookup there
    rw [leftData]
    exact parted.spread left x' right y' here' there' differ
  · intro other found there empty
    obtain ⟨old, present, data, fin⟩ := markFin_lookup there
    exact fin (parted.bare other old present (data ▸ empty))

theorem markFin_lies {position : Nat} {byte : UInt8} :
    Lies base (cache.modify key fun old => { old with fin := true }) position byte ↔
      Lies base cache position byte := by
  constructor
  · rintro ⟨other, found, there, lower, present⟩
    obtain ⟨old, here, data, _⟩ := markFin_lookup there
    exact ⟨other, old, here, lower, data ▸ present⟩
  · rintro ⟨other, found, there, lower, present⟩
    obtain ⟨marked, here, data⟩ := markFin_kept key there
    exact ⟨other, marked, here, lower, data ▸ present⟩

theorem Placed.markFin (placed : Placed base cache) (key : UInt32) :
    Placed base (cache.modify key fun old => { old with fin := true }) := by
  refine (placed.parted.markFin key).placed ?_
  intro other found there
  obtain ⟨old, here, data, _⟩ := markFin_lookup there
  rw [data]
  exact placed.near other old here

theorem Placed.heldByte_congr {after : OooCache} (placed : Placed base cache)
    (placedAfter : Placed base after) (alike : HeldAlike base cache after) (word : UInt32) :
    heldByte after word = heldByte cache word := by
  refine Option.ext fun byte => ?_
  rw [placedAfter.heldByte_some, placed.heldByte_some, alike]

theorem Tidy.markFin {flow : TcpFlow} (tidy : Tidy flow) (key : UInt32) :
    Tidy { flow with oooCache := flow.oooCache.modify key fun old => { old with fin := true } } :=
  ⟨tidy.parted.markFin key, tidy.summed.trans (markFin_bytes _ _).symm,
    tidy.counted.trans (by dsimp only; rw [Std.TreeMap.size_modify])⟩

theorem Tidy.congr {flow flow' : TcpFlow} (same : flow'.shelf = flow.shelf) (tidy : Tidy flow) :
    Tidy flow' := by
  have cache : flow'.oooCache = flow.oooCache := congrArg Shelf.cache same
  have bytes : flow'.oooBytes = flow.oooBytes := congrArg Shelf.bytes same
  have count : flow'.oooCount = flow.oooCount := congrArg Shelf.count same
  refine ⟨?_, ?_, ?_⟩
  · rw [cache]
    exact tidy.parted
  · rw [cache, bytes]
    exact tidy.summed
  · rw [cache, count]
    exact tidy.counted

theorem Tidy.of_bare {flow : TcpFlow} (same : flow.shelf = Shelf.bare) : Tidy flow := by
  have cache : flow.oooCache = ∅ := congrArg Shelf.cache same
  have bytes : flow.oooBytes = 0 := congrArg Shelf.bytes same
  have count : flow.oooCount = 0 := congrArg Shelf.count same
  refine ⟨?_, ?_, ?_⟩
  · rw [cache]
    exact Parted.empty
  · rw [cache, bytes]
    rfl
  · rw [cache, count]
    rfl

/-! A bare FIN that is cached. -/

theorem scanFin_absent {entries : List (UInt32 × OooSegment)} (scan : scanFin seq entries = .absent)
    (member : (key, old) ∈ entries) :
    oooOffset seq key + old.data.length ≠ 0 ∧
      ¬(oooOffset seq key ≤ 0 ∧ oooOffset seq key + old.data.length > 0) := by
  induction entries with
  | nil => cases member
  | cons entry rest ih =>
      obtain ⟨first, seg⟩ := entry
      simp only [scanFin] at scan
      split at scan
      · split at scan <;> cases scan
      · rename_i stops
        split at scan
        · cases scan
        · rename_i reach
          rcases List.mem_cons.mp member with same | later
          · cases same
            exact ⟨stops, reach⟩
          · exact ih scan later

/-- Where a bare FIN is put, nothing is cached. -/
theorem Placed.fin (placed : Placed base cache) (near : place base seq < 2 ^ 31)
    (scan : scanFin seq cache.toList = .absent) :
    cache[seq]? = none ∧ Placed base (cache.insertIfNew seq { data := [], fin := true }) := by
  have beside (other : UInt32) (found : OooSegment) (there : cache[other]? = some found) :
      place base other + found.data.length < place base seq ∨ place base seq < place base other := by
    have nearOther := placed.near other found there
    have offset : oooOffset seq other = (place base other : Int) - place base seq :=
      oooOffset_place near (by omega)
    have apart := scanFin_absent scan (Std.TreeMap.mem_toList_iff_getElem?_eq_some.mpr there)
    rw [offset] at apart
    omega
  refine ⟨?_, placed.add seq { data := [], fin := true } ?_ ?_ ?_ ?_⟩
  · refine Option.eq_none_iff_forall_ne_some.mpr fun found there => ?_
    have apart := beside seq found there
    omega
  · simpa using near
  · exact fun _ => rfl
  · intro other found _ there
    have apart := beside other found there
    simp only [List.length_nil]
    omega
  · exact fun other found there => insertIfNew_lookup there

end

/-! What one call of `ooo_append` does. -/

/-- A refused segment changes neither the cache nor the account; a stored one is charged for what
it adds and replaces what it overlaps; one that adds only its FIN changes no byte; and trimming
puts nothing under a key that is taken. -/
structure Appends (c : Conn) (seq : UInt32) (data : List UInt8) (fin : Bool) : Prop where
  refused : (oooAppend c seq data fin).2 = false →
    (oooAppend c seq data fin).1.flow.shelf = c.flow.shelf ∧
      (oooAppend c seq data fin).1.eng.account = c.eng.account
  charged : (oooAppend c seq data fin).2 = true →
    overlapCount c.flow.oooCache seq data.length < data.length →
      c.eng.account.reserve (data.length - overlapCount c.flow.oooCache seq data.length) =
        some (oooAppend c seq data fin).1.eng.account
  stored : (oooAppend c seq data fin).2 = true →
    overlapCount c.flow.oooCache seq data.length < data.length → ∀ word,
      heldByte (oooAppend c seq data fin).1.flow.oooCache word =
        (data[(word - seq).toNat]?).or (heldByte c.flow.oooCache word)
  covers : (oooAppend c seq data fin).2 = true →
    overlapCount c.flow.oooCache seq data.length < data.length → ∀ word,
      ((heldByte (oooAppend c seq data fin).1.flow.oooCache word).isSome = true ↔
        (heldByte c.flow.oooCache word).isSome = true ∨ (word - seq).toNat < data.length)
  marked : (oooAppend c seq data fin).2 = true →
    overlapCount c.flow.oooCache seq data.length = data.length →
      (oooAppend c seq data fin).1.eng.account = c.eng.account ∧ ∀ word,
        heldByte (oooAppend c seq data fin).1.flow.oooCache word = heldByte c.flow.oooCache word
  fresh : data ≠ [] → ∀ earlier key later, c.flow.oooCache.keys = earlier ++ key :: later →
    ¬TrimCollides seq data.length (earlier.foldl (trimStep seq data.length) c.flow.oooCache) key

section

variable {base seq : UInt32} {data : List UInt8} {fin : Bool} {c : Conn}

theorem netAdd_eq (placed : Placed base c.flow.oooCache)
    (near : place base seq + data.length < 2 ^ 31) :
    sizeSub data.length (surveyOoo seq data.length c.flow.oooCache).overlap =
      data.length - overlapCount c.flow.oooCache seq data.length := by
  have bound := overlapCount_le c.flow.oooCache seq data.length
  rw [surveyOoo_overlap, placed.overlapping_eq near]
  unfold sizeSub
  rw [if_pos bound]

theorem appendFin_tidy (placed : Placed base c.flow.oooCache) (tidy : Tidy c.flow)
    (near : place base seq < 2 ^ 31) :
    Tidy (appendFin c seq).1.flow ∧ (appendFin c seq).1.eng.account = c.eng.account ∧
      ((appendFin c seq).2 = false → (appendFin c seq).1.flow.shelf = c.flow.shelf) ∧
      ∀ word, heldByte (appendFin c seq).1.flow.oooCache word = heldByte c.flow.oooCache word := by
  unfold appendFin
  split
  · exact ⟨tidy, rfl, fun _ => rfl, fun _ => rfl⟩
  · rename_i key scan
    refine ⟨tidy.markFin key, rfl, by simp, ?_⟩
    exact placed.heldByte_congr (placed.markFin key) fun _ _ => markFin_lies
  · rename_i scan
    split
    · exact ⟨tidy, rfl, fun _ => rfl, fun _ => rfl⟩
    · obtain ⟨fresh, inserted⟩ := placed.fin near scan
      have bytes : cachedBytes (c.flow.oooCache.insertIfNew seq { data := [], fin := true }) =
          0 + cachedBytes c.flow.oooCache := Stock.mass_insertIfNew _ _ _ fresh
      refine ⟨⟨inserted.parted, ?_, rfl⟩, rfl, by simp, ?_⟩
      · exact tidy.summed.trans (bytes.trans (Nat.zero_add _)).symm
      · refine placed.heldByte_congr inserted fun position byte => ⟨?_, ?_⟩
        · rintro ⟨other, found, there, lower, present⟩
          rcases insertIfNew_lookup there with ⟨rfl, rfl⟩ | kept
          · cases present
          · exact ⟨other, found, kept, lower, present⟩
        · rintro ⟨other, found, there, rest⟩
          exact ⟨other, found, insertIfNew_kept there _, rest⟩

/-- How a segment with data fares: it is refused, only its FIN is taken, or it is stored. -/
theorem appendData_cases (c : Conn) (seq : UInt32) (data : List UInt8) (fin : Bool)
    (netAdd : Nat)
    (count : sizeSub data.length (surveyOoo seq data.length c.flow.oooCache).overlap = netAdd) :
    (∃ d : Conn, appendData c seq data fin = (d, false) ∧ d.flow = c.flow ∧
        d.eng.account = c.eng.account) ∨
      (netAdd = 0 ∧ ∃ key, appendData c seq data fin = ({ c with
        flow.oooCache := c.flow.oooCache.modify key fun old => { old with fin := true } }, true)) ∨
      (netAdd ≠ 0 ∧ ∃ account incoming, c.eng.account.reserve netAdd = some account ∧
        incoming.data = data ∧ appendData c seq data fin = ({ c with
          eng.account := account
          flow.oooCache := storeOoo c.flow.oooCache seq incoming
          flow.oooBytes := c.flow.oooBytes + netAdd
          flow.oooCount := (storeOoo c.flow.oooCache seq incoming).size }, true)) := by
  unfold appendData
  dsimp only
  rw [count]
  split
  · rename_i none
    split
    · exact Or.inl ⟨c, rfl, rfl, rfl⟩
    · split
      · exact Or.inl ⟨c, rfl, rfl, rfl⟩
      · rename_i key _
        exact Or.inr (Or.inl ⟨none, key, rfl⟩)
  · rename_i some_
    split
    · exact Or.inl ⟨countDropped c, rfl, rfl, rfl⟩
    · rename_i account admitted
      refine Or.inr (Or.inr ⟨some_, account, _, ?_, rfl, rfl⟩)
      unfold admitOoo at admitted
      split at admitted
      · cases admitted
      · split at admitted
        · cases admitted
        · exact admitted

theorem appendData_tidy (placed : Placed base c.flow.oooCache) (tidy : Tidy c.flow)
    (near : place base seq + data.length < 2 ^ 31) (filled : 0 < data.length) :
    Tidy (appendData c seq data fin).1.flow := by
  have bound := overlapCount_le c.flow.oooCache seq data.length
  rcases appendData_cases c seq data fin _ (netAdd_eq placed near) with
    ⟨d, result, flow, _⟩ | ⟨_, key, result⟩ | ⟨_, account, incoming, _, rfl, result⟩
  · rw [result, flow]
    exact tidy
  · rw [result]
    exact tidy.markFin key
  · have exact_ := storeOoo_exact placed filled near
    rw [placed.overlapping_eq near] at exact_
    have summed := tidy.summed
    rw [result]
    refine ⟨(storeOoo_placed placed filled near).parted, ?_, rfl⟩
    dsimp only
    omega

theorem oooAppend_tidy (placed : Placed base c.flow.oooCache) (tidy : Tidy c.flow)
    (near : place base seq + data.length < 2 ^ 31) : Tidy (oooAppend c seq data fin).1.flow := by
  unfold oooAppend
  split
  · split
    · exact (appendFin_tidy placed tidy (by omega)).1
    · exact tidy
  · exact appendData_tidy placed tidy near (by omega)

theorem appendData_appends (placed : Placed base c.flow.oooCache)
    (near : place base seq + data.length < 2 ^ 31) (filled : 0 < data.length) :
    Appends c seq data fin := by
  have same : oooAppend c seq data fin = appendData c seq data fin := by
    unfold oooAppend
    rw [if_neg (Nat.ne_of_gt filled)]
  have fresh (earlier : List UInt32) (key : UInt32) (later : List UInt32)
      (keys : c.flow.oooCache.keys = earlier ++ key :: later) :=
    trimOoo_fresh placed filled near keys
  rcases appendData_cases c seq data fin _ (netAdd_eq placed near) with
    ⟨d, result, flow, account⟩ | ⟨none, key, result⟩ |
      ⟨some_, account, incoming, reserved, rfl, result⟩
  · rw [← same] at result
    refine ⟨?_, ?_, ?_, ?_, ?_, fun _ => fresh⟩
    · rw [result]
      exact fun _ => ⟨congrArg TcpFlow.shelf flow, account⟩
    all_goals
      rw [result]
      exact fun impossible => absurd impossible Bool.false_ne_true
  · rw [← same] at result
    refine ⟨?_, fun _ less => ?_, fun _ less => ?_, fun _ less => ?_, ?_, fun _ => fresh⟩
    · rw [result]
      intro impossible
      cases impossible
    · omega
    · omega
    · omega
    · rw [result]
      exact fun _ _ => ⟨rfl, placed.heldByte_congr (placed.markFin key) fun _ _ => markFin_lies⟩
  · rw [← same] at result
    have held (word : UInt32) : heldByte (storeOoo c.flow.oooCache seq incoming) word =
        (incoming.data[(word - seq).toNat]?).or (heldByte c.flow.oooCache word) :=
      storeOoo_heldByte placed filled near word
    refine ⟨?_, ?_, ?_, ?_, fun _ whole => ?_, fun _ => fresh⟩
    · rw [result]
      intro impossible
      cases impossible
    · rw [result]
      exact fun _ _ => reserved
    · rw [result]
      exact fun _ _ => held
    · rw [result]
      intro _ _ word
      rw [held, Option.isSome_or, Bool.or_eq_true, or_comm]
      simp
    · omega

theorem oooAppend_appends (placed : Placed base c.flow.oooCache) (tidy : Tidy c.flow)
    (near : place base seq + data.length < 2 ^ 31) : Appends c seq data fin := by
  by_cases empty : data = []
  · subst empty
    have only : (oooAppend c seq [] fin).1.eng.account = c.eng.account ∧
        ((oooAppend c seq [] fin).2 = false →
          (oooAppend c seq [] fin).1.flow.shelf = c.flow.shelf) ∧
        ∀ word, heldByte (oooAppend c seq [] fin).1.flow.oooCache word =
          heldByte c.flow.oooCache word := by
      unfold oooAppend
      rw [if_pos List.length_nil]
      split
      · exact (appendFin_tidy placed tidy near).2
      · exact ⟨rfl, fun _ => rfl, fun _ => rfl⟩
    refine ⟨fun refused => ⟨only.2.1 refused, only.1⟩, fun _ less => ?_, fun _ less => ?_,
      fun _ less => ?_, fun _ _ => ⟨only.1, only.2.2⟩, fun filled => absurd rfl filled⟩
    all_goals exact absurd less (Nat.not_lt_zero _)
  · exact appendData_appends placed near (List.length_pos_iff.mpr empty)

end

/-! What `flush_ooo` does. -/

section

variable {c : Conn} {key : UInt32} {seg : OooSegment}

/-- The cache and the sum of its bytes, while the entries are still to be counted. -/
structure Totalled (flow : TcpFlow) : Prop where
  parted : Parted flow.oooCache
  summed : flow.oooBytes = cachedBytes flow.oooCache

theorem Totalled.congr {flow flow' : TcpFlow} (same : flow'.shelf = flow.shelf)
    (totalled : Totalled flow) : Totalled flow' := by
  have cache : flow'.oooCache = flow.oooCache := congrArg Shelf.cache same
  have bytes : flow'.oooBytes = flow.oooBytes := congrArg Shelf.bytes same
  refine ⟨?_, ?_⟩
  · rw [cache]
    exact totalled.parted
  · rw [cache, bytes]
    exact totalled.summed

theorem erase_summed {flow : TcpFlow} (present : flow.oooCache[key]? = some seg)
    (summed : flow.oooBytes = cachedBytes flow.oooCache) :
    sizeSub flow.oooBytes seg.data.length = cachedBytes (flow.oooCache.erase key) := by
  have gone : cachedBytes flow.oooCache = seg.data.length + cachedBytes (flow.oooCache.erase key) :=
    Stock.mass_remove _ present
  unfold sizeSub
  rw [if_pos (by omega)]
  omega

theorem Totalled.discard (totalled : Totalled c.flow) (present : c.flow.oooCache[key]? = some seg) :
    Totalled (discardOoo c key seg).flow := by
  have summed := erase_summed present totalled.summed
  refine ⟨?_, ?_⟩
  · rw [discardOoo_oooCache]
    exact totalled.parted.erase key
  · unfold discardOoo
    dsimp only
    split
    · exact summed
    · rename_i empty
      refine Eq.trans ?_ summed
      unfold sizeSub
      rw [if_pos (by omega)]
      omega

theorem Tidy.take (tidy : Tidy c.flow) (present : c.flow.oooCache[key]? = some seg) :
    Tidy (takeOoo c key seg).flow := by
  have fewer := size_erase_present present
  refine Tidy.congr (notifyWindowUpdated_shelf _) ⟨?_, ?_, ?_⟩
  · exact tidy.parted.erase key
  · exact erase_summed present tidy.summed
  · change sizeSub c.flow.oooCount 1 = (c.flow.oooCache.erase key).size
    rw [tidy.counted]
    unfold sizeSub
    rw [if_pos (by omega)]
    omega

theorem deliverOoo_tidy (fuel : Nat) (c : Conn) (delivered : Bool) (tidy : Tidy c.flow) :
    Tidy (deliverOoo fuel c delivered).1.flow := by
  induction fuel generalizing c delivered with
  | zero => exact tidy
  | succ fuel ih =>
      unfold deliverOoo
      split
      · exact tidy
      · rename_i key seg ready
        have taken := tidy.take (readyOoo_cached c.flow key seg ready)
        have round : Tidy (finOoo (deliverFresh (takeOoo c key seg) key seg) key seg).flow :=
          taken.congr ((finOoo_shelf _ key seg).trans (deliverFresh_shelf _ key seg))
        dsimp only
        split
        · exact round
        · exact ih _ true round

theorem finOoo_closed (c : Conn) (key : UInt32) (seg : OooSegment) :
    (finOoo c key seg).flow.state = .closed ↔ c.flow.state = .closed :=
  (Quiet.finOoo c key seg).drift.closed_iff

/-- On a closed flow the first loop takes nothing out. -/
theorem pruneOoo_closed (entries : List (UInt32 × OooSegment)) (c : Conn) (pruned : Bool)
    (closed : c.flow.state = .closed) :
    (pruneOoo entries c pruned).1.flow.shelf = c.flow.shelf := by
  induction entries generalizing pruned with
  | nil => rfl
  | cons entry rest ih =>
      unfold pruneOoo
      split
      · exact ih pruned
      · dsimp only
        rw [if_pos ((finOoo_closed c entry.1 entry.2).mpr closed)]
        exact finOoo_shelf c entry.1 entry.2

/-- On an open one it runs to its end. -/
theorem pruneOoo_totalled (entries : List (UInt32 × OooSegment)) (c : Conn) (pruned : Bool)
    (isOpen : c.flow.state ≠ .closed) (distinct : (entries.map Prod.fst).Nodup)
    (present : ∀ entry ∈ entries, c.flow.oooCache[entry.1]? = some entry.2)
    (totalled : Totalled c.flow) :
    (pruneOoo entries c pruned).2 ≠ none ∧ Totalled (pruneOoo entries c pruned).1.flow := by
  induction entries generalizing c pruned with
  | nil => exact ⟨Option.some_ne_none _, totalled⟩
  | cons entry rest ih =>
      obtain ⟨apart, distinct⟩ := List.nodup_cons.mp distinct
      have later : ∀ other ∈ rest, c.flow.oooCache[other.1]? = some other.2 :=
        fun other member => present other (List.mem_cons_of_mem _ member)
      unfold pruneOoo
      split
      · exact ih c pruned isOpen distinct later totalled
      · have still : (finOoo c entry.1 entry.2).flow.state ≠ .closed :=
          mt (finOoo_closed c entry.1 entry.2).mp isOpen
        have cache := finOoo_oooCache c entry.1 entry.2
        dsimp only
        rw [if_neg still]
        refine ih _ true ?_ distinct ?_ ?_
        · rwa [discardOoo_state]
        · intro other member
          have differ : other.1 ≠ entry.1 := fun same =>
            apart (List.mem_map.mpr ⟨other, member, same⟩)
          rw [discardOoo_oooCache, cache, erase_other differ]
          exact later other member
        · refine (totalled.congr (finOoo_shelf c entry.1 entry.2)).discard ?_
          rw [cache]
          exact present entry List.mem_cons_self

/-- The first loop leaves the counters right but for the count, and all as it was where it
stops early. -/
theorem pruneOoo_tidy (c : Conn) (tidy : Tidy c.flow) :
    Totalled (pruneOoo c.flow.oooCache.toList c false).1.flow ∧
      ((pruneOoo c.flow.oooCache.toList c false).2 = none →
        (pruneOoo c.flow.oooCache.toList c false).1.flow.shelf = c.flow.shelf) := by
  have totalled : Totalled c.flow := ⟨tidy.parted, tidy.summed⟩
  by_cases closed : c.flow.state = .closed
  · have same := pruneOoo_closed c.flow.oooCache.toList c false closed
    exact ⟨totalled.congr same, fun _ => same⟩
  · have distinct : (c.flow.oooCache.toList.map Prod.fst).Nodup := by
      rw [Std.TreeMap.map_fst_toList_eq_keys]
      exact Std.TreeMap.nodup_keys
    obtain ⟨ran, kept⟩ := pruneOoo_totalled c.flow.oooCache.toList c false closed distinct
      (fun entry member => Std.TreeMap.mem_toList_iff_getElem?_eq_some.mp member) totalled
    exact ⟨kept, fun stopped => absurd stopped ran⟩

theorem flushOoo_tidy (c : Conn) (tidy : Tidy c.flow) : Tidy (flushOoo c).flow := by
  have announced (c : Conn) (pruned delivered : Bool) :
      (announceOoo c pruned delivered).flow.shelf = c.flow.shelf := by
    unfold announceOoo
    split
    · exact sendAck_shelf _
    · split
      · exact notifyWindowUpdated_shelf _
      · rfl
  obtain ⟨totalled, unchanged⟩ := pruneOoo_tidy c tidy
  unfold flushOoo
  split
  · rename_i d result
    rw [result] at unchanged
    exact tidy.congr (unchanged rfl)
  · rename_i d pruned result
    rw [result] at totalled
    have counted : Tidy (countCached d).flow := ⟨totalled.parted, totalled.summed, rfl⟩
    have delivered := deliverOoo_tidy (d.flow.oooCache.size + 1) (countCached d) false counted
    split
    · rename_i result
      rw [result] at delivered
      exact delivered
    · rename_i result
      rw [result] at delivered
      exact delivered.congr (announced _ _ _)

end

/-! Any sequence of calls. -/

/-- The connections that calls of `ooo_append` and `flush_ooo` lead to from an empty cache, with
anything in between that leaves the cache alone. -/
inductive Caches : Conn → Prop
  | start {c : Conn} (bare : c.flow.shelf = Shelf.bare) : Caches c
  | append {c : Conn} (caches : Caches c) (seq : UInt32) (data : List UInt8) (fin : Bool)
      (spanned : Spanned c.flow.oooCache seq data.length) : Caches (oooAppend c seq data fin).1
  | flush {c : Conn} (caches : Caches c) : Caches (flushOoo c)
  | elsewhere {c next : Conn} (caches : Caches c) (same : next.flow.shelf = c.flow.shelf) :
      Caches next

theorem Caches.tidy {c : Conn} (caches : Caches c) : Tidy c.flow := by
  induction caches with
  | start bare => exact Tidy.of_bare bare
  | append caches seq data fin spanned ih =>
      obtain ⟨base, near, cached⟩ := spanned
      exact oooAppend_tidy (ih.parted.placed cached) ih near
  | flush caches ih => exact flushOoo_tidy _ ih
  | elsewhere caches same ih => exact ih.congr same

/-- What is cached and how it is counted. -/
structure Layout (flow : TcpFlow) : Prop where
  disjoint : ∀ (key : UInt32) (seg : OooSegment) (key' : UInt32) (seg' : OooSegment),
    flow.oooCache[key]? = some seg → flow.oooCache[key']? = some seg' → key ≠ key' →
      ∀ index < seg.data.length, ∀ index' < seg'.data.length,
        key + UInt32.ofNat index ≠ key' + UInt32.ofNat index'
  summed : flow.oooBytes = cachedBytes flow.oooCache
  counted : flow.oooCount = flow.oooCache.size
  fins : ∀ (key : UInt32) (seg : OooSegment) (key' : UInt32) (seg' : OooSegment),
    flow.oooCache[key]? = some seg → flow.oooCache[key']? = some seg' → seg.data = [] →
      seg.fin = true → ∀ index < seg'.data.length, key ≠ key' + UInt32.ofNat index

theorem shifted_sub (key key' : UInt32) {index index' : Nat} (less : index' ≤ index)
    (small : index < 2 ^ 32) (same : key + UInt32.ofNat index = key' + UInt32.ofNat index') :
    (key' - key).toNat = index - index' := by
  have numbers := congrArg UInt32.toNat same
  have keyBound := key.toNat_lt
  have keyBound' := key'.toNat_lt
  rw [UInt32.toNat_add, UInt32.toNat_add, UInt32.toNat_ofNat', UInt32.toNat_ofNat'] at numbers
  rw [UInt32.toNat_sub]
  omega

/-- A number that a segment reaches is not reached by another one. -/
theorem Parted.apart {cache : OooCache} (parted : Parted cache) {key key' : UInt32}
    {seg seg' : OooSegment} (here : cache[key]? = some seg) (there : cache[key']? = some seg')
    (differ : key ≠ key') {index index' : Nat} (inside : index < seg.data.length ∨ index = 0)
    (inside' : index' < seg'.data.length) :
    key + UInt32.ofNat index ≠ key' + UInt32.ofNat index' := by
  intro same
  have spread := parted.spread key seg key' seg' here there differ
  have spread' := parted.spread key' seg' key seg there here (Ne.symm differ)
  have bound := (key' - key).toNat_lt
  have bound' := (key - key').toNat_lt
  by_cases less : index' ≤ index
  · have distance := shifted_sub key key' less (by omega) same
    rcases inside with inner | first
    · omega
    · obtain rfl : index' = 0 := by omega
      rw [first] at same
      exact differ ((UInt32.add_left_inj _).mp same)
  · have distance := shifted_sub key' key (by omega) (by omega) same.symm
    omega

theorem Tidy.layout {flow : TcpFlow} (tidy : Tidy flow) : Layout flow := by
  refine ⟨?_, tidy.summed, tidy.counted, ?_⟩
  · intro key seg key' seg' here there differ index inside index' inside'
    exact tidy.parted.apart here there differ (Or.inl inside) inside'
  · intro key seg key' seg' here there empty _ index inside same
    by_cases differ : key = key'
    · subst differ
      obtain rfl := Option.some.inj (here.symm.trans there)
      rw [empty] at inside
      exact absurd inside (Nat.not_lt_zero _)
    · have apart : key + UInt32.ofNat 0 ≠ key' + UInt32.ofNat index :=
        tidy.parted.apart here there differ (Or.inr rfl) inside
      exact apart (by simpa using same)

/-- In every such sequence the cache is laid out well, and whatever call of `ooo_append` comes
next does as it should. -/
theorem caches_layout {c : Conn} (caches : Caches c) :
    Layout c.flow ∧ ∀ (seq : UInt32) (data : List UInt8) (fin : Bool),
      Spanned c.flow.oooCache seq data.length → Appends c seq data fin := by
  have tidy := caches.tidy
  refine ⟨tidy.layout, fun seq data fin spanned => ?_⟩
  obtain ⟨base, near, cached⟩ := spanned
  exact oooAppend_appends (tidy.parted.placed cached) tidy near

/-- Four bytes are cached where the sequence numbers wrap around. -/
def wrapped : Conn := (oooAppend (opened {} 1000) 0xfffffffe [1, 2, 3, 4] false).1

/-- Five more bytes arrive that overlap three of them. -/
theorem caches_layout_wrapped :
    Layout wrapped.flow ∧ overlapCount wrapped.flow.oooCache 0xffffffff 5 = 3 ∧
      (oooAppend wrapped 0xffffffff [5, 6, 7, 8, 9] true).2 = true ∧
      Appends wrapped 0xffffffff [5, 6, 7, 8, 9] true := by
  have first : Spanned (opened {} 1000).flow.oooCache 0xfffffffe 4 :=
    ⟨0xfffffffe, by decide, fun key seg present => by
      rw [show (opened {} 1000).flow.oooCache = ∅ from rfl] at present
      simp at present⟩
  have caches : Caches wrapped := .append (.start rfl) 0xfffffffe [1, 2, 3, 4] false first
  have cached : wrapped.flow.oooCache.toList =
      [(0xfffffffe, { data := [1, 2, 3, 4], fin := false })] := by decide
  have spanned : Spanned wrapped.flow.oooCache 0xffffffff 5 := by
    refine ⟨0xfffffffe, by decide, fun key seg present => ?_⟩
    rw [← Std.TreeMap.mem_toList_iff_getElem?_eq_some, cached, List.mem_singleton] at present
    cases present
    decide
  obtain ⟨layout, appends⟩ := caches_layout caches
  exact ⟨layout, by decide, by decide, appends _ _ _ spanned⟩

end Tunio
