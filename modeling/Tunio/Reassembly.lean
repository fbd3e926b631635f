import Tunio.Cache
import Tunio.Stored
import Tunio.Frame

/-!
One segment of the stream.  `handle_data` takes it in, caches it or drops it, and
`flush_ooo` empties the cache as far as the stream has become contiguous; the inbox
holds a prefix of the stream before and after.
-/

namespace Tunio

open Serial Slices

section

variable {stream : List UInt8} {ends : Bool} {base : UInt32} {ref taken : Nat}

theorem discardOoo_inbox (c : Conn) (key : UInt32) (seg : OooSegment) :
    (discardOoo c key seg).inbox = { c.inbox with oooCache := c.flow.oooCache.erase key } := by
  unfold discardOoo
  dsimp only
  split <;> rfl

theorem takeOoo_inbox (c : Conn) (key : UInt32) (seg : OooSegment) :
    (takeOoo c key seg).inbox = { c.inbox with oooCache := c.flow.oooCache.erase key } := by
  unfold takeOoo
  dsimp only
  rw [notifyWindowUpdated_inbox]
  rfl

theorem oooAppend_inbox (c : Conn) (seq : UInt32) (data : List UInt8) (fin : Bool) :
    (oooAppend c seq data fin).1.inbox =
      { c.inbox with oooCache := (oooAppend c seq data fin).1.flow.oooCache } := by
  unfold oooAppend appendFin appendData
  dsimp only
  repeat' split
  all_goals rfl

/-- A flow in the middle of `flush_ooo`: its cache is still counted from `ref`, where
`rcv_nxt` stood before the segment that is being processed. -/
structure Flushing (stream : List UInt8) (ends : Bool) (base : UInt32) (ref taken : Nat)
    (c : Conn) : Prop where
  stored : Stored stream ends base taken c.inbox
  cache : CacheOk stream ends base ref c.flow.oooCache
  lower : ref ≤ taken
  upper : taken < ref + 2 ^ 31
  isOpen : c.flow.state ≠ .closed

theorem Flushing.next (flushing : Flushing stream ends base ref taken c) :
    c.flow.rcvNxt = num base (taken + c.flow.finReceived.toNat) := flushing.stored.next

theorem Flushing.finished (flushing : Flushing stream ends base ref taken c)
    (fin : c.flow.finReceived = true) : taken = stream.length := (flushing.stored.fin fin).2

/-- A cached segment that has not been passed altogether. -/
def Live (taken position : Nat) (seg : OooSegment) : Prop :=
  taken ≤ position ∨ taken < position + seg.data.length

/-- The FIN of a cached segment is processed exactly when the stream has been taken in. -/
theorem finOoo_stored (c : Conn) (key : UInt32) (seg : OooSegment)
    (stored : Stored stream ends base taken c.inbox) (lower : ref ≤ taken)
    (upper : taken < ref + 2 ^ 31)
    (slot : Slot stream ends ref (above base ref key) seg) :
    Stored stream ends base taken (finOoo c key seg).inbox ∧
      ((finOoo c key seg) = c ∨ (finOoo c key seg).flow.finReceived = true) := by
  have beyond := slot.beyond
  have near := slot.near
  unfold finOoo
  split
  · rename_i due
    obtain ⟨finished, last⟩ := slot.fin due.1
    have next : c.flow.rcvNxt = num base (taken + c.flow.finReceived.toNat) := stored.next
    have width := c.flow.finReceived.toNat_le
    have same : above base ref key + seg.data.length = taken + c.flow.finReceived.toNat := by
      refine num_inj base ?_ (by omega) (by omega)
      rw [← segmentEnd_eq, due.2, next]
    have all : taken = stream.length := by
      cases fin : c.flow.finReceived with
      | true => exact (stored.fin fin).2
      | false =>
          rw [fin] at same
          simpa [last] using same.symm
    have received : (handleFin c (segmentEnd key seg)).inbox = c.inbox.takeFin.flush := by
      rw [handleFin_inbox, Inbox.fin, if_pos]
      exact due.2
    have now : c.inbox.takeFin.finReceived = true := by
      unfold Inbox.takeFin
      split
      · assumption
      · rfl
    refine ⟨?_, Or.inr ?_⟩
    · rw [received]
      exact stored.takeFin finished all
    · have flag := congrArg Inbox.finReceived received
      rw [Inbox.flush_finReceived, now] at flag
      exact flag
  · exact ⟨stored, Or.inl rfl⟩

theorem finOoo_flushing (c : Conn) (key : UInt32) (seg : OooSegment)
    (flushing : Flushing stream ends base ref taken c)
    (slot : Slot stream ends ref (above base ref key) seg) :
    Flushing stream ends base ref taken (finOoo c key seg) := by
  have fin := finOoo_stored c key seg flushing.stored flushing.lower flushing.upper slot
  have quiet := Quiet.finOoo c key seg
  refine ⟨fin.1, ?_, flushing.lower, flushing.upper, ?_⟩
  · rw [finOoo_oooCache]
    exact flushing.cache
  · exact fun closed => flushing.isOpen (quiet.drift.closed_iff.mp closed)

theorem discardOoo_flushing (c : Conn) (key : UInt32) (seg : OooSegment)
    (flushing : Flushing stream ends base ref taken c) :
    Flushing stream ends base ref taken (discardOoo c key seg) := by
  refine ⟨?_, ?_, flushing.lower, flushing.upper, ?_⟩
  · rw [discardOoo_inbox]
    exact flushing.stored.cache _
  · rw [discardOoo_oooCache]
    exact flushing.cache.erase key
  · rw [discardOoo_state]
    exact flushing.isOpen

/-- The first loop removes what has been passed altogether. -/
theorem pruneOoo_flushing (entries : List (UInt32 × OooSegment)) (c : Conn) (pruned : Bool)
    (flushing : Flushing stream ends base ref taken c)
    (slots : ∀ entry ∈ entries, Slot stream ends ref (above base ref entry.1) entry.2)
    (pending : c.flow.finReceived = false → ∀ (key : UInt32) (seg : OooSegment),
      c.flow.oooCache[key]? = some seg →
        (key, seg) ∈ entries ∨ Live taken (above base ref key) seg) :
    Flushing stream ends base ref taken (pruneOoo entries c pruned).1 ∧
      (pruneOoo entries c pruned).2 ≠ none ∧
      ((pruneOoo entries c pruned).1.flow.finReceived = false →
        ∀ (key : UInt32) (seg : OooSegment),
          (pruneOoo entries c pruned).1.flow.oooCache[key]? = some seg →
            Live taken (above base ref key) seg) := by
  induction entries generalizing c pruned with
  | nil =>
      exact ⟨flushing, by simp [pruneOoo], fun unfinished key seg lookup =>
        (pending unfinished key seg lookup).resolve_left (by simp)⟩
  | cons entry rest ih =>
      obtain ⟨key, seg⟩ := entry
      have slot : Slot stream ends ref (above base ref key) seg :=
        slots (key, seg) List.mem_cons_self
      have beyond := slot.beyond
      have near := slot.near
      have lower := flushing.lower
      have upper := flushing.upper
      have width := c.flow.finReceived.toNat_le
      have slotsRest : ∀ later ∈ rest,
          Slot stream ends ref (above base ref later.1) later.2 :=
        fun later member => slots later (List.mem_cons_of_mem _ member)
      unfold pruneOoo
      rw [flushing.next, segmentEnd_eq base ref, seqGe_num base _ _ (by omega) (by omega)]
      split
      · rename_i kept
        refine ih c pruned flushing slotsRest fun unfinished other found lookup => ?_
        rcases pending unfinished other found lookup with member | live
        · rcases List.mem_cons.mp member with same | later
          · cases same
            refine Or.inr (Or.inr ?_)
            rw [unfinished] at kept
            simpa using kept
          · exact Or.inl later
        · exact Or.inr live
      · have finished := finOoo_flushing c key seg flushing slot
        dsimp only
        rw [if_neg finished.isOpen]
        refine ih _ true (discardOoo_flushing _ key seg finished) slotsRest ?_
        intro unfinished other found lookup
        rw [discardOoo_oooCache] at lookup
        obtain ⟨differ, old⟩ := erase_lookup lookup
        have untouched : finOoo c key seg = c := by
          have cases' := (finOoo_stored c key seg flushing.stored lower upper slot).2
          refine cases'.resolve_right fun received => ?_
          have flag := congrArg Inbox.finReceived (discardOoo_inbox (finOoo c key seg) key seg)
          exact absurd (flag.symm.trans unfinished) (by simp [Conn.inbox, received])
        rw [untouched] at old unfinished
        have stillOpen : c.flow.finReceived = false := by
          have flag := congrArg Inbox.finReceived (discardOoo_inbox c key seg)
          exact flag.symm.trans unfinished
        rcases pending stillOpen other found old with member | live
        · rcases List.mem_cons.mp member with same | later
          · cases same
            exact absurd rfl differ
          · exact Or.inl later
        · exact Or.inr live

theorem deliverData_stored (c : Conn) (data : List UInt8)
    (stored : Stored stream ends base taken c.inbox) (isOpen : c.flow.state ≠ .closed)
    (unfinished : c.flow.finReceived = false) (slice : Slice stream taken data) :
    ∃ taken', (taken' = taken ∨ taken' = taken + data.length) ∧
      Stored stream ends base taken' (deliverData c data).inbox ∧
      (deliverData c data).flow.finReceived = false := by
  rcases deliverData_inbox c data isOpen stored.reading with refused | placed
  · refine ⟨taken, Or.inl rfl, by rwa [refused], ?_⟩
    exact (congrArg Inbox.finReceived refused).trans unfinished
  · refine ⟨taken + data.length, Or.inr rfl, ?_, ?_⟩
    · rw [placed]
      exact stored.place data slice unfinished
    · exact ((congrArg Inbox.finReceived placed).trans (Inbox.place_finReceived _ _)).trans
        unfinished

/-- A cached segment that is ready covers `rcv_nxt` or starts there. -/
theorem readyOoo_spec (c : Conn) (key : UInt32) (seg : OooSegment)
    (flushing : Flushing stream ends base ref taken c) (ready : readyOoo c.flow = some (key, seg)) :
    c.flow.oooCache[key]? = some seg ∧ c.flow.finReceived = false ∧
      above base ref key ≤ taken ∧
      (above base ref key = taken ∨ taken < above base ref key + seg.data.length) := by
  have member := List.mem_of_find?_eq_some ready
  have present := Std.TreeMap.mem_toList_iff_getElem?_eq_some.mp member
  have test := List.find?_some ready
  have slot := flushing.cache.slot key seg present
  have beyond := slot.beyond
  have near := slot.near
  have inside := slot.slice.bound
  have lower := flushing.lower
  have upper := flushing.upper
  have width := c.flow.finReceived.toNat_le
  have finished := flushing.finished
  have word : key = num base (above base ref key) := (num_above base ref key).symm
  have wordEnd : segmentEnd key seg = num base (above base ref key + seg.data.length) :=
    segmentEnd_eq base ref key seg
  simp only [Bool.or_eq_true, Bool.and_eq_true, beq_iff_eq] at test
  rw [wordEnd, flushing.next] at test
  generalize above base ref key = position at *
  subst word
  rw [num_eq_iff base _ _ (by omega) (by omega), seqGt_num base _ _ (by omega) (by omega),
    seqGt_num base _ _ (by omega) (by omega), decide_eq_true_eq, decide_eq_true_eq] at test
  cases fin : c.flow.finReceived with
  | true =>
      have all := finished fin
      rw [fin] at test
      simp only [Bool.toNat_true] at test
      omega
  | false =>
      rw [fin] at test
      simp only [Bool.toNat_false] at test
      exact ⟨present, rfl, by omega, by omega⟩

theorem takeOoo_flushing (c : Conn) (key : UInt32) (seg : OooSegment)
    (flushing : Flushing stream ends base ref taken c) :
    Flushing stream ends base ref taken (takeOoo c key seg) := by
  refine ⟨?_, ?_, flushing.lower, flushing.upper, ?_⟩
  · rw [takeOoo_inbox]
    exact flushing.stored.cache _
  · rw [takeOoo_oooCache]
    exact flushing.cache.erase key
  · rw [takeOoo_state]
    exact flushing.isOpen

theorem deliverFresh_flushing (c : Conn) (key : UInt32) (seg : OooSegment)
    (flushing : Flushing stream ends base ref taken c) (unfinished : c.flow.finReceived = false)
    (slot : Slot stream ends ref (above base ref key) seg)
    (reached : above base ref key ≤ taken) :
    ∃ taken', (taken' = taken ∨ taken' = above base ref key + seg.data.length) ∧ taken ≤ taken' ∧
      Flushing stream ends base ref taken' (deliverFresh c key seg) ∧
      (deliverFresh c key seg).flow.finReceived = false := by
  have beyond := slot.beyond
  have near := slot.near
  have lower := flushing.lower
  have upper := flushing.upper
  have skip : oooSkip c.flow key = taken - above base ref key := by
    have next := flushing.next
    rw [unfinished, Bool.toNat_false, Nat.add_zero] at next
    unfold oooSkip
    rw [next]
    conv_lhs => rw [← num_above base ref key]
    split
    · rename_i same
      have position := num_inj base same (by omega) (by omega)
      omega
    · exact num_sub_toNat base taken _ reached (by omega)
  unfold deliverFresh
  dsimp only
  rw [skip]
  split
  · rename_i fresh
    have slice := slot.slice.drop (taken - above base ref key) (by omega)
    have start : above base ref key + (taken - above base ref key) = taken := by omega
    rw [start] at slice
    obtain ⟨taken', advance, stored, stillUnfinished⟩ :=
      deliverData_stored c _ flushing.stored flushing.isOpen unfinished slice
    rw [List.length_drop] at advance
    refine ⟨taken', by omega, by omega, ⟨stored, ?_, by omega, by omega, ?_⟩, stillUnfinished⟩
    · rw [deliverData_oooCache]
      exact flushing.cache
    · rw [deliverData_state]
      exact flushing.isOpen
  · exact ⟨taken, Or.inl rfl, Nat.le_refl _, flushing, unfinished⟩

theorem deliverOoo_flushing (fuel : Nat) (c : Conn) (delivered : Bool)
    (flushing : Flushing stream ends base ref taken c) (enough : c.flow.oooCache.size < fuel)
    (live : c.flow.finReceived = false → ∀ (key : UInt32) (seg : OooSegment),
      c.flow.oooCache[key]? = some seg → Live taken (above base ref key) seg) :
    ∃ taken', taken ≤ taken' ∧
      Flushing stream ends base ref taken' (deliverOoo fuel c delivered).1 ∧
      (deliverOoo fuel c delivered).2 ≠ none ∧
      ((deliverOoo fuel c delivered).1.flow.finReceived = false →
        ∀ (key : UInt32) (seg : OooSegment),
          (deliverOoo fuel c delivered).1.flow.oooCache[key]? = some seg →
            taken' < above base ref key) := by
  induction fuel generalizing c delivered taken with
  | zero => omega
  | succ fuel ih =>
      unfold deliverOoo
      split
      · rename_i none
        refine ⟨taken, Nat.le_refl _, flushing, by simp, fun unfinished key seg present => ?_⟩
        have slot := flushing.cache.slot key seg present
        have beyond := slot.beyond
        have near := slot.near
        have lower := flushing.lower
        have upper := flushing.upper
        have next := flushing.next
        have notReady := List.find?_eq_none.mp none (key, seg)
          (Std.TreeMap.mem_toList_iff_getElem?_eq_some.mpr present)
        have alive := live unfinished key seg present
        have word : key = num base (above base ref key) := (num_above base ref key).symm
        rw [unfinished, Bool.toNat_false, Nat.add_zero] at next
        simp only [segmentEnd_eq base ref, next, Bool.or_eq_true, Bool.and_eq_true,
          beq_iff_eq] at notReady
        unfold Live at alive
        generalize above base ref key = position at *
        subst word
        rw [num_eq_iff base _ _ (by omega) (by omega), seqGt_num base _ _ (by omega) (by omega),
          seqGt_num base _ _ (by omega) (by omega), decide_eq_true_eq,
          decide_eq_true_eq] at notReady
        omega
      · rename_i key seg ready
        obtain ⟨present, unfinished, reached, covers⟩ := readyOoo_spec c key seg flushing ready
        have slot := flushing.cache.slot key seg present
        have takenFin : (takeOoo c key seg).flow.finReceived = false :=
          (congrArg Inbox.finReceived (takeOoo_inbox c key seg)).trans unfinished
        obtain ⟨taken', advance, forward, fresh, freshFin⟩ := deliverFresh_flushing
          (takeOoo c key seg) key seg (takeOoo_flushing c key seg flushing) takenFin slot reached
        have finished := finOoo_flushing (deliverFresh (takeOoo c key seg) key seg) key seg fresh slot
        have cache : (finOoo (deliverFresh (takeOoo c key seg) key seg) key seg).flow.oooCache =
            c.flow.oooCache.erase key := by
          rw [finOoo_oooCache, deliverFresh_oooCache, takeOoo_oooCache]
        dsimp only
        rw [if_neg finished.isOpen]
        have smaller : (finOoo (deliverFresh (takeOoo c key seg) key seg)
            key seg).flow.oooCache.size < fuel := by
          have contained : c.flow.oooCache.contains key = true := by
            rw [Std.TreeMap.contains_eq_isSome_getElem?, present]
            rfl
          have nonempty : c.flow.oooCache.size ≠ 0 := by
            intro empty
            have none := Std.TreeMap.isEmpty_eq_size_eq_zero (t := c.flow.oooCache)
            rw [empty] at none
            have absent := Std.TreeMap.contains_of_isEmpty (a := key) none
            rw [contained] at absent
            cases absent
          rw [cache, Std.TreeMap.size_erase, if_pos contained]
          omega
        obtain ⟨taken'', later, rest⟩ := ih _ true finished smaller fun _ other found lookup => by
          rw [cache] at lookup
          obtain ⟨differ, old⟩ := erase_lookup lookup
          have alive := live unfinished other found old
          have apart := flushing.cache.apart key seg other found present old (Ne.symm differ)
          have distinct : above base ref key ≠ above base ref other :=
            fun same => differ (above_inj base ref same).symm
          unfold Live Apart at *
          omega
        exact ⟨taken'', by omega, rest⟩

/-- A cache whose segments all lie beyond a later reference can be counted from there. -/
theorem CacheOk.rebase {cache : OooCache} {later : Nat} (ok : CacheOk stream ends base ref cache)
    (forward : ref ≤ later) (beyond : ∀ (key : UInt32) (seg : OooSegment),
      cache[key]? = some seg → later < above base ref key) :
    CacheOk stream ends base later cache := by
  have position (key : UInt32) (seg : OooSegment) (present : cache[key]? = some seg) :
      above base later key = above base ref key := by
    have ahead := beyond key seg present
    have close := above_lt base ref key
    conv_lhs => rw [← num_above base ref key]
    exact above_num base later _ (by omega) (by omega)
  refine ⟨fun key seg present => ?_, fun key seg key' seg' present present' differ => ?_⟩
  · have slot := ok.slot key seg present
    have near := slot.near
    rw [position key seg present]
    exact ⟨beyond key seg present, by omega, slot.slice, slot.fin, slot.bare⟩
  · rw [position key seg present, position key' seg' present']
    exact ok.apart key seg key' seg' present present' differ

/-- A flow between two segments. -/
structure Resting (stream : List UInt8) (ends : Bool) (base : UInt32) (taken : Nat) (c : Conn) :
    Prop where
  stored : Stored stream ends base taken c.inbox
  cache : c.flow.finReceived = false → CacheOk stream ends base taken c.flow.oooCache
  isOpen : c.flow.state ≠ .closed

theorem Resting.of_inbox {before after : Conn} (resting : Resting stream ends base taken before)
    (inbox : after.inbox = before.inbox) (isOpen : after.flow.state ≠ .closed) :
    Resting stream ends base taken after := by
  refine ⟨by rw [inbox]; exact resting.stored, fun unfinished => ?_, isOpen⟩
  have cache : after.flow.oooCache = before.flow.oooCache := congrArg Inbox.oooCache inbox
  rw [cache]
  exact resting.cache ((congrArg Inbox.finReceived inbox).symm.trans unfinished)

/-- The number of positions `rcv_nxt` has passed, the FIN included. -/
def passed (taken : Nat) (c : Conn) : Nat := taken + c.flow.finReceived.toNat

theorem flushOoo_resting (c : Conn) (flushing : Flushing stream ends base ref taken c) :
    ∃ taken', taken ≤ taken' ∧ taken' < ref + 2 ^ 31 ∧
      Resting stream ends base taken' (flushOoo c) := by
  have slots : ∀ entry ∈ c.flow.oooCache.toList,
      Slot stream ends ref (above base ref entry.1) entry.2 := fun entry member =>
    flushing.cache.slot entry.1 entry.2 (Std.TreeMap.mem_toList_iff_getElem?_eq_some.mp member)
  obtain ⟨pruning, continues, live⟩ := pruneOoo_flushing c.flow.oooCache.toList c false flushing
    slots fun _ key seg present =>
      Or.inl (Std.TreeMap.mem_toList_iff_getElem?_eq_some.mpr present)
  unfold flushOoo
  split
  · rename_i prunedEq
    exact absurd (congrArg Prod.snd prunedEq) continues
  · rename_i pruned c₁ isPruned prunedEq
    rw [prunedEq] at pruning live
    have counted : Flushing stream ends base ref taken (countCached c₁) :=
      ⟨pruning.stored, pruning.cache, pruning.lower, pruning.upper, pruning.isOpen⟩
    obtain ⟨taken', forward, delivery, continues', beyond⟩ := deliverOoo_flushing
      (c₁.flow.oooCache.size + 1) (countCached c₁) false counted (Nat.lt_succ_self _) live
    split
    · rename_i deliveredEq
      exact absurd (congrArg Prod.snd deliveredEq) continues'
    · rename_i c₂ delivered deliveredEq
      rw [deliveredEq] at delivery beyond
      refine ⟨taken', forward, delivery.upper, ?_⟩
      have settled : Resting stream ends base taken' c₂ :=
        ⟨delivery.stored,
          fun stillUnfinished => delivery.cache.rebase delivery.lower (beyond stillUnfinished),
          delivery.isOpen⟩
      exact settled.of_inbox (announceOoo_inbox c₂ _ _)
        (by rw [announceOoo_state]; exact delivery.isOpen)

/-- A segment of the stream that lies within reach of `rcv_nxt`. -/
structure Fits (stream : List UInt8) (ends : Bool) (count start : Nat) (data : List UInt8)
    (fin : Bool) : Prop where
  slice : Slice stream start data
  last : fin = true → ends = true ∧ start + data.length = stream.length
  ahead : start + data.length + fin.toNat < count + 2 ^ 31
  behind : count < start + 2 ^ 31

theorem deliver_resting (c : Conn) (data : List UInt8) (resting : Resting stream ends base taken c)
    (unfinished : c.flow.finReceived = false) (slice : Slice stream taken data)
    (near : taken + data.length < taken + 2 ^ 31) :
    ∃ taken', taken ≤ taken' ∧ taken' < taken + 2 ^ 31 ∧
      Resting stream ends base taken' (flushOoo (deliverData c data)) := by
  obtain ⟨taken₁, advance, stored, _⟩ :=
    deliverData_stored c data resting.stored resting.isOpen unfinished slice
  have flushing : Flushing stream ends base taken taken₁ (deliverData c data) := by
    refine ⟨stored, ?_, by omega, by omega, ?_⟩
    · rw [deliverData_oooCache]
      exact resting.cache unfinished
    · rw [deliverData_state]
      exact resting.isOpen
  obtain ⟨taken', forward, close, rest⟩ := flushOoo_resting _ flushing
  exact ⟨taken', by omega, close, rest⟩

theorem handleData_resting (c : Conn) (start : Nat) (data : List UInt8) (flags : UInt8)
    (resting : Resting stream ends base taken c)
    (fits : Fits stream ends (passed taken c) start data (hasFlag flags tcpFin)) :
    ∃ taken', passed taken c ≤ passed taken' (handleData c (num base start) data flags) ∧
      taken' < taken + 2 ^ 31 ∧
      Resting stream ends base taken' (handleData c (num base start) data flags) := by
  have ahead := fits.ahead
  have behind := fits.behind
  have inside := fits.slice.bound
  have next : c.flow.rcvNxt = num base (passed taken c) := resting.stored.next
  have isOpen := resting.isOpen
  have width := c.flow.finReceived.toNat_le
  unfold passed at ahead behind next
  have received (c₁ : Conn) (inbox : c₁.inbox = c.inbox) :
      c₁.flow.finReceived = c.flow.finReceived := congrArg Inbox.finReceived inbox
  have inOrder : num base start = c.flow.rcvNxt ↔ start = taken + c.flow.finReceived.toNat := by
    rw [next]
    exact num_eq_iff base _ _ (by omega) (by omega)
  have early : seqGt (num base start) c.flow.rcvNxt = true ↔
      taken + c.flow.finReceived.toNat < start := by
    rw [next, seqGt_num base _ _ (by omega) (by omega), decide_eq_true_eq]
  have covers : seqGt (num base start + UInt32.ofNat data.length) c.flow.rcvNxt = true ↔
      taken + c.flow.finReceived.toNat < start + data.length := by
    rw [next, ← num_add, seqGt_num base _ _ (by omega) (by omega), decide_eq_true_eq]
  have droppedInbox : (sendAck (countDropped c)).inbox = c.inbox := by
    rw [sendAck_inbox, countDropped_inbox]
  have dropped : Resting stream ends base taken (sendAck (countDropped c)) :=
    resting.of_inbox droppedInbox (by rwa [sendAck_state, countDropped_state])
  have droppedFin := received _ droppedInbox
  unfold handleData passed
  simp only [inOrder, early, covers]
  cases fin : c.flow.finReceived with
  | true =>
      -- everything has been received, and the segment cannot reach beyond the FIN
      have all := (resting.stored.fin fin).2
      simp only [Bool.toNat_true]
      rw [if_neg (by omega), if_neg (by omega), if_neg (by omega)]
      exact ⟨taken, by simp [droppedFin, fin], by omega, dropped⟩
  | false =>
      rw [fin] at ahead behind next
      simp only [Bool.toNat_false, Nat.add_zero] at ahead behind next ⊢
      split
      · rename_i reached
        subst reached
        obtain ⟨taken', forward, close, rest⟩ :=
          deliver_resting c data resting fin fits.slice (by omega)
        exact ⟨taken', by omega, close, rest⟩
      · split
        · rename_i beyond
          have cache := oooAppend_ok c start data (hasFlag flags tcpFin) (resting.cache fin) beyond
            (by omega) fits.slice fits.last
          have inbox := oooAppend_inbox c (num base start) data (hasFlag flags tcpFin)
          have state := oooAppend_state c (num base start) data (hasFlag flags tcpFin)
          have appended : Resting stream ends base taken
              (oooAppend c (num base start) data (hasFlag flags tcpFin)).1 :=
            ⟨by rw [inbox]; exact resting.stored.cache _, fun _ => cache, by rwa [state]⟩
          refine ⟨taken, by omega, by omega, ?_⟩
          split
          · exact appended.of_inbox (countOoo_inbox _) appended.isOpen
          · exact appended.of_inbox (sendAck_inbox _) (by rw [sendAck_state]; exact appended.isOpen)
        · split
          · have skip : (c.flow.rcvNxt - num base start).toNat = taken - start := by
              rw [next]
              exact num_sub_toNat base taken start (by omega) (by omega)
            rw [skip]
            have slice := fits.slice.drop (taken - start) (by omega)
            have position : start + (taken - start) = taken := by omega
            rw [position] at slice
            obtain ⟨taken', forward, close, rest⟩ := deliver_resting c _ resting fin slice
              (by rw [List.length_drop]; omega)
            exact ⟨taken', by omega, close, rest⟩
          · exact ⟨taken, by omega, by omega, dropped⟩

end

end Tunio
