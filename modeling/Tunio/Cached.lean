import Tunio.Cache
import Tunio.Closed
import Tunio.Stock

/-!
The bytes of the out-of-order cache.  `ooo_bytes` never falls behind what is cached, whatever
segments the peer sends: the survey counts as overlapping just what the trimming takes away.
-/

namespace Tunio

open Machines

def cachedBytes (cache : OooCache) : Nat := Stock.mass (fun seg => seg.data.length) cache

/-- How many bytes of a cached segment the new one covers. -/
def covered (seq : UInt32) (len : Nat) (key : UInt32) (old : OooSegment) : Nat :=
  (min (oooOffset seq key + old.data.length) len - max (oooOffset seq key) 0).toNat

def overlapping (seq : UInt32) (len : Nat) : List (UInt32 × OooSegment) → Nat
  | [] => 0
  | entry :: rest => covered seq len entry.1 entry.2 + overlapping seq len rest

section

variable {cache : OooCache} {seq key other : UInt32} {len : Nat} {old found : OooSegment}

/-! Looking entries up. -/

theorem mem_of_lookup (present : cache[key]? = some old) : key ∈ cache := by
  rw [Std.TreeMap.mem_iff_isSome_getElem?, present]
  rfl

theorem insert_other (differ : other ≠ key) (seg : OooSegment) :
    (cache.insert key seg)[other]? = cache[other]? := by
  rw [Std.TreeMap.getElem?_insert, if_neg]
  exact fun same => differ (Std.LawfulEqCmp.eq_of_compare same).symm

theorem erase_other (differ : other ≠ key) : (cache.erase key)[other]? = cache[other]? := by
  rw [Std.TreeMap.getElem?_erase, if_neg]
  exact fun same => differ (Std.LawfulEqCmp.eq_of_compare same).symm

theorem insertIfNew_kept (present : cache[other]? = some found) (seg : OooSegment) :
    (cache.insertIfNew key seg)[other]? = some found := by
  rw [Std.TreeMap.getElem?_insertIfNew, if_neg, present]
  rintro ⟨same, absent⟩
  rw [Std.LawfulEqCmp.eq_of_compare same] at absent
  exact absent (mem_of_lookup present)

theorem insertIfNew_present (cache : OooCache) (key : UInt32) (seg : OooSegment) :
    ∃ found, (cache.insertIfNew key seg)[key]? = some found := by
  rw [Std.TreeMap.getElem?_insertIfNew]
  split
  · exact ⟨seg, rfl⟩
  · rename_i present
    have member : key ∈ cache := by
      by_contra absent
      exact present ⟨Std.ReflCmp.compare_self, absent⟩
    exact Option.isSome_iff_exists.mp (Std.TreeMap.mem_iff_isSome_getElem?.mp member)

theorem covered_le (seq : UInt32) (len : Nat) (key : UInt32) (old : OooSegment) :
    covered seq len key old ≤ old.data.length := by
  unfold covered
  omega

theorem surveyStep_overlap (survey : OooSurvey) (entry : UInt32 × OooSegment) :
    (surveyStep seq len survey entry).overlap = survey.overlap + covered seq len entry.1 entry.2 := by
  have counted : (if max (oooOffset seq entry.1) 0 <
        min (oooOffset seq entry.1 + entry.2.data.length) len then
      { survey with overlap := survey.overlap +
          (min (oooOffset seq entry.1 + entry.2.data.length) len -
            max (oooOffset seq entry.1) 0).toNat } else survey).overlap =
      survey.overlap + covered seq len entry.1 entry.2 := by
    unfold covered
    split
    · rfl
    · omega
  unfold surveyStep
  dsimp only
  rw [← counted]
  repeat' split
  all_goals rfl

theorem surveyOoo_overlap (seq : UInt32) (len : Nat) (cache : OooCache) :
    (surveyOoo seq len cache).overlap = overlapping seq len cache.toList := by
  have fold (entries : List (UInt32 × OooSegment)) (survey : OooSurvey) :
      (entries.foldl (surveyStep seq len) survey).overlap =
        survey.overlap + overlapping seq len entries := by
    induction entries generalizing survey with
    | nil => rfl
    | cons entry rest ih =>
        rw [List.foldl_cons, ih, surveyStep_overlap, Nat.add_assoc]
        rfl
  exact (fold _ _).trans (Nat.zero_add _)

theorem overlapping_le (entries : List (UInt32 × OooSegment)) :
    overlapping seq len entries ≤ Directory.total (fun seg => seg.data.length) entries := by
  induction entries with
  | nil => exact Nat.le_refl _
  | cons entry rest ih => exact Nat.add_le_add (covered_le seq len entry.1 entry.2) ih

theorem covered_le_overlapping {entries : List (UInt32 × OooSegment)}
    (member : (key, old) ∈ entries) : covered seq len key old ≤ overlapping seq len entries := by
  induction entries with
  | nil => cases member
  | cons entry rest ih =>
      rcases List.mem_cons.mp member with rfl | later
      · exact Nat.le_add_right _ _
      · exact Nat.le_add_left_of_le (ih later)

/-! Trimming. -/

/-- Cutting one segment back does not touch the others. -/
theorem trimStep_other (differ : other ≠ key) (present : cache[other]? = some found) :
    (trimStep seq len cache key)[other]? = some found := by
  have inserted (seg : OooSegment) : (cache.insert key seg)[other]? = some found :=
    (insert_other differ seg).trans present
  have erased : (cache.erase key)[other]? = some found := (erase_other differ).trans present
  unfold trimStep
  split
  · exact present
  · dsimp only
    split
    · exact present
    · split
      · exact insertIfNew_kept (inserted _) _
      · split
        · exact inserted _
        · split
          · exact insertIfNew_kept erased _
          · exact erased

theorem trimStep_bytes (present : cache[key]? = some old) :
    cachedBytes (trimStep seq len cache key) + covered seq len key old ≤ cachedBytes cache := by
  have here : cachedBytes cache = old.data.length + cachedBytes (cache.erase key) :=
    Stock.mass_remove _ present
  have inserted (seg : OooSegment) :
      cachedBytes (cache.insert key seg) = seg.data.length + cachedBytes (cache.erase key) :=
    Stock.mass_insert _ cache key seg
  have added (cache : OooCache) (at_ : UInt32) (seg : OooSegment) :
      cachedBytes (cache.insertIfNew at_ seg) ≤ seg.data.length + cachedBytes cache :=
    Stock.mass_insertIfNew_le _ cache at_ seg
  unfold trimStep covered
  rw [present]
  dsimp only
  split
  · omega
  · split
    · refine Nat.le_trans (Nat.add_le_add_right (added _ _ _) _) ?_
      rw [inserted, List.length_drop, List.length_take]
      omega
    · split
      · rw [inserted, List.length_take]
        omega
      · split
        · refine Nat.le_trans (Nat.add_le_add_right (added _ _ _) _) ?_
          rw [List.length_drop]
          omega
        · omega

theorem trimFold_bytes (entries : List (UInt32 × OooSegment))
    (distinct : (entries.map Prod.fst).Nodup)
    (present : ∀ entry ∈ entries, cache[entry.1]? = some entry.2) :
    cachedBytes ((entries.map Prod.fst).foldl (trimStep seq len) cache) +
      overlapping seq len entries ≤ cachedBytes cache := by
  induction entries generalizing cache with
  | nil => exact Nat.le_refl _
  | cons entry rest ih =>
      obtain ⟨apart, distinct⟩ := List.nodup_cons.mp distinct
      have first : cachedBytes (trimStep seq len cache entry.1) + covered seq len entry.1 entry.2 ≤
          cachedBytes cache := trimStep_bytes (present entry List.mem_cons_self)
      have kept (other : UInt32 × OooSegment) (member : other ∈ rest) :
          (trimStep seq len cache entry.1)[other.1]? = some other.2 :=
        trimStep_other (fun same => apart (List.mem_map.mpr ⟨other, member, same⟩))
          (present other (List.mem_cons_of_mem _ member))
      have later := ih distinct kept
      simp only [List.map_cons, List.foldl_cons, overlapping]
      omega

theorem trimOoo_bytes (seq : UInt32) (len : Nat) (cache : OooCache) :
    cachedBytes (trimOoo seq len cache) + (surveyOoo seq len cache).overlap ≤ cachedBytes cache := by
  have keys : cache.keys = cache.toList.map Prod.fst := Std.TreeMap.map_fst_toList_eq_keys.symm
  unfold trimOoo
  rw [surveyOoo_overlap, keys]
  refine trimFold_bytes cache.toList ?_ fun entry member =>
    Std.TreeMap.mem_toList_iff_getElem?_eq_some.mp member
  rw [← keys]
  exact Std.TreeMap.nodup_keys

/-! Merging and storing. -/

theorem joinLeft_bytes {cur : UInt32} {seg : OooSegment} (present : cache[cur]? = some seg)
    (there : cache[key]? = some old) (differ : key ≠ cur) (fin : Bool) :
    cachedBytes ((cache.insert key { data := old.data ++ seg.data, fin := fin }).erase cur) =
      cachedBytes cache := by
  have both : cachedBytes cache = old.data.length + cachedBytes (cache.erase key) :=
    Stock.mass_remove _ there
  have rest : cachedBytes (cache.erase key) =
      seg.data.length + cachedBytes ((cache.erase key).erase cur) :=
    Stock.mass_remove _ ((erase_other (Ne.symm differ)).trans present)
  have joined : cachedBytes (cache.insert key { data := old.data ++ seg.data, fin := fin }) =
      (old.data ++ seg.data).length + cachedBytes (cache.erase key) := Stock.mass_insert _ _ _ _
  have taken : cachedBytes (cache.insert key { data := old.data ++ seg.data, fin := fin }) =
      seg.data.length +
        cachedBytes ((cache.insert key { data := old.data ++ seg.data, fin := fin }).erase cur) :=
    Stock.mass_remove _ ((insert_other (Ne.symm differ) _).trans present)
  rw [List.length_append] at joined
  omega

theorem mergeOoo_bytes (fuel : Nat) (cache : OooCache) (cur : UInt32)
    (present : ∃ seg, cache[cur]? = some seg) :
    cachedBytes (mergeOoo fuel cache cur) = cachedBytes cache := by
  induction fuel generalizing cache cur with
  | zero => rfl
  | succ fuel ih =>
      obtain ⟨seg, present⟩ := present
      unfold mergeOoo
      dsimp only
      rw [segmentAt_present present]
      split
      · rename_i key left found
        obtain ⟨there, differ, _⟩ := leftNeighbour_spec found
        refine (ih _ _ ⟨{ data := left.data ++ seg.data, fin := seg.fin }, ?_⟩).trans
          (joinLeft_bytes present there differ seg.fin)
        rw [erase_other differ, Std.TreeMap.getElem?_insert_self]
      · split
        · rename_i key right found
          obtain ⟨there, differ, _⟩ := rightNeighbour_spec present found
          split
          · split
            · rename_i bare
              have empty : right.data.length = 0 := by simpa using bare.1
              have gone : cachedBytes cache = right.data.length + cachedBytes (cache.erase key) :=
                Stock.mass_remove _ there
              refine (ih _ _ ⟨seg, (erase_other (Ne.symm differ)).trans present⟩).trans ?_
              omega
            · rfl
          · refine (ih _ _ ⟨{ data := seg.data ++ right.data, fin := right.fin }, ?_⟩).trans
              (joinLeft_bytes there present (Ne.symm differ) right.fin)
            rw [erase_other (Ne.symm differ), Std.TreeMap.getElem?_insert_self]
        · rfl

theorem storeOoo_bytes (cache : OooCache) (seq : UInt32) (incoming : OooSegment) :
    cachedBytes (storeOoo cache seq incoming) + (surveyOoo seq incoming.data.length cache).overlap ≤
      cachedBytes cache + incoming.data.length := by
  have trimmed := trimOoo_bytes seq incoming.data.length cache
  have added : cachedBytes ((trimOoo seq incoming.data.length cache).insertIfNew seq incoming) ≤
      incoming.data.length + cachedBytes (trimOoo seq incoming.data.length cache) :=
    Stock.mass_insertIfNew_le _ _ _ _
  have merged := mergeOoo_bytes
    ((trimOoo seq incoming.data.length cache).insertIfNew seq incoming).size
    ((trimOoo seq incoming.data.length cache).insertIfNew seq incoming) seq
    (insertIfNew_present _ _ _)
  unfold storeOoo
  dsimp only
  omega

end

/-! The cache with its two counters. -/

structure Shelf where
  cache : OooCache
  bytes : Nat
  count : Nat

def TcpFlow.shelf (flow : TcpFlow) : Shelf := {
  cache := flow.oooCache
  bytes := flow.oooBytes
  count := flow.oooCount
}

def Shelf.bare : Shelf := { cache := ∅, bytes := 0, count := 0 }

@[simp] theorem sendSegment_shelf (c : Conn) (seq : UInt32) (flags : UInt8)
    (payload : List UInt8) (withMss : Bool) :
    (sendSegment c seq flags payload withMss).flow.shelf = c.flow.shelf := by
  unfold sendSegment
  split <;> rfl

@[simp] theorem sendAck_shelf (c : Conn) : (sendAck c).flow.shelf = c.flow.shelf :=
  sendSegment_shelf c _ _ _ _

@[simp] theorem compactRx_shelf (c : Conn) : (compactRx c).flow.shelf = c.flow.shelf := by
  unfold compactRx
  split <;> rfl

theorem dropReceived_shelf (c : Conn) : (dropReceived c).flow.shelf = Shelf.bare := by
  unfold dropReceived
  dsimp only
  split <;> split <;> rfl

theorem closeFlow_shelf (c : Conn) (err : ErrorCode) (isOpen : c.flow.state ≠ .closed) :
    (closeFlow c err).flow.shelf = Shelf.bare := by
  have detached (c : Conn) : (detachFlow (uncountFlow c)).flow.shelf = c.flow.shelf := by
    unfold detachFlow uncountFlow
    split <;> rfl
  have shut (c : Conn) : (closeWriteCh c).flow.shelf = c.flow.shelf := by
    unfold closeWriteCh
    split <;> rfl
  unfold closeFlow
  rw [if_neg isOpen]
  dsimp only
  rw [completeWrite_flow, completeRead_flow, shut, detached, dropReceived_shelf]

theorem abortFlow_shelf (c : Conn) (isOpen : c.flow.state ≠ .closed) :
    (abortFlow c).flow.shelf = Shelf.bare := by
  unfold abortFlow
  rw [if_neg isOpen]
  dsimp only
  exact closeFlow_shelf _ _ (by rwa [← sendSegment_state c c.flow.sndNxt (tcpRst ||| tcpAck) [] false]
    at isOpen)

/-- The effects that change what is cached. -/
def Effect.shelves : Effect → Bool
  | .append _ _ _ | .discard _ _ | .remove _ _ | .countCached | .drop | .giveUp | .abort
  | .resetBy | .close _ => true
  | _ => false

theorem apply_shelf (c : Conn) (effect : Effect) (still : effect.shelves = false) :
    (c.apply effect).flow.shelf = c.flow.shelf := by
  cases effect with
  | submit seq flags payload withMss => exact sendSegment_shelf c _ _ _ _
  | next inFlight =>
      unfold Conn.apply
      dsimp only
      split
      · unfold buildNextSegment
        dsimp only
        split
        · rfl
        · split <;> rfl
      · rfl
  | accept =>
      change (acceptFlow c).flow.shelf = c.flow.shelf
      unfold acceptFlow
      split
      · rfl
      · exact sendSegment_shelf c _ _ _ _
  | notify =>
      change (notifyAccept c).flow.shelf = c.flow.shelf
      unfold notifyAccept
      split <;> rfl
  | handOut =>
      change (handOut c).flow.shelf = c.flow.shelf
      unfold handOut
      dsimp only
      split
      · split <;> rfl
      · rfl
  | fin => exact sendSegment_shelf { c with
      flow.finSent := true
      flow.state := c.flow.state.finished
      flow.closeStartedAt := c.eng.now } _ _ _ _
  | finAcked =>
      unfold Conn.apply
      dsimp only
      split <;> rfl
  | probeAck ack =>
      change (acceptProbe c ack).flow.shelf = c.flow.shelf
      unfold acceptProbe
      dsimp only
      split
      · split <;> rfl
      · rfl
  | direct op account data =>
      have filled : (fillRead { c with eng.account := account } op data).flow.shelf = c.flow.shelf := by
        unfold fillRead
        dsimp only
        split <;> rfl
      have idle : (fillRead { c with eng.account := account } op data).flow.activeRead = none := by
        unfold fillRead
        dsimp only
        split <;> rfl
      change (deliverDirect { c with eng.account := account } op data).flow.shelf = c.flow.shelf
      unfold deliverDirect
      dsimp only
      split
      · exact filled
      · refine (sendSegment_shelf _ _ _ _ _).trans ?_
        split
        · rw [flushReads_idle _ idle]
          exact (compactRx_shelf _).trans filled
        · exact filled
  | buffer account data =>
      unfold Conn.apply noteDataAck
      dsimp only
      split
      · exact sendSegment_shelf _ _ _ _ _
      · rfl
  | skip len => exact sendSegment_shelf _ _ _ _ _
  | takeFin =>
      have taken : (takeFin c).flow.shelf = c.flow.shelf := by
        unfold takeFin
        split <;> rfl
      have state (d : Conn) : (finState d).flow.shelf = d.flow.shelf := by
        unfold finState
        split <;> rfl
      exact (state _).trans ((sendAck_shelf _).trans taken)
  | compact => exact compactRx_shelf c
  | closeChannel =>
      change (closeWriteCh c).flow.shelf = c.flow.shelf
      unfold closeWriteCh
      split <;> rfl
  | ackTimerExpires =>
      change (ackTimerExpires c).flow.shelf = c.flow.shelf
      unfold ackTimerExpires
      split
      · split <;> rfl
      · rfl
  | ackTimerRuns =>
      change (ackTimerRuns c).flow.shelf = c.flow.shelf
      unfold ackTimerRuns
      split
      · split
        · dsimp only
          split
          · rfl
          · exact sendAck_shelf _
        · rfl
      · rfl
  | append | discard | remove | countCached | drop | giveUp | abort | resetBy | close => cases still
  | _ => rfl

/-- Closing empties the cache, whatever the flow is closed for. -/
theorem apply_clears (c : Conn) (effect : Effect)
    (closes : effect = .giveUp ∨ effect = .abort ∨ effect = .resetBy ∨ ∃ err, effect = .close err) :
    (c.apply effect).flow.shelf = Shelf.bare ∨ (c.apply effect).flow.shelf = c.flow.shelf := by
  by_cases closed : c.flow.state = .closed
  · right
    rcases closes with rfl | rfl | rfl | ⟨err, rfl⟩
    · exact congrArg (·.flow.shelf) (abortFlow_closed { c with flow.finSent := true } closed)
    · exact congrArg (·.flow.shelf) (abortFlow_closed c closed)
    · exact congrArg (·.flow.shelf) (closeFlow_closed { c with flow.rst := true } _ closed)
    · exact congrArg (·.flow.shelf) (closeFlow_closed c err closed)
  · left
    rcases closes with rfl | rfl | rfl | ⟨err, rfl⟩
    · exact abortFlow_shelf { c with flow.finSent := true } closed
    · exact abortFlow_shelf c closed
    · exact closeFlow_shelf { c with flow.rst := true } _ closed
    · exact closeFlow_shelf c err closed

/-! What is cached is accounted for. -/

/-- The counter of the flow covers the bytes in its cache. -/
def Backed (flow : TcpFlow) : Prop := cachedBytes flow.oooCache ≤ flow.oooBytes

theorem markFin_bytes (cache : OooCache) (key : UInt32) :
    cachedBytes (cache.modify key fun old => { old with fin := true }) = cachedBytes cache :=
  Stock.mass_modify _ cache key _ fun _ => rfl

theorem oooAppend_backed (c : Conn) (seq : UInt32) (data : List UInt8) (fin : Bool)
    (backed : Backed c.flow) : Backed (oooAppend c seq data fin).1.flow := by
  unfold Backed at backed ⊢
  unfold oooAppend
  split
  · split
    · unfold appendFin
      split
      · exact backed
      · exact (Nat.le_of_eq (markFin_bytes _ _)).trans backed
      · split
        · exact backed
        · have added : cachedBytes (c.flow.oooCache.insertIfNew seq { data := [], fin := true }) ≤
              0 + cachedBytes c.flow.oooCache := Stock.mass_insertIfNew_le _ _ _ _
          exact added.trans ((Nat.le_of_eq (Nat.zero_add _)).trans backed)
    · exact backed
  · unfold appendData
    dsimp only
    split
    · split
      · exact backed
      · split
        · exact backed
        · exact (Nat.le_of_eq (markFin_bytes _ _)).trans backed
    · split
      · exact backed
      · have stored := storeOoo_bytes c.flow.oooCache seq
          { data := data, fin := fin || (surveyOoo seq data.length c.flow.oooCache).finCovered }
        dsimp only at stored ⊢
        unfold sizeSub
        split <;> omega

theorem erase_backed {cache : OooCache} {key : UInt32} {seg : OooSegment} {bytes : Nat}
    (present : cache[key]? = some seg) (backed : cachedBytes cache ≤ bytes) :
    cachedBytes (cache.erase key) ≤ sizeSub bytes seg.data.length := by
  have gone : cachedBytes cache = seg.data.length + cachedBytes (cache.erase key) :=
    Stock.mass_remove _ present
  unfold sizeSub
  split <;> omega

theorem Backed.congr {flow flow' : TcpFlow} (same : flow'.shelf = flow.shelf) (backed : Backed flow) :
    Backed flow' := by
  have cache : flow'.oooCache = flow.oooCache := congrArg Shelf.cache same
  have bytes : flow'.oooBytes = flow.oooBytes := congrArg Shelf.bytes same
  unfold Backed at backed ⊢
  rwa [cache, bytes]

theorem Backed.bare {flow : TcpFlow} (same : flow.shelf = Shelf.bare) : Backed flow := by
  have cache : flow.oooCache = ∅ := congrArg Shelf.cache same
  unfold Backed
  rw [cache]
  exact Nat.zero_le _

theorem apply_backed (c : Conn) (effect : Effect) (backed : Backed c.flow)
    (permits : c.Permits effect) : Backed (c.apply effect).flow := by
  cases shelves : effect.shelves with
  | false => exact backed.congr (apply_shelf c effect shelves)
  | true =>
      have cleared (closes : effect = .giveUp ∨ effect = .abort ∨ effect = .resetBy ∨
          ∃ err, effect = .close err) : Backed (c.apply effect).flow := by
        rcases apply_clears c effect closes with bare | same
        · exact Backed.bare bare
        · exact backed.congr same
      cases effect with
      | append seq data fin => exact oooAppend_backed c seq data fin backed
      | discard key seg =>
          have smaller := erase_backed permits backed
          change Backed (discardOoo c key seg).flow
          unfold Backed discardOoo
          dsimp only
          split
          · exact smaller
          · exact (Stock.mass_erase_le _ _ _).trans backed
      | remove key seg => exact erase_backed permits backed
      | countCached => exact backed
      | drop => exact Backed.bare (dropReceived_shelf c)
      | giveUp => exact cleared (Or.inl rfl)
      | abort => exact cleared (Or.inr (Or.inl rfl))
      | resetBy => exact cleared (Or.inr (Or.inr (Or.inl rfl)))
      | close err => exact cleared (Or.inr (Or.inr (Or.inr ⟨err, rfl⟩)))
      | _ => cases shelves

theorem openFlow_shelf (eng : TcpEngine) (id : FlowId) (key : FiveTuple) (th : TcpHeader)
    (payload data : List UInt8) (iss : UInt32) :
    (openFlow eng id key th payload data iss).flow.shelf = Shelf.bare := by
  have notified (c : Conn) : (notifyAccept c).flow.shelf = c.flow.shelf := by
    unfold notifyAccept
    split <;> rfl
  unfold openFlow
  dsimp only
  rw [notified]
  unfold takeSynData
  split
  · split <;> rfl
  · rfl

theorem run_backed (eng : TcpEngine) (id : FlowId) (key : FiveTuple) (th : TcpHeader)
    (payload data : List UInt8) (iss : UInt32) (events : List Event) :
    Backed (run (openFlow eng id key th payload data iss) events).flow :=
  run_keeps (fun c => Backed c.flow) apply_backed _ events
    (Backed.bare (openFlow_shelf eng id key th payload data iss))

end Tunio
