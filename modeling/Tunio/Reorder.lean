import Tunio.Receive

/-!
The out-of-order cache (`ooo_append`, `flush_ooo`).  Iterations over the map run
over its entries in key order; a node that an iteration inserts starts at or
beyond the end of the new segment, where every later visit would skip it.
-/

namespace Tunio

/-- The offset of a sequence number from the head of the new segment. -/
def oooOffset (seq v : UInt32) : Int := (v - seq).toInt32.toInt

inductive FinScan
  | refuse
  | mark (key : UInt32)
  | absent
  deriving DecidableEq, Repr

/-- The search of a bare FIN among the cached segments. -/
def scanFin (seq : UInt32) : List (UInt32 × OooSegment) → FinScan
  | [] => .absent
  | (key, old) :: rest =>
      let start := oooOffset seq key
      let stop := start + old.data.length
      if stop = 0 then if old.fin then .refuse else .mark key
      else if start ≤ 0 ∧ stop > 0 then .refuse
      else scanFin seq rest

def appendFin (c : Conn) (seq : UInt32) : Conn × Bool :=
  match scanFin seq c.flow.oooCache.toList with
  | .refuse => (c, false)
  | .mark key =>
      let cache := c.flow.oooCache.modify key fun old => { old with fin := true }
      ({ c with flow.oooCache := cache }, true)
  | .absent =>
      if c.flow.oooCache.size ≥ c.eng.cfg.tcpOooMaxSegments then (countDropped c, false)
      else
        let cache := c.flow.oooCache.insertIfNew seq { data := [], fin := true }
        ({ c with flow.oooCache := cache, flow.oooCount := cache.size }, true)

/-- What the first pass of `ooo_append` learns about the cached segments. -/
structure OooSurvey where
  overlap : Nat := 0
  finCovered : Bool := false
  touchesExisting : Bool := false
  finExtension : Option UInt32 := none
  deriving DecidableEq, Repr

def surveyStep (seq : UInt32) (len : Nat) (survey : OooSurvey)
    (entry : UInt32 × OooSegment) : OooSurvey :=
  let start := oooOffset seq entry.1
  let stop := start + entry.2.data.length
  let lo := max start 0
  let hi := min stop len
  let survey := if lo < hi then { survey with overlap := survey.overlap + (hi - lo).toNat } else survey
  let survey := if start ≤ len ∧ stop ≥ 0 then { survey with touchesExisting := true } else survey
  if stop = len then
    if entry.2.fin then { survey with finCovered := true }
    else { survey with finExtension := some entry.1 }
  else survey

def surveyOoo (seq : UInt32) (len : Nat) (cache : OooCache) : OooSurvey :=
  cache.toList.foldl (surveyStep seq len) {}

/-- Cuts the cached segment under `key` back to what the new segment leaves. -/
def trimStep (seq : UInt32) (len : Nat) (cache : OooCache) (key : UInt32) : OooCache :=
  match cache[key]? with
  | none => cache
  | some old =>
      let start := oooOffset seq key
      let oldLen := old.data.length
      let stop := start + oldLen
      let lo := max start 0
      let hi := min stop len
      let finInside := oldLen = 0 ∧ old.fin ∧ start ≥ 0 ∧ start < len
      if ¬lo < hi ∧ ¬finInside then cache
      else if start < 0 ∧ stop > len then
        let left : OooSegment := { data := old.data.take (-start).toNat, fin := false }
        let right : OooSegment := { data := old.data.drop (len - start).toNat, fin := old.fin }
        (cache.insert key left).insertIfNew (seq + UInt32.ofNat len) right
      else if start < 0 then
        cache.insert key { data := old.data.take (-start).toNat, fin := false }
      else if stop > len then
        let right : OooSegment := { old with data := old.data.drop (len - start).toNat }
        (cache.erase key).insertIfNew (seq + UInt32.ofNat len) right
      else cache.erase key

def trimOoo (seq : UInt32) (len : Nat) (cache : OooCache) : OooCache :=
  cache.keys.foldl (trimStep seq len) cache

def segmentAt (cache : OooCache) (key : UInt32) : OooSegment :=
  cache[key]?.getD { data := [], fin := false }

def segmentEnd (key : UInt32) (seg : OooSegment) : UInt32 := key + UInt32.ofNat seg.data.length

def leftNeighbour (cache : OooCache) (cur : UInt32) : Option (UInt32 × OooSegment) :=
  cache.toList.find? fun entry =>
    entry.1 != cur && !entry.2.fin && segmentEnd entry.1 entry.2 == cur

def rightNeighbour (cache : OooCache) (cur : UInt32) : Option (UInt32 × OooSegment) :=
  let curEnd := segmentEnd cur (segmentAt cache cur)
  cache.toList.find? fun entry => entry.1 != cur && entry.1 == curEnd

/-- Merging the segment under `cur` with its neighbours; each round removes an entry. -/
def mergeOoo : Nat → OooCache → UInt32 → OooCache
  | 0, cache, _ => cache
  | fuel + 1, cache, cur =>
      let seg := segmentAt cache cur
      match leftNeighbour cache cur with
      | some (key, left) =>
          let merged : OooSegment := { data := left.data ++ seg.data, fin := seg.fin }
          mergeOoo fuel ((cache.insert key merged).erase cur) key
      | none =>
          match rightNeighbour cache cur with
          | some (key, right) =>
              if seg.fin then
                if right.data.isEmpty ∧ right.fin then mergeOoo fuel (cache.erase key) cur
                else cache
              else
                let merged : OooSegment := { data := seg.data ++ right.data, fin := right.fin }
                mergeOoo fuel ((cache.insert cur merged).erase key) cur
          | none => cache

/-- The budget tests of `ooo_append`. -/
def admitOoo (c : Conn) (survey : OooSurvey) (netAdd : Nat) : Option BufferAccountant :=
  if c.flow.oooCache.size ≥ c.eng.cfg.tcpOooMaxSegments ∧ ¬survey.touchesExisting then none
  else if c.flow.rxBytes + c.flow.oooBytes + netAdd > c.eng.cfg.maxRxQueuePerFlow then none
  else c.eng.account.reserve netAdd

def storeOoo (cache : OooCache) (seq : UInt32) (incoming : OooSegment) : OooCache :=
  let cache := (trimOoo seq incoming.data.length cache).insertIfNew seq incoming
  mergeOoo cache.size cache seq

def appendData (c : Conn) (seq : UInt32) (data : List UInt8) (fin : Bool) : Conn × Bool :=
  let survey := surveyOoo seq data.length c.flow.oooCache
  let netAdd := sizeSub data.length survey.overlap
  if netAdd = 0 then
    if !fin || survey.finCovered then (c, false)
    else
      match survey.finExtension with
      | none => (c, false)
      | some key =>
          let cache := c.flow.oooCache.modify key fun old => { old with fin := true }
          ({ c with flow.oooCache := cache }, true)
  else
    match admitOoo c survey netAdd with
    | none => (countDropped c, false)
    | some account =>
        let incoming : OooSegment := { data := data, fin := fin || survey.finCovered }
        let cache := storeOoo c.flow.oooCache seq incoming
        ({ c with
           eng.account := account
           flow.oooCache := cache
           flow.oooBytes := c.flow.oooBytes + netAdd
           flow.oooCount := cache.size }, true)

def oooAppend (c : Conn) (seq : UInt32) (data : List UInt8) (fin : Bool) : Conn × Bool :=
  if data.length = 0 then if fin then appendFin c seq else (c, false)
  else appendData c seq data fin

/-- The FIN of a cached segment, once the segment ends at `rcv_nxt`. -/
def finOoo (c : Conn) (key : UInt32) (seg : OooSegment) : Conn :=
  if seg.fin ∧ segmentEnd key seg = c.flow.rcvNxt then handleFin c (segmentEnd key seg) else c

def discardOoo (c : Conn) (key : UInt32) (seg : OooSegment) : Conn :=
  let c :=
    if seg.data.length > 0 then
      releaseBytes { c with flow.oooBytes := sizeSub c.flow.oooBytes seg.data.length }
        seg.data.length
    else c
  { c with flow.oooCache := c.flow.oooCache.erase key }

/-- The first loop of `flush_ooo`; `none` when the flow was closed on the way. -/
def pruneOoo : List (UInt32 × OooSegment) → Conn → Bool → Conn × Option Bool
  | [], c, pruned => (c, some pruned)
  | (key, seg) :: rest, c, pruned =>
      if !seqGe c.flow.rcvNxt (segmentEnd key seg) then pruneOoo rest c pruned
      else
        let c := finOoo c key seg
        if c.flow.state = .closed then (c, none) else pruneOoo rest (discardOoo c key seg) true

def readyOoo (flow : TcpFlow) : Option (UInt32 × OooSegment) :=
  flow.oooCache.toList.find? fun entry =>
    entry.1 == flow.rcvNxt ||
      (seqGt flow.rcvNxt entry.1 && seqGt (segmentEnd entry.1 entry.2) flow.rcvNxt)

def takeOoo (c : Conn) (key : UInt32) (seg : OooSegment) : Conn :=
  let c := { c with
    flow.oooCache := c.flow.oooCache.erase key
    flow.oooBytes := sizeSub c.flow.oooBytes seg.data.length
    flow.oooCount := sizeSub c.flow.oooCount 1 }
  notifyWindowUpdated (releaseBytes c seg.data.length)

def oooSkip (flow : TcpFlow) (key : UInt32) : Nat :=
  if key = flow.rcvNxt then 0 else (flow.rcvNxt - key).toNat

/-- Delivers the part of a cached segment that `rcv_nxt` has not reached. -/
def deliverFresh (c : Conn) (key : UInt32) (seg : OooSegment) : Conn :=
  let skip := oooSkip c.flow key
  if skip < seg.data.length then deliverData c (seg.data.drop skip) else c

/-- The second loop of `flush_ooo`; each round takes an entry out of the cache. -/
def deliverOoo : Nat → Conn → Bool → Conn × Option Bool
  | 0, c, delivered => (c, some delivered)
  | fuel + 1, c, delivered =>
      match readyOoo c.flow with
      | none => (c, some delivered)
      | some (key, seg) =>
          let c := finOoo (deliverFresh (takeOoo c key seg) key seg) key seg
          if c.flow.state = .closed then (c, none) else deliverOoo fuel c true

def countCached (c : Conn) : Conn := { c with flow.oooCount := c.flow.oooCache.size }

/-- The end of `flush_ooo`: what the two loops did is announced to the peer. -/
def announceOoo (c : Conn) (pruned delivered : Bool) : Conn :=
  if delivered ∧ c.flow.state ≠ .closed then sendAck c
  else if pruned ∧ c.flow.state ≠ .closed then notifyWindowUpdated c
  else c

def flushOoo (c : Conn) : Conn :=
  match pruneOoo c.flow.oooCache.toList c false with
  | (c, none) => c
  | (c, some pruned) =>
      match deliverOoo (c.flow.oooCache.size + 1) (countCached c) false with
      | (c, none) => c
      | (c, some delivered) => announceOoo c pruned delivered

def handleData (c : Conn) (seq : UInt32) (data : List UInt8) (flags : UInt8) : Conn :=
  if seq = c.flow.rcvNxt then flushOoo (deliverData c data)
  else if seqGt seq c.flow.rcvNxt then
    let appended := oooAppend c seq data (hasFlag flags tcpFin)
    if appended.2 then countOoo appended.1 else sendAck appended.1
  else
    let segEnd := seq + UInt32.ofNat data.length
    if seqGt segEnd c.flow.rcvNxt then
      let skip := (c.flow.rcvNxt - seq).toNat
      flushOoo (deliverData c (data.drop skip))
    else sendAck (countDropped c)

end Tunio
