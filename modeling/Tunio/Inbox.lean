import Tunio.Run

/-!
The receive side of a flow on its own: the stream it has taken in, what it keeps out
of order and the reads it has completed.  `Inbox` runs the deliveries of `Receive`
without acknowledgements, windows and budgets, and each lemma `f_inbox` says that the
operation `f` of the flow does to the receive side what its counterpart here does.
-/

namespace Tunio

structure Inbox where
  irs : UInt32
  rcvNxt : UInt32
  finReceived : Bool
  rxShutdown : Bool
  rxData : List UInt8
  rxHead : Nat
  rxBytes : Nat
  oooCache : OooCache
  activeRead : Option ReadOp
  reads : List ReadCompletion

def Conn.inbox (c : Conn) : Inbox := {
  irs := c.flow.irs
  rcvNxt := c.flow.rcvNxt
  finReceived := c.flow.finReceived
  rxShutdown := c.flow.rxShutdown
  rxData := c.flow.rxData
  rxHead := c.flow.rxHead
  rxBytes := c.flow.rxBytes
  oooCache := c.flow.oooCache
  activeRead := c.flow.activeRead
  reads := c.reads
}

namespace Inbox

def post (box : Inbox) (op : ReadOp) (ec : ErrorCode) (n : Nat) (data : List (List UInt8)) :
    Inbox :=
  { box with
    activeRead := none
    reads := box.reads ++ [{ handler := op.handler, ec := ec, n := n, data := data }] }

/-- Hands `data`, already split over the buffers of the read, to the application. -/
def serve (box : Inbox) (op : ReadOp) : Inbox :=
  let data := copyOut op.buffers (min op.total box.rxBytes) (box.rxData.drop box.rxHead)
  let copied := data.flatten.length
  { box with rxHead := box.rxHead + copied, rxBytes := box.rxBytes - copied }.post op .success
    copied data

def compact (box : Inbox) : Inbox :=
  if box.rxHead > 0 ∧ box.rxHead * 2 ≥ box.rxData.length then
    { box with rxData := box.rxData.drop box.rxHead, rxHead := 0 }
  else box

def eof (box : Inbox) : Inbox :=
  match box.activeRead with
  | some op => if box.rxBytes = 0 ∧ box.finReceived then box.post op .eof 0 [] else box
  | none => box

def flush (box : Inbox) : Inbox :=
  let box := match box.activeRead with
    | some op => if box.rxBytes > 0 then box.serve op else box
    | none => box
  box.compact.eof

def takeFin (box : Inbox) : Inbox :=
  if box.finReceived then box else { box with rcvNxt := box.rcvNxt + 1, finReceived := true }

def fin (box : Inbox) (finSeq : UInt32) : Inbox :=
  if finSeq = box.rcvNxt then box.takeFin.flush else box

def fill (box : Inbox) (op : ReadOp) (data : List UInt8) : Inbox :=
  let n := min op.total data.length
  let box := { box with rcvNxt := box.rcvNxt + UInt32.ofNat data.length }
  let box :=
    if n < data.length then
      { box with
        rxData := box.rxData ++ data.drop n
        rxBytes := box.rxBytes + (data.length - n) }
    else box
  box.post op .success n (copyOut op.buffers n data)

def queue (box : Inbox) (data : List UInt8) : Inbox :=
  { box with
    rxData := box.rxData ++ data
    rxBytes := box.rxBytes + data.length
    rcvNxt := box.rcvNxt + UInt32.ofNat data.length }

/-- In-order data that the budgets have admitted. -/
def place (box : Inbox) (data : List UInt8) : Inbox :=
  match box.rxData, box.activeRead with
  | [], some op =>
      let filled := box.fill op data
      if min op.total data.length < data.length then filled.flush else filled
  | _, _ => (box.queue data).flush

end Inbox

/-! Output, accounting and signals do not touch the receive side or the state. -/

@[simp] theorem sendSegment_inbox (c : Conn) (seq : UInt32) (flags : UInt8)
    (payload : List UInt8) (withMss : Bool) :
    (sendSegment c seq flags payload withMss).inbox = c.inbox := by
  unfold sendSegment
  split <;> rfl

@[simp] theorem sendSegment_state (c : Conn) (seq : UInt32) (flags : UInt8)
    (payload : List UInt8) (withMss : Bool) :
    (sendSegment c seq flags payload withMss).flow.state = c.flow.state := by
  unfold sendSegment
  split <;> rfl

@[simp] theorem sendAck_inbox (c : Conn) : (sendAck c).inbox = c.inbox :=
  sendSegment_inbox c _ _ _ _

@[simp] theorem sendAck_state (c : Conn) : (sendAck c).flow.state = c.flow.state :=
  sendSegment_state c _ _ _ _

@[simp] theorem noteDataAck_inbox (c : Conn) : (noteDataAck c).inbox = c.inbox := by
  unfold noteDataAck
  split
  · exact sendAck_inbox c
  · rfl

@[simp] theorem noteDataAck_state (c : Conn) : (noteDataAck c).flow.state = c.flow.state := by
  unfold noteDataAck
  split
  · exact sendAck_state c
  · rfl

@[simp] theorem flushPendingAck_inbox (c : Conn) : (flushPendingAck c).inbox = c.inbox := by
  unfold flushPendingAck
  split
  · exact sendAck_inbox c
  · rfl

@[simp] theorem flushPendingAck_state (c : Conn) :
    (flushPendingAck c).flow.state = c.flow.state := by
  unfold flushPendingAck
  split
  · exact sendAck_state c
  · rfl

@[simp] theorem notifyWindowUpdated_inbox (c : Conn) :
    (notifyWindowUpdated c).inbox = c.inbox := by
  unfold notifyWindowUpdated
  split
  · rfl
  · dsimp only
    split
    · exact sendAck_inbox c
    · rfl

@[simp] theorem notifyWindowUpdated_state (c : Conn) :
    (notifyWindowUpdated c).flow.state = c.flow.state := by
  unfold notifyWindowUpdated
  split
  · rfl
  · dsimp only
    split
    · exact sendAck_state c
    · rfl

@[simp] theorem countDropped_inbox (c : Conn) : (countDropped c).inbox = c.inbox := rfl

@[simp] theorem countDropped_state (c : Conn) : (countDropped c).flow.state = c.flow.state := rfl

@[simp] theorem countOoo_inbox (c : Conn) : (countOoo c).inbox = c.inbox := rfl

@[simp] theorem countOoo_state (c : Conn) : (countOoo c).flow.state = c.flow.state := rfl

@[simp] theorem countCached_inbox (c : Conn) : (countCached c).inbox = c.inbox := rfl

@[simp] theorem countCached_state (c : Conn) : (countCached c).flow.state = c.flow.state := rfl

@[simp] theorem releaseBytes_inbox (c : Conn) (n : Nat) : (releaseBytes c n).inbox = c.inbox := rfl

@[simp] theorem releaseBytes_state (c : Conn) (n : Nat) :
    (releaseBytes c n).flow.state = c.flow.state := rfl

@[simp] theorem announceOoo_inbox (c : Conn) (pruned delivered : Bool) :
    (announceOoo c pruned delivered).inbox = c.inbox := by
  unfold announceOoo
  split
  · exact sendAck_inbox c
  · split
    · exact notifyWindowUpdated_inbox c
    · rfl

@[simp] theorem announceOoo_state (c : Conn) (pruned delivered : Bool) :
    (announceOoo c pruned delivered).flow.state = c.flow.state := by
  unfold announceOoo
  split
  · exact sendAck_state c
  · split
    · exact notifyWindowUpdated_state c
    · rfl

@[simp] theorem signalWrite_inbox (c : Conn) : (signalWrite c).inbox = c.inbox := by
  unfold signalWrite
  split
  · split <;> rfl
  · rfl

@[simp] theorem signalWrite_state (c : Conn) : (signalWrite c).flow.state = c.flow.state := by
  unfold signalWrite
  split
  · split <;> rfl
  · rfl

/-! Deliveries. -/

theorem serveRead_inbox (c : Conn) (op : ReadOp) : (serveRead c op).inbox = c.inbox.serve op := by
  simp only [serveRead, flushPendingAck_inbox, notifyWindowUpdated_inbox]
  rfl

@[simp] theorem serveRead_state (c : Conn) (op : ReadOp) :
    (serveRead c op).flow.state = c.flow.state := by
  simp only [serveRead, flushPendingAck_state, notifyWindowUpdated_state]
  rfl

theorem compactRx_inbox (c : Conn) : (compactRx c).inbox = c.inbox.compact := by
  unfold compactRx Inbox.compact
  change _ = if c.flow.rxHead > 0 ∧ c.flow.rxHead * 2 ≥ c.flow.rxData.length then _ else _
  split <;> rfl

@[simp] theorem compactRx_state (c : Conn) : (compactRx c).flow.state = c.flow.state := by
  unfold compactRx
  split <;> rfl

theorem deliverEof_inbox (c : Conn) : (deliverEof c).inbox = c.inbox.eof := by
  unfold deliverEof Inbox.eof
  cases read : c.flow.activeRead with
  | none => simp only [Conn.inbox, read]
  | some op =>
      simp only [Conn.inbox, read]
      split <;> simp [Inbox.post, postRead, read]

@[simp] theorem deliverEof_state (c : Conn) : (deliverEof c).flow.state = c.flow.state := by
  unfold deliverEof
  split
  · split <;> rfl
  · rfl

theorem flushReads_inbox (c : Conn) : (flushReads c).inbox = c.inbox.flush := by
  unfold flushReads Inbox.flush
  rw [deliverEof_inbox, compactRx_inbox]
  congr 2
  cases read : c.flow.activeRead with
  | none => simp only [Conn.inbox, read]
  | some op =>
      have boxRead : c.inbox.activeRead = some op := read
      have boxBytes : c.inbox.rxBytes = c.flow.rxBytes := rfl
      simp only [boxRead, boxBytes]
      split
      · exact serveRead_inbox c op
      · rfl

@[simp] theorem flushReads_state (c : Conn) : (flushReads c).flow.state = c.flow.state := by
  unfold flushReads
  rw [deliverEof_state, compactRx_state]
  split
  · split
    · exact serveRead_state c _
    · rfl
  · rfl

theorem takeFin_inbox (c : Conn) : (takeFin c).inbox = c.inbox.takeFin := by
  unfold takeFin Inbox.takeFin
  change _ = if c.flow.finReceived = true then _ else _
  split <;> rfl

@[simp] theorem finState_inbox (c : Conn) : (finState c).inbox = c.inbox := by
  unfold finState
  split <;> rfl

theorem handleFin_inbox (c : Conn) (finSeq : UInt32) :
    (handleFin c finSeq).inbox = c.inbox.fin finSeq := by
  unfold handleFin Inbox.fin
  change _ = if finSeq = c.flow.rcvNxt then _ else _
  split
  · rw [flushReads_inbox, finState_inbox, sendAck_inbox, takeFin_inbox]
  · split
    · exact sendAck_inbox c
    · rfl

theorem fillRead_inbox (c : Conn) (op : ReadOp) (data : List UInt8) :
    (fillRead c op data).inbox = c.inbox.fill op data := by
  unfold fillRead Inbox.fill
  dsimp only
  split <;> rfl

@[simp] theorem fillRead_state (c : Conn) (op : ReadOp) (data : List UInt8) :
    (fillRead c op data).flow.state = c.flow.state := by
  unfold fillRead
  dsimp only
  split <;> rfl

@[simp] theorem deliverDirect_state (c : Conn) (op : ReadOp) (data : List UInt8) :
    (deliverDirect c op data).flow.state = c.flow.state := by
  unfold deliverDirect
  dsimp only
  split
  · exact fillRead_state c op data
  · rw [sendAck_state]
    split
    · rw [flushReads_state, fillRead_state]
    · exact fillRead_state c op data

theorem deliverDirect_inbox (c : Conn) (op : ReadOp) (data : List UInt8)
    (isOpen : c.flow.state ≠ .closed) :
    (deliverDirect c op data).inbox =
      if min op.total data.length < data.length then (c.inbox.fill op data).flush
      else c.inbox.fill op data := by
  unfold deliverDirect
  dsimp only
  rw [if_neg (by rwa [fillRead_state]), sendAck_inbox]
  split
  · rw [flushReads_inbox, fillRead_inbox]
  · rw [fillRead_inbox]

theorem deliverBuffered_inbox (c : Conn) (data : List UInt8) :
    (deliverBuffered c data).inbox = (c.inbox.queue data).flush := by
  unfold deliverBuffered
  rw [flushReads_inbox, noteDataAck_inbox]
  rfl

@[simp] theorem deliverBuffered_state (c : Conn) (data : List UInt8) :
    (deliverBuffered c data).flow.state = c.flow.state := by
  unfold deliverBuffered
  rw [flushReads_state, noteDataAck_state]

theorem placeData_inbox (c : Conn) (data : List UInt8) (isOpen : c.flow.state ≠ .closed) :
    (placeData c data).inbox = c.inbox.place data := by
  unfold placeData Inbox.place
  have boxData : c.inbox.rxData = c.flow.rxData := rfl
  have boxRead : c.inbox.activeRead = c.flow.activeRead := rfl
  rw [boxData, boxRead]
  cases c.flow.rxData with
  | nil =>
      cases c.flow.activeRead with
      | none => exact deliverBuffered_inbox c data
      | some op => exact deliverDirect_inbox c op data isOpen
  | cons _ _ => exact deliverBuffered_inbox c data

@[simp] theorem deliverData_state (c : Conn) (data : List UInt8) :
    (deliverData c data).flow.state = c.flow.state := by
  unfold deliverData
  split
  · rfl
  · split
    · exact sendAck_state _
    · split
      · rfl
      · unfold placeData
        split
        · exact deliverDirect_state _ _ data
        · exact deliverBuffered_state _ data

/-- In-order data is taken in whole or not at all. -/
theorem deliverData_inbox (c : Conn) (data : List UInt8) (isOpen : c.flow.state ≠ .closed)
    (reading : c.flow.rxShutdown = false) :
    (deliverData c data).inbox = c.inbox ∨
      (deliverData c data).inbox = c.inbox.place data := by
  unfold deliverData
  rw [reading]
  split
  · exact Or.inl rfl
  · rw [if_neg (by simp)]
    split
    · exact Or.inl (countDropped_inbox c)
    · exact Or.inr (placeData_inbox { c with eng.account := _ } data isOpen)

/-! The cache changes only where segments are put into it or taken out of it. -/

@[simp] theorem Inbox.flush_oooCache (box : Inbox) : box.flush.oooCache = box.oooCache := by
  unfold Inbox.flush Inbox.eof Inbox.compact
  dsimp only
  repeat' split
  all_goals rfl

@[simp] theorem Inbox.fin_oooCache (box : Inbox) (finSeq : UInt32) :
    (box.fin finSeq).oooCache = box.oooCache := by
  unfold Inbox.fin Inbox.takeFin
  split
  · rw [Inbox.flush_oooCache]
    split <;> rfl
  · rfl

@[simp] theorem Inbox.fill_oooCache (box : Inbox) (op : ReadOp) (data : List UInt8) :
    (box.fill op data).oooCache = box.oooCache := by
  unfold Inbox.fill
  dsimp only
  split <;> rfl

@[simp] theorem handleFin_oooCache (c : Conn) (finSeq : UInt32) :
    (handleFin c finSeq).flow.oooCache = c.flow.oooCache :=
  (congrArg Inbox.oooCache (handleFin_inbox c finSeq)).trans (Inbox.fin_oooCache _ _)

@[simp] theorem fillRead_oooCache (c : Conn) (op : ReadOp) (data : List UInt8) :
    (fillRead c op data).flow.oooCache = c.flow.oooCache :=
  (congrArg Inbox.oooCache (fillRead_inbox c op data)).trans (Inbox.fill_oooCache _ _ _)

@[simp] theorem flushReads_oooCache (c : Conn) :
    (flushReads c).flow.oooCache = c.flow.oooCache :=
  (congrArg Inbox.oooCache (flushReads_inbox c)).trans (Inbox.flush_oooCache _)

@[simp] theorem sendAck_oooCache (c : Conn) : (sendAck c).flow.oooCache = c.flow.oooCache :=
  congrArg Inbox.oooCache (sendAck_inbox c)

@[simp] theorem deliverData_oooCache (c : Conn) (data : List UInt8) :
    (deliverData c data).flow.oooCache = c.flow.oooCache := by
  unfold deliverData
  split
  · rfl
  · split
    · exact sendAck_oooCache _
    · split
      · rfl
      · unfold placeData deliverDirect deliverBuffered
        split
        · dsimp only
          split
          · exact fillRead_oooCache _ _ _
          · rw [sendAck_oooCache]
            split
            · rw [flushReads_oooCache, fillRead_oooCache]
            · exact fillRead_oooCache _ _ _
        · rw [flushReads_oooCache]
          exact congrArg Inbox.oooCache (noteDataAck_inbox _)

@[simp] theorem takeOoo_oooCache (c : Conn) (key : UInt32) (seg : OooSegment) :
    (takeOoo c key seg).flow.oooCache = c.flow.oooCache.erase key :=
  congrArg Inbox.oooCache (notifyWindowUpdated_inbox _)

@[simp] theorem takeOoo_state (c : Conn) (key : UInt32) (seg : OooSegment) :
    (takeOoo c key seg).flow.state = c.flow.state :=
  notifyWindowUpdated_state _

@[simp] theorem finOoo_oooCache (c : Conn) (key : UInt32) (seg : OooSegment) :
    (finOoo c key seg).flow.oooCache = c.flow.oooCache := by
  unfold finOoo
  split
  · exact handleFin_oooCache c _
  · rfl

@[simp] theorem deliverFresh_oooCache (c : Conn) (key : UInt32) (seg : OooSegment) :
    (deliverFresh c key seg).flow.oooCache = c.flow.oooCache := by
  unfold deliverFresh
  dsimp only
  split
  · exact deliverData_oooCache c _
  · rfl

@[simp] theorem deliverFresh_state (c : Conn) (key : UInt32) (seg : OooSegment) :
    (deliverFresh c key seg).flow.state = c.flow.state := by
  unfold deliverFresh
  dsimp only
  split
  · exact deliverData_state c _
  · rfl

@[simp] theorem discardOoo_oooCache (c : Conn) (key : UInt32) (seg : OooSegment) :
    (discardOoo c key seg).flow.oooCache = c.flow.oooCache.erase key := by
  unfold discardOoo
  dsimp only
  split <;> rfl

@[simp] theorem discardOoo_state (c : Conn) (key : UInt32) (seg : OooSegment) :
    (discardOoo c key seg).flow.state = c.flow.state := by
  unfold discardOoo
  dsimp only
  split <;> rfl

theorem readyOoo_cached (flow : TcpFlow) (key : UInt32) (seg : OooSegment)
    (ready : readyOoo flow = some (key, seg)) : flow.oooCache[key]? = some seg :=
  Std.TreeMap.mem_toList_iff_getElem?_eq_some.mp (List.mem_of_find?_eq_some ready)

@[simp] theorem oooAppend_state (c : Conn) (seq : UInt32) (data : List UInt8) (fin : Bool) :
    (oooAppend c seq data fin).1.flow.state = c.flow.state := by
  unfold oooAppend appendFin appendData
  dsimp only
  repeat' split
  all_goals rfl

end Tunio
