import Tunio.Lifecycle

/-!
Delivering in-order data to the application and completing reads
(`flush_reads`, `handle_fin`, `deliver_data`).
-/

namespace Tunio

/-- The loop that copies `n` bytes of `source` into buffers of the given sizes. -/
def copyOut : List Nat → Nat → List UInt8 → List (List UInt8)
  | [], _, _ => []
  | size :: rest, n, source =>
      if n = 0 then []
      else source.take (min size n) :: copyOut rest (n - min size n) (source.drop (min size n))

def serveRead (c : Conn) (op : ReadOp) : Conn :=
  let n := min op.total c.flow.rxBytes
  let data := copyOut op.buffers n (c.flow.rxData.drop c.flow.rxHead)
  let copied := data.flatten.length
  let c := { c with
    flow.activeRead := none
    flow.rxHead := c.flow.rxHead + copied
    flow.rxBytes := c.flow.rxBytes - copied }
  let c := releaseBytes c copied
  let c := postRead c op.handler .success copied data
  let c := notifyWindowUpdated c
  flushPendingAck c

def compactRx (c : Conn) : Conn :=
  if c.flow.rxHead > 0 ∧ c.flow.rxHead * 2 ≥ c.flow.rxData.length then
    { c with flow.rxData := c.flow.rxData.drop c.flow.rxHead, flow.rxHead := 0 }
  else c

def deliverEof (c : Conn) : Conn :=
  match c.flow.activeRead with
  | some op =>
      if c.flow.rxBytes = 0 ∧ c.flow.finReceived then
        postRead { c with flow.activeRead := none } op.handler .eof 0 []
      else c
  | none => c

def flushReads (c : Conn) : Conn :=
  let c := match c.flow.activeRead with
    | some op => if c.flow.rxBytes > 0 then serveRead c op else c
    | none => c
  deliverEof (compactRx c)

/-! The steps of `handle_fin` for a FIN that is in order. -/

def takeFin (c : Conn) : Conn :=
  if c.flow.finReceived then c
  else { c with flow.rcvNxt := c.flow.rcvNxt + 1, flow.finReceived := true }

def finState (c : Conn) : Conn :=
  match c.flow.state with
  | .established => { c with flow.state := .closeWait }
  | .finWait2 =>
      { c with
        flow.state := .timeWait
        flow.destroyAt := c.eng.now + c.eng.cfg.tcpTimeWaitTimeout * 1000 }
  | _ => c

def handleFin (c : Conn) (finSeq : UInt32) : Conn :=
  if finSeq = c.flow.rcvNxt then flushReads (finState (sendAck (takeFin c)))
  else if c.flow.finReceived ∧ finSeq = c.flow.rcvNxt - 1 then sendAck c
  else c

/-- The start of a direct delivery: the read takes what it can, the rest is queued. -/
def fillRead (c : Conn) (op : ReadOp) (data : List UInt8) : Conn :=
  let n := min op.total data.length
  let c := { c with
    flow.activeRead := none
    flow.rcvNxt := c.flow.rcvNxt + UInt32.ofNat data.length }
  let c := releaseBytes c n
  let c :=
    if n < data.length then
      { c with
        flow.rxData := c.flow.rxData ++ data.drop n
        flow.rxBytes := c.flow.rxBytes + (data.length - n) }
    else c
  postRead c op.handler .success n (copyOut op.buffers n data)

/-- Direct delivery: a read is waiting and nothing is queued before this data. -/
def deliverDirect (c : Conn) (op : ReadOp) (data : List UInt8) : Conn :=
  let c := fillRead c op data
  if c.flow.state = .closed then c
  else sendAck (if min op.total data.length < data.length then flushReads c else c)

def deliverBuffered (c : Conn) (data : List UInt8) : Conn :=
  let c := { c with
    flow.rxData := c.flow.rxData ++ data
    flow.rxBytes := c.flow.rxBytes + data.length
    flow.rcvNxt := c.flow.rcvNxt + UInt32.ofNat data.length }
  let c := noteDataAck c
  flushReads c

/-- The budget tests of `deliver_data`: the accountant after the reservation. -/
def admitData (c : Conn) (len : Nat) : Option BufferAccountant :=
  if c.flow.rxBytes + len > c.eng.cfg.maxRxQueuePerFlow then none
  else c.eng.account.reserve len

/-- `deliver_data` once the budgets have admitted the data. -/
def placeData (c : Conn) (data : List UInt8) : Conn :=
  match c.flow.rxData, c.flow.activeRead with
  | [], some op => deliverDirect c op data
  | _, _ => deliverBuffered c data

def deliverData (c : Conn) (data : List UInt8) : Conn :=
  if data.length = 0 then c
  else if c.flow.rxShutdown then
    sendAck { c with flow.rcvNxt := c.flow.rcvNxt + UInt32.ofNat data.length }
  else
    match admitData c data.length with
    | none => countDropped c
    | some account => placeData { c with eng.account := account } data

end Tunio
