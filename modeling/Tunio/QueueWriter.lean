import Mathlib.Logic.Function.Basic
import Tunio.PacketBuffer
import Tunio.Types

/-!
The writer that puts packets on the queues of the device (`tun_queue_writer.hpp`).  Packets
are numbered as they are submitted; each queue remembers which of them the device was given
and which it has written.
-/

namespace Tunio

/-! The choice of a queue. -/

def fnvOffset : UInt64 := 1469598103934665603

def fnvPrime : UInt64 := 1099511628211

def fnvMix (h : UInt64) (bytes : List UInt8) : UInt64 :=
  bytes.foldl (fun h byte => (h ^^^ byte.toUInt64) * fnvPrime) h

def sliceOf (bytes : List UInt8) (offset len : Nat) : List UInt8 := (bytes.drop offset).take len

/-- The hash of an IPv4 packet. -/
def hashV4 (p : List UInt8) : UInt64 :=
  let ihl := (p.getD 0 0 &&& 0x0f).toNat * 4
  let total := (p.getD 2 0).toNat * 256 + (p.getD 3 0).toNat
  let proto := p.getD 9 0
  let h := fnvMix fnvOffset (sliceOf p 12 4)
  let h := fnvMix h (sliceOf p 16 4)
  let h := fnvMix h (sliceOf p 9 1)
  if ihl ≥ 20 ∧ total ≥ ihl ∧ p.length ≥ total ∧ (proto = 6 ∨ proto = 17) ∧ total - ihl ≥ 4 then
    fnvMix h (sliceOf p ihl 4)
  else h

/-- The hash of an IPv6 packet with a whole header. -/
def hashV6 (p : List UInt8) : UInt64 :=
  let total := 40 + ((p.getD 4 0).toNat * 256 + (p.getD 5 0).toNat)
  let proto := p.getD 6 0
  let h := fnvMix fnvOffset (sliceOf p 8 16)
  let h := fnvMix h (sliceOf p 24 16)
  let h := fnvMix h (sliceOf p 6 1)
  if total ≥ 40 ∧ p.length ≥ total ∧ (proto = 6 ∨ proto = 17) ∧ total - 40 ≥ 4 then
    fnvMix h (sliceOf p 40 4)
  else h

def pickTxQueue (p : List UInt8) (queueCount : Nat) : Nat :=
  if queueCount ≤ 1 then 0
  else if p.length < 20 then 0
  else if p.getD 0 0 >>> 4 = 4 then (hashV4 p).toNat % queueCount
  else if p.getD 0 0 >>> 4 = 6 then
    if p.length < 40 then 0 else (hashV6 p).toNat % queueCount
  else 0

theorem pickTxQueue_lt (p : List UInt8) (queueCount : Nat) (some_ : 1 ≤ queueCount) :
    pickTxQueue p queueCount < queueCount := by
  have within (h : UInt64) : h.toNat % queueCount < queueCount := Nat.mod_lt _ some_
  unfold pickTxQueue
  split
  · exact some_
  · split
    · exact some_
    · split
      · exact within _
      · split
        · split
          · exact some_
          · exact within _
        · exact some_

/-! The writer. -/

/-- How an operation of the device, or of the writer, has ended. -/
inductive IoCode
  | success
  | noBufferSpace
  | tryAgain
  | operationAborted
  | other (code : Nat)
  deriving DecidableEq, Repr

def isTransientWriteError (ec : IoCode) : Bool :=
  match ec with
  | .noBufferSpace | .tryAgain => true
  | _ => false

def kWriteRetryLimit : Nat := 4096
def kQueueMaxEntries : Nat := 16384
def kPoolMax : Nat := 64

structure WriteEntry where
  buf : PacketBuffer
  handler : Option HandlerId
  queue : Nat
  retriesLeft : Nat := kWriteRetryLimit
  number : Nat
  deriving DecidableEq

/-- The chain of one queue; `inFlight` writes of it are outstanding, `attempts` are the packets
the device was given, `written` those it has written. -/
structure QueueState where
  queue : List WriteEntry := []
  current : Option WriteEntry := none
  inFlight : Nat := 0
  attempts : List Nat := []
  written : List Nat := []
  deriving DecidableEq

structure PacketCompletion where
  number : Nat
  handler : HandlerId
  ec : IoCode
  n : Nat
  deriving DecidableEq, Repr

/-- The counters are those of the shared statistics since the writer was created;
`registered` are the handlers that were passed in, with the numbers of their packets. -/
structure QueueWriter where
  queueCount : Nat
  states : Nat → QueueState := fun _ => {}
  pool : List PacketBuffer := []
  queuedTotal : Nat := 0
  cancelled : Bool := false
  ipId : UInt16 := 0
  txPackets : Nat := 0
  txDropped : Nat := 0
  submitted : Nat := 0
  registered : List (Nat × HandlerId) := []
  completions : List PacketCompletion := []

namespace QueueWriter

/-- The number of chains. -/
def slots (w : QueueWriter) : Nat := max 1 w.queueCount

def put (w : QueueWriter) (q : Nat) (st : QueueState) : QueueWriter :=
  { w with states := Function.update w.states q st }

def completeWrite (w : QueueWriter) (e : WriteEntry) (ec : IoCode) (n : Nat) : QueueWriter :=
  match e.handler with
  | some handler =>
      { w with completions := w.completions ++
          [{ number := e.number, handler := handler, ec := ec, n := n }] }
  | none => w

/-- Buffers of another headroom, or too small ones, are dropped on the way.  `memory` is what
the allocator would give; `none` when the constructor of the buffer throws. -/
def acquireFrom (memory : List UInt8) (headroom : Nat) :
    List PacketBuffer → List PacketBuffer × Option PacketBuffer
  | [] => ([], PacketBuffer.new memory headroom)
  | buf :: rest =>
      if buf.capacity ≥ memory.length ∧ buf.headroom = headroom then (rest, some buf)
      else acquireFrom memory headroom rest

/-- The pool is a stack: its last buffer is in front. -/
def acquire (w : QueueWriter) (memory : List UInt8) (headroom : Nat) :
    QueueWriter × Option PacketBuffer :=
  let result := acquireFrom memory headroom w.pool
  ({ w with pool := result.1 }, result.2)

def recycle (w : QueueWriter) (buf : PacketBuffer) : QueueWriter :=
  if w.pool.length < kPoolMax then { w with pool := buf.reset :: w.pool } else w

def allocIpId (w : QueueWriter) : QueueWriter × UInt16 :=
  ({ w with ipId := w.ipId + 1 }, w.ipId + 1)

/-- The device is given the current packet of a queue. -/
def startWrite (w : QueueWriter) (q : Nat) : QueueWriter :=
  let st := w.states q
  match st.current with
  | some e => w.put q { st with inFlight := st.inFlight + 1, attempts := st.attempts ++ [e.number] }
  | none => w

def pump (w : QueueWriter) (q : Nat) : QueueWriter :=
  let st := w.states q
  if w.cancelled ∨ st.current.isSome then w
  else
    match st.queue with
    | [] => w
    | e :: rest =>
        let w := w.put q { st with queue := rest, current := some e }
        startWrite { w with queuedTotal := sizeSub w.queuedTotal 1 } q

/-- A packet has come in, with its handler if it has one. -/
def register (w : QueueWriter) (handler : Option HandlerId) : QueueWriter :=
  { w with
    submitted := w.submitted + 1
    registered := w.registered ++ (handler.map fun handler => (w.submitted, handler)).toList }

/-- A packet is put at the end of its queue. -/
def enqueue (w : QueueWriter) (number : Nat) (buf : PacketBuffer) (handler : Option HandlerId) :
    QueueWriter :=
  let q := pickTxQueue buf.bytes w.queueCount
  let st := w.states q
  let entry : WriteEntry := { buf := buf, handler := handler, queue := q, number := number }
  let w := w.put q { st with queue := st.queue ++ [entry] }
  pump { w with queuedTotal := w.queuedTotal + 1 } q

def asyncWriteAndForget (w : QueueWriter) (buf : PacketBuffer) : QueueWriter :=
  let number := w.submitted
  let w := w.register none
  if w.cancelled ∨ w.queuedTotal ≥ kQueueMaxEntries then { w with txDropped := w.txDropped + 1 }
  else w.enqueue number buf none

def asyncWrite (w : QueueWriter) (buf : PacketBuffer) (handler : HandlerId) : QueueWriter :=
  let number := w.submitted
  let w := w.register (some handler)
  if w.cancelled ∨ w.queuedTotal ≥ kQueueMaxEntries then
    let err : IoCode := if w.cancelled then .operationAborted else .noBufferSpace
    { w with
      txDropped := w.txDropped + 1
      completions := w.completions ++ [{ number := number, handler := handler, ec := err, n := 0 }] }
  else w.enqueue number buf (some handler)

/-- The end of a write that is not retried. -/
def finishWrite (w : QueueWriter) (e : WriteEntry) (ec : IoCode) (n : Nat) (q : Nat) :
    QueueWriter :=
  let w :=
    if ec = .success then { w with txPackets := w.txPackets + 1 }
    else { w with txDropped := w.txDropped + 1 }
  let w := if w.cancelled then w.completeWrite e .operationAborted 0 else w.completeWrite e ec n
  let st := w.states q
  (w.recycle e.buf).put q { st with current := none }

/-- `on_write_done`, once the device has let go of the packet. -/
def onWriteDone (w : QueueWriter) (ec : IoCode) (n : Nat) (q : Nat) : QueueWriter :=
  let st := w.states q
  match st.current with
  | none => w
  | some e =>
      if ¬w.cancelled ∧ isTransientWriteError ec ∧ e.retriesLeft > 0 then
        startWrite (w.put q { st with current := some { e with retriesLeft := e.retriesLeft - 1 } }) q
      else pump (w.finishWrite e ec n q) q

def cancelEntry (w : QueueWriter) (e : WriteEntry) : QueueWriter :=
  let w := { w with queuedTotal := sizeSub w.queuedTotal 1, txDropped := w.txDropped + 1 }
  (w.recycle e.buf).completeWrite e .operationAborted 0

/-- The loop of `cancel_all` over one queue; the argument is the number of its entries. -/
def cancelQueue (q : Nat) : Nat → QueueWriter → QueueWriter
  | 0, w => w
  | fuel + 1, w =>
      let st := w.states q
      match st.queue with
      | [] => w
      | e :: rest => cancelQueue q fuel ((w.put q { st with queue := rest }).cancelEntry e)

def cancelAll (w : QueueWriter) : QueueWriter :=
  (List.range w.slots).foldl (fun w q => cancelQueue q (w.states q).queue.length w)
    { w with cancelled := true }

/-- What the device does with the write of a queue that it was given. -/
def deviceDone (w : QueueWriter) (q : Nat) (ec : IoCode) (n : Nat) : QueueWriter :=
  let st := w.states q
  match st.inFlight, st.current with
  | inFlight + 1, some e =>
      let written := if ec = .success then st.written ++ [e.number] else st.written
      onWriteDone (w.put q { st with inFlight := inFlight, written := written }) ec n q
  | _, _ => w

end QueueWriter

inductive WriterEvent
  | asyncWriteAndForget (buf : PacketBuffer)
  | asyncWrite (buf : PacketBuffer) (handler : HandlerId)
  | deviceDone (q : Nat) (ec : IoCode) (n : Nat)
  | cancelAll

namespace QueueWriter

def step (w : QueueWriter) : WriterEvent → QueueWriter
  | .asyncWriteAndForget buf => w.asyncWriteAndForget buf
  | .asyncWrite buf handler => w.asyncWrite buf handler
  | .deviceDone q ec n => w.deviceDone q ec n
  | .cancelAll => w.cancelAll

def run (w : QueueWriter) (events : List WriterEvent) : QueueWriter := events.foldl step w

/-- A writer nothing was submitted to, over a device with so many queues. -/
def fresh (queueCount : Nat) : QueueWriter := { queueCount := queueCount }

end QueueWriter

end Tunio
