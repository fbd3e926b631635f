import Tunio.Send

/-!
The operations the application calls on a flow (`tcp_flow_start_read` to
`tcp_flow_reject`), and the resumption of its send coroutines.
-/

namespace Tunio

def tcpFlowStartRead (c : Conn) (buffers : List Nat) (total : Nat) (handler : HandlerId) : Conn :=
  if c.flow.state = .closed ∨ c.flow.appClosed ∨ c.flow.rxShutdown then
    postRead c handler .badDescriptor 0 []
  else if c.flow.rst then postRead c handler .connectionReset 0 []
  else
    let c := if c.flow.state = .synRcvd then acceptFlow c else c
    if total = 0 then postRead c handler .success 0 []
    else if c.flow.activeRead.isSome then postRead c handler .noBufferSpace 0 []
    else
      let op : ReadOp := { buffers := buffers, total := total, handler := handler }
      flushReads { c with flow.activeRead := some op }

/-- `tun_tcp_socket::do_read_some`. -/
def doReadSome (c : Conn) (buffers : List Nat) (handler : HandlerId) : Conn :=
  tcpFlowStartRead c buffers buffers.sum handler

/-- The coroutine at `index` goes on to its next suspension or ends. -/
def setLoop (index : Nat) : Turn → Conn
  | .again c loop => { c with loops := c.loops.set index loop }
  | .suspend c loop => { c with loops := c.loops.set index loop }
  | .done c => { c with loops := c.loops.eraseIdx index }

def spawnLoop (c : Conn) : Conn :=
  match startLoop c with
  | .again c loop => { c with loops := c.loops ++ [loop] }
  | .suspend c loop => { c with loops := c.loops ++ [loop] }
  | .done c => c

/-- `co_spawn` dispatches on the strand that is running, so the coroutine runs up to
its first suspension before the call returns. -/
def tcpFlowStartWrite (c : Conn) (buffers : List (List UInt8)) (total : Nat)
    (handler : HandlerId) : Conn :=
  if c.flow.state = .closed ∨ c.flow.appClosed ∨ c.flow.finSent then
    postWrite c handler .badDescriptor 0
  else if c.flow.rst then postWrite c handler .connectionReset 0
  else
    let implicitAccept := decide (c.flow.state = .synRcvd)
    let c := if implicitAccept then acceptFlow c else c
    if total = 0 then postWrite c handler .success 0
    else if c.flow.activeWrite.isSome then postWrite c handler .noBufferSpace 0
    else
      let op : WriteOp := {
        buffers := buffers
        total := total
        implicitAccept := implicitAccept
        handler := handler
      }
      spawnLoop { c with flow.activeWrite := some op }

/-- `tun_tcp_socket::do_write_some`. -/
def doWriteSome (c : Conn) (buffers : List (List UInt8)) (handler : HandlerId) : Conn :=
  tcpFlowStartWrite c buffers (buffers.map List.length).sum handler

def tcpFlowShutdownSend (c : Conn) : Conn :=
  if c.flow.state = .closed ∨ c.flow.appClosed then c else sendFin c

def tcpFlowShutdownReceive (c : Conn) : Conn :=
  if c.flow.state = .closed then c
  else
    let readOp := c.flow.activeRead
    let c := { c with flow.rxShutdown := true, flow.activeRead := none }
    completeRead (dropReceived c) readOp .operationAborted

def tcpFlowClose (c : Conn) : Conn :=
  if c.flow.state = .closed ∨ c.flow.appClosed then c
  else
    let readOp := c.flow.activeRead
    let writeOp := c.flow.activeWrite
    let c := { c with
      flow.appClosed := true
      flow.activeRead := none
      flow.activeWrite := none }
    let c := dropReceived (closeWriteCh c)
    let c := if c.flow.sndUna ≠ c.flow.sndNxt then abortFlow c else sendFin c
    completeWrite (completeRead c readOp .operationAborted) writeOp .operationAborted

def tcpFlowReset (c : Conn) : Conn :=
  if c.flow.state = .closed ∨ c.flow.appClosed then c else abortFlow c

def tcpFlowAccept (c : Conn) : Conn := acceptFlow c

def tcpFlowReject (c : Conn) : Conn := rejectFlow c

/-- The timer of a suspended coroutine expires: it wins a race that is still open. -/
def timerFires (c : Conn) (index : Nat) : Conn :=
  match c.loops[index]? with
  | some loop =>
      if loop.receives then { c with loops := c.loops.set index { loop with winner := some .timer } }
      else c
  | none => c

/-- The coroutine whose race is decided runs on. -/
def resumeLoop (c : Conn) (index : Nat) : Conn :=
  match c.loops[index]? with
  | some loop =>
      match loop.winner with
      | some winner => setLoop index (continueLoop (afterRace c loop winner))
      | none => c
  | none => c

/-- The device write a coroutine waits for has completed. -/
def deviceDone (c : Conn) (index : Nat) (failed : Bool) : Conn :=
  match c.loops[index]? with
  | some loop =>
      if loop.await = .device then setLoop index (continueLoop (afterDevice c loop failed))
      else c
  | none => c

/-- The delayed-ACK wait expires; its handler is queued. -/
def ackTimerExpires (c : Conn) : Conn :=
  match c.flow.ackTimer with
  | some timer =>
      if timer.waiting then
        { c with
          flow.ackTimer := some { timer with waiting := false, expired := timer.expired + 1 } }
      else c
  | none => c

/-- A queued handler of the delayed-ACK timer runs. -/
def ackTimerRuns (c : Conn) : Conn :=
  match c.flow.ackTimer with
  | some timer =>
      if timer.expired > 0 then
        let c := { c with flow.ackTimer := some { timer with expired := timer.expired - 1 } }
        if c.flow.state = .closed ∨ ¬c.flow.ackPending then c else sendAck c
      else c
  | none => c

/-- What `on_sweep` does to one flow of the table. -/
def sweepFlow (c : Conn) : Conn :=
  let cfg := c.eng.cfg
  let now := c.eng.now
  let state := c.flow.state
  if (state = .synRcvd ∨ state = .synAckSent) ∧
      now - c.flow.createdAt > cfg.tcpSynTimeout * 1000 then abortFlow c
  else if state = .established ∧ ¬c.flow.accepted ∧
      now - c.flow.createdAt > cfg.tcpAcceptTimeout * 1000 then abortFlow c
  else if state = .timeWait ∧ now ≥ c.flow.destroyAt then closeFlow c .operationAborted
  else if (state = .finWait1 ∨ state = .finWait2 ∨ state = .lastAck) ∧
      now - c.flow.closeStartedAt > cfg.tcpCloseTimeout * 1000 then closeFlow c .operationAborted
  else c

end Tunio
