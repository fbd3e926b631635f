import Tunio.Output

/-! Opening, accepting, aborting and closing a flow, and its FIN. -/

namespace Tunio

/-! The steps of `close_flow`. -/

def cancelAckTimer (c : Conn) : Conn :=
  match c.flow.ackTimer with
  | some timer => { c with flow.ackTimer := some { timer with waiting := false } }
  | none => c

def withdrawAccept (c : Conn) : Conn :=
  if c.flow.pendingAccept then
    { c with
      flow.pendingAccept := false
      eng.pendingFlows := c.eng.pendingFlows.erase c.flow.id }
  else c

/-- Only a flow that has left the handshake was counted. -/
def uncountFlow (c : Conn) : Conn :=
  if c.flow.state ≠ .synRcvd ∧ c.flow.state ≠ .synAckSent then
    { c with eng.stats.tcpConnections := sizeSub c.eng.stats.tcpConnections 1 }
  else c

def detachFlow (c : Conn) : Conn :=
  { c with
    flow.state := .closed
    eng.flows := c.eng.flows.filter fun entry => entry.1 ≠ c.flow.key }

def closeFlow (c : Conn) (err : ErrorCode) : Conn :=
  if c.flow.state = .closed then c
  else
    let c := withdrawAccept (cancelAckTimer c)
    let readOp := c.flow.activeRead
    let writeOp := c.flow.activeWrite
    let c := dropReceived { c with flow.activeRead := none, flow.activeWrite := none }
    let c := closeWriteCh (detachFlow (uncountFlow c))
    completeWrite (completeRead c readOp err) writeOp err

@[simp] theorem closeWriteCh_flow_state (c : Conn) :
    (closeWriteCh c).flow.state = c.flow.state := by
  unfold closeWriteCh
  split <;> rfl

@[simp] theorem dropReceived_state (c : Conn) : (dropReceived c).flow.state = c.flow.state := by
  unfold dropReceived
  dsimp only
  split <;> split <;> rfl

@[simp] theorem completeRead_flow (c : Conn) (op : Option ReadOp) (ec : ErrorCode) :
    (completeRead c op ec).flow = c.flow := by
  cases op <;> rfl

@[simp] theorem completeWrite_flow (c : Conn) (op : Option WriteOp) (ec : ErrorCode) :
    (completeWrite c op ec).flow = c.flow := by
  cases op <;> rfl

@[simp] theorem closeFlow_state (c : Conn) (err : ErrorCode) :
    (closeFlow c err).flow.state = .closed := by
  unfold closeFlow
  split
  · assumption
  · dsimp only
    rw [completeWrite_flow, completeRead_flow, closeWriteCh_flow_state]
    rfl

/-- What each of its steps keeps, `close_flow` keeps. -/
theorem closeFlow_keeps {α : Type} (view : Conn → α) (err : ErrorCode)
    (withdrawn : ∀ c, view (withdrawAccept (cancelAckTimer c)) = view c)
    (dropped : ∀ c, view (dropReceived { c with flow.activeRead := none, flow.activeWrite := none }) =
      view c)
    (detached : ∀ c, view (detachFlow (uncountFlow c)) = view c)
    (shut : ∀ c, view (closeWriteCh c) = view c)
    (completed : ∀ c read write,
      view (completeWrite (completeRead c read err) write err) = view c)
    (c : Conn) : view (closeFlow c err) = view c := by
  unfold closeFlow
  split
  · rfl
  · dsimp only
    rw [completed, shut, detached, dropped, withdrawn]

def abortFlow (c : Conn) : Conn :=
  if c.flow.state = .closed then c
  else
    let c := sendSegment c c.flow.sndNxt (tcpRst ||| tcpAck) [] false
    closeFlow { c with flow.rst := true } .connectionReset

@[simp] theorem abortFlow_state (c : Conn) : (abortFlow c).flow.state = .closed := by
  unfold abortFlow
  split
  · assumption
  · exact closeFlow_state _ _

def acceptFlow (c : Conn) : Conn :=
  if c.flow.state ≠ .synRcvd then c
  else
    let c := sendSegment c c.flow.iss (tcpSyn ||| tcpAck) [] true
    { c with flow.sndNxt := c.flow.iss + 1, flow.state := .synAckSent }

def rejectFlow (c : Conn) : Conn := abortFlow c

def notifyAccept (c : Conn) : Conn :=
  match c.eng.pendingAccepts with
  | handler :: rest =>
      { c with
        flow.accepted := true
        eng.pendingAccepts := rest
        eng.accepts := c.eng.accepts ++
          [{ handler := handler, ec := .success, flow := some c.flow.id }] }
  | [] =>
      { c with
        flow.pendingAccept := true
        eng.pendingFlows := c.eng.pendingFlows ++ [c.flow.id] }

/-- The part of `send_fin` shared by the two states in which a FIN is sent. -/
def emitFin (c : Conn) (state : TcpState) : Conn :=
  let c := { c with flow.state := state, flow.closeStartedAt := c.eng.now }
  let c := sendSegment c c.flow.sndNxt (tcpAck ||| tcpFin) [] false
  { c with flow.sndNxt := c.flow.sndNxt + 1 }

def unsentWrite (flow : TcpFlow) : Bool :=
  match flow.activeWrite with
  | some op => decide (op.offset < op.total)
  | none => false

def sendFin (c : Conn) : Conn :=
  if c.flow.finSent ∨ c.flow.state = .closed then c
  else if unsentWrite c.flow ∨ c.flow.sndUna ≠ c.flow.sndNxt then
    { c with flow.finPending := true }
  else
    let c := { c with flow.finSent := true }
    match c.flow.state with
    | .established => emitFin c .finWait1
    | .closeWait => emitFin c .lastAck
    | .synRcvd => abortFlow c
    | .synAckSent => abortFlow c
    | _ => c

theorem sendFin_finSent (c : Conn) (finSent : c.flow.finSent = true) : sendFin c = c := by
  unfold sendFin
  rw [if_pos (Or.inl finSent)]

end Tunio
