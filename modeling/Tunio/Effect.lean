import Tunio.Aside
import Tunio.Frame
import Tunio.Sender

/-!
What the operations of a flow are made of.  Every step is a path of effects, so an
invariant of the flow needs to be checked for one effect at a time.
-/

namespace Tunio

open Machines

/-- The states behind the handshake. -/
def Past (state : TcpState) : Prop :=
  state ≠ .closed ∧ state ≠ .synRcvd ∧ state ≠ .synAckSent

/-- The part of `serve_read` up to the completion of the read. -/
def takeQueued (c : Conn) (op : ReadOp) : Conn :=
  let n := min op.total c.flow.rxBytes
  let data := copyOut op.buffers n (c.flow.rxData.drop c.flow.rxHead)
  let copied := data.flatten.length
  let c := { c with
    flow.activeRead := none
    flow.rxHead := c.flow.rxHead + copied
    flow.rxBytes := c.flow.rxBytes - copied }
  postRead (releaseBytes c copied) op.handler .success copied data

def removeOoo (c : Conn) (key : UInt32) (seg : OooSegment) : Conn :=
  releaseBytes { c with
    flow.oooCache := c.flow.oooCache.erase key
    flow.oooBytes := sizeSub c.flow.oooBytes seg.data.length
    flow.oooCount := sizeSub c.flow.oooCount 1 } seg.data.length

inductive Effect
  | submit (seq : UInt32) (flags : UInt8) (payload : List UInt8) (withMss : Bool)
  | next (inFlight : UInt32)
  | accept
  | establish
  | notify
  | handOut
  | fin
  | sealed
  | giveUp
  | abort
  | resetBy
  | close (err : ErrorCode)
  | finAcked
  | una (ack : UInt32)
  | probeAck (ack : UInt32)
  | probing (inFlight : Bool)
  | pend (pending : Bool)
  | window (wnd : UInt32)
  | direct (op : ReadOp) (account : BufferAccountant) (data : List UInt8)
  | buffer (account : BufferAccountant) (data : List UInt8)
  | skip (len : Nat)
  | takeFin
  | serve (op : ReadOp)
  | compact
  | eof (op : ReadOp)
  | announce (wnd : UInt32)
  | append (seq : UInt32) (data : List UInt8) (fin : Bool)
  | discard (key : UInt32) (seg : OooSegment)
  | remove (key : UInt32) (seg : OooSegment)
  | countCached
  | countDropped
  | countOoo
  | startRead (op : ReadOp)
  | refuseRead (handler : HandlerId) (ec : ErrorCode)
  | cancelRead (op : ReadOp)
  | startWrite (op : WriteOp)
  | refuseWrite (handler : HandlerId) (ec : ErrorCode)
  | endWrite (op : WriteOp) (ec : ErrorCode) (n : Nat)
  | cancelWrite (op : WriteOp)
  | locate
  | shutReceive
  | appClose
  | drop
  | closeChannel
  | begin_
  | loops (loops : List WriteLoop)
  | spawn (loop : WriteLoop)
  | finish (index : Nat)
  | ackTimerExpires
  | ackTimerRuns
  | fault
  | elsewhere (eng : TcpEngine)

namespace Conn

/-- The start of `write_loop`: the channel exists and the write knows its first number. -/
def beginWrite (c : Conn) : Conn :=
  { c with
    flow.writeCh := some (c.flow.writeCh.getD { isOpen := true })
    flow.activeWrite := c.flow.activeWrite.map fun op => { op with startSeq := c.flow.sndNxt } }

def apply (c : Conn) : Effect → Conn
  | .submit seq flags payload withMss => sendSegment c seq flags payload withMss
  | .next inFlight =>
      match c.flow.activeWrite with
      | some op => (buildNextSegment c op inFlight).1
      | none => c
  | .accept => acceptFlow c
  | .establish =>
      { c with
        flow.state := .established
        eng.stats.tcpConnections := c.eng.stats.tcpConnections + 1 }
  | .notify => notifyAccept c
  | .handOut => Tunio.handOut c
  | .fin => emitFin { c with flow.finSent := true } c.flow.state.finished
  | .sealed => { c with flow.finSent := true }
  | .giveUp => abortFlow { c with flow.finSent := true }
  | .abort => abortFlow c
  | .resetBy => closeFlow { c with flow.rst := true } .connectionReset
  | .close err => closeFlow c err
  | .finAcked =>
      if c.flow.finReceived then
        { c with
          flow.state := .timeWait
          flow.destroyAt := c.eng.now + c.eng.cfg.tcpTimeWaitTimeout * 1000 }
      else { c with flow.state := .finWait2 }
  | .una ack => { c with flow.sndUna := ack }
  | .probeAck ack => acceptProbe c ack
  | .probing inFlight => { c with flow.probeInFlight := inFlight }
  | .pend pending => { c with flow.finPending := pending }
  | .window wnd => { c with flow.peerWnd := wnd }
  | .direct op account data => deliverDirect { c with eng.account := account } op data
  | .buffer account data =>
      noteDataAck { c with
        eng.account := account
        flow.rxData := c.flow.rxData ++ data
        flow.rxBytes := c.flow.rxBytes + data.length
        flow.rcvNxt := c.flow.rcvNxt + UInt32.ofNat data.length }
  | .skip len => sendAck { c with flow.rcvNxt := c.flow.rcvNxt + UInt32.ofNat len }
  | .takeFin => finState (sendAck (Tunio.takeFin c))
  | .serve op => takeQueued c op
  | .compact => compactRx c
  | .eof op => postRead { c with flow.activeRead := none } op.handler .eof 0 []
  | .announce wnd => { c with flow.lastWndAdvertised := wnd }
  | .append seq data fin => (oooAppend c seq data fin).1
  | .discard key seg => discardOoo c key seg
  | .remove key seg => removeOoo c key seg
  | .countCached => Tunio.countCached c
  | .countDropped => Tunio.countDropped c
  | .countOoo => Tunio.countOoo c
  | .startRead op => { c with flow.activeRead := some op }
  | .refuseRead handler ec => postRead c handler ec 0 []
  | .cancelRead op =>
      postRead { c with flow.activeRead := none } op.handler .operationAborted 0 []
  | .startWrite op => { c with flow.activeWrite := some op }
  | .refuseWrite handler ec => postWrite c handler ec 0
  | .endWrite op ec n => postWrite { c with flow.activeWrite := none } op.handler ec n
  | .cancelWrite op =>
      postWrite { c with flow.activeWrite := none } op.handler .operationAborted 0
  | .locate => { c with flow.activeWrite := c.flow.activeWrite.map normalize }
  | .shutReceive => { c with flow.rxShutdown := true }
  | .appClose => { c with flow.appClosed := true }
  | .drop => dropReceived c
  | .closeChannel => closeWriteCh c
  | .begin_ => beginWrite c
  | .loops loops => { c with loops := loops }
  | .spawn loop => { c with loops := c.loops ++ [loop] }
  | .finish index => { c with loops := c.loops.eraseIdx index }
  | .ackTimerExpires => Tunio.ackTimerExpires c
  | .ackTimerRuns => Tunio.ackTimerRuns c
  | .fault => { c with fault := true }
  | .elsewhere eng => { c with eng := { eng with cfg := c.eng.cfg, now := max c.eng.now eng.now } }

/-- A SYN goes out in SYN_ACK_SENT only (the first one is part of `accept`). -/
def MaySubmit (c : Conn) (seq : UInt32) (flags : UInt8) (payload : List UInt8) (withMss : Bool) :
    Prop :=
  ((flags = tcpAck ∨ flags = tcpAck ||| tcpPsh) ∧ withMss = false) ∨
    (flags = tcpSyn ||| tcpAck ∧ seq = c.flow.iss ∧ payload = [] ∧ withMss = true ∧
      c.flow.state = .synAckSent)

def Permits (c : Conn) : Effect → Prop
  | .submit seq flags payload withMss => c.MaySubmit seq flags payload withMss
  | .next _ => c.flow.state ≠ .closed ∧ c.flow.activeWrite.isSome = true
  | .accept => c.flow.state = .synRcvd
  | .establish => c.flow.state = .synAckSent
  | .notify => c.flow.state = .established ∧ c.flow.accepted = false
  | .handOut => True
  | .fin =>
      (c.flow.state = .established ∨ c.flow.state = .closeWait) ∧ c.flow.finSent = false ∧
        unsentWrite c.flow = false ∧ c.flow.sndUna = c.flow.sndNxt
  | .sealed =>
      Past c.flow.state ∧ c.flow.state ≠ .established ∧ c.flow.state ≠ .closeWait ∧
        c.flow.finSent = false
  | .giveUp => c.flow.state = .synRcvd ∨ c.flow.state = .synAckSent
  | .abort => True
  | .resetBy => True
  | .close _ => True
  | .finAcked => c.flow.state = .finWait1 ∧ c.flow.finSent = true
  | .una ack => seqGt ack c.flow.sndUna = true ∧ seqGe c.flow.sndNxt ack = true
  | .probeAck ack => c.flow.probeInFlight = true ∧ ack = c.flow.sndNxt + 1
  | .probing inFlight => inFlight = true → c.flow.activeWrite.isSome = true
  | .pend _ => True
  | .window _ => True
  | .direct op account data =>
      Past c.flow.state ∧ c.flow.activeRead = some op ∧ c.flow.rxData = [] ∧ data ≠ [] ∧
        admitData c data.length = some account
  | .buffer account data =>
      Past c.flow.state ∧ data ≠ [] ∧ admitData c data.length = some account
  | .skip _ => Past c.flow.state ∧ c.flow.rxShutdown = true
  | .takeFin => Past c.flow.state
  | .serve op => c.flow.activeRead = some op ∧ c.flow.rxBytes > 0
  | .compact => True
  | .eof op => c.flow.activeRead = some op ∧ c.flow.rxBytes = 0 ∧ c.flow.finReceived = true
  | .announce _ => True
  | .append seq _ _ => Past c.flow.state ∧ seqGt seq c.flow.rcvNxt = true
  | .discard key seg => c.flow.oooCache[key]? = some seg
  | .remove key seg => c.flow.oooCache[key]? = some seg
  | .countCached => True
  | .countDropped => Past c.flow.state
  | .countOoo => Past c.flow.state
  | .startRead _ =>
      c.flow.state ≠ .closed ∧ c.flow.state ≠ .synRcvd ∧ c.flow.activeRead = none
  | .refuseRead _ _ => True
  | .cancelRead op => c.flow.activeRead = some op
  | .startWrite _ =>
      c.flow.state ≠ .closed ∧ c.flow.state ≠ .synRcvd ∧ c.flow.appClosed = false ∧
        c.flow.finSent = false ∧ c.flow.activeWrite = none
  | .refuseWrite _ _ => True
  | .endWrite op _ _ => c.flow.activeWrite = some op
  | .cancelWrite op => c.flow.activeWrite = some op ∧ c.flow.appClosed = true
  | .locate => True
  | .shutReceive => c.flow.state ≠ .closed
  | .appClose => c.flow.state ≠ .closed
  | .drop => c.flow.state ≠ .closed
  | .closeChannel => True
  | .begin_ => c.flow.activeWrite.isSome = true
  | .loops loops => loops.length = c.loops.length
  | .spawn _ => True
  | .finish _ => True
  | .ackTimerExpires => True
  | .ackTimerRuns => True
  | .fault => c.flow.activeWrite = none
  | .elsewhere _ => True

end Conn

def flowMachine : Machine Conn Effect where
  enabled := Conn.Permits
  act := Conn.apply

/-- What a path of effects belongs to: an operation of the engine, the code of a send
coroutine, or the start and the resumption of a coroutine. -/
inductive Scope
  | operation
  | coroutine
  | scheduler
  deriving DecidableEq

/-- The effects of a scope that take in at most `len` bytes at once: neither the handler of
a new operation nor anything from the rest of the engine.  Without new bytes none are
delivered and the cache is not gone through, closing is no end of the stream, and a FIN is
deferred by an operation only. -/
def Effect.within (len : Nat) (scope : Scope) : Effect → Bool
  | .startRead _ | .refuseRead _ _ | .startWrite _ | .refuseWrite _ _ | .elsewhere _ => false
  | .append _ data _ => decide (data.length ≤ len)
  | .direct _ _ _ | .buffer _ _ | .skip _ => decide (0 < len)
  | .discard _ _ | .remove _ _ | .countCached => decide (0 < len)
  | .close err => decide (err ≠ .eof)
  | .endWrite _ _ _ | .fault => decide (scope ≠ .operation)
  | .spawn _ | .finish _ => decide (scope = .scheduler)
  | .pend _ => decide (scope = .operation)
  | _ => true

/-- The data of the segment that an effect names. -/
def Effect.data : Effect → List UInt8
  | .submit _ _ payload _ => payload
  | _ => []

/-- A segment holds no more than an MSS. -/
def Plain (len : Nat) (scope : Scope) (c : Conn) (effect : Effect) : Prop :=
  effect.within len scope = true ∧ effect.data.length ≤ mss c.eng.cfg c.flow.key.family

abbrev Unfolds (len : Nat) (scope : Scope) (before after : Conn) : Prop :=
  Steps flowMachine (Plain len scope) before after

theorem Past.of_drift {before after : TcpState} (past : Past before) (drift : Drift before after) :
    Past after := by
  rcases drift with rfl | ⟨rfl, rfl⟩ | ⟨rfl, rfl⟩
  · exact past
  · simp [Past]
  · simp [Past]

theorem Quiet.past {before after : Conn} (quiet : Quiet before after)
    (past : Past before.flow.state) : Past after.flow.state := past.of_drift quiet.drift

theorem flushReads_idle (c : Conn) (idle : c.flow.activeRead = none) :
    flushReads c = compactRx c := by
  have stays : (compactRx c).flow.activeRead = none := by
    unfold compactRx
    split <;> exact idle
  simp only [flushReads, idle, deliverEof, stays]

/-! Posting a completion commutes with what does not look at the completions. -/

/-- The same flow with more completions posted before. -/
def Conn.posted (c : Conn) (reads : List ReadCompletion) (writes : List WriteCompletion) : Conn :=
  { c with reads := c.reads ++ reads, writes := c.writes ++ writes }

section

variable (c : Conn) (reads : List ReadCompletion) (writes : List WriteCompletion)

theorem sendSegment_posted (seq : UInt32) (flags : UInt8) (payload : List UInt8) (withMss : Bool) :
    sendSegment (c.posted reads writes) seq flags payload withMss =
      (sendSegment c seq flags payload withMss).posted reads writes := by
  by_cases closed : c.flow.state = .closed
  · simp only [sendSegment, Conn.posted, closed, if_true]
  · simp only [sendSegment, Conn.posted, closed, if_false]
    rfl

theorem cancelAckTimer_posted :
    cancelAckTimer (c.posted reads writes) = (cancelAckTimer c).posted reads writes := by
  unfold cancelAckTimer Conn.posted
  dsimp only
  split <;> rfl

theorem withdrawAccept_posted :
    withdrawAccept (c.posted reads writes) = (withdrawAccept c).posted reads writes := by
  unfold withdrawAccept Conn.posted
  dsimp only
  split <;> rfl

theorem uncountFlow_posted :
    uncountFlow (c.posted reads writes) = (uncountFlow c).posted reads writes := by
  unfold uncountFlow Conn.posted
  dsimp only
  split <;> rfl

theorem closeWriteCh_posted :
    closeWriteCh (c.posted reads writes) = (closeWriteCh c).posted reads writes := by
  unfold closeWriteCh Conn.posted
  dsimp only
  split <;> rfl

theorem dropReceived_posted :
    dropReceived (c.posted reads writes) = (dropReceived c).posted reads writes := by
  by_cases queued : c.flow.rxBytes > 0 <;> by_cases early : c.flow.oooBytes > 0 <;>
    simp only [dropReceived, Conn.posted, releaseBytes, queued, early, if_true, if_false]

theorem withdrawn_idle (noRead : c.flow.activeRead = none) (noWrite : c.flow.activeWrite = none) :
    (withdrawAccept (cancelAckTimer c)).flow.activeRead = none ∧
      (withdrawAccept (cancelAckTimer c)).flow.activeWrite = none := by
  unfold withdrawAccept cancelAckTimer
  split <;> split <;> exact ⟨noRead, noWrite⟩

/-- Without an operation in progress `close_flow` posts nothing itself. -/
theorem closeFlow_posted (err : ErrorCode) (noRead : c.flow.activeRead = none)
    (noWrite : c.flow.activeWrite = none) :
    closeFlow (c.posted reads writes) err = (closeFlow c err).posted reads writes := by
  by_cases closed : c.flow.state = .closed
  · simp only [closeFlow, Conn.posted, closed, if_true]
  · have isOpen : (c.posted reads writes).flow.state ≠ .closed := closed
    have idle := withdrawn_idle c noRead noWrite
    unfold closeFlow
    rw [if_neg isOpen, if_neg closed, cancelAckTimer_posted, withdrawAccept_posted]
    generalize withdrawAccept (cancelAckTimer c) = c₁ at idle ⊢
    have quiet : (c₁.posted reads writes).flow = c₁.flow := rfl
    simp only [quiet, idle.1, idle.2, completeRead, completeWrite]
    have detached (c₂ : Conn) :
        closeWriteCh (detachFlow (uncountFlow (dropReceived (c₂.posted reads writes)))) =
          (closeWriteCh (detachFlow (uncountFlow (dropReceived c₂)))).posted reads writes := by
      have detach (c : Conn) :
          detachFlow (c.posted reads writes) = (detachFlow c).posted reads writes := rfl
      rw [dropReceived_posted, uncountFlow_posted, detach]
      exact closeWriteCh_posted _ reads writes
    exact detached { c₁ with flow.activeRead := none, flow.activeWrite := none }

theorem abortFlow_posted (noRead : c.flow.activeRead = none)
    (noWrite : c.flow.activeWrite = none) :
    abortFlow (c.posted reads writes) = (abortFlow c).posted reads writes := by
  by_cases closed : c.flow.state = .closed
  · simp only [abortFlow, Conn.posted, closed, if_true]
  · have isOpen : (c.posted reads writes).flow.state ≠ .closed := closed
    unfold abortFlow
    rw [if_neg isOpen, if_neg closed, sendSegment_posted]
    have read := congrArg Inbox.activeRead
      (sendSegment_inbox c c.flow.sndNxt (tcpRst ||| tcpAck) [] false)
    have write := congrArg SendView.activeWrite
      (sendSegment_send c c.flow.sndNxt (tcpRst ||| tcpAck) [] false)
    have sent : (c.posted reads writes).flow.sndNxt = c.flow.sndNxt := rfl
    rw [sent]
    generalize sendSegment c c.flow.sndNxt (tcpRst ||| tcpAck) [] false = c₁ at read write ⊢
    exact closeFlow_posted { c₁ with flow.rst := true } reads writes .connectionReset
      (read.trans noRead) (write.trans noWrite)

theorem emitFin_posted (state : TcpState) :
    emitFin (c.posted reads writes) state = (emitFin c state).posted reads writes := by
  unfold emitFin
  dsimp only
  have entered : ({ c.posted reads writes with
      flow.state := state, flow.closeStartedAt := (c.posted reads writes).eng.now } : Conn) =
      ({ c with flow.state := state, flow.closeStartedAt := c.eng.now } : Conn).posted reads writes :=
    rfl
  rw [entered, sendSegment_posted]
  rfl

theorem sendFin_posted (noRead : c.flow.activeRead = none) (noWrite : c.flow.activeWrite = none) :
    sendFin (c.posted reads writes) = (sendFin c).posted reads writes := by
  have flow : (c.posted reads writes).flow = c.flow := rfl
  by_cases done : c.flow.finSent = true ∨ c.flow.state = .closed
  · simp only [sendFin, flow, if_pos done]
  · by_cases busy : unsentWrite c.flow = true ∨ c.flow.sndUna ≠ c.flow.sndNxt
    · simp only [sendFin, flow, if_neg done, if_pos busy]
      rfl
    · have marked : ({ c.posted reads writes with flow.finSent := true } : Conn) =
          ({ c with flow.finSent := true } : Conn).posted reads writes := rfl
      simp only [flow] at marked
      simp only [sendFin, flow, if_neg done, if_neg busy, marked]
      cases state : c.flow.state with
      | established => exact emitFin_posted _ reads writes .finWait1
      | closeWait => exact emitFin_posted _ reads writes .lastAck
      | synRcvd => exact abortFlow_posted _ reads writes noRead noWrite
      | synAckSent => exact abortFlow_posted _ reads writes noRead noWrite
      | _ => rfl

end

theorem completeRead_posts (op : Option ReadOp) (ec : ErrorCode) :
    ∃ reads, ∀ c : Conn, completeRead c op ec = c.posted reads [] := by
  cases op with
  | none => exact ⟨[], fun c => by simp [completeRead, Conn.posted]⟩
  | some op =>
      exact ⟨[{ handler := op.handler, ec := ec, n := 0, data := [] }], fun c => by
        simp [completeRead, postRead, Conn.posted]⟩

theorem completeWrite_posts (op : Option WriteOp) (ec : ErrorCode) :
    ∃ writes, ∀ c : Conn, completeWrite c op ec = c.posted [] writes := by
  cases op with
  | none => exact ⟨[], fun c => by simp [completeWrite, Conn.posted]⟩
  | some op =>
      exact ⟨[{ handler := op.handler, ec := ec, n := 0 }], fun c => by
        simp [completeWrite, postWrite, Conn.posted]⟩

theorem posted_posted (c : Conn) (reads : List ReadCompletion) (writes : List WriteCompletion) :
    (c.posted reads []).posted [] writes = c.posted reads writes := by
  simp [Conn.posted]

theorem cleared_idle (c : Conn) (noRead : c.flow.activeRead = none)
    (noWrite : c.flow.activeWrite = none) :
    (dropReceived (closeWriteCh c)).flow.activeRead = none ∧
      (dropReceived (closeWriteCh c)).flow.activeWrite = none := by
  unfold dropReceived closeWriteCh
  dsimp only
  split <;> split <;> split <;> exact ⟨noRead, noWrite⟩

theorem past_completeHandshake (c : Conn) : Past (completeHandshake c).flow.state := by
  unfold completeHandshake
  dsimp only
  refine (Quiet.flushReads _).past ?_
  split
  · simp [Past]
  · unfold notifyAccept
    split <;> simp [Past]

theorem retransmitChunks_small {segMss stop fuel : Nat} {buffers : List (List UInt8)}
    {base off budget : Nat} {chunk : Nat × List UInt8}
    (member : chunk ∈ retransmitChunks segMss stop fuel buffers base off budget) :
    chunk.2.length ≤ segMss := by
  induction fuel generalizing buffers base off budget with
  | zero => simp [retransmitChunks] at member
  | succ fuel ih =>
      cases buffers with
      | nil => simp [retransmitChunks] at member
      | cons buffer rest =>
          unfold retransmitChunks at member
          dsimp only at member
          split at member
          · split at member
            · simp at member
            · rcases List.mem_cons.mp member with rfl | later
              · refine (List.length_take_le _ _).trans ?_
                omega
              · split at later <;> exact ih later
          · simp at member

theorem retransmitPlan_small {c : Conn} {op : WriteOp} {maxBytes : Nat} {chunk : Nat × List UInt8}
    (member : chunk ∈ retransmitPlan c op maxBytes) :
    chunk.2.length ≤ mss c.eng.cfg c.flow.key.family := retransmitChunks_small member

theorem sendSegment_cfg (c : Conn) (seq : UInt32) (flags : UInt8) (payload : List UInt8)
    (withMss : Bool) : (sendSegment c seq flags payload withMss).eng.cfg = c.eng.cfg := by
  unfold sendSegment
  split <;> rfl

theorem sendSegment_key (c : Conn) (seq : UInt32) (flags : UInt8) (payload : List UInt8)
    (withMss : Bool) : (sendSegment c seq flags payload withMss).flow.key = c.flow.key :=
  congrArg SendView.key (sendSegment_send c seq flags payload withMss)

theorem wakeFirst_length (loops : List WriteLoop) : (wakeFirst loops).length = loops.length := by
  induction loops with
  | nil => rfl
  | cons loop rest ih =>
      unfold wakeFirst
      split
      · rfl
      · simp [ih]

namespace Unfolds

variable {len : Nat} {scope : Scope}

theorem one {c : Conn} (effect : Effect) (permits : c.Permits effect)
    (plain : (effect.data.isEmpty && effect.within len scope) = true) :
    Unfolds len scope c (c.apply effect) := by
  obtain ⟨bare, within⟩ := Bool.and_eq_true_iff.mp plain
  refine Steps.single effect permits ⟨within, ?_⟩
  rw [List.isEmpty_iff.mp bare]
  exact Nat.zero_le _

theorem submit {c : Conn} {seq : UInt32} {flags : UInt8} {payload : List UInt8} {withMss : Bool}
    (permits : c.MaySubmit seq flags payload withMss)
    (small : payload.length ≤ mss c.eng.cfg c.flow.key.family) :
    Unfolds len scope c (sendSegment c seq flags payload withMss) :=
  Steps.single (Effect.submit seq flags payload withMss) permits (And.intro rfl small)

theorem refl (c : Conn) : Unfolds len scope c c := Steps.refl c

theorem trans {first second third : Conn} (before : Unfolds len scope first second)
    (after : Unfolds len scope second third) : Unfolds len scope first third := Steps.trans before after

theorem sendAck (c : Conn) : Unfolds len scope c (sendAck c) :=
  submit (Or.inl ⟨Or.inl rfl, rfl⟩) (Nat.zero_le _)

theorem flushPendingAck (c : Conn) : Unfolds len scope c (flushPendingAck c) := by
  unfold Tunio.flushPendingAck
  split
  · exact sendAck c
  · exact refl c

theorem announce (c : Conn) (wnd : UInt32) :
    Unfolds len scope c { c with flow.lastWndAdvertised := wnd } := one (.announce wnd) trivial rfl

theorem notifyWindowUpdated (c : Conn) : Unfolds len scope c (notifyWindowUpdated c) := by
  unfold Tunio.notifyWindowUpdated
  split
  · exact refl c
  · dsimp only
    split
    · exact (sendAck c).trans (announce _ _)
    · exact announce c _

theorem countDropped (c : Conn) (past : Past c.flow.state) : Unfolds len scope c (countDropped c) :=
  one .countDropped past rfl

/-! Delivering data. -/

theorem serveRead (c : Conn) (op : ReadOp) (active : c.flow.activeRead = some op)
    (queued : c.flow.rxBytes > 0) : Unfolds len scope c (serveRead c op) := by
  have served : Unfolds len scope c (takeQueued c op) := one (.serve op) ⟨active, queued⟩ rfl
  exact served.trans ((notifyWindowUpdated _).trans (flushPendingAck _))

theorem deliverEof (c : Conn) : Unfolds len scope c (deliverEof c) := by
  unfold Tunio.deliverEof
  split
  · rename_i op active
    split
    · rename_i finished
      exact one (.eof op) ⟨active, finished⟩ rfl
    · exact refl c
  · exact refl c

theorem flushReads (c : Conn) : Unfolds len scope c (flushReads c) := by
  have rest (c : Conn) : Unfolds len scope c (Tunio.deliverEof (compactRx c)) :=
    (one .compact trivial rfl).trans (deliverEof _)
  unfold Tunio.flushReads
  refine trans ?_ (rest _)
  split
  · rename_i op active
    split
    · rename_i queued
      exact serveRead c op active queued
    · exact refl c
  · exact refl c

theorem handleFin (c : Conn) (finSeq : UInt32) (past : Past c.flow.state) :
    Unfolds len scope c (handleFin c finSeq) := by
  unfold Tunio.handleFin
  split
  · exact (one .takeFin past rfl).trans (flushReads _)
  · split
    · exact sendAck c
    · exact refl c

theorem placeData (c : Conn) (account : BufferAccountant) (data : List UInt8)
    (past : Past c.flow.state) (fed : 0 < len) (filled : data ≠ [])
    (admitted : admitData c data.length = some account) :
    Unfolds len scope c (placeData { c with eng.account := account } data) := by
  unfold Tunio.placeData
  split
  · rename_i op empty active
    exact one (.direct op account data) ⟨past, active, empty, filled, admitted⟩
      (decide_eq_true fed)
  · exact (one (.buffer account data) ⟨past, filled, admitted⟩ (decide_eq_true fed)).trans
      (flushReads _)

theorem deliverData (c : Conn) (data : List UInt8) (past : Past c.flow.state) (fed : 0 < len) :
    Unfolds len scope c (deliverData c data) := by
  unfold Tunio.deliverData
  split
  · exact refl c
  · rename_i filled
    split
    · rename_i shut
      exact one (.skip data.length) ⟨past, shut⟩ (decide_eq_true fed)
    · split
      · exact countDropped c past
      · rename_i account admitted
        exact placeData c account data past fed (by simpa using filled) admitted

/-! The out-of-order cache. -/

theorem append (c : Conn) (seq : UInt32) (data : List UInt8) (fin : Bool)
    (past : Past c.flow.state) (early : seqGt seq c.flow.rcvNxt = true)
    (small : data.length ≤ len) : Unfolds len scope c (oooAppend c seq data fin).1 :=
  one (.append seq data fin) ⟨past, early⟩ (decide_eq_true small)

theorem finOoo (c : Conn) (key : UInt32) (seg : OooSegment) (past : Past c.flow.state) :
    Unfolds len scope c (finOoo c key seg) := by
  unfold Tunio.finOoo
  split
  · exact handleFin c _ past
  · exact refl c

theorem takeOoo (c : Conn) (key : UInt32) (seg : OooSegment)
    (present : c.flow.oooCache[key]? = some seg) (fed : 0 < len) :
    Unfolds len scope c (takeOoo c key seg) := by
  have removed : Unfolds len scope c (removeOoo c key seg) :=
    one (.remove key seg) present (decide_eq_true fed)
  exact removed.trans (notifyWindowUpdated _)

theorem deliverFresh (c : Conn) (key : UInt32) (seg : OooSegment) (past : Past c.flow.state)
    (fed : 0 < len) : Unfolds len scope c (deliverFresh c key seg) := by
  unfold Tunio.deliverFresh
  dsimp only
  split
  · exact deliverData c _ past fed
  · exact refl c

theorem pruneOoo (entries : List (UInt32 × OooSegment)) (c : Conn) (pruned : Bool)
    (past : Past c.flow.state)
    (distinct : entries.Pairwise fun first second => ¬compare first.1 second.1 = .eq)
    (present : ∀ entry ∈ entries, c.flow.oooCache[entry.1]? = some entry.2) (fed : 0 < len) :
    Unfolds len scope c (pruneOoo entries c pruned).1 := by
  induction entries generalizing c pruned with
  | nil => exact refl c
  | cons entry rest ih =>
      obtain ⟨apart, distinct⟩ := List.pairwise_cons.mp distinct
      have later := fun other member => present other (List.mem_cons_of_mem entry member)
      unfold Tunio.pruneOoo
      split
      · exact ih c pruned past distinct later
      · dsimp only
        have finished : Unfolds len scope c (Tunio.finOoo c entry.1 entry.2) := finOoo c entry.1 entry.2 past
        have cache := finOoo_oooCache c entry.1 entry.2
        have pastFin := (Quiet.finOoo c entry.1 entry.2).past past
        split
        · exact finished
        · generalize Tunio.finOoo c entry.1 entry.2 = c₁ at finished cache pastFin ⊢
          have found : c₁.flow.oooCache[entry.1]? = some entry.2 := by
            rw [cache]
            exact present entry List.mem_cons_self
          have discarded : Unfolds len scope c₁ (discardOoo c₁ entry.1 entry.2) :=
            one (.discard entry.1 entry.2) found (decide_eq_true fed)
          refine finished.trans (discarded.trans (ih _ true ?_ distinct ?_))
          · rw [discardOoo_state]
            exact pastFin
          · intro other member
            rw [discardOoo_oooCache, Std.TreeMap.getElem?_erase, if_neg (apart other member),
              cache]
            exact later other member

theorem deliverOoo (fuel : Nat) (c : Conn) (delivered : Bool) (past : Past c.flow.state)
    (fed : 0 < len) : Unfolds len scope c (deliverOoo fuel c delivered).1 := by
  induction fuel generalizing c delivered with
  | zero => exact refl c
  | succ fuel ih =>
      unfold Tunio.deliverOoo
      split
      · exact refl c
      · rename_i key seg ready
        have taken : Unfolds len scope c (Tunio.takeOoo c key seg) :=
          takeOoo c key seg (readyOoo_cached c.flow key seg ready) fed
        have pastTaken := (Quiet.takeOoo c key seg).past past
        have pastFresh := (Quiet.deliverFresh _ key seg).past pastTaken
        have round := taken.trans ((deliverFresh _ key seg pastTaken fed).trans
          (finOoo _ key seg pastFresh))
        dsimp only
        split
        · exact round
        · exact round.trans (ih _ _ ((Quiet.finOoo _ key seg).past pastFresh))

theorem announceOoo (c : Conn) (pruned delivered : Bool) :
    Unfolds len scope c (announceOoo c pruned delivered) := by
  unfold Tunio.announceOoo
  split
  · exact sendAck c
  · split
    · exact notifyWindowUpdated c
    · exact refl c

theorem flushOoo (c : Conn) (past : Past c.flow.state) (fed : 0 < len) :
    Unfolds len scope c (flushOoo c) := by
  have pruning : Unfolds len scope c (Tunio.pruneOoo c.flow.oooCache.toList c false).1 :=
    pruneOoo _ c false past Std.TreeMap.distinct_keys_toList (fun _ member =>
      Std.TreeMap.mem_toList_iff_getElem?_eq_some.mp member) fed
  have pastPruned := (Quiet.pruneOoo c.flow.oooCache.toList c false).past past
  unfold Tunio.flushOoo
  split
  · rename_i prunedEq
    rw [prunedEq] at pruning
    exact pruning
  · rename_i c₁ pruned prunedEq
    rw [prunedEq] at pruning pastPruned
    have counted : Unfolds len scope c₁ (Tunio.countCached c₁) :=
      one .countCached trivial (decide_eq_true fed)
    have delivery : Unfolds len scope (Tunio.countCached c₁)
        (Tunio.deliverOoo (c₁.flow.oooCache.size + 1) (Tunio.countCached c₁) false).1 :=
      deliverOoo _ _ false pastPruned fed
    split
    · rename_i deliveredEq
      rw [deliveredEq] at delivery
      exact pruning.trans (counted.trans delivery)
    · rename_i deliveredEq
      rw [deliveredEq] at delivery
      exact pruning.trans (counted.trans (delivery.trans (announceOoo _ _ _)))

theorem countOoo (c : Conn) (past : Past c.flow.state) : Unfolds len scope c (countOoo c) :=
  one .countOoo past rfl

theorem handleData (c : Conn) (seq : UInt32) (data : List UInt8) (flags : UInt8)
    (past : Past c.flow.state) (fed : 0 < len) (small : data.length ≤ len) :
    Unfolds len scope c (handleData c seq data flags) := by
  have flushed (data : List UInt8) : Unfolds len scope c (Tunio.flushOoo (Tunio.deliverData c data)) :=
    (deliverData c data past fed).trans
      (flushOoo _ ((Quiet.deliverData c data).past past) fed)
  unfold Tunio.handleData
  split
  · exact flushed data
  · split
    · rename_i early
      have appended : Unfolds len scope c (oooAppend c seq data (hasFlag flags tcpFin)).1 :=
        append c seq data (hasFlag flags tcpFin) past early small
      have pastAppended := (Quiet.oooAppend c seq data (hasFlag flags tcpFin)).past past
      dsimp only
      split
      · exact appended.trans (countOoo _ pastAppended)
      · exact appended.trans (sendAck _)
    · dsimp only
      split
      · exact flushed _
      · exact (countDropped c past).trans (sendAck _)

/-! A segment. -/

theorem segmentFin (c : Conn) (finSeq : UInt32) (size : Nat) (past : Past c.flow.state) :
    Unfolds len scope c (segmentFin c finSeq size) := by
  unfold Tunio.segmentFin
  split
  · rename_i bare
    have appended : Unfolds len scope c (oooAppend c finSeq [] true).1 :=
      append c finSeq [] true past bare.2 (Nat.zero_le _)
    have pastAppended := (Quiet.oooAppend c finSeq [] true).past past
    dsimp only
    split
    · exact appended.trans (countOoo _ pastAppended)
    · exact appended.trans (sendAck _)
  · exact handleFin c finSeq past

theorem signalWrite (c : Conn) : Unfolds len scope c (signalWrite c) := by
  unfold Tunio.signalWrite
  split
  · split
    · exact one (.loops _) (wakeFirst_length c.loops) rfl
    · exact refl c
  · exact refl c

theorem handlePayload (c : Conn) (th : TcpHeader) (data : List UInt8) (past : Past c.flow.state)
    (small : data.length ≤ len) : Unfolds len scope c (handlePayload c th data) := by
  have taken : Unfolds len scope c (if data.length > 0 then Tunio.handleData c th.seq data th.flags
      else c) := by
    split
    · rename_i filled
      exact handleData c th.seq data th.flags past (Nat.lt_of_lt_of_le filled small) small
    · exact refl c
  have pastTaken : Past (if data.length > 0 then Tunio.handleData c th.seq data th.flags
      else c).flow.state := by
    split
    · exact (Quiet.handleData c th.seq data th.flags).past past
    · exact past
  unfold Tunio.handlePayload
  dsimp only
  generalize (if data.length > 0 then Tunio.handleData c th.seq data th.flags else c) = c₁
    at taken pastTaken ⊢
  refine taken.trans (trans ?_ (signalWrite _))
  split
  · exact segmentFin c₁ _ _ pastTaken
  · exact refl c₁

theorem completeHandshake (c : Conn) (waiting : c.flow.state = .synAckSent) :
    Unfolds len scope c (completeHandshake c) := by
  unfold Tunio.completeHandshake
  dsimp only
  refine (one .establish waiting rfl).trans (trans ?_ (flushReads _))
  split
  · exact refl _
  · rename_i unclaimed
    exact one .notify ⟨rfl, Bool.eq_false_of_not_eq_true unclaimed⟩ rfl

theorem advanceUna (c : Conn) (ack : UInt32) : Unfolds len scope c (advanceUna c ack) := by
  unfold Tunio.advanceUna
  split
  · rename_i accepted
    rw [Bool.and_eq_true] at accepted
    exact one (.una ack) accepted rfl
  · split
    · rename_i probed
      simp only [Bool.and_eq_true, beq_iff_eq] at probed
      exact one (.probeAck ack) probed.1 rfl
    · exact refl c

theorem abortFlow (c : Conn) : Unfolds len scope c (abortFlow c) := one .abort trivial rfl

theorem closeFlow (c : Conn) (err : ErrorCode) (proper : err ≠ .eof) :
    Unfolds len scope c (closeFlow c err) :=
  one (.close err) trivial (decide_eq_true proper)

theorem sendFin (c : Conn) : Unfolds len .operation c (sendFin c) := by
  unfold Tunio.sendFin
  split
  · exact refl c
  · rename_i unfinished
    obtain ⟨unsent, isOpen⟩ := not_or.mp unfinished
    rw [Bool.not_eq_true] at unsent
    split
    · exact one (.pend true) trivial rfl
    · rename_i settled
      obtain ⟨written, acked⟩ := not_or.mp settled
      rw [Bool.not_eq_true] at written
      rw [ne_eq, not_not] at acked
      dsimp only
      split
      · rename_i state
        have finished : c.flow.state.finished = .finWait1 := by rw [state]; rfl
        rw [← finished]
        exact one .fin ⟨Or.inl state, unsent, written, acked⟩ rfl
      · rename_i state
        have finished : c.flow.state.finished = .lastAck := by rw [state]; rfl
        rw [← finished]
        exact one .fin ⟨Or.inr state, unsent, written, acked⟩ rfl
      · rename_i state
        exact one .giveUp (Or.inl state) rfl
      · rename_i state
        exact one .giveUp (Or.inr state) rfl
      · rename_i noEst noWait noRcvd noSent
        exact one .sealed ⟨⟨isOpen, noRcvd, noSent⟩, noEst, noWait, unsent⟩ rfl

theorem sendDeferredFin (c : Conn) : Unfolds len .operation c (sendDeferredFin c) := by
  unfold Tunio.sendDeferredFin
  split
  · exact (one (.pend false) trivial rfl).trans (sendFin _)
  · exact refl c

theorem confirmFin (c : Conn) (ack : UInt32) : Unfolds len scope c (confirmFin c ack).1 := by
  unfold Tunio.confirmFin
  split
  · rename_i confirmed
    have finAcked : Unfolds len scope c (c.apply .finAcked) :=
      one .finAcked ⟨confirmed.1, confirmed.2.1⟩ rfl
    unfold Conn.apply at finAcked
    split
    · rename_i received
      rw [if_pos received] at finAcked
      exact finAcked
    · rename_i received
      rw [if_neg received] at finAcked
      exact finAcked
  · split
    · exact closeFlow c _ nofun
    · exact refl c

theorem handleAck (c : Conn) (ack : UInt32) : Unfolds len .operation c (handleAck c ack).1 := by
  have cleared (c : Conn) : Unfolds len .operation c (clearProbe c) := one (.probing false) nofun rfl
  unfold Tunio.handleAck
  exact (advanceUna c ack).trans ((cleared _).trans ((sendDeferredFin _).trans (confirmFin _ ack)))

theorem handleAckField (c : Conn) (th : TcpHeader) : Unfolds len .operation c (handleAckField c th).1 := by
  unfold Tunio.handleAckField
  split
  · have acked : Unfolds len .operation c (Tunio.handleAck c th.ack).1 := handleAck c th.ack
    split
    · rename_i result
      rw [result] at acked
      exact acked
    · rename_i result
      rw [result] at acked
      exact acked.trans (one (.window _) trivial rfl)
  · exact refl c

theorem handleByState (c : Conn) (th : TcpHeader) (data : List UInt8) (small : data.length ≤ len) :
    Unfolds len scope c (handleByState c th data) := by
  unfold Tunio.handleByState
  split
  · exact refl c
  · exact refl c
  · rename_i waiting
    split
    · exact submit (Or.inr ⟨rfl, rfl, rfl, rfl, waiting⟩) (Nat.zero_le _)
    · split
      · exact refl c
      · refine (completeHandshake c waiting).trans (handlePayload _ th data ?_ small)
        exact past_completeHandshake c
  · rename_i notClosed notRcvd notSent
    exact handlePayload c th data ⟨notClosed, notRcvd, notSent⟩ small

theorem handleSegment (c : Conn) (th : TcpHeader) (data : List UInt8) (small : data.length ≤ len) :
    Unfolds len .operation c (handleSegment c th data) := by
  have acked : Unfolds len .operation c (Tunio.handleAckField c th).1 := handleAckField c th
  unfold Tunio.handleSegment
  split
  · rename_i result
    rw [result] at acked
    exact acked
  · rename_i result
    rw [result] at acked
    split
    · exact acked.trans (one .resetBy trivial rfl)
    · exact acked.trans (handleByState _ th data small)

theorem receiveSegment (c : Conn) (th : TcpHeader) (data : List UInt8)
    (small : data.length ≤ len) : Unfolds len .operation c (receiveSegment c th data) := by
  unfold Tunio.receiveSegment
  split
  · exact refl c
  · split
    · exact closeFlow c _ nofun
    · exact handleSegment c th data small

/-! The send coroutine. -/

theorem postLocate {c : Conn} {op : WriteOp} (active : c.flow.activeWrite = some op) :
    Unfolds len scope c { c with flow.activeWrite := some (normalize op) } := by
  have located : Unfolds len scope c (c.apply .locate) := one .locate trivial rfl
  simp only [Conn.apply, active, Option.map_some] at located
  exact located

theorem buildNextSegment {c : Conn} {op : WriteOp} (inFlight : UInt32)
    (isOpen : c.flow.state ≠ .closed) (active : c.flow.activeWrite = some op) :
    Unfolds len scope c (buildNextSegment c op inFlight).1 := by
  have built : Unfolds len scope c (c.apply (.next inFlight)) :=
    one (.next inFlight) ⟨isOpen, by simp [active]⟩ rfl
  simp only [Conn.apply, active] at built
  exact built

theorem sendWindowProbe {c : Conn} {op : WriteOp} (active : c.flow.activeWrite = some op) :
    Unfolds len scope c (sendWindowProbe c op) := by
  unfold Tunio.sendWindowProbe
  dsimp only
  split
  · exact postLocate active
  · refine (postLocate active).trans (trans ?_ (one (.probing true) ?_ rfl))
    · exact submit (Or.inl ⟨Or.inl rfl, rfl⟩) ((List.length_take_le 1 _).trans (mss_pos _ _))
    · intro _
      exact congrArg (fun view => view.activeWrite.isSome) (sendSegment_send _ _ _ _ _)

theorem retransmitUnacked (c : Conn) (maxBytes : Nat) :
    Unfolds len scope c (retransmitUnacked c maxBytes) := by
  have sent (op : WriteOp) (chunks : List (Nat × List UInt8)) (c : Conn)
      (small : ∀ chunk ∈ chunks, chunk.2.length ≤ mss c.eng.cfg c.flow.key.family) :
      Unfolds len scope c (chunks.foldl (fun c chunk => Tunio.sendSegment c
        (op.startSeq + UInt32.ofNat chunk.1) (tcpAck ||| tcpPsh) chunk.2 false) c) := by
    induction chunks generalizing c with
    | nil => exact refl c
    | cons chunk rest ih =>
        refine (submit (Or.inl ⟨Or.inr rfl, rfl⟩) (small chunk List.mem_cons_self)).trans
          (ih _ fun other member => ?_)
        rw [sendSegment_cfg, sendSegment_key]
        exact small other (List.mem_cons_of_mem chunk member)
  unfold Tunio.retransmitUnacked
  split
  · exact refl c
  · split
    · exact refl c
    · exact sent _ _ c fun _ member => retransmitPlan_small member

theorem exitLoop (c : Conn) : Unfolds len .coroutine c (exitLoop c) := by
  unfold Tunio.exitLoop
  split
  · rename_i op active
    exact one (.endWrite op _ 0) active rfl
  · exact refl c

theorem turn (c : Conn) (loop : WriteLoop) : Unfolds len .coroutine c (turn c loop).conn := by
  unfold Tunio.turn
  split
  · exact refl c
  · rename_i op active
    dsimp only
    split
    · exact exitLoop c
    · rename_i alive
      split
      · exact one (.endWrite op .success op.total) active rfl
      · split
        · exact refl c
        · split
          · exact refl c
          · split
            · have built : Unfolds len .coroutine c
                  (Tunio.buildNextSegment c op (c.flow.sndNxt - c.flow.sndUna)).1 :=
                buildNextSegment _ (fun closed => alive (Or.inl closed)) active
              split
              · rename_i result
                rw [result] at built
                exact built.trans (exitLoop _)
              · rename_i result
                rw [result] at built
                exact built
            · split
              · exact refl c
              · exact refl c

theorem loopHead (c : Conn) (loop : WriteLoop) : Unfolds len .coroutine c (loopHead c loop).conn := by
  have first : Unfolds len .coroutine c (Tunio.turn c loop).conn := turn c loop
  unfold Tunio.loopHead
  split
  · rename_i result
    rw [result] at first
    exact first.trans (turn _ _)
  · exact first

theorem continueLoop (next : Turn) : Unfolds len .coroutine next.conn (continueLoop next).conn := by
  cases next with
  | again c loop => exact loopHead c loop
  | suspend c loop => exact refl c
  | done c => exact refl c

theorem afterWindow (c : Conn) (loop : WriteLoop) (winner : Winner) :
    Unfolds len .coroutine c (afterWindow c loop winner).conn := by
  unfold Tunio.afterWindow
  split
  · exact refl c
  · dsimp only
    split
    · exact (abortFlow c).trans (exitLoop _)
    · split
      · rename_i gone
        exact one .fault gone rfl
      · rename_i op active
        change Unfolds len .coroutine c (if _ then _ else _)
        split
        · exact sendWindowProbe active
        · split
          · exact retransmitUnacked c _
          · exact refl c

theorem afterAck (c : Conn) (loop : WriteLoop) (winner : Winner) :
    Unfolds len .coroutine c (afterAck c loop winner).conn := by
  unfold Tunio.afterAck
  dsimp only
  split
  · split <;> exact refl c
  · split
    · split
      · exact (abortFlow c).trans (exitLoop _)
      · change Unfolds len .coroutine c (if _ then _ else _)
        split
        · exact retransmitUnacked c _
        · exact refl c
    · exact refl c

theorem afterRace (c : Conn) (loop : WriteLoop) (winner : Winner) :
    Unfolds len .coroutine c (afterRace c loop winner).conn := by
  unfold Tunio.afterRace
  split
  · exact refl c
  · exact afterWindow c loop winner
  · exact afterAck c loop winner
  · exact refl c

theorem afterDevice (c : Conn) (loop : WriteLoop) (failed : Bool) :
    Unfolds len .coroutine c (afterDevice c loop failed).conn := by
  unfold Tunio.afterDevice
  split
  · exact exitLoop c
  · split <;> exact refl c

theorem startLoop (c : Conn) : Unfolds len .coroutine c (startLoop c).conn := by
  unfold Tunio.startLoop
  split
  · exact refl c
  · rename_i op active
    have present : c.flow.activeWrite.isSome = true := by
      rw [active]
      rfl
    have begun : Unfolds len .coroutine c (c.apply .begin_) := one .begin_ present rfl
    simp only [Conn.apply, Conn.beginWrite, active, Option.map_some] at begun
    exact begun.trans (loopHead _ _)

theorem scheduled {before after : Conn} (path : Unfolds len .coroutine before after) :
    Unfolds len .scheduler before after := by
  refine path.weaken fun _ effect plain => ⟨?_, plain.2⟩
  have within := plain.1
  cases effect <;> first | exact within | rfl

theorem setLoop (index : Nat) (next : Turn) :
    Unfolds len .scheduler next.conn (setLoop index next) := by
  cases next with
  | again c loop => exact one (.loops _) List.length_set rfl
  | suspend c loop => exact one (.loops _) List.length_set rfl
  | done c => exact one (.finish index) trivial rfl

theorem spawnLoop (c : Conn) : Unfolds len .scheduler c (spawnLoop c) := by
  have started : Unfolds len .scheduler c (Tunio.startLoop c).conn := scheduled (startLoop c)
  unfold Tunio.spawnLoop
  split
  · rename_i loop result
    rw [result] at started
    exact started.trans (one (.spawn loop) trivial rfl)
  · rename_i loop result
    rw [result] at started
    exact started.trans (one (.spawn loop) trivial rfl)
  · rename_i result
    rw [result] at started
    exact started

theorem timerFires (c : Conn) (index : Nat) : Unfolds len scope c (timerFires c index) := by
  unfold Tunio.timerFires
  split
  · split
    · exact one (.loops _) List.length_set rfl
    · exact refl c
  · exact refl c

theorem resumeLoop (c : Conn) (index : Nat) : Unfolds len .scheduler c (resumeLoop c index) := by
  unfold Tunio.resumeLoop
  split
  · split
    · exact (scheduled ((afterRace c _ _).trans (continueLoop _))).trans (setLoop index _)
    · exact refl c
  · exact refl c

theorem deviceDone (c : Conn) (index : Nat) (failed : Bool) :
    Unfolds len .scheduler c (deviceDone c index failed) := by
  unfold Tunio.deviceDone
  split
  · split
    · exact (scheduled ((afterDevice c _ failed).trans (continueLoop _))).trans (setLoop index _)
    · exact refl c
  · exact refl c

/-! The operations of the application. -/

theorem acceptFlow (c : Conn) : Unfolds len scope c (acceptFlow c) := by
  by_cases waiting : c.flow.state = .synRcvd
  · exact one .accept waiting rfl
  · unfold Tunio.acceptFlow
    rw [if_pos waiting]
    exact refl c

theorem tcpFlowShutdownSend (c : Conn) : Unfolds len .operation c (tcpFlowShutdownSend c) := by
  unfold Tunio.tcpFlowShutdownSend
  split
  · exact refl c
  · exact sendFin c

theorem tcpFlowReset (c : Conn) : Unfolds len scope c (tcpFlowReset c) := by
  unfold Tunio.tcpFlowReset
  split
  · exact refl c
  · exact abortFlow c

theorem sweepFlow (c : Conn) : Unfolds len scope c (sweepFlow c) := by
  unfold Tunio.sweepFlow
  dsimp only
  split
  · exact abortFlow c
  · split
    · exact abortFlow c
    · split
      · exact closeFlow c _ nofun
      · split
        · exact closeFlow c _ nofun
        · exact refl c

theorem cancelRead (c : Conn) :
    Unfolds len scope c
      (completeRead { c with flow.activeRead := none } c.flow.activeRead .operationAborted) := by
  cases active : c.flow.activeRead with
  | none =>
      have same : ({ c with flow.activeRead := none } : Conn) = c := by rw [← active]
      rw [same]
      exact refl c
  | some op => exact one (.cancelRead op) active rfl

theorem cancelWrite (c : Conn) (closing : c.flow.appClosed = true) :
    Unfolds len scope c
      (completeWrite { c with flow.activeWrite := none } c.flow.activeWrite .operationAborted) := by
  cases active : c.flow.activeWrite with
  | none =>
      have same : ({ c with flow.activeWrite := none } : Conn) = c := by rw [← active]
      rw [same]
      exact refl c
  | some op => exact one (.cancelWrite op) ⟨active, closing⟩ rfl

theorem tcpFlowShutdownReceive (c : Conn) : Unfolds len scope c (tcpFlowShutdownReceive c) := by
  unfold Tunio.tcpFlowShutdownReceive
  split
  · exact refl c
  · rename_i isOpen
    have shut : Unfolds len scope c { c with flow.rxShutdown := true } := one .shutReceive isOpen rfl
    have cancelled := shut.trans (cancelRead { c with flow.rxShutdown := true })
    obtain ⟨reads, posts⟩ := completeRead_posts c.flow.activeRead .operationAborted
    dsimp only at cancelled ⊢
    rw [posts] at cancelled ⊢
    rw [← dropReceived_posted]
    exact cancelled.trans (one .drop isOpen rfl)

/-- The end of `tcp_flow_close`, its completions already posted. -/
theorem leave (c : Conn) (reads : List ReadCompletion) (writes : List WriteCompletion)
    (isOpen : c.flow.state ≠ .closed)
    (noRead : (dropReceived (closeWriteCh c)).flow.activeRead = none)
    (noWrite : (dropReceived (closeWriteCh c)).flow.activeWrite = none) :
    Unfolds len .operation (c.posted reads writes)
      ((if (dropReceived (closeWriteCh c)).flow.sndUna ≠ (dropReceived (closeWriteCh c)).flow.sndNxt
        then Tunio.abortFlow (dropReceived (closeWriteCh c))
        else Tunio.sendFin (dropReceived (closeWriteCh c))).posted reads writes) := by
  have shut : Unfolds len .operation (c.posted reads writes) (closeWriteCh (c.posted reads writes)) :=
    one .closeChannel trivial rfl
  have stays : (closeWriteCh (c.posted reads writes)).flow.state ≠ .closed := by
    rw [closeWriteCh_flow_state]
    exact isOpen
  have dropped : Unfolds len .operation (c.posted reads writes)
      (dropReceived (closeWriteCh (c.posted reads writes))) :=
    shut.trans (one .drop stays rfl)
  rw [closeWriteCh_posted, dropReceived_posted] at dropped
  refine dropped.trans ?_
  generalize dropReceived (closeWriteCh c) = c₁ at noRead noWrite ⊢
  split
  · rw [← abortFlow_posted c₁ reads writes noRead noWrite]
    exact abortFlow _
  · rw [← sendFin_posted c₁ reads writes noRead noWrite]
    exact sendFin _

theorem tcpFlowClose (c : Conn) : Unfolds len .operation c (tcpFlowClose c) := by
  unfold Tunio.tcpFlowClose
  split
  · exact refl c
  · rename_i isOpen
    have isOpen : c.flow.state ≠ .closed := fun closed => isOpen (Or.inl closed)
    obtain ⟨reads, readPosts⟩ := completeRead_posts c.flow.activeRead .operationAborted
    obtain ⟨writes, writePosts⟩ := completeWrite_posts c.flow.activeWrite .operationAborted
    have marked : Unfolds len .operation c { c with flow.appClosed := true } := one .appClose isOpen rfl
    have noRead := marked.trans (cancelRead { c with flow.appClosed := true })
    dsimp only at noRead ⊢
    rw [readPosts] at noRead ⊢
    have noWrite := noRead.trans (cancelWrite _ rfl)
    have write : (({ c with flow.appClosed := true, flow.activeRead := none } : Conn).posted reads
      []).flow.activeWrite = c.flow.activeWrite := rfl
    rw [write, writePosts] at noWrite
    rw [writePosts, posted_posted]
    have cancelled : Unfolds len .operation c (({ c with
        flow.appClosed := true
        flow.activeRead := none
        flow.activeWrite := none } : Conn).posted reads writes) := by
      rw [← posted_posted]
      exact noWrite
    have idle := cleared_idle ({ c with
      flow.appClosed := true
      flow.activeRead := none
      flow.activeWrite := none } : Conn) rfl rfl
    exact cancelled.trans (leave _ reads writes isOpen idle.1 idle.2)

end Unfolds

/-! One step. -/

/-- The effects with which an operation of the given handler begins. -/
def Effect.beginsRead (handler : HandlerId) : Effect → Prop
  | .startRead op => op.handler = handler
  | .refuseRead refused _ => refused = handler
  | _ => False

/-- A refused read is no end of the stream. -/
def Effect.opensRead (handler : HandlerId) : Effect → Prop
  | .startRead op => op.handler = handler
  | .refuseRead refused ec => refused = handler ∧ ec ≠ .eof
  | _ => False

theorem Effect.opensRead.begins {handler : HandlerId} {effect : Effect}
    (opens : effect.opensRead handler) : effect.beginsRead handler := by
  cases effect with
  | startRead op => exact opens
  | refuseRead refused ec => exact opens.1
  | _ => exact opens

def Effect.beginsWrite (handler : HandlerId) : Effect → Prop
  | .startWrite op => op.handler = handler
  | .refuseWrite refused _ => refused = handler
  | _ => False

/-- One of the effects of the path, and only one, begins an operation. -/
def Begins (len : Nat) (scope : Scope) (begins : Effect → Prop) (before after : Conn) : Prop :=
  ∃ middle effect, Unfolds len scope before middle ∧ middle.Permits effect ∧ begins effect ∧
    Unfolds len scope (middle.apply effect) after

theorem Begins.imp {len : Nat} {scope : Scope} {begins begins' : Effect → Prop} {before after : Conn}
    (once : Begins len scope begins before after) (weaker : ∀ effect, begins effect → begins' effect) :
    Begins len scope begins' before after := by
  obtain ⟨middle, effect, first, permits, begun, rest⟩ := once
  exact ⟨middle, effect, first, permits, weaker effect begun, rest⟩

theorem Begins.refuseRead {len : Nat} {scope : Scope} {c middle : Conn} (path : Unfolds len scope c middle)
    (handler : HandlerId) (ec : ErrorCode) (proper : ec ≠ .eof) :
    Begins len scope (Effect.opensRead handler) c (postRead middle handler ec 0 []) :=
  ⟨middle, .refuseRead handler ec, path, trivial, ⟨rfl, proper⟩, Unfolds.refl _⟩

theorem Begins.refuseWrite {len : Nat} {scope : Scope} {c middle : Conn} (path : Unfolds len scope c middle)
    (handler : HandlerId) (ec : ErrorCode) :
    Begins len scope (Effect.beginsWrite handler) c (postWrite middle handler ec 0) :=
  ⟨middle, .refuseWrite handler ec, path, trivial, rfl, Unfolds.refl _⟩

theorem acceptFlow_left (c : Conn) (isOpen : c.flow.state ≠ .closed) :
    (acceptFlow c).flow.state ≠ .closed ∧ (acceptFlow c).flow.state ≠ .synRcvd := by
  unfold acceptFlow
  split
  · rename_i left
    exact ⟨isOpen, left⟩
  · simp

theorem tcpFlowStartRead_opens {len : Nat} {scope : Scope} (c : Conn) (buffers : List Nat) (total : Nat)
    (handler : HandlerId) :
    Begins len scope (Effect.opensRead handler) c (tcpFlowStartRead c buffers total handler) := by
  have accepted : Unfolds len scope c (if c.flow.state = .synRcvd then acceptFlow c else c) := by
    split
    · exact Unfolds.acceptFlow c
    · exact Unfolds.refl c
  have left (isOpen : c.flow.state ≠ .closed) :
      (if c.flow.state = .synRcvd then acceptFlow c else c).flow.state ≠ .closed ∧
        (if c.flow.state = .synRcvd then acceptFlow c else c).flow.state ≠ .synRcvd := by
    split
    · exact acceptFlow_left c isOpen
    · rename_i other
      exact ⟨isOpen, other⟩
  unfold tcpFlowStartRead
  split
  · exact Begins.refuseRead (Unfolds.refl c) handler _ nofun
  · rename_i usable
    specialize left fun closed => usable (Or.inl closed)
    split
    · exact Begins.refuseRead (Unfolds.refl c) handler _ nofun
    · dsimp only
      generalize (if c.flow.state = .synRcvd then acceptFlow c else c) = c₁ at accepted left ⊢
      split
      · exact Begins.refuseRead accepted handler _ nofun
      · split
        · exact Begins.refuseRead accepted handler _ nofun
        · rename_i idle
          refine ⟨c₁, .startRead { buffers := buffers, total := total, handler := handler },
            accepted, ⟨left.1, left.2, by simpa using idle⟩, rfl, Unfolds.flushReads _⟩

theorem tcpFlowStartRead_begins {len : Nat} {scope : Scope} (c : Conn) (buffers : List Nat) (total : Nat)
    (handler : HandlerId) :
    Begins len scope (Effect.beginsRead handler) c (tcpFlowStartRead c buffers total handler) :=
  (tcpFlowStartRead_opens c buffers total handler).imp fun _ opens => opens.begins

theorem tcpFlowStartWrite_begins {len : Nat} (c : Conn) (buffers : List (List UInt8))
    (total : Nat) (handler : HandlerId) :
    Begins len .scheduler (Effect.beginsWrite handler) c (tcpFlowStartWrite c buffers total handler) := by
  have accepted : Unfolds len .scheduler c (if decide (c.flow.state = .synRcvd) = true then acceptFlow c
      else c) := by
    split
    · exact Unfolds.acceptFlow c
    · exact Unfolds.refl c
  have kept : (if decide (c.flow.state = .synRcvd) = true then acceptFlow c else c).flow.send.appClosed =
        c.flow.appClosed ∧
      (if decide (c.flow.state = .synRcvd) = true then acceptFlow c else c).flow.send.finSent =
        c.flow.finSent := by
    split
    · unfold acceptFlow sendSegment
      split
      · exact ⟨rfl, rfl⟩
      · split <;> exact ⟨rfl, rfl⟩
    · exact ⟨rfl, rfl⟩
  have left (isOpen : c.flow.state ≠ .closed) :
      (if decide (c.flow.state = .synRcvd) = true then acceptFlow c else c).flow.state ≠ .closed ∧
        (if decide (c.flow.state = .synRcvd) = true then acceptFlow c else c).flow.state ≠
          .synRcvd := by
    split
    · exact acceptFlow_left c isOpen
    · rename_i other
      exact ⟨isOpen, by simpa using other⟩
  unfold tcpFlowStartWrite
  split
  · exact Begins.refuseWrite (Unfolds.refl c) handler _
  · rename_i usable
    simp only [not_or, Bool.not_eq_true] at usable
    specialize left usable.1
    split
    · exact Begins.refuseWrite (Unfolds.refl c) handler _
    · dsimp only
      generalize (if decide (c.flow.state = .synRcvd) = true then acceptFlow c else c) = c₁
        at accepted kept left ⊢
      split
      · exact Begins.refuseWrite accepted handler _
      · split
        · exact Begins.refuseWrite accepted handler _
        · rename_i idle
          refine ⟨c₁, .startWrite _, accepted,
            ⟨left.1, left.2, kept.1.trans usable.2.1, kept.2.trans usable.2.2, by simpa using idle⟩, ?_,
            Unfolds.spawnLoop _⟩
          rfl

/-- The bytes that an event brings in. -/
def Event.size : Event → Nat
  | .segment _ data => data.length
  | _ => 0

def Evolves (len : Nat) (before : Conn) (after : Conn) : Event → Prop
  | .read _ handler => Begins len .operation (Effect.beginsRead handler) before after
  | .write _ handler => Begins len .scheduler (Effect.beginsWrite handler) before after
  | .elsewhere eng => after = before.apply (.elsewhere eng)
  | .resume _ => Unfolds len .scheduler before after
  | .device _ _ => Unfolds len .scheduler before after
  | _ => Unfolds len .operation before after

theorem step_evolves {len : Nat} (c : Conn) (event : Event) (small : event.size ≤ len) :
    Evolves len c (step c event) event := by
  cases event with
  | segment th data => exact Unfolds.receiveSegment c th data small
  | read buffers handler => exact tcpFlowStartRead_begins c buffers _ handler
  | write buffers handler => exact tcpFlowStartWrite_begins c buffers _ handler
  | shutdownSend => exact Unfolds.tcpFlowShutdownSend c
  | shutdownReceive => exact Unfolds.tcpFlowShutdownReceive c
  | close => exact Unfolds.tcpFlowClose c
  | reset => exact Unfolds.tcpFlowReset c
  | accept => exact Unfolds.acceptFlow c
  | reject => exact Unfolds.abortFlow c
  | handOut => exact Unfolds.one .handOut trivial rfl
  | timer index => exact Unfolds.timerFires c index
  | resume index => exact Unfolds.resumeLoop c index
  | device index failed => exact Unfolds.deviceDone c index failed
  | ackTimerExpires => exact Unfolds.one .ackTimerExpires trivial rfl
  | ackTimerRuns => exact Unfolds.one .ackTimerRuns trivial rfl
  | sweep => exact Unfolds.sweepFlow c
  | closeAll => exact Unfolds.closeFlow c _ nofun
  | elsewhere eng => rfl

theorem Effect.beginsRead.bare {handler : HandlerId} {effect : Effect}
    (begins : effect.beginsRead handler) : effect.data = [] := by
  cases effect <;> first | rfl | cases begins

theorem Effect.beginsWrite.bare {handler : HandlerId} {effect : Effect}
    (begins : effect.beginsWrite handler) : effect.data = [] := by
  cases effect <;> first | rfl | cases begins

/-- What every permitted effect that keeps to the MSS keeps, a step keeps. -/
theorem step_keeps_inMss (holds : Conn → Prop)
    (keeps : ∀ c effect, holds c → c.Permits effect →
      effect.data.length ≤ mss c.eng.cfg c.flow.key.family → holds (c.apply effect)) (c : Conn)
    (event : Event) (start : holds c) : holds (step c event) := by
  have path {scope : Scope} {before after : Conn} (unfolds : Unfolds event.size scope before after)
      (start : holds before) : holds after :=
    unfolds.invariant holds start fun c effect here permits plain =>
      keeps c effect here permits plain.2
  have begins {scope : Scope} {begin_ : Effect → Prop}
      (bare : ∀ effect, begin_ effect → effect.data = [])
      (once : Begins event.size scope begin_ c (step c event)) :
      holds (step c event) := by
    obtain ⟨middle, effect, before, permits, begun, after⟩ := once
    refine path after (keeps middle effect (path before start) permits ?_)
    rw [bare effect begun]
    exact Nat.zero_le _
  have evolves := step_evolves c event (Nat.le_refl _)
  cases event with
  | read => exact begins (fun _ => Effect.beginsRead.bare) evolves
  | write => exact begins (fun _ => Effect.beginsWrite.bare) evolves
  | elsewhere eng => exact keeps c (.elsewhere eng) start trivial (Nat.zero_le _)
  | _ => exact path evolves start

/-- What every permitted effect keeps, a step keeps. -/
theorem step_keeps (holds : Conn → Prop)
    (keeps : ∀ c effect, holds c → c.Permits effect → holds (c.apply effect)) (c : Conn)
    (event : Event) (start : holds c) : holds (step c event) :=
  step_keeps_inMss holds (fun c effect here permits _ => keeps c effect here permits) c event start

/-- What every permitted effect keeps, a run keeps. -/
theorem run_keeps (holds : Conn → Prop)
    (keeps : ∀ c effect, holds c → c.Permits effect → holds (c.apply effect)) (c : Conn)
    (events : List Event) (start : holds c) : holds (run c events) :=
  run_invariant holds (step_keeps holds keeps) c events start

end Tunio
