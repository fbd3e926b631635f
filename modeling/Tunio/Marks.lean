import Tunio.Handshake
import Tunio.Diagram

/-!
The marks of the application on a flow.  Only `shutdown(receive)` and `close` set them;
everything else leaves them, and the time at which the flow was created, as they are.
-/

namespace Tunio

structure Marks where
  appClosed : Bool
  rxShutdown : Bool
  createdAt : Int

def TcpFlow.marks (flow : TcpFlow) : Marks := {
  appClosed := flow.appClosed
  rxShutdown := flow.rxShutdown
  createdAt := flow.createdAt
}

section

variable (c : Conn)

@[simp] theorem sendSegment_marks (seq : UInt32) (flags : UInt8) (payload : List UInt8)
    (withMss : Bool) : (sendSegment c seq flags payload withMss).flow.marks = c.flow.marks := by
  unfold sendSegment
  split <;> rfl

@[simp] theorem sendAck_marks : (sendAck c).flow.marks = c.flow.marks :=
  sendSegment_marks c _ _ _ _

@[simp] theorem dropReceived_marks : (dropReceived c).flow.marks = c.flow.marks := by
  unfold dropReceived
  dsimp only
  split <;> split <;> rfl

@[simp] theorem closeWriteCh_marks : (closeWriteCh c).flow.marks = c.flow.marks := by
  unfold closeWriteCh
  split <;> rfl

@[simp] theorem closeFlow_marks (err : ErrorCode) :
    (closeFlow c err).flow.marks = c.flow.marks := by
  refine closeFlow_keeps (fun c => c.flow.marks) err ?_ ?_ ?_ closeWriteCh_marks ?_ c
  · intro c
    unfold withdrawAccept cancelAckTimer
    split <;> split <;> rfl
  · exact fun c => dropReceived_marks _
  · intro c
    unfold detachFlow uncountFlow
    split <;> rfl
  · intro c read write
    rw [completeWrite_flow, completeRead_flow]

@[simp] theorem abortFlow_marks : (abortFlow c).flow.marks = c.flow.marks := by
  unfold abortFlow
  split
  · rfl
  · exact (closeFlow_marks _ _).trans (sendSegment_marks c _ _ _ _)

@[simp] theorem acceptFlow_marks : (acceptFlow c).flow.marks = c.flow.marks := by
  unfold acceptFlow
  split
  · rfl
  · exact sendSegment_marks c _ _ _ _

@[simp] theorem emitFin_marks (state : TcpState) : (emitFin c state).flow.marks = c.flow.marks :=
  sendSegment_marks { c with flow.state := state, flow.closeStartedAt := c.eng.now } _ _ _ _

@[simp] theorem sendFin_marks : (sendFin c).flow.marks = c.flow.marks := by
  unfold sendFin
  split
  · rfl
  · split
    · rfl
    · dsimp only
      split
      · exact emitFin_marks _ _
      · exact emitFin_marks _ _
      · exact abortFlow_marks _
      · exact abortFlow_marks _
      · rfl

/-! Receiving. -/

@[simp] theorem noteDataAck_marks : (noteDataAck c).flow.marks = c.flow.marks := by
  unfold noteDataAck
  split
  · exact sendAck_marks c
  · rfl

@[simp] theorem flushPendingAck_marks : (flushPendingAck c).flow.marks = c.flow.marks := by
  unfold flushPendingAck
  split
  · exact sendAck_marks c
  · rfl

@[simp] theorem notifyWindowUpdated_marks : (notifyWindowUpdated c).flow.marks = c.flow.marks := by
  unfold notifyWindowUpdated
  split
  · rfl
  · dsimp only
    split
    · exact sendAck_marks c
    · rfl

@[simp] theorem flushReads_marks : (flushReads c).flow.marks = c.flow.marks := by
  have served (op : ReadOp) : (serveRead c op).flow.marks = c.flow.marks := by
    unfold serveRead
    exact (flushPendingAck_marks _).trans (notifyWindowUpdated_marks _)
  have compacted (c : Conn) : (compactRx c).flow.marks = c.flow.marks := by
    unfold compactRx
    split <;> rfl
  have ended (c : Conn) : (deliverEof c).flow.marks = c.flow.marks := by
    unfold deliverEof
    split
    · split <;> rfl
    · rfl
  unfold flushReads
  rw [ended, compacted]
  split
  · split
    · exact served _
    · rfl
  · rfl

@[simp] theorem handleFin_marks (finSeq : UInt32) :
    (handleFin c finSeq).flow.marks = c.flow.marks := by
  have taken : (takeFin c).flow.marks = c.flow.marks := by
    unfold takeFin
    split <;> rfl
  have drifted (c : Conn) : (finState c).flow.marks = c.flow.marks := by
    unfold finState
    split <;> rfl
  unfold handleFin
  split
  · rw [flushReads_marks, drifted, sendAck_marks, taken]
  · split
    · exact sendAck_marks c
    · rfl

@[simp] theorem deliverData_marks (data : List UInt8) :
    (deliverData c data).flow.marks = c.flow.marks := by
  have filled (c : Conn) (op : ReadOp) : (fillRead c op data).flow.marks = c.flow.marks := by
    unfold fillRead
    dsimp only
    split <;> rfl
  have direct (c : Conn) (op : ReadOp) : (deliverDirect c op data).flow.marks = c.flow.marks := by
    unfold deliverDirect
    dsimp only
    split
    · exact filled c op
    · rw [sendAck_marks]
      split
      · exact (flushReads_marks _).trans (filled c op)
      · exact filled c op
  have buffered (c : Conn) : (deliverBuffered c data).flow.marks = c.flow.marks :=
    (flushReads_marks _).trans (noteDataAck_marks _)
  unfold deliverData
  split
  · rfl
  · split
    · exact sendAck_marks _
    · split
      · rfl
      · unfold placeData
        split
        · exact direct _ _
        · exact buffered _

@[simp] theorem oooAppend_marks (seq : UInt32) (data : List UInt8) (fin : Bool) :
    (oooAppend c seq data fin).1.flow.marks = c.flow.marks := by
  unfold oooAppend appendFin appendData
  dsimp only
  repeat' split
  all_goals rfl

@[simp] theorem finOoo_marks (key : UInt32) (seg : OooSegment) :
    (finOoo c key seg).flow.marks = c.flow.marks := by
  unfold finOoo
  split
  · exact handleFin_marks c _
  · rfl

theorem pruneOoo_marks (entries : List (UInt32 × OooSegment)) (pruned : Bool) :
    (pruneOoo entries c pruned).1.flow.marks = c.flow.marks := by
  have discarded (c : Conn) (key : UInt32) (seg : OooSegment) :
      (discardOoo c key seg).flow.marks = c.flow.marks := by
    unfold discardOoo
    dsimp only
    split <;> rfl
  induction entries generalizing c pruned with
  | nil => rfl
  | cons entry rest ih =>
      unfold pruneOoo
      split
      · exact ih c pruned
      · dsimp only
        split
        · exact finOoo_marks c _ _
        · rw [ih, discarded, finOoo_marks]

theorem deliverOoo_marks (fuel : Nat) (delivered : Bool) :
    (deliverOoo fuel c delivered).1.flow.marks = c.flow.marks := by
  have taken (c : Conn) (key : UInt32) (seg : OooSegment) :
      (takeOoo c key seg).flow.marks = c.flow.marks := notifyWindowUpdated_marks _
  have fresh (c : Conn) (key : UInt32) (seg : OooSegment) :
      (deliverFresh c key seg).flow.marks = c.flow.marks := by
    unfold deliverFresh
    dsimp only
    split
    · exact deliverData_marks c _
    · rfl
  induction fuel generalizing c delivered with
  | zero => rfl
  | succ fuel ih =>
      unfold deliverOoo
      split
      · rfl
      · dsimp only
        split
        · rw [finOoo_marks, fresh, taken]
        · rw [ih, finOoo_marks, fresh, taken]

theorem flushOoo_marks : (flushOoo c).flow.marks = c.flow.marks := by
  have pruning := pruneOoo_marks c c.flow.oooCache.toList false
  unfold flushOoo
  split
  · rename_i result
    rw [result] at pruning
    exact pruning
  · rename_i c₁ _ result
    rw [result] at pruning
    have delivery := deliverOoo_marks (countCached c₁) (c₁.flow.oooCache.size + 1) false
    split
    · rename_i result
      rw [result] at delivery
      exact delivery.trans pruning
    · rename_i c₂ _ result
      rw [result] at delivery
      refine Eq.trans ?_ (delivery.trans pruning)
      unfold announceOoo
      split
      · exact sendAck_marks c₂
      · split
        · exact notifyWindowUpdated_marks c₂
        · rfl

@[simp] theorem handleData_marks (seq : UInt32) (data : List UInt8) (flags : UInt8) :
    (handleData c seq data flags).flow.marks = c.flow.marks := by
  have flushed (data : List UInt8) :
      (flushOoo (deliverData c data)).flow.marks = c.flow.marks := by
    rw [flushOoo_marks, deliverData_marks]
  unfold handleData
  split
  · exact flushed data
  · split
    · dsimp only
      split
      · exact oooAppend_marks c _ _ _
      · rw [sendAck_marks, oooAppend_marks]
    · dsimp only
      split
      · exact flushed _
      · exact sendAck_marks _

@[simp] theorem handlePayload_marks (th : TcpHeader) (data : List UInt8) :
    (handlePayload c th data).flow.marks = c.flow.marks := by
  have finned (c : Conn) (finSeq : UInt32) (len : Nat) :
      (segmentFin c finSeq len).flow.marks = c.flow.marks := by
    unfold segmentFin
    split
    · dsimp only
      split
      · exact oooAppend_marks c _ _ _
      · rw [sendAck_marks, oooAppend_marks]
    · exact handleFin_marks c _
  have signalled (c : Conn) : (signalWrite c).flow.marks = c.flow.marks := by
    unfold signalWrite
    split
    · split <;> rfl
    · rfl
  unfold handlePayload
  dsimp only
  rw [signalled]
  split <;> split <;> simp [finned]

/-! Segments. -/

@[simp] theorem notifyAccept_marks : (notifyAccept c).flow.marks = c.flow.marks := by
  unfold notifyAccept
  split <;> rfl

theorem handleAck_marks (ack : UInt32) : (handleAck c ack).1.flow.marks = c.flow.marks := by
  have advanced : (advanceUna c ack).flow.marks = c.flow.marks := by
    unfold advanceUna acceptProbe
    dsimp only
    split
    · rfl
    · split
      · split
        · split <;> rfl
        · rfl
      · rfl
  have deferred (c : Conn) : (sendDeferredFin c).flow.marks = c.flow.marks := by
    unfold sendDeferredFin
    split
    · exact sendFin_marks _
    · rfl
  have confirmed (c : Conn) : (confirmFin c ack).1.flow.marks = c.flow.marks := by
    unfold confirmFin
    split
    · split <;> rfl
    · split
      · exact closeFlow_marks c _
      · rfl
  unfold handleAck
  rw [confirmed, deferred]
  exact advanced

theorem handleByState_marks (th : TcpHeader) (data : List UInt8) :
    (handleByState c th data).flow.marks = c.flow.marks := by
  have completed : (completeHandshake c).flow.marks = c.flow.marks := by
    unfold completeHandshake
    rw [flushReads_marks]
    dsimp only
    split
    · rfl
    · exact notifyAccept_marks _
  unfold handleByState
  split
  · rfl
  · rfl
  · split
    · exact sendSegment_marks c _ _ _ _
    · split
      · rfl
      · rw [handlePayload_marks, completed]
  · exact handlePayload_marks c th data

theorem receiveSegment_marks (th : TcpHeader) (data : List UInt8) :
    (receiveSegment c th data).flow.marks = c.flow.marks := by
  have field : (handleAckField c th).1.flow.marks = c.flow.marks := by
    have acked := handleAck_marks c th.ack
    unfold handleAckField
    split
    · split
      · rename_i result
        rw [result] at acked
        exact acked
      · rename_i result
        rw [result] at acked
        exact acked
    · rfl
  unfold receiveSegment
  split
  · rfl
  · split
    · exact closeFlow_marks c _
    · unfold handleSegment
      split
      · rename_i result
        rw [result] at field
        exact field
      · rename_i result
        rw [result] at field
        split
        · exact (closeFlow_marks _ _).trans field
        · exact (handleByState_marks _ th data).trans field

/-! The send coroutine. -/

@[simp] theorem exitLoop_marks : (exitLoop c).flow.marks = c.flow.marks := by
  unfold exitLoop
  split <;> rfl

@[simp] theorem buildNextSegment_marks (op : WriteOp) (inFlight : UInt32) :
    (buildNextSegment c op inFlight).1.flow.marks = c.flow.marks := by
  unfold buildNextSegment
  dsimp only
  split
  · rfl
  · split <;> rfl

@[simp] theorem sendWindowProbe_marks (op : WriteOp) :
    (sendWindowProbe c op).flow.marks = c.flow.marks := by
  unfold sendWindowProbe
  dsimp only
  split
  · rfl
  · exact sendSegment_marks _ _ _ _ _

@[simp] theorem retransmitUnacked_marks (maxBytes : Nat) :
    (retransmitUnacked c maxBytes).flow.marks = c.flow.marks := by
  have sent (op : WriteOp) (chunks : List (Nat × List UInt8)) (c : Conn) :
      (chunks.foldl (fun c chunk => sendSegment c (op.startSeq + UInt32.ofNat chunk.1)
        (tcpAck ||| tcpPsh) chunk.2 false) c).flow.marks = c.flow.marks := by
    induction chunks generalizing c with
    | nil => rfl
    | cons chunk rest ih => exact (ih _).trans (sendSegment_marks c _ _ _ _)
  unfold retransmitUnacked
  split
  · rfl
  · split
    · rfl
    · exact sent _ _ c

theorem turn_marks (loop : WriteLoop) : (turn c loop).conn.flow.marks = c.flow.marks := by
  unfold turn
  split
  · rfl
  · rename_i op _
    dsimp only
    split
    · exact exitLoop_marks c
    · have built := buildNextSegment_marks c op (c.flow.sndNxt - c.flow.sndUna)
      split
      · rfl
      · split
        · rfl
        · split
          · rfl
          · split
            · split
              · rename_i result
                rw [result] at built
                exact (exitLoop_marks _).trans built
              · rename_i result
                rw [result] at built
                exact built
            · split <;> rfl

theorem loopHead_marks (loop : WriteLoop) : (loopHead c loop).conn.flow.marks = c.flow.marks := by
  have first := turn_marks c loop
  unfold loopHead
  split
  · rename_i result
    rw [result] at first
    exact (turn_marks _ _).trans first
  · exact first

theorem continueLoop_marks (next : Turn) :
    (continueLoop next).conn.flow.marks = next.conn.flow.marks := by
  cases next with
  | again c loop => exact loopHead_marks c loop
  | suspend c loop => rfl
  | done c => rfl

theorem afterRace_marks (loop : WriteLoop) (winner : Winner) :
    (afterRace c loop winner).conn.flow.marks = c.flow.marks := by
  have window : (afterWindow c loop winner).conn.flow.marks = c.flow.marks := by
    unfold afterWindow
    split
    · rfl
    · dsimp only
      split
      · exact (exitLoop_marks _).trans (abortFlow_marks c)
      · split
        · rfl
        · change (if _ then _ else _ : Conn).flow.marks = _
          split
          · exact sendWindowProbe_marks c _
          · split
            · exact retransmitUnacked_marks c _
            · rfl
  have ack : (afterAck c loop winner).conn.flow.marks = c.flow.marks := by
    unfold afterAck
    dsimp only
    split
    · split <;> rfl
    · split
      · split
        · exact (exitLoop_marks _).trans (abortFlow_marks c)
        · change (if _ then _ else _ : Conn).flow.marks = _
          split
          · exact retransmitUnacked_marks c _
          · rfl
      · rfl
  unfold afterRace
  split
  · rfl
  · exact window
  · exact ack
  · rfl

theorem afterDevice_marks (loop : WriteLoop) (failed : Bool) :
    (afterDevice c loop failed).conn.flow.marks = c.flow.marks := by
  unfold afterDevice
  split
  · exact exitLoop_marks c
  · split <;> rfl

theorem setLoop_marks (index : Nat) (next : Turn) :
    (setLoop index next).flow.marks = next.conn.flow.marks := by
  cases next <;> rfl

theorem spawnLoop_marks : (spawnLoop c).flow.marks = c.flow.marks := by
  have started : (startLoop c).conn.flow.marks = c.flow.marks := by
    unfold startLoop
    split
    · rfl
    · exact loopHead_marks _ _
  unfold spawnLoop
  split
  · rename_i result
    rw [result] at started
    exact started
  · rename_i result
    rw [result] at started
    exact started
  · rename_i result
    rw [result] at started
    exact started

/-! The operations of the application, the timers and the sweep. -/

theorem doReadSome_marks (buffers : List Nat) (handler : HandlerId) :
    (doReadSome c buffers handler).flow.marks = c.flow.marks := by
  have accepted : (if c.flow.state = .synRcvd then acceptFlow c else c).flow.marks =
      c.flow.marks := by
    split
    · exact acceptFlow_marks c
    · rfl
  unfold doReadSome tcpFlowStartRead
  split
  · rfl
  · split
    · rfl
    · dsimp only
      generalize (if c.flow.state = .synRcvd then acceptFlow c else c) = c₁ at accepted ⊢
      split
      · exact accepted
      · split
        · exact accepted
        · exact (flushReads_marks _).trans accepted

theorem doWriteSome_marks (buffers : List (List UInt8)) (handler : HandlerId) :
    (doWriteSome c buffers handler).flow.marks = c.flow.marks := by
  have accepted : (if decide (c.flow.state = .synRcvd) = true then acceptFlow c else c).flow.marks =
      c.flow.marks := by
    split
    · exact acceptFlow_marks c
    · rfl
  unfold doWriteSome tcpFlowStartWrite
  split
  · rfl
  · split
    · rfl
    · dsimp only
      generalize (if decide (c.flow.state = .synRcvd) = true then acceptFlow c else c) = c₁
        at accepted ⊢
      split
      · exact accepted
      · split
        · exact accepted
        · exact (spawnLoop_marks _).trans accepted

end

/-- The events with which the application ends a direction. -/
def Event.marks : Event → Bool
  | .shutdownReceive | .close => true
  | _ => false

theorem openFlow_marks (eng : TcpEngine) (id : FlowId) (key : FiveTuple) (th : TcpHeader)
    (payload data : List UInt8) (iss : UInt32) :
    (openFlow eng id key th payload data iss).flow.marks =
      (synFlow eng id key th payload iss).marks := by
  have taken (c : Conn) : (takeSynData c th data).flow.marks = c.flow.marks := by
    unfold takeSynData
    split
    · split <;> rfl
    · rfl
  exact (notifyAccept_marks _).trans (taken _)

theorem tcpFlowShutdownReceive_marks (c : Conn) (isOpen : c.flow.state ≠ .closed) :
    (tcpFlowShutdownReceive c).flow.marks = { c.flow.marks with rxShutdown := true } := by
  unfold tcpFlowShutdownReceive
  rw [if_neg isOpen]
  dsimp only
  rw [completeRead_flow, dropReceived_marks]
  rfl

theorem step_marks (c : Conn) (event : Event) (other : event.marks = false) :
    (step c event).flow.marks = c.flow.marks := by
  cases event with
  | shutdownReceive | close => cases other
  | segment th data => exact receiveSegment_marks c th data
  | read buffers handler => exact doReadSome_marks c buffers handler
  | write buffers handler => exact doWriteSome_marks c buffers handler
  | shutdownSend =>
      change (tcpFlowShutdownSend c).flow.marks = _
      unfold tcpFlowShutdownSend
      split
      · rfl
      · exact sendFin_marks c
  | reset =>
      change (tcpFlowReset c).flow.marks = _
      unfold tcpFlowReset
      split
      · rfl
      · exact abortFlow_marks c
  | accept => exact acceptFlow_marks c
  | reject => exact abortFlow_marks c
  | handOut =>
      change (handOut c).flow.marks = _
      unfold handOut
      dsimp only
      split
      · split <;> rfl
      · rfl
  | timer index =>
      change (timerFires c index).flow.marks = _
      unfold timerFires
      split
      · split <;> rfl
      · rfl
  | resume index =>
      change (resumeLoop c index).flow.marks = _
      unfold resumeLoop
      split
      · split
        · rw [setLoop_marks, continueLoop_marks, afterRace_marks]
        · rfl
      · rfl
  | device index failed =>
      change (deviceDone c index failed).flow.marks = _
      unfold deviceDone
      split
      · split
        · rw [setLoop_marks, continueLoop_marks, afterDevice_marks]
        · rfl
      · rfl
  | ackTimerExpires =>
      change (ackTimerExpires c).flow.marks = _
      unfold ackTimerExpires
      split
      · split <;> rfl
      · rfl
  | ackTimerRuns =>
      change (ackTimerRuns c).flow.marks = _
      unfold ackTimerRuns
      split
      · split
        · dsimp only
          split
          · rfl
          · exact sendAck_marks _
        · rfl
      · rfl
  | sweep =>
      change (sweepFlow c).flow.marks = _
      unfold sweepFlow
      dsimp only
      split
      · exact abortFlow_marks c
      · split
        · exact abortFlow_marks c
        · split
          · exact closeFlow_marks c _
          · split
            · exact closeFlow_marks c _
            · rfl
  | closeAll => exact closeFlow_marks c _
  | elsewhere eng => rfl

end Tunio
