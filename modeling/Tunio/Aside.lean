import Tunio.Inbox

/-!
Sending leaves the receive side alone.  An operation of the sending half, a timer or
the rest of the engine either closes the flow or keeps the inbox as it is.
-/

namespace Tunio

structure Aside (before after : Conn) : Prop where
  stays : before.flow.state = .closed → after.flow.state = .closed
  inbox : after.flow.state = .closed ∨ after.inbox = before.inbox

def Turn.conn : Turn → Conn
  | .again c _ => c
  | .suspend c _ => c
  | .done c => c

namespace Aside

theorem of_eq {before after : Conn} (state : after.flow.state = before.flow.state)
    (inbox : after.inbox = before.inbox) : Aside before after :=
  ⟨fun closed => state.trans closed, Or.inr inbox⟩

theorem of_closed {before after : Conn} (closed : after.flow.state = .closed) :
    Aside before after := ⟨fun _ => closed, Or.inl closed⟩

theorem of_open {before after : Conn} (isOpen : before.flow.state ≠ .closed)
    (inbox : after.inbox = before.inbox) : Aside before after :=
  ⟨fun closed => absurd closed isOpen, Or.inr inbox⟩

theorem refl (c : Conn) : Aside c c := of_eq rfl rfl

theorem trans {first second third : Conn} (one : Aside first second) (two : Aside second third) :
    Aside first third := by
  refine ⟨fun closed => two.stays (one.stays closed), ?_⟩
  rcases two.inbox with closed | same
  · exact Or.inl closed
  · rcases one.inbox with closed | earlier
    · exact Or.inl (two.stays closed)
    · exact Or.inr (same.trans earlier)

theorem sendSegment (c : Conn) (seq : UInt32) (flags : UInt8) (payload : List UInt8)
    (withMss : Bool) : Aside c (sendSegment c seq flags payload withMss) :=
  of_eq (sendSegment_state c seq flags payload withMss)
    (sendSegment_inbox c seq flags payload withMss)

theorem sendAck (c : Conn) : Aside c (sendAck c) := sendSegment c _ _ _ _

theorem closeFlow (c : Conn) (err : ErrorCode) : Aside c (closeFlow c err) :=
  of_closed (closeFlow_state c err)

theorem abortFlow (c : Conn) : Aside c (abortFlow c) := of_closed (abortFlow_state c)

theorem acceptFlow (c : Conn) : Aside c (acceptFlow c) := by
  unfold Tunio.acceptFlow
  split
  · exact refl c
  · rename_i waiting
    rw [ne_eq, not_not] at waiting
    refine of_open (by simp [waiting]) ?_
    exact sendSegment_inbox c _ _ _ _

theorem notifyAccept (c : Conn) : Aside c (notifyAccept c) := by
  unfold Tunio.notifyAccept
  split <;> exact of_eq rfl rfl

theorem emitFin (c : Conn) (state : TcpState) (isOpen : c.flow.state ≠ .closed) :
    Aside c (emitFin c state) := by
  refine of_open isOpen ?_
  unfold Tunio.emitFin
  exact sendSegment_inbox { c with flow.state := state, flow.closeStartedAt := c.eng.now } _ _ _ _

theorem sendFin (c : Conn) : Aside c (sendFin c) := by
  unfold Tunio.sendFin
  split
  · exact refl c
  · rename_i neither
    have isOpen : c.flow.state ≠ .closed := fun closed => neither (Or.inr closed)
    split
    · exact of_eq rfl rfl
    · have marked : Aside c { c with flow.finSent := true } := of_eq rfl rfl
      refine marked.trans ?_
      dsimp only
      split
      · exact emitFin _ _ isOpen
      · exact emitFin _ _ isOpen
      · exact abortFlow _
      · exact abortFlow _
      · exact refl _

theorem advanceUna (c : Conn) (ack : UInt32) : Aside c (advanceUna c ack) := by
  unfold Tunio.advanceUna acceptProbe
  dsimp only
  split
  · exact of_eq rfl rfl
  · split
    · split
      · split <;> exact of_eq rfl rfl
      · exact of_eq rfl rfl
    · exact refl c

theorem sendDeferredFin (c : Conn) : Aside c (sendDeferredFin c) := by
  unfold Tunio.sendDeferredFin
  split
  · have cleared : Aside c { c with flow.finPending := false } := of_eq rfl rfl
    exact cleared.trans (sendFin _)
  · exact refl c

theorem confirmFin (c : Conn) (ack : UInt32) : Aside c (confirmFin c ack).1 := by
  unfold Tunio.confirmFin
  split
  · rename_i confirmed
    have isOpen : c.flow.state ≠ .closed := by simp [confirmed.1]
    split
    · exact of_open isOpen rfl
    · exact of_open isOpen rfl
  · split
    · exact closeFlow c _
    · exact refl c

theorem handleAck (c : Conn) (ack : UInt32) : Aside c (handleAck c ack).1 := by
  unfold Tunio.handleAck
  refine trans (advanceUna c ack) (trans ?_ ((sendDeferredFin _).trans (confirmFin _ ack)))
  exact of_eq rfl rfl

theorem handleAckField (c : Conn) (th : TcpHeader) : Aside c (handleAckField c th).1 := by
  unfold Tunio.handleAckField
  split
  · have acked := handleAck c th.ack
    split
    · rename_i result
      rw [result] at acked
      exact acked
    · rename_i result
      rw [result] at acked
      refine acked.trans ?_
      exact of_eq rfl rfl
  · exact refl c

/-! The send coroutine. -/

theorem postWrite (c : Conn) (handler : HandlerId) (ec : ErrorCode) (n : Nat) :
    Aside c (postWrite c handler ec n) := of_eq rfl rfl

theorem buildNextSegment (c : Conn) (op : WriteOp) (inFlight : UInt32) :
    Aside c (buildNextSegment c op inFlight).1 := by
  unfold Tunio.buildNextSegment
  dsimp only
  split
  · exact of_eq rfl rfl
  · split
    · exact of_eq rfl rfl
    · exact of_eq rfl rfl

theorem sendWindowProbe (c : Conn) (op : WriteOp) : Aside c (sendWindowProbe c op) := by
  unfold Tunio.sendWindowProbe
  dsimp only
  split
  · exact of_eq rfl rfl
  · refine trans (trans ?_ (sendSegment _ _ _ _ _)) (of_eq rfl rfl)
    exact of_eq rfl rfl

theorem retransmitUnacked (c : Conn) (maxBytes : Nat) : Aside c (retransmitUnacked c maxBytes) := by
  have sent (op : WriteOp) (chunks : List (Nat × List UInt8)) (c : Conn) :
      Aside c (chunks.foldl (fun c chunk => Tunio.sendSegment c
        (op.startSeq + UInt32.ofNat chunk.1) (tcpAck ||| tcpPsh) chunk.2 false) c) := by
    induction chunks generalizing c with
    | nil => exact refl c
    | cons chunk rest ih => exact (sendSegment c _ _ _ _).trans (ih _)
  unfold Tunio.retransmitUnacked
  split
  · exact refl c
  · split
    · exact refl c
    · exact sent _ _ c

theorem exitLoop (c : Conn) : Aside c (exitLoop c) := by
  unfold Tunio.exitLoop
  split
  · exact of_eq rfl rfl
  · exact refl c

theorem turn (c : Conn) (loop : WriteLoop) : Aside c (turn c loop).conn := by
  unfold Tunio.turn
  split
  · exact refl c
  · rename_i op _
    dsimp only
    split
    · exact exitLoop c
    · split
      · exact of_eq rfl rfl
      · split
        · exact refl c
        · split
          · exact refl c
          · split
            · have built := buildNextSegment c op (c.flow.sndNxt - c.flow.sndUna)
              split
              · rename_i result
                rw [result] at built
                exact built.trans (exitLoop _)
              · rename_i result
                rw [result] at built
                exact built
            · split
              · exact refl c
              · exact refl c

theorem loopHead (c : Conn) (loop : WriteLoop) : Aside c (loopHead c loop).conn := by
  have first := turn c loop
  unfold Tunio.loopHead
  split
  · rename_i result
    rw [result] at first
    exact first.trans (turn _ _)
  · exact first

theorem continueLoop (next : Turn) : Aside next.conn (continueLoop next).conn := by
  cases next with
  | again c loop => exact loopHead c loop
  | suspend c loop => exact refl c
  | done c => exact refl c

theorem afterWindow (c : Conn) (loop : WriteLoop) (winner : Winner) :
    Aside c (afterWindow c loop winner).conn := by
  unfold Tunio.afterWindow
  split
  · exact refl c
  · dsimp only
    split
    · exact (abortFlow c).trans (exitLoop _)
    · split
      · exact of_eq rfl rfl
      · change Aside c (if _ then _ else _)
        split
        · exact sendWindowProbe c _
        · split
          · exact retransmitUnacked c _
          · exact refl c

theorem afterAck (c : Conn) (loop : WriteLoop) (winner : Winner) :
    Aside c (afterAck c loop winner).conn := by
  unfold Tunio.afterAck
  dsimp only
  split
  · split <;> exact refl c
  · split
    · split
      · exact (abortFlow c).trans (exitLoop _)
      · change Aside c (if _ then _ else _)
        split
        · exact retransmitUnacked c _
        · exact refl c
    · exact refl c

theorem afterRace (c : Conn) (loop : WriteLoop) (winner : Winner) :
    Aside c (afterRace c loop winner).conn := by
  unfold Tunio.afterRace
  split
  · exact refl c
  · exact afterWindow c loop winner
  · exact afterAck c loop winner
  · exact refl c

theorem afterDevice (c : Conn) (loop : WriteLoop) (failed : Bool) :
    Aside c (afterDevice c loop failed).conn := by
  unfold Tunio.afterDevice
  split
  · exact exitLoop c
  · split <;> exact refl c

theorem startLoop (c : Conn) : Aside c (startLoop c).conn := by
  unfold Tunio.startLoop
  split
  · exact refl c
  · refine trans ?_ (loopHead _ _)
    exact of_eq rfl rfl

/-! The operations of the application and the timers. -/

theorem setLoop (index : Nat) (next : Turn) : Aside next.conn (setLoop index next) := by
  cases next <;> exact of_eq rfl rfl

theorem spawnLoop (c : Conn) : Aside c (spawnLoop c) := by
  have started := startLoop c
  unfold Tunio.spawnLoop
  split
  · rename_i result
    rw [result] at started
    exact started.trans (of_eq rfl rfl)
  · rename_i result
    rw [result] at started
    exact started.trans (of_eq rfl rfl)
  · rename_i result
    rw [result] at started
    exact started

theorem tcpFlowStartWrite (c : Conn) (buffers : List (List UInt8)) (total : Nat)
    (handler : HandlerId) : Aside c (tcpFlowStartWrite c buffers total handler) := by
  have accepted : Aside c (if decide (c.flow.state = .synRcvd) = true then
      Tunio.acceptFlow c else c) := by
    split
    · exact acceptFlow c
    · exact refl c
  unfold Tunio.tcpFlowStartWrite
  split
  · exact postWrite c _ _ _
  · split
    · exact postWrite c _ _ _
    · dsimp only
      generalize (if decide (c.flow.state = .synRcvd) = true then
        Tunio.acceptFlow c else c) = c₁ at accepted ⊢
      split
      · exact accepted.trans (postWrite _ _ _ _)
      · split
        · exact accepted.trans (postWrite _ _ _ _)
        · refine accepted.trans (trans ?_ (spawnLoop _))
          exact of_eq rfl rfl

theorem tcpFlowShutdownSend (c : Conn) : Aside c (tcpFlowShutdownSend c) := by
  unfold Tunio.tcpFlowShutdownSend
  split
  · exact refl c
  · exact sendFin c

theorem tcpFlowReset (c : Conn) : Aside c (tcpFlowReset c) := by
  unfold Tunio.tcpFlowReset
  split
  · exact refl c
  · exact abortFlow c

theorem timerFires (c : Conn) (index : Nat) : Aside c (timerFires c index) := by
  unfold Tunio.timerFires
  split
  · split
    · exact of_eq rfl rfl
    · exact refl c
  · exact refl c

theorem resumeLoop (c : Conn) (index : Nat) : Aside c (resumeLoop c index) := by
  unfold Tunio.resumeLoop
  split
  · split
    · exact (afterRace c _ _).trans ((continueLoop _).trans (setLoop index _))
    · exact refl c
  · exact refl c

theorem deviceDone (c : Conn) (index : Nat) (failed : Bool) :
    Aside c (deviceDone c index failed) := by
  unfold Tunio.deviceDone
  split
  · split
    · exact (afterDevice c _ failed).trans ((continueLoop _).trans (setLoop index _))
    · exact refl c
  · exact refl c

theorem ackTimerExpires (c : Conn) : Aside c (ackTimerExpires c) := by
  unfold Tunio.ackTimerExpires
  split
  · split
    · exact of_eq rfl rfl
    · exact refl c
  · exact refl c

theorem ackTimerRuns (c : Conn) : Aside c (ackTimerRuns c) := by
  unfold Tunio.ackTimerRuns
  split
  · split
    · dsimp only
      split
      · exact of_eq rfl rfl
      · refine trans ?_ (sendAck _)
        exact of_eq rfl rfl
    · exact refl c
  · exact refl c

theorem sweepFlow (c : Conn) : Aside c (sweepFlow c) := by
  unfold Tunio.sweepFlow
  dsimp only
  split
  · exact abortFlow c
  · split
    · exact abortFlow c
    · split
      · exact closeFlow c _
      · split
        · exact closeFlow c _
        · exact refl c

theorem handOut (c : Conn) : Aside c (handOut c) := by
  unfold Tunio.handOut
  dsimp only
  split
  · split <;> exact of_eq rfl rfl
  · exact refl c

end Aside

/-- The events that touch the receive side of a flow that stays open. -/
def Event.receives : Event → Bool
  | .segment _ _ => true
  | .read _ _ => true
  | .shutdownReceive => true
  | .close => true
  | _ => false

theorem step_aside (c : Conn) (event : Event) (other : event.receives = false) :
    Aside c (step c event) := by
  cases event with
  | segment => simp [Event.receives] at other
  | read => simp [Event.receives] at other
  | shutdownReceive => simp [Event.receives] at other
  | close => simp [Event.receives] at other
  | write buffers handler => exact Aside.tcpFlowStartWrite c _ _ _
  | shutdownSend => exact Aside.tcpFlowShutdownSend c
  | reset => exact Aside.tcpFlowReset c
  | accept => exact Aside.acceptFlow c
  | reject => exact Aside.abortFlow c
  | handOut => exact Aside.handOut c
  | timer index => exact Aside.timerFires c index
  | resume index => exact Aside.resumeLoop c index
  | device index failed => exact Aside.deviceDone c index failed
  | ackTimerExpires => exact Aside.ackTimerExpires c
  | ackTimerRuns => exact Aside.ackTimerRuns c
  | sweep => exact Aside.sweepFlow c
  | closeAll => exact Aside.closeFlow c _
  | elsewhere eng => exact Aside.of_eq rfl rfl

end Tunio
