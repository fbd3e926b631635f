import Tunio.Closing

/-!
Writes after `shutdown(send)`.  A FIN that cannot go out yet is deferred, and until it goes
out nothing but a write in progress keeps new data away.
-/

namespace Tunio

open Machines

/-- The application has ended the sending half: its FIN is sent, or deferred. -/
def Shut (flow : TcpFlow) : Prop :=
  flow.state = .closed ∨ flow.finSent = true ∨ flow.finPending = true

/-- The gap in front of a deferred FIN: no write is in progress. -/
structure Gap (flow : TcpFlow) : Prop where
  isOpen : flow.state ≠ .closed
  usable : flow.appClosed = false
  alive : flow.rst = false
  pending : flow.finPending = true
  unsent : flow.finSent = false
  idle : flow.activeWrite = none

/-- The write is answered with an error, and nothing else happens. -/
def Declined (c : Conn) (buffers : List (List UInt8)) (handler : HandlerId) : Prop :=
  ∃ ec, ec ≠ .success ∧ step c (.write buffers handler) = postWrite c handler ec 0

/-! The FIN stays sent or deferred. -/

/-- What accepting a handshake leaves alone. -/
structure Answers (before after : Conn) : Prop where
  finSent : after.flow.finSent = before.flow.finSent
  finPending : after.flow.finPending = before.flow.finPending
  rst : after.flow.rst = before.flow.rst
  activeWrite : after.flow.activeWrite = before.flow.activeWrite
  loops : after.loops = before.loops

theorem acceptFlow_keeps (c : Conn) : Answers c (acceptFlow c) := by
  unfold acceptFlow sendSegment
  split
  · exact ⟨rfl, rfl, rfl, rfl, rfl⟩
  · split <;> exact ⟨rfl, rfl, rfl, rfl, rfl⟩

theorem Shut.of_send {before after : TcpFlow} (shut : Shut before)
    (closed : before.state = .closed → after.state = .closed)
    (sent : before.finSent = true → after.finSent = true)
    (pending : after.finPending = before.finPending) : Shut after := by
  rcases shut with here | here | here
  · exact Or.inl (closed here)
  · exact Or.inr (Or.inl (sent here))
  · exact Or.inr (Or.inr (pending.trans here))

theorem sendFin_shut (c : Conn) : Shut (sendFin c).flow := by
  rcases sendFin_cases c with
    ⟨done, same⟩ | ⟨_, _, ⟨_, same⟩ | ⟨_, ⟨_, same⟩ | ⟨_, same⟩ | ⟨_, same⟩⟩⟩
  · rw [same]
    exact done.elim (fun sent => Or.inr (Or.inl sent)) Or.inl
  · rw [same]
    exact Or.inr (Or.inr rfl)
  · rw [same]
    exact Or.inr (Or.inl (congrArg SendView.finSent (emitFin_view _ _)))
  · rw [same]
    exact Or.inl (abortFlow_state _)
  · rw [same]
    exact Or.inr (Or.inl rfl)

theorem sendDeferredFin_shut {c : Conn} (shut : Shut c.flow) : Shut (sendDeferredFin c).flow := by
  unfold sendDeferredFin
  split
  · exact sendFin_shut _
  · exact shut

/-- Everything but the deferral itself leaves it alone. -/
theorem Shut.apply {c : Conn} (shut : Shut c.flow) (effect : Effect) (permits : c.Permits effect)
    (other : ∀ pending, effect ≠ .pend pending) : Shut (c.apply effect).flow := by
  have closed : c.flow.state = .closed → (c.apply effect).flow.state = .closed :=
    fun closed => apply_closed permits closed
  cases sends : effect.sends with
  | false =>
      have send := apply_send c effect sends
      have finSent : (c.apply effect).flow.finSent = c.flow.finSent :=
        congrArg SendView.finSent send
      exact shut.of_send closed (fun sent => finSent.trans sent) (congrArg SendView.finPending send)
  | true =>
      cases effect with
      | pend pending => exact absurd rfl (other pending)
      | next inFlight =>
          have kept : (c.apply (.next inFlight)).flow.finSent = c.flow.finSent ∧
              (c.apply (.next inFlight)).flow.finPending = c.flow.finPending := by
            unfold Conn.apply
            dsimp only
            split
            · unfold buildNextSegment
              dsimp only
              split
              · exact ⟨rfl, rfl⟩
              · split <;> exact ⟨rfl, rfl⟩
            · exact ⟨rfl, rfl⟩
          exact shut.of_send closed (fun sent => kept.1.trans sent) kept.2
      | accept =>
          have answers := acceptFlow_keeps c
          exact shut.of_send closed (fun sent => answers.finSent.trans sent) answers.finPending
      | fin => exact Or.inr (Or.inl (congrArg SendView.finSent (emitFin_view _ _)))
      | sealed => exact Or.inr (Or.inl rfl)
      | giveUp => exact Or.inl (abortFlow_state _)
      | abort => exact Or.inl (abortFlow_state _)
      | resetBy => exact Or.inl (closeFlow_state _ _)
      | close err => exact Or.inl (closeFlow_state _ _)
      | probeAck ack =>
          have kept : (acceptProbe c ack).flow.finSent = c.flow.finSent ∧
              (acceptProbe c ack).flow.finPending = c.flow.finPending := by
            unfold acceptProbe
            dsimp only
            split
            · split <;> exact ⟨rfl, rfl⟩
            · exact ⟨rfl, rfl⟩
          exact shut.of_send closed (fun sent => kept.1.trans sent) kept.2
      | una | probing | window | startWrite | endWrite | cancelWrite | locate | appClose | begin_ =>
          exact shut.of_send closed id rfl
      | _ => cases sends

/-- Outside the operations of the engine no FIN is deferred. -/
theorem Unfolds.shut {len : Nat} {scope : Scope} {before after : Conn}
    (path : Unfolds len scope before after) (code : scope ≠ .operation) (shut : Shut before.flow) :
    Shut after.flow := by
  refine path.invariant (fun c => Shut c.flow) shut fun c effect shut permits ⟨plain, _⟩ => ?_
  refine shut.apply effect permits fun pending same => ?_
  subst same
  exact code (of_decide_eq_true plain)

theorem handleAck_shut {c : Conn} (ack : UInt32) (shut : Shut c.flow) :
    Shut (handleAck c ack).1.flow := by
  have advanced : Unfolds 0 .coroutine c (advanceUna c ack) := Unfolds.advanceUna c ack
  have cleared : Shut (clearProbe (advanceUna c ack)).flow := advanced.shut (by decide) shut
  have confirmed : Unfolds 0 .coroutine (sendDeferredFin (clearProbe (advanceUna c ack)))
      (handleAck c ack).1 := Unfolds.confirmFin _ ack
  exact confirmed.shut (by decide) (sendDeferredFin_shut cleared)

theorem handleAckField_shut {c : Conn} (th : TcpHeader) (shut : Shut c.flow) :
    Shut (handleAckField c th).1.flow := by
  have acked := handleAck_shut th.ack shut
  unfold handleAckField
  split
  · split
    · rename_i result
      rw [result] at acked
      exact acked
    · rename_i result
      rw [result] at acked
      exact acked
  · exact shut

theorem receiveSegment_shut {c : Conn} (th : TcpHeader) (data : List UInt8) (shut : Shut c.flow) :
    Shut (receiveSegment c th data).flow := by
  have acked := handleAckField_shut th shut
  unfold receiveSegment handleSegment
  split
  · exact shut
  · split
    · exact Or.inl (closeFlow_state _ _)
    · split
      · rename_i result
        rw [result] at acked
        exact acked
      · rename_i result
        rw [result] at acked
        split
        · exact Or.inl (closeFlow_state _ _)
        · have rest : Unfolds data.length .coroutine (handleAckField c th).1
              (handleByState (handleAckField c th).1 th data) :=
            Unfolds.handleByState _ th data (Nat.le_refl _)
          rw [result] at rest
          exact rest.shut (by decide) acked

theorem tcpFlowClose_shut {c : Conn} (shut : Shut c.flow) : Shut (tcpFlowClose c).flow := by
  by_cases usable : c.flow.state = .closed ∨ c.flow.appClosed = true
  · have same : tcpFlowClose c = c := if_pos usable
    rwa [same]
  · rw [tcpFlowClose_eq c usable, completeWrite_flow, completeRead_flow]
    split
    · exact Or.inl (abortFlow_state _)
    · exact sendFin_shut _

theorem Begins.shut {len : Nat} {scope : Scope} {begins : Effect → Prop} {before after : Conn}
    (once : Begins len scope begins before after) (code : scope ≠ .operation)
    (begun : ∀ effect, begins effect → ∀ pending, effect ≠ .pend pending) (shut : Shut before.flow) :
    Shut after.flow := by
  obtain ⟨middle, effect, first, permits, here, rest⟩ := once
  exact rest.shut code ((first.shut code shut).apply effect permits (begun effect here))

theorem step_shut (c : Conn) (event : Event) (shut : Shut c.flow) : Shut (step c event).flow := by
  have path {scope : Scope} {after : Conn} (unfolds : Unfolds 0 scope c after)
      (code : scope ≠ .operation) : Shut after.flow := unfolds.shut code shut
  have code : Scope.coroutine ≠ .operation := by decide
  cases event with
  | segment th data => exact receiveSegment_shut th data shut
  | read buffers handler =>
      have begins : Begins 0 .coroutine (Effect.beginsRead handler) c (doReadSome c buffers handler) :=
        tcpFlowStartRead_begins c buffers _ handler
      refine begins.shut code (fun effect begun pending same => ?_) shut
      rw [same] at begun
      exact begun
  | write buffers handler =>
      have begins : Begins 0 .scheduler (Effect.beginsWrite handler) c (doWriteSome c buffers handler) :=
        tcpFlowStartWrite_begins c buffers _ handler
      refine begins.shut (by decide) (fun effect begun pending same => ?_) shut
      rw [same] at begun
      exact begun
  | shutdownSend =>
      show Shut (tcpFlowShutdownSend c).flow
      unfold tcpFlowShutdownSend
      split
      · exact shut
      · exact sendFin_shut c
  | shutdownReceive => exact path (Unfolds.tcpFlowShutdownReceive c) code
  | close => exact tcpFlowClose_shut shut
  | reset => exact path (Unfolds.tcpFlowReset c) code
  | accept => exact path (Unfolds.acceptFlow c) code
  | reject => exact Or.inl (abortFlow_state c)
  | handOut => exact path (Unfolds.one .handOut trivial rfl) code
  | timer index => exact path (Unfolds.timerFires c index) code
  | resume index => exact path (Unfolds.resumeLoop c index) (by decide)
  | device index failed => exact path (Unfolds.deviceDone c index failed) (by decide)
  | ackTimerExpires => exact path (Unfolds.one .ackTimerExpires trivial rfl) code
  | ackTimerRuns => exact path (Unfolds.one .ackTimerRuns trivial rfl) code
  | sweep => exact path (Unfolds.sweepFlow c) code
  | closeAll => exact Or.inl (closeFlow_state c _)
  | elsewhere eng => exact shut

theorem run_shut (c : Conn) (events : List Event) (shut : Shut c.flow) : Shut (run c events).flow :=
  run_invariant (fun c => Shut c.flow) step_shut c events shut

theorem shutdownSend_shut (c : Conn) (isOpen : c.flow.state ≠ .closed)
    (usable : c.flow.appClosed = false) : Shut (step c .shutdownSend).flow := by
  show Shut (tcpFlowShutdownSend c).flow
  unfold tcpFlowShutdownSend
  rw [if_neg (by simp [isOpen, usable])]
  exact sendFin_shut c

/-! A write that meets the gap. -/

/-- A write with at least one byte at its start. -/
structure WriteOp.Fresh (op : WriteOp) : Prop where
  total : op.total = (op.buffers.map List.length).sum
  filled : op.total ≠ 0
  offset : op.offset = 0
  bufIndex : op.bufIndex = 0
  bufOff : op.bufOff = 0

/-- While the window has room the first segment of a write is built. -/
theorem buildNextSegment_first (c : Conn) {op : WriteOp} (fresh : op.Fresh) (inFlight : UInt32)
    (room : inFlight < c.flow.peerWnd) : (buildNextSegment c op inFlight).2 = true := by
  have filled := fresh.filled
  obtain ⟨count, inside, before, skipped, next⟩ := skipBuffers_spec op.buffers 0 0
  have start : normalize op = { op with bufIndex := count, bufOff := 0 } := by
    unfold normalize
    rw [fresh.bufIndex, fresh.bufOff, List.drop_zero, skipped, Nat.zero_add, Nat.zero_sub]
  have left : count ≠ op.buffers.length := by
    intro all
    have total := fresh.total
    rw [all, List.take_length, List.length_flatten] at before
    omega
  have buffer : 0 < (op.buffers.getD count []).length := by
    have bound : count < op.buffers.length := by omega
    have here := next _ (List.getElem?_eq_getElem bound)
    rw [List.getD_eq_getElem?_getD, List.getElem?_eq_getElem bound, Option.getD_some]
    omega
  have window : 0 < (c.flow.peerWnd - inFlight).toNat := by
    rw [UInt32.lt_iff_toNat_lt] at room
    rw [UInt32.toNat_sub_of_le _ _ (UInt32.le_iff_toNat_le.mpr room.le)]
    omega
  have size := mss_pos c.eng.cfg c.flow.key.family
  unfold buildNextSegment
  rw [start]
  dsimp only [currentBuffer]
  rw [if_neg left, if_neg (by rw [fresh.offset]; omega)]

theorem buildNextSegment_loops (c : Conn) (op : WriteOp) (inFlight : UInt32) :
    (buildNextSegment c op inFlight).1.loops = c.loops := by
  unfold buildNextSegment
  dsimp only
  split
  · rfl
  · split <;> rfl

/-- The first iteration for a write ends in a suspension, with no other coroutine moved. -/
theorem turn_suspends (c : Conn) (loop : WriteLoop) {op : WriteOp}
    (active : c.flow.activeWrite = some op) (fresh : op.Fresh) (isOpen : c.flow.state ≠ .closed)
    (alive : c.flow.rst = false) (level : c.flow.sndUna = loop.lastUna) :
    ∃ after next, turn c loop = .suspend after next ∧ after.loops = c.loops := by
  have unfinished : op.offset ≠ op.total := by
    rw [fresh.offset]
    exact fresh.filled.symm
  unfold turn
  rw [active]
  dsimp only
  rw [if_neg (by simp [isOpen, alive]), if_neg (by simp [unfinished])]
  split
  · exact ⟨_, _, rfl, rfl⟩
  · split
    · exact ⟨_, _, rfl, rfl⟩
    · split
      · rename_i sends
        have built := buildNextSegment_first c fresh _ sends.2
        have loops := buildNextSegment_loops c op (c.flow.sndNxt - c.flow.sndUna)
        split
        · rename_i result
          rw [result] at built
          cases built
        · rename_i result
          rw [result] at loops
          exact ⟨_, _, rfl, loops⟩
      · rw [if_neg (not_not.mpr level)]
        exact ⟨_, _, rfl, rfl⟩

/-- A write that starts has a coroutine of its own. -/
theorem spawnLoop_grows {c : Conn} {op : WriteOp} (active : c.flow.activeWrite = some op)
    (fresh : op.Fresh) (isOpen : c.flow.state ≠ .closed) (alive : c.flow.rst = false) :
    (spawnLoop c).loops.length = c.loops.length + 1 := by
  have begun : ({ op with startSeq := c.flow.sndNxt } : WriteOp).Fresh :=
    ⟨fresh.total, fresh.filled, fresh.offset, fresh.bufIndex, fresh.bufOff⟩
  obtain ⟨after, next, result, loops⟩ := turn_suspends
    { c with
      flow.writeCh := some (c.flow.writeCh.getD { isOpen := true })
      flow.activeWrite := some { op with startSeq := c.flow.sndNxt } }
    { persistInterval := c.eng.cfg.tcpPersistTimeout
      rto := c.eng.cfg.tcpRtoTimeout
      lastUna := c.flow.sndUna } rfl begun isOpen alive rfl
  have started : startLoop c = .suspend after next := by
    unfold startLoop loopHead
    rw [active]
    dsimp only
    rw [result]
  unfold spawnLoop
  rw [started]
  dsimp only
  rw [loops, List.length_append]
  rfl

/-- In the gap a write starts. -/
theorem write_starts {c : Conn} (gap : Gap c.flow) (buffers : List (List UInt8))
    (handler : HandlerId) (filled : (buffers.map List.length).sum ≠ 0) :
    (step c (.write buffers handler)).loops.length = c.loops.length + 1 := by
  have accepted (d : Conn) (same : d = if decide (c.flow.state = .synRcvd) = true then acceptFlow c
      else c) : d.flow.activeWrite = none ∧ d.flow.state ≠ .closed ∧ d.flow.rst = false ∧
      d.loops = c.loops := by
    subst same
    split
    · have answers := acceptFlow_keeps c
      exact ⟨answers.activeWrite.trans gap.idle, (acceptFlow_left c gap.isOpen).1,
        answers.rst.trans gap.alive, answers.loops⟩
    · exact ⟨gap.idle, gap.isOpen, gap.alive, rfl⟩
  show (tcpFlowStartWrite c buffers _ handler).loops.length = _
  unfold tcpFlowStartWrite
  rw [if_neg (by simp [gap.isOpen, gap.usable, gap.unsent]), if_neg (by simp [gap.alive])]
  dsimp only
  generalize (if decide (c.flow.state = .synRcvd) = true then acceptFlow c else c) = d at accepted
  obtain ⟨idle, isOpen, alive, loops⟩ := accepted d rfl
  rw [if_neg filled, if_neg (by simp [idle]), ← loops]
  exact spawnLoop_grows rfl ⟨rfl, filled, rfl, rfl, rfl⟩ isOpen alive

/-- Behind `shutdown(send)` a write with at least one byte is refused unless it meets the
gap. -/
theorem declined_iff {c : Conn} (shut : Shut c.flow) (coordinated : Coordinated c)
    (buffers : List (List UInt8)) (handler : HandlerId)
    (filled : (buffers.map List.length).sum ≠ 0) : Declined c buffers handler ↔ ¬Gap c.flow := by
  constructor
  · rintro ⟨ec, _, same⟩ gap
    have starts := write_starts gap buffers handler filled
    rw [same] at starts
    exact absurd starts (Nat.ne_of_lt (Nat.lt_succ_self c.loops.length))
  · intro noGap
    show ∃ ec, _ ∧ tcpFlowStartWrite c buffers _ handler = _
    unfold tcpFlowStartWrite
    by_cases stopped : c.flow.state = .closed ∨ c.flow.appClosed = true ∨ c.flow.finSent = true
    · exact ⟨.badDescriptor, by decide, if_pos stopped⟩
    rw [if_neg stopped]
    by_cases reset : c.flow.rst = true
    · exact ⟨.connectionReset, by decide, if_pos reset⟩
    rw [if_neg reset]
    simp only [not_or, Bool.not_eq_true] at stopped reset
    have busy : c.flow.activeWrite.isSome = true := by
      by_contra idle
      have pending : c.flow.finPending = true := by
        rcases shut with closed | sent | pending
        · exact absurd closed stopped.1
        · rw [stopped.2.2] at sent
          cases sent
        · exact pending
      exact noGap ⟨stopped.1, stopped.2.1, reset, pending, stopped.2.2, by simpa using idle⟩
    have left : c.flow.state ≠ .synRcvd := by
      intro waiting
      rw [(coordinated.fresh waiting).noWrite] at busy
      cases busy
    refine ⟨.noBufferSpace, by decide, ?_⟩
    have explicit : decide (c.flow.state = .synRcvd) = false := decide_eq_false left
    dsimp only
    simp only [explicit, Bool.false_eq_true, if_false]
    rw [if_neg filled, if_pos busy]

/-- After `shutdown(send)`, in every run, a write with at least one byte is refused exactly
if it does not meet the gap in front of the deferred FIN. -/
theorem run_declined_iff (eng : TcpEngine) (id : FlowId) (key : FiveTuple) (th : TcpHeader)
    (payload data : List UInt8) (iss : UInt32) (before after : List Event)
    (buffers : List (List UInt8)) (handler : HandlerId)
    (isOpen : (run (openFlow eng id key th payload data iss) before).flow.state ≠ .closed)
    (usable : (run (openFlow eng id key th payload data iss) before).flow.appClosed = false)
    (filled : (buffers.map List.length).sum ≠ 0) :
    let c := run (step (run (openFlow eng id key th payload data iss) before) .shutdownSend) after
    Declined c buffers handler ↔ ¬Gap c.flow := by
  intro c
  have whole : c = run (openFlow eng id key th payload data iss) (before ++ .shutdownSend :: after) :=
    (run_append _ before (.shutdownSend :: after)).symm
  have coordinated : Coordinated c := by
    rw [whole]
    exact run_keeps Coordinated (fun _ effect kept permits => kept.apply effect permits) _ _
      (openFlow_coordinated eng id key th payload data iss).2
  exact declined_iff (run_shut _ after (shutdownSend_shut _ isOpen usable)) coordinated buffers handler
    filled

/-- While a FIN is deferred behind a write, a second write is refused. -/
theorem declined_behindWrite :
    Declined (run (step (run (opened {} 1000) [.accept, .segment (peerSegment 8 1001 tcpAck 1000) [],
      .write [[1, 2, 3]] 5]) .shutdownSend) []) [[4]] 6 :=
  (run_declined_iff _ _ _ _ _ _ _ _ _ _ _ (by decide) (by decide) (by decide)).mpr
    fun gap => absurd gap.idle (by decide)

/-- `shutdown(send)` in SYN_ACK_SENT defers the FIN; the write that follows is accepted, and
its bytes go out as soon as the handshake is over. -/
theorem declined_fails :
    let c := run (step (run (opened {} 1000) [.accept]) .shutdownSend) []
    ¬Declined c [[1, 2, 3]] 5 ∧
      (run c [.write [[1, 2, 3]] 5, .segment (peerSegment 8 1001 tcpAck 1000) [],
        .resume 0]).out.map Segment.payload = [[], [1, 2, 3]] := by
  refine ⟨?_, by decide⟩
  rintro ⟨ec, _, same⟩
  have loops : (step (run (step (run (opened {} 1000) [.accept]) .shutdownSend) [])
      (.write [[1, 2, 3]] 5)).loops.length = 1 := by decide
  have none : (run (step (run (opened {} 1000) [.accept]) .shutdownSend) []).loops.length = 0 := by
    decide
  rw [same] at loops
  exact absurd (none.symm.trans loops) (by decide)

end Tunio
