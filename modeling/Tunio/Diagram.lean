import Mathlib.Logic.Relation
import Tunio.Effect

/-!
The state machine of a flow.  Every change of state is an edge of the passive open
diagram or an abort, and the FIN flags always agree with the state.
-/

namespace Tunio

open Machines

/-- SYN_RCVD of the diagram is split in two: before and after the SYN-ACK. -/
inductive Edge : TcpState → TcpState → Prop
  | synAck : Edge .synRcvd .synAckSent
  | establish : Edge .synAckSent .established
  | finish : Edge .established .finWait1
  | peerFinishes : Edge .established .closeWait
  | finAcked : Edge .finWait1 .finWait2
  | bothFinished : Edge .finWait1 .timeWait
  | peerFinishesLast : Edge .finWait2 .timeWait
  | finishLast : Edge .closeWait .lastAck
  | close (state : TcpState) : Edge state .closed

structure Coherent (flow : TcpFlow) : Prop where
  established : flow.state = .established → flow.finSent = false ∧ flow.finReceived = false
  closeWait : flow.state = .closeWait → flow.finReceived = true ∧ flow.finSent = false
  finWait1 : flow.state = .finWait1 → flow.finSent = true
  finWait2 : flow.state = .finWait2 → flow.finSent = true ∧ flow.finReceived = false
  lastAck : flow.state = .lastAck → flow.finSent = true ∧ flow.finReceived = true
  timeWait : flow.state = .timeWait → flow.finSent = true ∧ flow.finReceived = true

/-! What the effects do to the numbers and the FIN flags of a flow. -/

structure Numbers where
  iss : UInt32
  sndNxt : UInt32
  rcvNxt : UInt32
  finSent : Bool
  finReceived : Bool

def TcpFlow.numbers (flow : TcpFlow) : Numbers := {
  iss := flow.iss
  sndNxt := flow.sndNxt
  rcvNxt := flow.rcvNxt
  finSent := flow.finSent
  finReceived := flow.finReceived
}

section

variable (c : Conn)

theorem sendSegment_numbers (seq : UInt32) (flags : UInt8) (payload : List UInt8)
    (withMss : Bool) : (sendSegment c seq flags payload withMss).flow.numbers = c.flow.numbers := by
  unfold sendSegment
  split <;> rfl

theorem noteDataAck_numbers : (noteDataAck c).flow.numbers = c.flow.numbers := by
  unfold noteDataAck
  split
  · exact sendSegment_numbers c _ _ _ _
  · rfl

theorem compactRx_numbers : (compactRx c).flow.numbers = c.flow.numbers := by
  unfold compactRx
  split <;> rfl

theorem finState_numbers : (finState c).flow.numbers = c.flow.numbers := by
  unfold finState
  split <;> rfl

theorem dropReceived_numbers : (dropReceived c).flow.numbers = c.flow.numbers := by
  unfold dropReceived
  dsimp only
  split <;> split <;> rfl

theorem closeWriteCh_numbers : (closeWriteCh c).flow.numbers = c.flow.numbers := by
  unfold closeWriteCh
  split <;> rfl

theorem closeFlow_numbers (err : ErrorCode) :
    (closeFlow c err).flow.numbers = c.flow.numbers := by
  refine closeFlow_keeps (fun c => c.flow.numbers) err ?_ ?_ ?_ closeWriteCh_numbers ?_ c
  · intro c
    unfold withdrawAccept cancelAckTimer
    split <;> split <;> rfl
  · exact fun c => dropReceived_numbers _
  · intro c
    unfold detachFlow uncountFlow
    split <;> rfl
  · intro c read write
    rw [completeWrite_flow, completeRead_flow]

theorem abortFlow_numbers : (abortFlow c).flow.numbers = c.flow.numbers := by
  unfold abortFlow
  split
  · rfl
  · dsimp only
    rw [closeFlow_numbers]
    exact sendSegment_numbers c _ _ _ _

theorem deliverDirect_numbers (op : ReadOp) (data : List UInt8) (isOpen : c.flow.state ≠ .closed) :
    (deliverDirect c op data).flow.numbers =
      { c.flow.numbers with rcvNxt := c.flow.rcvNxt + UInt32.ofNat data.length } := by
  have filled : (fillRead c op data).flow.numbers =
      { c.flow.numbers with rcvNxt := c.flow.rcvNxt + UInt32.ofNat data.length } := by
    unfold fillRead
    dsimp only
    split <;> rfl
  have idle : (fillRead c op data).flow.activeRead = none := by
    unfold fillRead
    dsimp only
    split <;> rfl
  unfold deliverDirect
  dsimp only
  rw [if_neg (by rw [fillRead_state]; exact isOpen), sendAck, sendSegment_numbers]
  split
  · rw [flushReads_idle _ idle, compactRx_numbers]
    exact filled
  · exact filled

theorem takeFin_numbers : (c.apply .takeFin).flow.numbers = (takeFin c).flow.numbers := by
  change (finState (sendAck (takeFin c))).flow.numbers = _
  rw [finState_numbers]
  exact sendSegment_numbers _ _ _ _ _

/-- The bytes of the active write that are emitted. -/
def Conn.offset : Nat :=
  match c.flow.activeWrite with
  | some op => op.offset
  | none => 0

theorem next_numbers (inFlight : UInt32) :
    (c.apply (.next inFlight)).flow.numbers =
      { c.flow.numbers with
        sndNxt := c.flow.sndNxt + UInt32.ofNat ((c.apply (.next inFlight)).offset - c.offset) } := by
  cases active : c.flow.activeWrite with
  | none => simp [Conn.apply, active, TcpFlow.numbers]
  | some op =>
      have offset : c.offset = op.offset := by simp [Conn.offset, active]
      have position : (normalize op).offset = op.offset := rfl
      simp only [Conn.apply, active, offset]
      unfold buildNextSegment
      dsimp only
      split
      · simp [Conn.offset, position, TcpFlow.numbers]
      · split
        · simp [Conn.offset, position, TcpFlow.numbers]
        · simp [Conn.offset, position, TcpFlow.numbers, buildSegment]

end

/-- The effects that change a sequence number or a FIN flag. -/
def Effect.renumbers : Effect → Bool
  | .next _ | .accept | .fin | .sealed | .giveUp | .probeAck _ => true
  | .direct _ _ _ | .buffer _ _ | .skip _ | .takeFin => true
  | _ => false

theorem apply_numbers (c : Conn) (effect : Effect) (still : effect.renumbers = false) :
    (c.apply effect).flow.numbers = c.flow.numbers := by
  cases effect with
  | submit seq flags payload withMss => exact sendSegment_numbers c _ _ _ _
  | notify =>
      change (notifyAccept c).flow.numbers = _
      unfold notifyAccept
      split <;> rfl
  | handOut =>
      change (handOut c).flow.numbers = _
      unfold handOut
      dsimp only
      split
      · split <;> rfl
      · rfl
  | abort => exact abortFlow_numbers c
  | resetBy => exact closeFlow_numbers { c with flow.rst := true } _
  | close err => exact closeFlow_numbers c err
  | finAcked =>
      unfold Conn.apply
      dsimp only
      split <;> rfl
  | compact => exact compactRx_numbers c
  | append seq data fin =>
      change (oooAppend c seq data fin).1.flow.numbers = _
      unfold oooAppend appendFin appendData
      dsimp only
      repeat' split
      all_goals rfl
  | discard key seg =>
      change (discardOoo c key seg).flow.numbers = _
      unfold discardOoo
      dsimp only
      split <;> rfl
  | drop => exact dropReceived_numbers c
  | closeChannel => exact closeWriteCh_numbers c
  | ackTimerExpires =>
      change (ackTimerExpires c).flow.numbers = _
      unfold ackTimerExpires
      split
      · split <;> rfl
      · rfl
  | ackTimerRuns =>
      change (ackTimerRuns c).flow.numbers = _
      unfold ackTimerRuns
      split
      · split
        · dsimp only
          split
          · rfl
          · exact sendSegment_numbers _ _ _ _ _
        · rfl
      · rfl
  | next | accept | fin | sealed | giveUp | probeAck | direct | buffer | skip | takeFin =>
      cases still
  | _ => rfl

/-! One effect. -/

/-- The effects that change the state. -/
def Effect.moves : Effect → Bool
  | .accept | .establish | .fin | .giveUp | .abort | .resetBy | .close _ => true
  | .finAcked | .takeFin => true
  | _ => false

theorem apply_state (c : Conn) (effect : Effect) (still : effect.moves = false) :
    (c.apply effect).flow.state = c.flow.state := by
  cases effect with
  | submit seq flags payload withMss => exact sendSegment_state c _ _ _ _
  | next inFlight =>
      change (match c.flow.activeWrite with
        | some op => (buildNextSegment c op inFlight).1
        | none => c).flow.state = _
      split
      · unfold buildNextSegment
        dsimp only
        split
        · rfl
        · split <;> rfl
      · rfl
  | notify =>
      change (notifyAccept c).flow.state = _
      unfold notifyAccept
      split <;> rfl
  | handOut =>
      change (handOut c).flow.state = _
      unfold handOut
      dsimp only
      split
      · split <;> rfl
      · rfl
  | probeAck ack =>
      change (acceptProbe c ack).flow.state = _
      unfold acceptProbe
      dsimp only
      split
      · split <;> rfl
      · rfl
  | direct op account data => exact deliverDirect_state _ op data
  | buffer account data => exact noteDataAck_state _
  | skip len => exact sendAck_state _
  | compact => exact compactRx_state c
  | append seq data fin => exact oooAppend_state c seq data fin
  | discard key seg => exact discardOoo_state c key seg
  | drop => exact dropReceived_state c
  | closeChannel => exact closeWriteCh_flow_state c
  | ackTimerExpires =>
      change (ackTimerExpires c).flow.state = _
      unfold ackTimerExpires
      split
      · split <;> rfl
      · rfl
  | ackTimerRuns =>
      change (ackTimerRuns c).flow.state = _
      unfold ackTimerRuns
      split
      · split
        · dsimp only
          split
          · rfl
          · exact sendSegment_state _ _ _ _ _
        · rfl
      · rfl
  | accept | establish | fin | giveUp | abort | resetBy | close | finAcked | takeFin => cases still
  | _ => rfl

theorem emitFin_state (c : Conn) (state : TcpState) : (emitFin c state).flow.state = state :=
  sendSegment_state { c with flow.state := state, flow.closeStartedAt := c.eng.now } _ _ _ _

/-- The effects that the sending half sees. -/
def Effect.sends : Effect → Bool
  | .next _ | .accept | .fin | .sealed | .giveUp | .abort | .resetBy | .close _ => true
  | .una _ | .probeAck _ | .probing _ | .pend _ | .window _ => true
  | .startWrite _ | .endWrite _ _ _ | .cancelWrite _ | .locate | .appClose | .begin_ => true
  | _ => false

theorem apply_send (c : Conn) (effect : Effect) (still : effect.sends = false) :
    (c.apply effect).flow.send = c.flow.send := by
  cases effect with
  | submit seq flags payload withMss => exact sendSegment_send c _ _ _ _
  | notify =>
      change (notifyAccept c).flow.send = _
      unfold notifyAccept
      split <;> rfl
  | handOut =>
      change (handOut c).flow.send = _
      unfold handOut
      dsimp only
      split
      · split <;> rfl
      · rfl
  | finAcked =>
      unfold Conn.apply
      dsimp only
      split <;> rfl
  | direct op account data => exact (Quiet.deliverDirect _ op data).send
  | buffer account data => exact (Quiet.noteDataAck _).send
  | skip len => exact (Quiet.sendAck _).send
  | takeFin =>
      have quiet := (Quiet.takeFin c).trans ((Quiet.sendAck _).trans (Quiet.finState _))
      exact quiet.send
  | compact => exact (Quiet.compactRx c).send
  | append seq data fin => exact (Quiet.oooAppend c seq data fin).send
  | discard key seg => exact (Quiet.discardOoo c key seg).send
  | drop =>
      change (dropReceived c).flow.send = _
      unfold dropReceived
      dsimp only
      split <;> split <;> rfl
  | closeChannel =>
      change (closeWriteCh c).flow.send = _
      unfold closeWriteCh
      split <;> rfl
  | ackTimerExpires =>
      change (ackTimerExpires c).flow.send = _
      unfold ackTimerExpires
      split
      · split <;> rfl
      · rfl
  | ackTimerRuns =>
      change (ackTimerRuns c).flow.send = _
      unfold ackTimerRuns
      split
      · split
        · dsimp only
          split
          · rfl
          · exact sendSegment_send _ _ _ _ _
        · rfl
      · rfl
  | next | accept | fin | sealed | giveUp | abort | resetBy | close | una | probeAck | probing
  | pend | window | startWrite | endWrite | cancelWrite | locate | appClose | begin_ => cases still
  | _ => rfl

/-- An effect keeps the state or takes one edge. -/
theorem apply_edge (c : Conn) (effect : Effect) (permits : c.Permits effect) :
    (c.apply effect).flow.state = c.flow.state ∨
      Edge c.flow.state (c.apply effect).flow.state := by
  cases effect with
  | accept =>
      have waiting : c.flow.state = .synRcvd := permits
      have accepted : (acceptFlow c).flow.state = .synAckSent := by simp [acceptFlow, waiting]
      refine Or.inr ?_
      change Edge _ (acceptFlow c).flow.state
      rw [waiting, accepted]
      exact Edge.synAck
  | establish =>
      have waiting : c.flow.state = .synAckSent := permits
      refine Or.inr ?_
      rw [waiting]
      exact Edge.establish
  | fin =>
      refine Or.inr ?_
      change Edge _ (emitFin _ _).flow.state
      rw [emitFin_state]
      rcases permits.1 with state | state
      · rw [state]
        exact Edge.finish
      · rw [state]
        exact Edge.finishLast
  | giveUp =>
      refine Or.inr ?_
      change Edge _ (abortFlow _).flow.state
      rw [abortFlow_state]
      exact Edge.close _
  | abort =>
      refine Or.inr ?_
      change Edge _ (abortFlow c).flow.state
      rw [abortFlow_state]
      exact Edge.close _
  | resetBy =>
      refine Or.inr ?_
      change Edge _ (closeFlow _ _).flow.state
      rw [closeFlow_state]
      exact Edge.close _
  | close err =>
      refine Or.inr ?_
      change Edge _ (closeFlow c err).flow.state
      rw [closeFlow_state]
      exact Edge.close _
  | finAcked =>
      have waiting : c.flow.state = .finWait1 := permits.1
      refine Or.inr ?_
      unfold Conn.apply
      dsimp only
      rw [waiting]
      split
      · exact Edge.bothFinished
      · exact Edge.finAcked
  | takeFin =>
      have state : (sendAck (takeFin c)).flow.state = c.flow.state := by
        rw [sendAck_state]
        unfold takeFin
        split <;> rfl
      change (finState (sendAck (takeFin c))).flow.state = _ ∨
        Edge _ (finState (sendAck (takeFin c))).flow.state
      rw [← state]
      unfold finState
      split
      · rename_i established
        rw [established]
        exact Or.inr Edge.peerFinishes
      · rename_i waiting
        rw [waiting]
        exact Or.inr Edge.peerFinishesLast
      · exact Or.inl rfl
  | _ => exact Or.inl (apply_state c _ rfl)

theorem apply_closed {c : Conn} {effect : Effect} (permits : c.Permits effect)
    (closed : c.flow.state = .closed) : (c.apply effect).flow.state = .closed := by
  rcases apply_edge c effect permits with same | edge
  · exact same.trans closed
  · rw [closed] at edge
    generalize (c.apply effect).flow.state = state at edge
    cases edge
    rfl

/-! Flags and state agree in every reachable state. -/

/-- The FIN flags that go with a state. -/
def Agree : TcpState → Bool → Bool → Prop
  | .closed, _, _ => True
  | .synRcvd, finSent, finReceived => finSent = false ∧ finReceived = false
  | .synAckSent, finSent, finReceived => finSent = false ∧ finReceived = false
  | .established, finSent, finReceived => finSent = false ∧ finReceived = false
  | .closeWait, finSent, finReceived => finSent = false ∧ finReceived = true
  | .finWait1, finSent, _ => finSent = true
  | .finWait2, finSent, finReceived => finSent = true ∧ finReceived = false
  | .lastAck, finSent, finReceived => finSent = true ∧ finReceived = true
  | .timeWait, finSent, finReceived => finSent = true ∧ finReceived = true

abbrev Agrees (flow : TcpFlow) : Prop := Agree flow.state flow.finSent flow.finReceived

theorem Agrees.coherent {flow : TcpFlow} (agrees : Agrees flow) : Coherent flow := by
  constructor <;> intro state <;> rw [Agrees, state] at agrees
  · exact agrees
  · exact agrees.symm
  · exact agrees
  · exact agrees
  · exact agrees
  · exact agrees

theorem Agrees.closed {flow : TcpFlow} (closed : flow.state = .closed) : Agrees flow := by
  rw [Agrees, closed]
  trivial

/-- The effects that change a FIN flag or the state of an open flow. -/
def Effect.turns : Effect → Bool
  | .accept | .establish | .fin | .sealed | .finAcked | .takeFin => true
  | _ => false

theorem apply_flags (c : Conn) (effect : Effect) (still : effect.turns = false) :
    (c.apply effect).flow.state = .closed ∨
      ((c.apply effect).flow.state = c.flow.state ∧
        (c.apply effect).flow.finSent = c.flow.finSent ∧
        (c.apply effect).flow.finReceived = c.flow.finReceived) := by
  have flags {before after : TcpFlow} {numbers : Numbers} (same : after.numbers = numbers)
      (sent : numbers.finSent = before.finSent) (received : numbers.finReceived = before.finReceived) :
      after.finSent = before.finSent ∧ after.finReceived = before.finReceived :=
    ⟨(congrArg Numbers.finSent same).trans sent, (congrArg Numbers.finReceived same).trans received⟩
  cases effect with
  | next inFlight =>
      exact Or.inr ⟨apply_state c _ rfl, flags (next_numbers c inFlight) rfl rfl⟩
  | giveUp => exact Or.inl (abortFlow_state _)
  | abort => exact Or.inl (abortFlow_state c)
  | resetBy => exact Or.inl (closeFlow_state _ _)
  | close err => exact Or.inl (closeFlow_state c err)
  | probeAck ack =>
      refine Or.inr ⟨apply_state c _ rfl, ?_⟩
      change (acceptProbe c ack).flow.finSent = _ ∧ (acceptProbe c ack).flow.finReceived = _
      unfold acceptProbe
      dsimp only
      split
      · split <;> exact ⟨rfl, rfl⟩
      · exact ⟨rfl, rfl⟩
  | direct op account data =>
      by_cases closed : c.flow.state = .closed
      · refine Or.inl ?_
        rw [apply_state c _ rfl]
        exact closed
      · exact Or.inr ⟨apply_state c _ rfl,
          flags (deliverDirect_numbers { c with eng.account := account } op data closed) rfl rfl⟩
  | buffer account data =>
      exact Or.inr ⟨apply_state c _ rfl, flags (noteDataAck_numbers _) rfl rfl⟩
  | skip len => exact Or.inr ⟨apply_state c _ rfl, flags (sendSegment_numbers _ _ _ _ _) rfl rfl⟩
  | accept | establish | fin | sealed | finAcked | takeFin => cases still
  | _ => exact Or.inr ⟨apply_state c _ rfl, flags (apply_numbers c _ rfl) rfl rfl⟩

theorem emitFin_numbers (c : Conn) (state : TcpState) :
    (emitFin c state).flow.numbers = { c.flow.numbers with sndNxt := c.flow.sndNxt + 1 } := by
  have sent := sendSegment_numbers
    { c with flow.state := state, flow.closeStartedAt := c.eng.now } c.flow.sndNxt
    (tcpAck ||| tcpFin) [] false
  unfold emitFin
  dsimp only
  unfold TcpFlow.numbers at sent ⊢
  simp only [Numbers.mk.injEq] at sent ⊢
  exact ⟨sent.1, by rw [sent.2.1], sent.2.2⟩

theorem takeFin_flags (c : Conn) :
    (c.apply .takeFin).flow.finSent = c.flow.finSent ∧
      (c.apply .takeFin).flow.finReceived = true := by
  have numbers := takeFin_numbers c
  refine ⟨(congrArg Numbers.finSent numbers).trans ?_,
    (congrArg Numbers.finReceived numbers).trans ?_⟩
  · change (takeFin c).flow.finSent = _
    unfold takeFin
    split <;> rfl
  · change (takeFin c).flow.finReceived = _
    unfold takeFin
    split
    · assumption
    · rfl

theorem takeFin_state (c : Conn) : (c.apply .takeFin).flow.state = c.flow.state.drifted := by
  have state : (sendAck (takeFin c)).flow.state = c.flow.state := by
    rw [sendAck_state]
    unfold takeFin
    split <;> rfl
  change (finState (sendAck (takeFin c))).flow.state = _
  rw [← state]
  unfold finState
  split
  · rename_i known
    rw [known]
    rfl
  · rename_i known
    rw [known]
    rfl
  · rename_i notEst notWait
    cases known : (sendAck (takeFin c)).flow.state with
    | established => exact absurd known notEst
    | finWait2 => exact absurd known notWait
    | _ => rfl

theorem Agrees.apply {c : Conn} (agrees : Agrees c.flow) (effect : Effect)
    (permits : c.Permits effect) : Agrees (c.apply effect).flow := by
  cases turns : effect.turns with
  | false =>
      rcases apply_flags c effect turns with closed | ⟨state, finSent, finReceived⟩
      · exact Agrees.closed closed
      · rw [Agrees, state, finSent, finReceived]
        exact agrees
  | true =>
      cases effect with
      | accept =>
          have waiting : c.flow.state = .synRcvd := permits
          rw [Agrees, waiting] at agrees
          have sent := sendSegment_numbers c c.flow.iss (tcpSyn ||| tcpAck) [] true
          change Agrees (acceptFlow c).flow
          unfold acceptFlow
          rw [if_neg (not_not.mpr waiting)]
          have finSent := congrArg Numbers.finSent sent
          have finReceived := congrArg Numbers.finReceived sent
          exact ⟨finSent.trans agrees.1, finReceived.trans agrees.2⟩
      | establish =>
          have waiting : c.flow.state = .synAckSent := permits
          rw [Agrees, waiting] at agrees
          exact agrees
      | fin =>
          have numbers := emitFin_numbers { c with flow.finSent := true } c.flow.state.finished
          have finSent := congrArg Numbers.finSent numbers
          have finReceived := congrArg Numbers.finReceived numbers
          change Agrees (emitFin _ _).flow
          rw [Agrees, emitFin_state]
          rcases permits.1 with here | here
          · rw [here] at finSent ⊢
            exact finSent
          · rw [Agrees, here] at agrees
            rw [here] at finSent finReceived ⊢
            exact ⟨finSent, finReceived.trans agrees.2⟩
      | sealed =>
          obtain ⟨⟨isOpen, noRcvd, noSent⟩, noEst, noWait, unsent⟩ := permits
          rw [Agrees] at agrees
          cases state : c.flow.state <;> simp_all [Agree]
      | finAcked =>
          unfold Conn.apply
          dsimp only
          split
          · rename_i received
            exact ⟨permits.2, received⟩
          · rename_i waits
            exact ⟨permits.2, Bool.eq_false_of_not_eq_true waits⟩
      | takeFin =>
          have flags := takeFin_flags c
          obtain ⟨isOpen, noRcvd, noSent⟩ : Past c.flow.state := permits
          rw [Agrees] at agrees
          rw [Agrees, takeFin_state, flags.1, flags.2]
          cases state : c.flow.state <;> simp_all [Agree, TcpState.drifted]
      | _ => cases turns

/-- Nothing was sent before the SYN-ACK. -/
structure Fresh (flow : TcpFlow) : Prop where
  sndNxt : flow.sndNxt = flow.iss
  noWrite : flow.activeWrite = none
  noProbe : flow.probeInFlight = false

theorem Fresh.apply {c : Conn} (fresh : Fresh c.flow) (waiting : c.flow.state = .synRcvd)
    (effect : Effect) (permits : c.Permits effect) :
    (c.apply effect).flow.state ≠ .synRcvd ∨ Fresh (c.apply effect).flow := by
  have noWrite : c.flow.activeWrite.isSome ≠ true := by simp [fresh.noWrite]
  cases sends : effect.sends with
  | false =>
      have send := apply_send c effect sends
      have sndNxt := congrArg SendView.sndNxt send
      have iss := congrArg SendView.iss send
      exact Or.inr ⟨sndNxt.trans (fresh.sndNxt.trans iss.symm),
        (congrArg SendView.activeWrite send).trans fresh.noWrite,
        (congrArg SendView.probeInFlight send).trans fresh.noProbe⟩
  | true =>
      cases effect with
      | next inFlight => exact absurd permits.2 noWrite
      | accept =>
          refine Or.inl ?_
          change (acceptFlow c).flow.state ≠ _
          simp [acceptFlow, waiting]
      | fin => exact absurd permits.1 (by simp [waiting])
      | sealed => exact absurd waiting permits.1.2.1
      | giveUp => exact Or.inl (by rw [Conn.apply, abortFlow_state]; decide)
      | abort => exact Or.inl (by rw [Conn.apply, abortFlow_state]; decide)
      | resetBy => exact Or.inl (by rw [Conn.apply, closeFlow_state]; decide)
      | close err => exact Or.inl (by rw [Conn.apply, closeFlow_state]; decide)
      | probeAck ack => exact absurd permits.1 (by simp [fresh.noProbe])
      | probing inFlight =>
          refine Or.inr ⟨fresh.sndNxt, fresh.noWrite, ?_⟩
          cases inFlight with
          | false => rfl
          | true => exact absurd (permits rfl) noWrite
      | una ack => exact Or.inr ⟨fresh.sndNxt, fresh.noWrite, fresh.noProbe⟩
      | pend pending => exact Or.inr ⟨fresh.sndNxt, fresh.noWrite, fresh.noProbe⟩
      | window wnd => exact Or.inr ⟨fresh.sndNxt, fresh.noWrite, fresh.noProbe⟩
      | startWrite op => exact absurd waiting permits.2.1
      | endWrite op ec n => exact Or.inr ⟨fresh.sndNxt, rfl, fresh.noProbe⟩
      | cancelWrite op => exact Or.inr ⟨fresh.sndNxt, rfl, fresh.noProbe⟩
      | locate =>
          refine Or.inr ⟨fresh.sndNxt, ?_, fresh.noProbe⟩
          change c.flow.activeWrite.map normalize = none
          rw [fresh.noWrite]
          rfl
      | appClose => exact Or.inr ⟨fresh.sndNxt, fresh.noWrite, fresh.noProbe⟩
      | begin_ => exact absurd permits noWrite
      | _ => cases sends

/-- What holds of a flow in every state that a run reaches. -/
structure Coordinated (c : Conn) : Prop where
  agrees : Agrees c.flow
  fresh : c.flow.state = .synRcvd → Fresh c.flow

theorem apply_not_synRcvd {c : Conn} {effect : Effect} (permits : c.Permits effect)
    (left : c.flow.state ≠ .synRcvd) : (c.apply effect).flow.state ≠ .synRcvd := by
  intro back
  rcases apply_edge c effect permits with same | edge
  · exact left (same.symm.trans back)
  · rw [back] at edge
    generalize c.flow.state = state at edge
    cases edge

theorem apply_not_synAckSent {c : Conn} {effect : Effect} (permits : c.Permits effect)
    (left : c.flow.state ≠ .synRcvd ∧ c.flow.state ≠ .synAckSent) :
    (c.apply effect).flow.state ≠ .synRcvd ∧ (c.apply effect).flow.state ≠ .synAckSent := by
  refine ⟨apply_not_synRcvd permits left.1, fun back => ?_⟩
  rcases apply_edge c effect permits with same | edge
  · exact left.2 (same.symm.trans back)
  · rw [back] at edge
    generalize c.flow.state = state at edge left
    cases edge
    exact left.1 rfl

theorem Coordinated.apply {c : Conn} (coordinated : Coordinated c) (effect : Effect)
    (permits : c.Permits effect) : Coordinated (c.apply effect) := by
  refine ⟨coordinated.agrees.apply effect permits, fun waiting => ?_⟩
  by_cases before : c.flow.state = .synRcvd
  · exact ((coordinated.fresh before).apply before effect permits).resolve_left (not_not.mpr waiting)
  · exact absurd waiting (apply_not_synRcvd permits before)

/-! What the sequence numbers are advanced for. -/

/-- The advance of `rcv_nxt`: for data, and for a FIN. -/
def receivedBy (c : Conn) : Effect → ℕ × ℕ
  | .direct _ _ data => (data.length, 0)
  | .buffer _ data => (data.length, 0)
  | .skip len => (len, 0)
  | .takeFin => (0, if c.flow.finReceived then 0 else 1)
  | _ => (0, 0)

/-- The advance of `snd_nxt`: for the SYN and for data, and for a FIN. -/
def sentBy (c : Conn) : Effect → ℕ × ℕ
  | .accept => (1, 0)
  | .next inFlight => ((c.apply (.next inFlight)).offset - c.offset, 0)
  | .probeAck _ => (1, 0)
  | .fin => (0, 1)
  | _ => (0, 0)

/-- The effects that advance `rcv_nxt`. -/
def Effect.receives : Effect → Bool
  | .direct _ _ _ | .buffer _ _ | .skip _ | .takeFin => true
  | _ => false

theorem acceptFlow_numbers (c : Conn) (waiting : c.flow.state = .synRcvd) :
    (acceptFlow c).flow.numbers = { c.flow.numbers with sndNxt := c.flow.iss + 1 } := by
  have sent := sendSegment_numbers c c.flow.iss (tcpSyn ||| tcpAck) [] true
  unfold acceptFlow
  rw [if_neg (not_not.mpr waiting)]
  unfold TcpFlow.numbers at sent ⊢
  simp only [Numbers.mk.injEq] at sent ⊢
  exact ⟨sent.1, by rw [sent.1], sent.2.2⟩

theorem acceptProbe_numbers (c : Conn) (ack : UInt32) :
    (acceptProbe c ack).flow.numbers = { c.flow.numbers with sndNxt := ack } := by
  unfold acceptProbe
  dsimp only
  split
  · split <;> rfl
  · rfl

theorem apply_received (c : Conn) (effect : Effect) (still : effect.receives = false)
    (permits : c.Permits effect) :
    (c.apply effect).flow.rcvNxt = c.flow.rcvNxt ∧
      (c.apply effect).flow.finReceived = c.flow.finReceived := by
  have kept {numbers : Numbers} (same : (c.apply effect).flow.numbers = numbers)
      (rcvNxt : numbers.rcvNxt = c.flow.rcvNxt) (fin : numbers.finReceived = c.flow.finReceived) :
      (c.apply effect).flow.rcvNxt = c.flow.rcvNxt ∧
        (c.apply effect).flow.finReceived = c.flow.finReceived :=
    ⟨(congrArg Numbers.rcvNxt same).trans rcvNxt, (congrArg Numbers.finReceived same).trans fin⟩
  cases renumbers : effect.renumbers with
  | false => exact kept (apply_numbers c effect renumbers) rfl rfl
  | true =>
      cases effect with
      | next inFlight => exact kept (next_numbers c inFlight) rfl rfl
      | accept => exact kept (acceptFlow_numbers c permits) rfl rfl
      | fin => exact kept (emitFin_numbers _ _) rfl rfl
      | sealed => exact ⟨rfl, rfl⟩
      | giveUp => exact kept (abortFlow_numbers _) rfl rfl
      | probeAck ack => exact kept (acceptProbe_numbers c ack) rfl rfl
      | direct | buffer | skip | takeFin => cases still
      | _ => cases renumbers

/-- `rcv_nxt` has been advanced for so much data and so many FINs since it was `base`. -/
structure Received (base : UInt32) (c : Conn) (total : ℕ × ℕ) : Prop where
  rcvNxt : c.flow.rcvNxt = base + UInt32.ofNat total.1 + UInt32.ofNat total.2
  once : total.2 = c.flow.finReceived.toNat

theorem Received.data {base : UInt32} {c after : Conn} {total : ℕ × ℕ}
    (received : Received base c total) (len : Nat)
    (numbers : after.flow.numbers =
      { c.flow.numbers with rcvNxt := c.flow.rcvNxt + UInt32.ofNat len }) :
    Received base after (total + (len, 0)) := by
  have rcvNxt : after.flow.rcvNxt = c.flow.rcvNxt + UInt32.ofNat len :=
    congrArg Numbers.rcvNxt numbers
  have finReceived := congrArg Numbers.finReceived numbers
  refine ⟨?_, received.once.trans (congrArg Bool.toNat finReceived.symm)⟩
  rw [rcvNxt, received.rcvNxt]
  simp only [Prod.fst_add, Prod.snd_add, UInt32.ofNat_add, add_zero]
  ac_rfl

theorem Received.apply {base : UInt32} {c : Conn} {total : ℕ × ℕ}
    (received : Received base c total) (effect : Effect) (permits : c.Permits effect) :
    Received base (c.apply effect) (total + receivedBy c effect) := by
  cases receives : effect.receives with
  | false =>
      have nothing : receivedBy c effect = 0 := by
        cases effect <;> first | rfl | cases receives
      have same := apply_received c effect receives permits
      rw [nothing, add_zero]
      exact ⟨same.1.trans received.rcvNxt, received.once.trans (congrArg Bool.toNat same.2.symm)⟩
  | true =>
      cases effect with
      | direct op account data =>
          exact received.data data.length
            (deliverDirect_numbers { c with eng.account := account } op data permits.1.1)
      | buffer account data => exact received.data data.length (noteDataAck_numbers _)
      | skip len => exact received.data len (sendSegment_numbers _ _ _ _ _)
      | takeFin =>
          have rcvNxt : (c.apply .takeFin).flow.rcvNxt = (takeFin c).flow.rcvNxt :=
            congrArg Numbers.rcvNxt (takeFin_numbers c)
          have once := received.once
          have before := received.rcvNxt
          unfold takeFin at rcvNxt
          cases finished : c.flow.finReceived with
          | true =>
              rw [finished] at once rcvNxt
              refine ⟨?_, ?_⟩
              · simpa [receivedBy, finished] using rcvNxt.trans before
              · simpa [receivedBy, finished, (takeFin_flags c).2] using once
          | false =>
              rw [finished] at once rcvNxt
              simp only [Bool.false_eq_true, if_false] at rcvNxt
              refine ⟨?_, ?_⟩
              · rw [rcvNxt, before]
                simp [receivedBy, finished, UInt32.ofNat_add, UInt32.add_assoc]
              · simp [receivedBy, finished, (takeFin_flags c).2, once]
      | _ => cases receives

/-- `snd_nxt` has been advanced for so much data and so many FINs since it was `base`. -/
structure Sent (base : UInt32) (c : Conn) (total : ℕ × ℕ) : Prop where
  sndNxt : c.flow.sndNxt = base + UInt32.ofNat total.1 + UInt32.ofNat total.2
  once : total.2 ≤ c.flow.finSent.toNat

theorem Sent.data {base : UInt32} {c after : Conn} {total : ℕ × ℕ} (sent : Sent base c total)
    (len : Nat) (sndNxt : after.flow.sndNxt = c.flow.sndNxt + UInt32.ofNat len)
    (finSent : after.flow.finSent = c.flow.finSent) : Sent base after (total + (len, 0)) := by
  refine ⟨?_, ?_⟩
  · rw [sndNxt, sent.sndNxt]
    simp only [Prod.fst_add, Prod.snd_add, UInt32.ofNat_add, add_zero]
    ac_rfl
  · rw [finSent]
    exact sent.once

/-- The effects that advance `snd_nxt`. -/
def Effect.emits : Effect → Bool
  | .next _ | .accept | .probeAck _ | .fin => true
  | _ => false

theorem apply_sent (c : Conn) (effect : Effect) (still : effect.emits = false)
    (permits : c.Permits effect) :
    (c.apply effect).flow.sndNxt = c.flow.sndNxt ∧
      ((c.apply effect).flow.finSent = c.flow.finSent ∨ (c.apply effect).flow.finSent = true) := by
  have kept {numbers : Numbers} (same : (c.apply effect).flow.numbers = numbers)
      (sndNxt : numbers.sndNxt = c.flow.sndNxt)
      (fin : numbers.finSent = c.flow.finSent ∨ numbers.finSent = true) :
      (c.apply effect).flow.sndNxt = c.flow.sndNxt ∧
        ((c.apply effect).flow.finSent = c.flow.finSent ∨
          (c.apply effect).flow.finSent = true) := by
    have finSent : (c.apply effect).flow.finSent = numbers.finSent := congrArg Numbers.finSent same
    rw [finSent]
    exact ⟨(congrArg Numbers.sndNxt same).trans sndNxt, fin⟩
  cases renumbers : effect.renumbers with
  | false => exact kept (apply_numbers c effect renumbers) rfl (Or.inl rfl)
  | true =>
      cases effect with
      | sealed => exact ⟨rfl, Or.inr rfl⟩
      | giveUp => exact kept (abortFlow_numbers _) rfl (Or.inr rfl)
      | direct op account data =>
          exact kept (deliverDirect_numbers { c with eng.account := account } op data permits.1.1)
            rfl (Or.inl rfl)
      | buffer account data => exact kept (noteDataAck_numbers _) rfl (Or.inl rfl)
      | skip len => exact kept (sendSegment_numbers _ _ _ _ _) rfl (Or.inl rfl)
      | takeFin =>
          refine kept (takeFin_numbers c) ?_ (Or.inl ?_)
          · change (takeFin c).flow.sndNxt = _
            unfold takeFin
            split <;> rfl
          · change (takeFin c).flow.finSent = _
            unfold takeFin
            split <;> rfl
      | next | accept | probeAck | fin => cases still
      | _ => cases renumbers

theorem Sent.apply {base : UInt32} {c : Conn} {total : ℕ × ℕ} (sent : Sent base c total)
    (coordinated : Coordinated c) (effect : Effect) (permits : c.Permits effect) :
    Sent base (c.apply effect) (total + sentBy c effect) := by
  cases emits : effect.emits with
  | false =>
      have nothing : sentBy c effect = 0 := by
        cases effect <;> first | rfl | cases emits
      have same := apply_sent c effect emits permits
      rw [nothing, add_zero]
      refine ⟨same.1.trans sent.sndNxt, ?_⟩
      rcases same.2 with finSent | finSent
      · rw [finSent]
        exact sent.once
      · rw [finSent]
        exact sent.once.trans (Bool.toNat_le _)
  | true =>
      cases effect with
      | next inFlight =>
          have numbers := next_numbers c inFlight
          exact sent.data _ (congrArg Numbers.sndNxt numbers) (congrArg Numbers.finSent numbers)
      | accept =>
          have waiting : c.flow.state = .synRcvd := permits
          have first := (coordinated.fresh waiting).sndNxt
          have numbers := acceptFlow_numbers c waiting
          refine sent.data 1 ((congrArg Numbers.sndNxt numbers).trans ?_)
            (congrArg Numbers.finSent numbers)
          rw [first]
          rfl
      | probeAck ack =>
          have numbers := acceptProbe_numbers c ack
          refine sent.data 1 ((congrArg Numbers.sndNxt numbers).trans ?_)
            (congrArg Numbers.finSent numbers)
          exact permits.2
      | fin =>
          have numbers := emitFin_numbers { c with flow.finSent := true } c.flow.state.finished
          have once := sent.once
          rw [permits.2.1] at once
          refine ⟨(congrArg Numbers.sndNxt numbers).trans ?_, ?_⟩
          · change c.flow.sndNxt + 1 = _
            rw [sent.sndNxt]
            simp [sentBy, UInt32.ofNat_add, UInt32.add_assoc]
          · have finSent : (c.apply .fin).flow.finSent = true := congrArg Numbers.finSent numbers
            rw [finSent]
            simpa [sentBy] using once
      | _ => cases emits

/-! Runs. -/

theorem openFlow_coordinated (eng : TcpEngine) (id : FlowId) (key : FiveTuple) (th : TcpHeader)
    (payload data : List UInt8) (iss : UInt32) :
    (openFlow eng id key th payload data iss).flow.state = .synRcvd ∧
      Coordinated (openFlow eng id key th payload data iss) := by
  have opened (c : Conn) (state : c.flow.state = .synRcvd)
      (flags : c.flow.finSent = false ∧ c.flow.finReceived = false) (fresh : Fresh c.flow) :
      (notifyAccept c).flow.state = .synRcvd ∧ Coordinated (notifyAccept c) := by
    have notified : (notifyAccept c).flow.state = c.flow.state ∧
        (notifyAccept c).flow.numbers = c.flow.numbers ∧
        (notifyAccept c).flow.send = c.flow.send :=
      ⟨apply_state c .notify rfl, apply_numbers c .notify rfl, apply_send c .notify rfl⟩
    have waiting := notified.1.trans state
    refine ⟨waiting, ?_, fun _ => ⟨?_, ?_, ?_⟩⟩
    · rw [Agrees, waiting]
      exact ⟨(congrArg Numbers.finSent notified.2.1).trans flags.1,
        (congrArg Numbers.finReceived notified.2.1).trans flags.2⟩
    · exact (congrArg SendView.sndNxt notified.2.2).trans
        (fresh.sndNxt.trans (congrArg SendView.iss notified.2.2).symm)
    · exact (congrArg SendView.activeWrite notified.2.2).trans fresh.noWrite
    · exact (congrArg SendView.probeInFlight notified.2.2).trans fresh.noProbe
  unfold openFlow
  dsimp only
  unfold takeSynData
  split
  · split
    · exact opened _ rfl ⟨rfl, rfl⟩ ⟨rfl, rfl, rfl⟩
    · exact opened _ rfl ⟨rfl, rfl⟩ ⟨rfl, rfl, rfl⟩
  · exact opened _ rfl ⟨rfl, rfl⟩ ⟨rfl, rfl, rfl⟩

theorem run_path (c : Conn) (events : List Event) :
    Steps flowMachine (fun _ _ => True) c (run c events) :=
  run_keeps (Steps flowMachine (fun _ _ => True) c)
    (fun _ effect path permits => path.snoc effect permits trivial) c events (Steps.refl c)

theorem step_edges (c : Conn) (event : Event) :
    Relation.ReflTransGen Edge c.flow.state (step c event).flow.state := by
  refine step_keeps (fun d => Relation.ReflTransGen Edge c.flow.state d.flow.state) ?_ c event
    Relation.ReflTransGen.refl
  intro d effect edges permits
  rcases apply_edge d effect permits with same | edge
  · rw [same]
    exact edges
  · exact edges.tail edge

/-- The state machine of a flow in every state of every run: the FIN flags agree with the
state, a step takes edges only, the states of the handshake are not entered again, and each
of the two sequence numbers is advanced for at most one FIN. -/
theorem run_stateMachine (eng : TcpEngine) (id : FlowId) (key : FiveTuple) (th : TcpHeader)
    (payload data : List UInt8) (iss : UInt32) (events more : List Event) (event : Event) :
    let start := openFlow eng id key th payload data iss
    let c := run start events
    Coherent c.flow ∧
      Relation.ReflTransGen Edge c.flow.state (step c event).flow.state ∧
      (c.flow.state ≠ .synRcvd → (run c more).flow.state ≠ .synRcvd) ∧
      (c.flow.state ≠ .synRcvd ∧ c.flow.state ≠ .synAckSent →
        (run c more).flow.state ≠ .synRcvd ∧ (run c more).flow.state ≠ .synAckSent) ∧
      (∃ total, Weighed flowMachine receivedBy start total c ∧ total.2 ≤ 1 ∧
        c.flow.rcvNxt = start.flow.rcvNxt + UInt32.ofNat total.1 + UInt32.ofNat total.2) ∧
      (∃ total, Weighed flowMachine sentBy start total c ∧ total.2 ≤ 1 ∧
        c.flow.sndNxt = start.flow.sndNxt + UInt32.ofNat total.1 + UInt32.ofNat total.2) := by
  intro start c
  obtain ⟨waiting, coordinated⟩ := openFlow_coordinated eng id key th payload data iss
  have flags : start.flow.finSent = false ∧ start.flow.finReceived = false := by
    have agrees := coordinated.agrees
    rw [Agrees, waiting] at agrees
    exact agrees
  have reached : Coordinated c :=
    run_keeps Coordinated (fun _ effect holds permits => holds.apply effect permits) start events
      coordinated
  refine ⟨reached.agrees.coherent, step_edges c event, ?_, ?_, ?_, ?_⟩
  · intro left
    exact run_keeps (fun d => d.flow.state ≠ .synRcvd)
      (fun _ _ holds permits => apply_not_synRcvd permits holds) c more left
  · intro left
    exact run_keeps (fun d => d.flow.state ≠ .synRcvd ∧ d.flow.state ≠ .synAckSent)
      (fun _ _ holds permits => apply_not_synAckSent permits holds) c more left
  · obtain ⟨total, path⟩ := (run_path start events).weighed receivedBy
    have first : Received start.flow.rcvNxt start 0 := ⟨by simp, by simp [flags.2]⟩
    have received := path.invariant (Received start.flow.rcvNxt)
      (fun _ _ effect holds permits => holds.apply effect permits) 0 first
    rw [zero_add] at received
    refine ⟨total, path, ?_, received.rcvNxt⟩
    rw [received.once]
    exact Bool.toNat_le _
  · obtain ⟨total, path⟩ := (run_path start events).weighed sentBy
    have first : Coordinated start ∧ Sent start.flow.sndNxt start 0 :=
      ⟨coordinated, by simp, by simp⟩
    have sent := path.invariant (fun d total => Coordinated d ∧ Sent start.flow.sndNxt d total)
      (fun _ _ effect holds permits =>
        ⟨holds.1.apply effect permits, holds.2.apply holds.1 effect permits⟩) 0 first
    rw [zero_add] at sent
    exact ⟨total, path, sent.2.once.trans (Bool.toNat_le _), sent.2.sndNxt⟩

end Tunio
