import Tunio.Closed
import Tunio.World

/-!
What an operation on one flow does to the tables of the engine: to the flow table, to the
queues of `async_accept` and to the connection counter.
-/

namespace Tunio

open Machines

instance (state : TcpState) : Decidable (Past state) := inferInstanceAs (Decidable (_ ∧ _ ∧ _))

/-- What a flow in a state adds to the connection counter. -/
def seat (state : TcpState) : Nat := if Past state then 1 else 0

structure TableView where
  id : FlowId
  key : FiveTuple
  accepted : Bool
  cfg : TunConfig
  pendingAccepts : List HandlerId
  pendingFlows : List FlowId
  accepts : List AcceptCompletion
  flows : List (FiveTuple × FlowId)
  tcpConnections : Nat

def Conn.tables (c : Conn) : TableView := {
  id := c.flow.id
  key := c.flow.key
  accepted := c.flow.accepted
  cfg := c.eng.cfg
  pendingAccepts := c.eng.pendingAccepts
  pendingFlows := c.eng.pendingFlows
  accepts := c.eng.accepts
  flows := c.eng.flows
  tcpConnections := c.eng.stats.tcpConnections
}

/-- The tables after the flow has left them. -/
def Conn.departed (c : Conn) : TableView :=
  { c.tables with
    pendingFlows :=
      if c.flow.pendingAccept then c.eng.pendingFlows.erase c.flow.id else c.eng.pendingFlows
    flows := c.eng.flows.filter fun entry => entry.1 ≠ c.flow.key
    tcpConnections :=
      if c.flow.state ≠ .synRcvd ∧ c.flow.state ≠ .synAckSent then
        sizeSub c.eng.stats.tcpConnections 1
      else c.eng.stats.tcpConnections }

@[simp] theorem sendSegment_tables (c : Conn) (seq : UInt32) (flags : UInt8)
    (payload : List UInt8) (withMss : Bool) :
    (sendSegment c seq flags payload withMss).tables = c.tables := by
  unfold sendSegment
  split <;> rfl

@[simp] theorem compactRx_tables (c : Conn) : (compactRx c).tables = c.tables := by
  unfold compactRx
  split <;> rfl

theorem dropReceived_tables (c : Conn) : (dropReceived c).tables = c.tables := by
  unfold dropReceived
  dsimp only
  split <;> split <;> rfl

theorem closeFlow_tables (c : Conn) (err : ErrorCode) (isOpen : c.flow.state ≠ .closed) :
    (closeFlow c err).tables = c.departed := by
  have completed (c : Conn) (read : Option ReadOp) (write : Option WriteOp) :
      (completeWrite (completeRead c read err) write err).tables = c.tables := by
    cases read <;> cases write <;> rfl
  have shut (c : Conn) : (closeWriteCh c).tables = c.tables := by
    unfold closeWriteCh
    split <;> rfl
  have dropped (c : Conn) : (dropReceived c).departed = c.departed := by
    unfold dropReceived
    dsimp only
    split <;> split <;> rfl
  have detached (c : Conn) (alone : c.flow.pendingAccept = false) :
      (detachFlow (uncountFlow c)).tables = c.departed := by
    unfold uncountFlow Conn.departed
    rw [alone]
    split <;> rfl
  have cancelled : (cancelAckTimer c).departed = c.departed := by
    unfold cancelAckTimer
    split <;> rfl
  have withdrawn : (withdrawAccept (cancelAckTimer c)).departed = c.departed := by
    rw [← cancelled]
    unfold withdrawAccept
    split
    · rename_i pending
      unfold Conn.departed
      rw [if_pos pending]
      rfl
    · rfl
  have alone := withdrawAccept_withdrawn (cancelAckTimer c)
  unfold closeFlow
  rw [if_neg isOpen]
  dsimp only
  generalize withdrawAccept (cancelAckTimer c) = c₁ at withdrawn alone ⊢
  rw [completed, shut, detached, dropped]
  · exact withdrawn
  · unfold dropReceived
    dsimp only
    split <;> split <;> exact alone

theorem abortFlow_tables (c : Conn) (isOpen : c.flow.state ≠ .closed) :
    (abortFlow c).tables = c.departed := by
  have sent : (sendSegment c c.flow.sndNxt (tcpRst ||| tcpAck) [] false).departed = c.departed := by
    unfold sendSegment
    split <;> rfl
  have state := sendSegment_state c c.flow.sndNxt (tcpRst ||| tcpAck) [] false
  unfold abortFlow
  rw [if_neg isOpen]
  dsimp only
  generalize sendSegment c c.flow.sndNxt (tcpRst ||| tcpAck) [] false = sent_ at sent state ⊢
  rw [closeFlow_tables _ _ (state ▸ isOpen)]
  exact sent

/-- The effects that change the tables. -/
def Effect.enrols : Effect → Bool
  | .establish | .notify | .handOut | .giveUp | .abort | .resetBy | .close _ | .elsewhere _ => true
  | _ => false

theorem apply_tables (c : Conn) (effect : Effect) (still : effect.enrols = false) :
    (c.apply effect).tables = c.tables := by
  cases effect with
  | submit seq flags payload withMss => exact sendSegment_tables c _ _ _ _
  | next inFlight =>
      unfold Conn.apply
      dsimp only
      split
      · unfold buildNextSegment
        dsimp only
        split
        · rfl
        · split <;> rfl
      · rfl
  | accept =>
      change (acceptFlow c).tables = c.tables
      unfold acceptFlow
      split
      · rfl
      · exact sendSegment_tables c _ _ _ _
  | fin => exact sendSegment_tables _ _ _ _ _
  | finAcked =>
      unfold Conn.apply
      dsimp only
      split <;> rfl
  | probeAck ack =>
      change (acceptProbe c ack).tables = c.tables
      unfold acceptProbe
      dsimp only
      split
      · split <;> rfl
      · rfl
  | direct op account data =>
      have filled : (fillRead { c with eng.account := account } op data).tables = c.tables := by
        unfold fillRead
        dsimp only
        split <;> rfl
      have idle : (fillRead { c with eng.account := account } op data).flow.activeRead = none := by
        unfold fillRead
        dsimp only
        split <;> rfl
      change (deliverDirect { c with eng.account := account } op data).tables = c.tables
      unfold deliverDirect
      dsimp only
      split
      · exact filled
      · refine (sendSegment_tables _ _ _ _ _).trans ?_
        split
        · rw [flushReads_idle _ idle]
          exact (compactRx_tables _).trans filled
        · exact filled
  | buffer account data =>
      change (noteDataAck _).tables = _
      unfold noteDataAck
      split
      · exact sendSegment_tables _ _ _ _ _
      · rfl
  | skip len => exact sendSegment_tables _ _ _ _ _
  | takeFin =>
      have taken : (takeFin c).tables = c.tables := by
        unfold takeFin
        split <;> rfl
      have sent := (sendSegment_tables (takeFin c) (takeFin c).flow.sndNxt tcpAck [] false).trans taken
      change (finState (sendAck (takeFin c))).tables = c.tables
      unfold finState
      split <;> exact sent
  | compact => exact compactRx_tables c
  | append seq data fin =>
      change (oooAppend c seq data fin).1.tables = c.tables
      unfold oooAppend appendFin appendData
      dsimp only
      repeat' split
      all_goals rfl
  | discard key seg =>
      change (discardOoo c key seg).tables = c.tables
      unfold discardOoo
      dsimp only
      split <;> rfl
  | drop => exact dropReceived_tables c
  | closeChannel =>
      change (closeWriteCh c).tables = c.tables
      unfold closeWriteCh
      split <;> rfl
  | ackTimerExpires =>
      change (ackTimerExpires c).tables = c.tables
      unfold ackTimerExpires
      split
      · split <;> rfl
      · rfl
  | ackTimerRuns =>
      change (ackTimerRuns c).tables = c.tables
      unfold ackTimerRuns
      split
      · split
        · dsimp only
          split
          · rfl
          · exact sendSegment_tables _ _ _ _ _
        · rfl
      · rfl
  | establish | notify | handOut | giveUp | abort | resetBy | close | elsewhere => cases still
  | _ => rfl

/-- What is left of a flow in the tables: its entry while it is open, nothing afterwards. -/
structure Books (before after : Conn) : Prop where
  id : after.flow.id = before.flow.id
  key : after.flow.key = before.flow.key
  accepted : after.flow.accepted = before.flow.accepted
  cfg : after.eng.cfg = before.eng.cfg
  pendingAccepts : after.eng.pendingAccepts = before.eng.pendingAccepts
  accepts : after.eng.accepts = before.eng.accepts
  stays : after.flow.state ≠ .closed → after.eng.flows = before.eng.flows ∧
    after.eng.pendingFlows = before.eng.pendingFlows ∧
    after.eng.stats.tcpConnections + seat before.flow.state =
      before.eng.stats.tcpConnections + seat after.flow.state
  leaves : after.flow.state = .closed → Settled after.flow ∧
    (after.eng.flows = before.eng.flows.filter fun entry => entry.1 ≠ before.flow.key) ∧
    after.eng.pendingFlows = before.eng.pendingFlows.erase before.flow.id ∧
    after.eng.stats.tcpConnections + seat before.flow.state = before.eng.stats.tcpConnections

theorem seat_le (state : TcpState) : seat state ≤ 1 := by
  unfold seat
  split <;> omega

theorem seat_open {state : TcpState} (isOpen : state ≠ .closed) :
    seat state = if state ≠ .synRcvd ∧ state ≠ .synAckSent then 1 else 0 := by
  cases state <;> first | rfl | exact absurd rfl isOpen

/-- A flow that is counted. -/
def Counted (c : Conn) : Prop := seat c.flow.state ≤ c.eng.stats.tcpConnections

theorem Books.refl (c : Conn) (isOpen : c.flow.state ≠ .closed) : Books c c :=
  ⟨rfl, rfl, rfl, rfl, rfl, rfl, fun _ => ⟨rfl, rfl, rfl⟩, fun closed => absurd closed isOpen⟩

/-- The counter without an open flow. -/
theorem departed_tcpConnections (c : Conn) (isOpen : c.flow.state ≠ .closed) (counted : Counted c) :
    c.departed.tcpConnections + seat c.flow.state = c.eng.stats.tcpConnections := by
  have least : seat c.flow.state ≤ c.eng.stats.tcpConnections := counted
  have value := seat_open isOpen
  unfold Conn.departed
  dsimp only
  split
  · rename_i past
    rw [if_pos past] at value
    rw [sizeSub, if_pos (by omega)]
    omega
  · rename_i early
    rw [if_neg early] at value
    omega

/-- Closing an open flow. -/
theorem Books.depart {before c after : Conn} (books : Books before c)
    (isOpen : c.flow.state ≠ .closed) (counted : Counted before)
    (waits : c.flow.pendingAccept = true ∨ before.flow.id ∉ before.eng.pendingFlows)
    (departed : after.tables = c.departed) (settled : Settled after.flow) : Books before after := by
  obtain ⟨flows, pendingFlows, balance⟩ := books.stays isOpen
  have enough : Counted c := by
    have := seat_le before.flow.state
    unfold Counted at *
    omega
  have counter := departed_tcpConnections c isOpen enough
  refine ⟨(congrArg TableView.id departed).trans books.id,
    (congrArg TableView.key departed).trans books.key,
    (congrArg TableView.accepted departed).trans books.accepted,
    (congrArg TableView.cfg departed).trans books.cfg,
    (congrArg TableView.pendingAccepts departed).trans books.pendingAccepts,
    (congrArg TableView.accepts departed).trans books.accepts,
    fun stillOpen => absurd settled.closed stillOpen, fun _ => ⟨settled, ?_, ?_, ?_⟩⟩
  · refine (congrArg TableView.flows departed).trans ?_
    show (c.eng.flows.filter fun entry => entry.1 ≠ c.flow.key) = _
    rw [flows, books.key]
  · refine (congrArg TableView.pendingFlows departed).trans ?_
    show (if c.flow.pendingAccept then c.eng.pendingFlows.erase c.flow.id
      else c.eng.pendingFlows) = _
    rw [pendingFlows, books.id]
    split
    · rfl
    · rename_i alone
      exact (List.erase_of_not_mem (waits.resolve_left alone)).symm
  · have same := congrArg TableView.tcpConnections departed
    have connections : after.eng.stats.tcpConnections = c.departed.tcpConnections := same
    omega

theorem apply_seat {c : Conn} (effect : Effect) (permits : c.Permits effect)
    (still : effect.enrols = false) (isOpen : c.flow.state ≠ .closed) :
    (c.apply effect).flow.state ≠ .closed ∧
      seat (c.apply effect).flow.state = seat c.flow.state := by
  cases moves : effect.moves with
  | false =>
      rw [apply_state c effect moves]
      exact ⟨isOpen, rfl⟩
  | true =>
      cases effect with
      | accept =>
          have waiting : c.flow.state = .synRcvd := permits
          have accepted : (c.apply .accept).flow.state = .synAckSent := by
            simp [Conn.apply, acceptFlow, waiting]
          rw [accepted, waiting]
          decide
      | fin =>
          have state : (c.apply .fin).flow.state = c.flow.state.finished := emitFin_state _ _
          rw [state]
          rcases permits.1 with here | here <;> rw [here] <;> decide
      | finAcked =>
          have waiting : c.flow.state = .finWait1 := permits.1
          have next : (c.apply .finAcked).flow.state = .timeWait ∨
              (c.apply .finAcked).flow.state = .finWait2 := by
            unfold Conn.apply
            dsimp only
            split
            · exact Or.inl rfl
            · exact Or.inr rfl
          rcases next with state | state <;> rw [state, waiting] <;> decide
      | takeFin =>
          rw [takeFin_state c]
          have past : Past c.flow.state := permits
          revert isOpen past
          cases c.flow.state <;> decide
      | establish | giveUp | abort | resetBy | close => cases still
      | _ => cases moves

/-- A settled flow does nothing to the tables. -/
theorem Settled.tables {c : Conn} (settled : Settled c.flow) (effect : Effect)
    (permits : c.Permits effect) (inside : Inside c effect) :
    (c.apply effect).tables = c.tables := by
  have closed := settled.closed
  cases enrols : effect.enrols with
  | false => exact apply_tables c effect enrols
  | true =>
      cases effect with
      | establish => exact absurd permits (by simp [Conn.Permits, closed])
      | notify => exact absurd permits.1 (by simp [closed])
      | handOut =>
          change (handOut c).tables = c.tables
          unfold handOut
          rw [settled.pendingAccept]
          rfl
      | giveUp => exact absurd permits (by simp [Conn.Permits, closed])
      | abort => exact congrArg Conn.tables (abortFlow_closed c closed)
      | resetBy =>
          have same := closeFlow_closed { c with flow.rst := true } .connectionReset closed
          change (closeFlow { c with flow.rst := true } .connectionReset).tables = c.tables
          rw [same]
          rfl
      | close err => exact congrArg Conn.tables (closeFlow_closed c err closed)
      | elsewhere => cases inside
      | _ => cases enrols

/-- An open flow goes on with the same tables, but for its seat. -/
theorem Books.stay {before c after : Conn} (books : Books before c) (isOpen : c.flow.state ≠ .closed)
    (stillOpen : after.flow.state ≠ .closed) (taken : Nat)
    (same : after.tables = { c.tables with tcpConnections := taken })
    (seats : taken + seat c.flow.state = c.eng.stats.tcpConnections + seat after.flow.state) :
    Books before after := by
  obtain ⟨flows, pendingFlows, balance⟩ := books.stays isOpen
  refine ⟨(congrArg TableView.id same).trans books.id, (congrArg TableView.key same).trans books.key,
    (congrArg TableView.accepted same).trans books.accepted,
    (congrArg TableView.cfg same).trans books.cfg,
    (congrArg TableView.pendingAccepts same).trans books.pendingAccepts,
    (congrArg TableView.accepts same).trans books.accepts,
    fun _ => ⟨(congrArg TableView.flows same).trans flows,
      (congrArg TableView.pendingFlows same).trans pendingFlows, ?_⟩,
    fun closed => absurd closed stillOpen⟩
  have connections : after.eng.stats.tcpConnections = taken :=
    congrArg TableView.tcpConnections same
  omega

/-- One effect on the tables, for a flow that an application has. -/
theorem Books.apply {before c : Conn} (books : Books before c) (effect : Effect)
    (permits : c.Permits effect) (inside : Inside c effect) (counted : Counted before)
    (accepted : before.flow.accepted = true) (absent : before.flow.id ∉ before.eng.pendingFlows) :
    Books before (c.apply effect) := by
  by_cases closed : c.flow.state = .closed
  · obtain ⟨settled, flows, pendingFlows, balance⟩ := books.leaves closed
    have same := settled.tables effect permits inside
    have inert := settled.apply effect permits inside
    refine ⟨(congrArg TableView.id same).trans books.id,
      (congrArg TableView.key same).trans books.key,
      (congrArg TableView.accepted same).trans books.accepted,
      (congrArg TableView.cfg same).trans books.cfg,
      (congrArg TableView.pendingAccepts same).trans books.pendingAccepts,
      (congrArg TableView.accepts same).trans books.accepts,
      fun isOpen => absurd inert.settled.closed isOpen, fun _ => ⟨inert.settled, ?_⟩⟩
    rw [inert.eng]
    exact ⟨flows, pendingFlows, balance⟩
  · cases enrols : effect.enrols with
    | false =>
        obtain ⟨stillOpen, seats⟩ := apply_seat effect permits enrols closed
        exact books.stay closed stillOpen c.eng.stats.tcpConnections
          (apply_tables c effect enrols) (by rw [seats])
    | true =>
        cases effect with
        | establish =>
            have waiting : c.flow.state = .synAckSent := permits
            have stillOpen : (c.apply .establish).flow.state ≠ .closed := by
              intro shut
              cases shut
            refine books.stay closed stillOpen (c.eng.stats.tcpConnections + 1) rfl ?_
            rw [waiting]
            rfl
        | notify => exact absurd (books.accepted.trans accepted) (ne_true_of_eq_false permits.2)
        | handOut =>
            have same : (handOut c).tables = c.tables := by
              unfold handOut
              dsimp only
              rw [if_neg closed]
              split
              · have here := books.accepted.trans accepted
                unfold Conn.tables
                dsimp only
                rw [here]
              · rfl
            have state := apply_state c .handOut rfl
            exact books.stay closed (state ▸ closed) c.eng.stats.tcpConnections same (by rw [state])
        | giveUp =>
            exact books.depart closed counted (Or.inr absent)
              (abortFlow_tables { c with flow.finSent := true } closed)
              (abortFlow_settled { c with flow.finSent := true } closed)
        | abort =>
            exact books.depart closed counted (Or.inr absent) (abortFlow_tables c closed)
              (abortFlow_settled c closed)
        | resetBy =>
            exact books.depart closed counted (Or.inr absent)
              (closeFlow_tables { c with flow.rst := true } _ closed)
              (closeFlow_settled { c with flow.rst := true } _ closed)
        | close err =>
            exact books.depart closed counted (Or.inr absent) (closeFlow_tables c err closed)
              (closeFlow_settled c err closed)
        | elsewhere => cases inside
        | _ => cases enrols

theorem Books.path {before after : Conn} (path : Steps flowMachine Inside before after)
    (isOpen : before.flow.state ≠ .closed) (counted : Counted before)
    (accepted : before.flow.accepted = true) (absent : before.flow.id ∉ before.eng.pendingFlows) :
    Books before after :=
  path.invariant (Books before) (Books.refl before isOpen)
    fun _ effect books permits inside => books.apply effect permits inside counted accepted absent

/-- A flow no application has yet: its handshake has not begun. -/
structure Waits (record : FlowRecord) : Prop where
  state : record.flow.state = .synRcvd
  accepted : record.flow.accepted = false
  pendingAccept : record.flow.pendingAccept = true
  finPending : record.flow.finPending = false
  ackTimer : record.flow.ackTimer = none
  loops : record.loops = []

/-- An operation on an open flow: a flow that waited waits on unless it was closed. -/
structure Handled (before after : Conn) : Prop where
  books : Books before after
  waits : after.flow.state ≠ .closed → after.flow.accepted = false → Waits after.toFlowRecord

theorem Handled.path {before after : Conn} (path : Steps flowMachine Inside before after)
    (isOpen : before.flow.state ≠ .closed) (counted : Counted before)
    (accepted : before.flow.accepted = true) (absent : before.flow.id ∉ before.eng.pendingFlows) :
    Handled before after := by
  have books := Books.path path isOpen counted accepted absent
  exact ⟨books, fun _ waits => absurd (books.accepted.trans accepted) (ne_true_of_eq_false waits)⟩

namespace Waits

theorem isOpen {record : FlowRecord} (waits : Waits record) : record.flow.state ≠ .closed := by
  rw [waits.state]
  decide

theorem counted {c : Conn} (waits : Waits c.toFlowRecord) : Counted c := by
  unfold Counted
  rw [waits.state]
  exact Nat.zero_le _

theorem same {c : Conn} (waits : Waits c.toFlowRecord) : Handled c c :=
  ⟨Books.refl c waits.isOpen, fun _ _ => waits⟩

/-- Nothing but closing changes the tables. -/
theorem rest {before after : Conn} (waits : Waits before.toFlowRecord)
    (still : Waits after.toFlowRecord) (same : after.tables = before.tables) :
    Handled before after := by
  have books := (Books.refl before waits.isOpen).stay waits.isOpen still.isOpen
    before.eng.stats.tcpConnections same (by rw [still.state, waits.state])
  exact ⟨books, fun _ _ => still⟩

theorem depart {before c after : Conn} (waits : Waits before.toFlowRecord)
    (handled : Handled before c) (still : Waits c.toFlowRecord) (departed : after.tables = c.departed)
    (settled : Settled after.flow) : Handled before after :=
  ⟨handled.books.depart still.isOpen waits.counted (Or.inl still.pendingAccept) departed settled,
    fun isOpen => absurd settled.closed isOpen⟩

theorem closeFlow {c : Conn} (waits : Waits c.toFlowRecord) (err : ErrorCode) :
    Handled c (closeFlow c err) :=
  waits.depart waits.same waits (closeFlow_tables c err waits.isOpen)
    (closeFlow_settled c err waits.isOpen)

theorem abortFlow {c : Conn} (waits : Waits c.toFlowRecord) : Handled c (abortFlow c) :=
  waits.depart waits.same waits (abortFlow_tables c waits.isOpen)
    (abortFlow_settled c waits.isOpen)

theorem sweepFlow {c : Conn} (waits : Waits c.toFlowRecord) : Handled c (sweepFlow c) := by
  have state : c.flow.state = .synRcvd := waits.state
  unfold Tunio.sweepFlow
  dsimp only
  split
  · exact waits.abortFlow
  · rw [if_neg (by simp [state]), if_neg (by simp [state]), if_neg (by simp [state])]
    exact waits.same

/-- An acknowledgement moves at most the numbers of the flow. -/
theorem advanceUna {c : Conn} (waits : Waits c.toFlowRecord) (ack : UInt32) :
    Waits (advanceUna c ack).toFlowRecord ∧ (Tunio.advanceUna c ack).tables = c.tables := by
  unfold Tunio.advanceUna
  split
  · exact ⟨{ waits with }, rfl⟩
  · split
    · unfold acceptProbe
      dsimp only
      split
      · split <;> exact ⟨{ waits with }, rfl⟩
      · exact ⟨{ waits with }, rfl⟩
    · exact ⟨waits, rfl⟩

theorem handleAck {c : Conn} (waits : Waits c.toFlowRecord) (ack : UInt32) :
    Tunio.handleAck c ack = (clearProbe (Tunio.advanceUna c ack), true) := by
  have still := (waits.advanceUna ack).1
  have state : (clearProbe (Tunio.advanceUna c ack)).flow.state = .synRcvd := still.state
  have deferred : sendDeferredFin (clearProbe (Tunio.advanceUna c ack)) =
      clearProbe (Tunio.advanceUna c ack) := by
    have finPending : (clearProbe (Tunio.advanceUna c ack)).flow.finPending = false :=
      still.finPending
    unfold sendDeferredFin
    rw [if_neg (by simp [finPending])]
  unfold Tunio.handleAck
  rw [deferred]
  unfold confirmFin
  rw [if_neg (by simp [state]), if_neg (by simp [state])]

theorem handleAckField {c : Conn} (waits : Waits c.toFlowRecord) (th : TcpHeader) :
    ∃ after, Tunio.handleAckField c th = (after, true) ∧ Waits after.toFlowRecord ∧
      after.tables = c.tables := by
  unfold Tunio.handleAckField
  split
  · rw [waits.handleAck]
    obtain ⟨still, same⟩ := waits.advanceUna th.ack
    generalize Tunio.advanceUna c th.ack = moved at still same
    refine ⟨updatePeerWnd (clearProbe moved) th, rfl, ?_, same⟩
    exact ⟨still.state, still.accepted, still.pendingAccept, still.finPending, still.ackTimer,
      still.loops⟩
  · exact ⟨c, rfl, waits, rfl⟩

theorem handleSegment {c : Conn} (waits : Waits c.toFlowRecord) (th : TcpHeader)
    (data : List UInt8) : Handled c (handleSegment c th data) := by
  obtain ⟨after, result, still, same⟩ := waits.handleAckField th
  have rested := waits.rest still same
  unfold Tunio.handleSegment
  rw [result]
  dsimp only
  split
  · exact waits.depart rested still
      (closeFlow_tables { after with flow.rst := true } _ still.isOpen)
      (closeFlow_settled { after with flow.rst := true } _ still.isOpen)
  · unfold handleByState
    rw [still.state]
    exact rested

theorem task {c : Conn} (waits : Waits c.toFlowRecord) (task : FlowTask) :
    step c task.event = c := by
  have none (index : Nat) : c.loops[index]? = none := by
    rw [show c.loops = [] from waits.loops]
    rfl
  cases task with
  | timer index =>
      change timerFires c index = c
      unfold timerFires
      rw [none]
  | resume index =>
      change resumeLoop c index = c
      unfold resumeLoop
      rw [none]
  | device index failed =>
      change deviceDone c index failed = c
      unfold deviceDone
      rw [none]
  | ackTimerExpires =>
      change ackTimerExpires c = c
      unfold ackTimerExpires
      rw [waits.ackTimer]
  | ackTimerRuns =>
      change ackTimerRuns c = c
      unfold ackTimerRuns
      rw [waits.ackTimer]

end Waits

/-- The effects of a flow itself, with at most `len` bytes to cache. -/
def Modest (len : Nat) (_ : Conn) : Effect → Prop
  | .elsewhere _ => False
  | .append _ data _ => data.length ≤ len
  | _ => True

theorem Modest.inside {len : Nat} {before after : Conn}
    (path : Steps flowMachine (Modest len) before after) : Steps flowMachine Inside before after := by
  refine path.weaken fun c effect modest => ?_
  cases effect <;> trivial

theorem Unfolds.modest {len : Nat} {scope : Scope} {before after : Conn}
    (path : Unfolds len scope before after) : Steps flowMachine (Modest len) before after := by
  refine path.weaken fun c effect ⟨plain, _⟩ => ?_
  cases effect with
  | append seq data fin =>
      have small : data.length ≤ len := of_decide_eq_true plain
      exact small
  | elsewhere eng => cases plain
  | _ => trivial

/-- A call or a task brings no bytes of the peer with it. -/
theorem step_modest {c : Conn} {event : Event} (own : event.isElsewhere = false)
    (sizeless : event.size = 0) (len : Nat) : Steps flowMachine (Modest len) c (step c event) := by
  have evolves := step_evolves c event (sizeless.trans_le (Nat.zero_le len))
  have begins {scope : Scope} {begins : Effect → Prop}
      (once : Begins len scope begins c (step c event))
      (modest : ∀ c effect, begins effect → Modest len c effect) :
      Steps flowMachine (Modest len) c (step c event) := by
    obtain ⟨middle, effect, first, permits, begun, rest⟩ := once
    exact (first.modest.snoc effect permits (modest middle effect begun)).trans rest.modest
  cases event with
  | read buffers handler =>
      refine begins evolves fun c effect begun => ?_
      cases effect <;> trivial
  | write buffers handler =>
      refine begins evolves fun c effect begun => ?_
      cases effect <;> trivial
  | elsewhere eng => cases own
  | _ => exact Unfolds.modest evolves

/-- An operation on a flow: a path of effects, of which one that waits sees little. -/
structure Operates (len : Nat) (before after : Conn) : Prop where
  path : Steps flowMachine (Modest len) before after
  waits : Waits before.toFlowRecord → Handled before after

namespace Operates

variable {len : Nat}

theorem closeFlow (c : Conn) (err : ErrorCode) (proper : err ≠ .eof) :
    Operates len c (closeFlow c err) := by
  have path : Unfolds len .operation c (Tunio.closeFlow c err) := Unfolds.closeFlow c err proper
  exact ⟨path.modest, fun waits => waits.closeFlow err⟩

theorem sweepFlow (c : Conn) : Operates len c (sweepFlow c) := by
  have path : Unfolds len .operation c (Tunio.sweepFlow c) := Unfolds.sweepFlow c
  exact ⟨path.modest, fun waits => waits.sweepFlow⟩

theorem handleSegment (c : Conn) (th : TcpHeader) (data : List UInt8) (small : data.length ≤ len) :
    Operates len c (handleSegment c th data) := by
  have path : Unfolds len .operation c (Tunio.handleSegment c th data) :=
    Unfolds.handleSegment c th data small
  exact ⟨path.modest, fun waits => waits.handleSegment th data⟩

theorem task (c : Conn) (task : FlowTask) : Operates len c (step c task.event) := by
  refine ⟨step_modest (by cases task <;> rfl) (by cases task <;> rfl) len, fun waits => ?_⟩
  rw [waits.task]
  exact waits.same

theorem call {c : Conn} (accepted : c.flow.accepted = true) (call : SocketCall) :
    Operates len c (step c call.event) :=
  ⟨step_modest (by cases call <;> rfl) (by cases call <;> rfl) len,
    fun waits => absurd accepted (ne_true_of_eq_false waits.accepted)⟩

end Operates

end Tunio
