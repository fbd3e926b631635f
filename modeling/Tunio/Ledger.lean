import Tunio.Capacity
import Tunio.FlowTable

/-!
The shared budget.  What a flow has queued or cached is reserved there; it is given back when
the application reads it, when it is thrown away and when the flow is closed.
-/

namespace Tunio

open Directory Machines

namespace BufferAccountant

variable {account after : BufferAccountant} {n : Nat}

theorem reserve_some (reserved : account.reserve n = some after) :
    after = { account with used := account.used + n } ∧ account.used + n ≤ account.limit := by
  unfold reserve at reserved
  split at reserved
  · cases reserved
  · exact ⟨(Option.some.inj reserved).symm, by omega⟩

theorem reserve_room (room : account.used + n ≤ account.limit) :
    account.reserve n = some { account with used := account.used + n } := by
  unfold reserve
  rw [if_neg (by omega)]

theorem release_eq (held : n ≤ account.used) :
    account.release n = { account with used := account.used - n } := by
  unfold release sizeSub
  rw [if_pos held]

end BufferAccountant

/-! What the effects take from the budget. -/

/-- The effects that take from the budget or give back to it. -/
def Effect.settles : Effect → Bool
  | .direct _ _ _ | .buffer _ _ | .serve _ | .append _ _ _ | .discard _ _ | .remove _ _ | .drop
  | .giveUp | .abort | .resetBy | .close _ | .elsewhere _ => true
  | _ => false

theorem sendAck_budget (c : Conn) : (sendAck c).budget = c.budget := sendSegment_budget c _ _ _ _

theorem compactRx_budget (c : Conn) : (compactRx c).budget = c.budget := by
  unfold compactRx
  split <;> rfl

theorem notifyWindowUpdated_budget (c : Conn) : (notifyWindowUpdated c).budget = c.budget := by
  unfold notifyWindowUpdated
  split
  · rfl
  · dsimp only
    split
    · exact sendAck_budget c
    · rfl

theorem notifyAccept_budget (c : Conn) : (notifyAccept c).budget = c.budget := by
  unfold notifyAccept
  split <;> rfl

theorem closeWriteCh_budget (c : Conn) : (closeWriteCh c).budget = c.budget := by
  unfold closeWriteCh
  split <;> rfl

theorem apply_budget (c : Conn) (effect : Effect) (still : effect.settles = false) :
    (c.apply effect).budget = c.budget := by
  cases effect with
  | submit seq flags payload withMss => exact sendSegment_budget c _ _ _ _
  | next inFlight =>
      unfold Conn.apply
      dsimp only
      split
      · unfold buildNextSegment
        dsimp only
        split
        · rfl
        · split <;> rfl
      · rfl
  | accept =>
      change (acceptFlow c).budget = c.budget
      unfold acceptFlow
      split
      · rfl
      · exact sendSegment_budget c _ _ _ _
  | notify => exact notifyAccept_budget c
  | handOut =>
      change (handOut c).budget = c.budget
      unfold handOut
      dsimp only
      split
      · split <;> rfl
      · rfl
  | fin => exact sendSegment_budget { c with
      flow.finSent := true
      flow.state := c.flow.state.finished
      flow.closeStartedAt := c.eng.now } _ _ _ _
  | finAcked =>
      unfold Conn.apply
      dsimp only
      split <;> rfl
  | probeAck ack =>
      change (acceptProbe c ack).budget = c.budget
      unfold acceptProbe
      dsimp only
      split
      · split <;> rfl
      · rfl
  | skip len => exact sendSegment_budget _ _ _ _ _
  | takeFin =>
      have taken : (takeFin c).budget = c.budget := by
        unfold takeFin
        split <;> rfl
      have state (d : Conn) : (finState d).budget = d.budget := by
        unfold finState
        split <;> rfl
      exact (state _).trans ((sendAck_budget _).trans taken)
  | compact => exact compactRx_budget c
  | closeChannel => exact closeWriteCh_budget c
  | ackTimerExpires =>
      change (ackTimerExpires c).budget = c.budget
      unfold ackTimerExpires
      split
      · split <;> rfl
      · rfl
  | ackTimerRuns =>
      change (ackTimerRuns c).budget = c.budget
      unfold ackTimerRuns
      split
      · split
        · dsimp only
          split
          · rfl
          · exact sendAck_budget _
        · rfl
      · rfl
  | direct | buffer | serve | append | discard | remove | drop | giveUp | abort | resetBy | close
  | elsewhere => cases still
  | _ => rfl

/-- The budget without what the flow holds of it. -/
def Budget.cleared (budget : Budget) : Budget :=
  let account :=
    if budget.rxBytes > 0 then budget.account.release budget.rxBytes else budget.account
  { budget with
    account := if budget.oooBytes > 0 then account.release budget.oooBytes else account
    rxBytes := 0
    oooBytes := 0 }

theorem dropReceived_budget (c : Conn) : (dropReceived c).budget = c.budget.cleared := by
  unfold dropReceived Budget.cleared Conn.budget
  by_cases queued : c.flow.rxBytes > 0 <;> by_cases cached : c.flow.oooBytes > 0 <;>
    simp [queued, cached, releaseBytes]

/-- Closing gives back what was held, whatever else it does. -/
theorem closeFlow_budget (c : Conn) (err : ErrorCode) (isOpen : c.flow.state ≠ .closed) :
    (closeFlow c err).budget = c.budget.cleared := by
  have completed (c : Conn) (read : Option ReadOp) (write : Option WriteOp) :
      (completeWrite (completeRead c read err) write err).budget = c.budget := by
    cases read <;> cases write <;> rfl
  have detached (c : Conn) : (detachFlow (uncountFlow c)).budget = c.budget := by
    unfold detachFlow uncountFlow
    split <;> rfl
  have withdrawn : (withdrawAccept (cancelAckTimer c)).budget = c.budget := by
    unfold withdrawAccept cancelAckTimer
    split <;> split <;> rfl
  unfold closeFlow
  rw [if_neg isOpen]
  dsimp only
  rw [completed, closeWriteCh_budget, detached, dropReceived_budget, ← withdrawn]
  rfl

/-! What a flow owes. -/

/-- A flow in an engine with a budget of the given size, of which others use `rest`. -/
structure Owed (size rest : Nat) (c : Conn) : Prop where
  limit : c.eng.account.limit = size
  bounded : c.eng.account.used ≤ size
  used : c.eng.account.used = c.flow.rxBytes + c.flow.oooBytes + rest
  backed : Backed c.flow

namespace Owed

variable {size rest : Nat} {c after : Conn}

theorem congr (owed : Owed size rest c) (same : after.budget = c.budget)
    (backed : Backed after.flow) : Owed size rest after := by
  have account : after.eng.account = c.eng.account := congrArg Budget.account same
  have rxBytes : after.flow.rxBytes = c.flow.rxBytes := congrArg Budget.rxBytes same
  have oooBytes : after.flow.oooBytes = c.flow.oooBytes := congrArg Budget.oooBytes same
  refine ⟨?_, ?_, ?_, backed⟩
  · rw [account, owed.limit]
  · rw [account]
    exact owed.bounded
  · rw [account, rxBytes, oooBytes, owed.used]

theorem cleared (owed : Owed size rest c) (same : after.budget = c.budget.cleared)
    (backed : Backed after.flow) : Owed size rest after := by
  have used := owed.used
  have bounded := owed.bounded
  have whole : c.budget.cleared.account = { c.eng.account with used := rest } := by
    unfold Budget.cleared Conn.budget
    dsimp only
    have queued : (if c.flow.rxBytes > 0 then c.eng.account.release c.flow.rxBytes
        else c.eng.account) = { c.eng.account with used := c.flow.oooBytes + rest } := by
      split
      · rw [BufferAccountant.release_eq (by omega), BufferAccountant.mk.injEq]
        exact ⟨rfl, by omega⟩
      · rw [show c.flow.oooBytes + rest = c.eng.account.used by omega]
    rw [queued]
    split
    · rw [BufferAccountant.release_eq (Nat.le_add_right _ _), BufferAccountant.mk.injEq]
      exact ⟨rfl, Nat.add_sub_cancel_left _ _⟩
    · rw [show c.flow.oooBytes + rest = rest by omega]
  have account : after.eng.account = { c.eng.account with used := rest } :=
    (congrArg Budget.account same).trans whole
  have rxBytes : after.flow.rxBytes = 0 := congrArg Budget.rxBytes same
  have oooBytes : after.flow.oooBytes = 0 := congrArg Budget.oooBytes same
  refine ⟨?_, ?_, ?_, backed⟩
  · rw [account]
    exact owed.limit
  · rw [account]
    dsimp only
    omega
  · rw [account, rxBytes, oooBytes]
    dsimp only
    omega

theorem closeFlow (owed : Owed size rest c) (err : ErrorCode) :
    Owed size rest (closeFlow c err) := by
  by_cases closed : c.flow.state = .closed
  · rwa [closeFlow_closed c err closed]
  · exact owed.cleared (closeFlow_budget c err closed) (Backed.bare (closeFlow_shelf c err closed))

theorem abortFlow (owed : Owed size rest c) : Owed size rest (abortFlow c) := by
  unfold Tunio.abortFlow
  split
  · exact owed
  · have sent : Owed size rest { sendSegment c c.flow.sndNxt (tcpRst ||| tcpAck) [] false with
        flow.rst := true } :=
      owed.congr (sendSegment_budget c _ _ _ _) (owed.backed.congr (sendSegment_shelf c _ _ _ _))
    exact sent.closeFlow _

end Owed

/-! The effects that settle. -/

theorem deliverDirect_budget (c : Conn) (op : ReadOp) (data : List UInt8) :
    (deliverDirect c op data).budget = { c.budget with
      account := c.eng.account.release (min op.total data.length)
      rxBytes := c.flow.rxBytes + (data.length - min op.total data.length) } := by
  have filled : (fillRead c op data).budget = { c.budget with
      account := c.eng.account.release (min op.total data.length)
      rxBytes := c.flow.rxBytes + (data.length - min op.total data.length) } := by
    unfold fillRead
    dsimp only
    split
    · rfl
    · rw [show data.length - min op.total data.length = 0 by omega]
      rfl
  have idle : (fillRead c op data).flow.activeRead = none := by
    unfold fillRead
    dsimp only
    split <;> rfl
  unfold deliverDirect
  dsimp only
  split
  · exact filled
  · refine (sendAck_budget _).trans ?_
    split
    · rw [flushReads_idle _ idle]
      exact (compactRx_budget _).trans filled
    · exact filled

theorem noteDataAck_budget (c : Conn) : (noteDataAck c).budget = c.budget := by
  unfold noteDataAck
  split
  · exact sendAck_budget _
  · rfl

/-- The cache takes bytes of its own from the budget, or it takes none. -/
theorem oooAppend_budget (c : Conn) (seq : UInt32) (data : List UInt8) (fin : Bool) :
    (oooAppend c seq data fin).1.budget = c.budget ∨
      ∃ n account, c.eng.account.reserve n = some account ∧
        c.flow.rxBytes + c.flow.oooBytes + n ≤ c.eng.cfg.maxRxQueuePerFlow ∧
          (oooAppend c seq data fin).1.budget =
            { c.budget with account := account, oooBytes := c.flow.oooBytes + n } := by
  unfold oooAppend
  split
  · left
    unfold appendFin
    repeat' split
    all_goals rfl
  · unfold appendData
    dsimp only
    split
    · left
      repeat' split
      all_goals rfl
    · split
      · exact Or.inl rfl
      · rename_i account admitted
        unfold admitOoo at admitted
        split at admitted
        · cases admitted
        · split at admitted
          · cases admitted
          · exact Or.inr ⟨_, account, admitted, Nat.le_of_not_gt ‹_›, rfl⟩

/-- A cached segment is no longer than all that is cached. -/
theorem Backed.held {flow : TcpFlow} (backed : Backed flow) {key : UInt32} {seg : OooSegment}
    (present : flow.oooCache[key]? = some seg) : seg.data.length ≤ flow.oooBytes := by
  have gone : cachedBytes flow.oooCache =
      seg.data.length + cachedBytes (flow.oooCache.erase key) := Stock.mass_remove _ present
  unfold Backed at backed
  omega

namespace Owed

variable {size rest : Nat} {c after : Conn}

/-- Bytes are reserved, and the flow holds them. -/
theorem reserved (owed : Owed size rest c) {n : Nat} {account : BufferAccountant}
    (made : c.eng.account.reserve n = some account) (kept : after.eng.account = account)
    (held : after.flow.rxBytes + after.flow.oooBytes = c.flow.rxBytes + c.flow.oooBytes + n)
    (backed : Backed after.flow) : Owed size rest after := by
  obtain ⟨same, room⟩ := BufferAccountant.reserve_some made
  have limit := owed.limit
  have used := owed.used
  rw [same] at kept
  refine ⟨?_, ?_, ?_, backed⟩
  · rw [kept, ← limit]
  · rw [kept, ← limit]
    exact room
  · rw [kept, held]
    dsimp only
    omega

/-- Bytes that the flow no longer holds are given back. -/
theorem released (owed : Owed size rest c) {n : Nat} (kept : after.eng.account = c.eng.account.release n)
    (held : after.flow.rxBytes + after.flow.oooBytes + n = c.flow.rxBytes + c.flow.oooBytes)
    (backed : Backed after.flow) : Owed size rest after := by
  have bounded := owed.bounded
  have used := owed.used
  rw [BufferAccountant.release_eq (by omega)] at kept
  refine ⟨?_, ?_, ?_, backed⟩
  · rw [kept]
    exact owed.limit
  · rw [kept]
    dsimp only
    omega
  · rw [kept]
    dsimp only
    omega

theorem takeQueued (owed : Owed size rest c) (op : ReadOp) : Owed size rest (takeQueued c op) := by
  have short := copyOut_length op.buffers (min op.total c.flow.rxBytes)
    (c.flow.rxData.drop c.flow.rxHead)
  refine owed.released (n := (copyOut op.buffers (min op.total c.flow.rxBytes)
    (c.flow.rxData.drop c.flow.rxHead)).flatten.length) rfl ?_ owed.backed
  change c.flow.rxBytes - _ + c.flow.oooBytes + _ = _
  omega

theorem direct (owed : Owed size rest c) (op : ReadOp) {account : BufferAccountant}
    {data : List UInt8} (admitted : admitData c data.length = some account) :
    Owed size rest (deliverDirect { c with eng.account := account } op data) := by
  have made : c.eng.account.reserve data.length = some account := by
    unfold admitData at admitted
    split at admitted
    · cases admitted
    · exact admitted
  have same := deliverDirect_budget { c with eng.account := account } op data
  have shelf : Backed (deliverDirect { c with eng.account := account } op data).flow :=
    owed.backed.congr (apply_shelf c (.direct op account data) rfl)
  generalize deliverDirect { c with eng.account := account } op data = after at same shelf ⊢
  obtain ⟨placed, room⟩ := BufferAccountant.reserve_some made
  have part : min op.total data.length ≤ data.length := Nat.min_le_right _ _
  have used := owed.used
  have limit := owed.limit
  have kept : after.eng.account = account.release (min op.total data.length) :=
    congrArg Budget.account same
  have queued : after.flow.rxBytes = c.flow.rxBytes + (data.length - min op.total data.length) :=
    congrArg Budget.rxBytes same
  have cached : after.flow.oooBytes = c.flow.oooBytes := congrArg Budget.oooBytes same
  rw [placed, BufferAccountant.release_eq (by dsimp only; omega)] at kept
  refine ⟨?_, ?_, ?_, shelf⟩
  · rw [kept]
    exact limit
  · rw [kept]
    dsimp only
    omega
  · rw [kept, queued, cached]
    dsimp only
    omega

/-- The books balance after every effect of the flow itself. -/
theorem apply (owed : Owed size rest c) (effect : Effect) (permits : c.Permits effect)
    (inside : Inside c effect) : Owed size rest (c.apply effect) := by
  have backed := apply_backed c effect owed.backed permits
  cases settles : effect.settles with
  | false => exact owed.congr (apply_budget c effect settles) backed
  | true =>
      cases effect with
      | direct op account data => exact owed.direct op permits.2.2.2.2
      | buffer account data =>
          have made : c.eng.account.reserve data.length = some account := by
            have admitted := permits.2.2
            unfold admitData at admitted
            split at admitted
            · cases admitted
            · exact admitted
          have same : (c.apply (.buffer account data)).budget = { c.budget with
              account := account, rxBytes := c.flow.rxBytes + data.length } := noteDataAck_budget _
          have queued : (c.apply (.buffer account data)).flow.rxBytes =
              c.flow.rxBytes + data.length := congrArg Budget.rxBytes same
          have cached : (c.apply (.buffer account data)).flow.oooBytes = c.flow.oooBytes :=
            congrArg Budget.oooBytes same
          refine owed.reserved made (congrArg Budget.account same) ?_ backed
          rw [queued, cached]
          omega
      | serve op => exact owed.takeQueued op
      | append seq data fin =>
          rcases oooAppend_budget c seq data fin with same | ⟨n, account, made, _, same⟩
          · exact owed.congr same backed
          · have queued : (oooAppend c seq data fin).1.flow.rxBytes = c.flow.rxBytes :=
              congrArg Budget.rxBytes same
            have cached : (oooAppend c seq data fin).1.flow.oooBytes = c.flow.oooBytes + n :=
              congrArg Budget.oooBytes same
            refine owed.reserved made (congrArg Budget.account same) ?_ backed
            change (oooAppend c seq data fin).1.flow.rxBytes +
              (oooAppend c seq data fin).1.flow.oooBytes = _
            rw [queued, cached]
            omega
      | discard key seg =>
          change Owed size rest (discardOoo c key seg)
          change Backed (discardOoo c key seg).flow at backed
          have held := owed.backed.held permits
          by_cases filled : seg.data.length > 0
          · have same : discardOoo c key seg = releaseBytes { c with
                flow.oooCache := c.flow.oooCache.erase key
                flow.oooBytes := sizeSub c.flow.oooBytes seg.data.length } seg.data.length := by
              unfold discardOoo
              dsimp only
              rw [if_pos filled]
              rfl
            rw [same] at backed ⊢
            refine owed.released (n := seg.data.length) rfl ?_ backed
            change c.flow.rxBytes + sizeSub c.flow.oooBytes seg.data.length + _ = _
            unfold sizeSub
            rw [if_pos held]
            omega
          · have same : (discardOoo c key seg).budget = c.budget := by
              unfold discardOoo
              dsimp only
              rw [if_neg filled]
              rfl
            exact owed.congr same backed
      | remove key seg =>
          have held := owed.backed.held permits
          refine owed.released (n := seg.data.length) rfl ?_ backed
          change c.flow.rxBytes + sizeSub c.flow.oooBytes seg.data.length + _ = _
          unfold sizeSub
          rw [if_pos held]
          omega
      | drop => exact owed.cleared (dropReceived_budget c) backed
      | giveUp =>
          have marked : Owed size rest { c with flow.finSent := true } := owed.congr rfl owed.backed
          exact marked.abortFlow
      | abort => exact owed.abortFlow
      | resetBy =>
          have marked : Owed size rest { c with flow.rst := true } := owed.congr rfl owed.backed
          exact marked.closeFlow _
      | close err => exact owed.closeFlow err
      | elsewhere => exact inside.elim
      | _ => cases settles

theorem path (owed : Owed size rest c) (path : Steps flowMachine Inside c after) :
    Owed size rest after :=
  path.invariant (Owed size rest) owed fun _ effect here permits inside =>
    here.apply effect permits inside

end Owed

/-! New flows. -/

theorem takeSynData_budget (c : Conn) (th : TcpHeader) (data : List UInt8) :
    (takeSynData c th data).budget = c.budget ∨
      ∃ account, admitData c data.length = some account ∧ (takeSynData c th data).budget =
        { c.budget with account := account, rxBytes := c.flow.rxBytes + data.length } := by
  unfold takeSynData
  split
  · split
    · rename_i account admitted
      exact Or.inr ⟨account, admitted, rfl⟩
    · exact Or.inl rfl
  · exact Or.inl rfl

theorem admitData_some {c : Conn} {len : Nat} {account : BufferAccountant}
    (admitted : admitData c len = some account) :
    c.flow.rxBytes + len ≤ c.eng.cfg.maxRxQueuePerFlow ∧ c.eng.account.reserve len = some account := by
  unfold admitData at admitted
  split at admitted
  · cases admitted
  · exact ⟨Nat.le_of_not_gt ‹_›, admitted⟩

theorem openFlow_owed {size rest : Nat} (eng : TcpEngine) (id : FlowId) (key : FiveTuple)
    (th : TcpHeader) (payload data : List UInt8) (iss : UInt32) (limit : eng.account.limit = size)
    (bounded : eng.account.used ≤ size) (used : eng.account.used = rest) :
    Owed size rest (openFlow eng id key th payload data iss) := by
  have backed : Backed (openFlow eng id key th payload data iss).flow :=
    Backed.bare (openFlow_shelf eng id key th payload data iss)
  let c : Conn :=
    { flow := synFlow eng id key th payload iss, eng := { eng with flows := (key, id) :: eng.flows } }
  have bare : Owed size rest c :=
    ⟨limit, bounded, used.trans (Nat.zero_add rest).symm, Backed.bare rfl⟩
  have opened : (openFlow eng id key th payload data iss).budget = (takeSynData c th data).budget :=
    notifyAccept_budget _
  rcases takeSynData_budget c th data with same | ⟨account, admitted, same⟩
  · exact bare.congr (opened.trans same) backed
  · have taken := opened.trans same
    have queued : (openFlow eng id key th payload data iss).flow.rxBytes =
        c.flow.rxBytes + data.length := congrArg Budget.rxBytes taken
    have cached : (openFlow eng id key th payload data iss).flow.oooBytes = c.flow.oooBytes :=
      congrArg Budget.oooBytes taken
    refine bare.reserved (admitData_some admitted).2 (congrArg Budget.account taken) ?_ backed
    rw [queued, cached]
    omega

/-! All flows of an engine. -/

def TcpFlow.held (flow : TcpFlow) : Nat := flow.rxBytes + flow.oooBytes

namespace World

/-- What the flows of the table hold together. -/
def held (w : World) : Nat := total (fun id => (w.records id).flow.held) w.eng.flows

/-- The budget is what the flows hold and what others use. -/
structure Balanced (size rest : Nat) (w : World) : Prop where
  limit : w.eng.account.limit = size
  bounded : w.eng.account.used ≤ size
  used : w.eng.account.used = w.held + rest
  backed : ∀ id, Backed (w.records id).flow

namespace Balanced

variable {size rest : Nat} {w : World}

/-- One open flow and all the others. -/
theorem owed (balanced : Balanced size rest w) (kept : Kept w) {id : FlowId}
    (isOpen : (w.records id).flow.state ≠ .closed) :
    Owed size (total (fun id => (w.records id).flow.held)
      (w.eng.flows.filter fun entry => entry.1 ≠ (w.records id).flow.key) + rest) (w.conn id) := by
  have whole := kept.indexed.total_remove isOpen fun id => (w.records id).flow.held
  have used := balanced.used
  unfold World.held at used
  refine ⟨balanced.limit, balanced.bounded, ?_, balanced.backed id⟩
  change w.eng.account.used = (w.records id).flow.held + _
  omega

/-- What the engine does beside its flows. -/
theorem aside (balanced : Balanced size rest w) {after : World}
    (account : after.eng.account = w.eng.account) (flows : after.eng.flows = w.eng.flows)
    (records : after.records = w.records) : Balanced size rest after := by
  have held : after.held = w.held := by
    unfold World.held
    rw [flows, records]
  refine ⟨?_, ?_, ?_, ?_⟩
  · rw [account]
    exact balanced.limit
  · rw [account]
    exact balanced.bounded
  · rw [account, held]
    exact balanced.used
  · rw [records]
    exact balanced.backed

theorem operate (balanced : Balanced size rest w) (kept : Kept w) {id : FlowId} {after : Conn}
    {len : Nat} (operates : Operates len (w.conn id) after) : Balanced size rest (w.set id after) := by
  have path := Modest.inside operates.path
  have others : ∀ other ≠ id, ((w.set id after).records other).flow.held =
      (w.records other).flow.held := fun other elsewhere => by rw [w.set_other id after elsewhere]
  by_cases closed : (w.records id).flow.state = .closed
  · have inert := Settled.path path (kept.settled id closed)
    have backed : Backed after.flow := by
      have empty : after.flow.oooCache = ∅ := inert.settled.oooCache
      unfold Backed
      rw [empty]
      exact Nat.zero_le _
    have engine : after.eng = w.eng := inert.eng
    have held : (w.set id after).held = w.held := by
      show total _ after.eng.flows = total _ w.eng.flows
      rw [engine]
      refine kept.indexed.total_congr fun other otherOpen => others other ?_
      rintro rfl
      exact otherOpen closed
    refine ⟨?_, ?_, ?_, ?_⟩
    · show after.eng.account.limit = size
      rw [engine]
      exact balanced.limit
    · show after.eng.account.used ≤ size
      rw [engine]
      exact balanced.bounded
    · show after.eng.account.used = _
      rw [engine, held]
      exact balanced.used
    · exact set_all (fun record => Backed record.flow) balanced.backed id after backed
  · have owed := (balanced.owed kept closed).path path
    have handled := kept.handles operates closed
    have used := owed.used
    refine ⟨owed.limit, owed.bounded, ?_,
      set_all (fun record => Backed record.flow) balanced.backed id after owed.backed⟩
    show after.eng.account.used = total _ after.eng.flows + rest
    rw [used]
    by_cases left : after.flow.state = .closed
    · obtain ⟨settled, flows, _⟩ := handled.books.leaves left
      have flows : after.eng.flows =
          w.eng.flows.filter fun entry => entry.1 ≠ (w.records id).flow.key := flows
      have elsewhere := kept.indexed.total_elsewhere others
      rw [flows, elsewhere, settled.rxBytes, settled.oooBytes]
      omega
    · obtain ⟨flows, _⟩ := handled.books.stays left
      have flows : after.eng.flows = w.eng.flows := flows
      have change := kept.indexed.total_change closed others
      have whole := kept.indexed.total_remove closed fun id => (w.records id).flow.held
      have self : ((w.set id after).records id).flow.held =
          after.flow.rxBytes + after.flow.oooBytes := by
        rw [set_self]
        rfl
      rw [flows]
      rw [self] at change
      omega

theorem enterFlow (balanced : Balanced size rest w) (kept : Kept w) (key : FiveTuple)
    (th : TcpHeader) (payload data : List UInt8) (iss : UInt32) :
    Balanced size rest (w.enterFlow key th payload data iss) := by
  have entered := openFlow_enters w.eng w.created key th payload data iss
  have owed := openFlow_owed w.eng w.created key th payload data iss balanced.limit
    balanced.bounded balanced.used
  unfold World.enterFlow
  generalize Tunio.openFlow w.eng w.created key th payload data iss = c at entered owed
  have others : ∀ other, (w.records other).flow.state ≠ .closed →
      ((w.set w.created c).records other).flow.held = (w.records other).flow.held := by
    intro other otherOpen
    rw [w.set_other w.created c (Nat.ne_of_lt (kept.created other otherOpen))]
  refine ⟨owed.limit, owed.bounded, ?_,
    set_all (fun record => Backed record.flow) balanced.backed w.created c owed.backed⟩
  show c.eng.account.used = total _ c.eng.flows + rest
  rw [entered.flows, total_cons, kept.indexed.total_congr others, owed.used, set_self,
    TcpFlow.held, World.held]
  omega

theorem grant (balanced : Balanced size rest w) (id : FlowId) (waiting : List FlowId)
    (handler : HandlerId) : Balanced size rest (w.grant id waiting handler) := by
  let c : Conn := { w.conn id with flow.pendingAccept := false, flow.accepted := true }
  have held := w.set_field id c (fun record => record.flow.held) rfl
  refine ⟨balanced.limit, balanced.bounded, ?_,
    set_all (fun record => Backed record.flow) balanced.backed id c (balanced.backed id)⟩
  refine balanced.used.trans (congrArg (· + rest) ?_)
  exact (total_map fun entry _ => held entry.2).symm

/-- The balance survives every move of the engine itself. -/
theorem act (balanced : Balanced size rest w) (kept : Kept w) (move : Move)
    (permits : w.Permits move) (own : ∀ account, move ≠ .share account) :
    Balanced size rest (w.act move) := by
  cases move with
  | aside eng =>
      have same : eng = { w.eng with stats.rxDropped := eng.stats.rxDropped, now := eng.now } :=
        permits
      show Balanced size rest { w with eng := eng }
      rw [same]
      exact balanced.aside rfl rfl rfl
  | share account => exact absurd rfl (own account)
  | operate id after => exact balanced.operate kept permits
  | enter key th payload data iss => exact balanced.enterFlow kept key th payload data iss
  | grant handler id waiting => exact balanced.grant id waiting handler
  | wait handler => exact balanced.aside rfl rfl rfl
  | cancel => exact balanced.aside rfl rfl rfl

theorem walk {after : World} (walk : Walks w after) (kept : Kept w)
    (balanced : Balanced size rest w) : Kept after ∧ Balanced size rest after := by
  refine walk.invariant (fun w => Kept w ∧ Balanced size rest w) ⟨kept, balanced⟩ ?_
  intro w move ⟨kept, balanced⟩ permits inside
  refine ⟨kept.act move permits, balanced.act kept move permits ?_⟩
  rintro account rfl
  cases inside

theorem dealt {registered : Option HandlerId} {after : World} (dealt : Dealt registered w after)
    (kept : Kept w) (balanced : Balanced size rest w) : Balanced size rest after := by
  cases dealt with
  | walk _ path => exact (walk path kept balanced).2
  | final move path permits deals _ =>
      obtain ⟨kept, balanced⟩ := walk path kept balanced
      refine balanced.act kept move permits ?_
      rintro account rfl
      cases deals

/-- What the engine does keeps the balance. -/
theorem step (balanced : Balanced size rest w) (kept : Kept w) (event : WorldEvent)
    (own : ∀ account, event ≠ .elsewhere account) : Balanced size rest (w.step event) := by
  rcases step_dealt kept event with ⟨account, rfl⟩ | made
  · exact absurd rfl (own account)
  · exact dealt made kept balanced

end Balanced

end World

end Tunio
