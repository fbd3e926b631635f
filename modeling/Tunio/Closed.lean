import Tunio.Diagram

/-!
A closed flow.  Closing empties the flow, and nothing that still happens to it afterwards
has an effect: no segment, no change of the engine, and only errors for new operations.
-/

namespace Tunio

open Machines

structure Settled (flow : TcpFlow) : Prop where
  closed : flow.state = .closed
  rxData : flow.rxData = []
  rxHead : flow.rxHead = 0
  rxBytes : flow.rxBytes = 0
  oooCache : flow.oooCache = ∅
  oooBytes : flow.oooBytes = 0
  activeRead : flow.activeRead = none
  activeWrite : flow.activeWrite = none
  pendingAccept : flow.pendingAccept = false

/-- Nothing happened that anybody but the caller of an operation could see. -/
structure Inert (before after : Conn) : Prop where
  settled : Settled after.flow
  out : after.out = before.out
  eng : after.eng = before.eng

theorem Inert.trans {first second third : Conn} (one : Inert first second)
    (two : Inert second third) : Inert first third :=
  ⟨two.settled, two.out.trans one.out, two.eng.trans one.eng⟩

theorem Inert.refl {c : Conn} (settled : Settled c.flow) : Inert c c := ⟨settled, rfl, rfl⟩

/-! Closing leaves the flow settled. -/

theorem dropReceived_dropped (c : Conn) :
    (dropReceived c).flow = { c.flow with
      rxBytes := 0, rxData := [], rxHead := 0, oooBytes := 0, oooCache := ∅, oooCount := 0 } := by
  unfold dropReceived
  dsimp only
  split <;> split <;> rfl

theorem withdrawAccept_withdrawn (c : Conn) : (withdrawAccept c).flow.pendingAccept = false := by
  unfold withdrawAccept
  split
  · rfl
  · rename_i pending
    exact Bool.eq_false_of_not_eq_true pending

theorem closeFlow_settled (c : Conn) (err : ErrorCode) (isOpen : c.flow.state ≠ .closed) :
    Settled (closeFlow c err).flow := by
  have pending := withdrawAccept_withdrawn (cancelAckTimer c)
  unfold closeFlow
  rw [if_neg isOpen]
  dsimp only
  rw [completeWrite_flow, completeRead_flow]
  generalize withdrawAccept (cancelAckTimer c) = c₁ at pending ⊢
  have dropped := dropReceived_dropped
    { c₁ with flow.activeRead := none, flow.activeWrite := none }
  generalize dropReceived { c₁ with flow.activeRead := none, flow.activeWrite := none } = c₂
    at dropped ⊢
  have uncounted : (uncountFlow c₂).flow = c₂.flow := by
    unfold uncountFlow
    split <;> rfl
  have detached : (detachFlow (uncountFlow c₂)).flow = { c₂.flow with state := .closed } := by
    rw [← uncounted]
    rfl
  rw [dropped] at detached
  generalize detachFlow (uncountFlow c₂) = c₃ at detached ⊢
  unfold closeWriteCh
  split
  · dsimp only
    rw [detached]
    exact ⟨rfl, rfl, rfl, rfl, rfl, rfl, rfl, rfl, pending⟩
  · rw [detached]
    exact ⟨rfl, rfl, rfl, rfl, rfl, rfl, rfl, rfl, pending⟩

theorem abortFlow_settled (c : Conn) (isOpen : c.flow.state ≠ .closed) :
    Settled (abortFlow c).flow := by
  unfold abortFlow
  rw [if_neg isOpen]
  refine closeFlow_settled _ _ ?_
  exact fun closed => isOpen ((sendSegment_state c _ _ _ _).symm.trans closed)

theorem closeFlow_closed (c : Conn) (err : ErrorCode) (closed : c.flow.state = .closed) :
    closeFlow c err = c := by
  unfold closeFlow
  rw [if_pos closed]

theorem abortFlow_closed (c : Conn) (closed : c.flow.state = .closed) : abortFlow c = c := by
  unfold abortFlow
  rw [if_pos closed]

theorem sendSegment_closed (c : Conn) (seq : UInt32) (flags : UInt8) (payload : List UInt8)
    (withMss : Bool) (closed : c.flow.state = .closed) :
    sendSegment c seq flags payload withMss = c := by
  unfold sendSegment
  rw [if_pos closed]

/-! One effect on a settled flow. -/

/-- The effects of the operations of the flow itself. -/
def Inside (_ : Conn) : Effect → Prop
  | .elsewhere _ => False
  | _ => True

theorem Settled.apply {c : Conn} (settled : Settled c.flow) (effect : Effect)
    (permits : c.Permits effect) (inside : Inside c effect) : Inert c (c.apply effect) := by
  have closed := settled.closed
  have notPast : ¬Past c.flow.state := fun past => past.1 closed
  have noRead (op : ReadOp) : c.flow.activeRead ≠ some op := by simp [settled.activeRead]
  have noEntry (key : UInt32) (seg : OooSegment) : c.flow.oooCache[key]? ≠ some seg := by
    simp [settled.oooCache]
  cases effect with
  | submit seq flags payload withMss =>
      have same : c.apply (.submit seq flags payload withMss) = c :=
        sendSegment_closed c _ _ _ _ closed
      rw [same]
      exact Inert.refl settled
  | next inFlight => exact absurd closed permits.1
  | accept => exact absurd permits (by simp [Conn.Permits, closed])
  | establish => exact absurd permits (by simp [Conn.Permits, closed])
  | notify => exact absurd permits.1 (by simp [closed])
  | handOut =>
      have same : c.apply .handOut = c := by
        change handOut c = c
        unfold handOut
        rw [settled.pendingAccept]
        rfl
      rw [same]
      exact Inert.refl settled
  | fin => exact absurd permits.1 (by simp [closed])
  | sealed => exact absurd permits.1 notPast
  | giveUp => exact absurd permits (by simp [Conn.Permits, closed])
  | abort =>
      have same : c.apply .abort = c := abortFlow_closed c closed
      rw [same]
      exact Inert.refl settled
  | resetBy =>
      have same : c.apply .resetBy = { c with flow.rst := true } := closeFlow_closed _ _ closed
      rw [same]
      exact ⟨{ settled with }, rfl, rfl⟩
  | close err =>
      have same : c.apply (.close err) = c := closeFlow_closed c err closed
      rw [same]
      exact Inert.refl settled
  | finAcked => exact absurd permits.1 (by simp [closed])
  | una ack => exact ⟨{ settled with }, rfl, rfl⟩
  | probeAck ack =>
      have same : c.apply (.probeAck ack) =
          { c with flow.sndUna := ack, flow.sndNxt := ack } := by
        change acceptProbe c ack = _
        unfold acceptProbe
        dsimp only
        rw [settled.activeWrite]
      rw [same]
      exact ⟨{ settled with }, rfl, rfl⟩
  | probing inFlight => exact ⟨{ settled with }, rfl, rfl⟩
  | pend pending => exact ⟨{ settled with }, rfl, rfl⟩
  | window wnd => exact ⟨{ settled with }, rfl, rfl⟩
  | direct op account data => exact absurd permits.1 notPast
  | buffer account data => exact absurd permits.1 notPast
  | skip len => exact absurd permits.1 notPast
  | takeFin => exact absurd permits notPast
  | serve op => exact absurd permits.1 (noRead op)
  | compact =>
      have same : c.apply .compact = c := by
        change compactRx c = c
        unfold compactRx
        rw [if_neg (by simp [settled.rxHead])]
      rw [same]
      exact Inert.refl settled
  | eof op => exact absurd permits.1 (noRead op)
  | announce wnd => exact ⟨{ settled with }, rfl, rfl⟩
  | append seq data fin => exact absurd permits.1 notPast
  | discard key seg => exact absurd permits (noEntry key seg)
  | remove key seg => exact absurd permits (noEntry key seg)
  | countCached => exact ⟨{ settled with }, rfl, rfl⟩
  | countDropped => exact absurd permits notPast
  | countOoo => exact absurd permits notPast
  | startRead op => exact absurd closed permits.1
  | refuseRead handler ec => exact ⟨settled, rfl, rfl⟩
  | cancelRead op => exact absurd permits (noRead op)
  | startWrite op => exact absurd closed permits.1
  | refuseWrite handler ec => exact ⟨settled, rfl, rfl⟩
  | endWrite op ec n => exact absurd permits (by simp [Conn.Permits, settled.activeWrite])
  | cancelWrite op => exact absurd permits.1 (by simp [settled.activeWrite])
  | locate =>
      refine ⟨{ settled with activeWrite := ?_ }, rfl, rfl⟩
      change c.flow.activeWrite.map normalize = none
      rw [settled.activeWrite]
      rfl
  | shutReceive => exact absurd closed permits
  | appClose => exact absurd closed permits
  | drop => exact absurd closed permits
  | closeChannel =>
      change Inert c (closeWriteCh c)
      unfold closeWriteCh
      split
      · exact ⟨{ settled with }, rfl, rfl⟩
      · exact Inert.refl settled
  | begin_ => exact absurd permits (by simp [Conn.Permits, settled.activeWrite])
  | loops loops => exact ⟨settled, rfl, rfl⟩
  | spawn loop => exact ⟨settled, rfl, rfl⟩
  | finish index => exact ⟨settled, rfl, rfl⟩
  | ackTimerExpires =>
      change Inert c (ackTimerExpires c)
      unfold ackTimerExpires
      split
      · split
        · exact ⟨{ settled with }, rfl, rfl⟩
        · exact Inert.refl settled
      · exact Inert.refl settled
  | ackTimerRuns =>
      change Inert c (ackTimerRuns c)
      unfold ackTimerRuns
      split
      · split
        · dsimp only
          rw [if_pos (Or.inl closed)]
          exact ⟨{ settled with }, rfl, rfl⟩
        · exact Inert.refl settled
      · exact Inert.refl settled
  | fault => exact ⟨settled, rfl, rfl⟩
  | elsewhere eng => exact absurd inside id

/-- The effect that closes a flow settles it. -/
theorem apply_settled {c : Conn} (effect : Effect) (permits : c.Permits effect)
    (isOpen : c.flow.state ≠ .closed) (closes : (c.apply effect).flow.state = .closed) :
    Settled (c.apply effect).flow := by
  cases moves : effect.moves with
  | false => exact absurd ((apply_state c effect moves).symm.trans closes) isOpen
  | true =>
      cases effect with
      | giveUp => exact abortFlow_settled { c with flow.finSent := true } isOpen
      | abort => exact abortFlow_settled c isOpen
      | resetBy => exact closeFlow_settled { c with flow.rst := true } _ isOpen
      | close err => exact closeFlow_settled c err isOpen
      | accept =>
          refine absurd closes ?_
          change (acceptFlow c).flow.state ≠ _
          exact (acceptFlow_left c isOpen).1
      | establish => cases closes
      | fin =>
          have state := emitFin_state { c with flow.finSent := true } c.flow.state.finished
          have finished := state.symm.trans closes
          rcases permits.1 with here | here <;> rw [here] at finished <;> cases finished
      | finAcked =>
          unfold Conn.apply at closes
          dsimp only at closes
          split at closes <;> cases closes
      | takeFin =>
          have state := (takeFin_state c).symm.trans closes
          cases here : c.flow.state <;> rw [here] at state isOpen <;> simp_all [TcpState.drifted]
      | _ => cases moves

theorem apply_inside_settled {c : Conn} (effect : Effect) (permits : c.Permits effect)
    (settles : c.flow.state = .closed → Settled c.flow)
    (closed : (c.apply effect).flow.state = .closed) : Settled (c.apply effect).flow := by
  by_cases before : c.flow.state = .closed
  · by_cases inside : Inside c effect
    · exact ((settles before).apply effect permits inside).settled
    · cases effect with
      | elsewhere eng => exact settles before
      | _ => exact absurd trivial inside
  · exact apply_settled effect permits before closed

/-! Paths. -/

theorem Settled.path {before after : Conn} (path : Steps flowMachine Inside before after)
    (settled : Settled before.flow) : Inert before after := by
  refine path.invariant (Inert before) (Inert.refl settled) ?_
  intro c effect inert permits inside
  exact inert.trans (inert.settled.apply effect permits inside)

/-- The flow is open, or one effect on an open flow closed it and the rest was inert. -/
def OpenOrInert (before after : Conn) : Prop :=
  after.flow.state ≠ .closed ∨
    ∃ middle effect, middle.flow.state ≠ .closed ∧ Steps flowMachine Inside before middle ∧
      middle.Permits effect ∧ Inert (middle.apply effect) after

theorem OpenOrInert.path {before after : Conn} (path : Steps flowMachine Inside before after)
    (isOpen : before.flow.state ≠ .closed) : OpenOrInert before after := by
  have holds : Steps flowMachine Inside before after ∧ OpenOrInert before after := by
    refine path.invariant (fun c => Steps flowMachine Inside before c ∧ OpenOrInert before c)
      ⟨Steps.refl before, Or.inl isOpen⟩ ?_
    intro c effect reached permits inside
    refine ⟨reached.1.snoc effect permits inside, ?_⟩
    rcases reached.2 with stillOpen | ⟨middle, closing, wasOpen, first, closes, inert⟩
    · by_cases closed : (c.apply effect).flow.state = .closed
      · exact Or.inr ⟨c, effect, stillOpen, reached.1, permits,
          Inert.refl (apply_settled effect permits stillOpen closed)⟩
      · exact Or.inl closed
    · exact Or.inr ⟨middle, closing, wasOpen, first, closes,
        inert.trans (inert.settled.apply effect permits inside)⟩
  exact holds.2

theorem Unfolds.inside {len : Nat} {scope : Scope} {before after : Conn}
    (path : Unfolds len scope before after) :
    Steps flowMachine Inside before after := by
  refine path.weaken fun c effect ⟨plain, _⟩ => ?_
  cases effect <;> trivial

theorem Begins.inside {len : Nat} {scope : Scope} {begins : Effect → Prop} {before after : Conn}
    (once : Begins len scope begins before after) (inside : ∀ c effect, begins effect → Inside c effect) :
    Steps flowMachine Inside before after := by
  obtain ⟨middle, effect, first, permits, begun, rest⟩ := once
  exact (first.inside.snoc effect permits (inside middle effect begun)).trans rest.inside

def Event.isElsewhere : Event → Bool
  | .elsewhere _ => true
  | _ => false

theorem step_inside (c : Conn) (event : Event) (own : event.isElsewhere = false) :
    Steps flowMachine Inside c (step c event) := by
  have evolves := step_evolves c event (Nat.le_refl event.size)
  cases event with
  | read buffers handler =>
      refine Begins.inside evolves fun c effect begun => ?_
      cases effect <;> trivial
  | write buffers handler =>
      refine Begins.inside evolves fun c effect begun => ?_
      cases effect <;> trivial
  | elsewhere eng => cases own
  | _ => exact Unfolds.inside evolves

/-! Runs. -/

theorem openFlow_settles (eng : TcpEngine) (id : FlowId) (key : FiveTuple) (th : TcpHeader)
    (payload data : List UInt8) (iss : UInt32) (events : List Event) :
    (run (openFlow eng id key th payload data iss) events).flow.state = .closed →
      Settled (run (openFlow eng id key th payload data iss) events).flow := by
  refine run_keeps (fun c => c.flow.state = .closed → Settled c.flow) ?_ _ events ?_
  · intro c effect settles permits
    exact apply_inside_settled effect permits settles
  · intro closed
    rw [(openFlow_coordinated eng id key th payload data iss).1] at closed
    cases closed

theorem Settled.run {c : Conn} (settled : Settled c.flow) (events : List Event) :
    Settled (run c events).flow ∧ (Tunio.run c events).out = c.out := by
  refine run_keeps (fun d => Settled d.flow ∧ d.out = c.out) ?_ c events ⟨settled, rfl⟩
  intro d effect holds permits
  by_cases inside : Inside d effect
  · have inert := holds.1.apply effect permits inside
    exact ⟨inert.settled, inert.out.trans holds.2⟩
  · cases effect with
    | elsewhere eng => exact holds
    | _ => exact absurd trivial inside

/-- What can still be done with a flow that is closed: nothing of it shows. -/
structure Absorbed (c : Conn) : Prop where
  settled : Settled c.flow
  step : ∀ event, event.isElsewhere = false → Inert c (step c event)
  segment : ∀ th data, Inert c (handleSegment c th data)
  read : ∀ buffers handler, (doReadSome c buffers handler).reads =
    c.reads ++ [{ handler := handler, ec := .badDescriptor, n := 0, data := [] }]
  write : ∀ buffers handler, (doWriteSome c buffers handler).writes =
    c.writes ++ [{ handler := handler, ec := .badDescriptor, n := 0 }]

theorem Settled.absorbed {c : Conn} (settled : Settled c.flow) : Absorbed c := by
  refine ⟨settled, ?_, ?_, ?_, ?_⟩
  · intro event own
    exact settled.path (step_inside c event own)
  · intro th data
    have path : Unfolds data.length .operation c (handleSegment c th data) :=
      Unfolds.handleSegment c th data (Nat.le_refl _)
    exact settled.path path.inside
  · intro buffers handler
    simp [doReadSome, tcpFlowStartRead, settled.closed, postRead]
  · intro buffers handler
    simp [doWriteSome, tcpFlowStartWrite, settled.closed, postWrite]

/-- CLOSED is absorbing: from a closed flow on, every state of every run is absorbed and no
segment is added; and in the step that closes a flow, nothing shows after the effect that
closes it. -/
theorem closedFlow_absorbed (eng : TcpEngine) (id : FlowId) (key : FiveTuple) (th : TcpHeader)
    (payload data : List UInt8) (iss : UInt32) (events : List Event) :
    let c := run (openFlow eng id key th payload data iss) events
    (c.flow.state = .closed → ∀ later, Absorbed (run c later) ∧ (run c later).out = c.out) ∧
      (c.flow.state ≠ .closed → ∀ event, event.isElsewhere = false → OpenOrInert c (step c event)) := by
  intro c
  constructor
  · intro closed later
    have settled := openFlow_settles eng id key th payload data iss events closed
    have after := settled.run later
    exact ⟨after.1.absorbed, after.2⟩
  · intro isOpen event own
    exact OpenOrInert.path (step_inside c event own) isOpen

end Tunio
