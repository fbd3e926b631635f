import Tunio.Projection
import Tunio.Refine

/-!
Flows that the application has closed are reclaimed: they are on their way to CLOSED, every
state on that way has its stamp, and the sweep ends those whose time is over.
-/

namespace Tunio

/-- A flow that the application has closed has sent its FIN or is gone. -/
def Retired (flow : TcpFlow) : Prop := flow.appClosed = true → 2 ≤ flow.state.phase.rank

theorem Agrees.finished {flow : TcpFlow} (agrees : Agrees flow)
    (finished : flow.finSent = true ∨ flow.state = .closed) : 2 ≤ flow.state.phase.rank := by
  unfold Agrees at agrees
  rcases finished with finished | closed
  · rw [finished] at agrees
    generalize flow.state = state at agrees ⊢
    cases state with
    | synRcvd | synAckSent | established | closeWait => cases agrees.1
    | _ => decide
  · rw [closed]
    decide

/-- A FIN that nothing stands in the way of ends the flow or begins its closing. -/
theorem sendFin_retires (c : Conn) (agrees : Agrees c.flow) (idle : c.flow.activeWrite = none)
    (settled : c.flow.sndUna = c.flow.sndNxt) : 2 ≤ (sendFin c).flow.state.phase.rank := by
  rcases sendFin_cases c with
    ⟨done, same⟩ | ⟨_, isOpen, ⟨busy, _⟩ | ⟨_, ⟨sends, same⟩ | ⟨_, same⟩ | ⟨late, same⟩⟩⟩
  · rw [same]
    exact agrees.finished done
  · rcases busy with unsent | outstanding
    · unfold unsentWrite at unsent
      rw [idle] at unsent
      cases unsent
    · exact absurd settled outstanding
  · rw [same, emitFin_state]
    rcases sends with state | state <;> rw [state] <;> decide
  · rw [same, abortFlow_state]
    decide
  · have state : (sendFin c).flow.state = c.flow.state := congrArg (·.flow.state) same
    rw [state]
    rcases late with state | state | state | state <;> rw [state] <;> decide

/-- The part of `close` up to the choice between RST and FIN. -/
def beginClose (c : Conn) : Conn :=
  dropReceived (closeWriteCh { c with
    flow.appClosed := true
    flow.activeRead := none
    flow.activeWrite := none })

theorem beginClose_state (c : Conn) : (beginClose c).flow.state = c.flow.state := by
  unfold beginClose
  rw [dropReceived_state, closeWriteCh_flow_state]

theorem beginClose_numbers (c : Conn) : (beginClose c).flow.numbers = c.flow.numbers := by
  unfold beginClose
  rw [dropReceived_numbers, closeWriteCh_numbers]
  rfl

theorem beginClose_send (c : Conn) :
    (beginClose c).flow.send = { c.flow.send with appClosed := true, activeWrite := none } := by
  have dropped (c : Conn) : (dropReceived c).flow.send = c.flow.send := apply_send c .drop rfl
  have shut (c : Conn) : (closeWriteCh c).flow.send = c.flow.send := apply_send c .closeChannel rfl
  unfold beginClose
  rw [dropped, shut]
  rfl

theorem tcpFlowClose_eq (c : Conn) (usable : ¬(c.flow.state = .closed ∨ c.flow.appClosed = true)) :
    tcpFlowClose c =
      completeWrite (completeRead
        (if c.flow.sndUna ≠ c.flow.sndNxt then abortFlow (beginClose c) else sendFin (beginClose c))
        c.flow.activeRead .operationAborted) c.flow.activeWrite .operationAborted := by
  have send := beginClose_send c
  have una : (beginClose c).flow.sndUna = c.flow.sndUna := congrArg SendView.sndUna send
  have nxt : (beginClose c).flow.sndNxt = c.flow.sndNxt := congrArg SendView.sndNxt send
  rw [← una, ← nxt]
  exact if_neg usable

theorem beginClose_agrees {c : Conn} (agrees : Agrees c.flow) : Agrees (beginClose c).flow := by
  have same := beginClose_numbers c
  unfold Agrees at agrees ⊢
  rwa [beginClose_state, show (beginClose c).flow.finSent = c.flow.finSent from
    congrArg Numbers.finSent same, show (beginClose c).flow.finReceived = c.flow.finReceived from
    congrArg Numbers.finReceived same]

theorem tcpFlowClose_retires (c : Conn) (agrees : Agrees c.flow) (retired : Retired c.flow) :
    Retired (tcpFlowClose c).flow := by
  by_cases usable : c.flow.state = .closed ∨ c.flow.appClosed = true
  · have same : tcpFlowClose c = c := if_pos usable
    rwa [same]
  · intro _
    rw [tcpFlowClose_eq c usable, completeWrite_flow, completeRead_flow]
    have send := beginClose_send c
    split
    · rw [abortFlow_state]
      decide
    · rename_i settled
      refine sendFin_retires _ (beginClose_agrees agrees) (congrArg SendView.activeWrite send) ?_
      exact (congrArg SendView.sndUna send).trans
        ((not_not.mp settled).trans (congrArg SendView.sndNxt send).symm)

theorem step_rank (c : Conn) (event : Event) :
    c.flow.state.phase.rank ≤ (step c event).flow.state.phase.rank := by
  cases own : event.isElsewhere with
  | false => exact (step_ages c event own).rank
  | true =>
      cases event with
      | elsewhere eng => exact Nat.le_refl _
      | _ => cases own

theorem step_retires (c : Conn) (event : Event) (agrees : Agrees c.flow) (retired : Retired c.flow) :
    Retired (step c event).flow := by
  have kept (same : (step c event).flow.appClosed = c.flow.appClosed) :
      Retired (step c event).flow := by
    intro closed
    exact (retired (same.symm.trans closed)).trans (step_rank c event)
  cases marks : event.marks with
  | false => exact kept (congrArg Marks.appClosed (step_marks c event marks))
  | true =>
      cases event with
      | close => exact tcpFlowClose_retires c agrees retired
      | shutdownReceive =>
          refine kept ?_
          by_cases closed : c.flow.state = .closed
          · have same : tcpFlowShutdownReceive c = c := if_pos closed
            exact congrArg (·.flow.appClosed) same
          · exact congrArg Marks.appClosed (tcpFlowShutdownReceive_marks c closed)
      | _ => cases marks

/-- What the claims of reclamation rest on, in every reachable state of a flow. -/
structure Retires (c : Conn) : Prop where
  agrees : Agrees c.flow
  retired : Retired c.flow

theorem run_retires (eng : TcpEngine) (id : FlowId) (key : FiveTuple) (th : TcpHeader)
    (payload data : List UInt8) (iss : UInt32) (events : List Event) :
    Retires (run (openFlow eng id key th payload data iss) events) := by
  refine run_invariant Retires ?_ _ events ⟨(openFlow_coordinated ..).2.agrees, ?_⟩
  · intro c event retires
    refine ⟨?_, step_retires c event retires.agrees retires.retired⟩
    exact step_keeps (fun c => Agrees c.flow) (fun c effect agrees permits => agrees.apply effect permits)
      c event retires.agrees
  · intro closed
    have fresh : (openFlow eng id key th payload data iss).flow.marks =
        (synFlow eng id key th payload iss).marks := openFlow_marks eng id key th payload data iss
    exact Bool.noConfusion ((congrArg Marks.appClosed fresh).symm.trans closed)

/-! The sweep. -/

/-- The time of a phase is over. -/
def Expired (flow : TcpFlow) (cfg : TunConfig) (now : Int) : Prop :=
  (flow.state.phase = .opening ∧ now - flow.createdAt > cfg.tcpSynTimeout * 1000) ∨
    (flow.state.phase = .closing ∧ now - flow.closeStartedAt > cfg.tcpCloseTimeout * 1000) ∨
    (flow.state.phase = .waiting ∧ now ≥ flow.destroyAt)

theorem sweepFlow_expired (c : Conn) (expired : Expired c.flow c.eng.cfg c.eng.now) :
    (sweepFlow c).flow.state = .closed := by
  have aborted := abortFlow_state c
  have closed := closeFlow_state c .operationAborted
  unfold sweepFlow
  dsimp only
  unfold Expired at expired
  generalize c.flow.state = state at expired ⊢
  rcases expired with ⟨phase, late⟩ | ⟨phase, late⟩ | ⟨phase, late⟩
  · have opening : state = .synRcvd ∨ state = .synAckSent := by
      cases state <;> first | exact Or.inl rfl | exact Or.inr rfl | cases phase
    rw [if_pos ⟨opening, late⟩]
    exact aborted
  · have closing : state = .finWait1 ∨ state = .finWait2 ∨ state = .lastAck := by
      cases state <;> first | exact Or.inl rfl | exact Or.inr (Or.inl rfl) |
        exact Or.inr (Or.inr rfl) | cases phase
    rw [if_neg (by rintro ⟨rfl | rfl, _⟩ <;> cases phase), if_neg (by rintro ⟨rfl, _⟩; cases phase),
      if_neg (by rintro ⟨rfl, _⟩; cases phase), if_pos ⟨closing, late⟩]
    exact closed
  · have waiting : state = .timeWait := by
      cases state <;> first | rfl | cases phase
    rw [if_neg (by rintro ⟨rfl | rfl, _⟩ <;> cases phase), if_neg (by rintro ⟨rfl, _⟩; cases phase),
      if_pos ⟨waiting, late⟩]
    exact closed

namespace World

/-- A closed flow stays closed. -/
theorem stays_carried : Carries fun before after =>
    before.flow.state = .closed → after.flow.state = .closed where
  refl _ closed := closed
  trans one two closed := two (one closed)
  own c event _ _ closed := by
    refine step_keeps (fun c => c.flow.state = .closed) ?_ c event closed
    exact fun c effect closed permits => apply_closed permits closed
  aside _ _ _ _ closed := closed

/-- Sweeping a list of flows closes those of it whose time is over. -/
theorem fold_expired (ids : List FlowId) (w : World) {id : FlowId} (listed : id ∈ ids)
    (expired : Expired (w.records id).flow w.eng.cfg w.eng.now) :
    ((ids.foldl (fun w id => w.on id sweepFlow) w).records id).flow.state = .closed := by
  induction ids generalizing w with
  | nil => cases listed
  | cons first rest ih =>
      by_cases here : first = id
      · subst here
        have closed : ((w.on first sweepFlow).conn first).flow.state = .closed := by
          show ((w.set first _).records first).flow.state = .closed
          rw [set_self]
          exact sweepFlow_expired (w.conn first) expired
        exact fold_along stays_carried .sweep rfl (Nat.zero_le _) rest _ first closed
      · have ages := step_ages (w.conn first) .sweep rfl
        have kept : (w.on first sweepFlow).records id = w.records id :=
          w.set_other first _ fun same => here same.symm
        have engine : (w.on first sweepFlow).eng.cfg = w.eng.cfg ∧
            (w.on first sweepFlow).eng.now = w.eng.now := ⟨ages.cfg, ages.now⟩
        refine ih (w.on first sweepFlow) ((List.mem_cons.mp listed).resolve_left fun same =>
          here same.symm) ?_
        rw [kept, engine.1, engine.2]
        exact expired

/-- One sweep closes the flow and takes it out of the table. -/
def Reclaimed (w : World) (id : FlowId) : Prop :=
  ((w.step .sweep).records id).flow.state = .closed ∧
    ∀ entry ∈ (w.step .sweep).eng.flows, entry.2 ≠ id

theorem sweep_expired {w : World} (kept : Kept w) {id : FlowId}
    (expired : Expired (w.records id).flow w.eng.cfg w.eng.now) : Reclaimed w id := by
  have isOpen : (w.records id).flow.state ≠ .closed := by
    intro closed
    unfold Expired at expired
    rw [closed] at expired
    rcases expired with ⟨phase, _⟩ | ⟨phase, _⟩ | ⟨phase, _⟩ <;> cases phase
  have closed := fold_expired (w.eng.flows.map Prod.snd) w
    (List.mem_map_of_mem (kept.indexed.stored id isOpen)) expired
  refine ⟨closed, fun entry member same => ?_⟩
  subst same
  exact ((kept.step .sweep).indexed.listed entry member).2 closed

/-! The stamps. -/

/-- When the phase began in which the flow is after the events, if it was in its phase since
`began` before them. -/
def phaseStart (id : FlowId) (w : World) (began : Int) : List WorldEvent → Int
  | [] => began
  | event :: rest =>
      phaseStart id (w.step event) ((w.conn id).began ((w.step event).conn id) began) rest

theorem Ages.carries : Carries Ages where
  refl := Ages.refl
  trans := Ages.trans
  own c event own _ := step_ages c event own
  aside c eng cfg now := by
    refine Ages.of_times ?_ (Nat.le_refl _) (Or.inl rfl)
    unfold Conn.times
    rw [cfg, now]

theorem Stamped.ended {began : Int} {c : Conn} (closed : c.flow.state = .closed) :
    Stamped began c := by
  constructor <;> intro phase <;> rw [closed] at phase <;> cases phase

theorem step_stamped {w : World} (kept : Kept w) (event : WorldEvent) (id : FlowId) {began : Int}
    (stamped : Stamped began (w.conn id)) :
    Stamped ((w.conn id).began ((w.step event).conn id) began) ((w.step event).conn id) := by
  by_cases closed : ((w.step event).conn id).flow.state = .closed
  · exact Stamped.ended closed
  by_cases old : id < w.created
  · by_cases ticks : ∃ millis, event = .tick millis
    · obtain ⟨millis, rfl⟩ := ticks
      have same : (w.conn id).began ((w.step (.tick millis)).conn id) began = began := if_pos rfl
      rw [same]
      exact ⟨stamped.opening, stamped.closing, stamped.waiting⟩
    · exact (step_along Ages.carries kept event (not_exists.mp ticks) old).stamped began stamped
  · -- a flow that does not exist before the step is opened in it
    have before : (w.conn id).flow.state = .closed := by
      by_contra isOpen
      exact old (kept.created id isOpen)
    cases step_creates kept event with
    | none even =>
        have reached := (kept.step event).created id closed
        rw [even.2] at reached
        exact absurd reached old
    | one eng key th payload data iss cfg now _ created opened =>
        have reached := (kept.step event).created id closed
        rw [created] at reached
        obtain rfl : id = w.created := Nat.eq_of_lt_succ_of_not_lt reached old
        have times := openFlow_times eng w.created key th payload data iss
        have state := (openFlow_coordinated eng w.created key th payload data iss).1
        rw [opened]
        unfold Conn.began
        rw [state, before, if_neg (by decide)]
        refine ⟨fun _ => ?_, fun phase => ?_, fun phase => ?_⟩
        · exact (congrArg Times.createdAt times).trans now
        · rw [state] at phase
          cases phase
        · rw [state] at phase
          cases phase

theorem run_stamped {w : World} (kept : Kept w) (events : List WorldEvent) (id : FlowId)
    {began : Int} (stamped : Stamped began (w.conn id)) :
    Stamped (phaseStart id w began events) ((w.run events).conn id) := by
  induction events generalizing w began with
  | nil => exact stamped
  | cons event rest ih => exact ih (kept.step event) (step_stamped kept event id stamped)

theorem run_cfg {w : World} (kept : Kept w) (events : List WorldEvent) :
    (w.run events).eng.cfg = w.eng.cfg := by
  induction events generalizing w with
  | nil => rfl
  | cons event rest ih =>
      have next : (w.step event).eng.cfg = w.eng.cfg := by
        cases step_creates kept event with
        | none even => exact even.1
        | one _ _ _ _ _ _ _ _ same _ _ => exact same
      exact (ih (kept.step event)).trans next

end World

end Tunio
