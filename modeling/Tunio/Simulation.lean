import Tunio.Acknowledge
import Tunio.Coroutine

/-!
Every event of a flow is a path of the sender, and so is every run.
-/

namespace Tunio

open Serial Machines

section

variable {iss : UInt32} {c₀ : Conn} {s₀ : Sender} {event : Event}

theorem Mirrors.congr {before after : Conn} {s : Sender} (mirrors : Mirrors iss before s)
    (send : after.flow.send = before.flow.send) (state : after.flow.state = before.flow.state)
    (out : after.out = before.out) (writes : after.writes = before.writes) :
    Mirrors iss after s := by
  refine ⟨mirrors.sim.congr send state out writes, mirrors.good, fun rst => ?_⟩
  exact state.trans (mirrors.rst ((congrArg SendView.rst send).symm.trans rst))

theorem afterWindow_leads {loop : WriteLoop} {winner : Winner} {index : Nat}
    (mirrors : Mirrors iss c₀ s₀) (resumed : event = .resume index)
    (found : c₀.loops[index]? = some loop) (decided : loop.winner = some winner)
    (awaits : loop.await = .window) :
    Leads iss c₀ s₀ event s₀ (afterWindow c₀ loop winner).conn := by
  have cause : ∃ index, event = .resume index := ⟨index, resumed⟩
  cases winner with
  | signal => exact Reaches.here mirrors
  | timer =>
      unfold afterWindow
      dsimp only
      split
      · rename_i spent
        refine giveUp_leads mirrors ?_ (by rw [resumed]; rfl)
        rw [resumed]
        exact ⟨loop, found, decided, Or.inl ⟨awaits, spent⟩⟩
      · split
        · exact Reaches.here (mirrors.congr rfl rfl rfl rfl)
        · rename_i op active
          change Leads iss c₀ s₀ event s₀ (if _ then _ else _)
          split
          · exact sendWindowProbe_leads mirrors active ‹_› cause
          · split
            · exact retransmitUnacked_leads mirrors _ cause
            · exact Reaches.here mirrors

theorem afterAck_leads {loop : WriteLoop} {winner : Winner} {index : Nat}
    (mirrors : Mirrors iss c₀ s₀) (resumed : event = .resume index)
    (found : c₀.loops[index]? = some loop) (decided : loop.winner = some winner)
    (awaits : loop.await = .ack) :
    Leads iss c₀ s₀ event s₀ (afterAck c₀ loop winner).conn := by
  have cause : ∃ index, event = .resume index := ⟨index, resumed⟩
  cases winner with
  | signal =>
      unfold afterAck
      dsimp only
      split <;> exact Reaches.here mirrors
  | timer =>
      unfold afterAck
      dsimp only
      split
      · rename_i stalled
        split
        · rename_i spent
          refine giveUp_leads mirrors ?_ (by rw [resumed]; rfl)
          rw [resumed]
          exact ⟨loop, found, decided, Or.inr ⟨awaits, stalled, spent⟩⟩
        · change Leads iss c₀ s₀ event s₀ (if _ then _ else _)
          split
          · exact retransmitUnacked_leads mirrors _ cause
          · exact Reaches.here mirrors
      · exact Reaches.here mirrors

theorem setLoop_leads {s : Sender} (index : Nat) (next : Turn)
    (there : Leads iss c₀ s₀ event s next.conn) : Leads iss c₀ s₀ event s (setLoop index next) := by
  refine there.trans fun t mirrors => Reaches.here ?_
  cases next <;> exact mirrors.congr rfl rfl rfl rfl

theorem resumeLoop_leads (mirrors : Mirrors iss c₀ s₀) (index : Nat)
    (resumed : event = .resume index) : Leads iss c₀ s₀ event s₀ (resumeLoop c₀ index) := by
  have cause : event.isSegment = false := by rw [resumed]; rfl
  unfold resumeLoop
  split
  · rename_i loop found
    split
    · rename_i winner decided
      apply setLoop_leads
      have woken : Leads iss c₀ s₀ event s₀ (afterRace c₀ loop winner).conn := by
        unfold afterRace
        split
        · exact Reaches.here mirrors
        · exact afterWindow_leads mirrors resumed found decided ‹_›
        · exact afterAck_leads mirrors resumed found decided ‹_›
        · exact Reaches.here mirrors
      exact woken.trans fun t there => continueLoop_leads _ there cause
    · exact Reaches.here mirrors
  · exact Reaches.here mirrors

theorem deviceDone_leads (mirrors : Mirrors iss c₀ s₀) (index : Nat) (failed : Bool)
    (completed : event = .device index failed) :
    Leads iss c₀ s₀ event s₀ (deviceDone c₀ index failed) := by
  have cause : event.isSegment = false := by rw [completed]; rfl
  unfold deviceDone
  split
  · rename_i loop found
    split
    · rename_i awaits
      apply setLoop_leads
      have woken : Leads iss c₀ s₀ event s₀ (afterDevice c₀ loop failed).conn := by
        unfold afterDevice
        split
        · rename_i broken
          refine exitLoop_leads mirrors ?_
          rw [completed, broken]
          simp [failedWrite, found, awaits]
        · split <;> exact Reaches.here mirrors
      exact woken.trans fun t there => continueLoop_leads _ there cause
    · exact Reaches.here mirrors
  · exact Reaches.here mirrors

/-! The operations of the application. -/

theorem postWrite_leads {c : Conn} {s : Sender} (mirrors : Mirrors iss c s)
    (handler : HandlerId) (ec : ErrorCode)
    (allowed : Because c₀ s₀ event s (.report { handler := handler, ec := ec, n := 0 })) :
    Leads iss c₀ s₀ event s (postWrite c handler ec 0) := by
  have sim := mirrors.sim
  refine mirrors.leads (.report { handler := handler, ec := ec, n := 0 }) trivial allowed ?_
    mirrors.rst
  exact ⟨sim.base, sim.state, sim.una, sim.nxt, sim.wnd, sim.scale, sim.finSent, sim.finPending,
    sim.probing, sim.write, sim.tape, congrArg (· ++ [_]) sim.reports⟩

/-- A write that is taken on starts at `snd_nxt`. -/
theorem spawnLoop_leads {c : Conn} {s : Sender} (mirrors : Mirrors iss c s)
    (buffers : List (List UInt8)) (implicitAccept : Bool) (handler : HandlerId)
    (idle : c.flow.activeWrite = none) (unsent : c.flow.finSent = false)
    (opened : s.state ≠ .closed ∧ s.state ≠ .synRcvd)
    (filled : 0 < (buffers.map List.length).sum) (same : s.started = s₀.started)
    (written : ∃ handler, event = .write buffers handler) :
    Leads iss c₀ s₀ event s (spawnLoop { c with flow.activeWrite := some {
      buffers := buffers
      total := (buffers.map List.length).sum
      implicitAccept := implicitAccept
      handler := handler } }) := by
  have sim := mirrors.sim
  obtain ⟨cause, written⟩ := written
  have notSegment : event.isSegment = false := by rw [written]; rfl
  let write : Writing := { bytes := buffers.flatten, start := s.nxt, offset := 0, handler := handler }
  have length : buffers.flatten.length = (buffers.map List.length).sum := List.length_flatten
  have enabled : s.Enabled (.start write) :=
    ⟨sim.noWrite.mp idle, sim.finSent.symm.trans unsent, opened.1, opened.2, rfl, rfl,
      by change 0 < buffers.flatten.length; omega⟩
  have allowed : Because c₀ s₀ event s (.start write) := ⟨same, buffers, cause, written, rfl⟩
  let started : Conn := { c with
    flow.writeCh := some (c.flow.writeCh.getD { isOpen := true })
    flow.activeWrite := some {
      buffers := buffers
      total := (buffers.map List.length).sum
      startSeq := c.flow.sndNxt
      implicitAccept := implicitAccept
      handler := handler } }
  have there : Mirrors iss started (s.act (.start write)) := by
    refine ⟨?_, mirrors.good.act _ enabled, mirrors.rst⟩
    refine ⟨sim.base, sim.state, sim.una, sim.nxt, sim.wnd, sim.scale, sim.finSent,
      sim.finPending, sim.probing, .some ?_, sim.tape, sim.reports⟩
    exact ⟨rfl, length.symm, rfl, sim.nxt, rfl, by simp, Nat.zero_le _⟩
  refine Reaches.cons (.start write) enabled allowed ?_
  unfold spawnLoop
  have first : Leads iss c₀ s₀ event (s.act (.start write)) (startLoop { c with
      flow.activeWrite := some {
        buffers := buffers
        total := (buffers.map List.length).sum
        implicitAccept := implicitAccept
        handler := handler } }).conn := by
    exact continueLoop_leads (.again started _) there notSegment
  split
  · rename_i result
    rw [result] at first
    exact first.trans fun t mirrors => Reaches.here (mirrors.congr rfl rfl rfl rfl)
  · rename_i result
    rw [result] at first
    exact first.trans fun t mirrors => Reaches.here (mirrors.congr rfl rfl rfl rfl)
  · rename_i result
    rw [result] at first
    exact first

theorem doWriteSome_leads (mirrors : Mirrors iss c₀ s₀) (buffers : List (List UInt8))
    (handler : HandlerId) (written : event = .write buffers handler) :
    Leads iss c₀ s₀ event s₀ (doWriteSome c₀ buffers handler) := by
  have refused {c : Conn} {s : Sender} (there : Mirrors iss c s) (ec : ErrorCode)
      (failed : ec ≠ .success) : Leads iss c₀ s₀ event s (postWrite c handler ec 0) :=
    postWrite_leads there handler ec fun success => absurd success failed
  have taken {c : Conn} {s : Sender} (there : Mirrors iss c s) (same : s.started = s₀.started)
      (unsent : c.flow.finSent = false) (opened : s.state ≠ .closed ∧ s.state ≠ .synRcvd)
      (implicitAccept : Bool) :
      Leads iss c₀ s₀ event s (if (buffers.map List.length).sum = 0 then
          postWrite c handler .success 0
        else if c.flow.activeWrite.isSome then postWrite c handler .noBufferSpace 0
        else spawnLoop { c with flow.activeWrite := some {
          buffers := buffers
          total := (buffers.map List.length).sum
          implicitAccept := implicitAccept
          handler := handler } }) := by
    split
    · rename_i nothing
      refine postWrite_leads there handler _ fun _ => ⟨rfl, Or.inr ⟨buffers, handler, written, ?_⟩⟩
      rwa [← List.length_flatten, List.length_eq_zero_iff] at nothing
    · split
      · exact refused there _ (by simp)
      · rename_i filled idle
        exact spawnLoop_leads there buffers implicitAccept handler (by simpa using idle) unsent
          opened (by omega) same ⟨handler, written⟩
  unfold doWriteSome tcpFlowStartWrite
  split
  · exact refused mirrors _ (by simp)
  · rename_i stopped
    simp only [not_or, Bool.not_eq_true] at stopped
    obtain ⟨isOpen, _, unsent⟩ := stopped
    split
    · exact refused mirrors _ (by simp)
    · dsimp only
      by_cases waiting : c₀.flow.state = .synRcvd
      · have accepted := acceptFlow_mirrors mirrors waiting
        have still : (acceptFlow c₀).flow.finSent = false := by
          rw [accepted.sim.finSent]
          exact mirrors.sim.finSent.symm.trans unsent
        simp only [waiting, decide_true, if_true]
        refine Reaches.cons .syn (mirrors.sim.state.symm.trans waiting) ?_ ?_
        · rw [written]
          rfl
        · exact taken accepted rfl still ⟨by simp [Sender.act], by simp [Sender.act]⟩ true
      · simp only [waiting, decide_false, Bool.false_eq_true, if_false]
        rw [mirrors.sim.state] at isOpen waiting
        exact taken mirrors rfl unsent ⟨isOpen, waiting⟩ false

theorem doReadSome_leads (mirrors : Mirrors iss c₀ s₀) (buffers : List Nat) (handler : HandlerId)
    (cause : event.isSegment = false) :
    Leads iss c₀ s₀ event s₀ (doReadSome c₀ buffers handler) := by
  have accepted : Leads iss c₀ s₀ event s₀
      (if c₀.flow.state = .synRcvd then acceptFlow c₀ else c₀) := by
    split
    · exact acceptFlow_follows c₀ cause s₀ mirrors
    · exact Reaches.here mirrors
  unfold doReadSome tcpFlowStartRead
  split
  · exact (Quiet.postRead c₀ _ _ _ _).follows s₀ mirrors
  · split
    · exact (Quiet.postRead c₀ _ _ _ _).follows s₀ mirrors
    · dsimp only
      generalize (if c₀.flow.state = .synRcvd then acceptFlow c₀ else c₀) = c at accepted ⊢
      split
      · exact accepted.trans (Quiet.postRead c _ _ _ _).follows
      · split
        · exact accepted.trans (Quiet.postRead c _ _ _ _).follows
        · refine accepted.trans (Simulates.trans ?_ (Quiet.flushReads _).follows)
          exact Simulates.of_related fun s there => there.congr rfl rfl rfl rfl

theorem Mirrors.silent {before after : Conn} {s : Sender} (mirrors : Mirrors iss before s)
    (silent : Silent before after) (state : after.flow.state = before.flow.state) :
    Mirrors iss after s := mirrors.congr silent.send state silent.out silent.writes

theorem shutdownReceive_leads (mirrors : Mirrors iss c₀ s₀) :
    Leads iss c₀ s₀ event s₀ (tcpFlowShutdownReceive c₀) := by
  unfold tcpFlowShutdownReceive
  split
  · exact Reaches.here mirrors
  · have marked : Mirrors iss { c₀ with flow.rxShutdown := true, flow.activeRead := none } s₀ :=
      mirrors.congr rfl rfl rfl rfl
    have silent := (Silent.dropReceived { c₀ with
      flow.rxShutdown := true, flow.activeRead := none }).trans
      (Silent.completeRead _ c₀.flow.activeRead .operationAborted)
    refine Reaches.here (marked.silent silent ?_)
    rw [completeRead_flow, dropReceived_state]

/-- The completions at the end of `close`. -/
theorem Mirrors.complete {c : Conn} {s : Sender} (mirrors : Mirrors iss c s)
    (readOp : Option ReadOp) (writeOp : Option WriteOp) (err : ErrorCode) :
    Mirrors iss (completeWrite (completeRead c readOp err) writeOp err)
      { s with reports := s.reports ++ failure writeOp err } := by
  have read := mirrors.silent (Silent.completeRead c readOp err) (by simp)
  have done := completeWrite_writes (completeRead c readOp err) writeOp err
  have flow := completeWrite_flow (completeRead c readOp err) writeOp err
  have good := read.good
  refine ⟨?_, ⟨good.positions, good.phases, good.write, good.idle, good.calm⟩, ?_⟩
  · refine read.sim.of_send (congrArg TcpFlow.send flow) ?_ ?_ ?_
    · rw [flow, read.sim.state]
    · rw [done.1, read.sim.tape]
    · rw [done.2, read.sim.reports]
  · rw [flow]
    exact read.rst

/-- The reset of `close`. -/
theorem closeAbort_leads {c : Conn} (quiet : Mirrors iss c { s₀ with write := none })
    (good : Good s₀) (idle : c.flow.activeWrite = none) (isOpen : c.flow.state ≠ .closed)
    (closing : event = .close) : Leads iss c₀ s₀ event s₀ (abortFlow c) := by
  have aborts : MayReset c₀ event s₀ := Or.inl (by rw [closing]; trivial)
  have path : Steps senderMachine (Because c₀ s₀ event) s₀
      ((s₀.act (.bare (tcpRst ||| tcpAck))).act .close) :=
    Steps.step (.bare (tcpRst ||| tcpAck)) (Or.inr rfl) (Or.inr aborts)
      (Steps.single Action.close trivial ⟨by rw [closing]; rfl, Or.inl aborts⟩)
  have aborted := quiet.sim.abortFlow isOpen good.near_nxt
  rw [idle, failure_none, List.append_nil] at aborted
  exact ⟨_, path, aborted, good.path path, fun _ => abortFlow_state c⟩

/-- The FIN of `close`: the write is dropped in the same step. -/
theorem closeFin_leads {c : Conn} (quiet : Mirrors iss c { s₀ with write := none })
    (good : Good s₀) (idle : c.flow.activeWrite = none) (isOpen : c.flow.state ≠ .closed)
    (settled : c.flow.sndUna = c.flow.sndNxt) (closing : event = .close) :
    Leads iss c₀ s₀ event s₀ (sendFin c) := by
  have sim := quiet.sim
  have unsent : unsentWrite c.flow = false := unsentWrite_false.mpr (by simp [idle])
  rcases sendFin_cases c with
    ⟨sent, same⟩ | ⟨notSent, _, ⟨waits, _⟩ | ⟨_, ⟨sends, same⟩ | ⟨early, same⟩ | ⟨late, _⟩⟩⟩
  · have finSent : s₀.finSent = true := sim.finSent.symm.trans (sent.resolve_right isOpen)
    rw [same]
    exact Reaches.cons .discard finSent closing (Reaches.here quiet)
  · exact absurd waits (by simp [unsent, settled])
  · have may : s₀.MayFinish := ⟨quiet.settled.mp settled, sim.finSent.symm.trans notSent,
      by rwa [sim.state] at sends⟩
    rw [same]
    refine Reaches.act .quit may ⟨closing, rfl⟩ ⟨?_, good.act .quit may, fun rst => ?_⟩
    · exact sim.emitFin may.2.2 good.near_nxt
    · have kept := sendSegment_send { c with
        flow.finSent := true
        flow.state := c.flow.state.finished
        flow.closeStartedAt := c.eng.now } c.flow.sndNxt (tcpAck ||| tcpFin) [] false
      exact absurd (quiet.rst ((congrArg SendView.rst kept).symm.trans rst)) isOpen
  · have aborts : MayReset c₀ event s₀ := Or.inl (by rw [closing]; trivial)
    have path : Steps senderMachine (Because c₀ s₀ event) s₀
        (((s₀.act (.bare (tcpRst ||| tcpAck))).act .close).act .sealed) :=
      Steps.step (.bare (tcpRst ||| tcpAck)) (Or.inr rfl) (Or.inr aborts)
        (Steps.step .close trivial ⟨by rw [closing]; rfl, Or.inl aborts⟩
          (Steps.single Action.sealed rfl trivial))
    have marked : Sim iss { c with flow.finSent := true }
        { s₀ with write := none, finSent := true } :=
      ⟨sim.base, sim.state, sim.una, sim.nxt, sim.wnd, sim.scale, rfl, sim.finPending,
        sim.probing, sim.write, sim.tape, sim.reports⟩
    have aborted := marked.abortFlow isOpen good.near_nxt
    have none_ : ({ c with flow.finSent := true } : Conn).flow.activeWrite = none := idle
    rw [none_, failure_none, List.append_nil] at aborted
    rw [same]
    exact ⟨_, path, aborted, good.path path, fun _ => abortFlow_state _⟩
  · have before := good.phases.unfinished (sim.finSent.symm.trans notSent)
    have state : s₀.state = c.flow.state := sim.state.symm
    exfalso
    rcases late with late | late | late | late <;> simp [state, late] at before

theorem tcpFlowClose_leads (mirrors : Mirrors iss c₀ s₀) (closing : event = .close) :
    Leads iss c₀ s₀ event s₀ (tcpFlowClose c₀) := by
  unfold tcpFlowClose
  split
  · exact Reaches.here mirrors
  · rename_i neither
    rw [not_or] at neither
    have sim := mirrors.sim
    have dropped : Sim iss { c₀ with
        flow.appClosed := true
        flow.activeRead := none
        flow.activeWrite := none } { s₀ with write := none } :=
      ⟨sim.base, sim.state, sim.una, sim.nxt, sim.wnd, sim.scale, sim.finSent, sim.finPending,
        sim.probing, .none, sim.tape, sim.reports⟩
    have silent := (Silent.closeWriteCh { c₀ with
      flow.appClosed := true
      flow.activeRead := none
      flow.activeWrite := none }).trans (Silent.dropReceived _)
    have state : (dropReceived (closeWriteCh { c₀ with
        flow.appClosed := true
        flow.activeRead := none
        flow.activeWrite := none })).flow.state = c₀.flow.state := by
      rw [dropReceived_state, closeWriteCh_flow_state]
    dsimp only
    generalize dropReceived (closeWriteCh { c₀ with
      flow.appClosed := true
      flow.activeRead := none
      flow.activeWrite := none }) = c at silent state ⊢
    have idle : c.flow.activeWrite = none := congrArg SendView.activeWrite silent.send
    have isOpen : c.flow.state ≠ .closed := by rw [state]; exact neither.1
    have quiet : Mirrors iss c { s₀ with write := none } := by
      refine ⟨dropped.congr silent.send state silent.out silent.writes, mirrors.good.dropWrite, ?_⟩
      intro rst
      have was := congrArg SendView.rst silent.send
      exact absurd (mirrors.rst (was.symm.trans rst)) neither.1
    have ended : Leads iss c₀ s₀ event s₀
        (if c.flow.sndUna ≠ c.flow.sndNxt then abortFlow c else sendFin c) := by
      split
      · exact closeAbort_leads quiet mirrors.good idle isOpen closing
      · rename_i settled
        exact closeFin_leads quiet mirrors.good idle isOpen (not_not.mp settled) closing
    obtain ⟨s, path, there⟩ := ended
    exact ⟨_, path.trans (failure_path s c₀.flow.activeWrite .operationAborted (by simp)),
      there.complete _ _ _⟩

/-! The timers and the table. -/

theorem abort_leads {c : Conn} {s : Sender} (mirrors : Mirrors iss c s) (aborts : Aborts c₀ event)
    (notWrite : event.isWrite = false) : Leads iss c₀ s₀ event s (abortFlow c) := by
  by_cases closed : c.flow.state = .closed
  · rw [abortFlow, if_pos closed]
    exact Reaches.here mirrors
  · exact abortFlow_leads mirrors closed (Or.inl aborts) notWrite

theorem close_leads {c : Conn} {s : Sender} (mirrors : Mirrors iss c s)
    (closing : event = .sweep ∨ event = .closeAll) :
    Leads iss c₀ s₀ event s (closeFlow c .operationAborted) := by
  by_cases closed : c.flow.state = .closed
  · rw [closeFlow, if_pos closed]
    exact Reaches.here mirrors
  · refine closeFlow_leads mirrors.sim mirrors.good _ closed ⟨?_, Or.inr ?_⟩ (by simp)
    · rcases closing with rfl | rfl <;> rfl
    · rcases closing with swept | all
      · exact Or.inl swept
      · exact Or.inr (Or.inl all)

theorem sweepFlow_leads (mirrors : Mirrors iss c₀ s₀) (swept : event = .sweep) :
    Leads iss c₀ s₀ event s₀ (sweepFlow c₀) := by
  have notWrite : event.isWrite = false := by rw [swept]; rfl
  have aborts (old : SweepAborts c₀) : Aborts c₀ event := by
    rw [swept]
    exact old
  unfold sweepFlow
  dsimp only
  split
  · exact abort_leads mirrors (aborts (Or.inl ‹_›)) notWrite
  · split
    · exact abort_leads mirrors (aborts (Or.inr ‹_›)) notWrite
    · split
      · exact close_leads mirrors (Or.inl swept)
      · split
        · exact close_leads mirrors (Or.inl swept)
        · exact Reaches.here mirrors

theorem timerFires_leads (mirrors : Mirrors iss c₀ s₀) (index : Nat) :
    Leads iss c₀ s₀ event s₀ (timerFires c₀ index) := by
  unfold timerFires
  split
  · split
    · exact Reaches.here (mirrors.congr rfl rfl rfl rfl)
    · exact Reaches.here mirrors
  · exact Reaches.here mirrors

theorem ackTimerExpires_leads (mirrors : Mirrors iss c₀ s₀) :
    Leads iss c₀ s₀ event s₀ (ackTimerExpires c₀) := by
  unfold ackTimerExpires
  split
  · split
    · exact Reaches.here (mirrors.congr rfl rfl rfl rfl)
    · exact Reaches.here mirrors
  · exact Reaches.here mirrors

theorem ackTimerRuns_leads (mirrors : Mirrors iss c₀ s₀) :
    Leads iss c₀ s₀ event s₀ (ackTimerRuns c₀) := by
  unfold ackTimerRuns
  split
  · rename_i timer _
    split
    · have marked : Mirrors iss { c₀ with
          flow.ackTimer := some { timer with expired := timer.expired - 1 } } s₀ :=
        mirrors.congr rfl rfl rfl rfl
      dsimp only
      split
      · exact Reaches.here marked
      · exact (Quiet.sendAck _).follows s₀ marked
    · exact Reaches.here mirrors
  · exact Reaches.here mirrors

theorem handOut_leads (mirrors : Mirrors iss c₀ s₀) :
    Leads iss c₀ s₀ event s₀ (handOut c₀) := by
  unfold handOut
  dsimp only
  split
  · split <;> exact Reaches.here (mirrors.congr rfl rfl rfl rfl)
  · exact Reaches.here mirrors

end

/-- Every event of a flow is a path of the sender. -/
theorem step_leads {iss : UInt32} {c : Conn} {s : Sender} (mirrors : Mirrors iss c s)
    (event : Event) : Leads iss c s event s (step c event) := by
  cases event with
  | segment th data => exact receiveSegment_leads mirrors rfl
  | read buffers handler => exact doReadSome_leads mirrors buffers handler rfl
  | write buffers handler => exact doWriteSome_leads mirrors buffers handler rfl
  | shutdownSend =>
      unfold step tcpFlowShutdownSend
      dsimp only
      split
      · exact Reaches.here mirrors
      · exact sendFin_leads mirrors (Or.inl rfl)
  | shutdownReceive => exact shutdownReceive_leads mirrors
  | close => exact tcpFlowClose_leads mirrors rfl
  | reset =>
      unfold step tcpFlowReset
      dsimp only
      split
      · exact Reaches.here mirrors
      · exact abort_leads mirrors trivial rfl
  | accept => exact acceptFlow_follows c rfl s mirrors
  | reject => exact abort_leads mirrors trivial rfl
  | handOut => exact handOut_leads mirrors
  | timer index => exact timerFires_leads mirrors index
  | resume index => exact resumeLoop_leads mirrors index rfl
  | device index failed => exact deviceDone_leads mirrors index failed rfl
  | ackTimerExpires => exact ackTimerExpires_leads mirrors
  | ackTimerRuns => exact ackTimerRuns_leads mirrors
  | sweep => exact sweepFlow_leads mirrors rfl
  | closeAll => exact close_leads mirrors (Or.inr rfl)
  | elsewhere eng => exact Reaches.here (mirrors.congr rfl rfl rfl rfl)

theorem Mirrors.nxtPos {iss : UInt32} {c : Conn} {s : Sender} (mirrors : Mirrors iss c s) :
    nxtPos c = s.nxt := by
  have near := mirrors.good.near_nxt
  rw [Tunio.nxtPos, mirrors.sim.base, mirrors.sim.tape, mirrors.sim.nxt]
  exact near_num iss s.tape.top s.nxt near.1 near.2

theorem Mirrors.position {iss : UInt32} {c : Conn} {s : Sender} (mirrors : Mirrors iss c s)
    (pos : Nat) (lower : s.nxt ≤ pos + 2 ^ 31) (upper : pos < s.nxt + 2 ^ 31) :
    position c (num iss pos) = pos := by
  rw [Tunio.position, mirrors.nxtPos, mirrors.sim.nxt, signed_num_sub iss pos s.nxt lower upper]
  omega

/-- What a path adds to the log are the emissions of the event. -/
theorem Mirrors.emitted {iss : UInt32} {before after : Conn} {s last : Sender}
    (mirrors : Mirrors iss before s) (there : Mirrors iss after last) {more : List Emission}
    (log : last.tape.log = s.tape.log ++ more) : emitted before after = more := by
  have length := tapeOf_log_length iss before.out
  rw [mirrors.sim.tape] at length
  rw [Tunio.emitted, there.sim.base, there.sim.tape, log, ← length, List.drop_left]

/-- What every step keeps of a flow and its sender holds after every run whose events meet
the condition. -/
theorem run_sender {iss : UInt32} {c : Conn} {s : Sender} (mirrors : Mirrors iss c s)
    (meets : Conn → Event → Prop) (holds : List Event → Sender → Prop) (start : holds [] s)
    (keeps : ∀ before event t last, Mirrors iss (run c before) t → holds before t →
      meets (run c before) event → Steps senderMachine (Because (run c before) t event) t last →
      Mirrors iss (step (run c before) event) last → holds (before ++ [event]) last)
    (events : List Event) (always : Always meets c events) :
    ∃ last, Mirrors iss (run c events) last ∧ holds events last := by
  induction events using List.reverseRecOn with
  | nil => exact ⟨s, mirrors, start⟩
  | append_singleton before event ih =>
      obtain ⟨earlier, now⟩ := always.split
      obtain ⟨t, there, kept⟩ := ih earlier
      obtain ⟨last, path, after⟩ := step_leads there event
      refine ⟨last, ?_, keeps before event t last there kept now path after⟩
      rw [run_append]
      exact after

/-! The start of a run. -/

/-- The sender of a flow that has not answered the SYN. -/
def Sender.fresh (wnd : Nat) : Sender where
  state := .synRcvd
  una := 0
  nxt := 0
  wnd := wnd
  tape := {}
  write := none
  finSent := false
  finPending := false
  probing := false
  reports := []
  started := []

theorem Sender.fresh_good (wnd : Nat) (small : wnd < 2 ^ 30) : Good (fresh wnd) := by
  refine ⟨⟨le_rfl, Nat.zero_le _, small, Nat.zero_le _, Nat.zero_le _, ?_⟩,
    ⟨fun _ => rfl, Or.inl rfl, Or.inl rfl, fun _ => Or.inl rfl, ?_⟩, ?_, fun _ => rfl, fun _ => rfl⟩
  · intro probing
    cases probing
  · intro finSent
    cases finSent
  · intro write active
    cases active

theorem parseSynWscaleFrom_le (payload : List UInt8) (hlen fuel o : Nat) (found : UInt8 × Bool)
    (small : found.1.toNat ≤ 14) :
    (parseSynWscaleFrom payload hlen fuel o found).1.toNat ≤ 14 := by
  induction fuel generalizing o found with
  | zero => exact small
  | succ fuel ih =>
      unfold parseSynWscaleFrom
      split
      · dsimp only
        split
        · exact ih _ _ small
        · split
          · exact small
          · refine ih _ _ ?_
            split
            · rename_i option
              exact UInt8.le_iff_toNat_le.mp option.2.2
            · exact small
      · exact small

theorem openFlow_mirrors (eng : TcpEngine) (id : FlowId) (key : FiveTuple) (th : TcpHeader)
    (payload data : List UInt8) (iss : UInt32) :
    Mirrors iss (openFlow eng id key th payload data iss) (Sender.fresh th.window.toNat) := by
  have window : th.window.toNat < 2 ^ 16 := th.window.toNat_lt
  have scale := parseSynWscaleFrom_le payload th.headerLen th.headerLen 20 (0, false)
    (Nat.zero_le _)
  let c : Conn := {
    flow := synFlow eng id key th payload iss
    eng := { eng with flows := (key, id) :: eng.flows } }
  have made : Mirrors iss c (Sender.fresh th.window.toNat) := by
    refine ⟨⟨rfl, rfl, (num_zero iss).symm, (num_zero iss).symm, ?_, ?_, rfl, rfl, rfl, .none, rfl,
      rfl⟩, Sender.fresh_good _ (by omega), fun rst => by cases rst⟩
    · exact UInt16.toNat_toUInt32 th.window
    · change (if _ then _ else _ : UInt8).toNat ≤ 14
      split
      · exact scale
      · exact Nat.zero_le _
  have taken : Mirrors iss (takeSynData c th data) (Sender.fresh th.window.toNat) := by
    unfold takeSynData
    split
    · split <;> exact made.congr rfl rfl rfl rfl
    · exact made
  unfold openFlow notifyAccept
  dsimp only
  split <;> exact taken.congr rfl rfl rfl rfl

end Tunio
