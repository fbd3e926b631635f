import Mathlib.Data.Option.Basic
import Tunio.Frame
import Tunio.Aside
import Tunio.Sender

/-!
The flow refines the sender.  `Mirrors` relates a flow to a sender whose positions are the
sequence numbers counted from `iss`, and `Because` says which event of the flow lets the
sender take which action.
-/

namespace Tunio

open Serial Machines

structure Tracks (iss : UInt32) (op : WriteOp) (write : Writing) : Prop where
  bytes : op.buffers.flatten = write.bytes
  total : op.total = write.bytes.length
  offset : op.offset = write.offset
  start : op.startSeq = num iss write.start
  handler : op.handler = write.handler
  cursor : (op.buffers.take op.bufIndex).flatten.length + op.bufOff = op.offset
  index : op.bufIndex ≤ op.buffers.length

structure Sim (iss : UInt32) (c : Conn) (s : Sender) : Prop where
  base : c.flow.iss = iss
  state : c.flow.state = s.state
  una : c.flow.sndUna = num iss s.una
  nxt : c.flow.sndNxt = num iss s.nxt
  wnd : c.flow.peerWnd.toNat = s.wnd
  scale : c.flow.sndWndScale.toNat ≤ 14
  finSent : c.flow.finSent = s.finSent
  finPending : c.flow.finPending = s.finPending
  probing : c.flow.probeInFlight = s.probing
  write : Option.Rel (Tracks iss) c.flow.activeWrite s.write
  tape : tapeOf iss c.out = s.tape
  reports : c.writes = s.reports

structure Mirrors (iss : UInt32) (c : Conn) (s : Sender) : Prop where
  sim : Sim iss c s
  good : Good s
  rst : c.flow.rst = true → c.flow.state = .closed

/-! Which events let a sender take which actions. -/

/-- The timeouts after which a sweep resets the flow. -/
def SweepAborts (c : Conn) : Prop :=
  ((c.flow.state = .synRcvd ∨ c.flow.state = .synAckSent) ∧
    c.eng.now - c.flow.createdAt > c.eng.cfg.tcpSynTimeout * 1000) ∨
  (c.flow.state = .established ∧ ¬c.flow.accepted ∧
    c.eng.now - c.flow.createdAt > c.eng.cfg.tcpAcceptTimeout * 1000)

/-- The timer of a coroutine has expired once more than the configuration allows. -/
def GivesUp (c : Conn) (loop : WriteLoop) : Prop :=
  loop.winner = some .timer ∧
    ((loop.await = .window ∧ loop.persistProbes + 1 > c.eng.cfg.tcpPersistMaxProbes) ∨
      (loop.await = .ack ∧ c.flow.sndUna = loop.lastUna ∧
        loop.retransmits + 1 > c.eng.cfg.tcpRtoMaxRetransmits))

/-- The events with which this side resets the flow. -/
def Aborts (c : Conn) : Event → Prop
  | .close => True
  | .reset => True
  | .reject => True
  | .sweep => SweepAborts c
  | .resume index => ∃ loop, c.loops[index]? = some loop ∧ GivesUp c loop
  | _ => False

/-- The device write that a coroutine waits for fails. -/
def failedWrite (c : Conn) : Event → Bool
  | .device index true => c.loops[index]?.any fun loop => loop.await == .device
  | _ => false

def Event.isSegment : Event → Bool
  | .segment _ _ => true
  | _ => false

def Event.isWrite : Event → Bool
  | .write _ _ => true
  | _ => false

namespace Sender

def Emitted (s : Sender) : Prop := ∀ write ∈ s.write, write.offset = write.bytes.length

/-- A FIN goes out as soon as everything is emitted and acknowledged. -/
def Due (s : Sender) : Prop := s.finSent = false ∧ s.una = s.nxt ∧ s.Emitted

/-- In these states the FIN is a reset. -/
def FinResets (s : Sender) : Prop := s.Due ∧ (s.state = .synRcvd ∨ s.state = .synAckSent)

end Sender

def MayReset (c : Conn) (event : Event) (t : Sender) : Prop :=
  Aborts c event ∨ ((event = .shutdownSend ∨ event.isSegment = true) ∧ t.FinResets)

/-- The closing of a flow whose exchange is complete. -/
def Graceful (s : Sender) (event : Event) : Prop :=
  ∃ th data, event = .segment th data ∧
    ((s.state = .timeWait ∧ isSyn th = true) ∨
      (hasFlag th.flags tcpAck = true ∧
        (s.state = .lastAck ∨ (s.finPending = true ∧ s.Due ∧ s.state = .closeWait))))

def Because (c : Conn) (s : Sender) (event : Event) (t : Sender) : Action → Prop
  | .syn => event.isSegment = false
  | .ack pos => t = s ∧ ∃ th data, event = .segment th data ∧
      hasFlag th.flags tcpAck = true ∧ th.ack = num c.flow.iss pos
  | .probeAck => t = s ∧ ∃ th data, event = .segment th data ∧
      hasFlag th.flags tcpAck = true ∧ th.ack = num c.flow.iss (s.nxt + 1)
  | .bare flags => flags = tcpAck ∨ MayReset c event t
  | .pend pending => pending = true → ¬t.Due
  | .fin => event ≠ .close
  | .quit => event = .close ∧ t = s
  | .discard => event = .close
  | .window _ => event.isSegment = true
  | .probe _ => t = s ∧ ∃ index, event = .resume index
  | .resend pos payload => (∃ index, event = .resume index) ∧ t.una = s.una ∧ t.nxt = s.nxt ∧
      t.write = s.write ∧ ∀ write ∈ t.write, t.una < write.start + 2 ^ 32 →
        write.start ≤ pos ∧ payload = (write.bytes.drop (pos - write.start)).take payload.length
  | .start write => t.started = s.started ∧ ∃ buffers handler, event = .write buffers handler ∧
      write.bytes = buffers.flatten
  | .data _ _ => event.isSegment = false
  | .fail => t = s ∧ failedWrite c event = true
  | .close => event.isWrite = false ∧ (MayReset c event t ∨ event = .sweep ∨ event = .closeAll ∨
      (∃ th data, event = .segment th data ∧ hasFlag th.flags tcpRst = true) ∨ Graceful s event)
  | .report completion => completion.ec = .success → completion.n = 0 ∧
      (Graceful s event ∨ ∃ buffers handler, event = .write buffers handler ∧ buffers.flatten = [])
  | _ => True

namespace Sim

variable {iss : UInt32} {c : Conn} {s : Sender}

/-- The state, the tape and the reports can change under the same send view. -/
theorem of_send {after : Conn} (sim : Sim iss c s) (send : after.flow.send = c.flow.send)
    {state : TcpState} {tape : Tape} {reports : List WriteCompletion}
    (isState : after.flow.state = state) (isTape : tapeOf iss after.out = tape)
    (isReports : after.writes = reports) :
    Sim iss after { s with state := state, tape := tape, reports := reports } where
  base := (congrArg SendView.iss send).trans sim.base
  state := isState
  una := (congrArg SendView.sndUna send).trans sim.una
  nxt := (congrArg SendView.sndNxt send).trans sim.nxt
  wnd := by rw [show after.flow.peerWnd = c.flow.peerWnd from congrArg SendView.peerWnd send, sim.wnd]
  scale := by
    rw [show after.flow.sndWndScale = c.flow.sndWndScale from congrArg SendView.sndWndScale send]
    exact sim.scale
  finSent := (congrArg SendView.finSent send).trans sim.finSent
  finPending := (congrArg SendView.finPending send).trans sim.finPending
  probing := (congrArg SendView.probeInFlight send).trans sim.probing
  write := by
    rw [show after.flow.activeWrite = c.flow.activeWrite from congrArg SendView.activeWrite send]
    exact sim.write
  tape := isTape
  reports := isReports

/-- A change that the sender does not see. -/
theorem congr {after : Conn} (sim : Sim iss c s) (send : after.flow.send = c.flow.send)
    (state : after.flow.state = c.flow.state) (out : after.out = c.out)
    (writes : after.writes = c.writes) : Sim iss after s :=
  sim.of_send send (state.trans sim.state) (by rw [out, sim.tape]) (writes.trans sim.reports)

theorem noWrite (sim : Sim iss c s) : c.flow.activeWrite = none ↔ s.write = none := by
  have tracked := sim.write
  cases active : c.flow.activeWrite <;> cases writing : s.write <;> rw [active, writing] at tracked
  · simp
  · cases tracked
  · cases tracked
  · simp

theorem tracked (sim : Sim iss c s) {op : WriteOp} (active : c.flow.activeWrite = some op) :
    ∃ write, s.write = some write ∧ Tracks iss op write := by
  have related := sim.write
  rw [active] at related
  cases h : s.write with
  | none => rw [h] at related; cases related
  | some write =>
      rw [h] at related
      cases related with
      | some tracks => exact ⟨write, rfl, tracks⟩

/-- The segment that is submitted stands on the tape where the sender puts it. -/
theorem sendSegment (sim : Sim iss c s) (isOpen : c.flow.state ≠ .closed) (pos : Nat)
    (flags : UInt8) (payload : List UInt8) (withMss : Bool)
    (placed : (hasFlag flags tcpSyn = true ∧ pos = 0) ∨ (hasFlag flags tcpSyn = false ∧
      s.tape.top ≤ pos + 2 ^ 31 ∧ pos < s.tape.top + 2 ^ 31)) :
    Sim iss (sendSegment c (num iss pos) flags payload withMss) (s.emit pos flags payload) := by
  unfold Tunio.sendSegment
  rw [if_neg isOpen]
  refine ⟨sim.base, sim.state, sim.una, sim.nxt, sim.wnd, sim.scale, sim.finSent, sim.finPending,
    sim.probing, sim.write, ?_, sim.reports⟩
  change tapeOf iss (c.out ++ [_]) = s.tape.put _
  rw [tapeOf_append, sim.tape]
  rcases placed with ⟨syn, rfl⟩ | ⟨notSyn, lower, upper⟩
  · simp [Tape.emit, buildSegment, syn]
  · exact Tape.emit_num iss s.tape _ pos rfl notSyn lower upper

end Sim

/-! One lemma for each operation of the flow. -/

section

variable {iss : UInt32} {c₀ : Conn} {s₀ : Sender} {event : Event}

/-- What `event` makes of a flow, the sender reaches from `s`. -/
abbrev Leads (iss : UInt32) (c₀ : Conn) (s₀ : Sender) (event : Event) (s : Sender)
    (after : Conn) : Prop :=
  Reaches senderMachine (Mirrors iss) (Because c₀ s₀ event) s after

abbrev Follows (iss : UInt32) (c₀ : Conn) (s₀ : Sender) (event : Event)
    (before after : Conn) : Prop :=
  Simulates senderMachine (Mirrors iss) (Because c₀ s₀ event) before after

theorem Mirrors.leads {c after : Conn} {s : Sender} (mirrors : Mirrors iss c s) (a : Action)
    (enabled : s.Enabled a) (allowed : Because c₀ s₀ event s a) (sim : Sim iss after (s.act a))
    (rst : after.flow.rst = true → after.flow.state = .closed) :
    Leads iss c₀ s₀ event s after :=
  Reaches.act a enabled allowed ⟨sim, mirrors.good.act a enabled, rst⟩

theorem Good.near_nxt {s : Sender} (good : Good s) :
    s.tape.top ≤ s.nxt + 2 ^ 31 ∧ s.nxt < s.tape.top + 2 ^ 31 := by
  have upper := good.positions.upper
  have lower := good.positions.lower
  omega

/-- Bare acknowledgements move the tape only. -/
theorem Good.acks {s : Sender} (good : Good s) (c₀ : Conn) (s₀ : Sender) (event : Event)
    (acks : List Segment)
    (pure : ∀ ack ∈ acks, PureAck (num iss s.nxt) ack) (out : List Segment)
    (tape : tapeOf iss out = s.tape) :
    ∃ tape, Steps senderMachine (Because c₀ s₀ event) s { s with tape := tape } ∧
      tapeOf iss (out ++ acks) = tape := by
  induction acks generalizing s out with
  | nil => exact ⟨s.tape, Steps.refl s, by simpa using tape⟩
  | cons ack rest ih =>
      obtain ⟨seq, flags, payload⟩ := pure ack List.mem_cons_self
      have near := good.near_nxt
      have emitted : tapeOf iss (out ++ [ack]) = (s.act (.bare tcpAck)).tape := by
        rw [tapeOf_append, tape, Tape.emit_num iss s.tape ack s.nxt seq
          (by simp [flags, ack_flags]) near.1 near.2, flags, payload]
        rfl
      have enabled : s.Enabled (.bare tcpAck) := Or.inl rfl
      obtain ⟨last, path, final⟩ := ih (good.act _ enabled)
        (fun later member => pure later (List.mem_cons_of_mem _ member)) (out ++ [ack]) emitted
      refine ⟨last, Steps.step (.bare tcpAck) enabled (Or.inl rfl) path, ?_⟩
      rw [← final, List.append_assoc, List.singleton_append]

theorem Drift.path {before after : TcpState} (drift : Drift before after) (s : Sender)
    (here : s.state = before) :
    Steps senderMachine (Because c₀ s₀ event) s { s with state := after } := by
  subst here
  rcases drift with rfl | ⟨was, rfl⟩ | ⟨was, rfl⟩
  · exact Steps.refl s
  · have path : Steps senderMachine (Because c₀ s₀ event) s (s.act .finArrives) :=
      Steps.single Action.finArrives trivial trivial
    simpa [Sender.act, was, TcpState.drifted] using path
  · have path : Steps senderMachine (Because c₀ s₀ event) s (s.act .finArrives) :=
      Steps.single Action.finArrives trivial trivial
    simpa [Sender.act, was, TcpState.drifted] using path

theorem Quiet.follows {before after : Conn} (quiet : Quiet before after) :
    Follows iss c₀ s₀ event before after := by
  intro s mirrors
  obtain ⟨acks, out, pure⟩ := quiet.out
  have sim := mirrors.sim
  rw [sim.nxt] at pure
  obtain ⟨tape, path, final⟩ := mirrors.good.acks c₀ s₀ event acks pure before.out sim.tape
  have whole := path.trans (quiet.drift.path { s with tape := tape } sim.state.symm)
  refine ⟨_, whole, ?_, mirrors.good.path whole, ?_⟩
  · exact sim.of_send quiet.send rfl (by rw [out, final]) (quiet.writes.trans sim.reports)
  · intro rst
    rw [quiet.drift.closed_iff]
    exact mirrors.rst ((congrArg SendView.rst quiet.send).symm.trans rst)

end

/-! Closing. -/

/-- A change that neither the peer nor the writer of the application sees. -/
structure Silent (before after : Conn) : Prop where
  send : after.flow.send = before.flow.send
  out : after.out = before.out
  writes : after.writes = before.writes

namespace Silent

theorem trans {first second third : Conn} (one : Silent first second)
    (two : Silent second third) : Silent first third :=
  ⟨two.send.trans one.send, two.out.trans one.out, two.writes.trans one.writes⟩

theorem cancelAckTimer (c : Conn) : Silent c (cancelAckTimer c) := by
  unfold Tunio.cancelAckTimer
  split <;> exact ⟨rfl, rfl, rfl⟩

theorem withdrawAccept (c : Conn) : Silent c (withdrawAccept c) := by
  unfold Tunio.withdrawAccept
  split <;> exact ⟨rfl, rfl, rfl⟩

theorem uncountFlow (c : Conn) : Silent c (uncountFlow c) := by
  unfold Tunio.uncountFlow
  split <;> exact ⟨rfl, rfl, rfl⟩

theorem dropReceived (c : Conn) : Silent c (dropReceived c) := by
  unfold Tunio.dropReceived
  dsimp only
  split <;> split <;> exact ⟨rfl, rfl, rfl⟩

theorem closeWriteCh (c : Conn) : Silent c (closeWriteCh c) := by
  unfold Tunio.closeWriteCh
  split <;> exact ⟨rfl, rfl, rfl⟩

theorem completeRead (c : Conn) (op : Option ReadOp) (ec : ErrorCode) :
    Silent c (completeRead c op ec) := by
  cases op <;> exact ⟨rfl, rfl, rfl⟩

end Silent

def failure (op : Option WriteOp) (err : ErrorCode) : List WriteCompletion :=
  (op.map fun op => { handler := op.handler, ec := err, n := 0 }).toList

theorem failure_none (err : ErrorCode) : failure none err = [] := rfl

theorem completeWrite_writes (c : Conn) (op : Option WriteOp) (err : ErrorCode) :
    (completeWrite c op err).out = c.out ∧
      (completeWrite c op err).writes = c.writes ++ failure op err := by
  cases op <;> simp [completeWrite, failure, postWrite]

theorem closeFlow_effect (c : Conn) (err : ErrorCode) (isOpen : c.flow.state ≠ .closed) :
    (closeFlow c err).flow.send = { c.flow.send with activeWrite := none } ∧
      (closeFlow c err).out = c.out ∧
      (closeFlow c err).writes = c.writes ++ failure c.flow.activeWrite err := by
  have left := (Silent.cancelAckTimer c).trans (Silent.withdrawAccept _)
  unfold closeFlow
  rw [if_neg isOpen]
  dsimp only
  generalize withdrawAccept (cancelAckTimer c) = c₁ at left ⊢
  have dropped := (Silent.dropReceived { c₁ with flow.activeRead := none, flow.activeWrite := none })
  have shut := (dropped.trans (Silent.uncountFlow _))
  generalize uncountFlow (dropReceived
    { c₁ with flow.activeRead := none, flow.activeWrite := none }) = c₂ at shut ⊢
  have detached := (Silent.closeWriteCh (detachFlow c₂)).trans
    (Silent.completeRead _ c₁.flow.activeRead err)
  have done := completeWrite_writes
    (completeRead (closeWriteCh (detachFlow c₂)) c₁.flow.activeRead err) c₁.flow.activeWrite err
  have write : c₁.flow.activeWrite = c.flow.activeWrite := congrArg SendView.activeWrite left.send
  refine ⟨?_, ?_, ?_⟩
  · rw [completeWrite_flow, detached.send, ← left.send]
    exact shut.send
  · rw [done.1, detached.out, ← left.out]
    exact shut.out
  · rw [done.2, detached.writes, ← left.writes, write]
    exact congrArg (· ++ _) shut.writes

section

variable {iss : UInt32} {c₀ : Conn} {s₀ : Sender} {event : Event}

theorem Sim.closeFlow {c : Conn} {s : Sender} (sim : Sim iss c s) (err : ErrorCode)
    (isOpen : c.flow.state ≠ .closed) :
    Sim iss (closeFlow c err)
      { s.act .close with reports := s.reports ++ failure c.flow.activeWrite err } := by
  obtain ⟨send, out, writes⟩ := closeFlow_effect c err isOpen
  have dropped : Sim iss { c with flow.activeWrite := none, flow.state := .closed } (s.act .close) :=
    ⟨sim.base, rfl, sim.una, sim.nxt, sim.wnd, sim.scale, sim.finSent, sim.finPending,
      sim.probing, .none, sim.tape, sim.reports⟩
  refine dropped.of_send send (closeFlow_state c err) ?_ ?_
  · rw [out]
    exact sim.tape
  · rw [writes, sim.reports]

theorem failure_path (s : Sender) (op : Option WriteOp) (err : ErrorCode)
    (graceful : err = .success → Graceful s₀ event) :
    Steps senderMachine (Because c₀ s₀ event) s
      { s with reports := s.reports ++ failure op err } := by
  cases op with
  | none =>
      rw [failure_none, List.append_nil]
      exact Steps.refl s
  | some op =>
      have allowed : Because c₀ s₀ event s
          (.report { handler := op.handler, ec := err, n := 0 }) :=
        fun success => ⟨rfl, Or.inl (graceful success)⟩
      exact Steps.single _ trivial allowed

theorem closeFlow_leads {c : Conn} {s : Sender} (sim : Sim iss c s) (good : Good s)
    (err : ErrorCode) (isOpen : c.flow.state ≠ .closed)
    (closing : Because c₀ s₀ event s .close)
    (graceful : err = .success → Graceful s₀ event) :
    Leads iss c₀ s₀ event s (closeFlow c err) := by
  have path : Steps senderMachine (Because c₀ s₀ event) s _ := Steps.step .close trivial closing
    (failure_path (s.act .close) c.flow.activeWrite err graceful)
  exact ⟨_, path, sim.closeFlow err isOpen, good.path path, fun _ => closeFlow_state c err⟩

/-- A reset: a segment that says so, and the closing of the flow. -/
theorem Sim.abortFlow {c : Conn} {s : Sender} (sim : Sim iss c s)
    (isOpen : c.flow.state ≠ .closed)
    (near : s.tape.top ≤ s.nxt + 2 ^ 31 ∧ s.nxt < s.tape.top + 2 ^ 31) :
    Sim iss (abortFlow c) { (s.act (.bare (tcpRst ||| tcpAck))).act .close with
      reports := s.reports ++ failure c.flow.activeWrite .connectionReset } := by
  have sent := sim.sendSegment isOpen s.nxt (tcpRst ||| tcpAck) [] false
    (Or.inr ⟨by decide, near⟩)
  have write : (Tunio.sendSegment c (num iss s.nxt) (tcpRst ||| tcpAck) [] false).flow.activeWrite =
      c.flow.activeWrite := by
    unfold Tunio.sendSegment
    rw [if_neg isOpen]
    rfl
  unfold Tunio.abortFlow
  rw [if_neg isOpen, sim.nxt]
  dsimp only
  have marked : Sim iss { Tunio.sendSegment c (num iss s.nxt) (tcpRst ||| tcpAck) [] false with
      flow.rst := true } (s.emit s.nxt (tcpRst ||| tcpAck) []) :=
    ⟨sent.base, sent.state, sent.una, sent.nxt, sent.wnd, sent.scale, sent.finSent,
      sent.finPending, sent.probing, sent.write, sent.tape, sent.reports⟩
  have closed := marked.closeFlow .connectionReset (by simpa using isOpen)
  rw [write] at closed
  exact closed

theorem abortFlow_leads {c : Conn} {s : Sender} (mirrors : Mirrors iss c s)
    (isOpen : c.flow.state ≠ .closed) (allowed : MayReset c₀ event s)
    (notWrite : event.isWrite = false) :
    Leads iss c₀ s₀ event s (abortFlow c) := by
  obtain ⟨sim, good, _⟩ := mirrors
  have path : Steps senderMachine (Because c₀ s₀ event) s _ :=
    Steps.step (.bare (tcpRst ||| tcpAck)) (Or.inr rfl) (Or.inr allowed)
      (Steps.step .close trivial ⟨notWrite, Or.inl allowed⟩
        (failure_path _ c.flow.activeWrite .connectionReset (by simp)))
  exact ⟨_, path, sim.abortFlow isOpen good.near_nxt, good.path path, fun _ => abortFlow_state c⟩

theorem acceptFlow_mirrors {c : Conn} {s : Sender} (mirrors : Mirrors iss c s)
    (waiting : c.flow.state = .synRcvd) : Mirrors iss (acceptFlow c) (s.act .syn) := by
  have sim := mirrors.sim
  obtain rfl := sim.base
  have fresh : s.state = .synRcvd := sim.state.symm.trans waiting
  have isOpen : c.flow.state ≠ .closed := by simp [waiting]
  have sent := sim.sendSegment isOpen 0 (tcpSyn ||| tcpAck) [] true (Or.inl ⟨by decide, rfl⟩)
  rw [num_zero] at sent
  unfold acceptFlow
  rw [if_neg (by simp [waiting])]
  refine ⟨?_, mirrors.good.act .syn fresh, ?_⟩
  · refine ⟨sent.base, rfl, sent.una, ?_, sent.wnd, sent.scale, sent.finSent, sent.finPending,
      sent.probing, sent.write, sent.tape, sent.reports⟩
    change (sendSegment c c.flow.iss (tcpSyn ||| tcpAck) [] true).flow.iss + 1 =
      num c.flow.iss (0 + 1)
    rw [num_succ, num_zero, sent.base]
  · intro rst
    have kept := sendSegment_send c c.flow.iss (tcpSyn ||| tcpAck) [] true
    exact absurd (mirrors.rst ((congrArg SendView.rst kept).symm.trans rst)) isOpen

theorem acceptFlow_follows (c : Conn) (cause : event.isSegment = false) :
    Follows iss c₀ s₀ event c (acceptFlow c) := by
  intro s mirrors
  by_cases waiting : c.flow.state = .synRcvd
  · exact Reaches.cons .syn (mirrors.sim.state.symm.trans waiting) cause
      (Reaches.here (acceptFlow_mirrors mirrors waiting))
  · rw [acceptFlow, if_pos waiting]
    exact Reaches.here mirrors

end

/-! The FIN of this side. -/

theorem unsentWrite_false {c : Conn} :
    unsentWrite c.flow = false ↔ ∀ op ∈ c.flow.activeWrite, op.total ≤ op.offset := by
  unfold unsentWrite
  split <;> simp [*]

/-- Everything `send_fin` can do. -/
theorem sendFin_cases (c : Conn) :
    ((c.flow.finSent = true ∨ c.flow.state = .closed) ∧ sendFin c = c) ∨
    (c.flow.finSent = false ∧ c.flow.state ≠ .closed ∧
      ((unsentWrite c.flow = true ∨ c.flow.sndUna ≠ c.flow.sndNxt) ∧
        sendFin c = { c with flow.finPending := true } ∨
      (unsentWrite c.flow = false ∧ c.flow.sndUna = c.flow.sndNxt) ∧
        ((c.flow.state = .established ∨ c.flow.state = .closeWait) ∧
            sendFin c = emitFin { c with flow.finSent := true } c.flow.state.finished ∨
          (c.flow.state = .synRcvd ∨ c.flow.state = .synAckSent) ∧
            sendFin c = abortFlow { c with flow.finSent := true } ∨
          (c.flow.state = .finWait1 ∨ c.flow.state = .finWait2 ∨ c.flow.state = .lastAck ∨
              c.flow.state = .timeWait) ∧
            sendFin c = { c with flow.finSent := true }))) := by
  unfold sendFin
  by_cases stopped : c.flow.finSent = true ∨ c.flow.state = .closed
  · exact Or.inl ⟨stopped, if_pos stopped⟩
  rw [if_neg stopped]
  rw [not_or, Bool.not_eq_true] at stopped
  refine Or.inr ⟨stopped.1, stopped.2, ?_⟩
  by_cases waits : unsentWrite c.flow = true ∨ c.flow.sndUna ≠ c.flow.sndNxt
  · exact Or.inl ⟨waits, if_pos waits⟩
  rw [if_neg waits]
  rw [not_or, Bool.not_eq_true, not_not] at waits
  refine Or.inr ⟨waits, ?_⟩
  cases state : c.flow.state <;> simp_all [TcpState.finished]

section

variable {iss : UInt32} {c₀ : Conn} {s₀ : Sender} {event : Event}

theorem Mirrors.unsentWrite {c : Conn} {s : Sender} (mirrors : Mirrors iss c s) :
    Tunio.unsentWrite c.flow = false ↔ s.Emitted := by
  rw [unsentWrite_false]
  constructor
  · intro whole write active
    have inside := (mirrors.good.write write active).inside
    cases found : c.flow.activeWrite with
    | none =>
        rw [mirrors.sim.noWrite.mp found] at active
        cases active
    | some op =>
        obtain ⟨same, here, tracks⟩ := mirrors.sim.tracked found
        cases here.symm.trans active
        have bound := whole op found
        rw [tracks.total, tracks.offset] at bound
        omega
  · intro emitted op active
    obtain ⟨write, here, tracks⟩ := mirrors.sim.tracked active
    rw [tracks.total, tracks.offset, emitted write here]

theorem Mirrors.settled {c : Conn} {s : Sender} (mirrors : Mirrors iss c s) :
    c.flow.sndUna = c.flow.sndNxt ↔ s.una = s.nxt := by
  have order := mirrors.good.positions.order
  have flight := mirrors.good.positions.flight
  rw [mirrors.sim.una, mirrors.sim.nxt]
  exact num_eq_iff iss s.una s.nxt (by omega) (by omega)

theorem Sim.emitFin {c : Conn} {s : Sender} (sim : Sim iss c s)
    (sends : s.state = .established ∨ s.state = .closeWait)
    (near : s.tape.top ≤ s.nxt + 2 ^ 31 ∧ s.nxt < s.tape.top + 2 ^ 31) :
    Sim iss (emitFin { c with flow.finSent := true } c.flow.state.finished) s.finish := by
  have marked : Sim iss { c with
      flow.finSent := true
      flow.state := c.flow.state.finished
      flow.closeStartedAt := c.eng.now } { s with finSent := true, state := s.state.finished } :=
    ⟨sim.base, congrArg TcpState.finished sim.state, sim.una, sim.nxt, sim.wnd, sim.scale, rfl,
      sim.finPending, sim.probing, sim.write, sim.tape, sim.reports⟩
  have isOpen : c.flow.state.finished ≠ .closed := by
    rw [sim.state]
    rcases finished_ne sends with state | state <;> simp [state]
  have sent := marked.sendSegment isOpen s.nxt (tcpAck ||| tcpFin) [] false
    (Or.inr ⟨by decide, near⟩)
  rw [← sim.nxt] at sent
  refine ⟨sent.base, sent.state, sent.una, ?_, sent.wnd, sent.scale, sent.finSent,
    sent.finPending, sent.probing, sent.write, sent.tape, sent.reports⟩
  exact (congrArg (· + 1) sent.nxt).trans (num_succ iss s.nxt).symm

theorem sendFin_leads {c : Conn} {s : Sender} (mirrors : Mirrors iss c s)
    (cause : event = .shutdownSend ∨ event.isSegment = true) :
    Leads iss c₀ s₀ event s (sendFin c) := by
  have sim := mirrors.sim
  have good := mirrors.good
  have notClose : event ≠ .close := by
    rintro rfl
    simp [Event.isSegment] at cause
  have notWrite : event.isWrite = false := by
    rcases cause with rfl | segment
    · rfl
    · cases event <;> simp_all [Event.isSegment, Event.isWrite]
  rcases sendFin_cases c with ⟨_, same⟩ | ⟨unsent, isOpen, ⟨waits, same⟩ | ⟨⟨emitted, acked⟩, next⟩⟩
  · rw [same]
    exact Reaches.here mirrors
  · rw [same]
    refine mirrors.leads (.pend true) trivial ?_ ?_ mirrors.rst
    · rintro - ⟨_, settled, emitted⟩
      rcases waits with waits | waits
      · simp [mirrors.unsentWrite.mpr emitted] at waits
      · exact waits (mirrors.settled.mpr settled)
    · exact ⟨sim.base, sim.state, sim.una, sim.nxt, sim.wnd, sim.scale, sim.finSent, rfl,
        sim.probing, sim.write, sim.tape, sim.reports⟩
  have due : s.Due := ⟨sim.finSent.symm.trans unsent, mirrors.settled.mp acked,
    mirrors.unsentWrite.mp emitted⟩
  rcases next with ⟨sends, same⟩ | ⟨early, same⟩ | ⟨late, _⟩
  · rw [same]
    rw [sim.state] at sends
    refine mirrors.leads .fin ⟨⟨due.2.1, due.1, sends⟩, due.2.2⟩ notClose ?_ ?_
    · exact sim.emitFin sends good.near_nxt
    · intro rst
      have kept := sendSegment_send { c with
        flow.finSent := true
        flow.state := c.flow.state.finished
        flow.closeStartedAt := c.eng.now } c.flow.sndNxt (tcpAck ||| tcpFin) [] false
      exact absurd (mirrors.rst ((congrArg SendView.rst kept).symm.trans rst)) isOpen
  · rw [same]
    rw [sim.state] at early
    have allowed : MayReset c₀ event s := Or.inr ⟨cause, due, early⟩
    have path : Steps senderMachine (Because c₀ s₀ event) s _ :=
      Steps.step (.bare (tcpRst ||| tcpAck)) (Or.inr rfl) (Or.inr allowed)
        (Steps.step .close trivial ⟨notWrite, Or.inl allowed⟩
          (Steps.step .sealed rfl trivial
            (failure_path _ c.flow.activeWrite .connectionReset (by simp))))
    have marked : Sim iss { c with flow.finSent := true } { s with finSent := true } :=
      ⟨sim.base, sim.state, sim.una, sim.nxt, sim.wnd, sim.scale, rfl, sim.finPending,
        sim.probing, sim.write, sim.tape, sim.reports⟩
    exact ⟨_, path, marked.abortFlow isOpen good.near_nxt, good.path path,
      fun _ => abortFlow_state _⟩
  · rw [sim.state] at late
    have early := good.phases.unfinished due.1
    exfalso
    rcases late with state | state | state | state <;> simp [state] at early

end

end Tunio
