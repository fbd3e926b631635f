import Tunio.Handshake
import Tunio.Refine

/-! Inbound segments, followed by the sender. -/

namespace Tunio

open Serial Machines

theorem seqGt_position (base : UInt32) (position : Nat) (word : UInt32)
    (newer : seqGt word (num base position) = true) :
    ∃ later, word = num base later ∧ position < later ∧ later < position + 2 ^ 31 := by
  rw [seqGt, decide_eq_true_eq, toInt32_pos] at newer
  refine ⟨above base position word, (num_above base position word).symm, ?_, ?_⟩
  · unfold above
    omega
  · unfold above
    omega

theorem Good.una_le {allow : Sender → Action → Prop} {s last : Sender} (good : Good s)
    (path : Steps senderMachine allow s last) : s.una ≤ last.una := by
  refine (path.invariant (fun t => s.una ≤ t.una ∧ Good t) ⟨le_rfl, good⟩ ?_).1
  rintro t a ⟨bound, here⟩ enabled _
  refine ⟨bound.trans ?_, here.act a enabled⟩
  cases a with
  | ack pos => exact le_of_lt enabled.1
  | probeAck => exact here.positions.order.trans (Nat.le_succ _)
  | _ => exact le_rfl

section

variable {iss : UInt32} {c₀ : Conn} {s₀ : Sender} {event : Event}

theorem acceptProbe_control (c : Conn) (ack : UInt32) :
    (acceptProbe c ack).flow.rst = c.flow.rst ∧ (acceptProbe c ack).flow.state = c.flow.state := by
  unfold acceptProbe
  dsimp only
  split
  · split <;> exact ⟨rfl, rfl⟩
  · exact ⟨rfl, rfl⟩

theorem acceptProbe_tracks {iss : UInt32} {op : WriteOp} {write : Writing}
    (tracks : Tracks iss op write) :
    Tracks iss { op with offset := op.offset + 1, bufOff := op.bufOff + 1 } (write.advance 1) where
  bytes := tracks.bytes
  total := tracks.total
  offset := congrArg (· + 1) tracks.offset
  start := tracks.start
  handler := tracks.handler
  cursor := congrArg (· + 1) tracks.cursor
  index := tracks.index

/-- The ACK of a probe moves both ends and counts the probe byte. -/
theorem Sim.acceptProbe {iss : UInt32} {c : Conn} {s : Sender} (sim : Sim iss c s) :
    Sim iss (clearProbe (acceptProbe c (num iss (s.nxt + 1)))) (s.act .probeAck) := by
  have tracked := sim.write
  unfold clearProbe Tunio.acceptProbe
  dsimp only
  cases active : c.flow.activeWrite with
  | none =>
      have idle := sim.noWrite.mp active
      refine ⟨sim.base, sim.state, rfl, rfl, sim.wnd, sim.scale, sim.finSent, sim.finPending, rfl,
        ?_, sim.tape, sim.reports⟩
      simp only [Sender.act, idle, Option.map_none]
      exact .none
  | some op =>
      obtain ⟨write, here, tracks⟩ := sim.tracked active
      dsimp only
      split
      · rename_i more
        refine ⟨sim.base, sim.state, rfl, rfl, sim.wnd, sim.scale, sim.finSent, sim.finPending, rfl,
          ?_, sim.tape, sim.reports⟩
        have shorter : write.offset < write.bytes.length := by
          rwa [tracks.offset, tracks.total] at more
        simp only [Sender.act, here, Option.map_some, Writing.confirm, if_pos shorter]
        exact .some (acceptProbe_tracks tracks)
      · rename_i done
        refine ⟨sim.base, sim.state, rfl, rfl, sim.wnd, sim.scale, sim.finSent, sim.finPending, rfl,
          ?_, sim.tape, sim.reports⟩
        have whole : ¬write.offset < write.bytes.length := by
          rwa [tracks.offset, tracks.total] at done
        simp only [Sender.act, here, Option.map_some, Writing.confirm, if_neg whole]
        exact .some tracks

/-- What the acknowledgement does to `snd_una`: it is accepted, or nothing changes. -/
theorem advanceUna_leads {th : TcpHeader} {data : List UInt8} (mirrors : Mirrors iss c₀ s₀)
    (segment : event = .segment th data) (isAck : hasFlag th.flags tcpAck = true) :
    ∃ s, Steps senderMachine (Because c₀ s₀ event) s₀ s ∧
      Mirrors iss (clearProbe (advanceUna c₀ th.ack)) s ∧
      s.state = s₀.state ∧ (th.ack = num iss s.una ∨ s = { s₀ with probing := false }) ∧
      (th.ack = iss + 1 → 1 ≤ s₀.nxt → 1 ≤ s.una) := by
  obtain ⟨sim, good, notReset⟩ := mirrors
  obtain rfl := sim.base
  have order := good.positions.order
  have flight := good.positions.flight
  unfold advanceUna
  by_cases accepted : (seqGt th.ack c₀.flow.sndUna && seqGe c₀.flow.sndNxt th.ack) = true
  · rw [if_pos accepted]
    simp only [Bool.and_eq_true] at accepted
    obtain ⟨newer, sent⟩ := accepted
    rw [sim.una] at newer
    obtain ⟨pos, ack, forward, close⟩ := seqGt_position _ s₀.una th.ack newer
    rw [sim.nxt, ack, seqGe_num _ s₀.nxt pos (by omega) (by omega), decide_eq_true_eq] at sent
    have enabled : s₀.Enabled (.ack pos) := ⟨forward, sent⟩
    have allowed : Because c₀ s₀ event s₀ (.ack pos) := ⟨rfl, th, data, segment, isAck, ack⟩
    have path : Steps senderMachine (Because c₀ s₀ event) s₀ ((s₀.act (.ack pos)).act .unprobe) :=
      Steps.step (.ack pos) enabled allowed (Steps.single Action.unprobe trivial trivial)
    refine ⟨_, path, ⟨?_, good.path path, notReset⟩, rfl, Or.inl ack, fun _ _ => by
      change 1 ≤ pos
      omega⟩
    exact ⟨sim.base, sim.state, ack, sim.nxt, sim.wnd, sim.scale, sim.finSent, sim.finPending,
      rfl, sim.write, sim.tape, sim.reports⟩
  rw [if_neg accepted]
  by_cases probed : (c₀.flow.probeInFlight && th.ack == c₀.flow.sndNxt + 1 &&
      seqGt th.ack c₀.flow.sndUna) = true
  · rw [if_pos probed]
    simp only [Bool.and_eq_true, beq_iff_eq] at probed
    obtain ⟨⟨probing, ack⟩, _⟩ := probed
    rw [sim.nxt, ← num_succ] at ack
    have enabled : s₀.Enabled .probeAck := sim.probing.symm.trans probing
    have allowed : Because c₀ s₀ event s₀ .probeAck := ⟨rfl, th, data, segment, isAck, ack⟩
    have path : Steps senderMachine (Because c₀ s₀ event) s₀ (s₀.act .probeAck) :=
      Steps.single Action.probeAck enabled allowed
    have followed := sim.acceptProbe
    rw [← ack] at followed
    refine ⟨_, path, ⟨followed, good.path path, ?_⟩, rfl, Or.inl ack,
      fun _ _ => Nat.le_add_left 1 _⟩
    have control := acceptProbe_control c₀ th.ack
    exact fun rst => control.2.trans (notReset (control.1.symm.trans rst))
  · rw [if_neg probed]
    have path : Steps senderMachine (Because c₀ s₀ event) s₀ (s₀.act .unprobe) :=
      Steps.single Action.unprobe trivial trivial
    refine ⟨_, path, ⟨?_, good.path path, notReset⟩, rfl, Or.inr rfl, ?_⟩
    · exact ⟨sim.base, sim.state, sim.una, sim.nxt, sim.wnd, sim.scale, sim.finSent,
        sim.finPending, rfl, sim.write, sim.tape, sim.reports⟩
    · intro first opened
      change 1 ≤ s₀.una
      by_contra fresh
      have start : s₀.una = 0 := by omega
      have word : th.ack = num c₀.flow.iss 1 := first.trans (by rw [num_succ, num_zero])
      apply accepted
      rw [sim.una, sim.nxt, start, word, seqGt_num _ 1 0 (by omega) (by omega),
        seqGe_num _ s₀.nxt 1 (by omega) (by omega)]
      simpa using opened

theorem sendDeferredFin_leads {c : Conn} {s : Sender} (mirrors : Mirrors iss c s)
    (cause : event.isSegment = true) : Leads iss c₀ s₀ event s (sendDeferredFin c) := by
  unfold sendDeferredFin
  split
  · have cleared : Mirrors iss { c with flow.finPending := false } (s.act (.pend false)) := by
      refine ⟨?_, mirrors.good.act (.pend false) trivial, mirrors.rst⟩
      have sim := mirrors.sim
      exact ⟨sim.base, sim.state, sim.una, sim.nxt, sim.wnd, sim.scale, sim.finSent, rfl,
        sim.probing, sim.write, sim.tape, sim.reports⟩
    exact Reaches.cons (.pend false) trivial (fun pending => by simp at pending)
      (sendFin_leads cleared (Or.inr cause))
  · exact Reaches.here mirrors

end

theorem emitFin_flow (c : Conn) (state : TcpState) :
    (emitFin c state).flow.state = state ∧ (emitFin c state).flow.sndNxt = c.flow.sndNxt + 1 := by
  unfold emitFin
  dsimp only
  refine ⟨sendSegment_state _ _ _ _ _, ?_⟩
  have kept := sendSegment_send { c with flow.state := state, flow.closeStartedAt := c.eng.now }
    c.flow.sndNxt (tcpAck ||| tcpFin) [] false
  exact congrArg (· + 1) (congrArg SendView.sndNxt kept)

/-- A flow gets into LAST_ACK by the deferred FIN only out of CLOSE_WAIT. -/
theorem sendDeferredFin_lastAck (c : Conn)
    (waiting : (sendDeferredFin c).flow.state = .lastAck) :
    c.flow.state = .lastAck ∨
      (c.flow.finPending = true ∧ c.flow.finSent = false ∧ c.flow.sndUna = c.flow.sndNxt ∧
        unsentWrite c.flow = false ∧ c.flow.state = .closeWait ∧
        (sendDeferredFin c).flow.sndNxt = c.flow.sndNxt + 1) := by
  unfold sendDeferredFin at waiting ⊢
  split at waiting
  · rename_i fires
    rw [if_pos fires]
    obtain ⟨pending, settled, _⟩ := fires
    rcases sendFin_cases { c with flow.finPending := false } with
      ⟨_, same⟩ | ⟨unsent, _, ⟨_, same⟩ | ⟨⟨emitted, _⟩, ⟨sends, same⟩ | ⟨_, same⟩ | ⟨_, same⟩⟩⟩
    · exact Or.inl (by rwa [same] at waiting)
    · exact Or.inl (by rwa [same] at waiting)
    · have left := emitFin_flow { c with flow.finPending := false, flow.finSent := true }
        c.flow.state.finished
      rw [same] at waiting ⊢
      rw [left.1] at waiting
      right
      refine ⟨pending, unsent, settled, emitted, ?_, left.2⟩
      rcases sends with state | state
      · rw [show c.flow.state = .established from state] at waiting
        cases waiting
      · exact state
    · rw [same, abortFlow_state] at waiting
      cases waiting
    · exact Or.inl (by rwa [same] at waiting)
  · exact Or.inl waiting

section

variable {iss : UInt32} {c₀ : Conn} {s₀ : Sender} {event : Event}

/-- The closing of `confirm_fin` ends an exchange that is complete. -/
theorem graceful_lastAck {th : TcpHeader} {data : List UInt8} {c : Conn} {s : Sender}
    (mirrors : Mirrors iss c s) (segment : event = .segment th data)
    (isAck : hasFlag th.flags tcpAck = true) (state : s.state = s₀.state)
    (advanced : th.ack = num iss s.una ∨ s = { s₀ with probing := false })
    (waiting : (sendDeferredFin c).flow.state = .lastAck)
    (confirmed : seqGe th.ack (sendDeferredFin c).flow.sndNxt = true) : Graceful s₀ event := by
  refine ⟨th, data, segment, Or.inr ⟨isAck, ?_⟩⟩
  rcases sendDeferredFin_lastAck c waiting with late | ⟨pending, unsent, settled, emitted, half, next⟩
  · exact Or.inl (state.symm.trans (mirrors.sim.state.symm.trans late))
  · right
    rcases advanced with ack | rfl
    · rw [next, ← settled, mirrors.sim.una, ack, seqGe_succ] at confirmed
      cases confirmed
    · exact ⟨mirrors.sim.finPending.symm.trans pending,
        ⟨mirrors.sim.finSent.symm.trans unsent, mirrors.settled.mp settled,
          mirrors.unsentWrite.mp emitted⟩, mirrors.sim.state.symm.trans half⟩

theorem handleAck_leads {th : TcpHeader} {data : List UInt8} (mirrors : Mirrors iss c₀ s₀)
    (segment : event = .segment th data) (isAck : hasFlag th.flags tcpAck = true) :
    ∃ s, Steps senderMachine (Because c₀ s₀ event) s₀ s ∧ Mirrors iss (handleAck c₀ th.ack).1 s ∧
      (th.ack = iss + 1 → 1 ≤ s₀.nxt → 1 ≤ s.una) := by
  have cause : event.isSegment = true := by rw [segment]; rfl
  have notWrite : event.isWrite = false := by rw [segment]; rfl
  obtain ⟨s₁, path₁, mirrors₁, state, advanced, opened⟩ := advanceUna_leads mirrors segment isAck
  have deferred : Leads iss c₀ s₀ event s₁
      (sendDeferredFin (clearProbe (advanceUna c₀ th.ack))) := sendDeferredFin_leads mirrors₁ cause
  obtain ⟨s₂, path₂, mirrors₂⟩ := deferred
  have confirming : Leads iss c₀ s₀ event s₂ (handleAck c₀ th.ack).1 := by
    have sim := mirrors₂.sim
    unfold handleAck confirmFin
    split
    · rename_i waiting
      have here : s₂.state = .finWait1 := sim.state.symm.trans waiting.1
      split
      · refine mirrors₂.leads (.finAcked .timeWait) ⟨here, Or.inr rfl⟩ trivial ?_ ?_
        · exact ⟨sim.base, rfl, sim.una, sim.nxt, sim.wnd, sim.scale, sim.finSent,
            sim.finPending, sim.probing, sim.write, sim.tape, sim.reports⟩
        · intro rst
          simpa [waiting.1] using mirrors₂.rst rst
      · refine mirrors₂.leads (.finAcked .finWait2) ⟨here, Or.inl rfl⟩ trivial ?_ ?_
        · exact ⟨sim.base, rfl, sim.una, sim.nxt, sim.wnd, sim.scale, sim.finSent,
            sim.finPending, sim.probing, sim.write, sim.tape, sim.reports⟩
        · intro rst
          simpa [waiting.1] using mirrors₂.rst rst
    · split
      · rename_i waiting
        have graceful : Graceful s₀ event := graceful_lastAck mirrors₁ segment isAck state advanced
          waiting.1 waiting.2.2
        exact closeFlow_leads sim mirrors₂.good _ (by simp [waiting.1])
          ⟨notWrite, Or.inr (Or.inr (Or.inr (Or.inr graceful)))⟩ (fun _ => graceful)
      · exact Reaches.here mirrors₂
  obtain ⟨s₃, path₃, mirrors₃⟩ := confirming
  refine ⟨s₃, path₁.trans (path₂.trans path₃), mirrors₃, fun first sent => ?_⟩
  exact (opened first sent).trans (mirrors₁.good.una_le (path₂.trans path₃))

theorem updatePeerWnd_leads {c : Conn} {s : Sender} (mirrors : Mirrors iss c s)
    (th : TcpHeader) (cause : event.isSegment = true) :
    Leads iss c₀ s₀ event s (updatePeerWnd c th) := by
  have sim := mirrors.sim
  have scale := sim.scale
  have small : (th.window.toUInt32 <<< c.flow.sndWndScale.toUInt32).toNat < 2 ^ 30 := by
    have window : th.window.toUInt32.toNat < 2 ^ 16 := by
      rw [UInt16.toNat_toUInt32]
      exact th.window.toNat_lt
    have shift : c.flow.sndWndScale.toUInt32.toNat % 32 = c.flow.sndWndScale.toNat := by
      rw [UInt8.toNat_toUInt32]
      omega
    rw [UInt32.toNat_shiftLeft, shift, Nat.shiftLeft_eq]
    refine lt_of_le_of_lt (Nat.mod_le _ _) ?_
    calc th.window.toUInt32.toNat * 2 ^ c.flow.sndWndScale.toNat
        < 2 ^ 16 * 2 ^ c.flow.sndWndScale.toNat := Nat.mul_lt_mul_of_pos_right window (Nat.two_pow_pos _)
      _ ≤ 2 ^ 16 * 2 ^ 14 := Nat.mul_le_mul_left _ (Nat.pow_le_pow_right (by omega) scale)
      _ = 2 ^ 30 := rfl
  refine mirrors.leads (.window _) small cause ?_ mirrors.rst
  exact ⟨sim.base, sim.state, sim.una, sim.nxt, rfl, sim.scale, sim.finSent, sim.finPending,
    sim.probing, sim.write, sim.tape, sim.reports⟩

theorem handleAckField_leads {th : TcpHeader} {data : List UInt8} (mirrors : Mirrors iss c₀ s₀)
    (segment : event = .segment th data) :
    ∃ s, Steps senderMachine (Because c₀ s₀ event) s₀ s ∧
      Mirrors iss (handleAckField c₀ th).1 s ∧
      (hasFlag th.flags tcpAck = true → th.ack = iss + 1 → 1 ≤ s₀.nxt → 1 ≤ s.una) := by
  have cause : event.isSegment = true := by rw [segment]; rfl
  unfold handleAckField
  split
  · rename_i isAck
    obtain ⟨s, path, followed, opened⟩ := handleAck_leads mirrors segment isAck
    split
    · rename_i result
      rw [result] at followed
      exact ⟨s, path, followed, fun _ => opened⟩
    · rename_i result
      rw [result] at followed
      have window : Leads iss c₀ s₀ event s (updatePeerWnd _ th) :=
        updatePeerWnd_leads followed th cause
      obtain ⟨last, rest, final⟩ := window
      refine ⟨last, path.trans rest, final, fun _ first sent => ?_⟩
      exact (opened first sent).trans (followed.good.una_le rest)
  · rename_i noAck
    exact ⟨s₀, Steps.refl s₀, mirrors, fun isAck => absurd isAck noAck⟩

/-- A RST of the peer closes the flow. -/
theorem reset_leads {th : TcpHeader} {data : List UInt8} {c : Conn} {s : Sender}
    (mirrors : Mirrors iss c s) (segment : event = .segment th data)
    (isRst : hasFlag th.flags tcpRst = true) :
    Leads iss c₀ s₀ event s (closeFlow { c with flow.rst := true } .connectionReset) := by
  have sim := mirrors.sim
  have marked : Sim iss { c with flow.rst := true } s :=
    ⟨sim.base, sim.state, sim.una, sim.nxt, sim.wnd, sim.scale, sim.finSent, sim.finPending,
      sim.probing, sim.write, sim.tape, sim.reports⟩
  by_cases closed : c.flow.state = .closed
  · have same : closeFlow { c with flow.rst := true } .connectionReset =
        { c with flow.rst := true } := by
      unfold closeFlow
      exact if_pos closed
    rw [same]
    exact Reaches.here ⟨marked, mirrors.good, fun _ => closed⟩
  · refine closeFlow_leads marked mirrors.good _ closed ⟨?_, ?_⟩ (by simp)
    · rw [segment]
      rfl
    · exact Or.inr (Or.inr (Or.inr (Or.inl ⟨th, data, segment, isRst⟩)))

theorem completeHandshake_leads {c : Conn} {s : Sender} (mirrors : Mirrors iss c s)
    (handshake : c.flow.state = .synAckSent) (opened : 1 ≤ s.una) :
    Leads iss c₀ s₀ event s (completeHandshake c) := by
  have sim := mirrors.sim
  have here : s.state = .synAckSent := sim.state.symm.trans handshake
  have entered : Leads iss c₀ s₀ event s { c with
      flow.state := .established
      eng.stats.tcpConnections := c.eng.stats.tcpConnections + 1 } := by
    refine mirrors.leads .establish ⟨here, opened⟩ trivial ?_ ?_
    · exact ⟨sim.base, rfl, sim.una, sim.nxt, sim.wnd, sim.scale, sim.finSent, sim.finPending,
        sim.probing, sim.write, sim.tape, sim.reports⟩
    · intro rst
      simpa [handshake] using mirrors.rst rst
  unfold completeHandshake
  refine entered.trans (Simulates.trans ?_ (Quiet.flushReads _).follows)
  dsimp only
  split
  · exact Simulates.refl _
  · refine Quiet.follows ?_
    unfold notifyAccept
    split <;> exact Quiet.of_eq rfl rfl rfl rfl rfl

theorem handleByState_leads {th : TcpHeader} {data : List UInt8} {c : Conn} {s : Sender}
    (mirrors : Mirrors iss c s)
    (opened : s.state = .synAckSent → hasFlag th.flags tcpAck = true → th.ack = iss + 1 →
      1 ≤ s.una) :
    Leads iss c₀ s₀ event s (handleByState c th data) := by
  have sim := mirrors.sim
  obtain rfl := sim.base
  unfold handleByState
  split
  · exact Reaches.here mirrors
  · exact Reaches.here mirrors
  · rename_i handshake
    have here : s.state = .synAckSent := sim.state.symm.trans handshake
    have isOpen : c.flow.state ≠ .closed := by simp [handshake]
    split
    · have sent := sim.sendSegment isOpen 0 (tcpSyn ||| tcpAck) [] true (Or.inl ⟨by decide, rfl⟩)
      rw [num_zero] at sent
      refine mirrors.leads .resyn here trivial sent ?_
      have kept := sendSegment_send c c.flow.iss (tcpSyn ||| tcpAck) [] true
      exact fun rst => absurd (mirrors.rst ((congrArg SendView.rst kept).symm.trans rst)) isOpen
    · split
      · exact Reaches.here mirrors
      · rename_i known
        rw [not_or, not_not, ne_eq, not_not] at known
        exact (completeHandshake_leads mirrors handshake (opened here known.1 known.2)).trans
          (Quiet.handlePayload _ th data).follows
  · exact (Quiet.handlePayload c th data).follows s mirrors

/-- A segment does not take a flow into SYN_ACK_SENT. -/
theorem path_synAckSent {s last : Sender} (path : Steps senderMachine (Because c₀ s₀ event) s last)
    (cause : event.isSegment = true) (handshake : last.state = .synAckSent) :
    s.state = .synAckSent := by
  refine path.invariant (fun t => t.state = .synAckSent → s.state = .synAckSent) id ?_ handshake
  intro t a before enabled allowed after
  cases a with
  | syn => exact absurd (cause.symm.trans allowed) (by simp)
  | fin =>
      apply before
      rcases finished_ne enabled.1.2.2 with state | state <;>
        exact absurd (state.symm.trans after) (by simp)
  | quit =>
      apply before
      rcases finished_ne enabled.2.2 with state | state <;>
        exact absurd (state.symm.trans after) (by simp)
  | finArrives =>
      apply before
      change t.state.drifted = .synAckSent at after
      cases state : t.state <;> simp [state, TcpState.drifted] at after ⊢
  | establish => cases after
  | finAcked state =>
      change state = .synAckSent at after
      rcases enabled.2 with rfl | rfl <;> cases after
  | close => cases after
  | _ => exact before after

theorem receiveSegment_leads {th : TcpHeader} {data : List UInt8} (mirrors : Mirrors iss c₀ s₀)
    (segment : event = .segment th data) :
    Leads iss c₀ s₀ event s₀ (receiveSegment c₀ th data) := by
  have notWrite : event.isWrite = false := by rw [segment]; rfl
  unfold receiveSegment
  split
  · exact Reaches.here mirrors
  · rename_i isOpen
    split
    · rename_i reopened
      have graceful : Graceful s₀ event :=
        ⟨th, data, segment, Or.inl ⟨mirrors.sim.state.symm.trans reopened.1, reopened.2⟩⟩
      exact closeFlow_leads mirrors.sim mirrors.good _ isOpen
        ⟨notWrite, Or.inr (Or.inr (Or.inr (Or.inr graceful)))⟩ (fun _ => graceful)
    · obtain ⟨s, path, followed, opened⟩ := handleAckField_leads mirrors segment
      have acked : Leads iss c₀ s₀ event s₀ (handleAckField c₀ th).1 := ⟨s, path, followed⟩
      unfold handleSegment
      split
      · rename_i result
        rw [result] at acked
        exact acked
      · rename_i result
        rw [result] at followed
        have rest : Leads iss c₀ s₀ event s (if hasFlag th.flags tcpRst = true then
            closeFlow { (handleAckField c₀ th).1 with flow.rst := true } .connectionReset
            else handleByState (handleAckField c₀ th).1 th data) := by
          rw [result]
          split
          · exact reset_leads followed segment ‹_›
          · refine handleByState_leads followed fun handshake isAck first => ?_
            have before := path_synAckSent path (by rw [segment]; rfl) handshake
            exact opened isAck first (by simpa [before] using mirrors.good.phases.opened)
        rw [result] at rest
        obtain ⟨last, more, final⟩ := rest
        exact ⟨last, path.trans more, final⟩

end

end Tunio
