import Tunio.Validation

/-!
The report of a write that is acknowledged.  The coroutine reports when `snd_una` equals the
end of the write, and misses the end if an acknowledgement takes `snd_una` past it first: the
one of a FIN, or of the byte of a probe that went out as data in the meantime.
-/

namespace Tunio

open Serial Machines

/-- The next iteration reports a write that is emitted and acknowledged. -/
def WriteReported (c : Conn) : Prop :=
  ∀ op ∈ c.flow.activeWrite, op.offset = op.total →
    seqGe c.flow.sndUna (op.startSeq + UInt32.ofNat op.total) = true →
    ∀ loop, turn c loop =
      .done (postWrite { c with flow.activeWrite := none } op.handler .success op.total)

/-- Behind a write that is emitted, the number is past the end of the write. -/
def PastEnd (flow : TcpFlow) (ack : UInt32) : Prop :=
  (flow.finSent = true ∧ flow.sndUna ≠ flow.sndNxt ∧ ack = flow.sndNxt) ∨
    (AnswersProbe flow ack ∧ ¬(flow.state = .synAckSent ∧ flow.finPending = true))

/-- The segment acknowledges what is past the end of the active write, and does not close the
flow. -/
def Overtakes (c : Conn) : Event → Prop
  | .segment th _ => hasFlag th.flags tcpAck = true ∧ ¬hasFlag th.flags tcpRst = true ∧
      c.flow.state ≠ .lastAck ∧ (∃ op ∈ c.flow.activeWrite, op.offset = op.total) ∧
      PastEnd c.flow th.ack
  | _ => False

/-! Segments that close the flow. -/

theorem confirmFin_closed (c : Conn) (ack : UInt32) (ended : (confirmFin c ack).2 = false) :
    (confirmFin c ack).1.flow.state = .closed := by
  unfold confirmFin at ended ⊢
  split at ended
  · split at ended <;> cases ended
  · rename_i notFirst
    rw [if_neg notFirst]
    split at ended
    · rename_i last
      rw [if_pos last]
      exact closeFlow_state c _
    · cases ended

theorem receiveSegment_reset (c : Conn) {th : TcpHeader} (data : List UInt8)
    (isRst : hasFlag th.flags tcpRst = true) : (receiveSegment c th data).flow.state = .closed := by
  unfold receiveSegment
  split
  · assumption
  · split
    · exact closeFlow_state c _
    · unfold handleSegment
      split
      · rename_i result
        unfold handleAckField at result
        split at result
        · have ended := confirmFin_closed (sendDeferredFin (clearProbe (advanceUna c th.ack))) th.ack
          split at result
          · rename_i handled
            unfold handleAck at handled
            rw [handled] at ended
            cases result
            exact ended rfl
          · cases result
        · cases result
      · rw [if_pos isRst]
        exact closeFlow_state _ _

/-- An acknowledgement that closes the flow leaves it closed. -/
theorem receiveSegment_closes (c : Conn) {th : TcpHeader} (data : List UInt8)
    (isAck : hasFlag th.flags tcpAck = true)
    (closes : (handleAck c th.ack).1.flow.state = .closed) :
    (receiveSegment c th data).flow.state = .closed := by
  unfold receiveSegment
  split
  · assumption
  · split
    · exact closeFlow_state c _
    · unfold handleSegment handleAckField
      rw [if_pos isAck]
      split
      · rename_i result
        split at result
        · rename_i handled
          rw [handled] at closes
          cases result
          exact closes
        · cases result
      · rename_i result
        split at result
        · cases result
        · rename_i handled
          rw [handled] at closes
          cases result
          split
          · exact closeFlow_state _ _
          · have quiet : handleByState (updatePeerWnd _ th) th data = updatePeerWnd _ th :=
              handleByState_closed _ th data closes
            rw [quiet]
            exact closes

/-- In LAST_ACK everything that reaches `snd_nxt` closes the flow. -/
theorem handleAck_last (c : Conn) (ack : UInt32) (last : c.flow.state = .lastAck)
    (sent : c.flow.finSent = true) (reaches : seqGe ack c.flow.sndNxt = true)
    (near : (c.flow.sndNxt - c.flow.sndUna).toNat < 2 ^ 31 - 1) :
    (handleAck c ack).1.flow.state = .closed := by
  have advance := advanceUna_advance c ack near
  have deferral := sendDeferredFin_deferral (clearProbe (advanceUna c ack))
  unfold handleAck
  generalize advanceUna c ack = c₁ at advance deferral ⊢
  have advanced := advance.advanced
  have next : seqGe ack c₁.flow.sndNxt = true := by
    cases advance with
    | inside => exact reaches
    | probe =>
        rw [(acceptProbe_settles c ack).2]
        simp [seqGe]
    | ignored => exact reaches
  generalize sendDeferredFin (clearProbe c₁) = c₂ at deferral ⊢
  have early : c₁.flow.state ≠ .established ∧ c₁.flow.state ≠ .closeWait ∧
      c₁.flow.state ≠ .synRcvd ∧ c₁.flow.state ≠ .synAckSent := by
    simp [advanced.state, last]
  cases deferral with
  | kept _ _ nxt state finSent =>
      have here : c₂.flow.state = .lastAck := state.trans (advanced.state.trans last)
      have still : c₂.flow.finSent = true := finSent (advanced.finSent.trans sent)
      have number : c₂.flow.sndNxt = c₁.flow.sndNxt := nxt
      unfold confirmFin
      rw [if_neg (by simp [here]), if_pos ⟨here, still, by rw [number]; exact next⟩]
      exact closeFlow_state c₂ _
  | sent due => exact absurd due.1 (not_or.mpr ⟨early.1, early.2.1⟩)
  | reset _ _ _ fresh => exact absurd fresh (not_or.mpr ⟨early.2.2.1, early.2.2.2⟩)

/-- The acknowledgement of a probe is one past what was sent. -/
theorem AnswersProbe.outside {flow : TcpFlow} {ack : UInt32} (probed : AnswersProbe flow ack)
    (near : (flow.sndNxt - flow.sndUna).toNat < 2 ^ 31 - 1) : ¬Unacked flow ack := by
  rintro ⟨_, inside⟩
  have one : (1 : UInt32).toNat = 1 := rfl
  have una := flow.sndUna.toNat_lt
  have nxt := flow.sndNxt.toNat_lt
  rw [probed.2, UInt32.toNat_sub, UInt32.toNat_sub, UInt32.toNat_add, one] at inside
  rw [UInt32.toNat_sub] at near
  omega

/-- Behind a write that is emitted the acknowledgement of a probe moves the numbers only. -/
theorem acceptProbe_emitted {c : Conn} (ack : UInt32)
    (emitted : ∀ op ∈ c.flow.activeWrite, op.offset = op.total) :
    acceptProbe c ack = { c with flow.sndUna := ack, flow.sndNxt := ack } := by
  unfold acceptProbe
  dsimp only
  split
  · rename_i op active
    rw [if_neg (by simp [emitted op active])]
  · rfl

/-- Before the handshake is over a FIN that becomes due is a reset. -/
theorem handleAck_early (c : Conn) (ack : UInt32) (early : c.flow.state = .synAckSent)
    (pending : c.flow.finPending = true) (unsent : c.flow.finSent = false)
    (emitted : ∀ op ∈ c.flow.activeWrite, op.offset = op.total) (probed : AnswersProbe c.flow ack)
    (near : (c.flow.sndNxt - c.flow.sndUna).toNat < 2 ^ 31 - 1) :
    (handleAck c ack).1.flow.state = .closed := by
  have advance := advanceUna_advance c ack near
  have accepted : advanceUna c ack = { c with flow.sndUna := ack, flow.sndNxt := ack } := by
    rw [← acceptProbe_emitted ack emitted]
    generalize advanceUna c ack = c₁ at advance
    cases advance with
    | inside unacked => exact absurd unacked (probed.outside near)
    | probe => rfl
    | ignored _ unasked => exact absurd probed unasked
  have reset : (sendDeferredFin (clearProbe (advanceUna c ack))).flow.state = .closed := by
    rw [accepted]
    unfold sendDeferredFin
    rw [if_pos ⟨pending, rfl, emitted⟩]
    exact sendFin_synAckSent _ early unsent rfl emitted
  unfold handleAck confirmFin
  rw [if_neg (by simp [reset]), if_neg (by simp [reset])]
  exact reset

/-! The end of the write. -/

/-- `snd_una` is not past the end of the write, and `snd_nxt` is where the bytes that were
emitted and the FIN end. -/
def Aligned (s : Sender) : Prop :=
  ∀ write ∈ s.write, s.una ≤ write.start + write.bytes.length ∧
    s.nxt = write.start + write.offset + s.finSent.toNat

/-- The acknowledgement is for nothing past the end of the write. -/
def Sender.Inside (s : Sender) : Action → Prop
  | .ack pos => ∀ write ∈ s.write, s.finSent = true → pos ≠ s.nxt
  | .probeAck => ∀ write ∈ s.write, write.offset < write.bytes.length
  | _ => True

theorem Aligned.ack {s : Sender} (aligned : Aligned s) (good : Good s) (pos : Nat)
    (enabled : s.Enabled (.ack pos)) (inside : s.Inside (.ack pos)) :
    Aligned (s.act (.ack pos)) := by
  intro write active
  have sent : pos ≤ s.nxt := enabled.2
  have whole := (good.write write active).inside
  obtain ⟨_, line⟩ := aligned write active
  refine ⟨?_, line⟩
  change pos ≤ write.start + write.bytes.length
  cases finSent : s.finSent with
  | false =>
      rw [finSent, Bool.toNat_false] at line
      omega
  | true =>
      have before := inside write active finSent
      rw [finSent, Bool.toNat_true] at line
      omega

theorem Aligned.probeAck {s : Sender} (good : Good s) (inside : s.Inside .probeAck) :
    Aligned (s.act .probeAck) := by
  intro later found
  obtain ⟨write, active, rfl⟩ := Option.mem_map.mp found
  have more := inside write active
  obtain ⟨next, unsent⟩ := (good.write write active).exact more
  unfold Writing.confirm
  rw [if_pos more]
  change s.nxt + 1 ≤ write.start + write.bytes.length ∧
    s.nxt + 1 = write.start + (write.offset + 1) + s.finSent.toNat
  rw [unsent, Bool.toNat_false]
  omega

theorem Aligned.data {s : Sender} (aligned : Aligned s) (write : Writing) (count : Nat)
    (enabled : s.Enabled (.data write count)) : Aligned (s.act (.data write count)) := by
  obtain ⟨active, _⟩ := enabled
  obtain ⟨before, line⟩ := aligned write active
  intro later found
  cases found
  refine ⟨before, ?_⟩
  change s.nxt + count = write.start + (write.offset + count) + s.finSent.toNat
  omega

theorem Aligned.finish {s : Sender} (aligned : Aligned s) (may : s.MayFinish) :
    Aligned s.finish := by
  intro write active
  obtain ⟨before, line⟩ := aligned write active
  refine ⟨before, ?_⟩
  rw [may.2.1, Bool.toNat_false] at line
  change s.nxt + 1 = write.start + write.offset + 1
  omega

theorem Aligned.act {s : Sender} (aligned : Aligned s) (good : Good s) (a : Action)
    (enabled : s.Enabled a) (inside : s.Inside a) : Aligned (s.act a) := by
  cases a with
  | syn =>
      intro write active
      have idle : s.write = none := good.idle (Or.inl enabled)
      simp [Sender.act, Sender.emit, idle] at active
  | ack pos => exact aligned.ack good pos enabled inside
  | probeAck => exact Aligned.probeAck good inside
  | fin => exact aligned.finish enabled.1
  | data write count => exact aligned.data write count enabled
  | start write =>
      obtain ⟨_, unsent, _, _, start, offset, _⟩ := enabled
      have order := good.positions.order
      intro later found
      cases found
      change s.una ≤ write.start + write.bytes.length ∧
        s.nxt = write.start + write.offset + s.finSent.toNat
      rw [unsent, Bool.toNat_false]
      omega
  | sealed =>
      intro write active
      have idle : s.write = none := good.idle (Or.inr enabled)
      simp [Sender.act, idle] at active
  | quit | discard | complete | fail | close =>
      intro write active
      cases active
  | _ => exact aligned

/-! One event. -/

section

variable {iss : UInt32} {c : Conn} {s last : Sender} {event : Event}

/-- An acknowledgement past the end of the write closes the flow. -/
theorem overtaken_closed (mirrors : Mirrors iss c s) {th : TcpHeader} (data : List UInt8)
    (isAck : hasFlag th.flags tcpAck = true) (keeps : ¬Overtakes c (.segment th data))
    (emitted : ∃ op ∈ c.flow.activeWrite, op.offset = op.total)
    (past : (c.flow.finSent = true ∧ c.flow.sndUna ≠ c.flow.sndNxt ∧ th.ack = c.flow.sndNxt) ∨
      AnswersProbe c.flow th.ack) :
    (receiveSegment c th data).flow.state = .closed := by
  have near : (c.flow.sndNxt - c.flow.sndUna).toNat < 2 ^ 31 - 1 := by
    have flight := mirrors.good.positions.flight
    rw [mirrors.inFlight]
    omega
  have agrees := Mirrors.finAgrees mirrors
  by_cases isRst : hasFlag th.flags tcpRst = true
  · exact receiveSegment_reset c data isRst
  by_cases late : c.flow.state = .lastAck
  · refine receiveSegment_closes c data isAck (handleAck_last c th.ack late
      (agrees.sent (Or.inr late)) ?_ near)
    rcases past with ⟨_, _, all⟩ | ⟨_, next⟩
    · simp [all, seqGe]
    · have one : (1 : UInt32).toNat = 1 := rfl
      have bound := c.flow.sndNxt.toNat_lt
      rw [next, seqGe_toNat, UInt32.toNat_sub, UInt32.toNat_add, one]
      omega
  by_cases due : c.flow.state = .synAckSent ∧ c.flow.finPending = true
  · have unsent : c.flow.finSent = false := by
      by_contra sent
      have later := mirrors.good.phases.finished (mirrors.sim.finSent.symm.trans (by simpa using sent))
      simp [← mirrors.sim.state, due.1] at later
    obtain ⟨op, active, whole⟩ := emitted
    have all : ∀ op ∈ c.flow.activeWrite, op.offset = op.total := by
      intro other found
      cases active.symm.trans found
      exact whole
    rcases past with ⟨sent, _⟩ | probed
    · exact absurd (unsent.symm.trans sent) (by simp)
    · exact receiveSegment_closes c data isAck
        (handleAck_early c th.ack due.1 due.2 unsent all probed near)
  · exfalso
    refine keeps ⟨isAck, isRst, late, emitted, ?_⟩
    exact past.imp id fun probed => ⟨probed, due⟩

theorem Mirrors.wholeWrite (mirrors : Mirrors iss c s) {write : Writing}
    (active : s.write = some write) (whole : write.offset = write.bytes.length) :
    ∃ op ∈ c.flow.activeWrite, op.offset = op.total := by
  have tracked := mirrors.sim.write
  rw [active] at tracked
  cases found : c.flow.activeWrite with
  | none =>
      rw [found] at tracked
      cases tracked
  | some op =>
      rw [found] at tracked
      cases tracked with
      | some tracks => exact ⟨op, rfl, by rw [tracks.offset, tracks.total, whole]⟩

/-- Along an event that does not overtake the write the sender stays aligned. -/
theorem Aligned.path (mirrors : Mirrors iss c s) (aligned : Aligned s)
    (keeps : ¬Overtakes c event) (path : Steps senderMachine (Because c s event) s last)
    (there : Mirrors iss (step c event) last) : Aligned last := by
  by_cases closed : last.state = .closed
  · intro write active
    rw [there.good.idle (Or.inr closed)] at active
    cases active
  refine (path.invariant (fun t => Good t ∧ Aligned t) ⟨mirrors.good, aligned⟩ ?_).2
  rintro t a ⟨good, here⟩ enabled allowed
  refine ⟨good.act a enabled, here.act good a enabled ?_⟩
  have isOpen : (step c event).flow.state ≠ .closed := by rwa [there.sim.state]
  cases a with
  | ack pos =>
      obtain ⟨rfl, th, data, rfl, isAck, number⟩ := allowed
      obtain ⟨forward, sent⟩ := enabled
      intro write active finSent all
      have whole : write.offset = write.bytes.length := by
        have ok := good.write write active
        by_contra partial_
        have more : write.offset < write.bytes.length := lt_of_le_of_ne ok.inside partial_
        exact absurd ((ok.exact more).2.symm.trans finSent) (by simp)
      refine isOpen (overtaken_closed mirrors data isAck keeps (mirrors.wholeWrite active whole)
        (Or.inl ⟨mirrors.sim.finSent.trans finSent, fun settled => ?_, ?_⟩))
      · have same := mirrors.settled.mp settled
        omega
      · rw [number, all, mirrors.sim.base, mirrors.sim.nxt]
  | probeAck =>
      obtain ⟨rfl, th, data, rfl, isAck, number⟩ := allowed
      intro write active
      by_contra done
      have whole : write.offset = write.bytes.length :=
        le_antisymm (good.write write active).inside (Nat.not_lt.mp done)
      refine isOpen (overtaken_closed mirrors data isAck keeps (mirrors.wholeWrite active whole)
        (Or.inr ⟨mirrors.sim.probing.trans enabled, ?_⟩))
      rw [number, mirrors.sim.base, mirrors.sim.nxt, num_succ]
  | _ => trivial

/-- A write whose end is `snd_una` at the latest is reported by the next iteration. -/
theorem Aligned.reported (mirrors : Mirrors iss c s) (aligned : Aligned s) : WriteReported c := by
  intro op active whole reached loop
  have sim := mirrors.sim
  obtain ⟨write, here, tracks⟩ := sim.tracked active
  obtain ⟨before, line⟩ := aligned write here
  have flight := mirrors.good.positions.flight
  have order := mirrors.good.positions.order
  have width := s.finSent.toNat_le
  have emitted : write.offset = write.bytes.length := by
    rw [← tracks.offset, ← tracks.total, whole]
  have end_ : op.startSeq + UInt32.ofNat op.total = num iss (write.start + write.bytes.length) := by
    rw [tracks.start, tracks.total, num_add]
  rw [end_, sim.una, seqGe_num iss _ _ (by omega) (by omega), decide_eq_true_eq] at reached
  have settled : c.flow.sndUna = op.startSeq + UInt32.ofNat op.total := by
    rw [end_, sim.una, le_antisymm before reached]
  have isOpen : c.flow.state ≠ .closed := by
    rw [sim.state]
    exact (mirrors.good.open_write here).2
  have alive : ¬(c.flow.state = .closed ∨ c.flow.rst = true) := by
    rw [not_or]
    exact ⟨isOpen, fun rst => isOpen (mirrors.rst rst)⟩
  unfold turn
  rw [show c.flow.activeWrite = some op from active]
  dsimp only
  rw [if_neg alive, if_pos ⟨whole, settled⟩]

end

/-- In every run in which no acknowledgement overtakes a write, the next iteration of the
coroutine reports a write that is emitted and acknowledged. -/
theorem run_reported (eng : TcpEngine) (id : FlowId) (key : FiveTuple) (th : TcpHeader)
    (payload data : List UInt8) (iss : UInt32) (events : List Event)
    (always : Always (fun c event => ¬Overtakes c event)
      (openFlow eng id key th payload data iss) events) :
    WriteReported (run (openFlow eng id key th payload data iss) events) := by
  have start := openFlow_mirrors eng id key th payload data iss
  obtain ⟨s, mirrors, aligned⟩ := run_sender start (fun c event => ¬Overtakes c event)
    (fun _ s => Aligned s) (fun write active => by cases active)
    (fun before event t last there kept keeps path after => kept.path there keeps path after)
    events always
  exact aligned.reported mirrors

instance (flow : TcpFlow) (ack : UInt32) : Decidable (PastEnd flow ack) :=
  inferInstanceAs (Decidable (_ ∨ _))

instance (c : Conn) (event : Event) : Decidable (Overtakes c event) :=
  match event with
  | .segment _ _ => inferInstanceAs (Decidable (_ ∧ _))
  | .read .. | .write .. | .shutdownSend | .shutdownReceive | .close | .reset | .accept | .reject
  | .handOut | .timer _ | .resume _ | .device .. | .ackTimerExpires | .ackTimerRuns | .sweep
  | .closeAll | .elsewhere _ => inferInstanceAs (Decidable False)

/-- The byte is acknowledged while its coroutine waits for the device, with the FIN deferred. -/
def deferredEvents : List Event :=
  [.accept, .segment (peerSegment 8 1001 tcpAck 1000) [], .write [[1]] 0, .shutdownSend,
    .segment (peerSegment 8 1002 tcpAck 1000) []]

theorem deferred_reported : WriteReported (run (opened {} 1000) deferredEvents) :=
  run_reported _ _ _ _ _ _ _ deferredEvents (by decide)

def Turn.isDone : Turn → Bool
  | .done _ => true
  | _ => false

/-- The FIN that went out with that acknowledgement is acknowledged before the device is done. -/
theorem overtaken_unreported :
    ¬WriteReported (run (opened {} 1000)
      (deferredEvents ++ [.segment (peerSegment 8 1003 tcpAck 1000) []])) := by
  intro reported
  generalize state : run (opened {} 1000)
    (deferredEvents ++ [.segment (peerSegment 8 1003 tcpAck 1000) []]) = c at reported
  have emitted : ∃ op ∈ c.flow.activeWrite, op.offset = op.total ∧
      seqGe c.flow.sndUna (op.startSeq + UInt32.ofNat op.total) = true := by
    rw [← state]
    decide
  obtain ⟨op, active, whole, reached⟩ := emitted
  let loop : WriteLoop := { persistInterval := 0, rto := 0, lastUna := 0 }
  have missed : (turn c loop).isDone = false := by
    rw [← state]
    decide
  rw [reported op active whole reached loop] at missed
  cases missed

end Tunio
