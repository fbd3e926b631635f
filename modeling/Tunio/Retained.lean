import Tunio.Simulation

/-!
What is in flight can be sent again: behind the handshake every unacknowledged sequence
number is a byte of the active write or the FIN, as long as no device write fails while
bytes of its write are unacknowledged.
-/

namespace Tunio

open Serial Machines

/-- A sequence number of a byte that the write has emitted. -/
def WriteOp.Covers (op : WriteOp) (seq : UInt32) : Prop :=
  ∃ index, index < op.offset ∧ index < op.buffers.flatten.length ∧
    seq = op.startSeq + UInt32.ofNat index

def Retransmittable (flow : TcpFlow) : Prop :=
  ∀ seq : UInt32, (seq - flow.sndUna).toNat < (flow.sndNxt - flow.sndUna).toNat →
    (flow.finSent = true ∧ seq = flow.sndNxt - 1) ∨ ∃ op ∈ flow.activeWrite, op.Covers seq

/-- A device write may fail when nothing of its write is unacknowledged. -/
def FailsSettled (c : Conn) (event : Event) : Prop :=
  failedWrite c event = true → c.flow.activeWrite = none ∨ c.flow.finSent = true ∨
    c.flow.sndUna = c.flow.sndNxt

structure Retained (s : Sender) : Prop where
  fin : s.finSent = true → s.nxt ≤ s.una + 1
  data : s.finSent = false → ∀ pos, s.una ≤ pos → 1 ≤ pos → pos < s.nxt →
    ∃ write ∈ s.write, write.start ≤ pos ∧ pos < write.start + write.offset

theorem Retained.settled {s : Sender} (settled : s.una = s.nxt) : Retained s := by
  refine ⟨fun _ => by omega, ?_⟩
  intro _ pos lower _ upper
  omega

theorem Retained.of_eq {s t : Sender} (retained : Retained s) (una : t.una = s.una)
    (nxt : t.nxt = s.nxt) (finSent : t.finSent = s.finSent) (write : t.write = s.write) :
    Retained t := by
  refine ⟨?_, ?_⟩
  · rw [una, nxt, finSent]
    exact retained.fin
  · rw [una, nxt, finSent, write]
    exact retained.data

theorem Retained.finish {s : Sender} (settled : s.una = s.nxt) : Retained s.finish := by
  refine ⟨fun _ => ?_, fun unsent => by cases unsent⟩
  change s.nxt + 1 ≤ s.una + 1
  omega

theorem Retained.data_act {s : Sender} (retained : Retained s) (good : Good s) (write : Writing)
    (count : Nat) (enabled : s.Enabled (.data write count)) :
    Retained (s.act (.data write count)) := by
  obtain ⟨active, _, inside, _⟩ := enabled
  obtain ⟨next, unsent⟩ := (good.write write active).exact (by omega)
  refine ⟨fun finSent => ?_, fun _ pos lower first upper => ⟨_, rfl, ?_⟩⟩
  · exact absurd (unsent.symm.trans finSent) (by simp)
  change pos < s.nxt + count at upper
  change write.start ≤ pos ∧ pos < write.start + (write.offset + count)
  by_cases known : pos < s.nxt
  · obtain ⟨same, found, start, bound⟩ := retained.data unsent pos lower first known
    cases active.symm.trans found
    exact ⟨start, by omega⟩
  · exact ⟨by omega, by omega⟩

/-- Dropping a write is harmless when nothing of it is in flight. -/
theorem Retained.drop {s t : Sender} (retained : Retained s) (una : t.una = s.una)
    (nxt : t.nxt = s.nxt) (finSent : t.finSent = s.finSent)
    (harmless : s.write = none ∨ s.finSent = true ∨ s.una = s.nxt) : Retained t := by
  refine ⟨by rw [una, nxt, finSent]; exact retained.fin, ?_⟩
  rw [una, nxt, finSent]
  intro unsent pos lower first upper
  exfalso
  rcases harmless with idle | sent | settled
  · obtain ⟨write, found, _⟩ := retained.data unsent pos lower first upper
    rw [idle] at found
    cases found
  · exact absurd (unsent.symm.trans sent) (by simp)
  · omega

/-- One action keeps what is in flight, as long as the flow stays open and a failing
device write is harmless. -/
theorem Retained.act {s : Sender} (retained : s.state ≠ .closed → Retained s) (good : Good s)
    (a : Action) (enabled : s.Enabled a)
    (harmless : a = .fail → s.write = none ∨ s.finSent = true ∨ s.una = s.nxt)
    (isOpen : (s.act a).state ≠ .closed) : Retained (s.act a) := by
  cases a with
  | syn =>
      have nxt := good.phases.fresh enabled
      refine ⟨fun _ => Nat.le_add_left 1 _, fun _ pos _ first upper => ?_⟩
      change pos < 1 at upper
      omega
  | ack pos =>
      have kept := retained isOpen
      have forward : s.una < pos := enabled.1
      refine ⟨fun finSent => ?_, fun unsent later lower first upper => ?_⟩
      · have bound := kept.fin finSent
        change s.nxt ≤ pos + 1
        omega
      · change pos ≤ later at lower
        exact kept.data unsent later (by omega) first upper
  | probeAck => exact Retained.settled rfl
  | fin => exact Retained.finish enabled.1.1
  | quit => exact Retained.of_eq (Retained.finish (s := { s with write := none }) enabled.1) rfl rfl rfl rfl
  | discard => exact (retained isOpen).drop rfl rfl rfl (Or.inr (Or.inl enabled))
  | data write count => exact (retained isOpen).data_act good write count enabled
  | start write =>
      have kept := retained isOpen
      refine ⟨kept.fin, fun unsent pos lower first upper => ?_⟩
      obtain ⟨other, found, _⟩ := kept.data unsent pos lower first upper
      rw [enabled.1] at found
      cases found
  | complete write =>
      obtain ⟨active, whole, acked⟩ := enabled
      have kept := retained isOpen
      refine ⟨kept.fin, fun unsent pos lower first upper => ?_⟩
      obtain ⟨other, found, _, bound⟩ := kept.data unsent pos lower first upper
      cases active.symm.trans found
      change s.una ≤ pos at lower
      omega
  | fail => exact (retained isOpen).drop rfl rfl rfl (harmless rfl)
  | close => exact absurd rfl isOpen
  | sealed => exact absurd enabled isOpen
  | establish => exact (retained (by simp [show s.state = _ from enabled.1])).of_eq rfl rfl rfl rfl
  | finArrives =>
      refine (retained fun closed => isOpen ?_).of_eq rfl rfl rfl rfl
      simp [Sender.act, closed, TcpState.drifted]
  | finAcked state =>
      exact (retained (by simp [show s.state = _ from enabled.1])).of_eq rfl rfl rfl rfl
  | _ => exact (retained isOpen).of_eq rfl rfl rfl rfl

theorem Retained.path {c : Conn} {s₀ last : Sender} {iss : UInt32} {event : Event}
    (mirrors : Mirrors iss c s₀) (retained : s₀.state ≠ .closed → Retained s₀)
    (settled : FailsSettled c event) (path : Steps senderMachine (Because c s₀ event) s₀ last) :
    last.state ≠ .closed → Retained last := by
  refine (path.invariant (fun t => Good t ∧ (t.state ≠ .closed → Retained t))
    ⟨mirrors.good, retained⟩ ?_).2
  rintro t a ⟨good, kept⟩ enabled allowed
  refine ⟨good.act a enabled, Retained.act kept good a enabled ?_⟩
  rintro rfl
  obtain ⟨rfl, failed⟩ := allowed
  rcases settled failed with idle | sent | done
  · exact Or.inl (mirrors.sim.noWrite.mp idle)
  · exact Or.inr (Or.inl (mirrors.sim.finSent.symm.trans sent))
  · exact Or.inr (Or.inr (mirrors.settled.mp done))

/-- What the sender retains, the flow can send again. -/
theorem Retained.retransmittable {iss : UInt32} {c : Conn} {s : Sender}
    (retained : Retained s) (mirrors : Mirrors iss c s) (later : c.flow.state ≠ .synRcvd)
    (ended : c.flow.state ≠ .synAckSent) (isOpen : c.flow.state ≠ .closed) :
    Retransmittable c.flow := by
  have sim := mirrors.sim
  have good := mirrors.good
  have order := good.positions.order
  have flight := good.positions.flight
  rw [sim.state] at later ended isOpen
  have acked : 1 ≤ s.una := by simpa [later, ended, isOpen] using good.phases.acked
  intro seq inside
  rw [mirrors.inFlight, sim.una] at inside
  have word := num_above iss s.una seq
  have here : above iss s.una seq = s.una + (seq - num iss s.una).toNat := rfl
  by_cases sent : s.finSent = true
  · left
    have bound := retained.fin sent
    refine ⟨sim.finSent.trans sent, ?_⟩
    have next : s.nxt = above iss s.una seq + 1 := by omega
    rw [sim.nxt, next, num_succ, word]
    simp
  · right
    rw [Bool.not_eq_true] at sent
    obtain ⟨write, active, start, bound⟩ :=
      retained.data sent (above iss s.una seq) (by omega) (by omega) (by omega)
    have tracked := sim.write
    rw [show s.write = some write from active] at tracked
    cases found : c.flow.activeWrite with
    | none => rw [found] at tracked; cases tracked
    | some op =>
        rw [found] at tracked
        obtain ⟨_, active', tracks⟩ := sim.tracked found
        cases (show s.write = some write from active).symm.trans active'
        have whole := (good.write write active).inside
        refine ⟨op, rfl, above iss s.una seq - write.start, ?_, ?_, ?_⟩
        · rw [tracks.offset]
          omega
        · rw [tracks.bytes]
          omega
        · rw [tracks.start, ← num_add, Nat.add_sub_cancel' start, word]

/-- In every run in which no device write fails while bytes of its write are in flight,
everything in flight behind the handshake can be sent again. -/
theorem run_retransmittable (eng : TcpEngine) (id : FlowId) (key : FiveTuple) (th : TcpHeader)
    (payload data : List UInt8) (iss : UInt32) (events : List Event)
    (always : Always FailsSettled (openFlow eng id key th payload data iss) events)
    (later : (run (openFlow eng id key th payload data iss) events).flow.state ≠ .synRcvd)
    (ended : (run (openFlow eng id key th payload data iss) events).flow.state ≠ .synAckSent)
    (isOpen : (run (openFlow eng id key th payload data iss) events).flow.state ≠ .closed) :
    Retransmittable (run (openFlow eng id key th payload data iss) events).flow := by
  have start := openFlow_mirrors eng id key th payload data iss
  obtain ⟨s, mirrors, retained⟩ := run_sender start FailsSettled
    (fun _ s => s.state ≠ .closed → Retained s) (fun _ => Retained.settled rfl)
    (fun before event t last there kept meets path _ => Retained.path there kept meets path)
    events always
  exact (retained (by rwa [← mirrors.sim.state])).retransmittable mirrors later ended isOpen

/-- Three bytes in flight behind the handshake; the timer of the coroutine sends them again. -/
def inFlightEvents : List Event :=
  [.accept, .segment (peerSegment 8 1001 tcpAck 1000) [], .write [[1, 2, 3]] 0, .device 0 false,
    .timer 0, .resume 0]

instance (c : Conn) (event : Event) : Decidable (FailsSettled c event) :=
  inferInstanceAs (Decidable (_ → _))

theorem inFlight_retransmittable :
    Retransmittable (run (opened {} 1000) inFlightEvents).flow :=
  run_retransmittable _ _ _ _ _ _ _ inFlightEvents (by decide) (by decide) (by decide) (by decide)

/-- The device refuses the segment: its bytes stay in `snd_nxt` and the write is gone. -/
theorem failedWrite_not_retransmittable :
    (run (opened {} 1000) [.accept, .segment (peerSegment 8 1001 tcpAck 1000) [],
        .write [[1, 2, 3]] 0, .device 0 true]).flow.state = .established ∧
      ¬Retransmittable (run (opened {} 1000) [.accept,
        .segment (peerSegment 8 1001 tcpAck 1000) [], .write [[1, 2, 3]] 0,
        .device 0 true]).flow := by
  refine ⟨by decide, fun all => ?_⟩
  rcases all 1001 (by decide) with ⟨finSent, _⟩ | ⟨op, active, _⟩
  · exact absurd finSent (by decide)
  · have idle : (run (opened {} 1000) [.accept, .segment (peerSegment 8 1001 tcpAck 1000) [],
        .write [[1, 2, 3]] 0, .device 0 true]).flow.activeWrite = none := by decide
    rw [idle] at active
    cases active

end Tunio
