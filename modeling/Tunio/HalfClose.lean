import Tunio.Run

/-!
Half-close: the send coroutine in CLOSE_WAIT.  `write_loop` takes every state but
ESTABLISHED for a handshake that is not over, so it only waits until the state changes.
-/

namespace Tunio

def Turn.withState (state : TcpState) : Turn → Turn
  | .again c loop => .again { c with flow.state := state } loop
  | .suspend c loop => .suspend { c with flow.state := state } loop
  | .done c => .done { c with flow.state := state }

/-- The iteration does what it would do if the flow were in ESTABLISHED. -/
def SameAction (c : Conn) (loop : WriteLoop) : Prop :=
  turn c loop = (turn { c with flow.state := .established } loop).withState c.flow.state

/-- Every byte of the write was emitted, and all of them are acknowledged. -/
@[reducible] def WriteOp.Acknowledged (op : WriteOp) (flow : TcpFlow) : Prop :=
  op.offset = op.total ∧ flow.sndUna = op.startSeq + UInt32.ofNat op.total

/-- The suspension that an iteration ends with. -/
def Turn.await : Turn → Option Await
  | .suspend _ loop => some loop.await
  | _ => none

theorem Turn.withState_await (next : Turn) (state : TcpState) :
    (next.withState state).await = next.await := by
  cases next <;> rfl

theorem turn_waits {c : Conn} {op : WriteOp} (loop : WriteLoop)
    (active : c.flow.activeWrite = some op) (waiting : c.flow.state = .closeWait)
    (explicit : op.implicitAccept = false) (alive : c.flow.rst = false)
    (unfinished : ¬op.Acknowledged c.flow) : (turn c loop).await = some .handshake := by
  unfold turn
  rw [active]
  dsimp only
  rw [if_neg (by simp [waiting, alive]), if_neg unfinished, if_pos (by simp [waiting, explicit])]
  rfl

theorem turn_acts {c : Conn} {op : WriteOp} (loop : WriteLoop)
    (active : c.flow.activeWrite = some op) (established : c.flow.state = .established)
    (alive : c.flow.rst = false) (unfinished : ¬op.Acknowledged c.flow) :
    (turn c loop).await ≠ some .handshake := by
  unfold turn
  rw [active]
  dsimp only
  rw [if_neg (by simp [established, alive]), if_neg unfinished, if_neg (by simp [established])]
  split
  · simp [race, Turn.await]
  · split
    · split <;> simp [Turn.await]
    · split <;> simp [race, Turn.await]

theorem sameAction_iff {c : Conn} (op : WriteOp) (loop : WriteLoop)
    (active : c.flow.activeWrite = some op) (waiting : c.flow.state = .closeWait)
    (explicit : op.implicitAccept = false) :
    SameAction c loop ↔ c.flow.rst = true ∨ op.Acknowledged c.flow := by
  have same (next : Conn → Turn) (here : turn c loop = next c)
      (there : turn { c with flow.state := .established } loop =
        next { c with flow.state := .established })
      (back : next c = (next { c with flow.state := .established }).withState c.flow.state) :
      SameAction c loop := by
    unfold SameAction
    rw [here, there]
    exact back
  constructor
  · intro equal
    by_contra other
    simp only [not_or, Bool.not_eq_true] at other
    have waits := turn_waits loop active waiting explicit other.1 other.2
    have acts : (turn { c with flow.state := .established } loop).await ≠ some .handshake :=
      turn_acts loop active rfl other.1 other.2
    rw [equal, Turn.withState_await] at waits
    exact acts waits
  · intro settled
    by_cases aborted : c.flow.rst = true
    · have exits (d : Conn) (active : d.flow.activeWrite = some op) (rst : d.flow.rst = true) :
          turn d loop = .done (exitLoop d) := by
        unfold turn
        rw [active]
        dsimp only
        rw [if_pos (Or.inr rst)]
      refine same (fun d => .done (exitLoop d)) (exits c active aborted) (exits _ active aborted) ?_
      simp only [exitLoop, active]
      rfl
    · have acknowledged := settled.resolve_left aborted
      have finishes (d : Conn) (active : d.flow.activeWrite = some op)
          (alive : ¬(d.flow.state = .closed ∨ d.flow.rst = true)) (done : op.Acknowledged d.flow) :
          turn d loop =
            .done (postWrite { d with flow.activeWrite := none } op.handler .success op.total) := by
        unfold turn
        rw [active]
        dsimp only
        rw [if_neg alive, if_pos done]
      refine same (fun d => .done (postWrite { d with flow.activeWrite := none } op.handler .success
        op.total)) (finishes c active (by simp [waiting, aborted]) acknowledged)
        (finishes _ active (by simp [aborted]) acknowledged) ?_
      rfl

/-- In CLOSE_WAIT an iteration for a write that did not accept the handshake does what it
would do in ESTABLISHED exactly if the write is acknowledged completely already (or the
flow was reset). -/
theorem run_halfClose_iff (eng : TcpEngine) (id : FlowId) (key : FiveTuple) (th : TcpHeader)
    (payload data : List UInt8) (iss : UInt32) (events : List Event) (loop : WriteLoop) (op : WriteOp)
    (active : (run (openFlow eng id key th payload data iss) events).flow.activeWrite = some op)
    (waiting : (run (openFlow eng id key th payload data iss) events).flow.state = .closeWait)
    (explicit : op.implicitAccept = false) :
    SameAction (run (openFlow eng id key th payload data iss) events) loop ↔
      (run (openFlow eng id key th payload data iss) events).flow.rst = true ∨
        op.Acknowledged (run (openFlow eng id key th payload data iss) events).flow :=
  sameAction_iff op loop active waiting explicit

/-- A write that the segment with the FIN acknowledges completely still completes. -/
theorem acknowledgedWrite_halfClose :
    let c := run (opened {} 1000) [.accept, .segment (peerSegment 8 1001 tcpAck 1000) [],
      .write [[1, 2, 3]] 5, .device 0 false,
      .segment (peerSegment 8 1004 (tcpAck ||| tcpFin) 1000) []]
    c.flow.state = .closeWait ∧ ∀ loop, SameAction c loop := by
  refine ⟨by decide, fun loop => ?_⟩
  refine (run_halfClose_iff _ _ _ _ _ _ _ _ loop {
    buffers := [[1, 2, 3]]
    total := 3
    offset := 3
    bufOff := 3
    startSeq := 1001
    implicitAccept := false
    handler := 5 } (by decide) (by decide) rfl).mpr (Or.inr ?_)
  decide

/-- A write that starts after the FIN of the peer is not emitted: its coroutine waits for
the end of a handshake that is over. -/
theorem lateWrite_halfClose :
    let c := run (opened {} 1000) [.accept,
      .segment (peerSegment 8 1001 (tcpAck ||| tcpFin) 1000) [], .write [[1, 2, 3]] 5]
    c.flow.state = .closeWait ∧ c.out.all (fun segment => segment.payload.isEmpty) = true ∧
      ∀ loop, ¬SameAction c loop := by
  refine ⟨by decide, by decide, fun loop same => ?_⟩
  have settled := (sameAction_iff {
    buffers := [[1, 2, 3]]
    total := 3
    startSeq := 1001
    implicitAccept := false
    handler := 5 } loop (by decide) (by decide) rfl).mp same
  revert settled
  decide

end Tunio
