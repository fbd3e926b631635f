import Tunio.Machine
import Tunio.Tape

/-!
The sender in exact positions.  The SYN stands at position 0 and every byte of the
stream at a position of its own; nothing wraps around.  The actions are what the
operations of a flow are made of.
-/

namespace Tunio

open Machines

/-- A write in progress: its bytes, the position of the first one, and how many have
been emitted. -/
structure Writing where
  bytes : List UInt8
  start : Nat
  offset : Nat
  handler : HandlerId

def Writing.next (write : Writing) (count : Nat) : List UInt8 :=
  (write.bytes.drop write.offset).take count

def Writing.advance (write : Writing) (count : Nat) : Writing :=
  { write with offset := write.offset + count }

def Writing.confirm (write : Writing) : Writing :=
  if write.offset < write.bytes.length then write.advance 1 else write

structure Sender where
  state : TcpState
  una : Nat
  nxt : Nat
  wnd : Nat
  tape : Tape
  write : Option Writing
  finSent : Bool
  finPending : Bool
  probing : Bool
  reports : List WriteCompletion
  started : List (List UInt8)

inductive Action
  | syn
  | resyn
  | bare (flags : UInt8)
  | ack (pos : Nat)
  | probeAck
  | unprobe
  | pend (pending : Bool)
  | fin
  | quit
  | discard
  | window (wnd : Nat)
  | establish
  | finArrives
  | finAcked (state : TcpState)
  | data (write : Writing) (count : Nat)
  | probe (write : Writing)
  | resend (pos : Nat) (payload : List UInt8)
  | start (write : Writing)
  | complete (write : Writing)
  | fail
  | close
  | sealed
  | report (completion : WriteCompletion)

/-- The state in which a FIN of this side leaves a flow. -/
def TcpState.finished : TcpState → TcpState
  | .established => .finWait1
  | .closeWait => .lastAck
  | other => other

/-- The state in which a FIN of the peer leaves a flow. -/
def TcpState.drifted : TcpState → TcpState
  | .established => .closeWait
  | .finWait2 => .timeWait
  | other => other

namespace Sender

def emit (s : Sender) (pos : Nat) (flags : UInt8) (payload : List UInt8) : Sender :=
  { s with tape := s.tape.put ⟨pos, flags, payload⟩ }

def finish (s : Sender) : Sender :=
  { s.emit s.nxt (tcpAck ||| tcpFin) [] with
    nxt := s.nxt + 1
    finSent := true
    state := s.state.finished }

def act (s : Sender) : Action → Sender
  | .syn => { s.emit 0 (tcpSyn ||| tcpAck) [] with state := .synAckSent, nxt := 1 }
  | .resyn => s.emit 0 (tcpSyn ||| tcpAck) []
  | .bare flags => s.emit s.nxt flags []
  | .ack pos => { s with una := pos }
  | .probeAck =>
      { s with
        una := s.nxt + 1
        nxt := s.nxt + 1
        probing := false
        write := s.write.map Writing.confirm }
  | .unprobe => { s with probing := false }
  | .pend pending => { s with finPending := pending }
  | .fin => s.finish
  | .quit => { s.finish with write := none }
  | .discard => { s with write := none }
  | .window wnd => { s with wnd := wnd }
  | .establish => { s with state := .established }
  | .finArrives => { s with state := s.state.drifted }
  | .finAcked state => { s with state := state }
  | .data write count =>
      { s.emit s.nxt (tcpAck ||| tcpPsh) (write.next count) with
        nxt := s.nxt + count
        write := some (write.advance count) }
  | .probe write => { s.emit s.nxt tcpAck (write.next 1) with probing := true }
  | .resend pos payload => s.emit pos (tcpAck ||| tcpPsh) payload
  | .start write => { s with write := some write, started := s.started ++ [write.bytes] }
  | .complete write =>
      { s with
        write := none
        reports := s.reports ++
          [{ handler := write.handler, ec := .success, n := write.bytes.length }] }
  | .fail => { s with write := none }
  | .close => { s with state := .closed, write := none }
  | .sealed => { s with finSent := true }
  | .report completion => { s with reports := s.reports ++ [completion] }

/-- A state in which this side may send its FIN. -/
def MayFinish (s : Sender) : Prop :=
  s.una = s.nxt ∧ s.finSent = false ∧ (s.state = .established ∨ s.state = .closeWait)

def Enabled (s : Sender) : Action → Prop
  | .syn => s.state = .synRcvd
  | .resyn => s.state = .synAckSent
  | .bare flags => flags = tcpAck ∨ flags = tcpRst ||| tcpAck
  | .ack pos => s.una < pos ∧ pos ≤ s.nxt
  | .probeAck => s.probing = true
  | .unprobe => True
  | .pend _ => True
  | .fin => s.MayFinish ∧ ∀ write ∈ s.write, write.offset = write.bytes.length
  | .quit => s.MayFinish
  | .discard => s.finSent = true
  | .window wnd => wnd < 2 ^ 30
  | .establish => s.state = .synAckSent ∧ 1 ≤ s.una
  | .finArrives => True
  | .finAcked state => s.state = .finWait1 ∧ (state = .finWait2 ∨ state = .timeWait)
  | .data write count =>
      s.write = some write ∧ 0 < count ∧ write.offset + count ≤ write.bytes.length ∧
        s.nxt + count ≤ s.una + s.wnd
  | .probe write => s.write = some write ∧ write.offset < write.bytes.length
  | .resend pos payload =>
      s.write.isSome = true ∧ s.una ≤ pos ∧ pos + payload.length ≤ s.nxt
  | .start write =>
      s.write = none ∧ s.finSent = false ∧ s.state ≠ .closed ∧ s.state ≠ .synRcvd ∧
        write.start = s.nxt ∧ write.offset = 0 ∧ 0 < write.bytes.length
  | .complete write =>
      s.write = some write ∧ write.offset = write.bytes.length ∧
        s.una = write.start + write.bytes.length
  | .fail => True
  | .close => True
  | .sealed => s.state = .closed
  | .report _ => True

end Sender

def senderMachine : Machine Sender Action := ⟨Sender.Enabled, Sender.act⟩

/-! What every sender state satisfies. -/

structure Positions (una nxt wnd top : Nat) (probing : Bool) : Prop where
  order : una ≤ nxt
  flight : nxt ≤ una + 2 ^ 30
  window : wnd < 2 ^ 30
  upper : top ≤ nxt + 1
  lower : nxt ≤ top + 1
  probed : probing = true → nxt ≤ top

structure Phases (state : TcpState) (una nxt : Nat) (finSent : Bool) : Prop where
  fresh : state = .synRcvd → nxt = 0
  opened : state = .synRcvd ∨ state = .closed ∨ 1 ≤ nxt
  acked : state = .synRcvd ∨ state = .synAckSent ∨ state = .closed ∨ 1 ≤ una
  unfinished : finSent = false → state = .synRcvd ∨ state = .synAckSent ∨ state = .established ∨
    state = .closeWait ∨ state = .closed
  finished : finSent = true → state = .finWait1 ∨ state = .finWait2 ∨ state = .lastAck ∨
    state = .timeWait ∨ state = .closed

/-- A write against the position reached.  Beyond its last byte there is at most the FIN
and one position that an acknowledgement of a probe has added. -/
structure WriteOk (nxt : Nat) (finSent probing : Bool) (write : Writing) : Prop where
  filled : 0 < write.bytes.length
  first : 1 ≤ write.start
  inside : write.offset ≤ write.bytes.length
  reached : write.start + write.offset ≤ nxt
  exact : write.offset < write.bytes.length → nxt = write.start + write.offset ∧ finSent = false
  slack : nxt ≤ write.start + write.offset + finSent.toNat + (!probing).toNat

structure Good (s : Sender) : Prop where
  positions : Positions s.una s.nxt s.wnd s.tape.top s.probing
  phases : Phases s.state s.una s.nxt s.finSent
  write : ∀ write ∈ s.write, WriteOk s.nxt s.finSent s.probing write
  idle : s.state = .synRcvd ∨ s.state = .closed → s.write = none
  calm : s.state = .synRcvd → s.probing = false

theorem put_top (tape : Tape) (emission : Emission) :
    (tape.put emission).top = max tape.top (emission.pos + emission.cells.length) := rfl

/-! The flags of the segments that are sent. -/

theorem synAck_flags : hasFlag (tcpSyn ||| tcpAck) tcpSyn = true ∧
    hasFlag (tcpSyn ||| tcpAck) tcpFin = false := by decide

theorem finAck_flags : hasFlag (tcpAck ||| tcpFin) tcpSyn = false ∧
    hasFlag (tcpAck ||| tcpFin) tcpFin = true := by decide

theorem ack_flags : hasFlag tcpAck tcpSyn = false ∧ hasFlag tcpAck tcpFin = false := by decide

theorem pshAck_flags : hasFlag (tcpAck ||| tcpPsh) tcpSyn = false ∧
    hasFlag (tcpAck ||| tcpPsh) tcpFin = false := by decide

theorem rstAck_flags : hasFlag (tcpRst ||| tcpAck) tcpSyn = false ∧
    hasFlag (tcpRst ||| tcpAck) tcpFin = false := by decide

@[simp] theorem cells_syn (pos : Nat) :
    (Emission.mk pos (tcpSyn ||| tcpAck) []).cells = [.syn] := by
  simp [Emission.cells, synAck_flags]

@[simp] theorem cells_fin (pos : Nat) :
    (Emission.mk pos (tcpAck ||| tcpFin) []).cells = [.fin] := by
  simp [Emission.cells, finAck_flags]

@[simp] theorem cells_ack (pos : Nat) (payload : List UInt8) :
    (Emission.mk pos tcpAck payload).cells = payload.map Cell.byte := by
  simp [Emission.cells, ack_flags]

@[simp] theorem cells_data (pos : Nat) (payload : List UInt8) :
    (Emission.mk pos (tcpAck ||| tcpPsh) payload).cells = payload.map Cell.byte := by
  simp [Emission.cells, pshAck_flags]

@[simp] theorem cells_rst (pos : Nat) :
    (Emission.mk pos (tcpRst ||| tcpAck) []).cells = [] := by
  simp [Emission.cells, rstAck_flags]

theorem Writing.next_length (write : Writing) (count : Nat)
    (inside : write.offset + count ≤ write.bytes.length) : (write.next count).length = count := by
  rw [next, List.length_take, List.length_drop]
  omega

theorem WriteOk.mono {nxt : Nat} {finSent probing : Bool} {write : Writing}
    (ok : WriteOk nxt finSent probing write) : WriteOk nxt finSent false write := by
  refine ⟨ok.filled, ok.first, ok.inside, ok.reached, ok.exact, ?_⟩
  have slack := ok.slack
  have width := (!probing).toNat_le
  simp only [Bool.not_false, Bool.toNat_true]
  omega

theorem Good.open_write {s : Sender} (good : Good s) {write : Writing}
    (active : s.write = some write) : s.state ≠ .synRcvd ∧ s.state ≠ .closed := by
  refine ⟨?_, ?_⟩
  · intro fresh
    simp [good.idle (Or.inl fresh)] at active
  · intro closed
    simp [good.idle (Or.inr closed)] at active

theorem finished_ne {state : TcpState} (sends : state = .established ∨ state = .closeWait) :
    state.finished = .finWait1 ∨ state.finished = .lastAck := by
  rcases sends with rfl | rfl
  · exact Or.inl rfl
  · exact Or.inr rfl

theorem Good.syn {s : Sender} (good : Good s) (fresh : s.state = .synRcvd) :
    Good (s.act .syn) := by
  have noWrite := good.idle (Or.inl fresh)
  have nxt := good.phases.fresh fresh
  have order := good.positions.order
  have upper := good.positions.upper
  have unsent : s.finSent = false := by
    by_contra sent
    simpa [fresh] using good.phases.finished (by simpa using sent)
  constructor
  · refine ⟨?_, ?_, good.positions.window, ?_, ?_, fun probing => ?_⟩
    · change s.una ≤ 1
      omega
    · change 1 ≤ s.una + 2 ^ 30
      omega
    · simp only [Sender.act, Sender.emit, put_top, cells_syn, List.length_singleton]
      omega
    · simp only [Sender.act, Sender.emit, put_top, cells_syn, List.length_singleton]
      omega
    · simp [Sender.act, Sender.emit, good.calm fresh] at probing
  · exact ⟨by simp [Sender.act], by simp [Sender.act], by simp [Sender.act], by simp [Sender.act],
      by simp [Sender.act, Sender.emit, unsent]⟩
  · simp [Sender.act, Sender.emit, noWrite]
  · simp [Sender.act]
  · simp [Sender.act]

/-- A segment that ends at most one position beyond `nxt` moves the tape only. -/
theorem Good.emit {s : Sender} (good : Good s) (pos : Nat) (flags : UInt8) (payload : List UInt8)
    (upper : pos + (Emission.mk pos flags payload).cells.length ≤ s.nxt + 1) :
    Good (s.emit pos flags payload) := by
  have positions := good.positions
  refine ⟨⟨positions.order, positions.flight, positions.window, ?_, ?_, ?_⟩, good.phases,
    good.write, good.idle, good.calm⟩
  · exact max_le positions.upper upper
  · exact positions.lower.trans (Nat.succ_le_succ (le_max_left _ _))
  · exact fun probing => (positions.probed probing).trans (le_max_left _ _)

theorem Good.ack {s : Sender} (good : Good s) (pos : Nat) (enabled : s.Enabled (.ack pos)) :
    Good (s.act (.ack pos)) := by
  have positions := good.positions
  have phases := good.phases
  obtain ⟨forward, sent⟩ := enabled
  refine ⟨⟨sent, ?_, positions.window, positions.upper, positions.lower, positions.probed⟩,
    ⟨phases.fresh, phases.opened, ?_, phases.unfinished, phases.finished⟩, good.write, good.idle,
    good.calm⟩
  · have flight := positions.flight
    change s.nxt ≤ pos + 2 ^ 30
    omega
  · exact Or.inr (Or.inr (Or.inr (Nat.one_le_of_lt forward)))

theorem WriteOk.probeAck {nxt : Nat} {finSent : Bool} {write : Writing}
    (ok : WriteOk nxt finSent true write) : WriteOk (nxt + 1) finSent false write.confirm := by
  have reached := ok.reached
  have slack := ok.slack
  simp only [Bool.not_true, Bool.toNat_false, Nat.add_zero] at slack
  unfold Writing.confirm
  split
  · rename_i more
    obtain ⟨next, unsent⟩ := ok.exact more
    refine ⟨ok.filled, ok.first, more, ?_, fun _ => ⟨?_, unsent⟩, ?_⟩
    · change write.start + (write.offset + 1) ≤ nxt + 1
      omega
    · change nxt + 1 = write.start + (write.offset + 1)
      omega
    · change nxt + 1 ≤ write.start + (write.offset + 1) + finSent.toNat + _
      omega
  · rename_i done
    refine ⟨ok.filled, ok.first, ok.inside, Nat.le_succ_of_le reached,
      fun more => absurd more done, ?_⟩
    simp only [Bool.not_false, Bool.toNat_true]
    omega

theorem Good.probeAck {s : Sender} (good : Good s) (probing : s.probing = true) :
    Good (s.act .probeAck) := by
  have positions := good.positions
  have phases := good.phases
  have probed := positions.probed probing
  have upper := positions.upper
  refine ⟨⟨le_rfl, Nat.le_add_right _ _, positions.window, ?_, Nat.succ_le_succ probed, ?_⟩,
    ⟨?_, ?_, ?_, phases.unfinished, phases.finished⟩, ?_, ?_, fun _ => rfl⟩
  · change s.tape.top ≤ s.nxt + 1 + 1
    omega
  · intro still
    simp [Sender.act] at still
  · intro fresh
    simp [good.calm fresh] at probing
  · exact Or.inr (Or.inr (Nat.le_add_left 1 _))
  · exact Or.inr (Or.inr (Or.inr (Nat.le_add_left 1 _)))
  · intro write active
    obtain ⟨before, was, rfl⟩ := Option.mem_map.mp active
    have ok := good.write before was
    rw [probing] at ok
    exact ok.probeAck
  · intro shut
    simp [Sender.act, good.idle shut]

theorem Good.unprobe {s : Sender} (good : Good s) : Good (s.act .unprobe) := by
  have positions := good.positions
  refine ⟨⟨positions.order, positions.flight, positions.window, positions.upper, positions.lower,
    ?_⟩, good.phases, ?_, good.idle, fun _ => rfl⟩
  · intro still
    simp [Sender.act] at still
  · exact fun write active => (good.write write active).mono

theorem Good.finish {s : Sender} (good : Good s) (may : s.MayFinish)
    (emitted : ∀ write ∈ s.write, write.offset = write.bytes.length) : Good s.finish := by
  have positions := good.positions
  have upper := positions.upper
  obtain ⟨settled, unsent, sends⟩ := may
  have left := finished_ne sends
  refine ⟨⟨?_, ?_, positions.window, ?_, ?_, ?_⟩, ⟨?_, ?_, ?_, ?_, ?_⟩, ?_, ?_, ?_⟩
  · exact settled.le.trans (Nat.le_succ _)
  · change s.nxt + 1 ≤ s.una + 2 ^ 30
    omega
  · simp only [Sender.finish, Sender.emit, put_top, cells_fin, List.length_singleton]
    omega
  · simp only [Sender.finish, Sender.emit, put_top, cells_fin, List.length_singleton]
    omega
  · simp only [Sender.finish, Sender.emit, put_top, cells_fin, List.length_singleton]
    omega
  · intro fresh
    change s.state.finished = .synRcvd at fresh
    simp [fresh] at left
  · exact Or.inr (Or.inr (Nat.le_add_left 1 _))
  · change _ ∨ _ ∨ _ ∨ 1 ≤ s.una
    have acked := good.phases.acked
    rcases sends with state | state <;> simp_all
  · simp [Sender.finish]
  · intro _
    rcases left with state | state <;> simp [Sender.finish, state]
  · intro write active
    have ok := good.write write active
    have reached := ok.reached
    have slack := ok.slack
    rw [unsent] at slack
    refine ⟨ok.filled, ok.first, ok.inside, ?_, ?_, ?_⟩
    · change _ ≤ s.nxt + 1
      omega
    · intro more
      have whole := emitted write active
      omega
    · change s.nxt + 1 ≤ _ + 1 + _
      simp only [Bool.toNat_false] at slack
      change _ ≤ _ + _ + 1 + (!s.probing).toNat
      omega
  · intro shut
    rcases left with state | state <;> simp [Sender.finish, state] at shut
  · intro fresh
    rcases left with state | state <;> simp [Sender.finish, state] at fresh

/-- Without its write a sender is as good. -/
theorem Good.dropWrite {s : Sender} (good : Good s) : Good { s with write := none } :=
  ⟨good.positions, good.phases, by simp, fun _ => rfl, good.calm⟩

theorem Good.window {s : Sender} (good : Good s) (wnd : Nat) (small : wnd < 2 ^ 30) :
    Good (s.act (.window wnd)) := by
  have positions := good.positions
  exact ⟨⟨positions.order, positions.flight, small, positions.upper, positions.lower,
    positions.probed⟩, good.phases, good.write, good.idle, good.calm⟩

theorem Good.establish {s : Sender} (good : Good s) (handshake : s.state = .synAckSent)
    (acked : 1 ≤ s.una) : Good (s.act .establish) := by
  have order := good.positions.order
  refine ⟨good.positions, ⟨?_, ?_, ?_, ?_, ?_⟩, good.write, ?_, ?_⟩
  · simp [Sender.act]
  · exact Or.inr (Or.inr (acked.trans order))
  · exact Or.inr (Or.inr (Or.inr acked))
  · simp [Sender.act]
  · intro finSent
    simpa [handshake] using good.phases.finished finSent
  · simp [Sender.act]
  · simp [Sender.act]

theorem Good.drift {s : Sender} (good : Good s) : Good (s.act .finArrives) := by
  have phases := good.phases
  have same (state : TcpState) (early : state = .synRcvd ∨ state = .synAckSent ∨ state = .closed) :
      s.state.drifted = state ↔ s.state = state := by
    cases h : s.state <;> rcases early with rfl | rfl | rfl <;> simp [TcpState.drifted]
  have fresh := same .synRcvd (by simp)
  have waiting := same .synAckSent (by simp)
  have closed := same .closed (by simp)
  refine ⟨good.positions, ⟨?_, ?_, ?_, ?_, ?_⟩, good.write, ?_, ?_⟩
  · exact fun state => phases.fresh (fresh.mp state)
  · simpa [Sender.act, fresh, closed] using phases.opened
  · simpa [Sender.act, fresh, waiting, closed] using phases.acked
  · intro unsent
    rcases phases.unfinished unsent with state | state | state | state | state <;>
      simp [Sender.act, state, TcpState.drifted]
  · intro finSent
    rcases phases.finished finSent with state | state | state | state | state <;>
      simp [Sender.act, state, TcpState.drifted]
  · intro shut
    exact good.idle (by simpa [Sender.act, fresh, closed] using shut)
  · exact fun state => good.calm (fresh.mp state)

theorem Good.finAcked {s : Sender} (good : Good s) (state : TcpState)
    (waiting : s.state = .finWait1) (next : state = .finWait2 ∨ state = .timeWait) :
    Good (s.act (.finAcked state)) := by
  have phases := good.phases
  have opened : 1 ≤ s.nxt := by simpa [waiting] using phases.opened
  have acked : 1 ≤ s.una := by simpa [waiting] using phases.acked
  refine ⟨good.positions, ⟨?_, ?_, ?_, ?_, ?_⟩, good.write, ?_, ?_⟩
  · rcases next with rfl | rfl <;> simp [Sender.act]
  · exact Or.inr (Or.inr opened)
  · exact Or.inr (Or.inr (Or.inr acked))
  · intro unsent
    simpa [waiting] using phases.unfinished unsent
  · rcases next with rfl | rfl <;> simp [Sender.act]
  · rcases next with rfl | rfl <;> simp [Sender.act]
  · rcases next with rfl | rfl <;> simp [Sender.act]

theorem Good.data {s : Sender} (good : Good s) (write : Writing) (count : Nat)
    (enabled : s.Enabled (.data write count)) : Good (s.act (.data write count)) := by
  obtain ⟨active, some_, inside, room⟩ := enabled
  obtain ⟨notFresh, notClosed⟩ := good.open_write active
  have positions := good.positions
  have phases := good.phases
  have order := positions.order
  have upper := positions.upper
  have lower := positions.lower
  have window := positions.window
  have ok := good.write write active
  obtain ⟨next, unsent⟩ := ok.exact (by omega)
  have length := write.next_length count inside
  refine ⟨⟨?_, ?_, window, ?_, ?_, ?_⟩, ⟨?_, ?_, phases.acked, phases.unfinished,
    phases.finished⟩, ?_, ?_, ?_⟩
  · exact order.trans (Nat.le_add_right _ _)
  · change s.nxt + count ≤ s.una + 2 ^ 30
    omega
  · simp only [Sender.act, Sender.emit, put_top, cells_data, List.length_map, length]
    omega
  · simp only [Sender.act, Sender.emit, put_top, cells_data, List.length_map, length]
    omega
  · simp only [Sender.act, Sender.emit, put_top, cells_data, List.length_map, length]
    omega
  · exact fun fresh => absurd fresh notFresh
  · exact Or.inr (Or.inr (by change 1 ≤ s.nxt + count; omega))
  · intro later found
    cases found
    refine ⟨ok.filled, ok.first, inside, ?_, fun _ => ⟨?_, unsent⟩, ?_⟩
    · change write.start + (write.offset + count) ≤ s.nxt + count
      omega
    · change s.nxt + count = write.start + (write.offset + count)
      omega
    · change s.nxt + count ≤ write.start + (write.offset + count) + _ + _
      omega
  · rintro (fresh | closed)
    · exact absurd fresh notFresh
    · exact absurd closed notClosed
  · exact fun fresh => absurd fresh notFresh

theorem Good.probe {s : Sender} (good : Good s) (write : Writing)
    (enabled : s.Enabled (.probe write)) : Good (s.act (.probe write)) := by
  obtain ⟨active, more⟩ := enabled
  obtain ⟨notFresh, notClosed⟩ := good.open_write active
  have ok := good.write write active
  obtain ⟨next, unsent⟩ := ok.exact more
  have length := write.next_length 1 more
  have sent := good.emit s.nxt tcpAck (write.next 1) (by simp [length])
  have positions := sent.positions
  refine ⟨⟨positions.order, positions.flight, positions.window, positions.upper, positions.lower,
    ?_⟩, sent.phases, ?_, sent.idle, fun fresh => absurd fresh notFresh⟩
  · intro _
    simp only [Sender.act, Sender.emit, put_top, cells_ack, List.length_map, length]
    omega
  · intro same found
    cases active.symm.trans found
    refine ⟨ok.filled, ok.first, ok.inside, ok.reached, ok.exact, ?_⟩
    change s.nxt ≤ write.start + write.offset + _ + _
    omega

theorem Good.start {s : Sender} (good : Good s) (write : Writing)
    (enabled : s.Enabled (.start write)) : Good (s.act (.start write)) := by
  obtain ⟨_, unsent, notClosed, notFresh, start, offset, filled⟩ := enabled
  have opened : 1 ≤ s.nxt := by simpa [notFresh, notClosed] using good.phases.opened
  refine ⟨good.positions, good.phases, ?_, ?_, good.calm⟩
  · intro later found
    cases found
    refine ⟨filled, by omega, by omega, ?_, fun _ => ⟨?_, unsent⟩, ?_⟩
    · change write.start + write.offset ≤ s.nxt
      omega
    · change s.nxt = write.start + write.offset
      omega
    · change s.nxt ≤ write.start + write.offset + _ + _
      omega
  · rintro (fresh | closed)
    · exact absurd fresh notFresh
    · exact absurd closed notClosed

theorem Good.close {s : Sender} (good : Good s) : Good (s.act .close) := by
  refine ⟨good.positions, ⟨?_, ?_, ?_, ?_, ?_⟩, ?_, ?_, ?_⟩ <;> simp [Sender.act]

theorem Good.sealed {s : Sender} (good : Good s) (closed : s.state = .closed) :
    Good (s.act .sealed) := by
  have noWrite := good.idle (Or.inr closed)
  exact ⟨good.positions, ⟨by simp [Sender.act, closed], by simp [Sender.act, closed],
    by simp [Sender.act, closed], by simp [Sender.act], by simp [Sender.act, closed]⟩,
    by simp [Sender.act, noWrite], fun _ => noWrite, good.calm⟩

/-- Every enabled action keeps a sender good. -/
theorem Good.act {s : Sender} (good : Good s) (a : Action) (enabled : s.Enabled a) :
    Good (s.act a) := by
  have order := good.positions.order
  cases a with
  | syn => exact good.syn enabled
  | resyn => exact good.emit 0 _ [] (by simp)
  | bare flags =>
      rcases enabled with rfl | rfl
      · exact good.emit s.nxt tcpAck [] (by simp)
      · exact good.emit s.nxt _ [] (by simp)
  | ack pos => exact good.ack pos enabled
  | probeAck => exact good.probeAck enabled
  | unprobe => exact good.unprobe
  | pend pending =>
      exact ⟨good.positions, good.phases, good.write, good.idle, good.calm⟩
  | fin => exact good.finish enabled.1 enabled.2
  | quit => exact Good.finish good.dropWrite enabled (by simp)
  | discard => exact good.dropWrite
  | window wnd => exact good.window wnd enabled
  | establish => exact good.establish enabled.1 enabled.2
  | finArrives => exact good.drift
  | finAcked state => exact good.finAcked state enabled.1 enabled.2
  | data write count => exact good.data write count enabled
  | probe write => exact good.probe write enabled
  | resend pos payload =>
      obtain ⟨_, _, sent⟩ := enabled
      refine good.emit pos _ payload ?_
      rw [cells_data, List.length_map]
      exact sent.trans (Nat.le_succ _)
  | start write => exact good.start write enabled
  | complete write =>
      have dropped := good.dropWrite
      exact ⟨dropped.positions, dropped.phases, dropped.write, dropped.idle, dropped.calm⟩
  | fail => exact good.dropWrite
  | close => exact good.close
  | sealed => exact good.sealed enabled
  | report completion =>
      exact ⟨good.positions, good.phases, good.write, good.idle, good.calm⟩

/-- A closed sender stays closed. -/
theorem Sender.act_closed {s : Sender} (a : Action) (enabled : s.Enabled a)
    (closed : s.state = .closed) : (s.act a).state = .closed := by
  cases a with
  | syn => exact absurd (closed.symm.trans enabled) (by simp)
  | fin => rcases enabled.1.2.2 with state | state <;> simp [closed] at state
  | quit => rcases enabled.2.2 with state | state <;> simp [closed] at state
  | establish => exact absurd (closed.symm.trans enabled.1) (by simp)
  | finArrives => simp [Sender.act, closed, TcpState.drifted]
  | finAcked state => exact absurd (closed.symm.trans enabled.1) (by simp)
  | close => rfl
  | _ => exact closed

theorem Good.path {allow : Sender → Action → Prop} {s last : Sender} (good : Good s)
    (path : Steps senderMachine allow s last) : Good last :=
  path.invariant Good good fun _ a here enabled _ => here.act a enabled

end Tunio
