import Tunio.Refine
import Tunio.Slice

/-! The send coroutine, followed by the sender. -/

namespace Tunio

open Serial Slices Machines

/-! The buffers of a write as one stream. -/

theorem skipBuffers_spec (buffers : List (List UInt8)) (index off : Nat) :
    ∃ count, count ≤ buffers.length ∧ (buffers.take count).flatten.length ≤ off ∧
      skipBuffers buffers index off =
        (index + count, off - (buffers.take count).flatten.length) ∧
      ∀ buffer ∈ buffers[count]?, off - (buffers.take count).flatten.length < buffer.length := by
  induction buffers generalizing index off with
  | nil => exact ⟨0, by simp [skipBuffers]⟩
  | cons buffer rest ih =>
      unfold skipBuffers
      split
      · rename_i used
        obtain ⟨count, inside, before, skipped, next⟩ := ih (index + 1) (off - buffer.length)
        refine ⟨count + 1, by simpa using inside, ?_, ?_, ?_⟩
        · simp only [List.take_succ_cons, List.flatten_cons, List.length_append]
          omega
        · rw [skipped]
          simp only [List.take_succ_cons, List.flatten_cons, List.length_append, Prod.mk.injEq]
          omega
        · intro later found
          have bound := next later (by simpa using found)
          simp only [List.take_succ_cons, List.flatten_cons, List.length_append]
          omega
      · rename_i fits
        refine ⟨0, by simp, by simp, by simp, ?_⟩
        intro later found
        simp only [List.getElem?_cons_zero, Option.mem_some_iff] at found
        subst found
        simp only [List.take_zero, List.flatten_nil, List.length_nil, Nat.sub_zero]
        omega

variable {iss : UInt32}

/-- Moving the cursor keeps what it stands for. -/
theorem Tracks.normalize {op : WriteOp} {write : Writing} (tracks : Tracks iss op write) :
    Tracks iss (normalize op) write ∧
      ∀ buffer ∈ op.buffers[(normalize op).bufIndex]?, (normalize op).bufOff < buffer.length := by
  obtain ⟨count, inside, before, skipped, next⟩ :=
    skipBuffers_spec (op.buffers.drop op.bufIndex) op.bufIndex op.bufOff
  have moved : Tunio.normalize op = { op with
      bufIndex := op.bufIndex + count
      bufOff := op.bufOff - ((op.buffers.drop op.bufIndex).take count).flatten.length } := by
    unfold Tunio.normalize
    rw [skipped]
  rw [moved]
  have cursor := tracks.cursor
  have index := tracks.index
  rw [List.length_drop] at inside
  refine ⟨⟨tracks.bytes, tracks.total, tracks.offset, tracks.start, tracks.handler, ?_, ?_⟩, ?_⟩
  · change (op.buffers.take (op.bufIndex + count)).flatten.length + (op.bufOff - _) = op.offset
    rw [List.take_add, List.flatten_append, List.length_append]
    omega
  · change op.bufIndex + count ≤ op.buffers.length
    omega
  · intro buffer found
    exact next buffer (by rwa [List.getElem?_drop])

/-- What stands at the cursor is the next part of the write. -/
theorem Tracks.current {op : WriteOp} {write : Writing} (tracks : Tracks iss op write)
    (placed : ∀ buffer ∈ op.buffers[op.bufIndex]?, op.bufOff < buffer.length)
    (more : op.offset < op.total) :
    op.bufIndex < op.buffers.length ∧ op.bufOff < (currentBuffer op).length ∧
      ∀ count, count ≤ (currentBuffer op).length - op.bufOff →
        ((currentBuffer op).drop op.bufOff).take count = write.next count := by
  have cursor := tracks.cursor
  have index := tracks.index
  have total := tracks.total
  have inside : op.bufIndex < op.buffers.length := by
    by_contra past
    have last : op.bufIndex = op.buffers.length := by omega
    rw [last, List.take_length, tracks.bytes] at cursor
    omega
  have current : op.buffers[op.bufIndex]? = some (currentBuffer op) := by
    unfold currentBuffer
    simp [inside]
  have room := placed _ current
  refine ⟨inside, room, ?_⟩
  intro count fits
  have rests := Rests.drop op.buffers op.bufIndex
  have split : op.buffers.drop op.bufIndex = currentBuffer op :: op.buffers.drop (op.bufIndex + 1) := by
    rw [List.drop_eq_getElem_cons inside]
    simp [currentBuffer, inside]
  rw [split, tracks.bytes] at rests
  have piece := (rests.slice.drop op.bufOff room.le).take count
  have content := piece.content
  rw [List.length_take, List.length_drop, Nat.min_eq_left fits, cursor, tracks.offset] at content
  exact content

section

variable {c₀ : Conn} {s₀ : Sender} {event : Event}

/-- A change of the write that keeps what it stands for. -/
theorem Mirrors.setWrite {c : Conn} {s : Sender} (mirrors : Mirrors iss c s) {op : WriteOp}
    {write : Writing} (here : s.write = some write) (tracks : Tracks iss op write) :
    Mirrors iss { c with flow.activeWrite := some op } s := by
  have sim := mirrors.sim
  refine ⟨⟨sim.base, sim.state, sim.una, sim.nxt, sim.wnd, sim.scale, sim.finSent, sim.finPending,
    sim.probing, ?_, sim.tape, sim.reports⟩, mirrors.good, mirrors.rst⟩
  rw [here]
  exact .some tracks

/-- What is in flight, as the code counts it. -/
theorem Mirrors.inFlight {c : Conn} {s : Sender} (mirrors : Mirrors iss c s) :
    (c.flow.sndNxt - c.flow.sndUna).toNat = s.nxt - s.una := by
  have order := mirrors.good.positions.order
  have flight := mirrors.good.positions.flight
  rw [mirrors.sim.una, mirrors.sim.nxt]
  exact num_sub_toNat iss s.nxt s.una order (by omega)

theorem Sim.buildSegment {c : Conn} {s : Sender} (sim : Sim iss c s) (good : Good s)
    (payload : List UInt8) :
    Sim iss { (buildSegment c c.flow.sndNxt (tcpAck ||| tcpPsh) payload false).2 with
        out := c.out ++ [(buildSegment c c.flow.sndNxt (tcpAck ||| tcpPsh) payload false).1] }
      (s.emit s.nxt (tcpAck ||| tcpPsh) payload) := by
  have near := good.near_nxt
  refine ⟨sim.base, sim.state, sim.una, sim.nxt, sim.wnd, sim.scale, sim.finSent, sim.finPending,
    sim.probing, sim.write, ?_, sim.reports⟩
  change tapeOf iss (c.out ++ [_]) = s.tape.put _
  rw [tapeOf_append, sim.tape]
  exact Tape.emit_num iss s.tape _ s.nxt sim.nxt pshAck_flags.1 near.1 near.2

/-- While bytes are left and the window has room, the coroutine builds a segment. -/
theorem buildNextSegment_leads {c : Conn} {s : Sender} {op : WriteOp} (mirrors : Mirrors iss c s)
    (active : c.flow.activeWrite = some op) (more : op.offset < op.total)
    (room : c.flow.sndNxt - c.flow.sndUna < c.flow.peerWnd) (cause : event.isSegment = false) :
    (buildNextSegment c op (c.flow.sndNxt - c.flow.sndUna)).2 = true ∧
      Leads iss c₀ s₀ event s (buildNextSegment c op (c.flow.sndNxt - c.flow.sndUna)).1 := by
  obtain ⟨write, here, tracks⟩ := mirrors.sim.tracked active
  obtain ⟨normal, placed⟩ := tracks.normalize
  have flight := mirrors.inFlight
  rw [UInt32.lt_iff_toNat_lt] at room
  have window : (c.flow.peerWnd - (c.flow.sndNxt - c.flow.sndUna)).toNat =
      s.wnd - (s.nxt - s.una) := by
    rw [UInt32.toNat_sub_of_le _ _ (UInt32.le_iff_toNat_le.mpr room.le), flight, mirrors.sim.wnd]
  rw [flight, mirrors.sim.wnd] at room
  have moved := mirrors.setWrite here normal
  generalize normalEq : normalize op = next at normal placed moved
  have sameOffset : next.offset = op.offset := by rw [← normalEq]; rfl
  have sameTotal : next.total = op.total := by rw [← normalEq]; rfl
  have sameBuffers : next.buffers = op.buffers := by rw [← normalEq]; rfl
  rw [← sameBuffers] at placed
  obtain ⟨inside, avail, content⟩ := normal.current placed (by omega)
  have mssPos := mss_pos c.eng.cfg c.flow.key.family
  unfold buildNextSegment
  dsimp only
  rw [normalEq, if_neg (by omega), window]
  generalize count_eq : min (min (next.total - next.offset)
    ((currentBuffer next).length - next.bufOff))
    (min (mss c.eng.cfg c.flow.key.family) (s.wnd - (s.nxt - s.una))) = count
  rw [if_neg (by omega)]
  refine ⟨rfl, ?_⟩
  rw [content count (by omega)]
  have left : next.total - next.offset = write.bytes.length - write.offset := by
    rw [normal.total, normal.offset]
  have enabled : s.Enabled (.data write count) := by
    refine ⟨here, by omega, by omega, ?_⟩
    omega
  refine moved.leads (.data write count) enabled cause ?_ ?_
  · have built := moved.sim.buildSegment moved.good (write.next count)
    refine ⟨built.base, built.state, built.una, ?_, built.wnd, built.scale, built.finSent,
      built.finPending, built.probing, .some ?_, built.tape, built.reports⟩
    · exact (congrArg (· + UInt32.ofNat count) mirrors.sim.nxt).trans (num_add iss s.nxt count).symm
    · exact ⟨normal.bytes, normal.total, congrArg (· + count) normal.offset, normal.start,
        normal.handler, by
          change (next.buffers.take next.bufIndex).flatten.length + (next.bufOff + count) =
            next.offset + count
          rw [← normal.cursor, Nat.add_assoc], normal.index⟩
  · exact mirrors.rst

theorem sendWindowProbe_leads {c : Conn} {op : WriteOp} (mirrors : Mirrors iss c s₀)
    (active : c.flow.activeWrite = some op) (more : op.offset < op.total)
    (cause : ∃ index, event = .resume index) :
    Leads iss c₀ s₀ event s₀ (sendWindowProbe c op) := by
  obtain ⟨write, here, tracks⟩ := mirrors.sim.tracked active
  obtain ⟨normal, placed⟩ := tracks.normalize
  have moved := mirrors.setWrite here normal
  generalize normalEq : normalize op = next at normal placed moved
  have sameOffset : next.offset = op.offset := by rw [← normalEq]; rfl
  have sameTotal : next.total = op.total := by rw [← normalEq]; rfl
  have sameBuffers : next.buffers = op.buffers := by rw [← normalEq]; rfl
  rw [← sameBuffers] at placed
  obtain ⟨inside, avail, content⟩ := normal.current placed (by omega)
  have isOpen : ({ c with flow.activeWrite := some next } : Conn).flow.state ≠ .closed := by
    change c.flow.state ≠ .closed
    rw [mirrors.sim.state]
    exact (mirrors.good.open_write here).2
  have near := mirrors.good.near_nxt
  have sent := moved.sim.sendSegment isOpen s₀.nxt tcpAck (write.next 1) false
    (Or.inr ⟨ack_flags.1, near⟩)
  have shorter : write.offset < write.bytes.length := by
    rwa [← tracks.offset, ← tracks.total]
  unfold sendWindowProbe
  dsimp only
  rw [normalEq, if_neg (by omega), content 1 (by omega)]
  rw [← mirrors.sim.nxt] at sent
  refine moved.leads (.probe write) ⟨here, shorter⟩ ⟨rfl, cause⟩ ?_ ?_
  · exact ⟨sent.base, sent.state, sent.una, sent.nxt, sent.wnd, sent.scale, sent.finSent,
      sent.finPending, rfl, sent.write, sent.tape, sent.reports⟩
  · intro rst
    have kept := sendSegment_send { c with flow.activeWrite := some next } c.flow.sndNxt tcpAck
      (write.next 1) false
    exact absurd (mirrors.rst ((congrArg SendView.rst kept).symm.trans rst)) isOpen

end

/-! Retransmission. -/

/-- A chunk to send again is a piece of the write inside the range asked for. -/
structure ChunkOk (stream : List UInt8) (first stop : Nat) (chunk : Nat × List UInt8) : Prop where
  lower : first ≤ chunk.1
  inside : chunk.1 < stop
  upper : chunk.1 + chunk.2.length ≤ stop
  piece : Slice stream chunk.1 chunk.2

theorem ChunkOk.mono {stream : List UInt8} {first later stop : Nat} {chunk : Nat × List UInt8}
    (ok : ChunkOk stream later stop chunk) (le : first ≤ later) :
    ChunkOk stream first stop chunk :=
  ⟨le.trans ok.lower, ok.inside, ok.upper, ok.piece⟩

theorem retransmitChunks_ok (segMss stop : Nat) (stream : List UInt8) (fuel : Nat)
    (buffers : List (List UInt8)) (base off budget : Nat) (rests : Rests stream base buffers)
    (reached : base ≤ off) :
    ∀ chunk ∈ retransmitChunks segMss stop fuel buffers base off budget,
      ChunkOk stream off stop chunk := by
  induction fuel generalizing buffers base off budget with
  | zero => simp [retransmitChunks]
  | succ fuel ih =>
      cases buffers with
      | nil => simp [retransmitChunks]
      | cons buffer rest =>
          unfold retransmitChunks
          split
          · rename_i going
            dsimp only
            generalize want_eq : min (min (stop - off) (buffer.length - (off - base)))
              (min budget segMss) = want
            split
            · simp
            · have piece : Slice stream off ((buffer.drop (off - base)).take want) := by
                have cut := (rests.slice.drop (off - base) (by omega)).take want
                rwa [Nat.add_sub_cancel' reached] at cut
              have length : ((buffer.drop (off - base)).take want).length = want := by
                rw [List.length_take, List.length_drop]
                omega
              have first : ChunkOk stream off stop (off, (buffer.drop (off - base)).take want) :=
                ⟨le_rfl, going.1, by rw [length]; omega, piece⟩
              intro chunk member
              rcases List.mem_cons.mp member with rfl | later
              · exact first
              · have after : ChunkOk stream (off + want) stop chunk := by
                  split at later
                  · exact ih rest _ _ _ rests.tail (by omega) chunk later
                  · exact ih (buffer :: rest) _ _ _ rests (by omega) chunk later
                exact after.mono (Nat.le_add_right _ _)
          · simp

theorem seekBuffers_rests (stream : List UInt8) (buffers : List (List UInt8)) (base off : Nat)
    (rests : Rests stream base buffers) (reached : base ≤ off) :
    Rests stream (seekBuffers buffers base off).2 (seekBuffers buffers base off).1 ∧
      (seekBuffers buffers base off).2 ≤ off := by
  induction buffers generalizing base with
  | nil => exact ⟨rests, reached⟩
  | cons buffer rest ih =>
      unfold seekBuffers
      split
      · exact ih _ rests.tail ‹_›
      · exact ⟨rests, reached⟩

theorem retransmitPlan_ok (c : Conn) (op : WriteOp) (maxBytes : Nat) :
    ∀ chunk ∈ retransmitPlan c op maxBytes,
      ChunkOk op.buffers.flatten (c.flow.sndUna - op.startSeq).toNat
        (min (c.flow.sndNxt - op.startSeq).toNat op.total) chunk := by
  have seek := seekBuffers_rests op.buffers.flatten op.buffers 0
    (c.flow.sndUna - op.startSeq).toNat (Rests.whole op.buffers) (Nat.zero_le _)
  exact retransmitChunks_ok _ _ _ _ _ _ _ _ seek.1 seek.2

/-- Where a chunk stands.  An offset is counted in 32 bits, so it is exact as long as the
acknowledgements have come less than `2 ^ 32` bytes into the write. -/
theorem chunk_position {start una nxt total : Nat} {stream : List UInt8}
    {chunk : Nat × List UInt8} (reached : start ≤ nxt) (order : una ≤ nxt)
    (flight : nxt ≤ una + 2 ^ 30)
    (ok : ChunkOk stream (num iss una - num iss start).toNat
      (min (num iss nxt - num iss start).toNat total) chunk) :
    ∃ pos, num iss start + UInt32.ofNat chunk.1 = num iss pos ∧ una ≤ pos ∧
      pos + chunk.2.length ≤ nxt ∧ (una < start + 2 ^ 32 → pos = start + chunk.1) := by
  have lower := ok.lower
  have inside := ok.inside
  have upper := ok.upper
  rw [num_sub_mod iss nxt start reached] at inside upper
  by_cases ahead : start ≤ una
  · rw [num_sub_mod iss una start ahead] at lower
    refine ⟨una + (chunk.1 - (una - start) % 2 ^ 32), ?_, Nat.le_add_right _ _, by omega, by omega⟩
    rw [← num_add]
    apply UInt32.toNat_inj.mp
    rw [num_toNat, num_toNat]
    omega
  · -- an older acknowledgement: the offset of `snd_una` lies beyond everything that was sent
    rw [num_sub_behind iss una start (by omega) (by omega)] at lower
    omega

section

variable {c₀ : Conn} {s₀ : Sender} {event : Event}

/-- Sending again changes nothing but the tape. -/
theorem resend_leads {op : WriteOp} {write : Writing} (chunks : List (Nat × List UInt8))
    (here : s₀.write = some write) (tracks : Tracks iss op write)
    (cause : ∃ index, event = .resume index)
    (ok : ∀ chunk ∈ chunks, ChunkOk write.bytes (num iss s₀.una - num iss write.start).toNat
      (min (num iss s₀.nxt - num iss write.start).toNat op.total) chunk)
    {c : Conn} {s : Sender} (mirrors : Mirrors iss c s) (una : s.una = s₀.una)
    (nxt : s.nxt = s₀.nxt) (same : s.write = s₀.write) :
    Leads iss c₀ s₀ event s (chunks.foldl (fun c chunk =>
      sendSegment c (op.startSeq + UInt32.ofNat chunk.1) (tcpAck ||| tcpPsh) chunk.2 false) c) := by
  induction chunks generalizing c s with
  | nil => exact Reaches.here mirrors
  | cons chunk rest ih =>
      have positions := mirrors.good.positions
      have order := positions.order
      have flight := positions.flight
      have upper := positions.upper
      have lower := positions.lower
      have writing := same.trans here
      have reached := (mirrors.good.write write writing).reached
      have isOpen : c.flow.state ≠ .closed := by
        rw [mirrors.sim.state]
        exact (mirrors.good.open_write writing).2
      have first := ok chunk List.mem_cons_self
      rw [← una, ← nxt] at first
      obtain ⟨pos, word, after, inside, exact_⟩ := chunk_position (by omega) order flight first
      have sent := mirrors.sim.sendSegment isOpen pos (tcpAck ||| tcpPsh) chunk.2 false
        (Or.inr ⟨pshAck_flags.1, by omega, by omega⟩)
      have enabled : s.Enabled (.resend pos chunk.2) := ⟨by simp [writing], after, inside⟩
      have allowed : Because c₀ s₀ event s (.resend pos chunk.2) := by
        refine ⟨cause, una, nxt, same, ?_⟩
        intro other found early
        cases writing.symm.trans found
        rw [exact_ early, Nat.add_sub_cancel_left]
        exact ⟨Nat.le_add_right _ _, first.piece.content⟩
      rw [List.foldl_cons, tracks.start, word]
      refine Reaches.cons (.resend pos chunk.2) enabled allowed ?_
      rw [← tracks.start]
      refine ih (fun later member => ok later (List.mem_cons_of_mem _ member)) ?_ una nxt same
      refine ⟨sent, mirrors.good.act _ enabled, ?_⟩
      have kept := sendSegment_send c (num iss pos) (tcpAck ||| tcpPsh) chunk.2 false
      exact fun rst => absurd (mirrors.rst ((congrArg SendView.rst kept).symm.trans rst)) isOpen

theorem retransmitUnacked_leads {c : Conn} (mirrors : Mirrors iss c s₀) (maxBytes : Nat)
    (cause : ∃ index, event = .resume index) :
    Leads iss c₀ s₀ event s₀ (retransmitUnacked c maxBytes) := by
  unfold retransmitUnacked
  split
  · exact Reaches.here mirrors
  · rename_i op active
    split
    · exact Reaches.here mirrors
    · obtain ⟨write, here, tracks⟩ := mirrors.sim.tracked active
      have ok := retransmitPlan_ok c op maxBytes
      rw [tracks.bytes, tracks.start, mirrors.sim.una, mirrors.sim.nxt] at ok
      exact resend_leads _ here tracks cause ok mirrors rfl rfl rfl

end

/-! The iterations of the loop. -/

section

variable {c₀ : Conn} {s₀ : Sender} {event : Event}

theorem Mirrors.isOpen {c : Conn} {s : Sender} (mirrors : Mirrors iss c s) {op : WriteOp}
    (active : c.flow.activeWrite = some op) : c.flow.state ≠ .closed := by
  obtain ⟨write, here, _⟩ := mirrors.sim.tracked active
  rw [mirrors.sim.state]
  exact (mirrors.good.open_write here).2

theorem exitLoop_closed {c : Conn} {s : Sender} (mirrors : Mirrors iss c s)
    (closed : c.flow.state = .closed) : exitLoop c = c := by
  cases active : c.flow.activeWrite with
  | none => simp [exitLoop, active]
  | some op => exact absurd closed (mirrors.isOpen active)

/-- A failed device write ends the write. -/
theorem exitLoop_leads {c : Conn} (mirrors : Mirrors iss c s₀)
    (cause : failedWrite c₀ event = true) : Leads iss c₀ s₀ event s₀ (exitLoop c) := by
  have sim := mirrors.sim
  unfold exitLoop
  split
  · rename_i op active
    obtain ⟨write, here, tracks⟩ := sim.tracked active
    let completion : WriteCompletion :=
      { handler := op.handler, ec := if c.flow.rst = true then .connectionReset else .badDescriptor
        n := 0 }
    have allowed : Because c₀ s₀ event (s₀.act .fail) (.report completion) := by
      intro success
      change (if c.flow.rst = true then ErrorCode.connectionReset else .badDescriptor) = _ at success
      split at success <;> cases success
    refine Reaches.cons .fail trivial ⟨rfl, cause⟩ (Reaches.act (.report completion) trivial allowed ?_)
    refine ⟨?_, (mirrors.good.act .fail trivial).act (.report completion) trivial, mirrors.rst⟩
    exact ⟨sim.base, sim.state, sim.una, sim.nxt, sim.wnd, sim.scale, sim.finSent, sim.finPending,
      sim.probing, .none, sim.tape, congrArg (· ++ [completion]) sim.reports⟩
  · exact Reaches.here mirrors

/-- A write is complete when everything is emitted and its last byte is acknowledged. -/
theorem complete_leads {c : Conn} {s : Sender} {op : WriteOp} (mirrors : Mirrors iss c s)
    (active : c.flow.activeWrite = some op) (emitted : op.offset = op.total)
    (acked : c.flow.sndUna = op.startSeq + UInt32.ofNat op.total) :
    Leads iss c₀ s₀ event s
      (postWrite { c with flow.activeWrite := none } op.handler .success op.total) := by
  have sim := mirrors.sim
  obtain ⟨write, here, tracks⟩ := sim.tracked active
  have ok := mirrors.good.write write here
  have order := mirrors.good.positions.order
  have flight := mirrors.good.positions.flight
  have reached := ok.reached
  have slack := ok.slack
  have fin := s.finSent.toNat_le
  have probe := (!s.probing).toNat_le
  have whole : write.offset = write.bytes.length := by
    rw [← tracks.offset, ← tracks.total, emitted]
  rw [sim.una, tracks.start, tracks.total, ← num_add] at acked
  have una := num_inj iss acked (by omega) (by omega)
  refine mirrors.leads (.complete write) ⟨here, whole, una⟩ trivial ?_ mirrors.rst
  refine ⟨sim.base, sim.state, sim.una, sim.nxt, sim.wnd, sim.scale, sim.finSent, sim.finPending,
    sim.probing, .none, sim.tape, ?_⟩
  change c.writes ++ [_] = s.reports ++ [_]
  rw [sim.reports, tracks.handler, tracks.total]

theorem turn_leads {c : Conn} {s : Sender} (mirrors : Mirrors iss c s) (loop : WriteLoop)
    (cause : event.isSegment = false) : Leads iss c₀ s₀ event s (turn c loop).conn := by
  unfold turn
  split
  · exact Reaches.here mirrors
  · rename_i op active
    have isOpen := mirrors.isOpen active
    dsimp only
    split
    · rename_i ended
      rcases ended with closed | rst
      · exact absurd closed isOpen
      · exact absurd (mirrors.rst rst) isOpen
    · split
      · rename_i whole
        exact complete_leads mirrors active whole.1 whole.2
      · split
        · exact Reaches.here mirrors
        · split
          · exact Reaches.here mirrors
          · split
            · rename_i room
              have built : _ ∧ Leads iss c₀ s₀ event s _ :=
                buildNextSegment_leads mirrors active room.1 room.2 cause
              split
              · rename_i result
                rw [result] at built
                exact absurd built.1 (by simp)
              · rename_i result
                rw [result] at built
                exact built.2
            · split
              · exact Reaches.here mirrors
              · exact Reaches.here mirrors

theorem continueLoop_leads {s : Sender} (next : Turn) (mirrors : Mirrors iss next.conn s)
    (cause : event.isSegment = false) : Leads iss c₀ s₀ event s (continueLoop next).conn := by
  cases next with
  | again c loop =>
      have first : Leads iss c₀ s₀ event s (turn c loop).conn := turn_leads mirrors loop cause
      change Leads iss c₀ s₀ event s (loopHead c loop).conn
      unfold loopHead
      split
      · rename_i result
        rw [result] at first
        exact first.trans fun t there => turn_leads there _ cause
      · exact first
  | suspend c loop => exact Reaches.here mirrors
  | done c => exact Reaches.here mirrors

/-- A coroutine that gives up resets the flow. -/
theorem giveUp_leads {c : Conn} {s : Sender} (mirrors : Mirrors iss c s)
    (aborts : Aborts c₀ event) (notWrite : event.isWrite = false) :
    Leads iss c₀ s₀ event s (exitLoop (abortFlow c)) := by
  have aborted : Leads iss c₀ s₀ event s (abortFlow c) := by
    by_cases closed : c.flow.state = .closed
    · rw [abortFlow, if_pos closed]
      exact Reaches.here mirrors
    · exact abortFlow_leads mirrors closed (Or.inl aborts) notWrite
  refine aborted.trans fun t there => ?_
  rw [exitLoop_closed there (abortFlow_state c)]
  exact Reaches.here there

end

end Tunio
