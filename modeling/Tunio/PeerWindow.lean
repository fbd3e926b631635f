import Tunio.Simulation

/-!
The window of the peer.  The right edge is the furthest position that an accepted
acknowledgement has offered; new data stays below it as long as no stale acknowledgement
brings a window that reaches further from `snd_una` than the edge.
-/

namespace Tunio

open Serial Machines

/-- The acknowledgement is for nothing that was not sent. -/
def acceptable (flow : TcpFlow) (ack : UInt32) : Bool :=
  seqGe flow.sndNxt ack ||
    (flow.probeInFlight && ack == flow.sndNxt + 1 && seqGt ack flow.sndUna)

/-- The acknowledgement is `snd_una`, or becomes it. -/
def current (flow : TcpFlow) (ack : UInt32) : Bool :=
  ack == flow.sndUna || (seqGt ack flow.sndUna && acceptable flow ack)

def offered (c : Conn) (th : TcpHeader) : Nat :=
  (th.window.toUInt32 <<< c.flow.sndWndScale.toUInt32).toNat

/-- The segments whose ACK field the flow looks at. -/
def acknowledges (c : Conn) (th : TcpHeader) : Bool :=
  c.flow.state != .closed && hasFlag th.flags tcpAck

/-- The right edge after an event. -/
def edgeAfter (c : Conn) (edge : Int) : Event → Int
  | .segment th _ =>
      if acknowledges c th && acceptable c.flow th.ack then
        max edge (position c th.ack + offered c th)
      else edge
  | _ => edge

def edgeOf (c : Conn) (edge : Int) : List Event → Int
  | [] => edge
  | event :: events => edgeOf (step c event) (edgeAfter c edge event) events

/-- A stale acknowledgement offers nothing beyond the edge. -/
def InWindow (c : Conn) (edge : Int) : Event → Prop
  | .segment th _ =>
      acknowledges c th = true → current c.flow th.ack = false →
        position c c.flow.sndUna + offered c th ≤ edge
  | _ => True

def InWindowRun (c : Conn) (edge : Int) : List Event → Prop
  | [] => True
  | event :: events => InWindow c edge event ∧ InWindowRun (step c event) (edgeAfter c edge event) events

/-- What an event emits at `snd_nxt` or beyond stays below the edge, the byte of a
window probe apart. -/
def WithinEdge (c : Conn) (edge : Int) (event : Event) : Prop :=
  ∀ emission ∈ emitted c (step c event), ∀ index < emission.payload.length,
    nxtPos c ≤ emission.pos + index →
      ((emission.pos + index : Nat) : Int) < edge ∨
        (emission.flags = tcpAck ∧ emission.pos = nxtPos c ∧ emission.payload.length = 1)

/-! One event. -/

section

variable {iss : UInt32} {c : Conn} {s : Sender} {event : Event}

/-- The emissions of a path against the window at its start. -/
structure Guarded (s t : Sender) (more : List Emission) : Prop where
  log : t.tape.log = s.tape.log ++ more
  bytes : ∀ emission ∈ more, ∀ index < emission.payload.length, s.nxt ≤ emission.pos + index →
    (s.state ≠ .closed ∧ emission.pos + index < s.una + s.wnd) ∨
      (emission.flags = tcpAck ∧ emission.pos = s.nxt ∧ emission.payload.length = 1)

theorem Guarded.put {s t : Sender} {more : List Emission} (guarded : Guarded s t more)
    (emission : Emission)
    (bytes : ∀ index < emission.payload.length, s.nxt ≤ emission.pos + index →
      (s.state ≠ .closed ∧ emission.pos + index < s.una + s.wnd) ∨
        (emission.flags = tcpAck ∧ emission.pos = s.nxt ∧ emission.payload.length = 1))
    {after : Sender} (log : after.tape.log = t.tape.log ++ [emission]) :
    Guarded s after (more ++ [emission]) := by
  refine ⟨by rw [log, guarded.log, List.append_assoc], ?_⟩
  intro other member
  rcases List.mem_append.mp member with early | late
  · exact guarded.bytes other early
  · rw [List.mem_singleton] at late
    subst late
    exact bytes

theorem Guarded.bare {s t : Sender} {more : List Emission} (guarded : Guarded s t more)
    (pos : Nat) (flags : UInt8) {after : Sender}
    (log : after.tape.log = t.tape.log ++ [⟨pos, flags, []⟩]) :
    ∃ more, Guarded s after more :=
  ⟨_, guarded.put ⟨pos, flags, []⟩ (by simp) log⟩

structure Windowed (s t : Sender) : Prop where
  good : Good t
  closed : s.state = .closed → t.state = .closed
  una : t.una = s.una
  wnd : t.wnd = s.wnd
  nxt : s.nxt ≤ t.nxt
  guarded : ∃ more, Guarded s t more

/-- An event that is no segment leaves `snd_una` and the window, and sends inside it. -/
theorem Windowed.act {t : Sender} (windowed : Windowed s t) (other : event.isSegment = false)
    (a : Action) (enabled : t.Enabled a) (allowed : Because c s event t a) :
    Windowed s (t.act a) := by
  have closed (shut : s.state = .closed) : (t.act a).state = .closed :=
    Sender.act_closed a enabled (windowed.closed shut)
  have good := windowed.good.act a enabled
  obtain ⟨more, guarded⟩ := windowed.guarded
  have nxt := windowed.nxt
  have una := windowed.una
  have wnd := windowed.wnd
  cases a with
  | syn =>
      have fresh := windowed.good.phases.fresh enabled
      refine ⟨good, closed, una, wnd, ?_, guarded.bare 0 _ rfl⟩
      change s.nxt ≤ 1
      omega
  | resyn => exact ⟨good, closed, una, wnd, nxt, guarded.bare 0 _ rfl⟩
  | bare flags => exact ⟨good, closed, una, wnd, nxt, guarded.bare t.nxt flags rfl⟩
  | ack pos =>
      obtain ⟨_, th, data, rfl, _⟩ := allowed
      cases other
  | probeAck =>
      obtain ⟨_, th, data, rfl, _⟩ := allowed
      cases other
  | fin => exact ⟨good, closed, una, wnd, Nat.le_succ_of_le nxt, guarded.bare t.nxt _ rfl⟩
  | quit => exact ⟨good, closed, una, wnd, Nat.le_succ_of_le nxt, guarded.bare t.nxt _ rfl⟩
  | window wnd => exact absurd (allowed.symm.trans other) (by simp)
  | data write count =>
      obtain ⟨active, _, inside, room⟩ := enabled
      have isOpen : s.state ≠ .closed :=
        fun shut => (windowed.good.open_write active).2 (windowed.closed shut)
      refine ⟨good, closed, una, wnd, Nat.le_add_right_of_le nxt, _, guarded.put
        ⟨t.nxt, tcpAck ||| tcpPsh, write.next count⟩ ?_ rfl⟩
      intro index bound _
      rw [write.next_length count inside] at bound
      exact Or.inl ⟨isOpen, by change t.nxt + index < _; omega⟩
  | probe write =>
      obtain ⟨rfl, _⟩ := allowed
      refine ⟨good, closed, una, wnd, nxt, _, guarded.put ⟨t.nxt, tcpAck, write.next 1⟩ ?_ rfl⟩
      exact fun index bound _ => Or.inr ⟨rfl, rfl, write.next_length 1 enabled.2⟩
  | resend pos payload =>
      obtain ⟨_, _, sent⟩ := enabled
      obtain ⟨_, _, same, _⟩ := allowed
      refine ⟨good, closed, una, wnd, nxt, _, guarded.put ⟨pos, _, payload⟩ ?_ rfl⟩
      intro index bound reached
      change index < payload.length at bound
      change s.nxt ≤ pos + index at reached
      omega
  | _ => exact ⟨good, closed, una, wnd, nxt, more, guarded.log, guarded.bytes⟩

theorem Windowed.path (mirrors : Mirrors iss c s) (other : event.isSegment = false)
    {last : Sender} (path : Steps senderMachine (Because c s event) s last) : Windowed s last :=
  path.invariant (Windowed s)
    ⟨mirrors.good, id, rfl, rfl, le_rfl, [], by simp, by simp⟩
    fun _ a windowed enabled allowed => windowed.act other a enabled allowed

/-- A segment is answered without data, and `snd_una` moves to the position that it
acknowledges or not at all. -/
structure Answered (iss : UInt32) (th : TcpHeader) (s t : Sender) : Prop where
  una : t.una = s.una ∨ (th.ack = num iss t.una ∧ s.una < t.una ∧
    (t.una ≤ s.nxt ∨ (t.una = s.nxt + 1 ∧ s.probing = true)))
  log : ∃ more, t.tape.log = s.tape.log ++ more ∧ ∀ emission ∈ more, emission.payload = []

theorem Answered.put {th : TcpHeader} {t after : Sender} (answered : Answered iss th s t)
    (pos : Nat) (flags : UInt8) (una : after.una = t.una)
    (log : after.tape.log = t.tape.log ++ [⟨pos, flags, []⟩]) : Answered iss th s after := by
  obtain ⟨more, before, empty⟩ := answered.log
  refine ⟨by rw [una]; exact answered.una, more ++ [⟨pos, flags, []⟩], ?_, ?_⟩
  · rw [log, before, List.append_assoc]
  · intro emission member
    rcases List.mem_append.mp member with early | late
    · exact empty emission early
    · rw [List.mem_singleton.mp late]

theorem Answered.act {th : TcpHeader} {data : List UInt8} {t : Sender} (good : Good s)
    (base : c.flow.iss = iss) (answered : Answered iss th s t) (a : Action) (enabled : t.Enabled a)
    (allowed : Because c s (.segment th data) t a) : Answered iss th s (t.act a) := by
  have order := good.positions.order
  cases a with
  | syn => cases allowed
  | resyn => exact answered.put 0 _ rfl rfl
  | bare flags => exact answered.put t.nxt flags rfl rfl
  | ack pos =>
      obtain ⟨rfl, _, _, same, _, word⟩ := allowed
      cases same
      rw [base] at word
      exact ⟨Or.inr ⟨word, enabled.1, Or.inl enabled.2⟩, answered.log⟩
  | probeAck =>
      obtain ⟨rfl, _, _, same, _, word⟩ := allowed
      cases same
      rw [base] at word
      exact ⟨Or.inr ⟨word, Nat.lt_succ_of_le order, Or.inr ⟨rfl, enabled⟩⟩, answered.log⟩
  | fin => exact answered.put t.nxt _ rfl rfl
  | quit => exact answered.put t.nxt _ rfl rfl
  | data write count => cases allowed
  | probe write =>
      obtain ⟨_, index, same⟩ := allowed
      cases same
  | resend pos payload =>
      obtain ⟨⟨index, same⟩, _⟩ := allowed
      cases same
  | _ => exact ⟨answered.una, answered.log⟩

theorem Answered.path {th : TcpHeader} {data : List UInt8} (mirrors : Mirrors iss c s)
    {last : Sender} (path : Steps senderMachine (Because c s (.segment th data)) s last) :
    Answered iss th s last :=
  path.invariant (Answered iss th s) ⟨Or.inl rfl, [], by simp, by simp⟩
    fun _ a answered enabled allowed =>
      answered.act mirrors.good mirrors.sim.base a enabled allowed

end

/-! The fields that a segment leaves behind. -/

theorem sendDeferredFin_window (c : Conn) :
    (sendDeferredFin c).flow.state = .closed ∨
      ((sendDeferredFin c).flow.sndUna = c.flow.sndUna ∧
        (sendDeferredFin c).flow.sndWndScale = c.flow.sndWndScale) := by
  unfold sendDeferredFin
  split
  · rcases sendFin_cases { c with flow.finPending := false } with
      ⟨_, same⟩ | ⟨_, _, ⟨_, same⟩ | ⟨_, ⟨_, same⟩ | ⟨_, same⟩ | ⟨_, same⟩⟩⟩
    · rw [same]
      exact Or.inr ⟨rfl, rfl⟩
    · rw [same]
      exact Or.inr ⟨rfl, rfl⟩
    · rw [same]
      have kept := sendSegment_send { c with
        flow.finPending := false
        flow.finSent := true
        flow.state := c.flow.state.finished
        flow.closeStartedAt := c.eng.now } c.flow.sndNxt (tcpAck ||| tcpFin) [] false
      exact Or.inr ⟨congrArg SendView.sndUna kept, congrArg SendView.sndWndScale kept⟩
    · rw [same]
      exact Or.inl (abortFlow_state _)
    · rw [same]
      exact Or.inr ⟨rfl, rfl⟩
  · exact Or.inr ⟨rfl, rfl⟩

theorem confirmFin_window (c : Conn) (ack : UInt32) :
    (confirmFin c ack).1.flow.state = .closed ∨
      ((confirmFin c ack).2 = true ∧ (confirmFin c ack).1.flow.sndUna = c.flow.sndUna ∧
        (confirmFin c ack).1.flow.sndWndScale = c.flow.sndWndScale) := by
  unfold confirmFin
  split
  · split <;> exact Or.inr ⟨rfl, rfl, rfl⟩
  · split
    · exact Or.inl (closeFlow_state _ _)
    · exact Or.inr ⟨rfl, rfl, rfl⟩

theorem advanceUna_window (c : Conn) (ack : UInt32) :
    (advanceUna c ack).flow.sndUna =
        (if (seqGt ack c.flow.sndUna && acceptable c.flow ack) = true then ack
          else c.flow.sndUna) ∧
      (advanceUna c ack).flow.sndWndScale = c.flow.sndWndScale := by
  unfold advanceUna acceptable
  cases newer : seqGt ack c.flow.sndUna
  · simp
  · cases sent : seqGe c.flow.sndNxt ack
    · cases probing : c.flow.probeInFlight && ack == c.flow.sndNxt + 1
      · simp
      · unfold acceptProbe
        simp only [Bool.and_false, Bool.false_eq_true, if_false, Bool.and_self, if_true,
          Bool.false_or]
        cases c.flow.activeWrite with
        | none => exact ⟨rfl, rfl⟩
        | some op =>
            dsimp only
            split <;> exact ⟨rfl, rfl⟩
    · simp

theorem completeHandshake_send (c : Conn) :
    (completeHandshake c).flow.send = c.flow.send := by
  unfold completeHandshake
  rw [(Quiet.flushReads _).send]
  dsimp only
  split
  · rfl
  · unfold notifyAccept
    split <;> rfl

theorem handleByState_send (c : Conn) (th : TcpHeader) (data : List UInt8) :
    (handleByState c th data).flow.send = c.flow.send := by
  unfold handleByState
  split
  · rfl
  · rfl
  · split
    · exact sendSegment_send c _ _ _ _
    · split
      · rfl
      · rw [(Quiet.handlePayload _ th data).send, completeHandshake_send]
  · exact (Quiet.handlePayload c th data).send

theorem handleAckField_window (c : Conn) (th : TcpHeader) (isAck : hasFlag th.flags tcpAck = true) :
    (handleAckField c th).1.flow.state = .closed ∨
      ((handleAckField c th).1.flow.sndUna = (advanceUna c th.ack).flow.sndUna ∧
        (handleAckField c th).1.flow.peerWnd =
          th.window.toUInt32 <<< c.flow.sndWndScale.toUInt32) := by
  have scale := (advanceUna_window c th.ack).2
  have deferred := sendDeferredFin_window (clearProbe (advanceUna c th.ack))
  have confirmed := confirmFin_window (sendDeferredFin (clearProbe (advanceUna c th.ack))) th.ack
  have shut := (Aside.confirmFin (sendDeferredFin (clearProbe (advanceUna c th.ack))) th.ack).stays
  unfold handleAckField
  rw [if_pos isAck]
  unfold handleAck
  generalize confirmFin (sendDeferredFin (clearProbe (advanceUna c th.ack))) th.ack = result
    at confirmed shut ⊢
  have kept : result.1.flow.state = .closed ∨ (result.2 = true ∧
      result.1.flow.sndUna = (advanceUna c th.ack).flow.sndUna ∧
        result.1.flow.sndWndScale = c.flow.sndWndScale) := by
    rcases deferred with closed | ⟨una, sameScale⟩
    · exact Or.inl (shut closed)
    · rcases confirmed with closed | ⟨continues, una', sameScale'⟩
      · exact Or.inl closed
      · exact Or.inr ⟨continues, una'.trans una, sameScale'.trans (sameScale.trans scale)⟩
  obtain ⟨after, continues⟩ := result
  rcases kept with closed | ⟨rfl, una, sameScale⟩
  · cases continues <;> exact Or.inl closed
  · refine Or.inr ⟨una, ?_⟩
    change th.window.toUInt32 <<< after.flow.sndWndScale.toUInt32 = _
    rw [show after.flow.sndWndScale = c.flow.sndWndScale from sameScale]

/-- The window a segment leaves: the offered one as soon as its ACK field is looked at. -/
theorem receiveSegment_window (c : Conn) (th : TcpHeader) (data : List UInt8) :
    (receiveSegment c th data).flow.state = .closed ∨
      (acknowledges c th = false ∧ (receiveSegment c th data).flow.sndUna = c.flow.sndUna ∧
        (receiveSegment c th data).flow.peerWnd = c.flow.peerWnd) ∨
      (acknowledges c th = true ∧
        (receiveSegment c th data).flow.sndUna = (advanceUna c th.ack).flow.sndUna ∧
        (receiveSegment c th data).flow.peerWnd =
          th.window.toUInt32 <<< c.flow.sndWndScale.toUInt32) := by
  unfold receiveSegment
  split
  · exact Or.inl ‹_›
  · rename_i isOpen
    split
    · exact Or.inl (closeFlow_state _ _)
    · have rest (c₁ : Conn) : (if hasFlag th.flags tcpRst = true then
          closeFlow { c₁ with flow.rst := true } .connectionReset
          else handleByState c₁ th data).flow.state = .closed ∨
          c₁.flow.state ≠ .closed ∧ (if hasFlag th.flags tcpRst = true then
            closeFlow { c₁ with flow.rst := true } .connectionReset
            else handleByState c₁ th data).flow.send = c₁.flow.send := by
        split
        · exact Or.inl (closeFlow_state _ _)
        · by_cases closed : c₁.flow.state = .closed
          · rw [handleByState_closed c₁ th data closed]
            exact Or.inl closed
          · exact Or.inr ⟨closed, handleByState_send c₁ th data⟩
      by_cases isAck : hasFlag th.flags tcpAck = true
      · have looked : acknowledges c th = true := by simp [acknowledges, isOpen, isAck]
        have field := handleAckField_window c th isAck
        unfold handleSegment
        split
        · rename_i result
          rw [result] at field
          rcases field with closed | ⟨una, wnd⟩
          · exact Or.inl closed
          · exact Or.inr (Or.inr ⟨looked, una, wnd⟩)
        · rename_i c₁ result
          rw [result] at field
          rcases rest c₁ with closed | ⟨still, send⟩
          · exact Or.inl closed
          · rcases field with closed | ⟨una, wnd⟩
            · exact absurd closed still
            · exact Or.inr (Or.inr ⟨looked, (congrArg SendView.sndUna send).trans una,
                (congrArg SendView.peerWnd send).trans wnd⟩)
      · have ignored : acknowledges c th = false := by simp [acknowledges, isAck]
        unfold handleSegment handleAckField
        rw [if_neg isAck]
        rcases rest c with closed | ⟨_, send⟩
        · exact Or.inl closed
        · exact Or.inr (Or.inl ⟨ignored, congrArg SendView.sndUna send,
            congrArg SendView.peerWnd send⟩)

/-! The invariant of the run. -/

/-- An open sender keeps its window below the edge. -/
def Bounded (s : Sender) (edge : Int) : Prop :=
  s.state ≠ .closed → ((s.una + s.wnd : Nat) : Int) ≤ edge

section

variable {iss : UInt32} {c : Conn} {s : Sender} {edge : Int}

theorem le_edgeAfter (c : Conn) (edge : Int) (event : Event) : edge ≤ edgeAfter c edge event := by
  unfold edgeAfter
  split
  · split
    · exact le_max_left _ _
    · exact le_rfl
  · exact le_rfl

theorem edgeAfter_offered {th : TcpHeader} {data : List UInt8}
    (looked : acknowledges c th = true) (accepted : acceptable c.flow th.ack = true) :
    position c th.ack + offered c th ≤ edgeAfter c edge (.segment th data) := by
  unfold edgeAfter
  dsimp only
  rw [looked, accepted, Bool.and_self, if_pos rfl]
  exact le_max_right _ _

theorem Bounded.segment {th : TcpHeader} {data : List UInt8} (mirrors : Mirrors iss c s)
    (bounded : Bounded s edge) (inside : InWindow c edge (.segment th data)) {last : Sender}
    (path : Steps senderMachine (Because c s (.segment th data)) s last)
    (there : Mirrors iss (step c (.segment th data)) last) :
    Bounded last (edgeAfter c edge (.segment th data)) := by
  intro isOpen
  have order := mirrors.good.positions.order
  have flight := mirrors.good.positions.flight
  have stays : s.state ≠ .closed := fun closed => isOpen (path.invariant (·.state = .closed) closed
    fun _ a shut enabled _ => Sender.act_closed a enabled shut)
  have before := bounded stays
  have answered := (Answered.path mirrors path).una
  have wnd := there.sim.wnd
  have una := there.sim.una
  have un (same : num iss last.una = num iss s.una) : last.una = s.una :=
    num_inj iss same (by omega) (by omega)
  have place := mirrors.position last.una (by omega) (by omega)
  change (receiveSegment c th data).flow.peerWnd.toNat = last.wnd at wnd
  change (receiveSegment c th data).flow.sndUna = num iss last.una at una
  rcases receiveSegment_window c th data with closed | ⟨_, same, sameWnd⟩ | ⟨looked, same, newWnd⟩
  · exact absurd (there.sim.state.symm.trans closed) isOpen
  · have still := un (una.symm.trans (same.trans mirrors.sim.una))
    rw [sameWnd, mirrors.sim.wnd] at wnd
    rw [still, ← wnd]
    exact before.trans (le_edgeAfter c edge _)
  · have offers : offered c th = last.wnd := by rw [← wnd, newWnd]; rfl
    rw [(advanceUna_window c th.ack).1, una] at same
    by_cases newer : (seqGt th.ack c.flow.sndUna && acceptable c.flow th.ack) = true
    · rw [if_pos newer] at same
      rw [Bool.and_eq_true] at newer
      have bound : _ ≤ edgeAfter c edge (.segment th data) := edgeAfter_offered looked newer.2
      rw [← same, place, offers] at bound
      push_cast
      exact bound
    · rw [if_neg newer] at same
      have still := un (same.trans mirrors.sim.una)
      by_cases equal : th.ack = c.flow.sndUna
      · have sent : acceptable c.flow th.ack = true := by
          rw [acceptable, equal, mirrors.sim.una, mirrors.sim.nxt,
            seqGe_num iss s.nxt s.una (by omega) (by omega)]
          simp [order]
        have bound : _ ≤ edgeAfter c edge (.segment th data) := edgeAfter_offered looked sent
        rw [equal, ← same, place, offers] at bound
        push_cast
        exact bound
      · have stale : current c.flow th.ack = false := by
          rw [Bool.not_eq_true] at newer
          simp [current, equal, newer]
        have bound := inside looked stale
        rw [← same, place, offers] at bound
        push_cast
        exact bound.trans (le_edgeAfter c edge _)

theorem Bounded.step {event : Event} (mirrors : Mirrors iss c s) (bounded : Bounded s edge)
    (inside : InWindow c edge event) :
    ∃ last, Mirrors iss (step c event) last ∧ Bounded last (edgeAfter c edge event) := by
  obtain ⟨last, path, there⟩ := step_leads mirrors event
  refine ⟨last, there, ?_⟩
  cases other : event.isSegment with
  | true =>
      cases event with
      | segment th data => exact Bounded.segment mirrors bounded inside path there
      | _ => cases other
  | false =>
      have windowed := Windowed.path mirrors other path
      intro isOpen
      rw [windowed.una, windowed.wnd]
      exact (bounded fun closed => isOpen (windowed.closed closed)).trans (le_edgeAfter c edge event)

theorem Bounded.run {events : List Event} (mirrors : Mirrors iss c s) (bounded : Bounded s edge)
    (inside : InWindowRun c edge events) :
    ∃ last, Mirrors iss (run c events) last ∧ Bounded last (edgeOf c edge events) := by
  induction events generalizing c s edge with
  | nil => exact ⟨s, mirrors, bounded⟩
  | cons event events ih =>
      obtain ⟨next, there, kept⟩ := bounded.step mirrors inside.1
      exact ih there kept inside.2

/-- A sender whose window is below the edge sends nothing beyond the edge. -/
theorem Bounded.withinEdge (mirrors : Mirrors iss c s) (bounded : Bounded s edge)
    (event : Event) : WithinEdge c edge event := by
  obtain ⟨last, path, there⟩ := step_leads mirrors event
  unfold WithinEdge
  rw [mirrors.nxtPos]
  cases other : event.isSegment with
  | true =>
      cases event with
      | segment th data =>
          obtain ⟨more, log, empty⟩ := (Answered.path mirrors path).log
          rw [mirrors.emitted there log]
          intro emission member index inside
          simp [empty emission member] at inside
      | _ => cases other
  | false =>
      obtain ⟨more, log, bytes⟩ := (Windowed.path mirrors other path).guarded
      rw [mirrors.emitted there log]
      intro emission member index inside reached
      rcases bytes emission member index inside reached with ⟨isOpen, below⟩ | probe
      · exact Or.inl (lt_of_lt_of_le (by exact_mod_cast below) (bounded isOpen))
      · exact Or.inr probe

end

/-- In every run in which no stale acknowledgement reaches beyond the edge, new data stays
below the edge. -/
theorem run_withinEdge (eng : TcpEngine) (id : FlowId) (key : FiveTuple) (th : TcpHeader)
    (payload data : List UInt8) (iss : UInt32) (events : List Event) (event : Event)
    (inside : InWindowRun (openFlow eng id key th payload data iss) (1 + th.window.toNat) events) :
    WithinEdge (run (openFlow eng id key th payload data iss) events)
      (edgeOf (openFlow eng id key th payload data iss) (1 + th.window.toNat) events) event := by
  have start := openFlow_mirrors eng id key th payload data iss
  have bounded : Bounded (Sender.fresh th.window.toNat) (1 + th.window.toNat) := by
    intro _
    change ((0 + th.window.toNat : Nat) : Int) ≤ _
    omega
  obtain ⟨last, there, kept⟩ := bounded.run start inside
  exact kept.withinEdge there event

instance (c : Conn) (edge : Int) (event : Event) : Decidable (InWindow c edge event) :=
  match event with
  | .segment th _ => inferInstanceAs (Decidable (acknowledges c th = true →
      current c.flow th.ack = false → position c c.flow.sndUna + offered c th ≤ edge))
  | .read _ _ | .write _ _ | .shutdownSend | .shutdownReceive | .close | .reset | .accept
  | .reject | .handOut | .timer _ | .resume _ | .device _ _ | .ackTimerExpires | .ackTimerRuns
  | .sweep | .closeAll | .elsewhere _ => isTrue trivial

instance InWindowRun.decidable (c : Conn) (edge : Int) (events : List Event) :
    Decidable (InWindowRun c edge events) :=
  match events with
  | [] => isTrue trivial
  | event :: rest =>
      have := InWindowRun.decidable (step c event) (edgeAfter c edge event) rest
      inferInstanceAs (Decidable (InWindow c edge event ∧
        InWindowRun (step c event) (edgeAfter c edge event) rest))

/-- Twenty bytes against a window of ten.  The last two acknowledgements arrive in the
wrong order; every one of them offers the same right edge. -/
def orderedEvents : List Event :=
  [.accept, .segment (peerSegment 8 1001 tcpAck 10) [], .write [List.replicate 20 1] 0,
    .device 0 false, .segment (peerSegment 8 1011 tcpAck 0) [], .resume 0]

def staleAck : Event := .segment (peerSegment 8 1006 tcpAck 5) []

theorem ordered_withinEdge :
    WithinEdge (run (opened {} 10) orderedEvents) (edgeOf (opened {} 10) 11 orderedEvents)
      staleAck :=
  run_withinEdge _ _ _ (peerSegment 7 0 tcpSyn 10) [] [] _ orderedEvents staleAck (by decide)

/-- The window of the older acknowledgement is counted from the newer `snd_una`. -/
theorem stale_not_withinEdge :
    (∀ th data, Event.segment th data ∈ orderedEvents ++ [staleAck] →
      th.ack.toNat + th.window.toNat = 1011) ∧
    ¬WithinEdge (run (opened {} 10) (orderedEvents ++ [staleAck]))
      (edgeOf (opened {} 10) 11 (orderedEvents ++ [staleAck])) (.resume 0) := by
  refine ⟨?_, fun within => ?_⟩
  · intro th data member
    simp only [orderedEvents, staleAck, List.cons_append, List.nil_append, List.mem_cons,
      Event.segment.injEq, reduceCtorEq, false_or, or_false, List.not_mem_nil] at member
    rcases member with ⟨rfl, _⟩ | ⟨rfl, _⟩ | ⟨rfl, _⟩ <;> rfl
  · have sent : ⟨11, tcpAck ||| tcpPsh, [1, 1, 1, 1, 1]⟩ ∈
        emitted (run (opened {} 10) (orderedEvents ++ [staleAck]))
          (step (run (opened {} 10) (orderedEvents ++ [staleAck])) (.resume 0)) := by decide
    rcases within _ sent 0 (by decide) (by decide) with below | ⟨flags, _⟩
    · exact absurd below (by decide)
    · exact absurd flags (by decide)

end Tunio
