import Tunio.Validation

/-!
The arithmetic of the sending side.  The sequence numbers are followed without their wraps along
a run, and the place of the active write in its buffers through everything that moves it.
-/

namespace Tunio

open Serial Machines

/-! The sequence numbers without their wraps. -/

/-- How far an event moves `snd_una` and `snd_nxt`. -/
def moved (c : Conn) (event : Event) : Nat × Nat :=
  (((step c event).flow.sndUna - c.flow.sndUna).toNat,
    ((step c event).flow.sndNxt - c.flow.sndNxt).toNat)

/-- How far a run has moved them. -/
def travelled (c : Conn) : List Event → Nat × Nat
  | [] => (0, 0)
  | event :: events => moved c event + travelled (step c event) events

theorem travelled_append (c : Conn) (before : List Event) (event : Event) :
    travelled c (before ++ [event]) = travelled c before + moved (run c before) event := by
  induction before generalizing c with
  | nil =>
      change moved c event + (0, 0) = (0, 0) + moved c event
      rw [add_comm]
  | cons first rest ih =>
      rw [List.cons_append, travelled, travelled, run_cons, ih, add_assoc]

/-- The numbers of a flow, `una` and `nxt` positions behind `iss`. -/
structure Unwraps (iss : UInt32) (flow : TcpFlow) (una nxt : Nat) : Prop where
  first : flow.sndUna = num iss una
  last : flow.sndNxt = num iss nxt
  order : una ≤ nxt
  distance : nxt ≤ una + (2 ^ 30 + 1)

/-- The first test of `handle_ack` picks the positions in flight. -/
theorem Unwraps.accepts {iss : UInt32} {flow : TcpFlow} {una nxt : Nat}
    (unwraps : Unwraps iss flow una nxt) (ack : UInt32) :
    (seqGt ack flow.sndUna && seqGe flow.sndNxt ack) = true ↔
      ∃ pos, una < pos ∧ pos ≤ nxt ∧ ack = num iss pos := by
  have order := unwraps.order
  have distance := unwraps.distance
  have inFlight : (flow.sndNxt - flow.sndUna).toNat = nxt - una := by
    rw [unwraps.first, unwraps.last]
    exact num_sub_toNat iss nxt una order (by omega)
  rw [accepted_iff _ _ _ (by omega), inFlight, unwraps.first]
  constructor
  · rintro ⟨some_, inside⟩
    refine ⟨above iss una ack, ?_, ?_, (num_above iss una ack).symm⟩
    · unfold above
      omega
    · unfold above
      omega
  · rintro ⟨pos, behind, sent, rfl⟩
    rw [num_sub_toNat iss pos una behind.le (by omega)]
    omega

/-! The place in the buffers. -/

/-- The cursor stands at `offset` in the bytes of the write. -/
structure WriteOp.Standing (op : WriteOp) : Prop where
  total : op.buffers.flatten.length = op.total
  place : (op.buffers.take op.bufIndex).flatten.length + op.bufOff = op.offset
  index : op.bufIndex ≤ op.buffers.length
  inside : op.offset ≤ op.total

/-- How many bytes `build_next_segment` takes of a write in normal form. -/
def chunkSize (c : Conn) (op : WriteOp) (inFlight : UInt32) : Nat :=
  min (min (op.total - op.offset) ((currentBuffer op).length - op.bufOff))
    (min (mss c.eng.cfg c.flow.key.family) (c.flow.peerWnd - inFlight).toNat)

/-- The bytes at the cursor are there, and they are the ones at `offset`. -/
structure WriteOp.Readable (op : WriteOp) (count : Nat) : Prop where
  standing : (normalize op).Standing
  index : (normalize op).bufIndex < op.buffers.length
  some_ : 0 < count
  inside : (normalize op).bufOff + count ≤ (currentBuffer (normalize op)).length
  bytes : ((currentBuffer (normalize op)).drop (normalize op).bufOff).take count =
    (op.buffers.flatten.drop op.offset).take count

theorem Tracks.standing {iss : UInt32} {op : WriteOp} {write : Writing} (tracks : Tracks iss op write)
    (inside : write.offset ≤ write.bytes.length) : op.Standing := by
  refine ⟨?_, tracks.cursor, tracks.index, ?_⟩
  · rw [tracks.bytes, tracks.total]
  · rwa [tracks.offset, tracks.total]

/-- A write with its cursor in place is one that a sender can follow. -/
theorem WriteOp.Standing.tracks {op : WriteOp} (standing : op.Standing) :
    Tracks op.startSeq op
      { bytes := op.buffers.flatten, start := 0, offset := op.offset, handler := op.handler } :=
  ⟨rfl, standing.total.symm, rfl, (num_zero op.startSeq).symm, rfl, standing.place, standing.index⟩

theorem WriteOp.Standing.normal {op : WriteOp} (standing : op.Standing) :
    (normalize op).Standing ∧
      ∀ buffer ∈ op.buffers[(normalize op).bufIndex]?, (normalize op).bufOff < buffer.length := by
  obtain ⟨normal, placed⟩ := standing.tracks.normalize
  refine ⟨normal.standing ?_, placed⟩
  change op.offset ≤ op.buffers.flatten.length
  rw [standing.total]
  exact standing.inside

/-- While bytes are left there are some at the cursor. -/
theorem WriteOp.Standing.current {op : WriteOp} (standing : op.Standing)
    (more : op.offset < op.total) :
    (normalize op).bufIndex < op.buffers.length ∧
      (normalize op).bufOff < (currentBuffer (normalize op)).length ∧
      ∀ count, (normalize op).bufOff + count ≤ (currentBuffer (normalize op)).length →
        ((currentBuffer (normalize op)).drop (normalize op).bufOff).take count =
          (op.buffers.flatten.drop op.offset).take count := by
  obtain ⟨normal, placed⟩ := standing.tracks.normalize
  obtain ⟨index, room, content⟩ := normal.current placed more
  exact ⟨index, room, fun count fits => content count (by omega)⟩

theorem WriteOp.Standing.readable {op : WriteOp} (standing : op.Standing)
    (more : op.offset < op.total) {count : Nat} (some_ : 0 < count)
    (fits : count ≤ (currentBuffer (normalize op)).length - (normalize op).bufOff) :
    op.Readable count := by
  obtain ⟨index, room, content⟩ := standing.current more
  have inside : (normalize op).bufOff + count ≤ (currentBuffer (normalize op)).length := by omega
  exact ⟨standing.normal.1, index, some_, inside, content count inside⟩

/-! The calls. -/

/-- The states in the middle of an event in which an iteration of `write_loop` begins. -/
inductive AtHead (c : Conn) : Event → Conn → Prop
  | woken (index : Nat) (loop next : WriteLoop) (winner : Winner) (after : Conn)
      (found : c.loops[index]? = some loop) (decided : loop.winner = some winner)
      (goes : afterRace c loop winner = .again after next) : AtHead c (.resume index) after
  | written (index : Nat) (failed : Bool) (loop next : WriteLoop) (after : Conn)
      (found : c.loops[index]? = some loop) (awaits : loop.await = .device)
      (goes : afterDevice c loop failed = .again after next) : AtHead c (.device index failed) after
  | begun (buffers : List (List UInt8)) (handler : HandlerId) (accepted : Conn)
      (answers : accepted = if c.flow.state = .synRcvd then acceptFlow c else c) :
      AtHead c (.write buffers handler) { accepted with
        flow.writeCh := some (accepted.flow.writeCh.getD { isOpen := true })
        flow.activeWrite := some {
          buffers := buffers
          total := (buffers.map List.length).sum
          startSeq := accepted.flow.sndNxt
          implicitAccept := decide (c.flow.state = .synRcvd)
          handler := handler } }

/-- Behind the guard of `write_loop` the room in the window is what is left of it, and the
segment reads its bytes where they are. -/
def BuildsInside (c : Conn) : Prop :=
  ∀ op ∈ c.flow.activeWrite, op.offset < op.total →
    c.flow.sndNxt - c.flow.sndUna < c.flow.peerWnd →
    (c.flow.peerWnd - (c.flow.sndNxt - c.flow.sndUna)).toNat =
        c.flow.peerWnd.toNat - (c.flow.sndNxt - c.flow.sndUna).toNat ∧
      op.Readable (chunkSize c (normalize op) (c.flow.sndNxt - c.flow.sndUna))

/-- A window probe reads its byte where it is. -/
def ProbesInside (c : Conn) : Prop :=
  ∀ op ∈ c.flow.activeWrite, op.offset < op.total → op.Readable 1

def Stands (c : Conn) : Prop := ∀ op ∈ c.flow.activeWrite, op.Standing

theorem Stands.probes {c : Conn} (stands : Stands c) : ProbesInside c := by
  intro op active more
  obtain ⟨_, room, _⟩ := (stands op active).current more
  exact (stands op active).readable more Nat.one_pos (by omega)

theorem Stands.builds {c : Conn} (stands : Stands c) : BuildsInside c := by
  intro op active more room
  have left : (c.flow.peerWnd - (c.flow.sndNxt - c.flow.sndUna)).toNat =
      c.flow.peerWnd.toNat - (c.flow.sndNxt - c.flow.sndUna).toNat :=
    UInt32.toNat_sub_of_le _ _ (UInt32.le_iff_toNat_le.mpr (UInt32.lt_iff_toNat_lt.mp room).le)
  rw [UInt32.lt_iff_toNat_lt] at room
  have segment := mss_pos c.eng.cfg c.flow.key.family
  have same : (normalize op).offset = op.offset ∧ (normalize op).total = op.total := ⟨rfl, rfl⟩
  obtain ⟨_, bytes, _⟩ := (stands op active).current more
  refine ⟨left, (stands op active).readable more ?_ ?_⟩
  · unfold chunkSize
    rw [same.1, same.2, left]
    omega
  · unfold chunkSize
    omega

theorem Mirrors.stands {iss : UInt32} {c : Conn} {s : Sender} (mirrors : Mirrors iss c s) :
    Stands c := by
  intro op active
  obtain ⟨write, here, tracks⟩ := mirrors.sim.tracked active
  exact tracks.standing (mirrors.good.write write here).inside

/-- In every iteration the cursor stands where it should. -/
theorem AtHead.stands {iss : UInt32} {c after : Conn} {s : Sender} {event : Event}
    (mirrors : Mirrors iss c s) (head : AtHead c event after) : Stands after := by
  cases head with
  | woken index loop next winner _ found decided goes =>
      have woken : Leads iss c s (.resume index) s (afterRace c loop winner).conn := by
        unfold afterRace
        split
        · exact Machines.Reaches.here mirrors
        · exact afterWindow_leads mirrors rfl found decided ‹_›
        · exact afterAck_leads mirrors rfl found decided ‹_›
        · exact Machines.Reaches.here mirrors
      obtain ⟨t, _, there⟩ := woken
      rw [goes] at there
      exact Mirrors.stands there
  | written index failed loop next _ found awaits goes =>
      have same : after = c := by
        unfold afterDevice at goes
        split at goes
        · cases goes
        · split at goes <;> cases goes
          rfl
      rw [same]
      exact mirrors.stands
  | begun buffers handler accepted answers =>
      intro op active
      cases active
      refine ⟨List.length_flatten, rfl, Nat.zero_le _, Nat.zero_le _⟩

/-! Runs. -/

theorem Good.nxt_le {allow : Sender → Action → Prop} {s last : Sender} (good : Good s)
    (path : Steps senderMachine allow s last) : s.nxt ≤ last.nxt := by
  refine (path.invariant (fun t => s.nxt ≤ t.nxt ∧ Good t) ⟨le_rfl, good⟩ ?_).1
  rintro t a ⟨bound, here⟩ enabled _
  refine ⟨bound.trans ?_, here.act a enabled⟩
  cases a with
  | syn => exact (here.phases.fresh enabled).le.trans (Nat.zero_le _)
  | probeAck | fin | quit => exact Nat.le_succ _
  | data write count => exact Nat.le_add_right _ _
  | _ => exact le_rfl

theorem Mirrors.moved {iss : UInt32} {c : Conn} {s last : Sender} {event : Event}
    (mirrors : Mirrors iss c s) (path : Steps senderMachine (Because c s event) s last)
    (there : Mirrors iss (step c event) last) :
    (s.una, s.nxt) + Tunio.moved c event = (last.una, last.nxt) := by
  have flight := there.good.positions.flight
  have within := mirrors.good.positions.flight
  have further := mirrors.good.nxt_le path
  obtain ⟨ahead, near⟩ := mirrors.una_moves path
  have una : ((step c event).flow.sndUna - c.flow.sndUna).toNat = last.una - s.una := by
    rw [there.sim.una, mirrors.sim.una]
    exact num_sub_toNat iss last.una s.una ahead (by omega)
  have nxt : ((step c event).flow.sndNxt - c.flow.sndNxt).toNat = last.nxt - s.nxt := by
    rw [there.sim.nxt, mirrors.sim.nxt]
    exact num_sub_toNat iss last.nxt s.nxt further (by omega)
  unfold Tunio.moved
  rw [una, nxt, Prod.mk_add_mk, Nat.add_sub_cancel' ahead, Nat.add_sub_cancel' further]

/-- In every run the numbers stay close to each other, the test of `handle_ack` picks the
positions in flight, and everything that is sent is read inside the buffers of the write. -/
theorem run_sendRange (eng : TcpEngine) (id : FlowId) (key : FiveTuple) (th : TcpHeader)
    (payload data : List UInt8) (iss : UInt32) (events : List Event) :
    let start := openFlow eng id key th payload data iss
    let c := run start events
    let una := (travelled start events).1
    let nxt := (travelled start events).2
    Unwraps iss c.flow una nxt ∧
      (∀ ack, (seqGt ack c.flow.sndUna && seqGe c.flow.sndNxt ack) = true ↔
        ∃ pos, una < pos ∧ pos ≤ nxt ∧ ack = num iss pos) ∧
      (Stands c ∧ ProbesInside c) ∧
      ∀ event after, AtHead c event after → Stands after ∧ BuildsInside after := by
  intro start c una nxt
  obtain ⟨s, mirrors, reached⟩ := run_sender
    (openFlow_mirrors eng id key th payload data iss) (fun _ _ => True)
    (fun before s => travelled start before = (s.una, s.nxt)) rfl
    (fun before event t last there held _ path after => by
      rw [travelled_append, held]
      exact there.moved path after)
    events (Always.of_forall (fun _ _ => trivial) start events)
  have here : una = s.una ∧ nxt = s.nxt := Prod.mk.injEq .. ▸ reached
  have unwraps : Unwraps iss c.flow una nxt := by
    have flight := mirrors.good.positions.flight
    refine ⟨?_, ?_, ?_, ?_⟩
    · rw [here.1, ← mirrors.sim.una]
    · rw [here.2, ← mirrors.sim.nxt]
    · rw [here.1, here.2]
      exact mirrors.good.positions.order
    · rw [here.1, here.2]
      omega
  exact ⟨unwraps, unwraps.accepts, ⟨mirrors.stands, mirrors.stands.probes⟩,
    fun event after head => ⟨head.stands mirrors, (head.stands mirrors).builds⟩⟩

end Tunio
