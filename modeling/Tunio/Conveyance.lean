import Tunio.Wintun

/-!
The packets that go through the rings of a Wintun device: they come out as they went in, in order,
however the accesses of the two ends fall.
-/

namespace Tunio

open Rings

namespace Wintun

/-- A ring and the packets that wait in it, from a position on. -/
structure Stocked (ring : TunRing) (position : Nat) (waiting : List (List UInt8)) : Prop where
  holds : Holds 8388608 4 span ring.head.toNat ring.tail.toNat ring.data position (waiting.map frame)
  aligned : position % 4 = 0
  small : ∀ payload ∈ waiting, payload.length ≤ 65535

/-- What the packets take up. -/
def bulk (waiting : List (List UInt8)) : Nat := extent span (waiting.map frame)

@[simp] theorem bulk_nil : bulk [] = 0 := rfl

@[simp] theorem bulk_cons (payload : List UInt8) (rest : List (List UInt8)) :
    bulk (payload :: rest) = span (frame payload) + bulk rest := by simp [bulk]

@[simp] theorem bulk_append (waiting more : List (List UInt8)) :
    bulk (waiting ++ more) = bulk waiting + bulk more := by simp [bulk]

theorem bulk_aligned (waiting : List (List UInt8)) : bulk waiting % 4 = 0 := by
  induction waiting with
  | nil => rfl
  | cons payload rest ih =>
      rw [bulk_cons, span_frame]
      omega

/-- The distance of two counters of a ring. -/
theorem ringWrap_sub {tail head : UInt32} (bound : head.toNat < 8388608) :
    (ringWrap (tail - head)).toNat = (tail.toNat + (8388608 - head.toNat)) % 8388608 := by
  have small := tail.toNat_lt
  rw [ringWrap_toNat, UInt32.toNat_sub]
  omega

theorem ringWrap_add (head aligned : UInt32) :
    (ringWrap (head + aligned)).toNat = (head.toNat + aligned.toNat) % 8388608 := by
  rw [ringWrap_toNat, UInt32.toNat_add]
  omega

namespace Stocked

variable {ring : TunRing} {position : Nat} {waiting : List (List UInt8)} {payload : List UInt8}

theorem fresh (data : Nat → UInt8) : Stocked { data := data } 0 [] :=
  ⟨Holds.empty (by decide) data, rfl, fun _ member => absurd member List.not_mem_nil⟩

section

variable (stocked : Stocked ring position waiting)
include stocked

theorem room : bulk waiting + 4 ≤ 8388608 := stocked.holds.room

theorem head_lt : ring.head.toNat < 8388608 := by
  rw [stocked.holds.head]
  exact Nat.mod_lt _ (by decide)

theorem tail_lt : ring.tail.toNat < 8388608 := by
  rw [stocked.holds.tail]
  exact Nat.mod_lt _ (by decide)

theorem head_aligned : ring.head.toNat % 4 = 0 := by
  have aligned := stocked.aligned
  rw [stocked.holds.head]
  omega

theorem tail_aligned : ring.tail.toNat % 4 = 0 := by
  have aligned := stocked.aligned
  have whole := bulk_aligned waiting
  have tail : ring.tail.toNat = (position + bulk waiting) % 8388608 := stocked.holds.tail
  omega

theorem used : ring.used = bulk waiting := by
  rw [TunRing.used, ringWrap_sub stocked.head_lt]
  exact stocked.holds.used (by decide)

theorem is_empty : ring.head = ring.tail ↔ waiting = [] := by
  rw [← UInt32.toNat_inj, stocked.holds.is_empty (by decide), List.map_eq_nil_iff]
  intro image member
  obtain ⟨payload, _, rfl⟩ := List.mem_map.mp member
  rw [span_frame]
  omega

/-- Bytes are stored behind the packets. -/
theorem written (offset : Nat) {bytes : List UInt8}
    (free : bulk waiting + (offset + bytes.length) ≤ 8388608) :
    Stocked { ring with data := store ring.data (ring.tail.toNat + offset) bytes } position waiting :=
  ⟨stocked.holds.store span_fits free, stocked.aligned, stocked.small⟩

/-- The tail moves over a packet that lies there. -/
theorem put (there : load ring.data ring.tail.toNat (frame payload).length = frame payload)
    (small : payload.length ≤ 65535) (free : bulk waiting + span (frame payload) + 4 ≤ 8388608)
    {aligned : UInt32} (takes : aligned.toNat = span (frame payload)) :
    Stocked { ring with tail := ringWrap (ring.tail + aligned) } position (waiting ++ [payload]) := by
  have tail : (ringWrap (ring.tail + aligned)).toNat =
      (ring.tail.toNat + span (frame payload)) % 8388608 := by
    rw [← takes]
    exact ringWrap_add _ _
  refine ⟨?_, stocked.aligned, ?_⟩
  · rw [List.map_append]
    have pushed := stocked.holds.push there free
    rw [← tail] at pushed
    exact pushed
  · intro other member
    rcases List.mem_append.mp member with before | last
    · exact stocked.small other before
    · rw [List.mem_singleton.mp last]
      exact small

end

section

variable {rest : List (List UInt8)} (stocked : Stocked ring position (payload :: rest))
include stocked

theorem first : (sizeAt ring.data ring.head.toNat).toNat = payload.length :=
  (frame_there stocked.holds.first (stocked.small payload List.mem_cons_self)).1

theorem copy {size : UInt32} (length : size.toNat = payload.length) :
    recvCopy ring.data ring.head size = payload := by
  rw [recvCopy, length]
  exact (frame_there stocked.holds.first (stocked.small payload List.mem_cons_self)).2

/-- The head moves over its packet. -/
theorem take {aligned : UInt32} (takes : aligned.toNat = span (frame payload)) :
    Stocked (recvPublish ring ring.head aligned) (position + span (frame payload)) rest := by
  have small := stocked.small payload List.mem_cons_self
  have head : (ringWrap (ring.head + aligned)).toNat =
      (ring.head.toNat + span (frame payload)) % 8388608 := by
    rw [← takes]
    exact ringWrap_add _ _
  refine ⟨?_, ?_, fun other member => stocked.small other (List.mem_cons_of_mem _ member)⟩
  · have popped := stocked.holds.pop
    rw [← head] at popped
    exact popped
  · have aligned := stocked.aligned
    rw [span_frame]
    omega

end

end Stocked

/-! `send_try`. -/

section

variable {ring : TunRing} {position : Nat} {waiting : List (List UInt8)}

/-- `send_try` refuses only what no ring can take, and finds room just where a gap stays free. -/
theorem sendLook_eq (stocked : Stocked ring position waiting) (buf : List UInt8) :
    sendLook true (some ring) buf =
      if 65535 < buf.length then .error .messageSize
      else if 8388608 < bulk waiting + span (frame buf) + 4 then .ok none
      else .ok (some ring.tail) := by
  have head := stocked.head_lt
  have tail := stocked.tail_lt
  have used := stocked.used
  have room := stocked.room
  have aligned := stocked.tail_aligned
  unfold sendLook
  simp only [Bool.not_true, Bool.false_eq_true, if_false, maxIpPacketSize_toNat, gt_iff_lt]
  split
  · rfl
  rename_i small
  have counters : ¬(ring.head ≥ ringCapacity ∨ ring.tail ≥ ringCapacity) := by
    simp only [ge_iff_le, UInt32.le_iff_toNat_le, ringCapacity_toNat]
    omega
  have length : (UInt32.ofNat buf.length).toNat = buf.length := by
    rw [UInt32.toNat_ofNat']
    omega
  have takes := frame_aligned length (by omega : buf.length ≤ 65535)
  have extent := span_frame buf
  -- the last packet of a round ends at most where the trailing bytes end
  have inside : ¬dataSize < ring.tail + ringPacketAlign (packetHeader + UInt32.ofNat buf.length) := by
    rw [UInt32.lt_iff_toNat_lt, UInt32.toNat_add, takes, dataSize_toNat]
    omega
  have free : (ringWrap (ring.head - ring.tail - packetAlign)).toNat = 8388608 - 4 - bulk waiting := by
    have distance : ring.used = (ring.tail.toNat + (8388608 - ring.head.toNat)) % 8388608 :=
      ringWrap_sub head
    rw [ringWrap_toNat, UInt32.toNat_sub, UInt32.toNat_sub, packetAlign_toNat]
    omega
  have crowded : ringWrap (ring.head - ring.tail - packetAlign) <
      ringPacketAlign (packetHeader + UInt32.ofNat buf.length) ↔
        8388608 < bulk waiting + span (frame buf) + 4 := by
    rw [UInt32.lt_iff_toNat_lt, takes, free]
    omega
  rw [if_neg counters, if_neg inside]
  exact if_congr crowded rfl rfl

end

namespace SendSide

/-- Where `send_try` is, for a ring in which packets wait. -/
def Placed (s : SendSide) (waiting : List (List UInt8)) : Prop :=
  match s.phase with
  | .idle => True
  | .looked buf tail => tail = s.ring.tail ∧ buf.length ≤ 65535 ∧
      bulk waiting + span (frame buf) + 4 ≤ 8388608
  | .headed buf tail => tail = s.ring.tail ∧ buf.length ≤ 65535 ∧
      bulk waiting + span (frame buf) + 4 ≤ 8388608 ∧
      load s.ring.data tail.toNat 4 = sizeBytes (UInt32.ofNat buf.length)
  | .copied buf tail => tail = s.ring.tail ∧ buf.length ≤ 65535 ∧
      bulk waiting + span (frame buf) + 4 ≤ 8388608 ∧
      load s.ring.data tail.toNat (frame buf).length = frame buf
  | .published _ => True

/-- The packet that is in the ring while its call has not returned. -/
def unanswered (s : SendSide) : List (List UInt8) :=
  match s.phase with
  | .published buf => [buf]
  | _ => []

/-- An answer tells what was the case. -/
def Truthful : SendAnswer → Prop
  | .refused buf error => error = .messageSize ∧ 65535 < buf.length
  | .full buf used => 8388608 < used + span (frame buf) + 4
  | .sent buf => buf.length ≤ 65535

structure Sound (s : SendSide) (position : Nat) (waiting : List (List UInt8)) : Prop where
  stocked : Stocked s.ring position waiting
  order : s.sent = s.taken ++ waiting
  placed : s.Placed waiting
  answered : s.sent = s.answers.filterMap SendAnswer.packet ++ s.unanswered
  truthful : ∀ answer ∈ s.answers, Truthful answer
  unanswered : ∀ buf ∈ s.unanswered, buf.length ≤ 65535

variable {s : SendSide} {position : Nat} {waiting : List (List UInt8)}

theorem fresh_sound (data : Nat → UInt8) : Sound (fresh data) 0 [] :=
  ⟨Stocked.fresh data, rfl, trivial, rfl, fun _ member => absurd member List.not_mem_nil,
    fun _ member => absurd member List.not_mem_nil⟩

/-- A call ends without a packet. -/
theorem Sound.answer (sound : Sound s position waiting) (idle : s.phase = .idle) {answer : SendAnswer}
    (none : answer.packet = none) (truthful : Truthful answer) :
    Sound (s.answer answer) position waiting := by
  have before := sound.answered
  refine ⟨sound.stocked, sound.order, trivial, ?_, ?_, fun _ member => absurd member List.not_mem_nil⟩
  · have empty : s.unanswered = [] := by
      unfold SendSide.unanswered
      rw [idle]
    rw [empty, List.append_nil] at before
    show s.sent = (s.answers ++ [answer]).filterMap SendAnswer.packet ++ []
    rw [List.filterMap_append, List.append_nil, before]
    simp [none]
  · intro other member
    rcases List.mem_append.mp member with earlier | last
    · exact sound.truthful other earlier
    · rw [List.mem_singleton.mp last]
      exact truthful

theorem call_sound (sound : Sound s position waiting) (idle : s.phase = .idle) (buf : List UInt8) :
    Sound (s.call buf) position waiting := by
  have empty : s.unanswered = [] := by
    unfold SendSide.unanswered
    rw [idle]
  unfold SendSide.call
  rw [sendLook_eq sound.stocked]
  by_cases long : 65535 < buf.length
  · rw [if_pos long]
    exact sound.answer idle rfl ⟨rfl, long⟩
  rw [if_neg long]
  by_cases full : 8388608 < bulk waiting + span (frame buf) + 4
  · rw [if_pos full]
    refine sound.answer idle rfl ?_
    show 8388608 < s.ring.used + span (frame buf) + 4
    rw [sound.stocked.used]
    exact full
  · rw [if_neg full]
    refine ⟨sound.stocked, sound.order, ⟨rfl, by omega, by omega⟩, ?_, sound.truthful,
      fun _ member => absurd member List.not_mem_nil⟩
    have before := sound.answered
    rw [empty] at before
    exact before

theorem goOn_sound (sound : Sound s position waiting) :
    ∃ waiting', Sound s.goOn position waiting' := by
  have placed := sound.placed
  have answered := sound.answered
  have kept := sound.unanswered
  unfold Placed at placed
  unfold SendSide.unanswered at answered kept
  unfold goOn
  cases phase : s.phase with
  | idle => exact ⟨waiting, sound⟩
  | looked buf tail =>
      rw [phase] at placed answered
      obtain ⟨rfl, small, free⟩ := placed
      have extent := span_frame buf
      refine ⟨waiting, ?_, sound.order, ⟨rfl, small, free, ?_⟩, answered, sound.truthful,
        fun _ member => absurd member List.not_mem_nil⟩
      · exact sound.stocked.written 0 (by
          simp only [sizeBytes, List.length_cons, List.length_nil]
          omega)
      · exact load_store s.ring.data s.ring.tail.toNat (sizeBytes (UInt32.ofNat buf.length))
  | headed buf tail =>
      rw [phase] at placed answered
      obtain ⟨rfl, small, free, header⟩ := placed
      have extent := span_frame buf
      refine ⟨waiting, ?_, sound.order, ⟨rfl, small, free, ?_⟩, answered, sound.truthful,
        fun _ member => absurd member List.not_mem_nil⟩
      · exact sound.stocked.written 4 (by omega)
      · show load (store s.ring.data (s.ring.tail.toNat + 4) buf) _ _ = _
        rw [frame_length, Nat.add_comm buf.length 4, load_append, load_store,
          load_store_apart (Or.inl (Nat.le_refl _)), header]
        rfl
  | copied buf tail =>
      rw [phase] at placed answered
      obtain ⟨rfl, small, free, there⟩ := placed
      have length : (UInt32.ofNat buf.length).toNat = buf.length := by
        rw [UInt32.toNat_ofNat']
        omega
      refine ⟨waiting ++ [buf], ?_, ?_, trivial, ?_, sound.truthful, ?_⟩
      · exact sound.stocked.put there small free (frame_aligned length small)
      · show s.sent ++ [buf] = _
        rw [sound.order, List.append_assoc]
      · show s.sent ++ [buf] = _ ++ [buf]
        rw [answered, List.append_nil]
      · intro other member
        rw [List.mem_singleton.mp member]
        exact small
  | published buf =>
      rw [phase] at placed answered kept
      refine ⟨waiting, sound.stocked, sound.order, trivial, ?_, ?_, fun _ member => absurd member List.not_mem_nil⟩
      · show s.sent = (s.answers ++ [SendAnswer.sent buf]).filterMap SendAnswer.packet ++ []
        rw [List.filterMap_append, List.append_nil, answered]
        rfl
      · intro other member
        rcases List.mem_append.mp member with earlier | last
        · exact sound.truthful other earlier
        · rw [List.mem_singleton.mp last]
          exact kept buf List.mem_cons_self

/-- With fewer packets in the ring, a call that found room still has it. -/
theorem Placed.fewer {s' : SendSide} {rest : List (List UInt8)} (placed : s.Placed waiting)
    (phase : s'.phase = s.phase) (tail : s'.ring.tail = s.ring.tail)
    (data : s'.ring.data = s.ring.data) (fewer : bulk rest ≤ bulk waiting) : s'.Placed rest := by
  unfold Placed at *
  rw [phase, tail, data]
  cases here : s.phase with
  | idle => trivial
  | looked buf at_ =>
      rw [here] at placed
      exact ⟨placed.1, placed.2.1, by have := placed.2.2; omega⟩
  | headed buf at_ =>
      rw [here] at placed
      exact ⟨placed.1, placed.2.1, by have := placed.2.2.1; omega, placed.2.2.2⟩
  | copied buf at_ =>
      rw [here] at placed
      exact ⟨placed.1, placed.2.1, by have := placed.2.2.1; omega, placed.2.2.2⟩
  | published buf => trivial

/-- The driver takes the first of the packets that wait. -/
theorem driverTakes_first {payload : List UInt8} {rest : List (List UInt8)}
    (stocked : Stocked s.ring position (payload :: rest)) :
    ∃ aligned : UInt32, aligned.toNat = span (frame payload) ∧
      s.driverTakes = { s with
        ring := recvPublish s.ring s.ring.head aligned
        taken := s.taken ++ [payload] } := by
  have some_ : s.ring.head ≠ s.ring.tail := fun same => nomatch stocked.is_empty.mp same
  refine ⟨_, frame_aligned stocked.first (stocked.small payload List.mem_cons_self), ?_⟩
  unfold driverTakes
  rw [if_neg some_]
  dsimp only
  rw [stocked.copy stocked.first]

theorem driverTakes_sound (sound : Sound s position waiting) :
    ∃ position' waiting', Sound s.driverTakes position' waiting' := by
  cases waiting with
  | nil =>
      have same : s.driverTakes = s := if_pos (sound.stocked.is_empty.mpr rfl)
      rw [same]
      exact ⟨position, [], sound⟩
  | cons payload rest =>
      obtain ⟨aligned, takes, next⟩ := driverTakes_first sound.stocked
      have fewer : bulk rest ≤ bulk (payload :: rest) := by
        rw [bulk_cons]
        exact Nat.le_add_left _ _
      rw [next]
      refine ⟨_, rest, sound.stocked.take takes, ?_, ?_, sound.answered, sound.truthful,
        sound.unanswered⟩
      · show s.sent = (s.taken ++ [payload]) ++ rest
        rw [sound.order, List.append_assoc, List.singleton_append]
      · exact sound.placed.fewer rfl (recvPublish_tail _ _ _) (recvPublish_data _ _ _) fewer

theorem step_sound (sound : Sound s position waiting) (move : SendMove) :
    ∃ position' waiting', Sound (s.step move) position' waiting' := by
  cases move with
  | call buf =>
      show ∃ position' waiting', Sound (if s.phase = .idle then s.call buf else s) position' waiting'
      split
      · rename_i idle
        exact ⟨position, waiting, call_sound sound idle buf⟩
      · exact ⟨position, waiting, sound⟩
  | goOn => exact ⟨position, goOn_sound sound⟩
  | driverTakes => exact driverTakes_sound sound
  | driverAlerts alertable =>
      refine ⟨position, waiting, ⟨sound.stocked.holds, sound.stocked.aligned, sound.stocked.small⟩,
        sound.order, ?_, sound.answered, sound.truthful, sound.unanswered⟩
      exact sound.placed.fewer rfl rfl rfl (Nat.le_refl _)

theorem run_sound (data : Nat → UInt8) (moves : List SendMove) :
    ∃ position waiting, Sound (run (fresh data) moves) position waiting := by
  have walk (s : SendSide) (position : Nat) (waiting : List (List UInt8))
      (sound : Sound s position waiting) :
      ∃ position waiting, Sound (run s moves) position waiting := by
    induction moves generalizing s position waiting with
    | nil => exact ⟨position, waiting, sound⟩
    | cons move rest ih =>
        obtain ⟨position', waiting', next⟩ := step_sound sound move
        exact ih (s.step move) position' waiting' next
  exact walk _ 0 [] (fresh_sound data)

/-- Where the call in progress writes its packet. -/
def place (s : SendSide) : Option (List UInt8 × UInt32) :=
  match s.phase with
  | .looked buf tail => some (buf, tail)
  | .headed buf tail => some (buf, tail)
  | .copied buf tail => some (buf, tail)
  | _ => none

theorem Placed.inside (placed : s.Placed waiting) {buf : List UInt8} {tail : UInt32}
    (here : s.place = some (buf, tail)) : tail = s.ring.tail ∧ buf.length ≤ 65535 := by
  unfold Placed at placed
  unfold place at here
  cases phase : s.phase with
  | idle => rw [phase] at here; cases here
  | published other => rw [phase] at here; cases here
  | looked other at_ =>
      rw [phase] at placed here
      obtain ⟨rfl, rfl⟩ : other = buf ∧ at_ = tail := by simpa using here
      exact ⟨placed.1, placed.2.1⟩
  | headed other at_ =>
      rw [phase] at placed here
      obtain ⟨rfl, rfl⟩ : other = buf ∧ at_ = tail := by simpa using here
      exact ⟨placed.1, placed.2.1⟩
  | copied other at_ =>
      rw [phase] at placed here
      obtain ⟨rfl, rfl⟩ : other = buf ∧ at_ = tail := by simpa using here
      exact ⟨placed.1, placed.2.1⟩

end SendSide

/-! `recv_one`. -/

section

variable {ring : TunRing} {position : Nat} {waiting : List (List UInt8)}

theorem recvLook_eq (stocked : Stocked ring position waiting) :
    recvLook true (some ring) =
      if waiting = [] then .ok none else .ok (some (ring.head, ring.tail)) := by
  have head := stocked.head_lt
  have tail := stocked.tail_lt
  have counters : ¬(ring.head ≥ ringCapacity ∨ ring.tail ≥ ringCapacity) := by
    simp only [ge_iff_le, UInt32.le_iff_toNat_le, ringCapacity_toNat]
    omega
  unfold recvLook
  simp only [Bool.not_true, Bool.false_eq_true, if_false]
  rw [if_neg counters]
  exact if_congr stocked.is_empty rfl rfl

/-- The packet at the head is read off a tail that was current some packets ago; it is refused only
where the buffer is too small for it. -/
theorem recvMeasure_eq {payload : List UInt8} {seen later : List (List UInt8)} {tail : UInt32}
    (stocked : Stocked ring position (payload :: (seen ++ later)))
    (snapshot : tail.toNat = (position + bulk (payload :: seen)) % 8388608) (room : Nat) :
    ∃ size aligned : UInt32, size.toNat = payload.length ∧ aligned.toNat = span (frame payload) ∧
      recvMeasure ring.data ring.head tail room =
        if room < payload.length then .error .messageSize else .ok (size, aligned) := by
  have small := stocked.small payload List.mem_cons_self
  have size := stocked.first
  have takes := frame_aligned size small
  have total := stocked.room
  have bound := stocked.head_lt
  have whole := stocked.head_aligned
  have extent := span_frame payload
  rw [bulk_cons, bulk_append] at total
  rw [bulk_cons] at snapshot
  -- between the counters lie at least the packet at the head and its room
  have content : (ringWrap (tail - ring.head)).toNat = span (frame payload) + bulk seen := by
    rw [ringWrap_sub bound, snapshot, stocked.holds.head]
    exact distance (by omega)
  refine ⟨_, _, size, takes, ?_⟩
  unfold recvMeasure
  dsimp only
  rw [if_neg (by rw [UInt32.lt_iff_toNat_lt, content, packetHeader_toNat]; omega),
    if_neg (by rw [gt_iff_lt, UInt32.lt_iff_toNat_lt, size, maxIpPacketSize_toNat]; omega),
    if_neg (by rw [gt_iff_lt, UInt32.lt_iff_toNat_lt, takes, content]; omega),
    if_neg (by rw [gt_iff_lt, UInt32.lt_iff_toNat_lt, UInt32.toNat_add, takes, dataSize_toNat]; omega),
    size]

end

namespace RecvSide

/-- Where `recv_one` is, for a ring in which packets wait from a position on. -/
def Placed (s : RecvSide) (position : Nat) (waiting : List (List UInt8)) : Prop :=
  match s.phase with
  | .idle => True
  | .looked _ head tail => head = s.ring.head ∧ ∃ payload seen later,
      waiting = payload :: (seen ++ later) ∧
        tail.toNat = (position + bulk (payload :: seen)) % 8388608
  | .measured room head size aligned => head = s.ring.head ∧ ∃ payload rest,
      waiting = payload :: rest ∧ size.toNat = payload.length ∧
        aligned.toNat = span (frame payload) ∧ payload.length ≤ room
  | .copied room head aligned payload => head = s.ring.head ∧ ∃ rest,
      waiting = payload :: rest ∧ aligned.toNat = span (frame payload) ∧ payload.length ≤ room

/-- A call ends with a packet that fits, with none, or because a packet does not fit. -/
def Truthful (arrived : List (List UInt8)) (answer : RecvAnswer) : Prop :=
  match answer.result with
  | .ok count => count ≤ answer.room
  | .error error => error = .messageSize ∧ ∃ payload ∈ arrived, answer.room < payload.length

structure Sound (s : RecvSide) (position : Nat) (waiting : List (List UInt8)) : Prop where
  stocked : Stocked s.ring position waiting
  order : s.arrived = s.received ++ waiting
  placed : s.Placed position waiting
  truthful : ∀ answer ∈ s.answers, Truthful s.arrived answer

variable {s : RecvSide} {position : Nat} {waiting : List (List UInt8)}

theorem fresh_sound (data : Nat → UInt8) : Sound (fresh data) 0 [] :=
  ⟨Stocked.fresh data, rfl, trivial, fun _ member => absurd member List.not_mem_nil⟩

theorem Sound.answer (sound : Sound s position waiting) {room : Nat} {result : Except RingError Nat}
    (truthful : Truthful s.arrived ⟨room, result⟩) : Sound (s.answer room result) position waiting := by
  refine ⟨sound.stocked, sound.order, trivial, ?_⟩
  intro other member
  rcases List.mem_append.mp member with earlier | last
  · exact sound.truthful other earlier
  · rw [List.mem_singleton.mp last]
    exact truthful

theorem call_sound (sound : Sound s position waiting) (room : Nat) :
    Sound (s.call room) position waiting := by
  unfold call
  rw [recvLook_eq sound.stocked]
  cases waiting with
  | nil => exact sound.answer (Nat.zero_le room)
  | cons payload rest =>
      refine ⟨sound.stocked, sound.order, ⟨rfl, payload, rest, [], ?_, ?_⟩, sound.truthful⟩
      · rw [List.append_nil]
      · exact sound.stocked.holds.tail

theorem goOn_sound (sound : Sound s position waiting) :
    ∃ position' waiting', Sound s.goOn position' waiting' := by
  have placed := sound.placed
  unfold Placed at placed
  unfold goOn
  cases phase : s.phase with
  | idle => exact ⟨position, waiting, sound⟩
  | looked room head tail =>
      rw [phase] at placed
      obtain ⟨rfl, payload, seen, later, rfl, snapshot⟩ := placed
      obtain ⟨size, aligned, length, takes, measured⟩ := recvMeasure_eq sound.stocked snapshot room
      dsimp only
      rw [measured]
      by_cases short : room < payload.length
      · rw [if_pos short]
        refine ⟨position, _, sound.answer ⟨rfl, payload, ?_, short⟩⟩
        rw [sound.order]
        exact List.mem_append_right _ List.mem_cons_self
      · rw [if_neg short]
        exact ⟨position, _, sound.stocked, sound.order,
          ⟨rfl, payload, _, rfl, length, takes, Nat.le_of_not_lt short⟩, sound.truthful⟩
  | measured room head size aligned =>
      rw [phase] at placed
      obtain ⟨rfl, payload, rest, rfl, length, takes, fits⟩ := placed
      dsimp only
      rw [sound.stocked.copy length]
      exact ⟨position, _, sound.stocked, sound.order, ⟨rfl, rest, rfl, takes, fits⟩, sound.truthful⟩
  | copied room head aligned payload =>
      rw [phase] at placed
      obtain ⟨rfl, rest, rfl, takes, fits⟩ := placed
      refine ⟨_, rest, sound.stocked.take takes, ?_, trivial, ?_⟩
      · show s.arrived = (s.received ++ [payload]) ++ rest
        rw [sound.order, List.append_assoc, List.singleton_append]
      · intro other member
        rcases List.mem_append.mp member with earlier | last
        · exact sound.truthful other earlier
        · rw [List.mem_singleton.mp last]
          exact fits

/-- What the driver adds behind the packets does not concern a call in progress. -/
theorem Placed.more {s' : RecvSide} (placed : s.Placed position waiting) (phase : s'.phase = s.phase)
    (head : s'.ring.head = s.ring.head) (more : List (List UInt8)) :
    s'.Placed position (waiting ++ more) := by
  unfold Placed at *
  rw [phase, head]
  cases here : s.phase with
  | idle => trivial
  | looked room at_ tail =>
      rw [here] at placed
      obtain ⟨same, payload, seen, later, rfl, snapshot⟩ := placed
      refine ⟨same, payload, seen, later ++ more, ?_, snapshot⟩
      rw [List.cons_append, List.append_assoc]
  | measured room at_ size aligned =>
      rw [here] at placed
      obtain ⟨same, payload, rest, rfl, others⟩ := placed
      exact ⟨same, payload, rest ++ more, List.cons_append, others⟩
  | copied room at_ aligned payload =>
      rw [here] at placed
      obtain ⟨same, rest, rfl, others⟩ := placed
      exact ⟨same, rest ++ more, List.cons_append, others⟩

theorem Truthful.more {arrived : List (List UInt8)} {answer : RecvAnswer}
    (truthful : Truthful arrived answer) (more : List (List UInt8)) :
    Truthful (arrived ++ more) answer := by
  unfold Truthful at *
  cases result : answer.result with
  | ok count =>
      rw [result] at truthful
      exact truthful
  | error error =>
      rw [result] at truthful
      obtain ⟨same, payload, member, short⟩ := truthful
      exact ⟨same, payload, List.mem_append_left _ member, short⟩

theorem driverWrites_sound (sound : Sound s position waiting) (offset : Nat) (bytes : List UInt8) :
    Sound (s.driverWrites offset bytes) position waiting := by
  unfold driverWrites
  split
  · rename_i free
    rw [sound.stocked.used, ringCapacity_toNat] at free
    refine ⟨sound.stocked.written offset free, sound.order, ?_, sound.truthful⟩
    rw [← List.append_nil waiting]
    exact sound.placed.more rfl rfl []
  · exact sound

/-- What the driver publishes is a packet that lies at the tail and has room there. -/
theorem driverPublishes_cases (stocked : Stocked s.ring position waiting) :
    s.driverPublishes = s ∨ ∃ (payload : List UInt8) (aligned : UInt32),
      load s.ring.data s.ring.tail.toNat (frame payload).length = frame payload ∧
        payload.length ≤ 65535 ∧ bulk waiting + span (frame payload) + 4 ≤ 8388608 ∧
        aligned.toNat = span (frame payload) ∧
        s.driverPublishes = { s with
          ring := { s.ring with tail := ringWrap (s.ring.tail + aligned) }
          arrived := s.arrived ++ [payload] } := by
  have length : (sizeAt s.ring.data s.ring.tail.toNat).toNat =
      (recvCopy s.ring.data s.ring.tail (sizeAt s.ring.data s.ring.tail.toNat)).length :=
    (load_length _ _ _).symm
  unfold driverPublishes
  dsimp only
  split
  · rename_i room
    obtain ⟨small, free⟩ := room
    rw [UInt32.le_iff_toNat_le, maxIpPacketSize_toNat, length] at small
    have takes := frame_aligned length small
    rw [takes, stocked.used, packetAlign_toNat, ringCapacity_toNat] at free
    exact Or.inr ⟨_, _, frame_of_size _ _, small, free, takes, rfl⟩
  · exact Or.inl rfl

theorem driverPublishes_sound (sound : Sound s position waiting) :
    ∃ waiting', Sound s.driverPublishes position waiting' := by
  rcases driverPublishes_cases sound.stocked with same | ⟨payload, aligned, there, small, free, takes, next⟩
  · rw [same]
    exact ⟨waiting, sound⟩
  · rw [next]
    refine ⟨_, sound.stocked.put there small free takes, ?_, sound.placed.more rfl rfl _, ?_⟩
    · show s.arrived ++ [payload] = s.received ++ (waiting ++ [payload])
      rw [sound.order, List.append_assoc]
    · exact fun answer member => (sound.truthful answer member).more _

theorem step_sound (sound : Sound s position waiting) (move : RecvMove) :
    ∃ position' waiting', Sound (s.step move) position' waiting' := by
  cases move with
  | call room =>
      show ∃ position' waiting', Sound (if s.phase = .idle then s.call room else s) position' waiting'
      split
      · exact ⟨position, waiting, call_sound sound room⟩
      · exact ⟨position, waiting, sound⟩
  | goOn => exact goOn_sound sound
  | driverWrites offset bytes => exact ⟨position, waiting, driverWrites_sound sound offset bytes⟩
  | driverPublishes => exact ⟨position, driverPublishes_sound sound⟩

theorem run_sound (data : Nat → UInt8) (moves : List RecvMove) :
    ∃ position waiting, Sound (run (fresh data) moves) position waiting := by
  have walk (s : RecvSide) (position : Nat) (waiting : List (List UInt8))
      (sound : Sound s position waiting) :
      ∃ position waiting, Sound (run s moves) position waiting := by
    induction moves generalizing s position waiting with
    | nil => exact ⟨position, waiting, sound⟩
    | cons move rest ih =>
        obtain ⟨position', waiting', next⟩ := step_sound sound move
        exact ih (s.step move) position' waiting' next
  exact walk _ 0 [] (fresh_sound data)

end RecvSide

end Wintun

end Tunio
