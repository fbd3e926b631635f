import Mathlib.Data.List.SplitLengths
import Tunio.Coroutine

/-!
What `retransmit_unacked` sends.  The bytes it sends are those of the write from the first
unacknowledged one on, up to the first empty buffer behind it.
-/

namespace Tunio

open Serial Slices

/-! The chunks. -/

/-- Chunks that follow one another from an offset on, none of them empty or too long. -/
def Chained (segMss : Nat) : Nat → List (Nat × List UInt8) → Prop
  | _, [] => True
  | off, chunk :: rest =>
      chunk.1 = off ∧ 0 < chunk.2.length ∧ chunk.2.length ≤ segMss ∧
        Chained segMss (off + chunk.2.length) rest

/-- The end of the buffers in front of the first empty one. -/
def runEnd : List Nat → Nat → Nat
  | [], base => base
  | size :: rest, base => if size = 0 then base else runEnd rest (base + size)

theorem runEnd_cons (size : Nat) (rest : List Nat) (base : Nat) :
    runEnd (size :: rest) base = if size = 0 then base else runEnd rest (base + size) := rfl

theorem runEnd_ge (sizes : List Nat) (base : Nat) : base ≤ runEnd sizes base := by
  induction sizes generalizing base with
  | nil => exact Nat.le_refl _
  | cons size rest ih =>
      rw [runEnd_cons]
      split
      · exact Nat.le_refl _
      · have later := ih (base + size)
        omega

/-- The offset lies in the first of the buffers, or that buffer is empty. -/
def Meets (off base : Nat) : List (List UInt8) → Prop
  | [] => True
  | buffer :: _ => off < base + buffer.length ∨ (buffer.length = 0 ∧ off = base)

theorem Meets.here (buffers : List (List UInt8)) (base : Nat) : Meets base base buffers := by
  cases buffers with
  | nil => trivial
  | cons buffer rest =>
      unfold Meets
      omega

/-- A stretch less its first part, up to a limit that the first part does not pass. -/
theorem stretch_step {off want budget limit : Nat} (reaches : off + want ≤ limit)
    (paid : want ≤ budget) :
    want + (min limit (off + want + (budget - want)) - (off + want)) =
      min limit (off + budget) - off := by
  omega

theorem retransmitChunks_covers {segMss : Nat} (some_ : 0 < segMss) (stop : Nat)
    (stream : List UInt8) (fuel : Nat) (buffers : List (List UInt8)) (base off budget : Nat)
    (rests : Rests stream base buffers) (reached : base ≤ off) (meets : Meets off base buffers)
    (enough : stop - off ≤ fuel) :
    Chained segMss off (retransmitChunks segMss stop fuel buffers base off budget) ∧
      ((retransmitChunks segMss stop fuel buffers base off budget).map Prod.snd).flatten =
        (stream.drop off).take
          (min (min stop (runEnd (buffers.map List.length) base)) (off + budget) - off) := by
  induction fuel generalizing buffers base off budget with
  | zero =>
      have none : min (min stop (runEnd (buffers.map List.length) base)) (off + budget) - off = 0 := by
        omega
      rw [none]
      exact ⟨trivial, rfl⟩
  | succ fuel ih =>
      cases buffers with
      | nil =>
          have whole : stream.drop off = [] := by
            have content := rests.content
            rw [List.flatten_nil, List.drop_eq_nil_iff] at content
            exact List.drop_eq_nil_of_le (content.trans reached)
          rw [whole]
          exact ⟨trivial, by simp [retransmitChunks]⟩
      | cons buffer rest =>
          have front : off < base + buffer.length ∨ (buffer.length = 0 ∧ off = base) := meets
          unfold retransmitChunks
          rw [List.map_cons, runEnd_cons]
          by_cases going : off < stop ∧ budget > 0
          · rw [if_pos going]
            dsimp only
            generalize want_eq : min (min (stop - off) (buffer.length - (off - base)))
              (min budget segMss) = want
            have bounds : off + want ≤ stop ∧ off + want ≤ base + buffer.length ∨ want = 0 := by
              omega
            have paid : want ≤ budget ∧ want ≤ segMss := by omega
            have nothing : want = 0 → buffer.length = 0 := by omega
            clear want_eq
            by_cases stuck : want = 0
            · have empty := nothing stuck
              have none : min (min stop base) (off + budget) - off = 0 := by omega
              rw [if_pos stuck, if_pos empty, none]
              exact ⟨trivial, rfl⟩
            · obtain ⟨within, inside⟩ := bounds.resolve_right stuck
              have filled : ¬buffer.length = 0 := by omega
              have piece : (buffer.drop (off - base)).take want = (stream.drop off).take want := by
                have cut := (rests.slice.drop (off - base) (by omega)).take want
                rw [Nat.add_sub_cancel' reached] at cut
                have content := cut.content
                rwa [List.length_take, List.length_drop, Nat.min_eq_left (by omega)] at content
              have length : ((buffer.drop (off - base)).take want).length = want := by
                rw [List.length_take, List.length_drop]
                omega
              rw [if_neg stuck, if_neg filled, List.map_cons, List.flatten_cons]
              have ahead := runEnd_ge (rest.map List.length) (base + buffer.length)
              by_cases passed : off + want ≥ base + buffer.length
              · have here : off + want = base + buffer.length := by omega
                rw [if_pos passed]
                have next : Meets (off + want) (base + buffer.length) rest := by
                  rw [here]
                  exact Meets.here rest _
                obtain ⟨chained, data⟩ := ih rest (base + buffer.length) (off + want) (budget - want)
                  rests.tail passed next (by omega)
                refine ⟨⟨rfl, ?_, ?_, ?_⟩, ?_⟩
                · dsimp only
                  omega
                · dsimp only
                  omega
                · dsimp only
                  rw [length]
                  exact chained
                · rw [data]
                  dsimp only
                  rw [piece, ← List.drop_drop, ← List.take_add]
                  congr 1
                  exact stretch_step (Nat.le_min.mpr ⟨within, inside.trans ahead⟩) paid.1
              · rw [if_neg passed]
                obtain ⟨chained, data⟩ := ih (buffer :: rest) base (off + want) (budget - want) rests
                  (by omega) (Or.inl (by omega)) (by omega)
                rw [List.map_cons, runEnd_cons, if_neg filled] at data
                refine ⟨⟨rfl, ?_, ?_, ?_⟩, ?_⟩
                · dsimp only
                  omega
                · dsimp only
                  omega
                · dsimp only
                  rw [length]
                  exact chained
                · rw [data]
                  dsimp only
                  rw [piece, ← List.drop_drop, ← List.take_add]
                  congr 1
                  exact stretch_step (Nat.le_min.mpr ⟨within, inside.trans ahead⟩) paid.1
          · have none (stretch : Nat) : min (min stop stretch) (off + budget) - off = 0 := by omega
            rw [if_neg going, none]
            exact ⟨trivial, rfl⟩

theorem seekBuffers_front (buffers : List (List UInt8)) (base off : Nat) :
    ∀ buffer ∈ (seekBuffers buffers base off).1.head?,
      off < (seekBuffers buffers base off).2 + buffer.length := by
  induction buffers generalizing base with
  | nil => simp [seekBuffers]
  | cons buffer rest ih =>
      unfold seekBuffers
      split
      · exact ih _
      · rename_i inside
        intro other first
        cases first
        exact Nat.not_le.mp inside

theorem Meets.front {buffers : List (List UInt8)} {base off : Nat}
    (front : ∀ buffer ∈ buffers.head?, off < base + buffer.length) : Meets off base buffers := by
  cases buffers with
  | nil => trivial
  | cons buffer rest => exact Or.inl (front buffer rfl)

/-! The buffers that stop it. -/

/-- There is an empty buffer behind an offset and in front of another. -/
def Interrupted (sizes : List Nat) (base off limit : Nat) : Prop :=
  ∃ front back, sizes = front ++ 0 :: back ∧ off < base + front.sum ∧ base + front.sum < limit

theorem seekBuffers_interrupted (buffers : List (List UInt8)) (base off limit : Nat) :
    Interrupted (buffers.map List.length) base off limit ↔
      Interrupted ((seekBuffers buffers base off).1.map List.length)
        (seekBuffers buffers base off).2 off limit := by
  induction buffers generalizing base with
  | nil => rfl
  | cons buffer rest ih =>
      unfold seekBuffers
      split
      · rename_i passed
        rw [← ih]
        constructor
        · rintro ⟨front, back, sizes, after, before⟩
          cases front with
          | nil =>
              rw [List.sum_nil] at after
              omega
          | cons size front =>
              obtain ⟨rfl, others⟩ := List.cons.inj sizes
              rw [List.sum_cons] at after before
              exact ⟨front, back, others, by omega, by omega⟩
        · rintro ⟨front, back, sizes, after, before⟩
          refine ⟨buffer.length :: front, back, ?_, ?_, ?_⟩
          · rw [List.map_cons, sizes]
            rfl
          · rw [List.sum_cons]
            omega
          · rw [List.sum_cons]
            omega
      · rfl

theorem runEnd_reaches (sizes : List Nat) {base limit : Nat} (inside : limit ≤ base + sizes.sum) :
    limit ≤ runEnd sizes base ↔
      ¬∃ front back, sizes = front ++ 0 :: back ∧ base + front.sum < limit := by
  induction sizes generalizing base with
  | nil =>
      rw [List.sum_nil] at inside
      refine ⟨fun _ => ?_, fun _ => inside⟩
      rintro ⟨front, back, sizes, -⟩
      simp at sizes
  | cons size rest ih =>
      rw [List.sum_cons] at inside
      rw [runEnd_cons]
      by_cases empty : size = 0
      · rw [if_pos empty]
        constructor
        · rintro short ⟨front, back, -, before⟩
          omega
        · intro none
          by_contra long
          exact none ⟨[], rest, by simp [empty], by simpa using Nat.not_le.mp long⟩
      · rw [if_neg empty, ih (by omega), not_iff_not]
        constructor
        · rintro ⟨front, back, sizes, before⟩
          refine ⟨size :: front, back, by rw [sizes]; rfl, ?_⟩
          rw [List.sum_cons]
          omega
        · rintro ⟨front, back, sizes, before⟩
          cases front with
          | nil => exact absurd (List.cons.inj sizes).1 empty
          | cons first front =>
              obtain ⟨rfl, others⟩ := List.cons.inj sizes
              rw [List.sum_cons] at before
              exact ⟨front, back, others, by omega⟩

/-- Behind the buffer that holds the first byte every empty buffer lies behind that byte. -/
theorem runEnd_interrupted {buffers : List (List UInt8)} {base off limit : Nat}
    (first : ∀ buffer ∈ buffers.head?, off < base + buffer.length)
    (inside : limit ≤ base + (buffers.map List.length).sum) :
    limit ≤ runEnd (buffers.map List.length) base ↔
      ¬Interrupted (buffers.map List.length) base off limit := by
  rw [runEnd_reaches _ inside, not_iff_not]
  constructor
  · rintro ⟨front, back, sizes, before⟩
    refine ⟨front, back, sizes, ?_, before⟩
    cases buffers with
    | nil => simp at sizes
    | cons buffer rest =>
        have holds := first buffer rfl
        cases front with
        | nil =>
            have empty := (List.cons.inj sizes).1
            omega
        | cons size front =>
            obtain ⟨rfl, -⟩ := List.cons.inj sizes
            rw [List.sum_cons]
            omega
  · rintro ⟨front, back, sizes, -, before⟩
    exact ⟨front, back, sizes, before⟩

/-! The segments. -/

/-- Segments of a write from a position on, in their order and without a gap. -/
def InSequence (segMss : Nat) (iss : UInt32) : Nat → List Segment → Prop
  | _, [] => True
  | pos, segment :: rest =>
      segment.seq = num iss pos ∧ 0 < segment.payload.length ∧ segment.payload.length ≤ segMss ∧
        InSequence segMss iss (pos + segment.payload.length) rest

/-- The segments that were sent hold these bytes, the first of them at the position. -/
def Sends (before after : Conn) (iss : UInt32) (pos : Nat) (data : List UInt8) : Prop :=
  ∃ segments, after.out = before.out ++ segments ∧
    InSequence (mss before.eng.cfg before.flow.key.family) iss pos segments ∧
    (segments.map Segment.payload).flatten = data

theorem resend_out (startSeq : UInt32) (chunks : List (Nat × List UInt8)) (c : Conn)
    (isOpen : c.flow.state ≠ .closed) :
    ∃ segments, (chunks.foldl (fun c chunk =>
        sendSegment c (startSeq + UInt32.ofNat chunk.1) (tcpAck ||| tcpPsh) chunk.2 false) c).out =
          c.out ++ segments ∧
      segments.map (fun segment => (segment.seq, segment.payload)) =
        chunks.map fun chunk => (startSeq + UInt32.ofNat chunk.1, chunk.2) := by
  induction chunks generalizing c with
  | nil => exact ⟨[], by simp⟩
  | cons chunk rest ih =>
      obtain ⟨segments, out, fields⟩ := ih (sendSegment c (startSeq + UInt32.ofNat chunk.1)
        (tcpAck ||| tcpPsh) chunk.2 false) (by
          unfold sendSegment
          rw [if_neg isOpen]
          exact isOpen)
      obtain ⟨sent, first, word⟩ : ∃ sent : Segment,
          (sendSegment c (startSeq + UInt32.ofNat chunk.1) (tcpAck ||| tcpPsh) chunk.2 false).out =
            c.out ++ [sent] ∧
          (sent.seq, sent.payload) = (startSeq + UInt32.ofNat chunk.1, chunk.2) := by
        unfold sendSegment
        rw [if_neg isOpen]
        exact ⟨_, rfl, rfl⟩
      refine ⟨sent :: segments, ?_, ?_⟩
      · rw [List.foldl_cons, out, first, List.append_assoc]
        rfl
      · rw [List.map_cons, List.map_cons, fields, word]

theorem resend_closed (startSeq : UInt32) (chunks : List (Nat × List UInt8)) (c : Conn)
    (closed : c.flow.state = .closed) :
    chunks.foldl (fun c chunk =>
      sendSegment c (startSeq + UInt32.ofNat chunk.1) (tcpAck ||| tcpPsh) chunk.2 false) c = c := by
  induction chunks with
  | nil => rfl
  | cons chunk rest ih =>
      have same : sendSegment c (startSeq + UInt32.ofNat chunk.1) (tcpAck ||| tcpPsh) chunk.2 false =
          c := by
        unfold sendSegment
        rw [if_pos closed]
      rw [List.foldl_cons, same]
      exact ih

theorem InSequence.of_chained {segMss : Nat} {iss startSeq : UInt32} {start off : Nat}
    {chunks : List (Nat × List UInt8)} {segments : List Segment} (origin : startSeq = num iss start)
    (chained : Chained segMss off chunks)
    (fields : segments.map (fun segment => (segment.seq, segment.payload)) =
      chunks.map fun chunk => (startSeq + UInt32.ofNat chunk.1, chunk.2)) :
    InSequence segMss iss (start + off) segments := by
  induction chunks generalizing off segments with
  | nil =>
      rw [List.map_nil, List.map_eq_nil_iff] at fields
      subst fields
      trivial
  | cons chunk rest ih =>
      cases segments with
      | nil => simp at fields
      | cons segment others =>
          obtain ⟨at_, some_, short, later⟩ := chained
          obtain ⟨first, fields⟩ := List.cons.inj fields
          obtain ⟨seq, payload⟩ := Prod.mk.inj first
          refine ⟨?_, ?_, ?_, ?_⟩
          · rw [seq, at_, origin, num_add]
          · rwa [payload]
          · rwa [payload]
          · rw [payload, Nat.add_assoc]
            exact ih later fields

theorem Sends.nothing (c : Conn) (iss : UInt32) (pos : Nat) : Sends c c iss pos [] :=
  ⟨[], (List.append_nil _).symm, trivial, rfl⟩

/-- What was sent is what was sent. -/
theorem Sends.unique {before after : Conn} {iss : UInt32} {pos pos' : Nat} {data data' : List UInt8}
    (first : Sends before after iss pos data) (second : Sends before after iss pos' data') :
    data = data' := by
  obtain ⟨segments, out, -, rfl⟩ := first
  obtain ⟨others, out', -, rfl⟩ := second
  have same : segments = others := List.append_cancel_left (out.symm.trans out')
  rw [same]

/-- Nothing is sent anywhere. -/
theorem Sends.anywhere {before after : Conn} {iss : UInt32} {pos : Nat}
    (sends : Sends before after iss pos []) (pos' : Nat) : Sends before after iss pos' [] := by
  obtain ⟨segments, out, placed, carried⟩ := sends
  cases segments with
  | nil => exact ⟨[], out, trivial, rfl⟩
  | cons segment rest =>
      have empty : segment.payload = [] := by
        rw [List.map_cons, List.flatten_cons, List.append_eq_nil_iff] at carried
        exact carried.1
      have some_ := placed.2.1
      rw [empty] at some_
      exact absurd some_ (Nat.lt_irrefl 0)

/-! The bytes that are due. -/

/-- The bytes that are sent from an offset on, the end and the budget being given. -/
def sentBytes (buffers : List (List UInt8)) (begin_ stop maxBytes : Nat) : List UInt8 :=
  let seek := seekBuffers buffers 0 begin_
  (buffers.flatten.drop begin_).take
    (min (min stop (runEnd (seek.1.map List.length) seek.2)) (begin_ + maxBytes) - begin_)

theorem retransmitUnacked_sends {c : Conn} {op : WriteOp} (active : c.flow.activeWrite = some op)
    (isOpen : c.flow.state ≠ .closed) (unacked : c.flow.sndUna ≠ c.flow.sndNxt) (maxBytes : Nat)
    {iss : UInt32} {start : Nat} (origin : op.startSeq = num iss start) :
    let begin_ := (c.flow.sndUna - op.startSeq).toNat
    let stop := min (c.flow.sndNxt - op.startSeq).toNat op.total
    Sends c (retransmitUnacked c maxBytes) iss (start + begin_)
      (sentBytes op.buffers begin_ stop maxBytes) := by
  intro begin_ stop
  have seek := seekBuffers_rests op.buffers.flatten op.buffers 0 begin_ (Rests.whole op.buffers)
    (Nat.zero_le _)
  have front := seekBuffers_front op.buffers 0 begin_
  obtain ⟨chained, data⟩ := retransmitChunks_covers (mss_pos c.eng.cfg c.flow.key.family) stop
    op.buffers.flatten (stop - begin_) (seekBuffers op.buffers 0 begin_).1
    (seekBuffers op.buffers 0 begin_).2 begin_ maxBytes seek.1 seek.2 (Meets.front front)
    (Nat.le_refl _)
  obtain ⟨segments, out, fields⟩ := resend_out op.startSeq (retransmitPlan c op maxBytes) c isOpen
  refine ⟨segments, ?_, InSequence.of_chained origin chained fields, ?_⟩
  · unfold retransmitUnacked
    rw [active]
    dsimp only
    rw [if_neg unacked]
    exact out
  · have payloads := congrArg (List.map Prod.snd) fields
    rw [List.map_map, List.map_map] at payloads
    exact (congrArg List.flatten payloads).trans data

theorem retransmitUnacked_rests {c : Conn} {op : WriteOp} (active : c.flow.activeWrite = some op)
    (rests : c.flow.state = .closed ∨ c.flow.sndUna = c.flow.sndNxt) (maxBytes : Nat) :
    retransmitUnacked c maxBytes = c := by
  unfold retransmitUnacked
  rw [active]
  dsimp only
  split
  · rfl
  · rename_i unacked
    exact resend_closed _ _ _ (rests.resolve_right unacked)

theorem runEnd_passes {buffers : List (List UInt8)} {begin_ : Nat}
    (inside : begin_ < buffers.flatten.length) :
    begin_ < runEnd ((seekBuffers buffers 0 begin_).1.map List.length)
      (seekBuffers buffers 0 begin_).2 := by
  obtain ⟨rests, reached⟩ := seekBuffers_rests buffers.flatten buffers 0 begin_ (Rests.whole buffers)
    (Nat.zero_le _)
  have front := seekBuffers_front buffers 0 begin_
  generalize seekBuffers buffers 0 begin_ = seek at *
  cases shape : seek.1 with
  | nil =>
      have content := rests.content
      rw [shape, List.flatten_nil, List.drop_eq_nil_iff] at content
      omega
  | cons buffer rest =>
      rw [shape] at front
      have first := front buffer rfl
      have later := runEnd_ge (rest.map List.length) (seek.2 + buffer.length)
      rw [List.map_cons, runEnd_cons, if_neg (by omega)]
      omega

/-- As long as the offset lies in the write and before the end, a byte is sent. -/
theorem sentBytes_nonempty {buffers : List (List UInt8)} {begin_ stop maxBytes : Nat}
    (ahead : begin_ < stop) (inside : begin_ < buffers.flatten.length) (some_ : 0 < maxBytes) :
    ∃ count, sentBytes buffers begin_ stop maxBytes =
      (buffers.flatten.drop begin_).take (count + 1) := by
  have further := runEnd_passes inside
  unfold sentBytes
  dsimp only
  refine ⟨min (min stop (runEnd ((seekBuffers buffers 0 begin_).1.map List.length)
    (seekBuffers buffers 0 begin_).2)) (begin_ + maxBytes) - begin_ - 1, ?_⟩
  congr 1
  omega

theorem sentBytes_nothing (buffers : List (List UInt8)) {begin_ stop maxBytes : Nat}
    (none : stop ≤ begin_ ∨ maxBytes = 0) : sentBytes buffers begin_ stop maxBytes = [] := by
  unfold sentBytes
  dsimp only
  rw [show min (min stop (runEnd ((seekBuffers buffers 0 begin_).1.map List.length)
    (seekBuffers buffers 0 begin_).2)) (begin_ + maxBytes) - begin_ = 0 by omega]
  rfl

/-- All the bytes up to a limit are sent if and only if no empty buffer lies in front of it. -/
theorem sentBytes_whole_iff (buffers : List (List UInt8)) (begin_ stop maxBytes : Nat)
    (inside : stop ≤ buffers.flatten.length) (ahead : begin_ < stop) :
    sentBytes buffers begin_ stop maxBytes =
        (buffers.flatten.drop begin_).take (min maxBytes (stop - begin_)) ↔
      ¬Interrupted (buffers.map List.length) 0 begin_
        (begin_ + min maxBytes (stop - begin_)) := by
  obtain ⟨rests, reached⟩ := seekBuffers_rests buffers.flatten buffers 0 begin_ (Rests.whole buffers)
    (Nat.zero_le _)
  have front := seekBuffers_front buffers 0 begin_
  have left : (seekBuffers buffers 0 begin_).2 +
      ((seekBuffers buffers 0 begin_).1.map List.length).sum = buffers.flatten.length := by
    have length := congrArg List.length rests.content
    rw [List.length_drop, List.length_flatten (L := (seekBuffers buffers 0 begin_).1)] at length
    have bound := rests.bound
    omega
  have further := runEnd_passes (show begin_ < buffers.flatten.length by omega)
  rw [seekBuffers_interrupted, ← runEnd_interrupted front (by omega)]
  unfold sentBytes
  dsimp only
  generalize runEnd ((seekBuffers buffers 0 begin_).1.map List.length)
    (seekBuffers buffers 0 begin_).2 = reach at further ⊢
  rw [List.take_eq_take_iff, List.length_drop]
  omega

/-! The range. -/

/-- How many bytes are due: the write's, from the first unacknowledged one on. -/
def dueCount (start una nxt total maxBytes : Nat) : Nat :=
  min maxBytes (min nxt (start + total) - max una start)

/-- The bytes that are due are sent, the first of them at its position. -/
def SendsDue (c : Conn) (op : WriteOp) (iss : UInt32) (start una nxt maxBytes : Nat) : Prop :=
  Sends c (retransmitUnacked c maxBytes) iss (max una start)
    ((op.buffers.flatten.drop (max una start - start)).take
      (dueCount start una nxt op.total maxBytes))

section Range

variable {c : Conn} {op : WriteOp} {iss : UInt32} {start una nxt maxBytes : Nat}

/-- The words of a flow and of its write, for positions counted from `iss`. -/
structure Positioned (c : Conn) (op : WriteOp) (iss : UInt32) (start una nxt : Nat) : Prop where
  active : c.flow.activeWrite = some op
  whole : op.total = op.buffers.flatten.length
  origin : op.startSeq = num iss start
  sndUna : c.flow.sndUna = num iss una
  sndNxt : c.flow.sndNxt = num iss nxt
  reached : start ≤ nxt
  order : una ≤ nxt
  span : nxt < una + 2 ^ 32

/-- The range as the code maps it, where the positions fit a word. -/
theorem Positioned.near (placed : Positioned c op iss start una nxt) (close : nxt < start + 2 ^ 32) :
    (c.flow.sndNxt - op.startSeq).toNat = nxt - start ∧
      (c.flow.sndUna - op.startSeq).toNat =
        if start ≤ una then una - start else 2 ^ 32 - (start - una) := by
  have reached := placed.reached
  have order := placed.order
  have span := placed.span
  rw [placed.origin, placed.sndUna, placed.sndNxt]
  refine ⟨num_sub_toNat iss nxt start reached (by omega), ?_⟩
  split
  · rename_i ahead
    exact num_sub_toNat iss una start ahead (by omega)
  · exact num_sub_behind iss una start (by omega) (by omega)

/-- The range as the code maps it, where they do not. -/
theorem Positioned.far (placed : Positioned c op iss start una nxt) (distant : ¬nxt < start + 2 ^ 32) :
    (c.flow.sndNxt - op.startSeq).toNat = (nxt - start) % 2 ^ 32 ∧
      (c.flow.sndUna - op.startSeq).toNat = (una - start) % 2 ^ 32 := by
  have span := placed.span
  rw [placed.origin, placed.sndUna, placed.sndNxt]
  exact ⟨num_sub_mod iss nxt start placed.reached, num_sub_mod iss una start (by omega)⟩

theorem Positioned.unacked (placed : Positioned c op iss start una nxt) (some_ : una ≠ nxt) :
    c.flow.sndUna ≠ c.flow.sndNxt := by
  have order := placed.order
  have span := placed.span
  rw [placed.sndUna, placed.sndNxt]
  exact fun same => some_ (num_inj iss same (by omega) (by omega))

/-- Nothing is due and nothing is sent. -/
theorem Positioned.quiet (placed : Positioned c op iss start una nxt)
    (none : dueCount start una nxt op.total maxBytes = 0)
    (cause : nxt < start + 2 ^ 32 ∨ una = nxt ∨ maxBytes = 0 ∨ c.flow.state = .closed ∨
      min ((nxt - start) % 2 ^ 32) op.total ≤ (una - start) % 2 ^ 32) :
    SendsDue c op iss start una nxt maxBytes := by
  unfold SendsDue
  rw [none, List.take_zero]
  by_cases rests : c.flow.state = .closed ∨ c.flow.sndUna = c.flow.sndNxt
  · rw [retransmitUnacked_rests placed.active rests]
    exact Sends.nothing c iss _
  · rw [not_or] at rests
    have sends := retransmitUnacked_sends placed.active rests.1 rests.2 maxBytes placed.origin
    dsimp only at sends
    rw [sentBytes_nothing] at sends
    · exact sends.anywhere _
    · unfold dueCount at none
      have order := placed.order
      have span := placed.span
      by_cases close : nxt < start + 2 ^ 32
      · obtain ⟨last, first⟩ := placed.near close
        rw [last, first]
        split <;> omega
      · obtain ⟨last, first⟩ := placed.far close
        rw [last, first]
        rcases cause with near | same | budget | closed | past
        · exact absurd near close
        · rw [placed.sndUna, placed.sndNxt, same] at rests
          exact absurd rfl rests.2
        · exact Or.inr budget
        · exact absurd closed rests.1
        · exact Or.inl past

/-- What is due is sent where the code maps it right and no empty buffer stops it. -/
theorem Positioned.sends (placed : Positioned c op iss start una nxt)
    (some_ : 0 < dueCount start una nxt op.total maxBytes) (isOpen : c.flow.state ≠ .closed)
    (ahead : start ≤ una) (close : nxt < start + 2 ^ 32)
    (whole : ¬Interrupted (op.buffers.map List.length) 0 (una - start)
      (una - start + dueCount start una nxt op.total maxBytes)) :
    SendsDue c op iss start una nxt maxBytes := by
  obtain ⟨last, first⟩ := placed.near close
  rw [if_pos ahead] at first
  unfold dueCount at some_ whole
  have unacked := placed.unacked (show una ≠ nxt by omega)
  have sends := retransmitUnacked_sends placed.active isOpen unacked maxBytes placed.origin
  dsimp only at sends
  have count : min maxBytes (min nxt (start + op.total) - max una start) =
      min maxBytes (min (nxt - start) op.total - (una - start)) := by omega
  rw [last, first] at sends
  rw [count] at whole some_
  have total := placed.whole
  have data := (sentBytes_whole_iff op.buffers (una - start) (min (nxt - start) op.total) maxBytes
    (by omega) (by omega)).mpr whole
  rw [data, Nat.add_sub_cancel' ahead] at sends
  unfold SendsDue dueCount
  rw [count, Nat.max_eq_left ahead]
  exact sends

/-- The bytes that are due are as many as they are counted. -/
theorem Positioned.due_length (placed : Positioned c op iss start una nxt) (maxBytes : Nat) :
    ((op.buffers.flatten.drop (max una start - start)).take
      (dueCount start una nxt op.total maxBytes)).length =
        dueCount start una nxt op.total maxBytes := by
  have total := placed.whole
  rw [List.length_take, List.length_drop]
  unfold dueCount
  omega

/-- What is due is not sent where nothing is. -/
theorem Positioned.silent (placed : Positioned c op iss start una nxt) {pos : Nat}
    (some_ : 0 < dueCount start una nxt op.total maxBytes)
    (nothing : Sends c (retransmitUnacked c maxBytes) iss pos []) :
    ¬SendsDue c op iss start una nxt maxBytes := by
  intro due
  have length := placed.due_length maxBytes
  rw [← nothing.unique due] at length
  exact absurd length (Nat.ne_of_lt some_)

/-- Something is due only to a flow that is open, and not in front of the write. -/
theorem Positioned.mapped (placed : Positioned c op iss start una nxt)
    (some_ : 0 < dueCount start una nxt op.total maxBytes)
    (due : SendsDue c op iss start una nxt maxBytes) :
    c.flow.state ≠ .closed ∧ start ≤ una ∧ (nxt < start + 2 ^ 32 ∨ start + 2 ^ 32 ≤ una) := by
  have isOpen : c.flow.state ≠ .closed := by
    intro closed
    have nothing : Sends c (retransmitUnacked c maxBytes) iss 0 [] := by
      rw [retransmitUnacked_rests placed.active (Or.inl closed)]
      exact Sends.nothing c iss 0
    exact placed.silent some_ nothing due
  have unacked : una ≠ nxt := by
    intro same
    unfold dueCount at some_
    omega
  have sends := retransmitUnacked_sends placed.active isOpen (placed.unacked unacked) maxBytes
    placed.origin
  dsimp only at sends
  have order := placed.order
  have span := placed.span
  refine ⟨isOpen, ?_⟩
  by_contra off
  rw [sentBytes_nothing] at sends
  · exact placed.silent some_ sends due
  · left
    by_cases close : nxt < start + 2 ^ 32
    · obtain ⟨last, first⟩ := placed.near close
      rw [last, first]
      split <;> omega
    · obtain ⟨last, first⟩ := placed.far close
      rw [last, first]
      omega

/-- Where the offset is counted modulo the size of a word, other bytes are sent. -/
theorem Positioned.wrapped (placed : Positioned c op iss start una nxt)
    (some_ : 0 < dueCount start una nxt op.total maxBytes) (isOpen : c.flow.state ≠ .closed)
    (distant : start + 2 ^ 32 ≤ una)
    (data : op.buffers.flatten = List.replicate (una - start) 0 ++
      List.replicate (op.total - (una - start)) 1) :
    ¬SendsDue c op iss start una nxt maxBytes := by
  intro due
  have order := placed.order
  have unacked : una ≠ nxt := by
    intro same
    unfold dueCount at some_
    omega
  have sends := retransmitUnacked_sends placed.active isOpen (placed.unacked unacked) maxBytes
    placed.origin
  dsimp only at sends
  have same := sends.unique due
  obtain ⟨-, first⟩ := placed.far (by omega)
  have front : (op.buffers.flatten.drop (max una start - start)).take
      (dueCount start una nxt op.total maxBytes) =
        List.replicate (dueCount start una nxt op.total maxBytes) 1 := by
    rw [data, show max una start - start = una - start by omega,
      List.drop_left' List.length_replicate, List.take_replicate, Nat.min_eq_left]
    unfold dueCount
    omega
  rw [front] at same
  have one : (sentBytes op.buffers (c.flow.sndUna - op.startSeq).toNat
      (min (c.flow.sndNxt - op.startSeq).toNat op.total) maxBytes)[0]? = some 1 := by
    rw [same, List.getElem?_replicate, if_pos some_]
  unfold sentBytes at one
  dsimp only at one
  rw [List.getElem?_take] at one
  split at one
  · rw [List.getElem?_drop, Nat.add_zero, data, first,
      List.getElem?_append_left (by rw [List.length_replicate]; omega),
      List.getElem?_replicate, if_pos (by omega)] at one
    cases one
  · cases one

/-- Nothing is sent when nothing is due. -/
theorem Positioned.idle (placed : Positioned c op iss start una nxt)
    (none : dueCount start una nxt op.total maxBytes = 0)
    (due : SendsDue c op iss start una nxt maxBytes) :
    nxt < start + 2 ^ 32 ∨ una = nxt ∨ maxBytes = 0 ∨ c.flow.state = .closed ∨
      min ((nxt - start) % 2 ^ 32) op.total ≤ (una - start) % 2 ^ 32 := by
  by_contra sent
  simp only [not_or] at sent
  obtain ⟨distant, unacked, budget, isOpen, ahead⟩ := sent
  obtain ⟨last, first⟩ := placed.far distant
  have sends := retransmitUnacked_sends placed.active isOpen (placed.unacked unacked) maxBytes
    placed.origin
  dsimp only at sends
  have same := sends.unique due
  rw [none, List.take_zero, last, first] at same
  have total := placed.whole
  have inside : (una - start) % 2 ^ 32 < op.buffers.flatten.length := by omega
  obtain ⟨count, some_⟩ := sentBytes_nonempty (Nat.not_le.mp ahead) inside (Nat.pos_of_ne_zero budget)
  rw [some_] at same
  have length := congrArg List.length same
  rw [List.length_take, List.length_drop, List.length_nil] at length
  omega

/-- An empty buffer in front of the end of what is due stops the retransmission. -/
theorem Positioned.uninterrupted (placed : Positioned c op iss start una nxt)
    (some_ : 0 < dueCount start una nxt op.total maxBytes) (close : nxt < start + 2 ^ 32)
    (due : SendsDue c op iss start una nxt maxBytes) :
    ¬Interrupted (op.buffers.map List.length) 0 (una - start)
      (una - start + dueCount start una nxt op.total maxBytes) := by
  obtain ⟨isOpen, ahead, -⟩ := placed.mapped some_ due
  obtain ⟨last, first⟩ := placed.near close
  rw [if_pos ahead] at first
  unfold dueCount at some_
  have sends := retransmitUnacked_sends placed.active isOpen
    (placed.unacked (show una ≠ nxt by omega)) maxBytes placed.origin
  dsimp only at sends
  have same := sends.unique due
  have count : dueCount start una nxt op.total maxBytes =
      min maxBytes (min (nxt - start) op.total - (una - start)) := by
    unfold dueCount
    omega
  rw [last, first, count, show max una start - start = una - start by omega] at same
  rw [count]
  have total := placed.whole
  exact (sentBytes_whole_iff op.buffers (una - start) (min (nxt - start) op.total) maxBytes
    (by omega) (by omega)).mp same

end Range

/-- The write of a flow, with other bytes in buffers of the same sizes. -/
def withBytes (c : Conn) (op : WriteOp) (buffers : List (List UInt8)) : Conn :=
  { c with flow.activeWrite := some { op with buffers := buffers, total := buffers.flatten.length } }

/-- Whatever the bytes of a write are, those that are due are sent again if and only if the write
does not start behind the first unacknowledged byte, its offsets fit a word and no empty buffer
lies inside the range. -/
theorem retransmitUnacked_due_iff (c : Conn) (op : WriteOp) (sizes : List Nat) (maxBytes : Nat)
    (iss : UInt32) (start una nxt : Nat) (origin : op.startSeq = num iss start)
    (sndUna : c.flow.sndUna = num iss una) (sndNxt : c.flow.sndNxt = num iss nxt)
    (reached : start ≤ nxt) (order : una ≤ nxt) (span : nxt < una + 2 ^ 32) :
    let count := dueCount start una nxt sizes.sum maxBytes
    (∀ buffers : List (List UInt8), buffers.map List.length = sizes →
      SendsDue (withBytes c op buffers)
        { op with buffers := buffers, total := buffers.flatten.length } iss start una nxt
        maxBytes) ↔
      (0 < count → c.flow.state ≠ .closed ∧ start ≤ una ∧ nxt < start + 2 ^ 32 ∧
        ¬Interrupted sizes 0 (una - start) (una - start + count)) ∧
      (count = 0 → nxt < start + 2 ^ 32 ∨ una = nxt ∨ maxBytes = 0 ∨ c.flow.state = .closed ∨
        min ((nxt - start) % 2 ^ 32) sizes.sum ≤ (una - start) % 2 ^ 32) := by
  intro count
  have placed (buffers : List (List UInt8)) : Positioned (withBytes c op buffers)
      { op with buffers := buffers, total := buffers.flatten.length } iss start una nxt :=
    ⟨rfl, rfl, origin, sndUna, sndNxt, reached, order, span⟩
  have total (buffers : List (List UInt8)) (shape : buffers.map List.length = sizes) :
      buffers.flatten.length = sizes.sum := by rw [List.length_flatten, shape]
  constructor
  · intro due
    have fill (data : List UInt8) (length : data.length = sizes.sum) :
        ∃ buffers : List (List UInt8), buffers.map List.length = sizes ∧ buffers.flatten = data :=
      ⟨sizes.splitLengths data, List.map_splitLengths_length _ _ (Nat.le_of_eq length.symm),
        List.flatten_splitLengths _ _ (Nat.le_of_eq length)⟩
    obtain ⟨zeros, shape, -⟩ := fill (List.replicate sizes.sum 0) List.length_replicate
    have plain := due zeros shape
    have size := total zeros shape
    constructor
    · intro some_
      have counted : 0 < dueCount start una nxt
          zeros.flatten.length maxBytes := by
        rwa [size]
      obtain ⟨isOpen, ahead, near⟩ := (placed zeros).mapped counted plain
      have close : nxt < start + 2 ^ 32 := by
        rcases near with close | distant
        · exact close
        · exfalso
          have inside : una - start < sizes.sum := by
            unfold count dueCount at some_
            omega
          obtain ⟨other, shape', data⟩ := fill (List.replicate (una - start) 0 ++
            List.replicate (sizes.sum - (una - start)) 1) (by
              rw [List.length_append, List.length_replicate, List.length_replicate]
              omega)
          have size' := total other shape'
          refine (placed other).wrapped ?_ isOpen distant ?_ (due other shape')
          · dsimp only
            rwa [size']
          · dsimp only
            rw [size', data]
      refine ⟨isOpen, ahead, close, ?_⟩
      have whole := (placed zeros).uninterrupted counted close plain
      dsimp only at whole
      rwa [shape, size] at whole
    · intro none
      have idle := (placed zeros).idle (by dsimp only; rwa [size]) plain
      dsimp only at idle
      rwa [size] at idle
  · rintro ⟨sends, quiet⟩ buffers shape
    have size := total buffers shape
    rcases Nat.eq_zero_or_pos count with none | some_
    · refine (placed buffers).quiet ?_ ?_
      · dsimp only
        rwa [size]
      · dsimp only
        rw [size]
        exact quiet none
    · obtain ⟨isOpen, ahead, close, whole⟩ := sends some_
      refine (placed buffers).sends ?_ isOpen ahead close ?_
      · dsimp only
        rwa [size]
      · dsimp only
        rwa [shape, size]

/-- An established flow whose write is unacknowledged from position 1 to position 4. -/
def resending : Conn :=
  { eng := {}
    flow := {
      id := 0
      key := { srcIp := Vector.replicate 16 0, dstIp := Vector.replicate 16 0, srcPort := 5000
               dstPort := 80, protocol := 6, family := 4 }
      state := .established
      sndUna := 1
      sndNxt := 4 } }

def resent : WriteOp := { buffers := [], total := 0, startSeq := 1, implicitAccept := false, handler := 0 }

/-- Empty buffers at the ends of a write do no harm. -/
theorem retransmitUnacked_due_ends :
    SendsDue (withBytes resending resent [[], [1, 2], [3], []])
      { resent with buffers := [[], [1, 2], [3], []], total := 3 } 0 1 1 4 10 := by
  have due := (retransmitUnacked_due_iff resending resent [0, 2, 1, 0] 10 0 1 1 4 (by decide)
    (by decide) (by decide) (by decide) (by decide) (by decide)).mpr
  refine due ⟨fun _ => ⟨by decide, by decide, by decide, ?_⟩, by decide⟩ [[], [1, 2], [3], []] rfl
  rintro ⟨front, back, sizes, after, before⟩
  match front, sizes with
  | [], _ => simp at after
  | [_], sizes => simp at sizes
  | [_, _], sizes => simp at sizes
  | [_, _, _], sizes =>
      simp at sizes
      obtain ⟨rfl, rfl, rfl, -⟩ := sizes
      simp [dueCount] at before
  | _ :: _ :: _ :: _ :: _, sizes => simp at sizes

/-- An empty buffer in the middle does. -/
theorem retransmitUnacked_stuck :
    ¬SendsDue (withBytes resending resent [[1], [], [2, 3]])
      { resent with buffers := [[1], [], [2, 3]], total := 3 } 0 1 1 4 10 := by
  intro due
  have placed : Positioned (withBytes resending resent [[1], [], [2, 3]])
      { resent with buffers := [[1], [], [2, 3]], total := 3 } 0 1 1 4 :=
    ⟨rfl, rfl, by decide, by decide, by decide, by decide, by decide, by decide⟩
  exact placed.uninterrupted (by decide) (by decide) due ⟨[1], [2], rfl, by decide, by decide⟩

end Tunio
