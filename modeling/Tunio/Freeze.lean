import Tunio.Discard

/-!
The FIN as the end of the received stream.  `deliver_data` and `flush_ooo` work from
`rcv_nxt` and do not ask whether the FIN has been received, so the stream stays frozen
exactly as long as no data at `rcv_nxt` and no cached data beyond the FIN turns up.
-/

namespace Tunio

open Machines Inbox

/-- No read that completes after one with `eof` stores a byte. -/
def EofEnds (reads : List ReadCompletion) : Prop :=
  reads.Pairwise fun earlier later => earlier.ec = .eof → later.data.flatten = []

theorem EofEnds.snoc {reads : List ReadCompletion} (ends : EofEnds reads) (read : ReadCompletion)
    (last : read.data.flatten = [] ∨ ∀ earlier ∈ reads, earlier.ec ≠ .eof) :
    EofEnds (reads ++ [read]) := by
  refine List.pairwise_append.mpr ⟨ends, List.pairwise_singleton _ _, ?_⟩
  intro earlier member later isLast isEof
  rw [List.mem_singleton.mp isLast]
  exact last.resolve_right fun none => none earlier member isEof

theorem copyOut_initial (sizes : List Nat) (n : Nat) (source : List UInt8) :
    (copyOut sizes n source).flatten <+: source := by
  induction sizes generalizing n source with
  | nil => exact List.nil_prefix
  | cons size rest ih =>
      unfold copyOut
      split
      · exact List.nil_prefix
      · rw [List.flatten_cons]
        conv_rhs => rw [← List.take_append_drop (min size n) source]
        exact (List.prefix_append_right_inj _).mpr (ih _ _)

theorem copyOut_length (sizes : List Nat) (n : Nat) (source : List UInt8) :
    (copyOut sizes n source).flatten.length ≤ n := by
  induction sizes generalizing n source with
  | nil => simp [copyOut]
  | cons size rest ih =>
      unfold copyOut
      split
      · simp
      · have tail := ih (n - min size n) (source.drop (min size n))
        rw [List.flatten_cons, List.length_append, List.length_take]
        omega

namespace Inbox

/-- The bytes handed out and the bytes still queued. -/
def stream (box : Inbox) : List UInt8 := handed box.reads ++ box.rxData.drop box.rxHead

/-- The bookkeeping of the queue; `eof` has been reported only at the end of everything. -/
structure Sound (box : Inbox) : Prop where
  counted : box.rxHead + box.rxBytes = box.rxData.length
  quiet : ∀ read ∈ box.reads, read.ec = .eof → box.finReceived = true ∧ box.rxBytes = 0
  ends : EofEnds box.reads

theorem Sound.post {box : Inbox} (sound : box.Sound) (op : ReadOp) (ec : ErrorCode) (n : Nat)
    (last : ec = .eof → box.finReceived = true ∧ box.rxBytes = 0) :
    (box.post op ec n []).Sound := by
  refine ⟨sound.counted, ?_, sound.ends.snoc _ (Or.inl rfl)⟩
  intro read member isEof
  rcases List.mem_append.mp member with old | new
  · exact sound.quiet read old isEof
  · rw [List.mem_singleton.mp new] at isEof
    exact last isEof

theorem Sound.refuse {box : Inbox} (sound : box.Sound) (handler : HandlerId) (ec : ErrorCode)
    (proper : ec ≠ .eof) : (box.refuse handler ec).Sound := by
  refine ⟨sound.counted, ?_, sound.ends.snoc _ (Or.inl rfl)⟩
  intro read member isEof
  rcases List.mem_append.mp member with old | new
  · exact sound.quiet read old isEof
  · rw [List.mem_singleton.mp new] at isEof
    exact absurd isEof proper

theorem Sound.emptied {box : Inbox} (sound : box.Sound) : box.emptied.Sound :=
  ⟨rfl, fun read member isEof => ⟨(sound.quiet read member isEof).1, rfl⟩, sound.ends⟩

/-- Without an `eof` before, a read may complete with data. -/
theorem Sound.noEof {box : Inbox} (sound : box.Sound)
    (more : box.finReceived = false ∨ box.rxBytes > 0) : ∀ read ∈ box.reads, read.ec ≠ .eof := by
  intro read member isEof
  obtain ⟨finished, empty⟩ := sound.quiet read member isEof
  rcases more with unfinished | queued
  · exact absurd (unfinished.symm.trans finished) Bool.false_ne_true
  · omega

theorem Sound.serve {box : Inbox} (sound : box.Sound) (op : ReadOp) (queued : box.rxBytes > 0) :
    (box.serve op).Sound := by
  have none := sound.noEof (Or.inr queued)
  have counted := sound.counted
  have short := copyOut_length op.buffers (min op.total box.rxBytes) (box.rxData.drop box.rxHead)
  refine ⟨?_, ?_, sound.ends.snoc _ (Or.inr none)⟩
  · dsimp only [Inbox.serve, Inbox.post]
    omega
  · intro read member isEof
    rcases List.mem_append.mp member with old | new
    · exact absurd isEof (none read old)
    · rw [List.mem_singleton.mp new] at isEof
      cases isEof

theorem Turns.sound {box next : Inbox} (turns : Turns box next) (sound : box.Sound) : next.Sound := by
  cases turns with
  | refuse handler ec proper => exact sound.refuse handler ec proper
  | cancel op => exact sound.post op _ _ nofun
  | serve op queued => exact sound.serve op queued
  | compact =>
      unfold Inbox.compact
      split
      · have counted := sound.counted
        refine ⟨?_, sound.quiet, sound.ends⟩
        dsimp only
        rw [List.length_drop]
        omega
      · exact sound
  | eof op empty finished => exact sound.post op _ _ fun _ => ⟨finished, empty⟩
  | fin =>
      unfold takeFin
      split
      · exact sound
      · exact ⟨sound.counted, fun read member isEof => ⟨rfl, (sound.quiet read member isEof).2⟩,
          sound.ends⟩
  | drop => exact sound.emptied
  | close ec proper =>
      have idle : { box.emptied with activeRead := none }.Sound :=
        ⟨rfl, sound.emptied.quiet, sound.ends⟩
      unfold closed complete
      split
      · exact idle.refuse _ ec proper
      · exact idle
  | _ => exact ⟨sound.counted, sound.quiet, sound.ends⟩

/-- An inbox whose FIN has been received, at `next`, with no byte that was not in `bytes`. -/
structure Ended (next : UInt32) (bytes : List UInt8) (box : Inbox) : Prop where
  finished : box.finReceived = true
  next : box.rcvNxt = next
  stream : box.stream <+: bytes

theorem Turns.ended {box after : Inbox} {next : UInt32} {bytes : List UInt8}
    (turns : Turns box after) (ended : Ended next bytes box) : Ended next bytes after := by
  have stream := ended.stream
  unfold Inbox.stream at stream
  have handedOnly : handed box.reads <+: bytes := (List.prefix_append _ _).trans stream
  cases turns with
  | refuse handler ec proper =>
      refine ⟨ended.finished, ended.next, ?_⟩
      simpa [Inbox.stream, Inbox.refuse, handed_append] using stream
  | cancel op =>
      refine ⟨ended.finished, ended.next, ?_⟩
      simpa [Inbox.stream, Inbox.post, handed_append] using stream
  | serve op queued =>
      refine ⟨ended.finished, ended.next, ?_⟩
      have moved := List.prefix_iff_eq_append.mp
        (copyOut_initial op.buffers (min op.total box.rxBytes) (box.rxData.drop box.rxHead))
      simp only [Inbox.stream, Inbox.serve, Inbox.post, handed_append]
      rw [← List.drop_drop, List.append_assoc, moved]
      exact stream
  | compact =>
      unfold Inbox.compact
      split
      · exact ⟨ended.finished, ended.next, stream⟩
      · exact ended
  | eof op empty finished =>
      refine ⟨ended.finished, ended.next, ?_⟩
      simpa [Inbox.stream, Inbox.post, handed_append] using stream
  | fin =>
      have same : box.takeFin = box := if_pos ended.finished
      rwa [same]
  | drop =>
      refine ⟨ended.finished, ended.next, ?_⟩
      simpa [Inbox.stream, Inbox.emptied] using handedOnly
  | close ec proper =>
      unfold closed complete
      split
      · refine ⟨ended.finished, ended.next, ?_⟩
        simpa [Inbox.stream, Inbox.emptied, Inbox.refuse, handed_append] using handedOnly
      · refine ⟨ended.finished, ended.next, ?_⟩
        simpa [Inbox.stream, Inbox.emptied] using handedOnly
  | _ => exact ⟨ended.finished, ended.next, stream⟩

/-! Delivering before the FIN. -/

theorem Sound.flush {box : Inbox} (sound : box.Sound) : box.flush.Sound :=
  flush_of_turns (fun _ _ here turns => turns.sound here) box sound

theorem Sound.fill {box : Inbox} (sound : box.Sound) (op : ReadOp) (data : List UInt8)
    (unfinished : box.finReceived = false) (empty : box.rxData = []) : (box.fill op data).Sound := by
  have none := sound.noEof (Or.inl unfinished)
  have counted := sound.counted
  rw [empty, List.length_nil] at counted
  have noEof (box' : Inbox) (reads : box'.reads = box.reads) :
      ∀ read ∈ (box'.post op .success (min op.total data.length)
        (copyOut op.buffers (min op.total data.length) data)).reads, read.ec ≠ .eof := by
    intro read member
    rcases List.mem_append.mp member with old | new
    · exact none read (reads ▸ old)
    · rw [List.mem_singleton.mp new]
      exact nofun
  have ends := sound.ends.snoc { handler := op.handler, ec := .success
                                 n := min op.total data.length
                                 data := copyOut op.buffers (min op.total data.length) data }
    (Or.inr none)
  unfold Inbox.fill
  dsimp only
  split
  · refine ⟨?_, fun read member isEof => absurd isEof (noEof _ rfl read member), ends⟩
    simp only [Inbox.post, empty, List.nil_append, List.length_drop]
    omega
  · refine ⟨?_, fun read member isEof => absurd isEof (noEof _ rfl read member), ends⟩
    simp only [Inbox.post, empty, List.length_nil]
    omega

theorem Sound.place {box : Inbox} (sound : box.Sound) (data : List UInt8)
    (unfinished : box.finReceived = false) : (box.place data).Sound := by
  unfold Inbox.place
  split
  · rename_i op empty _
    have filled := sound.fill op data unfinished empty
    dsimp only
    split
    · exact filled.flush
    · exact filled
  · refine Sound.flush ⟨?_, ?_, sound.ends⟩
    · have counted := sound.counted
      simp only [Inbox.queue, List.length_append]
      omega
    · exact fun read member isEof => absurd isEof (sound.noEof (Or.inl unfinished) read member)

theorem place_rcvNxt (box : Inbox) (data : List UInt8) :
    (box.place data).rcvNxt = box.rcvNxt + UInt32.ofNat data.length := by
  have filled (op : ReadOp) : (box.fill op data).rcvNxt = box.rcvNxt + UInt32.ofNat data.length := by
    unfold Inbox.fill
    dsimp only
    split <;> rfl
  unfold Inbox.place
  split
  · dsimp only
    split
    · rw [flush_rcvNxt, filled]
    · exact filled _
  · exact flush_rcvNxt _

end Inbox

/-- Data is taken in whole or not at all, and before the FIN the bookkeeping stays sound. -/
theorem deliverData_sound (c : Conn) (data : List UInt8) (isOpen : c.flow.state ≠ .closed)
    (unfinished : c.flow.finReceived = false) (sound : c.inbox.Sound) :
    (deliverData c data).inbox.Sound ∧ (deliverData c data).flow.finReceived = false ∧
      ((deliverData c data).flow.rcvNxt = c.flow.rcvNxt ∨
        (deliverData c data).flow.rcvNxt = c.flow.rcvNxt + UInt32.ofNat data.length) := by
  have spec : (deliverData c data).inbox.Sound ∧ (deliverData c data).inbox.finReceived = false ∧
      ((deliverData c data).inbox.rcvNxt = c.flow.rcvNxt ∨
        (deliverData c data).inbox.rcvNxt = c.flow.rcvNxt + UInt32.ofNat data.length) := by
    cases shut : c.flow.rxShutdown with
    | true =>
        unfold deliverData
        split
        · exact ⟨sound, unfinished, Or.inl rfl⟩
        · rw [sendAck_inbox]
          exact ⟨⟨sound.counted, sound.quiet, sound.ends⟩, unfinished, Or.inr rfl⟩
    | false =>
        rcases deliverData_inbox c data isOpen shut with refused | placed
        · rw [refused]
          exact ⟨sound, unfinished, Or.inl rfl⟩
        · rw [placed, Inbox.place_finReceived, place_rcvNxt]
          exact ⟨sound.place data unfinished, unfinished, Or.inr rfl⟩
  exact spec

/-! Walking through the cache. -/

/-- The cached segments that `flush_ooo` takes out when `rcv_nxt` is `next`. -/
def ReadyAt (next key : UInt32) (seg : OooSegment) : Prop :=
  key = next ∨ (seqGt next key = true ∧ seqGt (segmentEnd key seg) next = true)

/-- Cached segments lead from a starting point to the given position without a gap. -/
inductive Bridged (cache : OooCache) (starts : UInt32 → Prop) : UInt32 → Prop
  | start {next : UInt32} : starts next → Bridged cache starts next
  | across {next key : UInt32} {seg : OooSegment} : Bridged cache starts next →
      cache[key]? = some seg → ReadyAt next key seg → Bridged cache starts (segmentEnd key seg)

/-- The cache holds a FIN that can be reached, and data to deliver behind that FIN. -/
def Overruns (cache : OooCache) (starts : UInt32 → Prop) : Prop :=
  ∃ key seg beyond more, cache[key]? = some seg ∧ seg.fin = true ∧
    Bridged cache starts (segmentEnd key seg) ∧ cache[beyond]? = some more ∧ more.data ≠ [] ∧
      ReadyAt (segmentEnd key seg + 1) beyond more

/-- Right behind a FIN of the cache that was reached. -/
def BehindFin (cache : OooCache) (starts : UInt32 → Prop) (next : UInt32) : Prop :=
  ∃ key seg, cache[key]? = some seg ∧ seg.fin = true ∧ Bridged cache starts (segmentEnd key seg) ∧
    next = segmentEnd key seg + 1

/-- A flow in the middle of `flush_ooo`, which began with `cache`. -/
structure Walking (cache : OooCache) (starts : UInt32 → Prop) (c : Conn) : Prop where
  within : ∀ (key : UInt32) (seg : OooSegment), c.flow.oooCache[key]? = some seg →
    cache[key]? = some seg
  sound : c.inbox.Sound
  place : (c.flow.finReceived = false ∧ Bridged cache starts c.flow.rcvNxt) ∨
    (c.flow.finReceived = true ∧ BehindFin cache starts c.flow.rcvNxt)

section

variable {cache : OooCache} {starts : UInt32 → Prop} {c : Conn}

/-- A change of the cache alone that only takes segments out. -/
theorem Walking.shrink {after : Conn} (walking : Walking cache starts c) (smaller : OooCache)
    (inbox : after.inbox = { c.inbox with oooCache := smaller })
    (fewer : ∀ (key : UInt32) (seg : OooSegment), smaller[key]? = some seg →
      c.flow.oooCache[key]? = some seg) : Walking cache starts after := by
  have kept : after.flow.oooCache = smaller := congrArg Inbox.oooCache inbox
  have next : after.flow.rcvNxt = c.flow.rcvNxt := congrArg Inbox.rcvNxt inbox
  have fin : after.flow.finReceived = c.flow.finReceived := congrArg Inbox.finReceived inbox
  refine ⟨?_, ?_, ?_⟩
  · intro key seg found
    rw [kept] at found
    exact walking.within key seg (fewer key seg found)
  · rw [inbox]
    exact ⟨walking.sound.counted, walking.sound.quiet, walking.sound.ends⟩
  · rw [next, fin]
    exact walking.place

theorem Walking.erase {after : Conn} (walking : Walking cache starts c) (gone : UInt32)
    (inbox : after.inbox = { c.inbox with oooCache := c.flow.oooCache.erase gone }) :
    Walking cache starts after :=
  walking.shrink _ inbox fun _ _ found => (erase_lookup found).2

theorem Walking.finOoo (walking : Walking cache starts c) (past : Past c.flow.state)
    {key : UInt32} {seg : OooSegment} (found : cache[key]? = some seg) :
    Walking cache starts (finOoo c key seg) := by
  have path : Starves c (Tunio.finOoo c key seg) := Starves.of (Unfolds.finOoo c key seg past)
  refine ⟨?_, path.turns Inbox.Sound (fun _ _ here turns => turns.sound here) walking.sound, ?_⟩
  · rw [finOoo_oooCache]
    exact walking.within
  · unfold Tunio.finOoo
    split
    · rename_i due
      have inbox := handleFin_inbox c (segmentEnd key seg)
      have sameNext : segmentEnd key seg = c.inbox.rcvNxt := due.2
      unfold Inbox.fin at inbox
      rw [if_pos sameNext] at inbox
      have next : (handleFin c (segmentEnd key seg)).flow.rcvNxt = c.inbox.takeFin.rcvNxt :=
        (congrArg Inbox.rcvNxt inbox).trans (flush_rcvNxt _)
      have fin : (handleFin c (segmentEnd key seg)).flow.finReceived = c.inbox.takeFin.finReceived :=
        (congrArg Inbox.finReceived inbox).trans (flush_finReceived _)
      rw [next, fin]
      rcases walking.place with ⟨unfinished, bridged⟩ | ⟨finished, behind⟩
      · have taken : c.inbox.takeFin =
            { c.inbox with rcvNxt := c.inbox.rcvNxt + 1, finReceived := true } :=
          if_neg (ne_true_of_eq_false unfinished)
        rw [taken, ← sameNext]
        rw [← due.2] at bridged
        exact Or.inr ⟨rfl, key, seg, found, due.1, bridged, rfl⟩
      · have taken : c.inbox.takeFin = c.inbox := if_pos finished
        rw [taken]
        exact Or.inr ⟨finished, behind⟩
    · exact walking.place

theorem readyOoo_ready {flow : TcpFlow} {key : UInt32} {seg : OooSegment}
    (ready : readyOoo flow = some (key, seg)) :
    flow.oooCache[key]? = some seg ∧ ReadyAt flow.rcvNxt key seg := by
  refine ⟨readyOoo_cached flow key seg ready, ?_⟩
  have test := List.find?_some ready
  simpa only [ReadyAt, Bool.or_eq_true, Bool.and_eq_true, beq_iff_eq] using test

/-- The part of a ready segment that is delivered ends where the segment ends. -/
theorem oooSkip_next {flow : TcpFlow} {key : UInt32} {seg : OooSegment}
    (ready : ReadyAt flow.rcvNxt key seg) :
    flow.rcvNxt + UInt32.ofNat (seg.data.drop (oooSkip flow key)).length = segmentEnd key seg := by
  unfold oooSkip segmentEnd
  split
  · rename_i same
    rw [List.drop_zero, same]
  · rename_i apart
    obtain ⟨before, reaches⟩ := ready.resolve_left apart
    rw [List.length_drop]
    exact (inOrder_skip apart (seqGt_asymm before) reaches).2

theorem Walking.deliverFresh (walking : Walking cache starts c) (isOpen : c.flow.state ≠ .closed)
    (contained : ¬Overruns cache starts) {key : UInt32} {seg : OooSegment}
    (found : cache[key]? = some seg) (ready : ReadyAt c.flow.rcvNxt key seg) :
    Walking cache starts (deliverFresh c key seg) := by
  rcases walking.place with ⟨unfinished, bridged⟩ | ⟨finished, behind⟩
  · unfold Tunio.deliverFresh
    dsimp only
    split
    · obtain ⟨sound, stays, next⟩ :=
        deliverData_sound c (seg.data.drop (oooSkip c.flow key)) isOpen unfinished walking.sound
      refine ⟨?_, sound, Or.inl ⟨stays, ?_⟩⟩
      · rw [deliverData_oooCache]
        exact walking.within
      · rw [oooSkip_next ready] at next
        rcases next with same | reached
        · rw [same]
          exact bridged
        · rw [reached]
          exact bridged.across found ready
    · exact walking
  · -- behind the FIN a ready segment is a bare FIN, of which nothing is delivered
    obtain ⟨finKey, finSeg, finFound, isFin, reached, next⟩ := behind
    have bare : seg.data = [] := by
      by_contra filled
      rw [next] at ready
      exact contained ⟨finKey, finSeg, key, seg, finFound, isFin, reached, found, filled, ready⟩
    unfold Tunio.deliverFresh
    dsimp only
    rw [bare, List.length_nil, if_neg (Nat.not_lt_zero _)]
    exact walking

theorem Walking.pruneOoo (walking : Walking cache starts c) (past : Past c.flow.state)
    (entries : List (UInt32 × OooSegment)) (cached : ∀ entry ∈ entries, cache[entry.1]? = some entry.2)
    (pruned : Bool) : Walking cache starts (pruneOoo entries c pruned).1 := by
  induction entries generalizing c pruned with
  | nil => exact walking
  | cons entry rest ih =>
      obtain ⟨key, seg⟩ := entry
      have found := cached (key, seg) List.mem_cons_self
      have later := fun other member => cached other (List.mem_cons_of_mem _ member)
      unfold Tunio.pruneOoo
      split
      · exact ih walking past later pruned
      · have finished := walking.finOoo past found
        have pastFin := (Quiet.finOoo c key seg).past past
        dsimp only
        rw [if_neg pastFin.1]
        refine ih (finished.erase key (discardOoo_inbox _ key seg)) ?_ later true
        rwa [discardOoo_state]

theorem Walking.deliverOoo (contained : ¬Overruns cache starts) (fuel : Nat)
    (walking : Walking cache starts c) (past : Past c.flow.state) (delivered : Bool) :
    Walking cache starts (deliverOoo fuel c delivered).1 := by
  induction fuel generalizing c delivered with
  | zero => exact walking
  | succ fuel ih =>
      unfold Tunio.deliverOoo
      split
      · exact walking
      · rename_i key seg ready
        obtain ⟨present, readyAt⟩ := readyOoo_ready ready
        have found := walking.within key seg present
        have taken := walking.erase key (takeOoo_inbox c key seg)
        have pastTaken := (Quiet.takeOoo c key seg).past past
        have next : (takeOoo c key seg).flow.rcvNxt = c.flow.rcvNxt :=
          congrArg Inbox.rcvNxt (takeOoo_inbox c key seg)
        have fresh := taken.deliverFresh pastTaken.1 contained found (next ▸ readyAt)
        have pastFresh := (Quiet.deliverFresh (takeOoo c key seg) key seg).past pastTaken
        have finished := fresh.finOoo pastFresh found
        have pastFin := (Quiet.finOoo (Tunio.deliverFresh (takeOoo c key seg) key seg) key seg).past
          pastFresh
        dsimp only
        rw [if_neg pastFin.1]
        exact ih finished pastFin true

theorem Walking.flushOoo (walking : Walking cache starts c) (past : Past c.flow.state)
    (contained : ¬Overruns cache starts) : Walking cache starts (flushOoo c) := by
  have pruning := walking.pruneOoo past c.flow.oooCache.toList (fun entry member =>
    walking.within _ _ (Std.TreeMap.mem_toList_iff_getElem?_eq_some.mp member)) false
  have pastPruned := (Quiet.pruneOoo c.flow.oooCache.toList c false).past past
  unfold Tunio.flushOoo
  split
  · rename_i result
    rw [result] at pruning
    exact pruning
  · rename_i c₁ _ result
    rw [result] at pruning pastPruned
    have counted : Walking cache starts (countCached c₁) :=
      ⟨pruning.within, pruning.sound, pruning.place⟩
    have delivery := counted.deliverOoo contained (c₁.flow.oooCache.size + 1) pastPruned false
    split
    · rename_i result
      rw [result] at delivery
      exact delivery
    · rename_i c₂ _ result
      rw [result] at delivery
      exact delivery.shrink c₂.flow.oooCache (announceOoo_inbox c₂ _ _) fun _ _ present => present

end

/-! A segment. -/

/-- The FIN of a segment moves `rcv_nxt` behind it, if it moves it at all. -/
theorem segmentFin_places (c : Conn) (finSeq : UInt32) (len : Nat) :
    ((segmentFin c finSeq len).flow.finReceived = c.flow.finReceived ∧
        (segmentFin c finSeq len).flow.rcvNxt = c.flow.rcvNxt) ∨
      (c.flow.finReceived = false ∧ (segmentFin c finSeq len).flow.rcvNxt = finSeq + 1) := by
  have same (after : Conn) (cache : OooCache)
      (inbox : after.inbox = { c.inbox with oooCache := cache }) :
      after.flow.finReceived = c.flow.finReceived ∧ after.flow.rcvNxt = c.flow.rcvNxt :=
    ⟨congrArg Inbox.finReceived inbox, congrArg Inbox.rcvNxt inbox⟩
  have appended := oooAppend_inbox c finSeq [] true
  unfold segmentFin
  split
  · dsimp only
    split
    · exact Or.inl (same _ _ appended)
    · exact Or.inl (same _ _ ((sendAck_inbox _).trans appended))
  · have inbox := handleFin_inbox c finSeq
    unfold Inbox.fin at inbox
    by_cases due : finSeq = c.flow.rcvNxt
    · rw [if_pos (show finSeq = c.inbox.rcvNxt from due)] at inbox
      have next : (handleFin c finSeq).flow.rcvNxt = c.inbox.takeFin.rcvNxt :=
        (congrArg Inbox.rcvNxt inbox).trans (flush_rcvNxt _)
      have fin : (handleFin c finSeq).flow.finReceived = c.inbox.takeFin.finReceived :=
        (congrArg Inbox.finReceived inbox).trans (flush_finReceived _)
      rw [next, fin]
      cases received : c.flow.finReceived with
      | true =>
          have taken : c.inbox.takeFin = c.inbox := if_pos received
          rw [taken]
          exact Or.inl ⟨received, rfl⟩
      | false =>
          have taken : c.inbox.takeFin =
              { c.inbox with rcvNxt := c.inbox.rcvNxt + 1, finReceived := true } :=
            if_neg (ne_true_of_eq_false received)
          rw [taken, due]
          exact Or.inr ⟨rfl, rfl⟩
    · rw [if_neg (show finSeq ≠ c.inbox.rcvNxt from due)] at inbox
      exact Or.inl ⟨congrArg Inbox.finReceived inbox, congrArg Inbox.rcvNxt inbox⟩

/-- What the data of a segment leaves behind decides where its FIN can stand. -/
theorem handlePayload_places (c middle : Conn) (th : TcpHeader) (data : List UInt8)
    (stage : (if data.length > 0 then handleData c th.seq data th.flags else c) = middle) :
    ((handlePayload c th data).flow.finReceived = middle.flow.finReceived ∧
        (handlePayload c th data).flow.rcvNxt = middle.flow.rcvNxt) ∨
      (hasFlag th.flags tcpFin = true ∧ middle.flow.finReceived = false ∧
        (handlePayload c th data).flow.rcvNxt = th.seq + UInt32.ofNat data.length + 1) := by
  have signalled (c : Conn) : (signalWrite c).flow.finReceived = c.flow.finReceived ∧
      (signalWrite c).flow.rcvNxt = c.flow.rcvNxt :=
    ⟨congrArg Inbox.finReceived (signalWrite_inbox c), congrArg Inbox.rcvNxt (signalWrite_inbox c)⟩
  unfold handlePayload
  dsimp only
  rw [stage, (signalled _).1, (signalled _).2]
  split
  · rename_i isFin
    rcases segmentFin_places middle (th.seq + UInt32.ofNat data.length) data.length with same | moved
    · exact Or.inl same
    · exact Or.inr ⟨isFin, moved⟩
  · exact Or.inl ⟨rfl, rfl⟩

theorem handleData_aside (c : Conn) (seq : UInt32) (data : List UInt8) (flags : UInt8)
    (aside : ¬InOrder c.flow.rcvNxt seq data.length) :
    (handleData c seq data flags).flow.finReceived = c.flow.finReceived ∧
      (handleData c seq data flags).flow.rcvNxt = c.flow.rcvNxt := by
  have same (after : Conn) (cache : OooCache)
      (inbox : after.inbox = { c.inbox with oooCache := cache }) :
      after.flow.finReceived = c.flow.finReceived ∧ after.flow.rcvNxt = c.flow.rcvNxt :=
    ⟨congrArg Inbox.finReceived inbox, congrArg Inbox.rcvNxt inbox⟩
  have appended := oooAppend_inbox c seq data (hasFlag flags tcpFin)
  unfold handleData
  rw [if_neg fun start => aside (Or.inl start)]
  split
  · dsimp only
    split
    · exact same _ _ appended
    · exact same _ _ ((sendAck_inbox _).trans appended)
  · rename_i late
    dsimp only
    rw [if_neg fun reaches => aside (Or.inr ⟨Bool.eq_false_of_not_eq_true late, reaches⟩)]
    exact same _ c.flow.oooCache (sendAck_inbox _)

/-! One step. -/

/-- The position of a FIN: that of the segment, or one that is cached. -/
def FinStands (c : Conn) (th : TcpHeader) (data : List UInt8) (finSeq : UInt32) : Prop :=
  (hasFlag th.flags tcpFin = true ∧ finSeq = th.seq + UInt32.ofNat data.length) ∨
    ∃ key seg, c.flow.oooCache[key]? = some seg ∧ seg.fin = true ∧ finSeq = segmentEnd key seg

/-- The stream ends with the FIN: the segment that brings `rcv_nxt` behind a FIN brings it no
further, and from then on neither `rcv_nxt` moves nor a byte is added. -/
structure Freezes (c : Conn) (event : Event) : Prop where
  frozen : c.flow.finReceived = true →
    (step c event).flow.finReceived = true ∧ (step c event).flow.rcvNxt = c.flow.rcvNxt ∧
      (step c event).inbox.stream <+: c.inbox.stream
  last : ∀ th data, event = .segment th data → c.flow.finReceived = false →
    (step c event).flow.state ≠ .closed → (step c event).flow.finReceived = true →
      ∃ finSeq, FinStands c th data finSeq ∧ (step c event).flow.rcvNxt = finSeq + 1

/-- Where `rcv_nxt` can stand when `flush_ooo` begins. -/
def flushStart (c : Conn) (th : TcpHeader) (data : List UInt8) (next : UInt32) : Prop :=
  next = c.flow.rcvNxt ∨ next = th.seq + UInt32.ofNat data.length

/-- No data in order arrives behind the FIN, nor data that makes `flush_ooo` reach a cached
FIN with more data cached behind it. -/
def Conforms (c : Conn) (event : Event) : Prop :=
  event.Feeds c → c.flow.finReceived = false ∧
    ∀ th data, event = .segment th data → ¬Overruns c.flow.oooCache (flushStart c th data)

theorem step_starved {c : Conn} {event : Event} (aside : ¬event.Feeds c) (sound : c.inbox.Sound) :
    (step c event).inbox.Sound ∧ Freezes c event := by
  have path := step_starves c event aside
  refine ⟨path.turns Inbox.Sound (fun _ _ here turns => turns.sound here) sound, ?_, ?_⟩
  · intro finished
    have ended := path.turns (Ended c.flow.rcvNxt c.inbox.stream)
      (fun _ _ here turns => turns.ended here) ⟨finished, rfl, List.prefix_refl _⟩
    exact ⟨ended.finished, ended.next, ended.stream⟩
  · rintro th data rfl unfinished isOpen finished
    change (receiveSegment c th data).flow.state ≠ .closed at isOpen
    change (receiveSegment c th data).flow.finReceived = true at finished
    change ∃ finSeq, FinStands c th data finSeq ∧ (receiveSegment c th data).flow.rcvNxt = _
    cases takes : c.takes th with
    | false =>
        have same := (receiveSegment_untaken c th data takes).resolve_left isOpen
        have still := (congrArg Inbox.finReceived same).symm.trans finished
        exact absurd (unfinished.symm.trans still) Bool.false_ne_true
    | true =>
        obtain ⟨_, past, inbox, same⟩ := receiveSegment_takes c th data takes
        generalize c.stage th = d at *
        have open₁ : d.flow.finReceived = false ∧ d.flow.rcvNxt = c.flow.rcvNxt := by
          rcases inbox with kept | flushed
          · exact ⟨(congrArg Inbox.finReceived kept).trans unfinished, congrArg Inbox.rcvNxt kept⟩
          · exact ⟨((congrArg Inbox.finReceived flushed).trans (flush_finReceived _)).trans unfinished,
              (congrArg Inbox.rcvNxt flushed).trans (flush_rcvNxt _)⟩
        have stage : (if data.length > 0 then handleData d th.seq data th.flags
            else d).flow.finReceived = false := by
          split
          · rename_i filled
            have outOfOrder : ¬InOrder d.flow.rcvNxt th.seq data.length := by
              rw [open₁.2]
              exact fun inOrder => aside ⟨List.length_pos_iff.mp filled, inOrder, takes⟩
            rw [(handleData_aside d th.seq data th.flags outOfOrder).1]
            exact open₁.1
          · exact open₁.1
        rw [same] at finished ⊢
        rcases handlePayload_places d _ th data rfl with ⟨fin, _⟩ | ⟨isFin, _, next⟩
        · rw [fin, stage] at finished
          cases finished
        · exact ⟨_, Or.inl ⟨isFin, rfl⟩, next⟩

theorem step_fed {c : Conn} {event : Event} (feeds : event.Feeds c) (conforms : Conforms c event)
    (sound : c.inbox.Sound) : (step c event).inbox.Sound ∧ Freezes c event := by
  obtain ⟨unfinished, contained⟩ := conforms feeds
  cases event with
  | segment th data =>
      specialize contained th data rfl
      obtain ⟨filled, inOrder, takes⟩ := feeds
      obtain ⟨path, past, inbox, same⟩ := receiveSegment_takes c th data takes
      generalize c.stage th = d at *
      have before : d.flow.finReceived = false ∧ d.flow.rcvNxt = c.flow.rcvNxt ∧
          d.flow.oooCache = c.flow.oooCache := by
        rcases inbox with kept | flushed
        · exact ⟨(congrArg Inbox.finReceived kept).trans unfinished, congrArg Inbox.rcvNxt kept,
            congrArg Inbox.oooCache kept⟩
        · exact ⟨((congrArg Inbox.finReceived flushed).trans (flush_finReceived _)).trans unfinished,
            (congrArg Inbox.rcvNxt flushed).trans (flush_rcvNxt _),
            (congrArg Inbox.oooCache flushed).trans (flush_oooCache _)⟩
      have soundBefore := path.starves.turns Inbox.Sound (fun _ _ here turns => turns.sound here) sound
      obtain ⟨fresh, _, next, split⟩ :=
        handleData_inOrder d th.seq data th.flags (before.2.1 ▸ inOrder)
      obtain ⟨soundFresh, stays, reached⟩ := deliverData_sound d fresh past.1 before.1 soundBefore
      have pastFresh := (Quiet.deliverData d fresh).past past
      have walking : Walking c.flow.oooCache (flushStart c th data) (deliverData d fresh) := by
        refine ⟨?_, soundFresh, Or.inl ⟨stays, Bridged.start ?_⟩⟩
        · rw [deliverData_oooCache, before.2.2]
          exact fun _ _ found => found
        · rw [next] at reached
          exact reached.imp_left fun refused => refused.trans before.2.1
      have flushed := walking.flushOoo pastFresh contained
      have pastFlushed := (Quiet.flushOoo _).past pastFresh
      have stage : (if data.length > 0 then handleData d th.seq data th.flags else d) =
          flushOoo (deliverData d fresh) := by
        rw [if_pos (List.length_pos_iff.mpr filled), split]
      generalize flushOoo (deliverData d fresh) = middle at flushed pastFlushed stage
      have rest : Starves middle (handlePayload d th data) := by
        unfold handlePayload
        dsimp only
        rw [stage]
        refine Steps.trans ?_ (Starves.of (Unfolds.signalWrite _))
        split
        · exact Starves.of (Unfolds.segmentFin middle _ _ pastFlushed)
        · exact Steps.refl middle
      refine ⟨?_, fun finished => absurd (unfinished.symm.trans finished) Bool.false_ne_true, ?_⟩
      · change (receiveSegment c th data).inbox.Sound
        rw [same]
        exact rest.turns Inbox.Sound (fun _ _ here turns => turns.sound here) flushed.sound
      · rintro _ _ ⟨⟩ _ isOpen finished
        change (receiveSegment c th data).flow.finReceived = true at finished
        change ∃ finSeq, FinStands c th data finSeq ∧ (receiveSegment c th data).flow.rcvNxt = _
        rw [same] at finished ⊢
        rcases handlePayload_places d middle th data stage with ⟨fin, still⟩ | ⟨isFin, _, moved⟩
        · rw [fin] at finished
          rw [still]
          rcases flushed.place with ⟨unreached, _⟩ | ⟨_, key, seg, found, isFin, _, behind⟩
          · exact absurd (unreached.symm.trans finished) Bool.false_ne_true
          · exact ⟨_, Or.inr ⟨key, seg, found, isFin, rfl⟩, behind⟩
        · exact ⟨_, Or.inl ⟨isFin, rfl⟩, moved⟩
  | _ => exact feeds.elim

theorem openFlow_sound (eng : TcpEngine) (id : FlowId) (key : FiveTuple) (th : TcpHeader)
    (payload data : List UInt8) (iss : UInt32) :
    (openFlow eng id key th payload data iss).inbox.Sound := by
  have taken (c : Conn) (reads : c.reads = []) (counted : c.flow.rxHead + c.flow.rxBytes =
      c.flow.rxData.length) : (takeSynData c th data).inbox.Sound := by
    have none (box : Inbox) (empty : box.reads = []) : ∀ read ∈ box.reads, read.ec = .eof →
        box.finReceived = true ∧ box.rxBytes = 0 := by
      rw [empty]
      exact fun _ member => absurd member List.not_mem_nil
    have ends : EofEnds c.reads := by
      rw [reads]
      exact List.Pairwise.nil
    unfold takeSynData
    split
    · split
      · refine ⟨?_, none _ reads, ends⟩
        simp only [Conn.inbox, List.length_append]
        omega
      · exact ⟨counted, none _ reads, ends⟩
    · exact ⟨counted, none _ reads, ends⟩
  unfold openFlow
  rw [notifyAccept_inbox]
  exact taken _ rfl rfl

/-- In a run in which no data turns up behind the FIN the received stream is frozen by it,
and after `eof` no read completes with data. -/
theorem run_freezes (eng : TcpEngine) (id : FlowId) (key : FiveTuple) (th : TcpHeader)
    (payload data : List UInt8) (iss : UInt32) (events : List Event)
    (conforms : Always Conforms (openFlow eng id key th payload data iss) events) :
    Always Freezes (openFlow eng id key th payload data iss) events ∧
      EofEnds (run (openFlow eng id key th payload data iss) events).reads := by
  have start := openFlow_sound eng id key th payload data iss
  generalize openFlow eng id key th payload data iss = c at conforms start ⊢
  induction events generalizing c with
  | nil => exact ⟨trivial, start.ends⟩
  | cons event events ih =>
      obtain ⟨sound, freezes⟩ : (step c event).inbox.Sound ∧ Freezes c event := by
        by_cases feeds : event.Feeds c
        · exact step_fed feeds conforms.1 start
        · exact step_starved feeds start
      obtain ⟨later, ends⟩ := ih _ conforms.2 sound
      exact ⟨⟨freezes, later⟩, ends⟩

/-- As long as no FIN is cached, data in order before the FIN is all right. -/
theorem conforms_of_noFin (c : Conn) (event : Event)
    (plain : event.Feeds c → c.flow.finReceived = false ∧
      c.flow.oooCache.toList.all (fun entry => !entry.2.fin) = true) : Conforms c event := by
  intro feeds
  obtain ⟨unfinished, noFin⟩ := plain feeds
  refine ⟨unfinished, ?_⟩
  rintro _ _ _ ⟨key, seg, _, _, found, isFin, _⟩
  have member := Std.TreeMap.mem_toList_iff_getElem?_eq_some.mpr found
  have clear := List.all_eq_true.mp noFin _ member
  rw [isFin] at clear
  cases clear

/-- Three bytes, the FIN, a repeated FIN: the reads end with `eof` for good. -/
theorem freezes_repeated :
    let events : List Event := [.accept, .segment (peerSegment 8 1001 tcpAck 1000) [],
      .segment (peerSegment 8 1001 tcpAck 1000) [1, 2, 3],
      .segment (peerSegment 11 1001 (tcpAck ||| tcpFin) 1000) [], .read [10] 1, .read [10] 2,
      .segment (peerSegment 11 1001 (tcpAck ||| tcpFin) 1000) [], .read [10] 3]
    (run (opened {} 1000) events).reads.map ReadCompletion.ec = [.success, .eof, .eof] ∧
      Always Freezes (opened {} 1000) events ∧ EofEnds (run (opened {} 1000) events).reads := by
  refine ⟨by decide, run_freezes _ _ _ _ _ _ _ _ ?_⟩
  refine Always.imp conforms_of_noFin ?_
  decide

/-- Data behind the FIN is taken in, and a read returns it after another has returned `eof`. -/
theorem freezes_fails :
    let c := run (opened {} 1000) [.accept, .segment (peerSegment 8 1001 tcpAck 1000) [],
      .segment (peerSegment 8 1001 (tcpAck ||| tcpFin) 1000) [], .read [10] 1]
    let event : Event := .segment (peerSegment 9 1001 tcpAck 1000) [1, 2, 3]
    ¬Freezes c event ∧ ¬EofEnds (run c [event, .read [10] 2]).reads := by
  refine ⟨fun freezes => ?_, fun ends => ?_⟩
  · have next := (freezes.frozen (by decide)).2.1
    exact absurd next (by decide)
  · have completed : (run (opened {} 1000) [.accept, .segment (peerSegment 8 1001 tcpAck 1000) [],
        .segment (peerSegment 8 1001 (tcpAck ||| tcpFin) 1000) [], .read [10] 1,
        .segment (peerSegment 9 1001 tcpAck 1000) [1, 2, 3], .read [10] 2]).reads =
        [{ handler := 1, ec := .eof, n := 0, data := [] },
          { handler := 2, ec := .success, n := 3, data := [[1, 2, 3]] }] := by decide
    have order := List.pairwise_iff_forall_sublist.mp (completed ▸ ends) (List.Sublist.refl _)
    exact absurd (order rfl) (by decide)

end Tunio
