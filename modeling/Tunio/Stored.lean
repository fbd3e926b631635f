import Tunio.Slice
import Tunio.Inbox

/-!
The stream in the inbox.  The bytes handed to the application and the bytes still
queued are the prefix of the stream that has been taken in; every delivery extends that
prefix, and every read only moves bytes within it.
-/

namespace Tunio

open Serial Slices

/-- The bytes that completed reads have stored. -/
def handed (reads : List ReadCompletion) : List UInt8 :=
  (reads.map fun read => read.data.flatten).flatten

theorem handed_append (reads : List ReadCompletion) (read : ReadCompletion) :
    handed (reads ++ [read]) = handed reads ++ read.data.flatten := by
  simp [handed]

/-- A read ends with `eof` only when everything has been handed out before it. -/
def EofLast (stream : List UInt8) (reads : List ReadCompletion) : Prop :=
  ∀ (index : Nat) (read : ReadCompletion), reads[index]? = some read → read.ec = .eof →
    handed (reads.take index) = stream

theorem EofLast.append {stream : List UInt8} {reads : List ReadCompletion}
    (eofLast : EofLast stream reads) (read : ReadCompletion)
    (last : read.ec = .eof → handed reads = stream) : EofLast stream (reads ++ [read]) := by
  intro index found lookup isEof
  by_cases inside : index < reads.length
  · rw [List.getElem?_append_left inside] at lookup
    rw [List.take_append_of_le_length (Nat.le_of_lt inside)]
    exact eofLast index found lookup isEof
  · rw [List.getElem?_append_right (by omega)] at lookup
    have first : index - reads.length = 0 := by
      by_contra later
      rw [List.getElem?_eq_none (by simp only [List.length_singleton]; omega)] at lookup
      cases lookup
    rw [first, List.getElem?_cons_zero] at lookup
    obtain rfl := Option.some.inj lookup
    have all : index = reads.length := by omega
    rw [all, List.take_left]
    exact last isEof

theorem copyOut_flatten (sizes : List Nat) (n : Nat) (source : List UInt8)
    (room : n ≤ sizes.sum) (enough : n ≤ source.length) :
    (copyOut sizes n source).flatten = source.take n := by
  induction sizes generalizing n source with
  | nil =>
      have none : n = 0 := by simpa using room
      simp [copyOut, none]
  | cons size rest ih =>
      unfold copyOut
      split
      · rename_i none
        simp [none]
      · rw [List.sum_cons] at room
        rw [List.flatten_cons, ih (n - min size n) _ (by omega) (by rw [List.length_drop]; omega),
          ← List.take_add]
        congr 1
        omega

/-- The stream up to `taken`, and its FIN if it has been received, are in the inbox. -/
structure Stored (stream : List UInt8) (ends : Bool) (base : UInt32) (taken : Nat)
    (box : Inbox) : Prop where
  next : box.rcvNxt = num base (taken + box.finReceived.toNat)
  inside : taken ≤ stream.length
  fin : box.finReceived = true → ends = true ∧ taken = stream.length
  reading : box.rxShutdown = false
  bytes : box.rxHead + box.rxBytes = box.rxData.length
  content : handed box.reads ++ box.rxData.drop box.rxHead = stream.take taken
  eofs : EofLast stream box.reads
  fits : ∀ op ∈ box.activeRead, op.total ≤ op.buffers.sum

section

variable {stream : List UInt8} {ends : Bool} {base : UInt32} {taken : Nat} {box : Inbox}

theorem Stored.cache (stored : Stored stream ends base taken box) (cache : OooCache) :
    Stored stream ends base taken { box with oooCache := cache } :=
  ⟨stored.next, stored.inside, stored.fin, stored.reading, stored.bytes, stored.content,
    stored.eofs, stored.fits⟩

/-- A completed read that stores nothing. -/
theorem Stored.post (stored : Stored stream ends base taken box) (op : ReadOp) (ec : ErrorCode)
    (n : Nat) (last : ec = .eof → handed box.reads = stream) :
    Stored stream ends base taken (box.post op ec n []) := by
  refine ⟨stored.next, stored.inside, stored.fin, stored.reading, stored.bytes, ?_, ?_, ?_⟩
  · have content := stored.content
    simpa [Inbox.post, handed_append] using content
  · exact stored.eofs.append _ last
  · simp [Inbox.post]

theorem Stored.serve (stored : Stored stream ends base taken box) (op : ReadOp)
    (read : box.activeRead = some op) : Stored stream ends base taken (box.serve op) := by
  have bytes := stored.bytes
  have queued : (box.rxData.drop box.rxHead).length = box.rxBytes := by
    rw [List.length_drop]
    omega
  have copied := copyOut_flatten op.buffers (min op.total box.rxBytes)
    (box.rxData.drop box.rxHead) (by have := stored.fits op read; omega) (by omega)
  have length : (copyOut op.buffers (min op.total box.rxBytes)
      (box.rxData.drop box.rxHead)).flatten.length = min op.total box.rxBytes := by
    rw [copied, List.length_take]
    omega
  refine ⟨stored.next, stored.inside, stored.fin, stored.reading, ?_, ?_, ?_, ?_⟩
  · simp only [Inbox.serve, Inbox.post, length]
    omega
  · have content := stored.content
    simp only [Inbox.serve, Inbox.post, handed_append]
    rw [length, copied, List.append_assoc, ← List.drop_drop, List.take_append_drop]
    exact content
  · exact stored.eofs.append _ (by simp)
  · simp [Inbox.serve, Inbox.post]

theorem Stored.compact (stored : Stored stream ends base taken box) :
    Stored stream ends base taken box.compact := by
  unfold Inbox.compact
  split
  · refine ⟨stored.next, stored.inside, stored.fin, stored.reading, ?_, ?_, stored.eofs,
      stored.fits⟩
    · have bytes := stored.bytes
      simp only [List.length_drop]
      omega
    · exact stored.content
  · exact stored

theorem Stored.eof (stored : Stored stream ends base taken box) :
    Stored stream ends base taken box.eof := by
  unfold Inbox.eof
  split
  · split
    · rename_i drained
      refine stored.post _ _ _ fun _ => ?_
      have bytes := stored.bytes
      have content := stored.content
      have finished := (stored.fin drained.2).2
      rw [List.drop_eq_nil_of_le (by omega), List.append_nil, finished, List.take_length] at content
      exact content
    · exact stored
  · exact stored

theorem Stored.flush (stored : Stored stream ends base taken box) :
    Stored stream ends base taken box.flush := by
  unfold Inbox.flush
  refine Stored.eof (Stored.compact ?_)
  split
  · rename_i op read
    split
    · exact stored.serve op read
    · exact stored
  · exact stored

@[simp] theorem Inbox.flush_finReceived (box : Inbox) :
    box.flush.finReceived = box.finReceived := by
  unfold Inbox.flush Inbox.eof Inbox.compact
  dsimp only
  repeat' split
  all_goals rfl

/-- The FIN of the stream is taken in once everything before it has been. -/
theorem Stored.takeFin (stored : Stored stream ends base taken box) (finished : ends = true)
    (last : taken = stream.length) : Stored stream ends base taken box.takeFin.flush := by
  refine Stored.flush ?_
  unfold Inbox.takeFin
  split
  · exact stored
  · rename_i first
    have next := stored.next
    rw [Bool.not_eq_true] at first
    rw [first] at next
    refine ⟨?_, stored.inside, fun _ => ⟨finished, last⟩, stored.reading, stored.bytes,
      stored.content, stored.eofs, stored.fits⟩
    dsimp only
    rw [next]
    exact (num_succ base taken).symm

theorem Stored.queue (stored : Stored stream ends base taken box) (data : List UInt8)
    (slice : Slice stream taken data) (unfinished : box.finReceived = false) :
    Stored stream ends base (taken + data.length) (box.queue data) := by
  have bytes := stored.bytes
  refine ⟨?_, slice.bound, ?_, stored.reading, ?_, ?_, stored.eofs, stored.fits⟩
  · simp only [Inbox.queue, stored.next, unfinished]
    exact (num_add base taken data.length).symm
  · simp [Inbox.queue, unfinished]
  · simp only [Inbox.queue, List.length_append]
    omega
  · simp only [Inbox.queue]
    rw [List.drop_append_of_le_length (by omega), ← List.append_assoc, stored.content,
      slice.take_append]

theorem Stored.fill (stored : Stored stream ends base taken box) (op : ReadOp) (data : List UInt8)
    (slice : Slice stream taken data) (unfinished : box.finReceived = false)
    (read : box.activeRead = some op) (empty : box.rxData = []) :
    Stored stream ends base (taken + data.length) (box.fill op data) := by
  have bytes := stored.bytes
  rw [empty, List.length_nil] at bytes
  have head : box.rxHead = 0 := by omega
  have content := stored.content
  rw [empty, List.drop_nil, List.append_nil] at content
  have copied := copyOut_flatten op.buffers (min op.total data.length) data
    (by have := stored.fits op read; omega) (by omega)
  have next : box.rcvNxt + UInt32.ofNat data.length = num base (taken + data.length) := by
    rw [stored.next, unfinished]
    exact (num_add base taken data.length).symm
  have all : stream.take taken ++ data = stream.take (taken + data.length) := slice.take_append
  unfold Inbox.fill
  dsimp only
  split
  · refine ⟨?_, slice.bound, by simp [Inbox.post, unfinished], stored.reading, ?_, ?_, ?_, ?_⟩
    · simpa [Inbox.post, unfinished] using next
    · simp only [Inbox.post, empty, head, List.nil_append, List.length_drop]
      omega
    · simp only [Inbox.post, handed_append, copied, empty, head, List.nil_append, List.drop_zero]
      rw [content, List.append_assoc, List.take_append_drop, all]
    · exact stored.eofs.append _ (by simp)
    · simp [Inbox.post]
  · refine ⟨?_, slice.bound, by simp [Inbox.post, unfinished], stored.reading, ?_, ?_, ?_, ?_⟩
    · simpa [Inbox.post, unfinished] using next
    · simp only [Inbox.post, empty, List.length_nil]
      omega
    · simp only [Inbox.post, handed_append, copied, empty, List.drop_nil, List.append_nil]
      rw [content, List.take_of_length_le (l := data) (by omega), all]
    · exact stored.eofs.append _ (by simp)
    · simp [Inbox.post]

theorem Inbox.place_finReceived (box : Inbox) (data : List UInt8) :
    (box.place data).finReceived = box.finReceived := by
  have filled (op : ReadOp) : (box.fill op data).finReceived = box.finReceived := by
    unfold Inbox.fill
    dsimp only
    split <;> rfl
  unfold Inbox.place
  split
  · rename_i op _ _
    dsimp only
    split
    · rw [Inbox.flush_finReceived, filled op]
    · exact filled op
  · exact Inbox.flush_finReceived _

theorem Stored.place (stored : Stored stream ends base taken box) (data : List UInt8)
    (slice : Slice stream taken data) (unfinished : box.finReceived = false) :
    Stored stream ends base (taken + data.length) (box.place data) := by
  unfold Inbox.place
  split
  · rename_i op empty read
    have filled := stored.fill op data slice unfinished read empty
    dsimp only
    split
    · exact filled.flush
    · exact filled
  · exact (stored.queue data slice unfinished).flush

end

end Tunio
