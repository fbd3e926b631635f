import Mathlib.Algebra.BigOperators.Group.Finset.Basic
import Mathlib.Algebra.Order.BigOperators.Group.Finset
import Mathlib.Data.Multiset.AddSub
import Mathlib.Tactic.Abel
import Tunio.Course
import Tunio.QueueWriter

/-!
What holds of a queue writer in every run: every packet is accounted for, every queue gets its
packets in order and one at a time, and every handler is called once.
-/

namespace Tunio

open Courses

/-! One queue. -/

namespace QueueState

/-- The packets of a queue that are not done with, in their order. -/
def line (st : QueueState) : List WriteEntry := st.current.toList ++ st.queue

def busy (st : QueueState) : Nat := if st.current.isSome then 1 else 0

/-- The packets of a queue were given to the device in their order, one at a time and none too
often, and those that were written were written once and in their order. -/
structure Ordered (submitted q : Nat) (st : QueueState) : Prop where
  single : st.inFlight = st.busy
  placed : ∀ e ∈ st.line, e.queue = q ∧ e.number < submitted
  sorted : (st.line.map WriteEntry.number).Pairwise (· < ·)
  whole : ∀ e ∈ st.queue, e.retriesLeft = kWriteRetryLimit
  given : st.attempts.Pairwise (· ≤ ·)
  behind : ∀ a ∈ st.attempts, ∀ e ∈ st.queue, a < e.number
  upTo : ∀ a ∈ st.attempts, ∀ e ∈ st.current, a ≤ e.number
  known : ∀ a ∈ st.attempts, a < submitted
  tries : ∀ a, st.attempts.count a ≤ kWriteRetryLimit + 1
  left : ∀ e ∈ st.current, st.attempts.count e.number + e.retriesLeft = kWriteRetryLimit + 1
  started : ∀ e ∈ st.current, e.number ∈ st.attempts
  wrote : st.written.Pairwise (· < ·)
  before : ∀ x ∈ st.written, ∀ e ∈ st.line, x < e.number
  tried : ∀ x ∈ st.written, x ∈ st.attempts

def push (st : QueueState) (e : WriteEntry) : QueueState := { st with queue := st.queue ++ [e] }

def launch (st : QueueState) (e : WriteEntry) (rest : List WriteEntry) : QueueState :=
  { st with
    queue := rest
    current := some e
    inFlight := st.inFlight + 1
    attempts := st.attempts ++ [e.number] }

def again (st : QueueState) (e : WriteEntry) : QueueState :=
  { st with
    current := some { e with retriesLeft := e.retriesLeft - 1 }
    attempts := st.attempts ++ [e.number] }

def finish (st : QueueState) (e : WriteEntry) (wrote : Bool) : QueueState :=
  { st with
    current := none
    inFlight := st.inFlight - 1
    written := if wrote then st.written ++ [e.number] else st.written }

def skip (st : QueueState) (rest : List WriteEntry) : QueueState := { st with queue := rest }

namespace Ordered

variable {submitted q : Nat} {st : QueueState}

theorem empty : Ordered submitted q {} := by
  constructor <;> simp [line, busy]

theorem later {submitted' : Nat} (ordered : Ordered submitted q st) (more : submitted ≤ submitted') :
    Ordered submitted' q st :=
  { ordered with
    placed := fun e member => ⟨(ordered.placed e member).1,
      Nat.lt_of_lt_of_le (ordered.placed e member).2 more⟩
    known := fun a member => Nat.lt_of_lt_of_le (ordered.known a member) more }

theorem line_push (st : QueueState) (e : WriteEntry) : (st.push e).line = st.line ++ [e] :=
  (List.append_assoc _ _ _).symm

theorem push (ordered : Ordered submitted q st) {e : WriteEntry} (placed : e.queue = q)
    (number : e.number = submitted) (whole : e.retriesLeft = kWriteRetryLimit) :
    Ordered (submitted + 1) q (st.push e) := by
  have earlier {other : WriteEntry} (member : other ∈ st.line) : other.number < submitted :=
    (ordered.placed other member).2
  refine ⟨ordered.single, ?_, ?_, ?_, ordered.given, ?_, ordered.upTo, ?_, ordered.tries,
    ordered.left, ordered.started, ordered.wrote, ?_, ordered.tried⟩
  · intro other member
    rw [line_push] at member
    rcases List.mem_append.mp member with old | new
    · exact ⟨(ordered.placed other old).1, Nat.lt_succ_of_lt (earlier old)⟩
    · rw [List.mem_singleton.mp new]
      exact ⟨placed, by omega⟩
  · rw [line_push, List.map_append, List.pairwise_append]
    refine ⟨ordered.sorted, List.pairwise_singleton _ _, fun a old b new => ?_⟩
    obtain ⟨other, member, rfl⟩ := List.mem_map.mp old
    rw [List.mem_singleton.mp new, number]
    exact earlier member
  · intro other member
    rcases List.mem_append.mp member with old | new
    · exact ordered.whole other old
    · rwa [List.mem_singleton.mp new]
  · intro a tried other member
    rcases List.mem_append.mp member with old | new
    · exact ordered.behind a tried other old
    · rw [List.mem_singleton.mp new, number]
      exact ordered.known a tried
  · exact fun a tried => Nat.lt_succ_of_lt (ordered.known a tried)
  · intro x wrote other member
    rw [line_push] at member
    rcases List.mem_append.mp member with old | new
    · exact ordered.before x wrote other old
    · rw [List.mem_singleton.mp new, number]
      exact ordered.known x (ordered.tried x wrote)

theorem line_launch (st : QueueState) {e : WriteEntry} {rest : List WriteEntry}
    (idle : st.current = none) (queue : st.queue = e :: rest) :
    (st.launch e rest).line = st.line := by
  unfold line
  rw [idle, queue]
  rfl

theorem launch (ordered : Ordered submitted q st) {e : WriteEntry} {rest : List WriteEntry}
    (idle : st.current = none) (queue : st.queue = e :: rest) :
    Ordered submitted q (st.launch e rest) := by
  have line := line_launch st idle queue
  have front : e ∈ st.queue := queue ▸ List.mem_cons_self
  have inLine : e ∈ st.line := List.mem_append_right _ front
  have sorted := ordered.sorted
  have first : ∀ other ∈ rest, e.number < other.number := by
    unfold QueueState.line at sorted
    rw [idle, queue] at sorted
    intro other member
    exact (List.pairwise_cons.mp sorted).1 other.number (List.mem_map_of_mem member)
  have fresh : st.attempts.count e.number = 0 :=
    List.count_eq_zero.mpr fun tried =>
      absurd (ordered.behind e.number tried e front) (Nat.lt_irrefl _)
  have attempt {a : Nat} (member : a ∈ st.attempts ++ [e.number]) :
      a ∈ st.attempts ∨ a = e.number :=
    (List.mem_append.mp member).imp_right List.mem_singleton.mp
  refine ⟨?_, ?_, ?_, ?_, ?_, ?_, ?_, ?_, ?_, ?_, ?_, ordered.wrote, ?_, ?_⟩
  · have single := ordered.single
    unfold busy at single ⊢
    rw [idle] at single
    change st.inFlight + 1 = 1
    rw [single]
    rfl
  · rw [line]
    exact ordered.placed
  · rw [line]
    exact ordered.sorted
  · exact fun other member => ordered.whole other (queue ▸ List.mem_cons_of_mem _ member)
  · refine List.pairwise_append.mpr ⟨ordered.given, List.pairwise_singleton _ _, ?_⟩
    intro a tried b new
    rw [List.mem_singleton.mp new]
    exact Nat.le_of_lt (ordered.behind a tried e front)
  · intro a member other later
    rcases attempt member with tried | rfl
    · exact ordered.behind a tried other (queue ▸ List.mem_cons_of_mem _ later)
    · exact first other later
  · intro a member other current
    cases current
    rcases attempt member with tried | rfl
    · exact Nat.le_of_lt (ordered.behind a tried e front)
    · exact Nat.le_refl _
  · intro a member
    rcases attempt member with tried | rfl
    · exact ordered.known a tried
    · exact (ordered.placed e inLine).2
  · intro a
    change (st.attempts ++ [e.number]).count a ≤ kWriteRetryLimit + 1
    rw [List.count_append, List.count_singleton]
    by_cases same : e.number = a
    · rw [← same, fresh]
      simp [kWriteRetryLimit]
    · have bound := ordered.tries a
      simpa [same] using bound
  · intro other current
    cases current
    change (st.attempts ++ [e.number]).count e.number + e.retriesLeft = _
    rw [List.count_append, fresh, List.count_singleton_self, ordered.whole e front]
    omega
  · intro other current
    cases current
    exact List.mem_append_right _ List.mem_cons_self
  · rw [line]
    exact ordered.before
  · exact fun x wrote => List.mem_append_left _ (ordered.tried x wrote)

theorem again (ordered : Ordered submitted q st) {e : WriteEntry} (current : st.current = some e)
    (retries : 0 < e.retriesLeft) : Ordered submitted q (st.again e) := by
  have member : e ∈ st.current := by rw [current]; rfl
  have inLine : e ∈ st.line := by
    unfold line
    rw [current]
    exact List.mem_cons_self
  have numbers : (st.again e).line.map WriteEntry.number = st.line.map WriteEntry.number := by
    unfold line
    rw [current]
    rfl
  have entries : ∀ other ∈ (st.again e).line, ∃ same ∈ st.line,
      same.number = other.number ∧ same.queue = other.queue := by
    intro other inside
    rcases List.mem_cons.mp inside with rfl | later
    · exact ⟨e, inLine, rfl, rfl⟩
    · exact ⟨other, List.mem_append_right _ later, rfl, rfl⟩
  have left := ordered.left e member
  have attempt {a : Nat} (inside : a ∈ st.attempts ++ [e.number]) :
      a ∈ st.attempts ∨ a = e.number :=
    (List.mem_append.mp inside).imp_right List.mem_singleton.mp
  have first : ∀ other ∈ st.queue, e.number < other.number := by
    have sorted := ordered.sorted
    unfold line at sorted
    rw [current] at sorted
    intro other later
    exact (List.pairwise_cons.mp sorted).1 other.number (List.mem_map_of_mem later)
  refine ⟨?_, ?_, ?_, ordered.whole, ?_, ?_, ?_, ?_, ?_, ?_, ?_, ordered.wrote, ?_, ?_⟩
  · have single := ordered.single
    unfold busy at single ⊢
    rw [current] at single
    exact single
  · intro other inside
    obtain ⟨same, kept, number, queue⟩ := entries other inside
    rw [← number, ← queue]
    exact ordered.placed same kept
  · rw [numbers]
    exact ordered.sorted
  · refine List.pairwise_append.mpr ⟨ordered.given, List.pairwise_singleton _ _, ?_⟩
    intro a tried b new
    rw [List.mem_singleton.mp new]
    exact ordered.upTo a tried e member
  · intro a inside other later
    rcases attempt inside with tried | rfl
    · exact ordered.behind a tried other later
    · exact first other later
  · intro a inside other inCurrent
    cases inCurrent
    rcases attempt inside with tried | rfl
    · exact ordered.upTo a tried e member
    · exact Nat.le_refl _
  · intro a inside
    rcases attempt inside with tried | rfl
    · exact ordered.known a tried
    · exact (ordered.placed e inLine).2
  · intro a
    change (st.attempts ++ [e.number]).count a ≤ kWriteRetryLimit + 1
    rw [List.count_append, List.count_singleton]
    by_cases same : e.number = a
    · rw [← same]
      simp only [beq_self_eq_true, if_true]
      omega
    · have bound := ordered.tries a
      simpa [same] using bound
  · intro other inCurrent
    cases inCurrent
    change (st.attempts ++ [e.number]).count e.number + (e.retriesLeft - 1) = _
    rw [List.count_append, List.count_singleton_self]
    omega
  · intro other inCurrent
    cases inCurrent
    exact List.mem_append_right _ List.mem_cons_self
  · intro x wrote other inside
    obtain ⟨same, kept, number, _⟩ := entries other inside
    rw [← number]
    exact ordered.before x wrote same kept
  · exact fun x wrote => List.mem_append_left _ (ordered.tried x wrote)

theorem line_current {e : WriteEntry} (current : st.current = some e) :
    st.line = e :: st.queue := by
  unfold line
  rw [current]
  rfl

theorem finish (ordered : Ordered submitted q st) {e : WriteEntry} (current : st.current = some e)
    (wrote : Bool) : Ordered submitted q (st.finish e wrote) := by
  have line := line_current current
  have member : e ∈ st.current := by rw [current]; rfl
  have behind {other : WriteEntry} (inside : other ∈ st.queue) : other ∈ st.line :=
    List.mem_append_right _ inside
  have inLine : e ∈ st.line := by
    rw [line]
    exact List.mem_cons_self
  have sorted := ordered.sorted
  rw [line] at sorted
  obtain ⟨first, rest⟩ := List.pairwise_cons.mp sorted
  have written {x : Nat} (inside : x ∈ (st.finish e wrote).written) :
      x ∈ st.written ∨ x = e.number := by
    cases wrote with
    | false => exact Or.inl inside
    | true => exact (List.mem_append.mp inside).imp_right List.mem_singleton.mp
  have idle (other : WriteEntry) : other ∉ (st.finish e wrote).current := Option.not_mem_none other
  refine ⟨?_, fun other inside => ordered.placed other (behind inside), rest, ordered.whole,
    ordered.given, ordered.behind, fun _ _ other some_ => absurd some_ (idle other),
    ordered.known, ordered.tries, fun other some_ => absurd some_ (idle other),
    fun other some_ => absurd some_ (idle other), ?_, ?_, ?_⟩
  · have single := ordered.single
    unfold busy at single
    rw [current] at single
    change st.inFlight - 1 = 0
    rw [single]
    rfl
  · cases wrote with
    | false => exact ordered.wrote
    | true =>
        refine List.pairwise_append.mpr ⟨ordered.wrote, List.pairwise_singleton _ _, ?_⟩
        intro x old y new
        rw [List.mem_singleton.mp new]
        exact ordered.before x old e inLine
  · intro x inside other later
    rcases written inside with old | rfl
    · exact ordered.before x old other (behind later)
    · exact first other.number (List.mem_map_of_mem later)
  · intro x inside
    rcases written inside with old | rfl
    · exact ordered.tried x old
    · exact ordered.started e member

theorem skip (ordered : Ordered submitted q st) {e : WriteEntry} {rest : List WriteEntry}
    (queue : st.queue = e :: rest) : Ordered submitted q (st.skip rest) := by
  have fewer : (st.skip rest).line.Sublist st.line := by
    unfold line
    rw [queue]
    exact (List.sublist_cons_self e rest).append_left _
  have inQueue {other : WriteEntry} (member : other ∈ rest) : other ∈ st.queue :=
    queue ▸ List.mem_cons_of_mem e member
  exact ⟨ordered.single, fun other member => ordered.placed other (fewer.subset member),
    ordered.sorted.sublist (fewer.map _), fun other member => ordered.whole other (inQueue member),
    ordered.given, fun a tried other member => ordered.behind a tried other (inQueue member),
    ordered.upTo, ordered.known, ordered.tries, ordered.left, ordered.started, ordered.wrote,
    fun x wrote other member => ordered.before x wrote other (fewer.subset member), ordered.tried⟩

end Ordered

end QueueState

/-! The writer. -/

/-- Sums along the queues when one of them changes. -/
theorem sum_replace {β M : Type*} [AddCommMonoid M] {n q : Nat} (inside : q < n) (states : Nat → β)
    (weight : β → M) (st : β) :
    (∑ i ∈ Finset.range n, weight (Function.update states q st i)) + weight (states q) =
      (∑ i ∈ Finset.range n, weight (states i)) + weight st := by
  have member : q ∈ Finset.range n := Finset.mem_range.mpr inside
  rw [← Finset.sum_erase_add _ _ member, ← Finset.sum_erase_add _ _ member, Function.update_self]
  have others : ∑ i ∈ (Finset.range n).erase q, weight (Function.update states q st i) =
      ∑ i ∈ (Finset.range n).erase q, weight (states i) :=
    Finset.sum_congr rfl fun i member =>
      congrArg weight (Function.update_of_ne (Finset.ne_of_mem_erase member) st states)
  rw [others, add_right_comm]

/-- What is known of a packet whose handler is to be called. -/
def WriteEntry.key (e : WriteEntry) : Option (Nat × HandlerId) :=
  e.handler.map fun handler => (e.number, handler)

def PacketCompletion.key (completion : PacketCompletion) : Nat × HandlerId :=
  (completion.number, completion.handler)

def QueueState.keys (st : QueueState) : Multiset (Nat × HandlerId) :=
  (st.line.filterMap WriteEntry.key : List (Nat × HandlerId))

namespace QueueWriter

/-- The packets in the queues. -/
def queued (w : QueueWriter) : Nat := ∑ q ∈ Finset.range w.slots, (w.states q).queue.length

/-- The queues with a current packet. -/
def writing (w : QueueWriter) : Nat := ∑ q ∈ Finset.range w.slots, (w.states q).busy

/-- The handlers that wait for their packets. -/
def waiting (w : QueueWriter) : Multiset (Nat × HandlerId) :=
  ∑ q ∈ Finset.range w.slots, (w.states q).keys

structure Conserving (w : QueueWriter) : Prop where
  ordered : ∀ q, (w.states q).Ordered w.submitted q
  outside : ∀ q, w.slots ≤ q → w.states q = {}
  total : w.queuedTotal = w.queued
  capped : w.queuedTotal ≤ kQueueMaxEntries
  counted : w.submitted = w.txPackets + w.txDropped + w.queuedTotal + w.writing
  handlers : (w.completions.map PacketCompletion.key : Multiset (Nat × HandlerId)) + w.waiting =
    (w.registered : Multiset (Nat × HandlerId))
  numbers : (w.registered.map Prod.fst).Pairwise (· < ·)
  known : ∀ entry ∈ w.registered, entry.1 < w.submitted
  honest : ∀ completion ∈ w.completions, completion.ec = .success →
    ∃ q, completion.number ∈ (w.states q).written

variable {w : QueueWriter}

theorem Conserving.fresh (queueCount : Nat) : Conserving (fresh queueCount) := by
  have queued : (QueueWriter.fresh queueCount).queued = 0 := Finset.sum_eq_zero fun _ _ => rfl
  have writing : (QueueWriter.fresh queueCount).writing = 0 := Finset.sum_eq_zero fun _ _ => rfl
  have waiting : (QueueWriter.fresh queueCount).waiting = 0 := Finset.sum_eq_zero fun _ _ => rfl
  refine ⟨fun q => QueueState.Ordered.empty, fun _ _ => rfl, queued.symm, Nat.zero_le _, ?_, ?_,
    List.Pairwise.nil, ?_, ?_⟩
  · rw [writing]
    rfl
  · rw [waiting]
    rfl
  · exact fun _ member => absurd member List.not_mem_nil
  · exact fun _ member => absurd member List.not_mem_nil

theorem pick_slot (w : QueueWriter) (p : List UInt8) : pickTxQueue p w.queueCount < w.slots := by
  unfold slots
  rcases Nat.eq_zero_or_pos w.queueCount with none | some_
  · rw [none]
    exact Nat.lt_of_lt_of_le Nat.zero_lt_one (Nat.le_max_left 1 0)
  · exact Nat.lt_of_lt_of_le (pickTxQueue_lt p w.queueCount some_) (Nat.le_max_right 1 _)

/-- A queue with something in it is one of the device's. -/
theorem Conserving.slot (conserving : Conserving w) {q : Nat} (used : w.states q ≠ {}) :
    q < w.slots := by
  by_contra beyond
  exact used (conserving.outside q (Nat.not_lt.mp beyond))

/-- The state of a queue is replaced; the rest of the writer is as given. -/
theorem Conserving.change (conserving : Conserving w) {after : QueueWriter} {q : Nat}
    {st : QueueState} (inside : q < w.slots) (states : after.states = Function.update w.states q st)
    (count : after.queueCount = w.queueCount) (more : w.submitted ≤ after.submitted)
    (ordered : st.Ordered after.submitted q)
    (total : after.queuedTotal + (w.states q).queue.length = w.queuedTotal + st.queue.length)
    (capped : after.queuedTotal ≤ kQueueMaxEntries)
    (counted : after.submitted + w.txPackets + w.txDropped + w.queuedTotal + (w.states q).busy =
      w.submitted + after.txPackets + after.txDropped + after.queuedTotal + st.busy)
    (handlers : (after.completions.map PacketCompletion.key : Multiset (Nat × HandlerId)) +
        st.keys + w.registered =
      (w.completions.map PacketCompletion.key : Multiset (Nat × HandlerId)) +
        (w.states q).keys + after.registered)
    (numbers : (after.registered.map Prod.fst).Pairwise (· < ·))
    (known : ∀ entry ∈ after.registered, entry.1 < after.submitted)
    (wrote : ∀ x ∈ (w.states q).written, x ∈ st.written)
    (honest : ∀ completion ∈ after.completions, completion.ec = .success →
      completion ∈ w.completions ∨ completion.number ∈ st.written) : Conserving after := by
  have slots : after.slots = w.slots := by
    unfold QueueWriter.slots
    rw [count]
  have elsewhere {other : Nat} (apart : other ≠ q) : after.states other = w.states other := by
    rw [states]
    exact Function.update_of_ne apart st w.states
  have here : after.states q = st := by
    rw [states]
    exact Function.update_self q st w.states
  have queued : after.queued + (w.states q).queue.length = w.queued + st.queue.length := by
    unfold QueueWriter.queued
    rw [slots, states]
    exact sum_replace inside w.states (fun st => st.queue.length) st
  have writing : after.writing + (w.states q).busy = w.writing + st.busy := by
    unfold QueueWriter.writing
    rw [slots, states]
    exact sum_replace inside w.states QueueState.busy st
  have waiting : after.waiting + (w.states q).keys = w.waiting + st.keys := by
    unfold QueueWriter.waiting
    rw [slots, states]
    exact sum_replace inside w.states QueueState.keys st
  have oldTotal := conserving.total
  have oldCount := conserving.counted
  refine ⟨?_, ?_, ?_, capped, ?_, ?_, numbers, known, ?_⟩
  · intro other
    by_cases same : other = q
    · rw [same, here]
      exact ordered
    · rw [elsewhere same]
      exact (conserving.ordered other).later more
  · intro other beyond
    rw [slots] at beyond
    have apart : other ≠ q := fun same => by omega
    rw [elsewhere apart]
    exact conserving.outside other beyond
  · omega
  · omega
  · have old := conserving.handlers
    have sums : ((after.completions.map PacketCompletion.key : Multiset (Nat × HandlerId)) +
        after.waiting) + ((w.states q).keys + w.registered) =
          (after.registered : Multiset (Nat × HandlerId)) + ((w.states q).keys + w.registered) := by
      generalize (after.completions.map PacketCompletion.key : Multiset (Nat × HandlerId)) = called
        at handlers ⊢
      generalize (w.completions.map PacketCompletion.key : Multiset (Nat × HandlerId)) = before
        at handlers old
      generalize (after.registered : Multiset (Nat × HandlerId)) = registered at handlers ⊢
      calc called + after.waiting + ((w.states q).keys + w.registered)
          = called + (after.waiting + (w.states q).keys) + w.registered := by abel
        _ = (called + st.keys + w.registered) + w.waiting := by
            rw [waiting]
            abel
        _ = registered + ((w.states q).keys + (before + w.waiting)) := by
            rw [handlers]
            abel
        _ = registered + ((w.states q).keys + w.registered) := by rw [old]
    exact add_right_cancel sums
  · intro completion member succeeded
    rcases honest completion member succeeded with old | new
    · obtain ⟨other, wrote'⟩ := conserving.honest completion old succeeded
      refine ⟨other, ?_⟩
      by_cases same : other = q
      · subst same
        rw [here]
        exact wrote _ wrote'
      · rwa [elsewhere same]
    · exact ⟨q, here ▸ new⟩

/-- Only counters and handlers change. -/
theorem Conserving.aside (conserving : Conserving w) {after : QueueWriter}
    (states : after.states = w.states) (count : after.queueCount = w.queueCount)
    (more : w.submitted ≤ after.submitted) (total : after.queuedTotal = w.queuedTotal)
    (counted : after.submitted + w.txPackets + w.txDropped =
      w.submitted + after.txPackets + after.txDropped)
    (handlers : (after.completions.map PacketCompletion.key : Multiset (Nat × HandlerId)) +
        w.registered =
      (w.completions.map PacketCompletion.key : Multiset (Nat × HandlerId)) + after.registered)
    (numbers : (after.registered.map Prod.fst).Pairwise (· < ·))
    (known : ∀ entry ∈ after.registered, entry.1 < after.submitted)
    (honest : ∀ completion ∈ after.completions, completion.ec = .success →
      completion ∈ w.completions) : Conserving after := by
  have kept : after.states = Function.update w.states 0 (w.states 0) := by
    rw [states, Function.update_eq_self]
  refine conserving.change (Nat.lt_of_lt_of_le Nat.zero_lt_one (Nat.le_max_left 1 _)) kept count
    more ?_ ?_ ?_ ?_ ?_ numbers known (fun _ wrote => wrote) fun completion member succeeded =>
      Or.inl (honest completion member succeeded)
  · exact (conserving.ordered 0).later more
  · rw [total]
  · rw [total]
    exact conserving.capped
  · omega
  · rw [add_right_comm, handlers, add_right_comm]

/-- The numbers of handlers with a new one. -/
theorem Conserving.register_numbers (conserving : Conserving w) (handler : Option HandlerId) :
    ((w.register handler).registered.map Prod.fst).Pairwise (· < ·) ∧
      ∀ entry ∈ (w.register handler).registered, entry.1 < w.submitted + 1 := by
  unfold register
  cases handler with
  | none =>
      simp only [Option.map_none, Option.toList_none, List.append_nil]
      exact ⟨conserving.numbers, fun entry member => Nat.lt_succ_of_lt (conserving.known entry member)⟩
  | some handler =>
      simp only [Option.map_some, Option.toList_some, List.map_append, List.map_cons, List.map_nil]
      refine ⟨List.pairwise_append.mpr ⟨conserving.numbers, List.pairwise_singleton _ _, ?_⟩, ?_⟩
      · intro number old other new
        obtain ⟨entry, member, rfl⟩ := List.mem_map.mp old
        rw [List.mem_singleton.mp new]
        exact conserving.known entry member
      · intro entry member
        rcases List.mem_append.mp member with old | new
        · exact Nat.lt_succ_of_lt (conserving.known entry old)
        · rw [List.mem_singleton.mp new]
          exact Nat.lt_succ_self _

theorem keys_push (st : QueueState) (e : WriteEntry) :
    (st.push e).keys = st.keys + (e.key.toList : Multiset (Nat × HandlerId)) := by
  unfold QueueState.keys
  rw [QueueState.Ordered.line_push, List.filterMap_append, ← Multiset.coe_add]
  congr 2

/-- A packet is refused. -/
theorem Conserving.refuse (conserving : Conserving w) :
    Conserving { w.register none with txDropped := w.txDropped + 1 } := by
  obtain ⟨numbers, known⟩ := conserving.register_numbers none
  refine conserving.aside rfl rfl (Nat.le_succ _) rfl ?_ ?_ numbers known fun _ member _ => member
  · change w.submitted + 1 + w.txPackets + w.txDropped = w.submitted + w.txPackets + (w.txDropped + 1)
    omega
  · simp [register]

theorem Conserving.refuseHandler (conserving : Conserving w) (handler : HandlerId) {err : IoCode}
    (failed : err ≠ .success) :
    Conserving { w.register (some handler) with
      txDropped := w.txDropped + 1
      completions := w.completions ++
        [{ number := w.submitted, handler := handler, ec := err, n := 0 }] } := by
  obtain ⟨numbers, known⟩ := conserving.register_numbers (some handler)
  refine conserving.aside rfl rfl (Nat.le_succ _) rfl ?_ ?_ numbers known ?_
  · change w.submitted + 1 + w.txPackets + w.txDropped = w.submitted + w.txPackets + (w.txDropped + 1)
    omega
  · simp only [register, List.map_append, ← Multiset.coe_add, Option.map_some, Option.toList_some]
    rw [add_right_comm, add_assoc]
    rfl
  · intro completion member succeeded
    rcases List.mem_append.mp member with old | new
    · exact old
    · rw [List.mem_singleton.mp new] at succeeded
      exact absurd succeeded failed

/-- The packet at the end of its queue, before the queue is pumped. -/
def accepted (w : QueueWriter) (buf : PacketBuffer) (handler : Option HandlerId) : QueueWriter :=
  let q := pickTxQueue buf.bytes w.queueCount
  { (w.register handler).put q ((w.states q).push
      { buf := buf, handler := handler, queue := q, number := w.submitted }) with
    queuedTotal := w.queuedTotal + 1 }

theorem Conserving.accepted (conserving : Conserving w) (buf : PacketBuffer)
    (handler : Option HandlerId) (room : w.queuedTotal < kQueueMaxEntries) :
    Conserving (w.accepted buf handler) := by
  obtain ⟨numbers, known⟩ := conserving.register_numbers handler
  refine conserving.change (w.pick_slot buf.bytes) rfl rfl (Nat.le_succ _)
    ((conserving.ordered _).push rfl rfl rfl) ?_ room ?_ ?_ numbers known (fun _ wrote => wrote)
    fun _ member _ => Or.inl member
  · change w.queuedTotal + 1 + _ = w.queuedTotal + (_ ++ [_]).length
    rw [List.length_append, List.length_singleton]
    omega
  · change w.submitted + 1 + w.txPackets + w.txDropped + w.queuedTotal + QueueState.busy _ =
      w.submitted + w.txPackets + w.txDropped + (w.queuedTotal + 1) + QueueState.busy _
    have same (st : QueueState) (e : WriteEntry) : (st.push e).busy = st.busy := rfl
    rw [same]
    omega
  · rw [keys_push]
    have registered : ((w.accepted buf handler).registered : Multiset (Nat × HandlerId)) =
        w.registered + ((handler.map fun handler => (w.submitted, handler)).toList :
          List (Nat × HandlerId)) := (Multiset.coe_add _ _).symm
    have swap (called keys own old : Multiset (Nat × HandlerId)) :
        called + (keys + own) + old = called + keys + (old + own) := by abel
    rw [registered]
    exact swap _ _ _ _

/-! Pumping, retrying, finishing and cancelling. -/

/-- The packet in front of a queue goes to the device. -/
def promoted (w : QueueWriter) (q : Nat) (e : WriteEntry) (rest : List WriteEntry) : QueueWriter :=
  { w.put q ((w.states q).launch e rest) with queuedTotal := sizeSub w.queuedTotal 1 }

theorem pump_cases (w : QueueWriter) (q : Nat) :
    w.pump q = w ∨ ∃ e rest, w.cancelled = false ∧ (w.states q).current = none ∧
      (w.states q).queue = e :: rest ∧ w.pump q = w.promoted q e rest := by
  unfold pump
  dsimp only
  split
  · exact Or.inl rfl
  · rename_i ready
    obtain ⟨live, idle⟩ := not_or.mp ready
    split
    · exact Or.inl rfl
    · rename_i e rest queue
      refine Or.inr ⟨e, rest, Bool.eq_false_of_not_eq_true live, ?_, queue, ?_⟩
      · exact Option.not_isSome_iff_eq_none.mp idle
      · unfold startWrite promoted put
        simp only [Function.update_self, Function.update_idem]
        rfl

/-- Taking a packet from a queue does not wrap the number of queued packets. -/
theorem Conserving.one_less (conserving : Conserving w) {q : Nat} {e : WriteEntry}
    {rest : List WriteEntry} (queue : (w.states q).queue = e :: rest) :
    q < w.slots ∧ sizeSub w.queuedTotal 1 + 1 = w.queuedTotal ∧
      sizeSub w.queuedTotal 1 + (w.states q).queue.length = w.queuedTotal + rest.length := by
  have inside : q < w.slots := conserving.slot fun empty => by simp [empty] at queue
  have lengths : (w.states q).queue.length = rest.length + 1 := by rw [queue, List.length_cons]
  have least : (w.states q).queue.length ≤ w.queued :=
    Finset.single_le_sum (f := fun q => (w.states q).queue.length) (fun _ _ => Nat.zero_le _)
      (Finset.mem_range.mpr inside)
  have total := conserving.total
  have less : sizeSub w.queuedTotal 1 = w.queuedTotal - 1 := by
    unfold sizeSub
    exact if_pos (by omega)
  exact ⟨inside, by omega, by omega⟩

theorem Conserving.pump (conserving : Conserving w) (q : Nat) : Conserving (w.pump q) := by
  rcases pump_cases w q with same | ⟨e, rest, _, idle, queue, same⟩
  · rwa [same]
  · rw [same]
    obtain ⟨inside, less, total⟩ := conserving.one_less queue
    have capped := conserving.capped
    refine conserving.change inside rfl rfl (Nat.le_refl _) ((conserving.ordered q).launch idle queue)
      total ?_ ?_ ?_ conserving.numbers conserving.known (fun _ wrote => wrote)
      fun _ member _ => Or.inl member
    · change sizeSub w.queuedTotal 1 ≤ kQueueMaxEntries
      omega
    · have before : (w.states q).busy = 0 := by
        unfold QueueState.busy
        rw [idle]
        rfl
      change w.submitted + w.txPackets + w.txDropped + w.queuedTotal + (w.states q).busy =
        w.submitted + w.txPackets + w.txDropped + sizeSub w.queuedTotal 1 + 1
      omega
    · have same : ((w.states q).launch e rest).keys = (w.states q).keys := by
        unfold QueueState.keys
        rw [QueueState.Ordered.line_launch _ idle queue]
      rw [same]
      rfl

theorem completeWrite_eq (w : QueueWriter) (e : WriteEntry) (ec : IoCode) (n : Nat) :
    w.completeWrite e ec n = { w with completions := w.completions ++
      (e.handler.map fun handler => ({ number := e.number, handler := handler, ec := ec, n := n } :
        PacketCompletion)).toList } := by
  unfold completeWrite
  cases e.handler with
  | none => simp
  | some handler => rfl

theorem recycle_eq (w : QueueWriter) (buf : PacketBuffer) :
    ∃ pool, w.recycle buf = { w with pool := pool } := by
  unfold recycle
  split
  · exact ⟨_, rfl⟩
  · exact ⟨w.pool, rfl⟩

theorem completion_keys (e : WriteEntry) (ec : IoCode) (n : Nat) :
    ((e.handler.map fun handler => ({ number := e.number, handler := handler, ec := ec, n := n } :
      PacketCompletion)).toList.map PacketCompletion.key) = e.key.toList := by
  unfold WriteEntry.key
  cases e.handler <;> rfl

/-- The handler of a packet that leaves its queue is called. -/
theorem keys_leave {st after : QueueState} {e : WriteEntry} (before behind : List WriteEntry)
    (line : st.line = before ++ e :: behind) (rest : after.line = before ++ behind) :
    st.keys = after.keys + (e.key.toList : Multiset (Nat × HandlerId)) := by
  unfold QueueState.keys
  rw [line, rest, List.filterMap_append, List.filterMap_append, ← Multiset.coe_add,
    ← Multiset.coe_add]
  have front : ((List.filterMap WriteEntry.key (e :: behind) : List (Nat × HandlerId)) :
      Multiset (Nat × HandlerId)) =
        e.key.toList + (List.filterMap WriteEntry.key behind : List (Nat × HandlerId)) := by
    rw [Multiset.coe_add]
    cases shape : e.key <;> simp [shape]
  rw [front]
  abel

/-- A write that is over: the current packet of its queue is done with. -/
theorem Conserving.finished (conserving : Conserving w) {q : Nat} {e : WriteEntry}
    (current : (w.states q).current = some e) (ec : IoCode) {after : QueueWriter}
    (states : after.states = Function.update w.states q
      ((w.states q).finish e (decide (ec = .success))))
    (count : after.queueCount = w.queueCount) (total : after.queuedTotal = w.queuedTotal)
    (submitted : after.submitted = w.submitted) (registered : after.registered = w.registered)
    (counted : after.txPackets + after.txDropped = w.txPackets + w.txDropped + 1)
    (completions : ∃ err k, (err = .success → ec = .success) ∧ after.completions = w.completions ++
      (e.handler.map fun handler => ({ number := e.number, handler := handler, ec := err, n := k } :
        PacketCompletion)).toList) : Conserving after := by
  obtain ⟨err, k, honest, completions⟩ := completions
  have inside : q < w.slots := conserving.slot fun empty => by simp [empty] at current
  have line := QueueState.Ordered.line_current current
  have keys : (w.states q).keys = ((w.states q).finish e (decide (ec = .success))).keys +
      (e.key.toList : Multiset (Nat × HandlerId)) := keys_leave [] _ line rfl
  refine conserving.change inside states count (Nat.le_of_eq submitted.symm) ?_ ?_ ?_ ?_ ?_ ?_ ?_
    ?_ ?_
  · rw [submitted]
    exact (conserving.ordered q).finish current _
  · rw [total]
    rfl
  · rw [total]
    exact conserving.capped
  · have busy : (w.states q).busy = 1 := by
      unfold QueueState.busy
      rw [current]
      rfl
    have idle : ((w.states q).finish e (decide (ec = .success))).busy = 0 := rfl
    omega
  · have swap (called own keys old : Multiset (Nat × HandlerId)) :
        called + own + keys + old = called + (keys + own) + old := by abel
    rw [registered, completions, List.map_append, completion_keys, ← Multiset.coe_add, keys]
    exact swap _ _ _ _
  · rw [registered]
    exact conserving.numbers
  · rw [registered, submitted]
    exact conserving.known
  · intro x wrote
    unfold QueueState.finish
    dsimp only
    split
    · exact List.mem_append_left _ wrote
    · exact wrote
  · intro completion member succeeded
    rw [completions] at member
    rcases List.mem_append.mp member with old | new
    · exact Or.inl old
    · right
      obtain ⟨handler, _, rfl⟩ := Option.map_eq_some_iff.mp (Option.mem_toList.mp new)
      unfold QueueState.finish
      dsimp only
      rw [decide_eq_true (honest succeeded), if_pos rfl]
      exact List.mem_append_right _ List.mem_cons_self

/-- The end of a write counts its packet once and calls its handler. -/
theorem finishWrite_spec (w : QueueWriter) (e : WriteEntry) (ec : IoCode) (n q : Nat) :
    (w.finishWrite e ec n q).states =
        Function.update w.states q { w.states q with current := none } ∧
      (w.finishWrite e ec n q).queueCount = w.queueCount ∧
      (w.finishWrite e ec n q).queuedTotal = w.queuedTotal ∧
      (w.finishWrite e ec n q).submitted = w.submitted ∧
      (w.finishWrite e ec n q).registered = w.registered ∧
      (w.finishWrite e ec n q).cancelled = w.cancelled ∧
      (w.finishWrite e ec n q).txPackets + (w.finishWrite e ec n q).txDropped =
        w.txPackets + w.txDropped + 1 ∧
      ∃ err k, (err = .success → ec = .success) ∧
        (w.finishWrite e ec n q).completions = w.completions ++
          (e.handler.map fun handler =>
            ({ number := e.number, handler := handler, ec := err, n := k } :
              PacketCompletion)).toList := by
  obtain ⟨counter, counterEq, counted⟩ : ∃ counter : QueueWriter,
      (if ec = .success then { w with txPackets := w.txPackets + 1 }
        else { w with txDropped := w.txDropped + 1 }) =
          { w with txPackets := counter.txPackets, txDropped := counter.txDropped } ∧
        counter.txPackets + counter.txDropped = w.txPackets + w.txDropped + 1 := by
    split
    · exact ⟨{ w with txPackets := w.txPackets + 1 }, rfl, Nat.add_right_comm _ _ _⟩
    · exact ⟨{ w with txDropped := w.txDropped + 1 }, rfl, rfl⟩
  unfold finishWrite
  rw [counterEq]
  dsimp only
  by_cases cancelled : w.cancelled = true
  · rw [if_pos cancelled, completeWrite_eq]
    obtain ⟨pool, recycled⟩ := recycle_eq _ e.buf
    rw [recycled]
    exact ⟨rfl, rfl, rfl, rfl, rfl, rfl, counted, .operationAborted, 0, nofun, rfl⟩
  · rw [if_neg cancelled, completeWrite_eq]
    obtain ⟨pool, recycled⟩ := recycle_eq _ e.buf
    rw [recycled]
    exact ⟨rfl, rfl, rfl, rfl, rfl, rfl, counted, ec, n, id, rfl⟩

/-- What the completion of a write does: nothing, another attempt, or the end of the packet. -/
theorem deviceDone_cases (w : QueueWriter) (q : Nat) (ec : IoCode) (n : Nat) :
    w.deviceDone q ec n = w ∨ ∃ e, (w.states q).current = some e ∧
      ((w.cancelled = false ∧ 0 < e.retriesLeft ∧
          w.deviceDone q ec n = w.put q ((w.states q).again e)) ∨
        ∃ after : QueueWriter, w.deviceDone q ec n = after.pump q ∧
          after.states = Function.update w.states q
            ((w.states q).finish e (decide (ec = .success))) ∧
          after.queueCount = w.queueCount ∧ after.queuedTotal = w.queuedTotal ∧
          after.submitted = w.submitted ∧ after.registered = w.registered ∧
          after.cancelled = w.cancelled ∧
          after.txPackets + after.txDropped = w.txPackets + w.txDropped + 1 ∧
          ∃ err k, (err = .success → ec = .success) ∧ after.completions = w.completions ++
            (e.handler.map fun handler =>
              ({ number := e.number, handler := handler, ec := err, n := k } :
                PacketCompletion)).toList) := by
  unfold deviceDone
  dsimp only
  split
  · rename_i inFlight e flying current
    refine Or.inr ⟨e, current, ?_⟩
    unfold onWriteDone
    simp only [put, Function.update_self, current]
    split
    · rename_i retries
      obtain ⟨live, transient, left⟩ := retries
      have failed : ec ≠ .success := by
        rintro rfl
        cases transient
      refine Or.inl ⟨Bool.eq_false_of_not_eq_true live, left, ?_⟩
      unfold startWrite
      simp only [put, Function.update_self, Function.update_idem, if_neg failed]
      unfold QueueState.again
      rw [flying]
    · refine Or.inr ⟨_, rfl, ?_⟩
      obtain ⟨states, count, total, submitted, registered, cancelled, counted, completions⟩ :=
        finishWrite_spec (w.put q { w.states q with
          inFlight := inFlight
          written := if ec = .success then (w.states q).written ++ [e.number]
            else (w.states q).written }) e ec n q
      simp only [put, current] at states count total submitted registered cancelled counted completions
      refine ⟨?_, count, total, submitted, registered, cancelled, counted, completions⟩
      rw [states, Function.update_self, Function.update_idem]
      unfold QueueState.finish
      rw [flying]
      by_cases success : ec = .success <;> simp [success]
  · exact Or.inl rfl

theorem Conserving.again (conserving : Conserving w) {q : Nat} {e : WriteEntry}
    (current : (w.states q).current = some e) (retries : 0 < e.retriesLeft) :
    Conserving (w.put q ((w.states q).again e)) := by
  have inside : q < w.slots := conserving.slot fun empty => by simp [empty] at current
  have busy : ((w.states q).again e).busy = (w.states q).busy := by
    unfold QueueState.busy
    rw [current]
    rfl
  have keys : ((w.states q).again e).keys = (w.states q).keys := by
    unfold QueueState.keys QueueState.line
    rw [current]
    rfl
  refine conserving.change inside rfl rfl (Nat.le_refl _)
    ((conserving.ordered q).again current retries) rfl conserving.capped ?_ ?_ conserving.numbers
    conserving.known (fun _ wrote => wrote) fun _ member _ => Or.inl member
  · rw [busy]
    rfl
  · rw [keys]
    rfl

theorem Conserving.deviceDone (conserving : Conserving w) (q : Nat) (ec : IoCode) (n : Nat) :
    Conserving (w.deviceDone q ec n) := by
  rcases deviceDone_cases w q ec n with same | ⟨e, current, ⟨_, retries, same⟩ |
    ⟨after, same, states, count, total, submitted, registered, _, counted, completions⟩⟩
  · rwa [same]
  · rw [same]
    exact conserving.again current retries
  · rw [same]
    exact (conserving.finished current ec states count total submitted registered counted
      completions).pump q

theorem enqueue_eq (w : QueueWriter) (buf : PacketBuffer) (handler : Option HandlerId) :
    (w.register handler).enqueue w.submitted buf handler =
      (w.accepted buf handler).pump (pickTxQueue buf.bytes w.queueCount) := rfl

/-- A packet without a handler is refused, or put on its queue. -/
theorem asyncWriteAndForget_cases (w : QueueWriter) (buf : PacketBuffer) :
    w.asyncWriteAndForget buf = { w.register none with txDropped := w.txDropped + 1 } ∨
      w.cancelled = false ∧ w.queuedTotal < kQueueMaxEntries ∧ w.asyncWriteAndForget buf =
        (w.accepted buf none).pump (pickTxQueue buf.bytes w.queueCount) := by
  unfold asyncWriteAndForget
  dsimp only
  split
  · exact Or.inl rfl
  · rename_i open_
    obtain ⟨live, room⟩ := not_or.mp open_
    exact Or.inr ⟨Bool.eq_false_of_not_eq_true live, Nat.not_le.mp room, enqueue_eq w buf none⟩

theorem asyncWrite_cases (w : QueueWriter) (buf : PacketBuffer) (handler : HandlerId) :
    (∃ err, err ≠ .success ∧ w.asyncWrite buf handler = { w.register (some handler) with
        txDropped := w.txDropped + 1
        completions := w.completions ++
          [{ number := w.submitted, handler := handler, ec := err, n := 0 }] }) ∨
      w.cancelled = false ∧ w.queuedTotal < kQueueMaxEntries ∧ w.asyncWrite buf handler =
        (w.accepted buf (some handler)).pump (pickTxQueue buf.bytes w.queueCount) := by
  unfold asyncWrite
  dsimp only
  split
  · refine Or.inl ⟨_, ?_, rfl⟩
    split <;> nofun
  · rename_i open_
    obtain ⟨live, room⟩ := not_or.mp open_
    exact Or.inr ⟨Bool.eq_false_of_not_eq_true live, Nat.not_le.mp room,
      enqueue_eq w buf (some handler)⟩

theorem Conserving.asyncWriteAndForget (conserving : Conserving w) (buf : PacketBuffer) :
    Conserving (w.asyncWriteAndForget buf) := by
  rcases asyncWriteAndForget_cases w buf with refused | ⟨_, room, accepted⟩
  · rw [refused]
    exact conserving.refuse
  · rw [accepted]
    exact (conserving.accepted buf none room).pump _

theorem Conserving.asyncWrite (conserving : Conserving w) (buf : PacketBuffer)
    (handler : HandlerId) : Conserving (w.asyncWrite buf handler) := by
  rcases asyncWrite_cases w buf handler with ⟨err, failed, refused⟩ | ⟨_, room, accepted⟩
  · rw [refused]
    exact conserving.refuseHandler handler failed
  · rw [accepted]
    exact (conserving.accepted buf (some handler) room).pump _

/-- What the loop of `cancel_all` keeps over one queue. -/
theorem cancelQueue_invariant (holds : QueueWriter → Prop) {q : Nat}
    (keeps : ∀ w e rest, holds w → (w.states q).queue = e :: rest →
      holds ((w.put q ((w.states q).skip rest)).cancelEntry e)) (fuel : Nat)
    (start : holds w) : holds (cancelQueue q fuel w) := by
  induction fuel generalizing w with
  | zero => exact start
  | succ fuel ih =>
      unfold cancelQueue
      dsimp only
      split
      · exact start
      · rename_i e rest queue
        exact ih (keeps w e rest start queue)

theorem cancelQueues_invariant (holds : QueueWriter → Prop)
    (keeps : ∀ w q e rest, holds w → (w.states q).queue = e :: rest →
      holds ((w.put q ((w.states q).skip rest)).cancelEntry e)) (qs : List Nat) (start : holds w) :
    holds (qs.foldl (fun w q => cancelQueue q (w.states q).queue.length w) w) := by
  induction qs generalizing w with
  | nil => exact start
  | cons q rest ih =>
      exact ih (cancelQueue_invariant holds (fun w => keeps w q) _ start)

theorem cancelAll_invariant (holds : QueueWriter → Prop)
    (keeps : ∀ w q e rest, holds w → (w.states q).queue = e :: rest →
      holds ((w.put q ((w.states q).skip rest)).cancelEntry e))
    (start : holds { w with cancelled := true }) : holds w.cancelAll :=
  cancelQueues_invariant holds keeps _ start

/-- A cancelled entry is counted, its buffer kept and its handler called. -/
theorem cancelEntry_spec (w : QueueWriter) (q : Nat) (e : WriteEntry) (rest : List WriteEntry) :
    ∃ pool, (w.put q ((w.states q).skip rest)).cancelEntry e = { w with
      states := Function.update w.states q ((w.states q).skip rest)
      pool := pool
      queuedTotal := sizeSub w.queuedTotal 1
      txDropped := w.txDropped + 1
      completions := w.completions ++ (e.handler.map fun handler =>
        ({ number := e.number, handler := handler, ec := .operationAborted, n := 0 } :
          PacketCompletion)).toList } := by
  unfold cancelEntry
  dsimp only
  obtain ⟨pool, recycled⟩ := recycle_eq { w.put q ((w.states q).skip rest) with
    queuedTotal := sizeSub w.queuedTotal 1
    txDropped := w.txDropped + 1 } e.buf
  refine ⟨pool, ?_⟩
  rw [completeWrite_eq]
  dsimp only [put] at recycled ⊢
  rw [recycled]

theorem Conserving.cancelEntry (conserving : Conserving w) {q : Nat} {e : WriteEntry}
    {rest : List WriteEntry} (queue : (w.states q).queue = e :: rest) :
    Conserving ((w.put q ((w.states q).skip rest)).cancelEntry e) := by
  obtain ⟨pool, same⟩ := cancelEntry_spec w q e rest
  obtain ⟨inside, less, total⟩ := conserving.one_less queue
  have capped := conserving.capped
  have keys : (w.states q).keys = ((w.states q).skip rest).keys +
      (e.key.toList : Multiset (Nat × HandlerId)) := by
    refine keys_leave (w.states q).current.toList rest ?_ rfl
    unfold QueueState.line
    rw [queue]
  rw [same]
  refine conserving.change inside rfl rfl (Nat.le_refl _) ((conserving.ordered q).skip queue)
    total ?_ ?_ ?_ conserving.numbers conserving.known (fun _ wrote => wrote) ?_
  · change sizeSub w.queuedTotal 1 ≤ kQueueMaxEntries
    omega
  · have busy : ((w.states q).skip rest).busy = (w.states q).busy := rfl
    rw [busy]
    change w.submitted + w.txPackets + w.txDropped + w.queuedTotal + _ =
      w.submitted + w.txPackets + (w.txDropped + 1) + sizeSub w.queuedTotal 1 + _
    omega
  · have swap (called own keys old : Multiset (Nat × HandlerId)) :
        called + own + keys + old = called + (keys + own) + old := by abel
    dsimp only
    rw [List.map_append, completion_keys, ← Multiset.coe_add, keys]
    exact swap _ _ _ _
  · intro completion member succeeded
    rcases List.mem_append.mp member with old | new
    · exact Or.inl old
    · obtain ⟨handler, _, rfl⟩ := Option.map_eq_some_iff.mp (Option.mem_toList.mp new)
      cases succeeded

theorem Conserving.cancelAll (conserving : Conserving w) : Conserving w.cancelAll := by
  refine cancelAll_invariant Conserving (fun _ _ _ _ holds queue => holds.cancelEntry queue) ?_
  exact ⟨conserving.ordered, conserving.outside, conserving.total, conserving.capped,
    conserving.counted, conserving.handlers, conserving.numbers, conserving.known,
    conserving.honest⟩

theorem Conserving.step (conserving : Conserving w) (event : WriterEvent) :
    Conserving (w.step event) := by
  cases event with
  | asyncWriteAndForget buf => exact conserving.asyncWriteAndForget buf
  | asyncWrite buf handler => exact conserving.asyncWrite buf handler
  | deviceDone q ec n => exact conserving.deviceDone q ec n
  | cancelAll => exact conserving.cancelAll

theorem Conserving.run (conserving : Conserving w) (events : List WriterEvent) :
    Conserving (w.run events) := by
  induction events generalizing w with
  | nil => exact conserving
  | cons event rest ih => exact ih (conserving.step event)

/-! A writer that was cancelled gives the device nothing. -/

/-- On the way from one state to another the device was given no packet, and the queues got
none. -/
def Withheld (w after : QueueWriter) : Prop :=
  ∀ q, (after.states q).attempts = (w.states q).attempts ∧
    (after.states q).queue <:+ (w.states q).queue

theorem Withheld.same {after : QueueWriter} (states : after.states = w.states) :
    Withheld w after := fun q => by
  rw [states]
  exact ⟨rfl, List.suffix_refl _⟩

theorem Withheld.trans {middle after : QueueWriter} (first : Withheld w middle)
    (second : Withheld middle after) : Withheld w after := fun q =>
  ⟨(second q).1.trans (first q).1, (second q).2.trans (first q).2⟩

theorem Withheld.put {q : Nat} {st : QueueState} {after : QueueWriter}
    (states : after.states = Function.update w.states q st)
    (attempts : st.attempts = (w.states q).attempts) (queue : st.queue <:+ (w.states q).queue) :
    Withheld w after := by
  intro other
  rw [states]
  by_cases same : other = q
  · rw [same, Function.update_self]
    exact ⟨attempts, queue⟩
  · rw [Function.update_of_ne same]
    exact ⟨rfl, List.suffix_refl _⟩

theorem pump_cancelled (cancelled : w.cancelled = true) (q : Nat) : w.pump q = w := by
  unfold QueueWriter.pump
  exact if_pos (Or.inl cancelled)

theorem cancelEntry_withheld {q : Nat} {e : WriteEntry} {rest : List WriteEntry}
    (queue : (w.states q).queue = e :: rest) :
    Withheld w ((w.put q ((w.states q).skip rest)).cancelEntry e) ∧
      ((w.put q ((w.states q).skip rest)).cancelEntry e).cancelled = w.cancelled := by
  obtain ⟨pool, same⟩ := cancelEntry_spec w q e rest
  rw [same]
  refine ⟨Withheld.put (q := q) rfl rfl ?_, rfl⟩
  rw [queue]
  exact List.suffix_cons e rest

theorem cancelAll_withheld (w : QueueWriter) :
    Withheld w w.cancelAll ∧ w.cancelAll.cancelled = true := by
  refine cancelAll_invariant (fun after => Withheld w after ∧ after.cancelled = true) ?_
    ⟨Withheld.same rfl, rfl⟩
  rintro after q e rest ⟨withheld, cancelled⟩ queue
  obtain ⟨more, same⟩ := cancelEntry_withheld queue
  exact ⟨withheld.trans more, same.trans cancelled⟩

theorem step_cancelled (cancelled : w.cancelled = true) (event : WriterEvent) :
    Withheld w (w.step event) ∧ (w.step event).cancelled = true := by
  have dead : ¬w.cancelled = false := by simp [cancelled]
  cases event with
  | asyncWriteAndForget buf =>
      rcases asyncWriteAndForget_cases w buf with refused | ⟨live, _⟩
      · rw [step, refused]
        exact ⟨Withheld.same rfl, cancelled⟩
      · exact absurd live dead
  | asyncWrite buf handler =>
      rcases asyncWrite_cases w buf handler with ⟨err, _, refused⟩ | ⟨live, _⟩
      · rw [step, refused]
        exact ⟨Withheld.same rfl, cancelled⟩
      · exact absurd live dead
  | deviceDone q ec n =>
      rcases deviceDone_cases w q ec n with same | ⟨e, _, ⟨live, _⟩ |
        ⟨after, same, states, _, _, _, _, kept, _⟩⟩
      · rw [step, same]
        exact ⟨Withheld.same rfl, cancelled⟩
      · exact absurd live dead
      · rw [step, same, pump_cancelled (kept.trans cancelled)]
        exact ⟨Withheld.put states rfl (List.suffix_refl _), kept.trans cancelled⟩
  | cancelAll => exact cancelAll_withheld w

theorem run_cancelled (cancelled : w.cancelled = true) (events : List WriterEvent) :
    Withheld w (w.run events) := by
  induction events generalizing w with
  | nil => exact Withheld.same rfl
  | cons event rest ih =>
      obtain ⟨first, still⟩ := step_cancelled cancelled event
      exact first.trans (ih still)

theorem cancelQueue_empties (q fuel : Nat) (enough : (w.states q).queue.length ≤ fuel) :
    ((cancelQueue q fuel w).states q).queue = [] := by
  induction fuel generalizing w with
  | zero => exact List.length_eq_zero_iff.mp (Nat.le_zero.mp enough)
  | succ fuel ih =>
      unfold cancelQueue
      dsimp only
      split
      · assumption
      · rename_i e rest queue
        refine ih ?_
        obtain ⟨pool, same⟩ := cancelEntry_spec w q e rest
        have less : rest.length ≤ fuel := by
          rw [queue, List.length_cons] at enough
          omega
        change ((QueueWriter.cancelEntry (w.put q ((w.states q).skip rest)) e).states q).queue.length
          ≤ fuel
        rw [same]
        dsimp only
        rw [Function.update_self]
        exact less

theorem cancelQueues_empties (qs : List Nat) {q : Nat} (member : q ∈ qs) :
    ((qs.foldl (fun w q => cancelQueue q (w.states q).queue.length w) w).states q).queue = [] := by
  induction qs generalizing w with
  | nil => exact absurd member List.not_mem_nil
  | cons first rest ih =>
      rcases List.mem_cons.mp member with rfl | later
      · refine cancelQueues_invariant (fun w => (w.states q).queue = []) ?_ rest
          (cancelQueue_empties q _ (Nat.le_refl _))
        intro w other e rest empty queue
        have withheld := (cancelEntry_withheld queue).1 q
        rw [empty] at withheld
        exact List.suffix_nil.mp withheld.2
      · exact ih later

theorem Conserving.emptied (conserving : Conserving w) (q : Nat) :
    (w.cancelAll.states q).queue = [] := by
  by_cases inside : q < w.slots
  · exact cancelQueues_empties _ (List.mem_range.mpr inside)
  · have withheld := ((cancelAll_withheld w).1 q).2
    rw [conserving.outside q (Nat.not_lt.mp inside)] at withheld
    exact List.suffix_nil.mp withheld

end QueueWriter

/-! The packets that were submitted. -/

/-- The packet that an event submits, with its handler if it has one. -/
def WriterEvent.submission : WriterEvent → Option (PacketBuffer × Option HandlerId)
  | .asyncWriteAndForget buf => some (buf, none)
  | .asyncWrite buf handler => some (buf, some handler)
  | .deviceDone _ _ _ => none
  | .cancelAll => none

def submissions (events : List WriterEvent) : List (PacketBuffer × Option HandlerId) :=
  events.filterMap WriterEvent.submission

/-- The handlers of packets, with the numbers of their packets. -/
def numbered (sent : List (PacketBuffer × Option HandlerId)) : List (Nat × HandlerId) :=
  sent.zipIdx.filterMap fun (packet, number) => packet.2.map fun handler => (number, handler)

theorem numbered_append (sent : List (PacketBuffer × Option HandlerId)) (buf : PacketBuffer)
    (handler : Option HandlerId) : numbered (sent ++ [(buf, handler)]) =
      numbered sent ++ (handler.map fun handler => (sent.length, handler)).toList := by
  unfold numbered
  rw [List.zipIdx_append, List.filterMap_append]
  cases handler <;> simp

namespace QueueWriter

variable {w : QueueWriter} {sent : List (PacketBuffer × Option HandlerId)}

/-- What is in the queues, and what the device was given, was submitted and belongs there. -/
structure Assigned (sent : List (PacketBuffer × Option HandlerId)) (w : QueueWriter) : Prop where
  submitted : w.submitted = sent.length
  registered : w.registered = numbered sent
  waiting : ∀ q, ∀ e ∈ (w.states q).line,
    sent[e.number]? = some (e.buf, e.handler) ∧ pickTxQueue e.buf.bytes w.queueCount = q
  given : ∀ q, ∀ a ∈ (w.states q).attempts,
    ∃ packet, sent[a]? = some packet ∧ pickTxQueue packet.1.bytes w.queueCount = q

theorem Assigned.fresh (queueCount : Nat) : Assigned [] (fresh queueCount) :=
  ⟨rfl, rfl, fun _ _ member => absurd member List.not_mem_nil,
    fun _ _ member => absurd member List.not_mem_nil⟩

/-- A queue has lost packets, or has given one of its own to the device. -/
theorem Assigned.change (assigned : Assigned sent w) {after : QueueWriter} {q : Nat}
    {st : QueueState} (states : after.states = Function.update w.states q st)
    (count : after.queueCount = w.queueCount) (submitted : after.submitted = w.submitted)
    (registered : after.registered = w.registered)
    (line : ∀ e ∈ st.line, ∃ old ∈ (w.states q).line,
      old.number = e.number ∧ old.buf = e.buf ∧ old.handler = e.handler)
    (given : ∀ a ∈ st.attempts,
      a ∈ (w.states q).attempts ∨ ∃ e ∈ (w.states q).line, e.number = a) : Assigned sent after := by
  refine ⟨submitted.trans assigned.submitted, registered.trans assigned.registered, ?_, ?_⟩
  · intro other e member
    rw [states] at member
    rw [count]
    by_cases same : other = q
    · subst same
      rw [Function.update_self] at member
      obtain ⟨old, inside, number, buf, handler⟩ := line e member
      rw [← number, ← buf, ← handler]
      exact assigned.waiting other old inside
    · rw [Function.update_of_ne same] at member
      exact assigned.waiting other e member
  · intro other a member
    rw [states] at member
    rw [count]
    by_cases same : other = q
    · subst same
      rw [Function.update_self] at member
      rcases given a member with old | ⟨e, inside, rfl⟩
      · exact assigned.given other a old
      · obtain ⟨known, place⟩ := assigned.waiting other e inside
        exact ⟨_, known, place⟩
    · rw [Function.update_of_ne same] at member
      exact assigned.given other a member

/-- Another packet is submitted. -/
theorem Assigned.later (assigned : Assigned sent w) {after : QueueWriter} (buf : PacketBuffer)
    (handler : Option HandlerId) (states : after.states = w.states)
    (count : after.queueCount = w.queueCount) (submitted : after.submitted = w.submitted + 1)
    (registered : after.registered = (w.register handler).registered) :
    Assigned (sent ++ [(buf, handler)]) after := by
  have kept {number : Nat} {packet : PacketBuffer × Option HandlerId}
      (known : sent[number]? = some packet) :
      (sent ++ [(buf, handler)])[number]? = some packet := by
    obtain ⟨inside, _⟩ := List.getElem?_eq_some_iff.mp known
    rw [List.getElem?_append_left inside]
    exact known
  refine ⟨?_, ?_, ?_, ?_⟩
  · rw [submitted, assigned.submitted, List.length_append, List.length_singleton]
  · rw [registered, numbered_append, ← assigned.registered, ← assigned.submitted]
    rfl
  · intro q e member
    rw [states] at member
    rw [count]
    obtain ⟨known, place⟩ := assigned.waiting q e member
    exact ⟨kept known, place⟩
  · intro q a member
    rw [states] at member
    rw [count]
    obtain ⟨packet, known, place⟩ := assigned.given q a member
    exact ⟨packet, kept known, place⟩

theorem Assigned.accepted (assigned : Assigned sent w) (buf : PacketBuffer)
    (handler : Option HandlerId) :
    Assigned (sent ++ [(buf, handler)]) (w.accepted buf handler) := by
  have later : Assigned (sent ++ [(buf, handler)]) (w.register handler) :=
    assigned.later buf handler rfl rfl rfl rfl
  refine ⟨later.submitted, later.registered, ?_, ?_⟩
  · intro q e member
    change e ∈ (Function.update w.states _ _ q).line at member
    by_cases same : q = pickTxQueue buf.bytes w.queueCount
    · subst same
      rw [Function.update_self, QueueState.Ordered.line_push] at member
      rcases List.mem_append.mp member with old | new
      · exact later.waiting _ e old
      · rw [List.mem_singleton.mp new]
        refine ⟨?_, rfl⟩
        dsimp only
        rw [assigned.submitted, List.getElem?_append_right (Nat.le_refl _), Nat.sub_self]
        rfl
    · rw [Function.update_of_ne same] at member
      exact later.waiting q e member
  · intro q a member
    change a ∈ (Function.update w.states _ _ q).attempts at member
    by_cases same : q = pickTxQueue buf.bytes w.queueCount
    · subst same
      rw [Function.update_self] at member
      exact later.given _ a member
    · rw [Function.update_of_ne same] at member
      exact later.given q a member

theorem Assigned.pump (assigned : Assigned sent w) (q : Nat) : Assigned sent (w.pump q) := by
  rcases pump_cases w q with same | ⟨e, rest, _, idle, queue, same⟩
  · rwa [same]
  · rw [same]
    refine assigned.change (q := q) rfl rfl rfl rfl ?_ ?_
    · intro other member
      rw [QueueState.Ordered.line_launch _ idle queue] at member
      exact ⟨other, member, rfl, rfl, rfl⟩
    · intro a member
      rcases List.mem_append.mp member with old | new
      · exact Or.inl old
      · refine Or.inr ⟨e, List.mem_append_right _ ?_, (List.mem_singleton.mp new).symm⟩
        rw [queue]
        exact List.mem_cons_self

theorem Assigned.deviceDone (assigned : Assigned sent w) (q : Nat) (ec : IoCode) (n : Nat) :
    Assigned sent (w.deviceDone q ec n) := by
  rcases deviceDone_cases w q ec n with same | ⟨e, current, ⟨_, _, same⟩ |
    ⟨after, same, states, count, _, submitted, registered, _⟩⟩
  · rwa [same]
  · have front : e ∈ (w.states q).line := by
      rw [QueueState.Ordered.line_current current]
      exact List.mem_cons_self
    rw [same]
    refine assigned.change (q := q) rfl rfl rfl rfl ?_ ?_
    · intro other member
      rcases List.mem_cons.mp member with rfl | later
      · exact ⟨e, front, rfl, rfl, rfl⟩
      · exact ⟨other, List.mem_append_right _ later, rfl, rfl, rfl⟩
    · intro a member
      rcases List.mem_append.mp member with old | new
      · exact Or.inl old
      · exact Or.inr ⟨e, front, (List.mem_singleton.mp new).symm⟩
  · rw [same]
    refine (assigned.change states count submitted registered ?_ fun a member => Or.inl member).pump q
    exact fun other member => ⟨other, List.mem_append_right _ member, rfl, rfl, rfl⟩

theorem Assigned.cancelAll (assigned : Assigned sent w) : Assigned sent w.cancelAll := by
  refine cancelAll_invariant (Assigned sent) ?_
    ⟨assigned.submitted, assigned.registered, assigned.waiting, assigned.given⟩
  intro w q e rest assigned queue
  obtain ⟨pool, same⟩ := cancelEntry_spec w q e rest
  rw [same]
  refine assigned.change (q := q) rfl rfl rfl rfl ?_ fun a member => Or.inl member
  intro other member
  refine ⟨other, ?_, rfl, rfl, rfl⟩
  rcases List.mem_append.mp member with current | later
  · exact List.mem_append_left _ current
  · refine List.mem_append_right _ ?_
    rw [queue]
    exact List.mem_cons_of_mem _ later

theorem Assigned.step (assigned : Assigned sent w) (event : WriterEvent) :
    Assigned (sent ++ event.submission.toList) (w.step event) := by
  cases event with
  | asyncWriteAndForget buf =>
      rcases asyncWriteAndForget_cases w buf with refused | ⟨_, _, accepted⟩
      · rw [QueueWriter.step, refused]
        exact assigned.later buf none rfl rfl rfl rfl
      · rw [QueueWriter.step, accepted]
        exact (assigned.accepted buf none).pump _
  | asyncWrite buf handler =>
      rcases asyncWrite_cases w buf handler with ⟨err, _, refused⟩ | ⟨_, _, accepted⟩
      · rw [QueueWriter.step, refused]
        exact assigned.later buf (some handler) rfl rfl rfl rfl
      · rw [QueueWriter.step, accepted]
        exact (assigned.accepted buf (some handler)).pump _
  | deviceDone q ec n => exact (List.append_nil sent).symm ▸ assigned.deviceDone q ec n
  | cancelAll => exact (List.append_nil sent).symm ▸ assigned.cancelAll

theorem Assigned.run (assigned : Assigned sent w) (events : List WriterEvent) :
    Assigned (sent ++ submissions events) (w.run events) := by
  induction events generalizing w sent with
  | nil => exact (List.append_nil sent).symm ▸ assigned
  | cons event rest ih =>
      have whole : sent ++ submissions (event :: rest) =
          sent ++ event.submission.toList ++ submissions rest := by
        rw [List.append_assoc]
        unfold submissions
        cases shape : event.submission <;> simp [shape]
      rw [whole]
      exact ih (assigned.step event)

/-! Every run. -/

/-- A queue has at most one write of the device outstanding.  The device got the packets assigned
to the queue in the order of their submission, before those still queued, each a limited number
of times and successfully at most once. -/
structure QueueKept (sent : List (PacketBuffer × Option HandlerId)) (queueCount q : Nat)
    (st : QueueState) : Prop where
  single : st.inFlight = st.busy ∧ st.inFlight ≤ 1
  own : ∀ number ∈ st.attempts,
    ∃ packet, sent[number]? = some packet ∧ pickTxQueue packet.1.bytes queueCount = q
  inOrder : st.attempts.Pairwise (· ≤ ·)
  ahead : ∀ number ∈ st.attempts, ∀ e ∈ st.queue, number < e.number
  limited : ∀ number, st.attempts.count number ≤ 4097
  once : st.written.Pairwise (· < ·)
  given : ∀ number ∈ st.written, number ∈ st.attempts

/-- The handlers that were called and those that wait for a queued or current packet are those
that were passed in, each with one packet of its own; success means that the packet was
written. -/
structure HandlersKept (sent : List (PacketBuffer × Option HandlerId)) (w : QueueWriter) : Prop where
  once : (w.completions.map PacketCompletion.key : Multiset (Nat × HandlerId)) + w.waiting =
    (numbered sent : Multiset (Nat × HandlerId))
  apart : ((numbered sent).map Prod.fst).Pairwise (· < ·)
  all : w.queuedTotal = 0 → w.writing = 0 →
    (w.completions.map PacketCompletion.key).Perm (numbered sent)
  honest : ∀ completion ∈ w.completions, completion.ec = .success →
    ∃ q, completion.number ∈ (w.states q).written

theorem Conserving.queueKept (conserving : Conserving w) (assigned : Assigned sent w) (q : Nat) :
    QueueKept sent w.queueCount q (w.states q) := by
  have ordered := conserving.ordered q
  refine ⟨⟨ordered.single, ?_⟩, assigned.given q, ordered.given, ordered.behind, ordered.tries,
    ordered.wrote, ordered.tried⟩
  rw [ordered.single]
  unfold QueueState.busy
  split <;> omega

/-- Nobody waits when nothing is queued or being written. -/
theorem Conserving.nobody (conserving : Conserving w) (drained : w.queuedTotal = 0)
    (idle : w.writing = 0) : w.waiting = 0 := by
  refine Finset.sum_eq_zero fun q member => ?_
  have queue : (w.states q).queue.length = 0 := by
    have total := conserving.total
    rw [drained] at total
    exact Finset.sum_eq_zero_iff.mp total.symm q member
  have busy : (w.states q).busy = 0 := Finset.sum_eq_zero_iff.mp idle q member
  have current : (w.states q).current = none := by
    unfold QueueState.busy at busy
    cases shape : (w.states q).current with
    | none => rfl
    | some e => simp [shape] at busy
  unfold QueueState.keys QueueState.line
  rw [current, List.length_eq_zero_iff.mp queue]
  rfl

theorem Conserving.handlersKept (conserving : Conserving w) (assigned : Assigned sent w) :
    HandlersKept sent w := by
  have once := conserving.handlers
  have apart := conserving.numbers
  rw [assigned.registered] at once apart
  refine ⟨once, apart, ?_, conserving.honest⟩
  intro drained idle
  rw [conserving.nobody drained idle, add_zero] at once
  exact Multiset.coe_eq_coe.mp once

theorem run_append (w : QueueWriter) (before after : List WriterEvent) :
    w.run (before ++ after) = (w.run before).run after := List.foldl_append

theorem pump_queueCount (w : QueueWriter) (q : Nat) : (w.pump q).queueCount = w.queueCount := by
  rcases pump_cases w q with same | ⟨_, _, _, _, _, same⟩
  · rw [same]
  · rw [same]
    rfl

theorem cancelAll_queueCount (w : QueueWriter) : w.cancelAll.queueCount = w.queueCount := by
  refine cancelAll_invariant (fun after => after.queueCount = w.queueCount) ?_ rfl
  intro after q e rest count _
  obtain ⟨pool, same⟩ := cancelEntry_spec after q e rest
  rw [same]
  exact count

theorem step_queueCount (w : QueueWriter) (event : WriterEvent) :
    (w.step event).queueCount = w.queueCount := by
  cases event with
  | asyncWriteAndForget buf =>
      rcases asyncWriteAndForget_cases w buf with refused | ⟨_, _, accepted⟩
      · rw [step, refused]
        rfl
      · rw [step, accepted, pump_queueCount]
        rfl
  | asyncWrite buf handler =>
      rcases asyncWrite_cases w buf handler with ⟨_, _, refused⟩ | ⟨_, _, accepted⟩
      · rw [step, refused]
        rfl
      · rw [step, accepted, pump_queueCount]
        rfl
  | deviceDone q ec n =>
      rcases deviceDone_cases w q ec n with same | ⟨_, _, ⟨_, _, same⟩ | ⟨_, same, _, count, _⟩⟩
      · rw [step, same]
      · rw [step, same]
        rfl
      · rw [step, same, pump_queueCount, count]
  | cancelAll => exact cancelAll_queueCount w

theorem run_queueCount (w : QueueWriter) (events : List WriterEvent) :
    (w.run events).queueCount = w.queueCount := by
  induction events generalizing w with
  | nil => rfl
  | cons event rest ih => exact (ih (w.step event)).trans (step_queueCount w event)

/-- In every run every packet is counted once, the queues are kept, every handler is called once,
and after a cancellation the device is given nothing and nothing is queued. -/
theorem run_conserves (queueCount : Nat) (events : List WriterEvent) :
    let w := (fresh queueCount).run events
    ((submissions events).length = w.txPackets + w.txDropped + w.queuedTotal + w.writing ∧
      w.queuedTotal = w.queued ∧ w.queuedTotal ≤ 16384) ∧
    (∀ q, QueueKept (submissions events) queueCount q (w.states q)) ∧
    HandlersKept (submissions events) w ∧
    ∀ later q,
      let stopped := (fresh queueCount).run (events ++ .cancelAll :: later)
      (stopped.states q).attempts = (w.states q).attempts ∧ (stopped.states q).queue = [] := by
  have conserving : Conserving ((QueueWriter.fresh queueCount).run events) :=
    (Conserving.fresh queueCount).run events
  have assigned : Assigned (submissions events) ((QueueWriter.fresh queueCount).run events) :=
    (Assigned.fresh queueCount).run events
  have count := run_queueCount (QueueWriter.fresh queueCount) events
  refine ⟨⟨?_, conserving.total, conserving.capped⟩, fun q => ?_, conserving.handlersKept assigned,
    fun later q => ?_⟩
  · rw [← assigned.submitted]
    exact conserving.counted
  · have kept := conserving.queueKept assigned q
    rwa [count] at kept
  · obtain ⟨withheld, cancelled⟩ := cancelAll_withheld ((QueueWriter.fresh queueCount).run events)
    have after := run_cancelled cancelled later q
    rw [conserving.emptied q] at after
    dsimp only
    rw [run_append]
    exact ⟨after.1.trans (withheld q).1, List.suffix_nil.mp after.2⟩

end QueueWriter

end Tunio
