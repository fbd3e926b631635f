import Tunio.Aio
import Tunio.Crew

/-!
The asynchronous operations keep to their order: one of a kind at a time, and the callbacks in the
order in which the operations were accepted.
-/

namespace Tunio

open Crews

namespace Aio

/-- Of the operations of a kind, those that have its flag. -/
def holding (op : AioOp) (call : AioCall) : Bool := decide (call.op = op) && call.place.holds

def running (call : AioCall) : Bool := call.place.onStrand

/-- A flag is set for as long as one operation has it, and the executor runs one handler. -/
structure Flags (s : Aio) : Prop where
  single : ∀ op, op.exclusive = true → s.calls.countP (holding op) = (s.pending op).toNat
  serial : s.calls.countP running = s.busy.toNat

section

variable {s s' : Aio} {row : Nat} {call : AioCall}

theorem put_count (here : s.calls[row]? = some call) (next : AioCall) (kind : AioCall → Bool) :
    (s.put row next).calls.countP kind + (kind call).toNat =
      s.calls.countP kind + (kind next).toNat :=
  countP_move here next kind

theorem put_count_same (here : s.calls[row]? = some call) {next : AioCall} {kind : AioCall → Bool}
    (same : kind next = kind call) :
    (s.put row next).calls.countP kind = s.calls.countP kind := by
  have moved := put_count here next kind
  rw [same] at moved
  exact Nat.add_right_cancel moved

theorem untaken {place : AioPlace} (asks : place.taken = false) :
    place.holds = false ∧ place.onStrand = false ∧ place.idle = false ∧ place.told = false := by
  simp only [AioPlace.taken, Bool.or_eq_false_iff] at asks
  exact ⟨asks.1.1.1.1, asks.1.1.1.2, asks.1.1.2, asks.1.2⟩

theorem idle_off {place : AioPlace} (idle : place.idle = true) : place.onStrand = false := by
  cases place <;> first | rfl | exact absurd idle (by decide)

theorem idle_untold {place : AioPlace} (idle : place.idle = true) : place.told = false := by
  cases place <;> first | rfl | exact absurd idle (by decide)

theorem settled_free {place : AioPlace} (off : place.onStrand = false)
    (settled : place.idle = false) : place.holds = false := by
  cases place <;> first | rfl | exact absurd off (by decide) | exact absurd settled (by decide)

theorem mark_pending (s : Aio) {op other : AioOp} (exclusive : other.exclusive = true)
    (value : Bool) : (s.mark op value).pending other = if op = other then value else s.pending other := by
  unfold mark
  dsimp only
  by_cases same : op = other
  · subst other
    rw [if_pos exclusive, if_pos rfl, Function.update_self]
  · rw [if_neg same]
    split
    · rw [Function.update_of_ne (Ne.symm same)]
    · rfl

theorem holding_to (op : AioOp) (call : AioCall) (place : AioPlace) :
    holding op (call.to place) = (decide (call.op = op) && place.holds) := rfl

/-- A call that takes the flag of its operation. -/
theorem mark_set (flags : s.Flags) (here : s.calls[row]? = some call)
    (before : call.place.holds = false)
    (free : call.op.exclusive = true → s.pending call.op = false) {place : AioPlace}
    (after : place.holds = true) (op : AioOp) (exclusive : op.exclusive = true) :
    (s.put row (call.to place)).calls.countP (holding op) =
      ((s.mark call.op true).pending op).toNat := by
  have moved := put_count here (call.to place) (holding op)
  have counted := flags.single op exclusive
  rw [holding_to, after, Bool.and_true, holding, before, Bool.and_false] at moved
  rw [mark_pending s exclusive]
  by_cases mine : call.op = op
  · subst mine
    rw [free exclusive] at counted
    simp only [decide_true, if_true] at moved ⊢
    simp only [Bool.toNat_false, Bool.toNat_true] at moved counted ⊢
    omega
  · simp only [mine, decide_false, if_false] at moved ⊢
    omega

/-- A call that gives it back. -/
theorem mark_cleared (flags : s.Flags) (here : s.calls[row]? = some call)
    (before : call.place.holds = true) {place : AioPlace} (after : place.holds = false)
    (op : AioOp) (exclusive : op.exclusive = true) :
    (s.put row (call.to place)).calls.countP (holding op) =
      ((s.mark call.op false).pending op).toNat := by
  have moved := put_count here (call.to place) (holding op)
  have counted := flags.single op exclusive
  rw [holding_to, after, Bool.and_false, holding, before, Bool.and_true] at moved
  rw [mark_pending s exclusive]
  have most := Bool.toNat_le (s.pending op)
  by_cases mine : call.op = op
  · subst mine
    simp only [decide_true, if_true] at moved ⊢
    simp only [Bool.toNat_false, Bool.toNat_true] at moved ⊢
    omega
  · simp only [mine, decide_false, if_false] at moved ⊢
    omega

theorem Flags.moved (flags : s.Flags) (here : s.calls[row]? = some call)
    (moved : Moved s row call s') : s'.Flags := by
  have kept (next : AioCall) (same : next.op = call.op)
      (holds : next.place.holds = call.place.holds) (op : AioOp) (exclusive : op.exclusive = true) :
      (s.put row next).calls.countP (holding op) = (s.pending op).toNat := by
    rw [← flags.single op exclusive]
    exact put_count_same here (by rw [holding, holding, same, holds])
  have still (next : AioCall) (strand : next.place.onStrand = call.place.onStrand) :
      (s.put row next).calls.countP running = s.busy.toNat := by
    rw [← flags.serial]
    exact put_count_same here strand
  cases moved with
  | stay => exact flags
  | ask asks no =>
      exact ⟨kept (call.to _) rfl ((untaken no).1.trans (untaken asks).1.symm),
        still (call.to _) ((untaken no).2.1.trans (untaken asks).2.1.symm)⟩
  | claim asks free =>
      exact ⟨mark_set flags here (untaken asks).1 free rfl,
        still (call.to .claimed) (untaken asks).2.1.symm⟩
  | @proceed next same before after idle idle' =>
      exact ⟨kept next same (after.trans before.symm),
        still next ((idle_off idle').trans (idle_off idle).symm)⟩
  | fail place =>
      exact ⟨mark_cleared flags here (by rw [place]; rfl) rfl,
        still (call.to .failed) (by rw [place]; rfl)⟩
  | handle place free =>
      refine ⟨kept (call.to .handling) rfl (by rw [place]; rfl), ?_⟩
      have moved := put_count here (call.to .handling) running
      have nobody := flags.serial
      rw [free] at nobody
      rw [nobody, show running call = false by rw [running, place]; rfl] at moved
      exact moved
  | clear place =>
      exact ⟨mark_cleared flags here (by rw [place]; rfl) rfl,
        still (call.to .cleared) (by rw [place]; rfl)⟩
  | keep place alive =>
      exact ⟨kept (call.to .kept) rfl (by rw [place]; rfl), still (call.to .kept) (by rw [place]; rfl)⟩
  | decide_ place gone =>
      exact ⟨kept (call.to .calling) rfl (by rw [place]; rfl),
        still (call.to .calling) (by rw [place]; rfl)⟩
  | tell place =>
      exact ⟨kept (call.to .inCallback) rfl (by rw [place]; rfl),
        still (call.to .inCallback) (by rw [place]; rfl)⟩
  | @leave place from_ quiet off taken settled same =>
      refine ⟨kept (call.to place) rfl ((settled_free off settled).trans quiet.symm), ?_⟩
      have moved := put_count here (call.to place) running
      have one := Bool.toNat_le s.busy
      rw [flags.serial, show running call = true from from_, show running (call.to place) = false from off]
        at moved
      change _ = 0
      change List.countP running (s.calls.set row (call.to place)) + 1 = s.busy.toNat + 0 at moved
      change List.countP running (s.calls.set row (call.to place)) = 0
      omega

end

/-- The callback of a call that has come to it. -/
def entry (s : Aio) (row : Nat) : Option (Nat × ApiCode × Nat) :=
  match s.calls[row]? with
  | some call => if call.place.told then some (row, errorFromEc call.ec, call.n) else none
  | none => none

/-- Of two operations with a flag, the first gave it back before the second took it, and its
handler is through before the executor comes to the second. -/
def Precedes (s : Aio) (first second : Nat) : Prop :=
  ∀ a b, s.calls[first]? = some a → s.calls[second]? = some b →
    a.place.holds = false ∧ (a.place.onStrand = true → b.place.idle = true)

structure Ordered (s : Aio) : Prop where
  taken : ∀ op row, row ∈ s.accepted op ↔
    ∃ call, s.calls[row]? = some call ∧ call.op = op ∧ call.place.taken = true
  once : ∀ op, (s.accepted op).Nodup
  order : ∀ op, op.exclusive = true → (s.accepted op).Pairwise s.Precedes

/-- The callbacks that began are those of the calls that came to it, with what these were completed
with; with a flag they began in the order in which the calls took it. -/
structure Spoken (s : Aio) : Prop where
  told : ∀ op, op.exclusive = true → s.told op = (s.accepted op).filterMap s.entry
  every : ∀ op, (s.told op).Perm ((s.accepted op).filterMap s.entry)

section

variable {s s' : Aio} {row : Nat} {call : AioCall}

theorem Precedes.put {next : AioCall} {first second : Nat} (precedes : s.Precedes first second)
    (apart : first ≠ second) (flags : s.Flags) (here : s.calls[row]? = some call)
    (settles : call.place.holds = false →
      next.place.holds = false ∧ (next.place.onStrand = true → call.place.onStrand = true))
    (waits : call.place.idle = true → next.place.idle = true ∨ s.busy = false) :
    (s.put row next).Precedes first second := by
  intro a b atFirst atSecond
  rcases set_cases atFirst with ⟨rfl, rfl⟩ | ⟨other, before⟩
  · rcases set_cases atSecond with ⟨rfl, -⟩ | ⟨-, after⟩
    · exact absurd rfl apart
    · obtain ⟨free, idle⟩ := precedes call b here after
      obtain ⟨free', strand⟩ := settles free
      exact ⟨free', fun runs => idle (strand runs)⟩
  · rcases set_cases atSecond with ⟨rfl, rfl⟩ | ⟨-, after⟩
    · obtain ⟨free, idle⟩ := precedes a call before here
      refine ⟨free, fun runs => ?_⟩
      rcases waits (idle runs) with stays | nobody
      · exact stays
      · have none := flags.serial
        rw [nobody] at none
        have off := countP_zero before none
        rw [running, runs] at off
        cases off
    · exact precedes a b before after

theorem entry_put (next : AioCall) (here : s.calls[row]? = some call) (told : next.place.told = call.place.told)
    (same : next.place.told = true → next.ec = call.ec ∧ next.n = call.n) :
    (s.put row next).entry = s.entry := by
  funext other
  unfold entry
  by_cases mine : other = row
  · subst other
    rw [show (s.put row next).calls[row]? = some next from set_here here next, here]
    dsimp only
    rw [← told]
    split
    · rename_i told
      rw [(same told).1, (same told).2]
    · rfl
  · rw [show (s.put row next).calls[other]? = s.calls[other]? from
      List.getElem?_set_ne (Ne.symm mine)]

theorem has_put {next : AioCall} (here : s.calls[row]? = some call) (op : next.op = call.op)
    (taken : next.place.taken = call.place.taken) (kind : AioOp) (other : Nat) :
    (∃ call, (s.put row next).calls[other]? = some call ∧ call.op = kind ∧
        call.place.taken = true) ↔
      ∃ call, s.calls[other]? = some call ∧ call.op = kind ∧ call.place.taken = true := by
  constructor
  · rintro ⟨new, there, rfl, is⟩
    rcases set_cases there with ⟨rfl, rfl⟩ | ⟨-, there⟩
    · exact ⟨call, here, op.symm, taken.symm.trans is⟩
    · exact ⟨new, there, rfl, is⟩
  · rintro ⟨old, there, rfl, was⟩
    by_cases mine : other = row
    · subst other
      obtain rfl : call = old := Option.some.inj (here.symm.trans there)
      exact ⟨next, set_here here next, op, taken.trans was⟩
    · exact ⟨old, (List.getElem?_set_ne (Ne.symm mine)).trans there, rfl, was⟩

/-- A move of a call that was accepted before or is not yet. -/
theorem Ordered.put (ordered : s.Ordered) (flags : s.Flags) (here : s.calls[row]? = some call)
    (next : AioCall) (op : next.op = call.op) (taken : next.place.taken = call.place.taken)
    (settles : call.place.holds = false →
      next.place.holds = false ∧ (next.place.onStrand = true → call.place.onStrand = true))
    (waits : call.place.idle = true → next.place.idle = true ∨ s.busy = false) :
    (s.put row next).Ordered :=
  ⟨fun kind other => (ordered.taken kind other).trans (has_put here op taken kind other).symm,
    ordered.once, fun kind exclusive =>
      ((ordered.order kind exclusive).and (ordered.once kind)).imp fun both =>
        both.1.put both.2 flags here settles waits⟩

/-- What is recorded beside the calls does not matter to their order. -/
theorem Ordered.aside (ordered : s.Ordered) (calls : s'.calls = s.calls)
    (accepted : s'.accepted = s.accepted) : s'.Ordered := by
  have precedes : s'.Precedes = s.Precedes := by
    funext first second
    unfold Precedes
    rw [calls]
  refine ⟨?_, ?_, ?_⟩
  · rw [calls, accepted]
    exact ordered.taken
  · rw [accepted]
    exact ordered.once
  · rw [precedes, accepted]
    exact ordered.order

theorem Ordered.claim (ordered : s.Ordered) (flags : s.Flags) (here : s.calls[row]? = some call)
    (asks : call.place.taken = false)
    (free : call.op.exclusive = true → s.pending call.op = false) :
    (s.claim row call).Ordered := by
  have calls : (s.claim row call).calls = s.calls.set row (call.to .claimed) := rfl
  have fresh (op : AioOp) : row ∉ s.accepted op := by
    intro among
    obtain ⟨old, there, -, taken⟩ := (ordered.taken op row).mp among
    obtain rfl : call = old := Option.some.inj (here.symm.trans there)
    rw [asks] at taken
    cases taken
  have accepted (op : AioOp) : (s.claim row call).accepted op =
      if op = call.op then s.accepted op ++ [row] else s.accepted op := by
    change Function.update _ _ _ _ = _
    by_cases mine : op = call.op
    · subst mine
      rw [Function.update_self, if_pos rfl]
    · rw [Function.update_of_ne mine, if_neg mine]
  have elsewhere {op : AioOp} {first second : Nat} (one : first ∈ s.accepted op)
      (two : second ∈ s.accepted op) (precedes : s.Precedes first second) :
      (s.claim row call).Precedes first second := by
    intro a b atFirst atSecond
    rw [calls, List.getElem?_set_ne (fun same => fresh op (by rw [same]; exact one))] at atFirst
    rw [calls, List.getElem?_set_ne (fun same => fresh op (by rw [same]; exact two))] at atSecond
    exact precedes a b atFirst atSecond
  have old (op : AioOp) (exclusive : op.exclusive = true) :
      (s.accepted op).Pairwise (s.claim row call).Precedes :=
    (ordered.order op exclusive).imp_of_mem fun one two => elsewhere one two
  refine ⟨fun op other => ?_, fun op => ?_, fun op exclusive => ?_⟩
  · rw [accepted, calls]
    constructor
    · intro among
      by_cases mine : other = row
      · subst other
        split at among
        · rename_i kind
          exact ⟨_, set_here here _, kind.symm, rfl⟩
        · exact absurd among (fresh op)
      · have before : other ∈ s.accepted op := by
          split at among
          · rcases List.mem_append.mp among with before | last
            · exact before
            · exact absurd (List.mem_singleton.mp last) mine
          · exact among
        obtain ⟨call', there, rest⟩ := (ordered.taken op other).mp before
        exact ⟨call', (List.getElem?_set_ne (Ne.symm mine)).trans there, rest⟩
    · rintro ⟨call', there, kind, taken⟩
      rcases set_cases there with ⟨rfl, rfl⟩ | ⟨-, there⟩
      · rw [if_pos (show op = call.op from kind.symm)]
        exact List.mem_append_right _ List.mem_cons_self
      · have before := (ordered.taken op other).mpr ⟨call', there, kind, taken⟩
        split
        · exact List.mem_append_left _ before
        · exact before
  · rw [accepted]
    split
    · exact (ordered.once op).append (List.nodup_singleton row)
        (List.disjoint_singleton.mpr (fresh op))
    · exact ordered.once op
  · rw [accepted]
    split
    · rename_i kind
      subst kind
      refine List.pairwise_append.mpr ⟨old call.op exclusive, List.pairwise_singleton _ row, ?_⟩
      intro first among second last a b atFirst atSecond
      obtain rfl := List.mem_singleton.mp last
      obtain ⟨a', there, kind, -⟩ := (ordered.taken call.op first).mp among
      have apart : first ≠ second := fun same => fresh call.op (by rw [← same]; exact among)
      rw [calls, List.getElem?_set_ne (Ne.symm apart), there] at atFirst
      obtain rfl := Option.some.inj atFirst
      rw [calls, set_here here] at atSecond
      obtain rfl := Option.some.inj atSecond
      refine ⟨?_, fun _ => rfl⟩
      have none := flags.single call.op exclusive
      rw [free exclusive] at none
      have holds := countP_zero there none
      rwa [holding, decide_eq_true kind, Bool.true_and] at holds
    · exact old op exclusive

/-- Every move but the claim leaves the order as it was. -/
theorem Ordered.moved (ordered : s.Ordered) (flags : s.Flags) (here : s.calls[row]? = some call)
    (moved : Moved s row call s') : s'.Ordered := by
  cases moved with
  | stay => exact ordered
  | @ask place asks no =>
      refine ordered.put flags here (call.to place) rfl (no.trans asks.symm) (fun _ => ?_)
        fun idle => ?_
      · refine ⟨(untaken no).1, fun runs => ?_⟩
        have off : place.onStrand = false := (untaken no).2.1
        exact absurd (off.symm.trans runs) Bool.false_ne_true
      · exact absurd ((untaken asks).2.2.1.symm.trans idle) Bool.false_ne_true
  | claim asks free => exact ordered.claim flags here asks free
  | @proceed next same before after idle idle' =>
      have taken {place : AioPlace} (holds : place.holds = true) : place.taken = true := by
        rw [AioPlace.taken, holds]
        rfl
      exact ordered.put flags here next same ((taken after).trans (taken before).symm)
        (fun quiet => absurd (quiet.symm.trans before) Bool.false_ne_true) fun _ => Or.inl idle'
  | fail place =>
      have o := ordered.put flags here (call.to .failed) rfl (by rw [place]; rfl)
        (fun _ => ⟨rfl, fun runs => absurd runs Bool.false_ne_true⟩) fun _ => Or.inl rfl
      exact o.aside rfl rfl
  | handle place free =>
      have o := ordered.put flags here (call.to .handling) rfl (by rw [place]; rfl)
        (fun quiet => by rw [place] at quiet; cases quiet) fun _ => Or.inr free
      exact o.aside rfl rfl
  | clear place =>
      have o := ordered.put flags here (call.to .cleared) rfl (by rw [place]; rfl)
        (fun quiet => by rw [place] at quiet; cases quiet)
        fun idle => by rw [place] at idle; cases idle
      exact o.aside rfl rfl
  | keep place alive =>
      exact ordered.put flags here (call.to .kept) rfl (by rw [place]; rfl)
        (fun _ => ⟨rfl, fun _ => by rw [place]; rfl⟩) fun idle => by rw [place] at idle; cases idle
  | decide_ place gone =>
      exact ordered.put flags here (call.to .calling) rfl (by rw [place]; rfl)
        (fun _ => ⟨rfl, fun _ => by rw [place]; rfl⟩) fun idle => by rw [place] at idle; cases idle
  | tell place =>
      have o := ordered.put flags here (call.to .inCallback) rfl (by rw [place]; rfl)
        (fun _ => ⟨rfl, fun _ => by rw [place]; rfl⟩) fun idle => by rw [place] at idle; cases idle
      exact o.aside rfl rfl
  | @leave place from_ quiet off taken settled same =>
      have was : call.place.taken = true := by
        rw [AioPlace.taken, from_, Bool.or_true]
        rfl
      have o := ordered.put flags here (call.to place) rfl (taken.trans was.symm)
        (fun _ => ⟨settled_free off settled, fun runs =>
          absurd (off.symm.trans runs) Bool.false_ne_true⟩)
        fun idle => absurd ((idle_off idle).symm.trans from_) Bool.false_ne_true
      exact o.aside rfl rfl

theorem Spoken.aside (spoken : s.Spoken) (entry : s'.entry = s.entry)
    (accepted : s'.accepted = s.accepted) (told : s'.told = s.told) : s'.Spoken := by
  refine ⟨?_, ?_⟩
  · rw [entry, accepted, told]
    exact spoken.told
  · rw [entry, accepted, told]
    exact spoken.every

theorem entry_none (there : s.calls[row]? = some call) (untold : call.place.told = false) :
    s.entry row = none := by
  unfold entry
  rw [there]
  dsimp only
  rw [untold, if_neg Bool.false_ne_true]

theorem Spoken.claim (spoken : s.Spoken) (here : s.calls[row]? = some call)
    (asks : call.place.taken = false) : (s.claim row call).Spoken := by
  have untold := (untaken asks).2.2.2
  have entry : (s.claim row call).entry = s.entry :=
    entry_put (call.to .claimed) here untold.symm fun told => nomatch told
  have listed (op : AioOp) : ((s.claim row call).accepted op).filterMap (s.claim row call).entry =
      (s.accepted op).filterMap s.entry := by
    rw [entry]
    change List.filterMap _ (Function.update s.accepted call.op _ op) = _
    by_cases mine : op = call.op
    · subst mine
      rw [Function.update_self, List.filterMap_append, List.filterMap_cons,
        entry_none here untold, List.filterMap_nil, List.append_nil]
    · rw [Function.update_of_ne mine]
  refine ⟨fun op exclusive => ?_, fun op => ?_⟩
  · rw [listed]
    exact spoken.told op exclusive
  · rw [listed]
    exact spoken.every op

/-- A callback begins after those of all operations before it, and before those of any behind. -/
theorem Spoken.tell (spoken : s.Spoken) (ordered : s.Ordered) (here : s.calls[row]? = some call)
    (place : call.place = .calling) : (s.tell row call).Spoken := by
  let told : Nat × ApiCode × Nat := (row, errorFromEc call.ec, call.n)
  have calls : (s.tell row call).calls = s.calls.set row (call.to .inCallback) := rfl
  have mine : (s.tell row call).entry row = some told := by
    unfold entry
    rw [calls, set_here here]
    rfl
  have others {other : Nat} (apart : other ≠ row) : (s.tell row call).entry other = s.entry other := by
    unfold entry
    rw [calls, List.getElem?_set_ne (Ne.symm apart)]
  have among : row ∈ s.accepted call.op :=
    (ordered.taken call.op row).mpr ⟨call, here, rfl, by rw [place]; rfl⟩
  obtain ⟨before, after, parts⟩ := List.mem_iff_append.mp among
  have once := ordered.once call.op
  rw [parts] at once
  have notBefore : row ∉ before := fun member =>
    (List.nodup_append.mp once).2.2 row member row List.mem_cons_self rfl
  have notAfter : row ∉ after := (List.nodup_cons.mp (List.nodup_append.mp once).2.1).1
  have silent : s.entry row = none := entry_none here (by rw [place]; rfl)
  have was : (s.accepted call.op).filterMap s.entry =
      before.filterMap s.entry ++ after.filterMap s.entry := by
    rw [parts, List.filterMap_append, List.filterMap_cons, silent]
  have is : (s.accepted call.op).filterMap (s.tell row call).entry =
      before.filterMap s.entry ++ told :: after.filterMap s.entry := by
    rw [parts, List.filterMap_append, List.filterMap_cons, mine]
    have first : before.filterMap (s.tell row call).entry = before.filterMap s.entry :=
      List.filterMap_congr fun other member => others fun same => notBefore (same ▸ member)
    have last : after.filterMap (s.tell row call).entry = after.filterMap s.entry :=
      List.filterMap_congr fun other member => others fun same => notAfter (same ▸ member)
    rw [first, last]
  have elsewhere {op : AioOp} (apart : op ≠ call.op) :
      (s.accepted op).filterMap (s.tell row call).entry = (s.accepted op).filterMap s.entry := by
    refine List.filterMap_congr fun other member => others ?_
    rintro rfl
    obtain ⟨call', there, rfl, -⟩ := (ordered.taken op other).mp member
    exact apart (congrArg AioCall.op (Option.some.inj (there.symm.trans here)))
  have tells (op : AioOp) : (s.tell row call).told op =
      if op = call.op then s.told op ++ [told] else s.told op := by
    change Function.update _ _ _ _ = _
    by_cases same : op = call.op
    · subst same
      rw [Function.update_self, if_pos rfl]
    · rw [Function.update_of_ne same, if_neg same]
  refine ⟨fun op exclusive => ?_, fun op => ?_⟩
  · rw [tells]
    change _ = (s.accepted op).filterMap (s.tell row call).entry
    split
    · rename_i same
      subst same
      have last : after.filterMap s.entry = [] := by
        refine List.filterMap_eq_nil_iff.mpr fun other member => ?_
        have order := ordered.order call.op exclusive
        rw [parts] at order
        have behind := (List.pairwise_cons.mp (List.pairwise_append.mp order).2.1).1 other member
        have late : other ∈ s.accepted call.op := by
          rw [parts]
          exact List.mem_append_right before (List.mem_cons_of_mem row member)
        obtain ⟨call', there, -⟩ := (ordered.taken call.op other).mp late
        have idle := (behind call call' here there).2 (by rw [place]; rfl)
        exact entry_none there (idle_untold idle)
      rw [is, last, spoken.told call.op exclusive, was, last, List.append_nil]
    · rename_i apart
      rw [elsewhere apart]
      exact spoken.told op exclusive
  · rw [tells]
    change List.Perm _ ((s.accepted op).filterMap (s.tell row call).entry)
    split
    · rename_i same
      subst same
      rw [is]
      refine ((spoken.every call.op).append_right [told]).trans ?_
      rw [was, List.append_assoc]
      have behind : (after.filterMap s.entry ++ [told]).Perm (told :: after.filterMap s.entry) :=
        List.perm_append_comm
      exact behind.append_left _
    · rename_i apart
      rw [elsewhere apart]
      exact spoken.every op

theorem Spoken.moved (spoken : s.Spoken) (ordered : s.Ordered) (here : s.calls[row]? = some call)
    (moved : Moved s row call s') : s'.Spoken := by
  have put (next : AioCall) (told : next.place.told = call.place.told) (ec : next.ec = call.ec)
      (n : next.n = call.n) : (s.put row next).entry = s.entry :=
    entry_put next here told fun _ => ⟨ec, n⟩
  cases moved with
  | stay => exact spoken
  | @ask place asks no =>
      exact spoken.aside (put (call.to place)
        ((untaken no).2.2.2.trans (untaken asks).2.2.2.symm) rfl rfl) rfl rfl
  | claim asks free => exact spoken.claim here asks
  | @proceed next same before after idle idle' =>
      have entries : (s.put row next).entry = s.entry :=
        entry_put next here ((idle_untold idle').trans (idle_untold idle).symm) fun told =>
          absurd ((idle_untold idle').symm.trans told) Bool.false_ne_true
      exact spoken.aside entries rfl rfl
  | fail place =>
      exact spoken.aside (put (call.to .failed) (by rw [place]; rfl) rfl rfl) rfl rfl
  | handle place free =>
      exact spoken.aside (put (call.to .handling) (by rw [place]; rfl) rfl rfl) rfl rfl
  | clear place =>
      exact spoken.aside (put (call.to .cleared) (by rw [place]; rfl) rfl rfl) rfl rfl
  | keep place alive =>
      exact spoken.aside (put (call.to .kept) (by rw [place]; rfl) rfl rfl) rfl rfl
  | decide_ place gone =>
      exact spoken.aside (put (call.to .calling) (by rw [place]; rfl) rfl rfl) rfl rfl
  | tell place => exact spoken.tell ordered here place
  | @leave place from_ quiet off taken settled same =>
      exact spoken.aside (put (call.to place) same rfl rfl) rfl rfl

end

/-- The executor has seen the handle alive. -/
def passing (call : AioCall) : Bool := decide (call.place = .kept ∨ call.place = .calling)

/-- And the engine too. -/
def decided (call : AioCall) : Bool := decide (call.place = .calling)

/-- Once the handle or the engine is freed, only a handler that had looked before may call back. -/
structure Final (s : Aio) : Prop where
  alive : s.alive = true → s.late = 0
  freed : s.alive = false → s.late + s.calls.countP passing ≤ 1
  here : s.gone = false → s.lost = 0
  gone : s.gone = true → s.lost + s.calls.countP decided ≤ 1

section

variable {s s' : Aio} {row : Nat} {call : AioCall}

theorem put_count_le (here : s.calls[row]? = some call) (next : AioCall) {kind : AioCall → Bool}
    (fewer : kind next = true → kind call = true) :
    (s.put row next).calls.countP kind ≤ s.calls.countP kind := by
  have moved := put_count here next kind
  cases before : kind next with
  | false =>
      rw [before, Bool.toNat_false] at moved
      omega
  | true =>
      rw [before, fewer before] at moved
      omega

theorem Final.put (final : s.Final) (here : s.calls[row]? = some call) (next : AioCall)
    (passes : passing next = true → passing call = true ∨ s.alive = true)
    (decides : decided next = true → decided call = true ∨ s.gone = false) :
    (s.put row next).Final := by
  refine ⟨final.alive, fun dead => ?_, final.here, fun lost => ?_⟩
  · have fewer := put_count_le here next fun yes => (passes yes).resolve_right
      fun alive => absurd (dead.symm.trans alive) Bool.false_ne_true
    have most := final.freed dead
    change s.late + _ ≤ 1
    omega
  · have fewer := put_count_le here next fun yes => (decides yes).resolve_right
      fun there => absurd (there.symm.trans lost) Bool.false_ne_true
    have most := final.gone lost
    change s.lost + _ ≤ 1
    omega

/-- The flags and the calls may change beside what is counted here. -/
theorem Final.aside (final : s.Final) (alive : s'.alive = s.alive) (gone : s'.gone = s.gone)
    (late : s'.late = s.late) (lost : s'.lost = s.lost) (calls : s'.calls = s.calls) : s'.Final := by
  refine ⟨?_, ?_, ?_, ?_⟩
  · rw [alive, late]
    exact final.alive
  · rw [alive, late, calls]
    exact final.freed
  · rw [gone, lost]
    exact final.here
  · rw [gone, lost, calls]
    exact final.gone

theorem Final.tell (final : s.Final) (here : s.calls[row]? = some call)
    (place : call.place = .calling) : (s.tell row call).Final := by
  have passed := put_count here (call.to .inCallback) passing
  have decided_ := put_count here (call.to .inCallback) decided
  have was : passing call = true ∧ decided call = true := by
    constructor <;> simp [passing, decided, place]
  have is : passing (call.to .inCallback) = false ∧ decided (call.to .inCallback) = false :=
    ⟨rfl, rfl⟩
  rw [was.1, is.1, Bool.toNat_true, Bool.toNat_false] at passed
  rw [was.2, is.2, Bool.toNat_true, Bool.toNat_false] at decided_
  change (s.calls.set row (call.to .inCallback)).countP passing + 1 = _ at passed
  change (s.calls.set row (call.to .inCallback)).countP decided + 1 = _ at decided_
  refine ⟨fun alive => ?_, fun dead => ?_, fun there => ?_, fun gone => ?_⟩
  · change s.late + (!s.alive).toNat = 0
    rw [show s.alive = true from alive, final.alive alive]
    rfl
  · have most := final.freed dead
    change s.late + (!s.alive).toNat + (s.calls.set row (call.to .inCallback)).countP passing ≤ 1
    rw [show s.alive = false from dead]
    simp only [Bool.not_false, Bool.toNat_true]
    omega
  · change s.lost + s.gone.toNat = 0
    rw [show s.gone = false from there, final.here there]
    rfl
  · have most := final.gone gone
    change s.lost + s.gone.toNat + (s.calls.set row (call.to .inCallback)).countP decided ≤ 1
    rw [show s.gone = true from gone]
    simp only [Bool.toNat_true]
    omega

theorem Final.moved (final : s.Final) (here : s.calls[row]? = some call)
    (moved : Moved s row call s') : s'.Final := by
  have quiet {next : AioCall} (off : next.place.onStrand = false) :
      passing next = false ∧ decided next = false := by
    unfold passing decided
    constructor <;> refine decide_eq_false fun at_ => ?_
    · rcases at_ with at_ | at_ <;> · rw [at_] at off; cases off
    · rw [at_] at off
      cases off
  have still (next : AioCall) (none : passing next = false ∧ decided next = false) :
      (s.put row next).Final :=
    final.put here next (fun yes => absurd (none.1.symm.trans yes) Bool.false_ne_true)
      fun yes => absurd (none.2.symm.trans yes) Bool.false_ne_true
  cases moved with
  | stay => exact final
  | @ask place asks no => exact still (call.to place) (quiet (untaken no).2.1)
  | claim asks free => exact (still (call.to .claimed) ⟨rfl, rfl⟩).aside rfl rfl rfl rfl rfl
  | @proceed next same before after idle idle' => exact still next (quiet (idle_off idle'))
  | fail place => exact (still (call.to .failed) ⟨rfl, rfl⟩).aside rfl rfl rfl rfl rfl
  | handle place free => exact (still (call.to .handling) ⟨rfl, rfl⟩).aside rfl rfl rfl rfl rfl
  | clear place => exact (still (call.to .cleared) ⟨rfl, rfl⟩).aside rfl rfl rfl rfl rfl
  | keep place alive => exact final.put here (call.to .kept) (fun _ => Or.inr alive) nofun
  | decide_ place gone =>
      refine final.put here (call.to .calling) (fun _ => Or.inl ?_) fun _ => Or.inr gone
      simp [passing, place]
  | tell place => exact final.tell here place
  | @leave place from_ quiet_ off taken settled same =>
      exact (still (call.to place) (quiet off)).aside rfl rfl rfl rfl rfl

end

/-- What holds after any moves. -/
structure Sound (s : Aio) : Prop where
  flags : s.Flags
  ordered : s.Ordered
  spoken : s.Spoken
  final : s.Final

theorem Sound.moved {s s' : Aio} {row : Nat} {call : AioCall} (sound : s.Sound)
    (here : s.calls[row]? = some call) (moved : Moved s row call s') : s'.Sound :=
  ⟨sound.flags.moved here moved, sound.ordered.moved sound.flags here moved,
    sound.spoken.moved sound.ordered here moved, sound.final.moved here moved⟩

theorem start_entry (s : Aio) (op : AioOp) : (s.step (.start op)).entry = s.entry := by
  have calls : (s.step (.start op)).calls = s.calls ++ [{ op := op }] := rfl
  funext row
  unfold entry
  rw [calls]
  by_cases inside : row < s.calls.length
  · rw [List.getElem?_append_left inside]
  · rw [List.getElem?_append_right (Nat.le_of_not_lt inside),
      List.getElem?_eq_none (Nat.le_of_not_lt inside)]
    cases row - s.calls.length <;> rfl

theorem Sound.start {s : Aio} (sound : s.Sound) (op : AioOp) : (s.step (.start op)).Sound := by
  have calls : (s.step (.start op)).calls = s.calls ++ [{ op := op }] := rfl
  have counts {kind : AioCall → Bool} (off : kind { op := op } = false) :
      (s.step (.start op)).calls.countP kind = s.calls.countP kind := by
    rw [calls, List.countP_append, List.countP_singleton, off]
    rfl
  have old {kind : AioOp} {row : Nat} (among : row ∈ s.accepted kind) :
      (s.step (.start op)).calls[row]? = s.calls[row]? := by
    obtain ⟨call, there, -⟩ := (sound.ordered.taken kind row).mp among
    exact List.getElem?_append_left (List.getElem?_eq_some_iff.mp there).1
  refine ⟨⟨fun kind exclusive => ?_, ?_⟩, ⟨fun kind row => ?_, sound.ordered.once, ?_⟩,
    sound.spoken.aside (s.start_entry op) rfl rfl, ?_⟩
  · rw [counts (by rw [holding]; exact Bool.and_false _)]
    exact sound.flags.single kind exclusive
  · rw [counts rfl]
    exact sound.flags.serial
  · constructor
    · intro among
      have same := old among
      rw [same]
      exact (sound.ordered.taken kind row).mp among
    · rintro ⟨call, there, same, taken⟩
      rw [calls, List.getElem?_append] at there
      split at there
      · exact (sound.ordered.taken kind row).mpr ⟨call, there, same, taken⟩
      · obtain rfl := List.mem_singleton.mp (List.mem_of_getElem? there)
        cases taken
  · intro kind exclusive
    refine (sound.ordered.order kind exclusive).imp_of_mem fun one two precedes a b => ?_
    rw [old one, old two]
    exact precedes a b
  · exact ⟨sound.final.alive, fun dead => by rw [counts rfl]; exact sound.final.freed dead,
      sound.final.here, fun gone => by rw [counts rfl]; exact sound.final.gone gone⟩

theorem passing_running {s : Aio} (flags : s.Flags) {kind : AioCall → Bool}
    (runs : ∀ call, kind call = true → running call = true) : s.calls.countP kind ≤ 1 := by
  have fewer : s.calls.countP kind ≤ s.calls.countP running :=
    List.countP_mono_left fun call _ => runs call
  have most := Bool.toNat_le s.busy
  rw [flags.serial] at fewer
  omega

theorem Sound.free {s : Aio} (sound : s.Sound) : (s.step .free).Sound := by
  have most : s.calls.countP passing ≤ 1 := by
    refine passing_running sound.flags fun call passes => ?_
    rcases of_decide_eq_true passes with here | here <;> · rw [running, here]; rfl
  refine ⟨⟨sound.flags.single, sound.flags.serial⟩, sound.ordered.aside rfl rfl,
    sound.spoken.aside rfl rfl rfl, ⟨nofun, fun _ => ?_, sound.final.here, sound.final.gone⟩⟩
  change s.late + s.calls.countP passing ≤ 1
  cases alive : s.alive with
  | true =>
      have none := sound.final.alive alive
      omega
  | false => exact sound.final.freed alive

theorem Sound.freeEngine {s : Aio} (sound : s.Sound) : (s.step .freeEngine).Sound := by
  have most : s.calls.countP decided ≤ 1 := by
    refine passing_running sound.flags fun call decides => ?_
    rw [running, of_decide_eq_true decides]
    rfl
  refine ⟨⟨sound.flags.single, sound.flags.serial⟩, sound.ordered.aside rfl rfl,
    sound.spoken.aside rfl rfl rfl, ⟨sound.final.alive, sound.final.freed, nofun, fun _ => ?_⟩⟩
  change s.lost + s.calls.countP decided ≤ 1
  cases gone : s.gone with
  | false =>
      have none := sound.final.here gone
      omega
  | true => exact sound.final.gone gone

theorem Sound.step {s : Aio} (sound : s.Sound) (move : AioMove) : (s.step move).Sound := by
  cases move with
  | start op => exact sound.start op
  | advance row outcome =>
      unfold Aio.step
      dsimp only
      split
      · rename_i call here
        exact sound.moved here (s.advance_moved row call outcome)
      · exact sound
  | complete row ec n =>
      unfold Aio.step
      dsimp only
      split
      · rename_i call here
        split
        · rename_i submitted
          exact sound.moved here (.proceed rfl (by rw [submitted]; rfl) rfl
            (by rw [submitted]; rfl) rfl)
        · exact sound
      · exact sound
  | free => exact sound.free
  | freeEngine => exact sound.freeEngine
  | close => exact ⟨⟨sound.flags.single, sound.flags.serial⟩, sound.ordered.aside rfl rfl,
      sound.spoken.aside rfl rfl rfl, sound.final.aside rfl rfl rfl rfl rfl⟩
  | open_ => exact ⟨⟨sound.flags.single, sound.flags.serial⟩, sound.ordered.aside rfl rfl,
      sound.spoken.aside rfl rfl rfl, sound.final.aside rfl rfl rfl rfl rfl⟩

theorem run_sound (moves : List AioMove) : (run moves).Sound := by
  suffices ∀ s : Aio, s.Sound → (moves.foldl Aio.step s).Sound by
    refine this {} ⟨⟨fun _ _ => rfl, rfl⟩, ⟨fun _ _ => ?_, fun _ => List.nodup_nil,
      fun _ _ => List.Pairwise.nil⟩, ⟨fun _ _ => rfl, fun _ => List.Perm.nil⟩,
      ⟨fun _ => rfl, nofun, fun _ => rfl, nofun⟩⟩
    exact ⟨fun among => absurd among List.not_mem_nil, nofun⟩
  induction moves with
  | nil => exact fun _ sound => sound
  | cons move rest ih => exact fun s sound => ih _ (sound.step move)

/-- What the asynchronous operations on a handle keep to. -/
structure Orderly (s : Aio) : Prop where
  single : ∀ op, op.exclusive = true → s.calls.countP (holding op) = (s.pending op).toNat
  serial : s.calls.countP running ≤ 1
  told : ∀ op, op.exclusive = true → s.told op = (s.accepted op).filterMap s.entry
  every : ∀ op, (s.told op).Perm ((s.accepted op).filterMap s.entry)
  once : ∀ op, ((s.told op).map Prod.fst).Nodup
  freed : s.alive = false → s.late ≤ 1
  gone : s.gone = true → s.lost ≤ 1

theorem entry_rows (s : Aio) (rows : List Nat) :
    ((rows.filterMap s.entry).map Prod.fst).Sublist rows := by
  induction rows with
  | nil => exact List.Sublist.refl []
  | cons row rest ih =>
      rw [List.filterMap_cons]
      cases said : s.entry row with
      | none => exact ih.cons row
      | some told =>
          have same : told.1 = row := by
            unfold entry at said
            split at said
            · split at said
              · exact (congrArg Prod.fst (Option.some.inj said)).symm
              · cases said
            · cases said
          subst same
          exact ih.cons_cons told.1

/-- Whatever the threads and the executor do in whatever order: of each kind but `sendto` one
operation is with the engine at a time, and its flag says so; their callbacks begin in the order in
which they were accepted, each at most once and with what the engine completed it with; and when
the handle or the engine is freed at most one callback, already decided on, begins afterwards. -/
theorem operations_orderly (moves : List AioMove) : (run moves).Orderly := by
  have sound := run_sound moves
  refine ⟨sound.flags.single, ?_, sound.spoken.told, sound.spoken.every, fun op => ?_,
    fun dead => ?_, fun gone => ?_⟩
  · rw [sound.flags.serial]
    exact Bool.toNat_le _
  · have rows := (sound.spoken.every op).map Prod.fst
    exact rows.nodup_iff.mpr ((entry_rows _ _).nodup (sound.ordered.once op))
  · exact (Nat.le_add_right _ _).trans (sound.final.freed dead)
  · exact (Nat.le_add_right _ _).trans (sound.final.gone gone)

end Aio

end Tunio
