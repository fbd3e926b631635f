import Mathlib.Data.List.Perm.Basic
import Mathlib.Data.List.Nodup
import Mathlib.Tactic.Tauto
import Tunio.TunioImpl

/-!
Generations are kept apart in every run: reads of an earlier one change nothing, each slot has at
most one read of the present one, and no earlier `close` reaches its device or its writer.
-/

namespace Tunio

/-! The slots. -/

/-- The slot from which on the loop of `start_read` has still to start the reads. -/
def Opener.next : Opener → Option Nat
  | .arming next => some next
  | _ => none

/-- The slots and the reads of the present generation.  A slot without a read is being handled,
or `open` has still to start it. -/
structure Slots (current : List SlotRead) (inflight : List Bool) (perQueue : Nat)
    (running next : Option Nat) : Prop where
  known : ∀ slot, inflight[slot]? = some true ↔ ∃ read ∈ current, read.slot = slot
  single : (current.map SlotRead.slot).Nodup
  placed : ∀ read ∈ current, read.queue = read.slot / perQueue
  waits : ∀ slot, inflight[slot]? = some false → running = some slot ∨ ∃ k ∈ next, k ≤ slot
  handling : ∀ slot ∈ running, inflight[slot]? = some false
  before : ∀ k ∈ next, (∀ slot ∈ running, slot < k) ∧ ∀ read ∈ current, read.slot < k

namespace Slots

variable {current : List SlotRead} {inflight : List Bool} {perQueue : Nat}
  {running next : Option Nat} {read : SlotRead}

theorem fresh (count perQueue : Nat) : Slots [] (List.replicate count false) perQueue none (some 0) := by
  refine ⟨?_, List.nodup_nil, fun _ member => absurd member List.not_mem_nil,
    fun slot _ => Or.inr ⟨0, rfl, Nat.zero_le _⟩, fun slot member => absurd member (Option.not_mem_none slot),
    fun k _ => ⟨fun slot member => absurd member (Option.not_mem_none slot),
      fun _ member => absurd member List.not_mem_nil⟩⟩
  intro slot
  constructor
  · intro taken
    have member := List.mem_of_getElem? taken
    exact absurd (List.eq_of_mem_replicate member) Bool.true_eq_false_eq_False
  · rintro ⟨read, member, _⟩
    exact absurd member List.not_mem_nil

theorem perm (slots : Slots current inflight perQueue running next) {other : List SlotRead}
    (same : other.Perm current) : Slots other inflight perQueue running next := by
  refine ⟨?_, (same.map _).nodup_iff.mpr slots.single,
    fun read member => slots.placed read (same.mem_iff.mp member), slots.waits, slots.handling,
    fun k member => ⟨(slots.before k member).1,
      fun read inside => (slots.before k member).2 read (same.mem_iff.mp inside)⟩⟩
  intro slot
  rw [slots.known slot]
  exact exists_congr fun read => and_congr_left fun _ => same.mem_iff.symm

/-- The completion of a read frees its slot. -/
theorem take (slots : Slots (read :: current) inflight perQueue none next) :
    Slots current (inflight.set read.slot false) perQueue (some read.slot) next := by
  have busy : inflight[read.slot]? = some true :=
    (slots.known read.slot).mpr ⟨read, List.mem_cons_self, rfl⟩
  obtain ⟨inside, _⟩ := List.getElem?_eq_some_iff.mp busy
  have single := slots.single
  rw [List.map_cons, List.nodup_cons] at single
  have apart {other : SlotRead} (member : other ∈ current) : other.slot ≠ read.slot :=
    fun same => single.1 (same ▸ List.mem_map_of_mem member)
  refine ⟨?_, single.2, fun other member => slots.placed other (List.mem_cons_of_mem _ member),
    ?_, ?_, ?_⟩
  · intro slot
    rw [List.getElem?_set]
    by_cases same : read.slot = slot
    · rw [if_pos same, ← same, if_pos inside]
      constructor
      · intro wrong
        cases wrong
      · rintro ⟨other, member, place⟩
        exact absurd place (apart member)
    · rw [if_neg same, slots.known slot]
      constructor
      · rintro ⟨other, member, place⟩
        rcases List.mem_cons.mp member with rfl | later
        · exact absurd place same
        · exact ⟨other, later, place⟩
      · rintro ⟨other, member, place⟩
        exact ⟨other, List.mem_cons_of_mem _ member, place⟩
  · intro slot free
    rw [List.getElem?_set] at free
    by_cases same : read.slot = slot
    · exact Or.inl (congrArg some same)
    · rw [if_neg same] at free
      rcases slots.waits slot free with none | later
      · cases none
      · exact Or.inr later
  · intro slot member
    cases member
    rw [List.getElem?_set_self inside]
  · intro k member
    have before := (slots.before k member).2
    refine ⟨?_, fun other inside => before other (List.mem_cons_of_mem _ inside)⟩
    intro slot same
    cases same
    exact before read List.mem_cons_self

/-- What setting the mark of a free slot does. -/
theorem mark (slots : Slots current inflight perQueue running next) {slot : Nat}
    (free : inflight[slot]? = some false) (place : read.slot = slot) :
    (∀ other, (inflight.set slot true)[other]? = some true ↔
      ∃ read' ∈ read :: current, read'.slot = other) ∧
      ((read :: current).map SlotRead.slot).Nodup := by
  obtain ⟨inside, _⟩ := List.getElem?_eq_some_iff.mp free
  constructor
  · intro other
    rw [List.getElem?_set]
    by_cases same : slot = other
    · rw [if_pos same, if_pos inside]
      exact ⟨fun _ => ⟨read, List.mem_cons_self, place.trans same⟩, fun _ => rfl⟩
    · rw [if_neg same, slots.known other]
      constructor
      · rintro ⟨old, member, at_⟩
        exact ⟨old, List.mem_cons_of_mem _ member, at_⟩
      · rintro ⟨old, member, at_⟩
        rcases List.mem_cons.mp member with rfl | later
        · exact absurd (place.symm.trans at_) same
        · exact ⟨old, later, at_⟩
  · rw [List.map_cons, List.nodup_cons]
    refine ⟨fun member => ?_, slots.single⟩
    obtain ⟨old, inside', same⟩ := List.mem_map.mp member
    have taken := (slots.known slot).mpr ⟨old, inside', same.trans place⟩
    rw [free] at taken
    cases taken

/-- The slot that was handled is read again. -/
theorem rearm {slot : Nat} (slots : Slots current inflight perQueue (some slot) next)
    (place : read.slot = slot) (queue : read.queue = slot / perQueue) :
    Slots (read :: current) (inflight.set slot true) perQueue none next := by
  have free := slots.handling slot rfl
  obtain ⟨known, single⟩ := slots.mark free place
  refine ⟨known, single, ?_, ?_, fun other member => absurd member (Option.not_mem_none other), ?_⟩
  · intro other member
    rcases List.mem_cons.mp member with rfl | old
    · rw [queue, place]
    · exact slots.placed other old
  · intro other still
    rw [List.getElem?_set] at still
    by_cases same : slot = other
    · rw [if_pos same] at still
      split at still <;> cases still
    · rw [if_neg same] at still
      rcases slots.waits other still with handled | later
      · cases handled
        exact absurd rfl same
      · exact Or.inr later
  · intro k member
    obtain ⟨running, reads⟩ := slots.before k member
    refine ⟨fun other inside => absurd inside (Option.not_mem_none other), ?_⟩
    intro other inside
    rcases List.mem_cons.mp inside with rfl | old
    · rw [place]
      exact running slot rfl
    · exact reads other old

/-- The next slot of the loop of `start_read` has no read. -/
theorem unarmed {k : Nat} (slots : Slots current inflight perQueue running (some k))
    (inside : k < inflight.length) : inflight[k]? = some false := by
  cases shape : inflight[k] with
  | false => rw [List.getElem?_eq_getElem inside, shape]
  | true =>
      have taken : inflight[k]? = some true := by rw [List.getElem?_eq_getElem inside, shape]
      obtain ⟨read, member, place⟩ := (slots.known k).mp taken
      exact absurd ((slots.before k rfl).2 read member) (place ▸ Nat.lt_irrefl _)

/-- The loop of `start_read` starts its next slot. -/
theorem arm {k : Nat} (slots : Slots current inflight perQueue running (some k))
    (inside : k < inflight.length) (place : read.slot = k) (queue : read.queue = k / perQueue) :
    Slots (read :: current) (inflight.set k true) perQueue running (some (k + 1)) := by
  have free := slots.unarmed inside
  obtain ⟨known, single⟩ := slots.mark free place
  obtain ⟨handled, reads⟩ := slots.before k rfl
  refine ⟨known, single, ?_, ?_, ?_, ?_⟩
  · intro other member
    rcases List.mem_cons.mp member with rfl | old
    · rw [queue, place]
    · exact slots.placed other old
  · intro other still
    rw [List.getElem?_set] at still
    by_cases same : k = other
    · rw [if_pos same] at still
      split at still <;> cases still
    · rw [if_neg same] at still
      rcases slots.waits other still with handled | ⟨first, start, later⟩
      · exact Or.inl handled
      · cases start
        exact Or.inr ⟨k + 1, rfl, by omega⟩
  · intro slot member
    have apart : k ≠ slot := fun same => absurd (handled slot member) (same ▸ Nat.lt_irrefl _)
    rw [List.getElem?_set_ne apart]
    exact slots.handling slot member
  · intro first start
    cases start
    refine ⟨fun slot member => Nat.lt_succ_of_lt (handled slot member), ?_⟩
    intro other member
    rcases List.mem_cons.mp member with rfl | old
    · rw [place]
      exact Nat.lt_succ_self k
    · exact Nat.lt_succ_of_lt (reads other old)

/-- The loop of `start_read` is through. -/
theorem through {k : Nat} (slots : Slots current inflight perQueue running (some k))
    (outside : ¬k < inflight.length) : Slots current inflight perQueue running none := by
  refine ⟨slots.known, slots.single, slots.placed, ?_, slots.handling,
    fun k member => absurd member (Option.not_mem_none k)⟩
  intro slot free
  rcases slots.waits slot free with handled | ⟨first, start, later⟩
  · exact Or.inl handled
  · cases start
    obtain ⟨inside, _⟩ := List.getElem?_eq_some_iff.mp free
    omega

end Slots

/-! The invariant. -/

namespace TunioImpl

/-- The reads whose completion was not handled yet. -/
def pending (s : TunioImpl) : List SlotRead := s.reads ++ s.tasks.filterMap StrandTask.read

def current (s : TunioImpl) : List SlotRead := s.pending.filter fun read => read.epoch = s.epoch

/-- The generation of what `open` has put in place. -/
def owner (s : TunioImpl) : Nat := if s.opener = .built then s.epoch + 1 else s.epoch

/-- The device, the writer and the read slots belong together. -/
structure Equipped (generation : Nat) (device : Option TunDevice) (writer : Option WriterRef)
    (bufs : List PacketBuffer) (inflight : List Bool) : Prop where
  device : ∃ open_ ∈ device, open_.generation = generation
  writer : writer = some { generation := generation }
  bufs : bufs.length = inflight.length

structure Armed (s : TunioImpl) : Prop where
  equipped : Equipped s.epoch s.device s.writer s.readBufs s.readInflight
  slots : Slots s.current s.readInflight s.slotsPerQueue s.running s.opener.next
  phase : s.opener = .idle ∨ ∃ next, s.opener = .arming next

structure Sound (s : TunioImpl) : Prop where
  past : ∀ read ∈ s.pending, read.epoch ≤ s.epoch
  bodies : ∀ epoch tcp udp, .closeBody epoch tcp udp ∈ s.tasks →
    epoch ≤ s.epoch ∧ (s.isOpen = true → epoch < s.epoch)
  armed : s.isOpen = true → s.Armed
  tearing : s.opener = .tearing → s.isOpen = false ∧ ∃ before after,
    s.tasks = before ++ .teardown :: after ∧ .teardown ∉ before ∧
      ∀ task ∈ after, task.read.isSome = true
  alone : s.opener ≠ .tearing → .teardown ∉ s.tasks
  quiet : s.opener = .building ∨ s.opener = .built → s.isOpen = false ∧ s.running = none ∧
    (s.held = true ∨ ∀ task ∈ s.tasks, task.read.isSome = true)
  ready : s.opener = .built →
    Equipped (s.epoch + 1) s.device s.writer s.readBufs s.readInflight ∧
      ∃ count, s.readInflight = List.replicate count false
  free : s.held = true → s.opener = .building ∨ s.opener = .built ∨ ∃ next, s.opener = .arming next
  device : ∀ device ∈ s.device, device.generation = s.owner
  writer : ∀ writer ∈ s.writer, writer.generation = s.owner

theorem Sound.fresh : Sound {} := by
  refine ⟨fun _ member => absurd member List.not_mem_nil,
    fun _ _ _ member => absurd member List.not_mem_nil, nofun, nofun,
    fun _ => List.not_mem_nil, fun phase => ?_, nofun, nofun,
    fun device member => absurd member (Option.not_mem_none device),
    fun writer member => absurd member (Option.not_mem_none writer)⟩
  rcases phase with wrong | wrong <;> cases wrong

variable {s : TunioImpl}

/-- An engine that is open is in no phase of `open` before its publication. -/
theorem Sound.published (sound : Sound s) (isOpen : s.isOpen = true) :
    s.opener ≠ .tearing ∧ s.opener ≠ .building ∧ s.opener ≠ .built := by
  rcases (sound.armed isOpen).phase with idle | ⟨next, arming⟩
  · rw [idle]
    exact ⟨nofun, nofun, nofun⟩
  · rw [arming]
    exact ⟨nofun, nofun, nofun⟩

/-- The engine is closed; its tasks may get the body of a `close`. -/
theorem Sound.shut (sound : Sound s) (isOpen : s.isOpen = true) :
    Sound { s with isOpen := false } := by
  obtain ⟨tearing, building, built⟩ := sound.published isOpen
  refine ⟨sound.past, fun epoch tcp udp member => ⟨(sound.bodies epoch tcp udp member).1, nofun⟩,
    nofun, fun phase => absurd phase tearing, sound.alone, fun phase => ?_,
    fun phase => absurd phase built, sound.free, sound.device, sound.writer⟩
  rcases phase with phase | phase
  · exact absurd phase building
  · exact absurd phase built

theorem Sound.close (sound : Sound s) : Sound s.close := by
  unfold TunioImpl.close
  split
  · rename_i isOpen
    have shut := sound.shut isOpen
    obtain ⟨tearing, building, built⟩ := sound.published isOpen
    have pending : ({ s with isOpen := false, tasks := s.tasks ++
        [.closeBody s.epoch s.tcp s.udp] } : TunioImpl).pending = s.pending := by
      unfold TunioImpl.pending
      rw [List.filterMap_append]
      simp [StrandTask.read]
    refine ⟨?_, ?_, nofun, fun phase => absurd phase tearing, fun phase => ?_, fun phase => ?_,
      fun phase => absurd phase built, sound.free, sound.device, sound.writer⟩
    · rw [pending]
      exact sound.past
    · intro epoch tcp udp member
      refine ⟨?_, nofun⟩
      rcases List.mem_append.mp member with old | new
      · exact (sound.bodies epoch tcp udp old).1
      · cases List.mem_singleton.mp new
        exact Nat.le_refl _
    · intro member
      rcases List.mem_append.mp member with old | new
      · exact sound.alone phase old
      · cases List.mem_singleton.mp new
    · rcases phase with phase | phase
      · exact absurd phase building
      · exact absurd phase built
  · exact sound

theorem Sound.closeEngines (sound : Sound s) (tcp udp : Option Nat) :
    Sound (s.closeEngines tcp udp) :=
  { sound with armed := fun isOpen => { sound.armed isOpen with } }

/-- The device and the writer go; nothing that was open or built had them. -/
theorem Sound.closeDevice (sound : Sound s) (shut : s.isOpen = false) (unbuilt : s.opener ≠ .built) :
    Sound s.closeDevice := by
  refine ⟨sound.past, sound.bodies, fun isOpen => ?_, sound.tearing, sound.alone, sound.quiet,
    fun phase => absurd phase unbuilt, sound.free,
    fun device member => absurd member (Option.not_mem_none device), ?_⟩
  · rw [show s.closeDevice.isOpen = s.isOpen from rfl, shut] at isOpen
    cases isOpen
  · intro writer member
    obtain ⟨old, known, rfl⟩ := Option.map_eq_some_iff.mp member
    exact sound.writer old known

theorem Sound.closeBody (sound : Sound s) {epoch : Nat} (tcp udp : Option Nat)
    (own : epoch = s.epoch → s.isOpen = false ∧ s.opener ≠ .built) :
    Sound (s.closeBody epoch tcp udp) := by
  have closed := sound.closeEngines tcp udp
  unfold TunioImpl.closeBody
  dsimp only
  split
  · rename_i same
    obtain ⟨shut, unbuilt⟩ := own same
    exact closed.closeDevice shut unbuilt
  · exact closed

theorem Sound.closeInline (sound : Sound s) : Sound s.closeInline := by
  unfold TunioImpl.closeInline
  split
  · rename_i isOpen
    exact (sound.shut isOpen).closeBody s.tcp s.udp fun _ => ⟨rfl, (sound.published isOpen).2.2⟩
  · exact sound

theorem Sound.teardown (sound : Sound s) (shut : s.isOpen = false) (unbuilt : s.opener ≠ .built) :
    Sound s.teardown :=
  (sound.closeEngines s.tcp s.udp).closeDevice shut unbuilt

/-! Starting a read. -/

def nextRead (s : TunioImpl) (index : Nat) : SlotRead :=
  { number := s.issued, slot := index, queue := index / s.slotsPerQueue, epoch := s.epoch }

theorem startReadSlot_shut (shut : s.isOpen = false) (index : Nat) : s.startReadSlot index = s := by
  unfold startReadSlot
  exact if_pos (Or.inl (by simp [shut]))

theorem startReadSlot_eq (isOpen : s.isOpen = true) {index : Nat}
    (free : s.readInflight[index]? = some false) : s.startReadSlot index = { s with
      readInflight := s.readInflight.set index true
      issued := s.issued + 1
      reads := s.reads ++ [s.nextRead index] } := by
  obtain ⟨inside, unset⟩ := List.getElem?_eq_some_iff.mp free
  have ready : ¬(¬s.isOpen = true ∨ index ≥ s.readInflight.length ∨
      s.readInflight.getD index false = true) := by
    simp [isOpen, inside, unset]
  unfold startReadSlot
  rw [if_neg ready]
  rfl

theorem pending_issue (reads : List SlotRead) (tasks : List StrandTask) (read : SlotRead) :
    ((reads ++ [read]) ++ tasks.filterMap StrandTask.read).Perm
      (read :: (reads ++ tasks.filterMap StrandTask.read)) := by
  rw [List.append_assoc]
  exact List.perm_middle

/-- A read that is started is one of the present generation. -/
theorem current_issue {after : TunioImpl} {index : Nat} (epoch : after.epoch = s.epoch)
    (tasks : after.tasks = s.tasks) (reads : after.reads = s.reads ++ [s.nextRead index]) :
    after.current.Perm (s.nextRead index :: s.current) := by
  have all : after.pending.Perm (s.nextRead index :: s.pending) := by
    unfold pending
    rw [tasks, reads]
    exact pending_issue _ _ _
  have kept : (s.nextRead index :: s.pending).filter (fun read => read.epoch = s.epoch) =
      s.nextRead index :: s.current := List.filter_cons_of_pos (decide_eq_true rfl)
  unfold current at kept ⊢
  rw [epoch, ← kept]
  exact all.filter _

theorem past_issue (sound : Sound s) {after : TunioImpl} {index : Nat} (epoch : after.epoch = s.epoch)
    (tasks : after.tasks = s.tasks) (reads : after.reads = s.reads ++ [s.nextRead index]) :
    ∀ read ∈ after.pending, read.epoch ≤ after.epoch := by
  intro read member
  unfold pending at member
  rw [tasks, reads] at member
  rw [epoch]
  rcases List.mem_cons.mp ((pending_issue _ _ _).mem_iff.mp member) with rfl | old
  · exact Nat.le_refl _
  · exact sound.past read old

/-- The executor starts the read of the slot it has handled. -/
theorem Sound.resume (sound : Sound s) {index : Nat} (running : s.running = some index) :
    Sound { s.startReadSlot index with running := none } := by
  have settled (phase : s.opener = .building ∨ s.opener = .built) : False := by
    have none := (sound.quiet phase).2.1
    rw [running] at none
    cases none
  cases isOpen : s.isOpen with
  | false =>
      rw [startReadSlot_shut isOpen]
      refine { sound with
        armed := fun wrong => ?_
        quiet := fun phase => (settled phase).elim }
      rw [show ({ s with running := none } : TunioImpl).isOpen = s.isOpen from rfl, isOpen] at wrong
      cases wrong
  | true =>
      have armed := sound.armed isOpen
      have slots := armed.slots
      rw [running] at slots
      rw [startReadSlot_eq isOpen (slots.handling index rfl)]
      refine ⟨past_issue sound rfl rfl rfl, sound.bodies, fun _ => ⟨?_, ?_, armed.phase⟩,
        sound.tearing, sound.alone, fun phase => (settled phase).elim,
        fun phase => (settled (Or.inr phase)).elim, sound.free, sound.device, sound.writer⟩
      · have bufs := armed.equipped.bufs
        exact ⟨armed.equipped.device, armed.equipped.writer, by rw [bufs, List.length_set]⟩
      · exact (slots.rearm (show (s.nextRead index).slot = index from rfl) rfl).perm (current_issue rfl rfl rfl)

/-- One round of the loop of `start_read`. -/
theorem Sound.openArms (sound : Sound s) : Sound s.openArms := by
  unfold TunioImpl.openArms
  split
  · rename_i k arming
    have tearing : s.opener ≠ .tearing := by rw [arming]; nofun
    have building : s.opener ≠ .building := by rw [arming]; nofun
    have built : s.opener ≠ .built := by rw [arming]; nofun
    have owner : s.owner = s.epoch := if_neg built
    have device := sound.device
    have writer := sound.writer
    rw [owner] at device writer
    have start : s.opener.next = some k := by rw [arming]; rfl
    split
    · rename_i inside
      cases isOpen : s.isOpen with
      | false =>
          rw [startReadSlot_shut isOpen]
          refine ⟨sound.past, sound.bodies, fun wrong => ?_, nofun, fun _ => sound.alone tearing,
            ?_, nofun, fun _ => Or.inr (Or.inr ⟨k + 1, rfl⟩), device, writer⟩
          · rw [show ({ s with opener := .arming (k + 1) } : TunioImpl).isOpen = s.isOpen from rfl,
              isOpen] at wrong
            cases wrong
          · rintro (phase | phase) <;> cases phase
      | true =>
          have armed := sound.armed isOpen
          have slots := armed.slots
          rw [start] at slots
          rw [startReadSlot_eq isOpen (slots.unarmed inside)]
          refine ⟨past_issue sound rfl rfl rfl, sound.bodies, fun _ => ⟨?_, ?_, Or.inr ⟨k + 1, rfl⟩⟩,
            nofun, fun _ => sound.alone tearing, ?_, nofun, fun _ => Or.inr (Or.inr ⟨k + 1, rfl⟩),
            device, writer⟩
          · have bufs := armed.equipped.bufs
            exact ⟨armed.equipped.device, armed.equipped.writer, by rw [bufs, List.length_set]⟩
          · exact (slots.arm inside (show (s.nextRead k).slot = k from rfl) rfl).perm (current_issue rfl rfl rfl)
          · rintro (phase | phase) <;> cases phase
    · rename_i outside
      refine ⟨sound.past, sound.bodies, fun isOpen => ?_, nofun, fun _ => sound.alone tearing, ?_,
        nofun, nofun, device, writer⟩
      · have armed := sound.armed isOpen
        have slots := armed.slots
        rw [start] at slots
        exact ⟨armed.equipped, slots.through outside, Or.inl rfl⟩
      · rintro (phase | phase) <;> cases phase
  · exact sound

/-! The steps of `open`. -/

theorem Sound.openStart (sound : Sound s) : Sound s.openStart := by
  unfold TunioImpl.openStart
  split
  · exact sound
  · rename_i idle
    have idle : s.opener = .idle := not_ne_iff.mp idle
    have owner : s.owner = s.epoch := if_neg (by rw [idle]; nofun)
    have device := sound.device
    have writer := sound.writer
    rw [owner] at device writer
    have alone := sound.alone (by rw [idle]; nofun)
    have held : s.held ≠ true := fun held => by
      rcases sound.free held with phase | phase | ⟨_, phase⟩ <;> rw [idle] at phase <;> cases phase
    split
    · have pending : ({ s with isOpen := false, tasks := s.tasks ++ [.teardown]
                               opener := .tearing } : TunioImpl).pending = s.pending := by
        unfold TunioImpl.pending
        rw [List.filterMap_append]
        simp [StrandTask.read]
      refine ⟨?_, fun epoch tcp udp member => ⟨?_, nofun⟩, nofun, fun _ => ⟨rfl, s.tasks, [], rfl,
        alone, fun _ member => absurd member List.not_mem_nil⟩, fun phase => absurd rfl phase, ?_,
        nofun, fun wrong => absurd wrong held, device, writer⟩
      · rw [pending]
        exact sound.past
      · rcases List.mem_append.mp member with old | new
        · exact (sound.bodies epoch tcp udp old).1
        · cases List.mem_singleton.mp new
      · rintro (phase | phase) <;> cases phase
    · rename_i nothing
      have shut : s.isOpen = false := by
        unfold hadEngine at nothing
        simp only [Bool.or_eq_true, not_or, Bool.not_eq_true] at nothing
        exact nothing.1.1.1.1
      split
      · rename_i waited
        refine ⟨sound.past, sound.bodies, fun wrong => ?_, nofun, fun _ => alone,
          fun _ => ⟨shut, waited.1, Or.inr waited.2⟩, nofun, fun _ => Or.inl rfl, device, writer⟩
        rw [show ({ s with opener := .building } : TunioImpl).isOpen = s.isOpen from rfl, shut]
          at wrong
        cases wrong
      · exact sound

theorem Sound.openInline (sound : Sound s) : Sound s.openInline := by
  unfold TunioImpl.openInline
  split
  · exact sound
  · rename_i start
    obtain ⟨idle, running⟩ := not_or.mp start
    have idle : s.opener = .idle := not_ne_iff.mp idle
    have running : s.running = none := not_ne_iff.mp running
    have built : s.opener ≠ .built := by rw [idle]; nofun
    -- What is there is cleared up first; nothing but an open engine has to be.
    obtain ⟨cleared, same, soundCleared, shut, opener, ran⟩ : ∃ cleared,
        (if s.hadEngine = true then ({ s with isOpen := false } : TunioImpl).teardown else s) = cleared ∧
          Sound cleared ∧ cleared.isOpen = false ∧ cleared.opener = .idle ∧ cleared.running = none := by
      refine ⟨_, rfl, ?_⟩
      split
      · refine ⟨?_, rfl, idle, running⟩
        cases isOpen : s.isOpen with
        | true => exact (sound.shut isOpen).teardown rfl built
        | false =>
            have same : ({ s with isOpen := false } : TunioImpl) = s := by rw [← isOpen]
            rw [same]
            exact sound.teardown isOpen built
      · rename_i nothing
        unfold hadEngine at nothing
        simp only [Bool.or_eq_true, not_or, Bool.not_eq_true] at nothing
        exact ⟨sound, nothing.1.1.1.1, idle, running⟩
    dsimp only
    rw [same]
    have owner : cleared.owner = cleared.epoch := if_neg (by rw [opener]; nofun)
    have device := soundCleared.device
    have writer := soundCleared.writer
    rw [owner] at device writer
    refine ⟨soundCleared.past, soundCleared.bodies, fun wrong => ?_, nofun,
      fun _ => soundCleared.alone (by rw [opener]; nofun), fun _ => ⟨shut, ran, Or.inl rfl⟩, nofun,
      fun _ => Or.inl rfl, device, writer⟩
    rw [show ({ cleared with opener := .building, held := true } : TunioImpl).isOpen = cleared.isOpen
      from rfl, shut] at wrong
    cases wrong

theorem Sound.openRefused (sound : Sound s) : Sound s.openRefused := by
  unfold TunioImpl.openRefused
  split
  · rename_i building
    have owner : s.owner = s.epoch := if_neg (by rw [building]; nofun)
    have device := sound.device
    have writer := sound.writer
    rw [owner] at device writer
    refine ⟨sound.past, sound.bodies, fun wrong => ?_, nofun,
      fun _ => sound.alone (by rw [building]; nofun), ?_, nofun, nofun, device, writer⟩
    · rw [show ({ s with opener := .idle, held := false } : TunioImpl).isOpen = s.isOpen from rfl,
        (sound.quiet (Or.inl building)).1] at wrong
      cases wrong
    · rintro (phase | phase) <;> cases phase
  · exact sound

theorem Sound.reset (sound : Sound s) (tearing : s.opener ≠ .tearing) :
    Sound { s.resetOpenState with opener := .idle, held := false } := by
  refine ⟨sound.past, fun epoch tcp udp member => ⟨(sound.bodies epoch tcp udp member).1, nofun⟩,
    nofun, nofun, fun _ => sound.alone tearing, ?_, nofun, nofun,
    fun device member => absurd member (Option.not_mem_none device),
    fun writer member => absurd member (Option.not_mem_none writer)⟩
  rintro (phase | phase) <;> cases phase

theorem Sound.openFails (sound : Sound s) : Sound s.openFails := by
  unfold TunioImpl.openFails
  split
  · exact sound.reset (by simp_all)
  · exact sound.reset (by simp_all)
  · exact sound.reset (by simp_all)
  · exact sound
  · exact sound

theorem Sound.openBuilds (sound : Sound s) (queueCount mtu : Nat) (utunPrefix : Bool) :
    Sound (s.openBuilds queueCount mtu utunPrefix) := by
  unfold TunioImpl.openBuilds
  split
  · rename_i building
    obtain ⟨shut, running, waited⟩ := sound.quiet (Or.inl building)
    have alone := sound.alone (by rw [building]; nofun)
    unfold build
    dsimp only
    split
    · rename_i made
      split at made
      · cases made
      · rename_i buf _
        cases made
        refine ⟨sound.past, sound.bodies, fun wrong => ?_, nofun, fun _ => alone,
          fun _ => ⟨shut, running, waited⟩, fun _ => ⟨⟨⟨_, rfl, rfl⟩, rfl, ?_⟩, _, rfl⟩,
          fun _ => Or.inr (Or.inl rfl), ?_, ?_⟩
        · change s.isOpen = true at wrong
          rw [shut] at wrong
          cases wrong
        · dsimp only
          rw [List.length_replicate, List.length_replicate]
        · intro device member
          cases member
          rfl
        · intro writer member
          cases member
          rfl
    · exact sound.openFails
  · exact sound

theorem Sound.openPublishes (sound : Sound s) : Sound s.openPublishes := by
  unfold TunioImpl.openPublishes
  split
  · rename_i built
    obtain ⟨shut, running, waited⟩ := sound.quiet (Or.inr built)
    obtain ⟨equipped, count, unset⟩ := sound.ready built
    have owner : s.owner = s.epoch + 1 := if_pos built
    have device := sound.device
    have writer := sound.writer
    rw [owner] at device writer
    -- Every read that is pending was started in an earlier generation.
    have none : ({ s with epoch := s.epoch + 1, isOpen := true, opener := .arming 0 } :
        TunioImpl).current = [] := by
      refine List.filter_eq_nil_iff.mpr fun read member => ?_
      have old := sound.past read member
      simp only [decide_eq_true_eq]
      omega
    refine ⟨fun read member => Nat.le_succ_of_le (sound.past read member),
      fun epoch tcp udp member => ?_, fun _ => ⟨equipped, ?_, Or.inr ⟨0, rfl⟩⟩, nofun,
      fun _ => sound.alone (by rw [built]; nofun), ?_, nofun, fun _ => Or.inr (Or.inr ⟨0, rfl⟩),
      device, writer⟩
    · have old := (sound.bodies epoch tcp udp member).1
      exact ⟨Nat.le_succ_of_le old, fun _ => Nat.lt_succ_of_le old⟩
    · rw [none]
      dsimp only
      rw [unset, running]
      exact Slots.fresh count _
    · rintro (phase | phase) <;> cases phase
  · exact sound

/-! The device and the executor. -/

theorem pending_done {position : Nat} {read : SlotRead} (at_ : s.reads[position]? = some read)
    (ec : IoCode) (data : List UInt8) :
    ({ s with
      reads := s.reads.eraseIdx position
      tasks := s.tasks ++ [.readDone read ec data] } : TunioImpl).pending.Perm s.pending := by
  obtain ⟨inside, rfl⟩ := List.getElem?_eq_some_iff.mp at_
  unfold pending
  rw [List.filterMap_append, List.filterMap_cons_some (show StrandTask.read (.readDone _ _ _) = _ from rfl)]
  have moved := List.perm_append_singleton s.reads[position]
    (s.reads.eraseIdx position ++ s.tasks.filterMap StrandTask.read)
  have back := (List.getElem_cons_eraseIdx_perm inside).append_right
    (s.tasks.filterMap StrandTask.read)
  rw [List.append_assoc] at moved
  exact moved.trans back

theorem Sound.deviceDone (sound : Sound s) (position : Nat) (ec : IoCode) (data : List UInt8) :
    Sound (s.deviceDone position ec data) := by
  unfold TunioImpl.deviceDone
  split
  · exact sound
  · rename_i read at_
    have same := pending_done at_ ec data
    have later {task : StrandTask} (member : task ∈ s.tasks ++ [.readDone read ec data]) :
        task ∈ s.tasks ∨ task = .readDone read ec data :=
      (List.mem_append.mp member).imp_right List.mem_singleton.mp
    refine ⟨fun other member => sound.past other (same.mem_iff.mp member), ?_, fun isOpen => ?_,
      fun phase => ?_, fun phase member => ?_, fun phase => ?_, sound.ready, sound.free,
      sound.device, sound.writer⟩
    · intro epoch tcp udp member
      rcases later member with old | new
      · exact sound.bodies epoch tcp udp old
      · cases new
    · have armed := sound.armed isOpen
      exact ⟨armed.equipped, armed.slots.perm (same.filter _), armed.phase⟩
    · obtain ⟨shut, before, after, tasks, none, reads⟩ := sound.tearing phase
      refine ⟨shut, before, after ++ [.readDone read ec data], ?_, none, ?_⟩
      · change s.tasks ++ _ = _
        rw [tasks, List.append_assoc, List.cons_append]
      · intro task member
        rcases List.mem_append.mp member with old | new
        · exact reads task old
        · rw [List.mem_singleton.mp new]
          rfl
    · rcases later member with old | new
      · exact sound.alone phase old
      · cases new
    · obtain ⟨shut, running, waited⟩ := sound.quiet phase
      refine ⟨shut, running, waited.imp_right fun reads task member => ?_⟩
      rcases later member with old | new
      · exact reads task old
      · rw [new]
        rfl

/-- The executor takes a task that is no read. -/
theorem Sound.pop (sound : Sound s) {task : StrandTask} {rest : List StrandTask}
    (tasks : s.tasks = task :: rest) (noRead : task.read = none) (other : task ≠ .teardown) :
    Sound { s with tasks := rest } := by
  have inTasks {later : StrandTask} (member : later ∈ rest) : later ∈ s.tasks :=
    tasks ▸ List.mem_cons_of_mem _ member
  have same : ({ s with tasks := rest } : TunioImpl).pending = s.pending := by
    unfold pending
    rw [tasks, List.filterMap_cons_none noRead]
  refine ⟨?_, fun epoch tcp udp member => sound.bodies epoch tcp udp (inTasks member),
    fun isOpen => ?_, fun phase => ?_, fun phase member => sound.alone phase (inTasks member),
    fun phase => ?_, sound.ready, sound.free, sound.device, sound.writer⟩
  · rw [same]
    exact sound.past
  · have armed := sound.armed isOpen
    refine ⟨armed.equipped, ?_, armed.phase⟩
    have current : ({ s with tasks := rest } : TunioImpl).current = s.current := by
      unfold TunioImpl.current
      rw [same]
    rw [current]
    exact armed.slots
  · obtain ⟨shut, before, after, split, none, reads⟩ := sound.tearing phase
    rw [tasks] at split
    cases before with
    | nil => exact absurd (List.cons.inj split).1 other
    | cons first before =>
        obtain ⟨_, behind⟩ := List.cons.inj split
        exact ⟨shut, before, after, behind, fun member => none (List.mem_cons_of_mem _ member), reads⟩
  · obtain ⟨shut, running, waited⟩ := sound.quiet phase
    exact ⟨shut, running, waited.imp_right fun reads task member => reads task (inTasks member)⟩

/-- The executor clears up for an `open` that waits. -/
theorem Sound.popTeardown (sound : Sound s) {rest : List StrandTask}
    (tasks : s.tasks = .teardown :: rest) (running : s.running = none) :
    Sound { s.teardown with tasks := rest, opener := .building } := by
  have phase : s.opener = .tearing := by
    by_contra other
    exact sound.alone other (tasks ▸ List.mem_cons_self)
  obtain ⟨shut, before, after, split, none, reads⟩ := sound.tearing phase
  have behind : rest = after := by
    rw [tasks] at split
    cases before with
    | nil => exact (List.cons.inj split).2
    | cons first before =>
        obtain ⟨same, _⟩ := List.cons.inj split
        exact absurd (same ▸ List.mem_cons_self) none
  have unbuilt : s.opener ≠ .built := by rw [phase]; nofun
  have cleared := sound.teardown shut unbuilt
  have owner : s.owner = s.epoch := if_neg unbuilt
  have writer := cleared.writer
  rw [show s.teardown.owner = s.owner from rfl, owner] at writer
  have same : ({ s.teardown with tasks := rest, opener := .building } : TunioImpl).pending =
      s.pending := by
    unfold pending
    rw [tasks]
    rfl
  refine ⟨?_, fun epoch tcp udp member => ?_, fun wrong => ?_, nofun, fun _ member => ?_,
    fun _ => ⟨shut, running, Or.inr (behind ▸ reads)⟩, nofun, fun _ => Or.inl rfl,
    fun device member => absurd member (Option.not_mem_none device), writer⟩
  · rw [same]
    exact sound.past
  · have task := reads _ (behind ▸ member)
    cases task
  · change s.isOpen = true at wrong
    rw [shut] at wrong
    cases wrong
  · have task := reads _ (behind ▸ member)
    cases task

/-- What is left of the pending reads when the executor takes one. -/
theorem pending_pop {read : SlotRead} {ec : IoCode} {data : List UInt8} {rest : List StrandTask}
    (tasks : s.tasks = .readDone read ec data :: rest) :
    s.pending.Perm (read :: ({ s with tasks := rest } : TunioImpl).pending) := by
  unfold pending
  rw [tasks, List.filterMap_cons_some (show StrandTask.read (.readDone read ec data) = _ from rfl)]
  exact List.perm_middle

/-- The state when the executor has taken a read, and perhaps freed its slot. -/
theorem Sound.popRead (sound : Sound s) {read : SlotRead} {ec : IoCode} {data : List UInt8}
    {rest : List StrandTask} (tasks : s.tasks = .readDone read ec data :: rest) {after : TunioImpl}
    (pending : after.pending = ({ s with tasks := rest } : TunioImpl).pending)
    (left : after.tasks = rest) (epoch : after.epoch = s.epoch) (isOpen : after.isOpen = s.isOpen)
    (opener : after.opener = s.opener) (held : after.held = s.held)
    (device : after.device = s.device) (writer : after.writer = s.writer)
    (unpublished : s.opener = .building ∨ s.opener = .built → after.running = none ∧
      after.readBufs = s.readBufs ∧ after.readInflight = s.readInflight)
    (armed : s.isOpen = true → after.readBufs.length = after.readInflight.length ∧
      Slots after.current after.readInflight after.slotsPerQueue after.running s.opener.next) :
    Sound after := by
  have inTasks {later : StrandTask} (member : later ∈ rest) : later ∈ s.tasks :=
    tasks ▸ List.mem_cons_of_mem _ member
  have owner : after.owner = s.owner := by
    unfold TunioImpl.owner
    rw [opener, epoch]
  refine ⟨fun other member => ?_, fun old tcp udp member => ?_, fun open_ => ?_, fun phase => ?_,
    fun phase member => ?_, fun phase => ?_, fun phase => ?_, fun busy => ?_, ?_, ?_⟩
  · rw [pending] at member
    rw [epoch]
    exact sound.past other ((pending_pop tasks).mem_iff.mpr (List.mem_cons_of_mem _ member))
  · rw [left] at member
    rw [epoch, isOpen]
    exact sound.bodies old tcp udp (inTasks member)
  · rw [isOpen] at open_
    have before := sound.armed open_
    obtain ⟨bufs, slots⟩ := armed open_
    refine ⟨⟨?_, ?_, bufs⟩, opener ▸ slots, opener ▸ before.phase⟩
    · rw [device, epoch]
      exact before.equipped.device
    · rw [writer, epoch]
      exact before.equipped.writer
  · rw [opener] at phase
    obtain ⟨shut, before, behind, split, none, reads⟩ := sound.tearing phase
    rw [tasks] at split
    cases before with
    | nil => cases (List.cons.inj split).1
    | cons first before =>
        obtain ⟨_, remaining⟩ := List.cons.inj split
        exact ⟨isOpen.trans shut, before, behind, left.trans remaining,
          fun member => none (List.mem_cons_of_mem _ member), reads⟩
  · rw [left] at member
    exact sound.alone (opener ▸ phase) (inTasks member)
  · rw [opener] at phase
    obtain ⟨shut, _, waited⟩ := sound.quiet phase
    refine ⟨isOpen.trans shut, (unpublished phase).1, ?_⟩
    rw [held, left]
    exact waited.imp_right fun reads task member => reads task (inTasks member)
  · rw [opener] at phase
    obtain ⟨_, bufs, inflight⟩ := unpublished (Or.inr phase)
    rw [epoch, device, writer, bufs, inflight]
    exact sound.ready phase
  · rw [held] at busy
    rw [opener]
    exact sound.free busy
  · rw [device, owner]
    exact sound.device
  · rw [writer, owner]
    exact sound.writer

/-- A read that comes too late. -/
def Stale (s : TunioImpl) (read : SlotRead) : Prop := s.isOpen = false ∨ read.epoch ≠ s.epoch

theorem onRead_stale {read : SlotRead} (stale : s.Stale read) (ec : IoCode) (data : List UInt8) :
    s.onRead read ec data = { s with ignored := s.ignored ++ [read.number] } := by
  unfold onRead
  exact if_pos (stale.imp_left fun shut => by simp [shut])

/-- A read of the present generation finds its buffer. -/
theorem Sound.found (sound : Sound s) {read : SlotRead} {ec : IoCode} {data : List UInt8}
    {rest : List StrandTask} (tasks : s.tasks = .readDone read ec data :: rest)
    (present : ¬s.Stale read) :
    s.isOpen = true ∧ s.current.Perm (read :: ({ s with tasks := rest } : TunioImpl).current) ∧
      ∃ buf, s.readBufs[read.slot]? = some buf := by
  obtain ⟨open_, epoch⟩ := not_or.mp present
  have isOpen : s.isOpen = true := by simpa using open_
  have epoch : read.epoch = s.epoch := not_ne_iff.mp epoch
  have armed := sound.armed isOpen
  have current : s.current.Perm (read :: ({ s with tasks := rest } : TunioImpl).current) := by
    have kept : (read :: ({ s with tasks := rest } : TunioImpl).pending).filter
        (fun read => read.epoch = s.epoch) = read :: ({ s with tasks := rest } : TunioImpl).current :=
      List.filter_cons_of_pos (decide_eq_true epoch)
    rw [← kept]
    exact (pending_pop tasks).filter _
  refine ⟨isOpen, current, ?_⟩
  have busy := (armed.slots.known read.slot).mpr
    ⟨read, current.mem_iff.mpr List.mem_cons_self, rfl⟩
  obtain ⟨inside, _⟩ := List.getElem?_eq_some_iff.mp busy
  exact ⟨_, List.getElem?_eq_getElem (armed.equipped.bufs ▸ inside)⟩

/-- What the completion of a read of the present generation does. -/
theorem onRead_present {read : SlotRead} (present : ¬s.Stale read) {buf : PacketBuffer}
    (found : s.readBufs[read.slot]? = some buf) (ec : IoCode) (data : List UInt8) :
    (ec ≠ .success ∧
      ∃ failed : TunioImpl, failed = { s with
          readInflight := s.readInflight.set read.slot false
          failed := s.failed ++ [read.number]
          running := some read.slot } ∧
        s.onRead read ec data = if ec ≠ .operationAborted then failed.closeInline else failed) ∨
    (ec = .success ∧ ∃ filled,
      (buf.fill data).commit (data.take buf.writableSize).length = some filled ∧
        s.onRead read ec data = ({ s with
          readInflight := s.readInflight.set read.slot false } : TunioImpl).processRead read filled) := by
  have current : ¬(¬s.isOpen = true ∨ read.epoch ≠ s.epoch) := fun stale =>
    present (stale.imp_left Bool.eq_false_of_not_eq_true)
  unfold onRead
  rw [if_neg current]
  dsimp only
  by_cases failed : ec ≠ .success
  · rw [if_pos failed]
    exact Or.inl ⟨failed, _, rfl, rfl⟩
  · rw [if_neg failed, found]
    obtain ⟨filled, committed⟩ := buf.fill_commit data
    dsimp only
    rw [committed]
    exact Or.inr ⟨not_ne_iff.mp failed, filled, rfl, rfl⟩

/-- Handling a packet touches the counters, the slot's buffer and what was handled. -/
theorem processRead_spec (s : TunioImpl) (read : SlotRead) (buf : PacketBuffer) :
    ∃ rxPackets rxDropped handled, s.processRead read buf = { s with
      readBufs := s.readBufs.set read.slot buf.reset
      processed := s.processed ++ [read.number]
      running := some read.slot
      rxPackets := rxPackets
      rxDropped := rxDropped
      handled := handled } := by
  unfold processRead
  dsimp only
  split
  · exact ⟨_, _, _, rfl⟩
  · exact ⟨_, _, _, rfl⟩

theorem Sound.onRead (sound : Sound s) (running : s.running = none) {read : SlotRead} {ec : IoCode}
    {data : List UInt8} {rest : List StrandTask}
    (tasks : s.tasks = .readDone read ec data :: rest) :
    Sound (({ s with tasks := rest } : TunioImpl).onRead read ec data) := by
  by_cases stale : s.Stale read
  · rw [onRead_stale (s := { s with tasks := rest }) stale]
    refine sound.popRead tasks rfl rfl rfl rfl rfl rfl rfl rfl (fun _ => ⟨running, rfl, rfl⟩)
      fun isOpen => ?_
    have armed := sound.armed isOpen
    have other : read.epoch ≠ s.epoch := stale.resolve_left (by simp [isOpen])
    have same : s.current.Perm ({ s with tasks := rest } : TunioImpl).current := by
      have dropped : (read :: ({ s with tasks := rest } : TunioImpl).pending).filter
          (fun read => read.epoch = s.epoch) = ({ s with tasks := rest } : TunioImpl).current :=
        List.filter_cons_of_neg (by simp [other])
      rw [← dropped]
      exact (pending_pop tasks).filter _
    exact ⟨armed.equipped.bufs, armed.slots.perm same.symm⟩
  · obtain ⟨isOpen, current, buf, found⟩ := sound.found tasks stale
    have armed := sound.armed isOpen
    have slots := armed.slots.perm current.symm
    rw [running] at slots
    obtain ⟨_, building, built⟩ := sound.published isOpen
    have unpublished (phase : s.opener = .building ∨ s.opener = .built) : False :=
      phase.elim building built
    have bufs := armed.equipped.bufs
    rcases onRead_present (s := { s with tasks := rest }) stale found ec data with
      ⟨_, failed, shape, result⟩ | ⟨_, filled, _, result⟩
    · have taken : Sound failed := by
        rw [shape]
        exact sound.popRead tasks rfl rfl rfl rfl rfl rfl rfl rfl
          (fun phase => (unpublished phase).elim)
          fun _ => ⟨by rw [List.length_set]; exact bufs, slots.take⟩
      rw [result]
      split
      · exact taken.closeInline
      · exact taken
    · obtain ⟨rxPackets, rxDropped, handled, same⟩ := processRead_spec
        { s with tasks := rest, readInflight := s.readInflight.set read.slot false } read filled
      rw [result, same]
      exact sound.popRead tasks rfl rfl rfl rfl rfl rfl rfl rfl
        (fun phase => (unpublished phase).elim)
        fun _ => ⟨by rw [List.length_set, List.length_set]; exact bufs, slots.take⟩

theorem Sound.strand (sound : Sound s) : Sound s.strand := by
  unfold TunioImpl.strand
  split
  · exact sound
  · rename_i held
    split
    · rename_i index running
      exact sound.resume running
    · rename_i running
      split
      · exact sound
      · rename_i epoch tcp udp rest tasks
        have popped := sound.pop tasks rfl nofun
        have body := sound.bodies epoch tcp udp (tasks ▸ List.mem_cons_self)
        refine popped.closeBody tcp udp fun same => ⟨?_, fun built => ?_⟩
        · refine Bool.eq_false_of_not_eq_true fun isOpen => ?_
          exact absurd (body.2 isOpen) (same ▸ Nat.lt_irrefl _)
        · obtain ⟨_, _, waited⟩ := sound.quiet (Or.inr built)
          have task := (waited.resolve_left held) _ (tasks ▸ List.mem_cons_self)
          cases task
      · rename_i rest tasks
        exact sound.popTeardown tasks running
      · rename_i read ec data rest tasks
        exact sound.onRead running tasks

theorem Sound.step (sound : Sound s) (event : ImplEvent) : Sound (s.step event) := by
  cases event with
  | openStart => exact sound.openStart
  | openInline => exact sound.openInline
  | openRefused => exact sound.openRefused
  | openFails => exact sound.openFails
  | openBuilds queueCount mtu utunPrefix => exact sound.openBuilds queueCount mtu utunPrefix
  | openPublishes => exact sound.openPublishes
  | openArms => exact sound.openArms
  | close => exact sound.close
  | closeInline => exact sound.closeInline
  | deviceDone position ec data => exact sound.deviceDone position ec data
  | strand => exact sound.strand

theorem Sound.run (sound : Sound s) (events : List ImplEvent) : Sound (s.run events) := by
  induction events generalizing s with
  | nil => exact sound
  | cons event rest ih => exact ih (sound.step event)

/-! Every read is settled once. -/

/-- The reads whose completion was handled. -/
def settled (s : TunioImpl) : List Nat := s.processed ++ s.failed ++ s.ignored

/-- Every read that was started is pending, or was settled once. -/
def Numbered (s : TunioImpl) : Prop :=
  (s.pending.map SlotRead.number ++ s.settled).Perm (List.range s.issued)

theorem Numbered.same (numbered : Numbered s) {after : TunioImpl}
    (pending : after.pending.Perm s.pending) (settled : after.settled = s.settled)
    (issued : after.issued = s.issued) : Numbered after := by
  unfold Numbered
  rw [settled, issued]
  exact ((pending.map _).append_right _).trans numbered

/-- A task that is no read comes or goes. -/
theorem pending_task (s : TunioImpl) (task : StrandTask) (noRead : task.read = none) :
    s.reads ++ (s.tasks ++ [task]).filterMap StrandTask.read = s.pending := by
  rw [List.filterMap_append, List.filterMap_cons_none noRead, List.filterMap_nil, List.append_nil]
  rfl

theorem Numbered.start (numbered : Numbered s) (index : Nat) : Numbered (s.startReadSlot index) := by
  unfold startReadSlot
  split
  · exact numbered
  · dsimp only
    unfold Numbered pending at numbered ⊢
    rw [List.range_succ]
    refine (((pending_issue _ _ _).map _).append_right _).trans ?_
    exact (List.Perm.cons _ numbered).trans (List.perm_append_singleton _ _).symm

theorem Numbered.closeBody (numbered : Numbered s) (epoch : Nat) (tcp udp : Option Nat) :
    Numbered (s.closeBody epoch tcp udp) := by
  unfold TunioImpl.closeBody
  dsimp only
  split
  · exact numbered.same (List.Perm.refl _) rfl rfl
  · exact numbered.same (List.Perm.refl _) rfl rfl

theorem Numbered.closeInline (numbered : Numbered s) : Numbered s.closeInline := by
  unfold TunioImpl.closeInline
  split
  · have shut : Numbered { s with isOpen := false } := numbered.same (List.Perm.refl _) rfl rfl
    exact shut.closeBody _ _ _
  · exact numbered

/-- A read that was taken from the tasks is settled. -/
theorem Numbered.settle (numbered : Numbered s) {read : SlotRead} {ec : IoCode} {data : List UInt8}
    {rest : List StrandTask} (tasks : s.tasks = .readDone read ec data :: rest) {after : TunioImpl}
    (pending : after.pending = ({ s with tasks := rest } : TunioImpl).pending)
    (settled : after.settled.Perm (read.number :: s.settled)) (issued : after.issued = s.issued) :
    Numbered after := by
  unfold Numbered at numbered ⊢
  rw [pending, issued]
  have before := (((pending_pop tasks).map SlotRead.number).append_right s.settled).symm.trans numbered
  rw [List.map_cons, List.cons_append] at before
  exact (settled.append_left _).trans (List.perm_middle.trans before)

theorem Numbered.onRead (numbered : Numbered s) (sound : Sound s) {read : SlotRead} {ec : IoCode}
    {data : List UInt8} {rest : List StrandTask}
    (tasks : s.tasks = .readDone read ec data :: rest) :
    Numbered (({ s with tasks := rest } : TunioImpl).onRead read ec data) := by
  by_cases stale : s.Stale read
  · rw [onRead_stale (s := { s with tasks := rest }) stale]
    refine numbered.settle tasks rfl ?_ rfl
    unfold settled
    rw [← List.append_assoc]
    exact List.perm_append_singleton _ _
  · obtain ⟨_, _, buf, found⟩ := sound.found tasks stale
    rcases onRead_present (s := { s with tasks := rest }) stale found ec data with
      ⟨_, failed, shape, result⟩ | ⟨_, filled, _, result⟩
    · have taken : Numbered failed := by
        rw [shape]
        refine numbered.settle tasks rfl ?_ rfl
        unfold settled
        rw [← List.append_assoc, List.append_assoc]
        exact List.perm_middle
      rw [result]
      split
      · exact taken.closeInline
      · exact taken
    · obtain ⟨rxPackets, rxDropped, handled, same⟩ := processRead_spec
        { s with tasks := rest, readInflight := s.readInflight.set read.slot false } read filled
      rw [result, same]
      refine numbered.settle tasks rfl ?_ rfl
      unfold settled
      rw [List.append_assoc, List.append_assoc, List.append_assoc]
      exact List.perm_middle

theorem Numbered.strand (numbered : Numbered s) (sound : Sound s) : Numbered s.strand := by
  unfold TunioImpl.strand
  split
  · exact numbered
  · split
    · exact (numbered.start _).same (List.Perm.refl _) rfl rfl
    · split
      · exact numbered
      · rename_i epoch tcp udp rest tasks
        have popped : Numbered { s with tasks := rest } := by
          refine numbered.same (List.Perm.of_eq ?_) rfl rfl
          unfold pending
          rw [tasks]
          rfl
        exact popped.closeBody _ _ _
      · rename_i rest tasks
        refine numbered.same (List.Perm.of_eq ?_) rfl rfl
        unfold pending
        rw [tasks]
        rfl
      · rename_i read ec data rest tasks
        exact numbered.onRead sound tasks

theorem Numbered.openFails (numbered : Numbered s) : Numbered s.openFails := by
  unfold TunioImpl.openFails
  split <;> exact numbered

theorem Numbered.step (numbered : Numbered s) (sound : Sound s) (event : ImplEvent) :
    Numbered (s.step event) := by
  cases event with
  | openStart =>
      unfold TunioImpl.step TunioImpl.openStart
      dsimp only
      split
      · exact numbered
      · split
        · exact numbered.same (List.Perm.of_eq (s.pending_task .teardown rfl)) rfl rfl
        · split
          · exact numbered.same (List.Perm.refl _) rfl rfl
          · exact numbered
  | openInline =>
      unfold TunioImpl.step TunioImpl.openInline
      dsimp only
      split
      · exact numbered
      · split
        · exact numbered.same (List.Perm.refl _) rfl rfl
        · exact numbered.same (List.Perm.refl _) rfl rfl
  | openRefused =>
      unfold TunioImpl.step TunioImpl.openRefused
      dsimp only
      split
      · exact numbered.same (List.Perm.refl _) rfl rfl
      · exact numbered
  | openFails => exact numbered.openFails
  | openBuilds queueCount mtu utunPrefix =>
      unfold TunioImpl.step TunioImpl.openBuilds build
      dsimp only
      split
      · split
        · rename_i built
          split at built
          · cases built
          · cases built
            exact numbered.same (List.Perm.refl _) rfl rfl
        · exact numbered.openFails
      · exact numbered
  | openPublishes =>
      unfold TunioImpl.step TunioImpl.openPublishes
      dsimp only
      split
      · exact numbered.same (List.Perm.refl _) rfl rfl
      · exact numbered
  | openArms =>
      unfold TunioImpl.step TunioImpl.openArms
      dsimp only
      split
      · split
        · exact (numbered.start _).same (List.Perm.refl _) rfl rfl
        · exact numbered.same (List.Perm.refl _) rfl rfl
      · exact numbered
  | close =>
      unfold TunioImpl.step TunioImpl.close
      dsimp only
      split
      · exact numbered.same (List.Perm.of_eq (s.pending_task (.closeBody _ _ _) rfl)) rfl rfl
      · exact numbered
  | closeInline => exact numbered.closeInline
  | deviceDone position ec data =>
      unfold TunioImpl.step TunioImpl.deviceDone
      dsimp only
      split
      · exact numbered
      · rename_i read at_
        exact numbered.same (pending_done at_ ec data) rfl rfl
  | strand => exact numbered.strand sound

theorem Numbered.run (numbered : Numbered s) (sound : Sound s) (events : List ImplEvent) :
    Numbered (s.run events) := by
  induction events generalizing s with
  | nil => exact numbered
  | cons event rest ih => exact ih (numbered.step sound event) (sound.step event)

/-! Every run. -/

/-- What the executor is about to do next. -/
def Next (s : TunioImpl) (task : StrandTask) : Prop :=
  s.held = false ∧ s.running = none ∧ ∃ rest, s.tasks = task :: rest

/-- The generations are kept apart. -/
structure Generational (s : TunioImpl) : Prop where
  late : ∀ read ec data, s.Stale read →
    s.onRead read ec data = { s with ignored := s.ignored ++ [read.number] }
  slots : s.isOpen = true →
    Slots s.current s.readInflight s.slotsPerQueue s.running s.opener.next
  armed : s.isOpen = true → s.opener = .idle → s.running = none →
    ∀ slot < s.readInflight.length,
      ∃ read ∈ s.current, read.slot = slot ∧ read.queue = slot / s.slotsPerQueue
  once : (s.pending.map SlotRead.number ++ (s.processed ++ s.failed ++ s.ignored)).Perm
    (List.range s.issued)
  processed : ∀ read data, s.Next (.readDone read .success data) → ¬s.Stale read →
    s.strand.processed = s.processed ++ [read.number] ∧ s.strand.running = some read.slot ∧
      s.strand.strand.reads = s.strand.reads ++
        [{ number := s.issued, slot := read.slot, queue := read.queue, epoch := s.epoch }]
  rearmed : ∀ slot, s.held = false → s.running = some slot → s.isOpen = true →
    s.strand.reads = s.reads ++
      [{ number := s.issued, slot := slot, queue := slot / s.slotsPerQueue, epoch := s.epoch }]
  whole : s.isOpen = true → Equipped s.epoch s.device s.writer s.readBufs s.readInflight
  deferred : ∀ epoch tcp udp, s.Next (.closeBody epoch tcp udp) →
    (∀ device ∈ s.device, device.generation ≠ epoch → s.strand.device = s.device) ∧
      ∀ writer ∈ s.writer, writer.generation ≠ epoch → s.strand.writer = s.writer

theorem Sound.resume_reads (sound : Sound s) {slot : Nat} (held : s.held = false)
    (running : s.running = some slot) (isOpen : s.isOpen = true) :
    s.strand.reads = s.reads ++
      [{ number := s.issued, slot := slot, queue := slot / s.slotsPerQueue, epoch := s.epoch }] := by
  have slots := (sound.armed isOpen).slots
  rw [running] at slots
  unfold TunioImpl.strand
  rw [if_neg (by simp [held]), running]
  dsimp only
  rw [startReadSlot_eq isOpen (slots.handling slot rfl)]
  rfl

/-- A slot of an open engine that is at rest has a read on its own queue. -/
theorem Sound.resting (sound : Sound s) (isOpen : s.isOpen = true) (idle : s.opener = .idle)
    (running : s.running = none) {slot : Nat} (inside : slot < s.readInflight.length) :
    ∃ read ∈ s.current, read.slot = slot ∧ read.queue = slot / s.slotsPerQueue := by
  have slots := (sound.armed isOpen).slots
  have busy : s.readInflight[slot]? = some true := by
    rw [List.getElem?_eq_getElem inside]
    cases shape : s.readInflight[slot] with
    | true => rfl
    | false =>
        have free : s.readInflight[slot]? = some false := by
          rw [List.getElem?_eq_getElem inside, shape]
        rcases slots.waits slot free with handled | ⟨k, start, _⟩
        · rw [running] at handled
          cases handled
        · rw [idle] at start
          cases start
  obtain ⟨read, member, place⟩ := (slots.known slot).mp busy
  exact ⟨read, member, place, place ▸ slots.placed read member⟩

theorem Sound.processes (sound : Sound s) {read : SlotRead} {data : List UInt8}
    (next : s.Next (.readDone read .success data)) (present : ¬s.Stale read) :
    s.strand.processed = s.processed ++ [read.number] ∧ s.strand.running = some read.slot ∧
      s.strand.strand.reads = s.strand.reads ++
        [{ number := s.issued, slot := read.slot, queue := read.queue, epoch := s.epoch }] := by
  obtain ⟨held, running, rest, tasks⟩ := next
  obtain ⟨isOpen, current, buf, found⟩ := sound.found tasks present
  have place : read.queue = read.slot / s.slotsPerQueue :=
    (sound.armed isOpen).slots.placed read (current.mem_iff.mpr List.mem_cons_self)
  have first : s.strand = ({ s with tasks := rest } : TunioImpl).onRead read .success data := by
    unfold TunioImpl.strand
    rw [if_neg (by simp [held]), running]
    dsimp only
    rw [tasks]
  obtain ⟨filled, _, result⟩ : ∃ filled,
      (buf.fill data).commit (data.take buf.writableSize).length = some filled ∧
        ({ s with tasks := rest } : TunioImpl).onRead read .success data = ({ s with
          tasks := rest
          readInflight := s.readInflight.set read.slot false } : TunioImpl).processRead read filled := by
    rcases onRead_present (s := { s with tasks := rest }) present found .success data with
      ⟨failed, _⟩ | ⟨_, done⟩
    · exact absurd rfl failed
    · exact done
  obtain ⟨rxPackets, rxDropped, handled, same⟩ := processRead_spec
    { s with tasks := rest, readInflight := s.readInflight.set read.slot false } read filled
  have after := sound.strand
  have shape := first.trans (result.trans same)
  have ran : s.strand.running = some read.slot := by rw [shape]
  have again := after.resume_reads (by rw [shape]; exact held) ran (by rw [shape]; exact isOpen)
  refine ⟨by rw [shape], ran, ?_⟩
  rw [again, place, shape]

theorem Sound.deferred (sound : Sound s) {epoch : Nat} {tcp udp : Option Nat}
    (next : s.Next (.closeBody epoch tcp udp)) :
    (∀ device ∈ s.device, device.generation ≠ epoch → s.strand.device = s.device) ∧
      ∀ writer ∈ s.writer, writer.generation ≠ epoch → s.strand.writer = s.writer := by
  obtain ⟨held, running, rest, tasks⟩ := next
  have unbuilt : s.opener ≠ .built := fun built => by
    obtain ⟨_, _, waited⟩ := sound.quiet (Or.inr built)
    have task := (waited.resolve_left (by simp [held])) _ (tasks ▸ List.mem_cons_self)
    cases task
  have owner : s.owner = s.epoch := if_neg unbuilt
  have device := sound.device
  have writer := sound.writer
  rw [owner] at device writer
  have first : s.strand = ({ s with tasks := rest } : TunioImpl).closeBody epoch tcp udp := by
    unfold TunioImpl.strand
    rw [if_neg (by simp [held]), running]
    dsimp only
    rw [tasks]
  have apart (other : epoch ≠ s.epoch) :
      s.strand.device = s.device ∧ s.strand.writer = s.writer := by
    rw [first]
    unfold TunioImpl.closeBody
    dsimp only
    split
    · exact absurd (by assumption) other
    · exact ⟨rfl, rfl⟩
  exact ⟨fun d member foreign => (apart fun same => foreign ((device d member).trans same.symm)).1,
    fun w member foreign => (apart fun same => foreign ((writer w member).trans same.symm)).2⟩

end TunioImpl

end Tunio
