import Tunio.Generations
import Tunio.Octets

/-!
A packet on its way through a POSIX device (`tun_device_posix.hpp`): the write puts a family prefix
in front of it where the device has one, the read takes it off, and the engine that reads handles
the packet as it was written.
-/

namespace Tunio

open Octets

/-- `AF_INET`; `AF_INET6` depends on the system. -/
def afInet : UInt32 := 2

namespace PacketBuffer

/-- The buffer with bytes written over a part of its memory. -/
def overwrite (buf : PacketBuffer) (offset : Nat) (data : List UInt8)
    (inside : offset + data.length ≤ buf.storage.length) : PacketBuffer :=
  { buf with
    storage := write buf.storage offset data
    room := (write_length buf.storage data inside).symm ▸ buf.room
    fits := (write_length buf.storage data inside).symm ▸ buf.fits }

/-- The family of the packet, by the version in its first byte. -/
def family (buf : PacketBuffer) (afInet6 : UInt32) : UInt32 :=
  if buf.storage.getD buf.headroom 0 >>> 4 = 6 then afInet6 else afInet

/-- `async_write`: the buffer afterwards and what goes out, or nothing where there is no room for
the prefix. -/
def asyncWrite (buf : PacketBuffer) (utunPrefix : Bool) (afInet6 : UInt32) :
    Option (PacketBuffer × List UInt8) :=
  if utunPrefix then
    if room : buf.headroom < 4 then none
    else
      let buf := buf.overwrite (buf.headroom - 4) (ofLong (buf.family afInet6)) (by
        have inside := buf.room
        rw [ofLong_length]
        omega)
      some (buf, slice buf.storage (buf.headroom - 4) (buf.size + 4))
  else some (buf, buf.bytes)

/-- `async_read`: the buffer and the length the handler is given for a frame that comes in. -/
def asyncRead (buf : PacketBuffer) (utunPrefix : Bool) (frame : List UInt8) : PacketBuffer × Nat :=
  let n := (frame.take buf.writableSize).length
  let filled := buf.fill frame
  if stripped : utunPrefix ∧ n > 4 then
    let base := filled.headroom + filled.size
    (filled.overwrite base (slice filled.storage (base + 4) (n - 4)) (by
      have moved : (slice filled.storage (base + 4) (n - 4)).length ≤ n - 4 :=
        List.length_take_le _ _
      have short : n ≤ buf.writableSize := List.length_take_le _ _
      have inside := buf.fits
      have same : filled.storage.length = buf.storage.length := by
        simp only [filled, fill, List.length_append, List.length_take, List.length_drop]
        unfold writableSize capacity at short
        unfold writableSize capacity
        omega
      have here : base = buf.headroom + buf.size := rfl
      unfold writableSize capacity at short
      omega), n - 4)
  else (filled, n)

end PacketBuffer

/-- What a frame leaves for the handler of a read with so much room. -/
def handedOn (utunPrefix : Bool) (room : Nat) (frame : List UInt8) : List UInt8 :=
  if utunPrefix ∧ (frame.take room).length > 4 then (frame.take room).drop 4 else frame.take room

namespace PacketBuffer

variable {buf buf' : PacketBuffer} {frame : List UInt8} {utunPrefix : Bool} {afInet6 : UInt32}

/-- What goes out is the packet, behind four bytes where the device has a prefix; the packet in the
buffer stays as it is. -/
theorem asyncWrite_frame (wrote : buf.asyncWrite utunPrefix afInet6 = some (buf', frame)) :
    buf'.bytes = buf.bytes ∧
      frame = (if utunPrefix then ofLong (buf.family afInet6) else []) ++ buf.bytes := by
  unfold asyncWrite at wrote
  cases utunPrefix with
  | false =>
      cases wrote
      exact ⟨rfl, rfl⟩
  | true =>
      rw [if_pos rfl] at wrote
      split at wrote
      · cases wrote
      rename_i room
      have inside := buf.room
      have written := drop_write buf.storage (ofLong (buf.family afInet6))
        (by omega : buf.headroom - 4 ≤ buf.storage.length)
      have behind : buf.headroom - 4 + 4 = buf.headroom := by omega
      rw [ofLong_length, behind] at written
      simp only [Option.some.injEq, Prod.mk.injEq] at wrote
      obtain ⟨rfl, rfl⟩ := wrote
      constructor
      · show ((write buf.storage (buf.headroom - 4) (ofLong (buf.family afInet6))).drop
          buf.headroom).take buf.size = (buf.storage.drop buf.headroom).take buf.size
        have later := congrArg (List.drop 4) written
        rw [List.drop_drop, behind, List.drop_left' (ofLong_length _)] at later
        rw [later]
      · show ((write buf.storage (buf.headroom - 4) (ofLong (buf.family afInet6))).drop
          (buf.headroom - 4)).take (buf.size + 4) = ofLong (buf.family afInet6) ++ buf.bytes
        rw [written, List.take_append, ofLong_length, Nat.add_sub_cancel,
          List.take_of_length_le (by rw [ofLong_length]; exact Nat.le_add_left 4 _)]
        rfl

/-- A packet that is not empty is handed on by the device at the other end as it was written. -/
theorem asyncWrite_handedOn (wrote : buf.asyncWrite utunPrefix afInet6 = some (buf', frame))
    (some_ : 0 < buf.size) {room : Nat}
    (fits : buf.size + (if utunPrefix then 4 else 0) ≤ room) :
    handedOn utunPrefix room frame = buf.bytes := by
  obtain ⟨_, rfl⟩ := asyncWrite_frame wrote
  have length := buf.bytes_length
  unfold handedOn
  cases utunPrefix with
  | false =>
      rw [if_neg Bool.false_ne_true, Nat.add_zero] at fits
      rw [if_neg (fun both => Bool.false_ne_true both.1), if_neg Bool.false_ne_true, List.nil_append]
      exact List.take_of_length_le (by omega)
  | true =>
      rw [if_pos rfl] at fits
      have total : (ofLong (buf.family afInet6) ++ buf.bytes).length = buf.size + 4 := by
        rw [List.length_append, ofLong_length, length, Nat.add_comm]
      rw [if_pos rfl, List.take_of_length_le (by omega), if_pos ⟨rfl, by omega⟩]
      exact List.drop_left' (ofLong_length _)

/-! What a read puts in the buffer. -/

theorem fill_storage (buf : PacketBuffer) (data : List UInt8) :
    (buf.fill data).storage =
      write buf.storage (buf.headroom + buf.size) (data.take buf.writableSize) := rfl

theorem fill_length (buf : PacketBuffer) (data : List UInt8) :
    (buf.fill data).storage.length = buf.storage.length := by
  have short : (data.take buf.writableSize).length ≤ buf.writableSize := List.length_take_le _ _
  have inside := buf.fits
  unfold writableSize capacity at short
  rw [fill_storage, write_length]
  unfold writableSize capacity
  omega

/-- A read puts what it hands on behind the packet. -/
theorem asyncRead_bytes (buf : PacketBuffer) (utunPrefix : Bool) (frame : List UInt8) :
    ∃ filled, (buf.asyncRead utunPrefix frame).1.commit (buf.asyncRead utunPrefix frame).2 =
        some filled ∧
      filled.bytes = buf.bytes ++ handedOn utunPrefix buf.writableSize frame := by
  have inside := buf.fits
  have short : (frame.take buf.writableSize).length ≤ buf.writableSize := List.length_take_le _ _
  have memory : buf.storage.length = buf.headroom + buf.size + buf.writableSize := by
    unfold writableSize capacity
    omega
  have length := buf.fill_length frame
  -- the memory behind the packet, after the read itself
  have behind := drop_write buf.storage (frame.take buf.writableSize) inside
  unfold asyncRead handedOn
  dsimp only
  by_cases stripped : utunPrefix = true ∧ (frame.take buf.writableSize).length > 4
  · rw [dif_pos stripped, if_pos stripped]
    have moved : slice (buf.fill frame).storage (buf.headroom + buf.size + 4)
        ((frame.take buf.writableSize).length - 4) = (frame.take buf.writableSize).drop 4 := by
      unfold slice
      rw [fill_storage, ← List.drop_drop, behind,
        List.drop_append_of_le_length (Nat.le_of_lt stripped.2)]
      exact List.take_left' List.length_drop
    refine ⟨_, dif_pos ?_, ?_⟩
    · show _ ≤ (write (buf.fill frame).storage (buf.headroom + buf.size) (slice (buf.fill frame).storage
        (buf.headroom + buf.size + 4) ((frame.take buf.writableSize).length - 4))).length -
          buf.headroom - buf.size
      rw [write_length _ _ (by rw [moved, List.length_drop]; omega), length]
      omega
    · show slice (write (buf.fill frame).storage (buf.headroom + buf.size) (slice (buf.fill frame).storage
        (buf.headroom + buf.size + 4) ((frame.take buf.writableSize).length - 4))) buf.headroom
          (buf.size + ((frame.take buf.writableSize).length - 4)) = _
      have through := slice_through (buf.fill frame).storage
        ((frame.take buf.writableSize).drop 4) (length.symm ▸ inside)
      have before := slice_before buf.storage (frame.take buf.writableSize) inside
      rw [List.length_drop] at through
      rw [moved, through, fill_storage, before]
      rfl
  · rw [dif_neg stripped, if_neg stripped]
    refine ⟨_, dif_pos ?_, ?_⟩
    · show _ ≤ (buf.fill frame).storage.length - buf.headroom - buf.size
      omega
    · exact slice_through buf.storage (frame.take buf.writableSize) inside

theorem fill_bytes (buf : PacketBuffer) {data : List UInt8} {filled : PacketBuffer}
    (committed : (buf.fill data).commit (data.take buf.writableSize).length = some filled) :
    filled.bytes = buf.bytes ++ data.take buf.writableSize := by
  have plain : ¬(false = true ∧ (data.take buf.writableSize).length > 4) := fun both =>
    Bool.false_ne_true both.1
  obtain ⟨filled', committed', bytes⟩ := buf.asyncRead_bytes false data
  have read : buf.asyncRead false data = (buf.fill data, (data.take buf.writableSize).length) := by
    unfold asyncRead
    exact dif_neg plain
  rw [read, committed] at committed'
  cases committed'
  rw [bytes]
  unfold handedOn
  rw [if_neg plain]

end PacketBuffer

/-! The engine that reads. -/

deriving instance DecidableEq for StrandTask

namespace TunioImpl

/-- The read buffers are empty between the reads, and have room for what the device may hand over. -/
structure Clean (s : TunioImpl) : Prop where
  empty : ∀ buf ∈ s.readBufs, buf.size = 0
  room : ∀ device ∈ s.device, ∀ buf ∈ s.readBufs, buf.writableSize = device.readSizeHint

variable {s s' : TunioImpl}

namespace Clean

theorem same (clean : Clean s) (bufs : s'.readBufs = s.readBufs)
    (device : s'.device = s.device ∨ s'.device = none) : Clean s' := by
  refine ⟨bufs ▸ clean.empty, ?_⟩
  rcases device with same | gone
  · rw [same, bufs]
    exact clean.room
  · rw [gone]
    exact fun _ member => absurd member (Option.not_mem_none _)

theorem startReadSlot (clean : Clean s) (index : Nat) : Clean (s.startReadSlot index) := by
  unfold TunioImpl.startReadSlot
  split
  · exact clean
  · exact clean.same rfl (Or.inl rfl)

theorem closeBody (clean : Clean s) (epoch : Nat) (tcp udp : Option Nat) :
    Clean (s.closeBody epoch tcp udp) := by
  unfold TunioImpl.closeBody
  dsimp only
  split
  · exact clean.same rfl (Or.inr rfl)
  · exact clean.same rfl (Or.inl rfl)

theorem closeInline (clean : Clean s) : Clean s.closeInline := by
  have shut : Clean { s with isOpen := false } := clean.same rfl (Or.inl rfl)
  unfold TunioImpl.closeInline
  split
  · exact shut.closeBody _ _ _
  · exact clean

theorem teardown (clean : Clean s) : Clean s.teardown := clean.same rfl (Or.inr rfl)

theorem openFails (clean : Clean s) : Clean s.openFails := by
  have reset (opener : Opener) :
      Clean { s.resetOpenState with opener := opener, held := false } :=
    ⟨fun _ member => absurd member List.not_mem_nil,
      fun _ member => absurd member (Option.not_mem_none _)⟩
  unfold TunioImpl.openFails
  cases s.opener with
  | idle => exact clean
  | tearing => exact clean
  | building => exact reset _
  | built => exact reset _
  | arming next => exact reset _

/-- The buffers are made for the device they read from. -/
theorem openBuilds (clean : Clean s) (queueCount mtu : Nat) (utunPrefix : Bool) :
    Clean (s.openBuilds queueCount mtu utunPrefix) := by
  unfold TunioImpl.openBuilds
  split
  · unfold build
    dsimp only
    split
    · rename_i built made
      split at made
      · cases made
      · rename_i buf fresh
        cases made
        unfold PacketBuffer.new at fresh
        split at fresh
        · cases fresh
          refine ⟨?_, ?_⟩
          · intro buf member
            rw [(List.mem_replicate.mp member).2]
          · intro device here buf member
            cases here
            rw [(List.mem_replicate.mp member).2]
            simp [PacketBuffer.writableSize, PacketBuffer.capacity]
        · cases fresh
    · exact clean.openFails
  · exact clean

/-- A buffer that was read into is empty again, and as large as before. -/
theorem processRead (clean : Clean s) (read : SlotRead) {buf filled : PacketBuffer}
    (found : s.readBufs[read.slot]? = some buf) (headroom : filled.headroom = buf.headroom)
    (length : filled.storage.length = buf.storage.length) : Clean (s.processRead read filled) := by
  have member := List.mem_of_getElem? found
  have empty : filled.reset.size = 0 := rfl
  have room : filled.reset.writableSize = buf.writableSize := by
    have before := clean.empty buf member
    unfold PacketBuffer.writableSize PacketBuffer.capacity
    show filled.storage.length - filled.headroom - 0 = _
    rw [headroom, length, before]
  have bufs : (s.processRead read filled).readBufs = s.readBufs.set read.slot filled.reset := by
    unfold TunioImpl.processRead
    dsimp only
    split <;> rfl
  have device : (s.processRead read filled).device = s.device := by
    unfold TunioImpl.processRead
    dsimp only
    split <;> rfl
  refine ⟨?_, ?_⟩
  · rw [bufs]
    intro other inside
    rcases List.mem_or_eq_of_mem_set inside with old | rfl
    · exact clean.empty other old
    · exact empty
  · rw [bufs, device]
    intro open_ here other inside
    rcases List.mem_or_eq_of_mem_set inside with old | rfl
    · exact clean.room open_ here other old
    · rw [room]
      exact clean.room open_ here buf member

theorem onRead (clean : Clean s) (read : SlotRead) (ec : IoCode) (data : List UInt8) :
    Clean (s.onRead read ec data) := by
  unfold TunioImpl.onRead
  split
  · exact clean.same rfl (Or.inl rfl)
  · dsimp only
    split
    · split
      · exact Clean.closeInline (clean.same rfl (Or.inl rfl))
      · exact clean.same rfl (Or.inl rfl)
    · split
      · exact clean.same rfl (Or.inl rfl)
      · rename_i buf found
        split
        · exact clean.same rfl (Or.inl rfl)
        · rename_i filled committed
          have still : Clean { s with readInflight := s.readInflight.set read.slot false } :=
            clean.same rfl (Or.inl rfl)
          unfold PacketBuffer.commit at committed
          split at committed
          · cases committed
            refine still.processRead read found rfl ?_
            exact buf.fill_length data
          · cases committed

theorem strand (clean : Clean s) : Clean s.strand := by
  unfold TunioImpl.strand
  split
  · exact clean
  · split
    · exact (clean.startReadSlot _).same rfl (Or.inl rfl)
    · have popped (rest : List StrandTask) : Clean { s with tasks := rest } :=
        clean.same rfl (Or.inl rfl)
      split
      · exact clean
      · exact (popped _).closeBody _ _ _
      · exact clean.teardown.same rfl (Or.inl rfl)
      · exact (popped _).onRead _ _ _

theorem step (clean : Clean s) (event : ImplEvent) : Clean (s.step event) := by
  cases event with
  | openBuilds queueCount mtu utunPrefix => exact clean.openBuilds queueCount mtu utunPrefix
  | openFails => exact clean.openFails
  | closeInline => exact clean.closeInline
  | strand => exact clean.strand
  | openStart =>
      show Clean s.openStart
      unfold TunioImpl.openStart
      split
      · exact clean
      · split
        · exact clean.same rfl (Or.inl rfl)
        · split
          · exact clean.same rfl (Or.inl rfl)
          · exact clean
  | openInline =>
      show Clean s.openInline
      unfold TunioImpl.openInline
      split
      · exact clean
      · dsimp only
        split
        · exact clean.same rfl (Or.inr rfl)
        · exact clean.same rfl (Or.inl rfl)
  | openRefused =>
      show Clean s.openRefused
      unfold TunioImpl.openRefused
      split
      · exact clean.same rfl (Or.inl rfl)
      · exact clean
  | openPublishes =>
      show Clean s.openPublishes
      unfold TunioImpl.openPublishes
      split
      · exact clean.same rfl (Or.inl rfl)
      · exact clean
  | openArms =>
      show Clean s.openArms
      unfold TunioImpl.openArms
      split
      · split
        · exact (clean.startReadSlot _).same rfl (Or.inl rfl)
        · exact clean.same rfl (Or.inl rfl)
      · exact clean
  | close =>
      show Clean s.close
      unfold TunioImpl.close
      split
      · exact clean.same rfl (Or.inl rfl)
      · exact clean
  | deviceDone position ec data =>
      show Clean (s.deviceDone position ec data)
      unfold TunioImpl.deviceDone
      split
      · exact clean
      · exact clean.same rfl (Or.inl rfl)

end Clean

theorem run_clean (events : List ImplEvent) : Clean (({} : TunioImpl).run events) := by
  have walk (s : TunioImpl) (clean : Clean s) : Clean (s.run events) := by
    induction events generalizing s with
    | nil => exact clean
    | cons event rest ih => exact ih (s.step event) (clean.step event)
  exact walk _ ⟨fun _ member => absurd member List.not_mem_nil,
    fun _ member => absurd member (Option.not_mem_none _)⟩

/-- What the engine makes of a read: the packet that came in is counted and handled, or dropped. -/
theorem processRead_handled (s : TunioImpl) (read : SlotRead) (buf : PacketBuffer) :
    (s.processRead read buf).handled =
      s.handled ++ (frameLength buf.bytes).toList.map fun total => buf.bytes.take total := by
  unfold processRead
  dsimp only
  cases frameLength buf.bytes with
  | none => exact (List.append_nil _).symm
  | some total => rfl

/-- A read of the present generation hands the engine all that the device read. -/
theorem strand_handles (events : List ImplEvent) {read : SlotRead} {device : TunDevice}
    {data : List UInt8} (next : (({} : TunioImpl).run events).Next (.readDone read .success data))
    (present : ¬(({} : TunioImpl).run events).Stale read)
    (here : (({} : TunioImpl).run events).device = some device)
    (fits : data.length ≤ device.readSizeHint) :
    (({} : TunioImpl).run events).strand.handled = (({} : TunioImpl).run events).handled ++
      (frameLength data).toList.map fun total => data.take total := by
  have clean := run_clean events
  have sound := Sound.fresh.run events
  generalize ({} : TunioImpl).run events = s at *
  obtain ⟨held, running, rest, tasks⟩ := next
  obtain ⟨isOpen, current, buf, found⟩ := sound.found tasks present
  have member := List.mem_of_getElem? found
  have empty := clean.empty buf member
  have room := clean.room device here buf member
  have first : s.strand = ({ s with tasks := rest } : TunioImpl).onRead read .success data := by
    unfold TunioImpl.strand
    rw [if_neg (by simp [held]), running]
    dsimp only
    rw [tasks]
  rw [first]
  rcases onRead_present (s := { s with tasks := rest }) present found .success data with
    ⟨failed, _⟩ | ⟨_, filled, committed, done⟩
  · exact absurd rfl failed
  · have bytes : filled.bytes = data := by
      rw [buf.fill_bytes committed, List.take_of_length_le (room ▸ fits)]
      have none : buf.bytes = [] := List.eq_nil_of_length_eq_zero (buf.bytes_length.trans empty)
      rw [none, List.nil_append]
    rw [done, processRead_handled, bytes]

/-- An IPv4 packet of 21 bytes behind a headroom of four. -/
def sample : PacketBuffer :=
  { storage := [0, 0, 0, 0, 0x45, 0, 0, 21, 0, 0, 0, 0, 64, 17, 0, 0, 10, 0, 0, 1, 10, 0, 0, 2, 7]
    headroom := 4
    size := 21
    room := by decide
    fits := by decide }

def sampleDevice : TunDevice := { queueCount := 64, mtu := 40, utunPrefix := true, generation := 1 }

def sampleRead : SlotRead := { number := 0, slot := 0, queue := 0, epoch := 1 }

/-- An engine is opened over the device, and its first read gets the packet. -/
def sampleRun : List ImplEvent :=
  [.openStart, .openBuilds 64 40 true, .openPublishes] ++ List.replicate 65 .openArms ++
    [.deviceDone 0 .success (handedOn true 44 (ofLong 2 ++ sample.bytes))]

end TunioImpl

end Tunio
