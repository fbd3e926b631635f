import Mathlib.Data.List.Basic
import Tunio.PacketBuffer
import Tunio.QueueWriter

/-!
Opening, closing and reading (`tunio.cpp`).  The engine is used from one thread outside and from
the executor that runs its tasks in order; the steps of an `open` on that thread may fall between
the tasks.  A generation begins when `epoch` grows.
-/

namespace Tunio

def kReadSlots : Nat := 32
def kMaxQueues : Nat := 256

namespace PacketBuffer

/-- What the device reads is put behind the packet, as far as it fits. -/
def fill (buf : PacketBuffer) (data : List UInt8) : PacketBuffer :=
  let place := buf.headroom + buf.size
  let data := data.take buf.writableSize
  have same : (buf.storage.take place ++ data ++ buf.storage.drop (place + data.length)).length =
      buf.storage.length := by
    have short : data.length ≤ buf.writableSize := List.length_take_le _ _
    have fits := buf.fits
    unfold writableSize capacity at short
    simp only [List.length_append, List.length_take, List.length_drop]
    omega
  { buf with
    storage := buf.storage.take place ++ data ++ buf.storage.drop (place + data.length)
    room := same ▸ buf.room
    fits := same ▸ buf.fits }

theorem fill_commit (buf : PacketBuffer) (data : List UInt8) :
    ∃ filled, (buf.fill data).commit (data.take buf.writableSize).length = some filled := by
  have short : (data.take buf.writableSize).length ≤ buf.writableSize := List.length_take_le _ _
  have same : (buf.fill data).writableSize = buf.writableSize := by
    have fits := buf.fits
    unfold fill writableSize capacity
    unfold writableSize capacity at short
    simp only [List.length_append, List.length_take, List.length_drop]
    omega
  unfold commit
  rw [dif_pos (same ▸ short)]
  exact ⟨_, rfl⟩

end PacketBuffer

/-- An open device; `generation` is the one it was opened for. -/
structure TunDevice where
  queueCount : Nat
  mtu : Nat
  utunPrefix : Bool
  generation : Nat
  deriving DecidableEq, Repr

def TunDevice.readSizeHint (device : TunDevice) : Nat :=
  device.mtu + if device.utunPrefix then 4 else 0

/-- The writer of a generation. -/
structure WriterRef where
  generation : Nat
  cancelled : Bool := false
  deriving DecidableEq, Repr

def WriterRef.cancelAll (writer : WriterRef) : WriterRef := { writer with cancelled := true }

/-- A read that the device was asked for; the reads are numbered. -/
structure SlotRead where
  number : Nat
  slot : Nat
  queue : Nat
  epoch : Nat
  deriving DecidableEq, Repr

/-- What waits for the executor: the posted body of a `close`, the clearing up of an `open`, and
reads the device is done with. -/
inductive StrandTask
  | closeBody (epoch : Nat) (tcp udp : Option Nat)
  | teardown
  | readDone (read : SlotRead) (ec : IoCode) (data : List UInt8)

namespace StrandTask

def read : StrandTask → Option SlotRead
  | .readDone read _ _ => some read
  | _ => none

end StrandTask

/-- Where an `open` is. -/
inductive Opener
  | idle
  | tearing
  | building
  | built
  | arming (next : Nat)
  deriving DecidableEq, Repr

/-- The engines are named by their generation.  `reads` are with the device, `running` is the
slot of a read that was handled and is to be read again, `held` says that `open` runs on the
executor itself.  The last fields are the history of the reads. -/
structure TunioImpl where
  isOpen : Bool := false
  epoch : Nat := 0
  mtu : Nat := 1500
  device : Option TunDevice := none
  writer : Option WriterRef := none
  tcp : Option Nat := none
  udp : Option Nat := none
  closedEngines : List Nat := []
  readBufs : List PacketBuffer := []
  readInflight : List Bool := []
  numQueues : Nat := 1
  slotsPerQueue : Nat := kReadSlots
  rxPackets : Nat := 0
  rxDropped : Nat := 0
  opener : Opener := .idle
  held : Bool := false
  tasks : List StrandTask := []
  running : Option Nat := none
  reads : List SlotRead := []
  issued : Nat := 0
  processed : List Nat := []
  handled : List (List UInt8) := []
  failed : List Nat := []
  ignored : List Nat := []

namespace TunioImpl

def hadEngine (s : TunioImpl) : Bool :=
  s.isOpen || s.tcp.isSome || s.udp.isSome || s.writer.isSome || s.device.isSome

def closeEngines (s : TunioImpl) (tcp udp : Option Nat) : TunioImpl :=
  { s with closedEngines := s.closedEngines ++ tcp.toList ++ udp.toList }

def closeDevice (s : TunioImpl) : TunioImpl :=
  { s with writer := s.writer.map WriterRef.cancelAll, device := none }

/-- The clearing up at the start of `open`. -/
def teardown (s : TunioImpl) : TunioImpl := (s.closeEngines s.tcp s.udp).closeDevice

def resetOpenState (s : TunioImpl) : TunioImpl :=
  { ({ s with isOpen := false } : TunioImpl).teardown with
    tcp := none
    udp := none
    writer := none
    readBufs := []
    readInflight := []
    mtu := 1500
    numQueues := 1
    slotsPerQueue := kReadSlots }

/-- The posted part of `close`. -/
def closeBody (s : TunioImpl) (epoch : Nat) (tcp udp : Option Nat) : TunioImpl :=
  let s := s.closeEngines tcp udp
  if epoch = s.epoch then s.closeDevice else s

/-- `close` from outside the executor. -/
def close (s : TunioImpl) : TunioImpl :=
  if s.isOpen then
    { s with isOpen := false, tasks := s.tasks ++ [.closeBody s.epoch s.tcp s.udp] }
  else s

/-- `close` on the executor, where its body runs at once. -/
def closeInline (s : TunioImpl) : TunioImpl :=
  if s.isOpen then ({ s with isOpen := false } : TunioImpl).closeBody s.epoch s.tcp s.udp else s

def startReadSlot (s : TunioImpl) (index : Nat) : TunioImpl :=
  if ¬s.isOpen ∨ index ≥ s.readInflight.length ∨ s.readInflight.getD index false then s
  else
    let read : SlotRead :=
      { number := s.issued, slot := index, queue := index / s.slotsPerQueue, epoch := s.epoch }
    { s with
      readInflight := s.readInflight.set index true
      issued := s.issued + 1
      reads := s.reads ++ [read] }

/-- The length of the packet that was read, or `none` when it is dropped. -/
def frameLength (base : List UInt8) : Option Nat :=
  if base.length < 20 then none
  else if base.getD 0 0 >>> 4 = 4 then
    let total := (base.getD 2 0).toNat * 256 + (base.getD 3 0).toNat
    if total < 20 ∨ total > base.length then none else some total
  else if base.getD 0 0 >>> 4 = 6 then
    let total := 40 + ((base.getD 4 0).toNat * 256 + (base.getD 5 0).toNat)
    if total < 40 ∨ total > base.length then none else some total
  else none

/-- The packet in a slot's buffer is handled. -/
def processRead (s : TunioImpl) (read : SlotRead) (buf : PacketBuffer) : TunioImpl :=
  let s := { s with
    readBufs := s.readBufs.set read.slot buf.reset
    processed := s.processed ++ [read.number]
    running := some read.slot }
  match frameLength buf.bytes with
  | none => { s with rxDropped := s.rxDropped + 1 }
  | some total =>
      { s with rxPackets := s.rxPackets + 1, handled := s.handled ++ [buf.bytes.take total] }

/-- `on_read` up to the point where it starts the next read. -/
def onRead (s : TunioImpl) (read : SlotRead) (ec : IoCode) (data : List UInt8) : TunioImpl :=
  if ¬s.isOpen ∨ read.epoch ≠ s.epoch then { s with ignored := s.ignored ++ [read.number] }
  else
    let s := { s with readInflight := s.readInflight.set read.slot false }
    if ec ≠ .success then
      let s := { s with failed := s.failed ++ [read.number], running := some read.slot }
      if ec ≠ .operationAborted then s.closeInline else s
    else
      match s.readBufs[read.slot]? with
      | none => s
      | some buf =>
          match (buf.fill data).commit (data.take buf.writableSize).length with
          | none => s
          | some buf => s.processRead read buf

/-- The executor goes on: with the read it is handling, or with its next task. -/
def strand (s : TunioImpl) : TunioImpl :=
  if s.held then s
  else
    match s.running with
    | some index => { s.startReadSlot index with running := none }
    | none =>
        match s.tasks with
        | [] => s
        | .closeBody epoch tcp udp :: rest =>
            ({ s with tasks := rest } : TunioImpl).closeBody epoch tcp udp
        | .teardown :: rest => { s.teardown with tasks := rest, opener := .building }
        | .readDone read ec data :: rest => ({ s with tasks := rest } : TunioImpl).onRead read ec data

/-- The device is done with one of its reads. -/
def deviceDone (s : TunioImpl) (position : Nat) (ec : IoCode) (data : List UInt8) : TunioImpl :=
  match s.reads[position]? with
  | none => s
  | some read =>
      { s with
        reads := s.reads.eraseIdx position
        tasks := s.tasks ++ [.readDone read ec data] }

/-- `open` begins outside the executor.  When there is nothing to clear up it does not wait for
the executor; `tunio.hpp` asks its caller to do so, which leaves only reads there. -/
def openStart (s : TunioImpl) : TunioImpl :=
  if s.opener ≠ .idle then s
  else if s.hadEngine then
    { s with isOpen := false, tasks := s.tasks ++ [.teardown], opener := .tearing }
  else if s.running = none ∧ ∀ task ∈ s.tasks, task.read.isSome then
    { s with opener := .building }
  else s

/-- `open` begins on the executor. -/
def openInline (s : TunioImpl) : TunioImpl :=
  if s.opener ≠ .idle ∨ s.running ≠ none then s
  else
    let s := if s.hadEngine then ({ s with isOpen := false } : TunioImpl).teardown else s
    { s with opener := .building, held := true }

/-- The configuration is refused. -/
def openRefused (s : TunioImpl) : TunioImpl :=
  if s.opener = .building then { s with opener := .idle, held := false } else s

/-- The device cannot be opened, or something throws. -/
def openFails (s : TunioImpl) : TunioImpl :=
  match s.opener with
  | .building | .built | .arming _ => { s.resetOpenState with opener := .idle, held := false }
  | .idle | .tearing => s

/-- The device is open and the members are replaced; `none` when a buffer cannot be made. -/
def build (s : TunioImpl) (queueCount mtu : Nat) (utunPrefix : Bool) : Option TunioImpl :=
  let device : TunDevice :=
    { queueCount := queueCount, mtu := mtu, utunPrefix := utunPrefix, generation := s.epoch + 1 }
  let numQueues := max 1 (min queueCount kMaxQueues)
  let slotsPerQueue := max 1 (kReadSlots / numQueues)
  match PacketBuffer.new (List.replicate (device.readSizeHint + 64) 0) 64 with
  | none => none
  | some buf =>
      some { s with
        device := some device
        mtu := mtu
        numQueues := numQueues
        slotsPerQueue := slotsPerQueue
        readBufs := List.replicate (numQueues * slotsPerQueue) buf
        readInflight := List.replicate (numQueues * slotsPerQueue) false
        writer := some { generation := s.epoch + 1 }
        tcp := some (s.epoch + 1)
        udp := some (s.epoch + 1)
        opener := .built }

def openBuilds (s : TunioImpl) (queueCount mtu : Nat) (utunPrefix : Bool) : TunioImpl :=
  if s.opener = .building then
    match s.build queueCount mtu utunPrefix with
    | some built => built
    | none => s.openFails
  else s

def openPublishes (s : TunioImpl) : TunioImpl :=
  if s.opener = .built then { s with epoch := s.epoch + 1, isOpen := true, opener := .arming 0 }
  else s

/-- One round of the loop of `start_read`, or its end. -/
def openArms (s : TunioImpl) : TunioImpl :=
  match s.opener with
  | .arming next =>
      if next < s.readInflight.length then { s.startReadSlot next with opener := .arming (next + 1) }
      else { s with opener := .idle, held := false }
  | _ => s

end TunioImpl

inductive ImplEvent
  | openStart
  | openInline
  | openRefused
  | openFails
  | openBuilds (queueCount mtu : Nat) (utunPrefix : Bool)
  | openPublishes
  | openArms
  | close
  | closeInline
  | deviceDone (position : Nat) (ec : IoCode) (data : List UInt8)
  | strand

namespace TunioImpl

def step (s : TunioImpl) : ImplEvent → TunioImpl
  | .openStart => s.openStart
  | .openInline => s.openInline
  | .openRefused => s.openRefused
  | .openFails => s.openFails
  | .openBuilds queueCount mtu utunPrefix => s.openBuilds queueCount mtu utunPrefix
  | .openPublishes => s.openPublishes
  | .openArms => s.openArms
  | .close => s.close
  | .closeInline => s.closeInline
  | .deviceDone position ec data => s.deviceDone position ec data
  | .strand => s.strand

def run (s : TunioImpl) (events : List ImplEvent) : TunioImpl := events.foldl step s

end TunioImpl

end Tunio
