import Tunio.Ring

/-!
The rings of a Wintun device (`tun_device_wintun.cpp`): `recv_one` and `send_try`, cut at the
accesses to the memory they share with the driver.
-/

namespace Tunio

open Rings

namespace Wintun

def ringCapacity : UInt32 := 0x800000
def ringTrailingBytes : UInt32 := 0x10000
def maxIpPacketSize : UInt32 := 0xffff
def packetAlign : UInt32 := 4

/-- `sizeof(recv_ring_->data)`. -/
def dataSize : UInt32 := ringCapacity + ringTrailingBytes

/-- `sizeof(TUN_PACKET_HEADER)`. -/
def packetHeader : UInt32 := 4

structure TunRing where
  head : UInt32 := 0
  tail : UInt32 := 0
  alertable : Bool := true
  data : Nat → UInt8

def ringWrap (value : UInt32) : UInt32 := value &&& (ringCapacity - 1)

def ringPacketAlign (size : UInt32) : UInt32 := (size + (packetAlign - 1)) &&& ~~~(packetAlign - 1)

/-- The little-endian `size` of the packet at an address. -/
def sizeAt (data : Nat → UInt8) (address : Nat) : UInt32 :=
  UInt32.ofNat ((data address).toNat + (data (address + 1)).toNat * 256 +
    (data (address + 2)).toNat * 65536 + (data (address + 3)).toNat * 16777216)

def sizeBytes (size : UInt32) : List UInt8 :=
  [UInt8.ofNat size.toNat, UInt8.ofNat (size.toNat / 256), UInt8.ofNat (size.toNat / 65536),
    UInt8.ofNat (size.toNat / 16777216)]

inductive RingError
  | operationAborted
  | badDescriptor
  | invalidArgument
  | messageSize
  deriving DecidableEq, Repr

/-! `recv_one`. -/

/-- The counters of the receive ring, or nothing to read. -/
def recvLook (opened : Bool) (ring : Option TunRing) :
    Except RingError (Option (UInt32 × UInt32)) :=
  if !opened then .error .operationAborted
  else
    match ring with
    | none => .error .badDescriptor
    | some ring =>
        if ring.head ≥ ringCapacity ∨ ring.tail ≥ ringCapacity then .error .invalidArgument
        else if ring.head = ring.tail then .ok none
        else .ok (some (ring.head, ring.tail))

/-- The size of the packet at the head, and what it takes up. -/
def recvMeasure (data : Nat → UInt8) (head tail : UInt32) (room : Nat) :
    Except RingError (UInt32 × UInt32) :=
  let contentLen := ringWrap (tail - head)
  if contentLen < packetHeader then .error .invalidArgument
  else
    let size := sizeAt data head.toNat
    if size > maxIpPacketSize then .error .messageSize
    else
      let aligned := ringPacketAlign (packetHeader + size)
      if aligned > contentLen then .error .invalidArgument
      else if head + aligned > dataSize then .error .invalidArgument
      else if room < size.toNat then .error .messageSize
      else .ok (size, aligned)

def recvCopy (data : Nat → UInt8) (head size : UInt32) : List UInt8 :=
  load data (head.toNat + packetHeader.toNat) size.toNat

def recvPublish (ring : TunRing) (head aligned : UInt32) : TunRing :=
  { ring with head := ringWrap (head + aligned) }

/-! `send_try`. -/

/-- The tail of the send ring where the packet fits in behind it, or nothing for want of room. -/
def sendLook (opened : Bool) (ring : Option TunRing) (buf : List UInt8) :
    Except RingError (Option UInt32) :=
  if !opened then .error .operationAborted
  else
    match ring with
    | none => .error .badDescriptor
    | some ring =>
        if buf.length > maxIpPacketSize.toNat then .error .messageSize
        else if ring.head ≥ ringCapacity ∨ ring.tail ≥ ringCapacity then .error .invalidArgument
        else
          let aligned := ringPacketAlign (packetHeader + UInt32.ofNat buf.length)
          if ring.tail + aligned > dataSize then .error .invalidArgument
          else if aligned > ringWrap (ring.head - ring.tail - packetAlign) then .ok none
          else .ok (some ring.tail)

def sendHeader (ring : TunRing) (tail : UInt32) (buf : List UInt8) : TunRing :=
  { ring with data := store ring.data tail.toNat (sizeBytes (UInt32.ofNat buf.length)) }

def sendCopy (ring : TunRing) (tail : UInt32) (buf : List UInt8) : TunRing :=
  { ring with data := store ring.data (tail.toNat + packetHeader.toNat) buf }

def sendPublish (ring : TunRing) (tail : UInt32) (buf : List UInt8) : TunRing :=
  { ring with
    tail := ringWrap (tail + ringPacketAlign (packetHeader + UInt32.ofNat buf.length)) }

/-! The sending side: calls of `send_try` and the driver that takes the packets out. -/

inductive SendPhase
  | idle
  | looked (buf : List UInt8) (tail : UInt32)
  | headed (buf : List UInt8) (tail : UInt32)
  | copied (buf : List UInt8) (tail : UInt32)
  | published (buf : List UInt8)
  deriving DecidableEq, Repr

/-- What `send_try` returned: an error, 0 with the ring filled so far, or the size of the packet. -/
inductive SendAnswer
  | refused (buf : List UInt8) (error : RingError)
  | full (buf : List UInt8) (used : Nat)
  | sent (buf : List UInt8)
  deriving DecidableEq, Repr

def SendAnswer.packet : SendAnswer → Option (List UInt8)
  | .sent buf => some buf
  | _ => none

/-- `sent` and `taken` are the history of the packets. -/
structure SendSide where
  ring : TunRing
  phase : SendPhase := .idle
  events : Nat := 0
  answers : List SendAnswer := []
  sent : List (List UInt8) := []
  taken : List (List UInt8) := []

inductive SendMove
  | call (buf : List UInt8)
  | goOn
  | driverTakes
  | driverAlerts (alertable : Bool)
  deriving DecidableEq, Repr

def TunRing.used (ring : TunRing) : Nat := (ringWrap (ring.tail - ring.head)).toNat

namespace SendSide

def answer (s : SendSide) (answer : SendAnswer) : SendSide :=
  { s with phase := .idle, answers := s.answers ++ [answer] }

def call (s : SendSide) (buf : List UInt8) : SendSide :=
  match sendLook true (some s.ring) buf with
  | .error error => s.answer (.refused buf error)
  | .ok none => s.answer (.full buf s.ring.used)
  | .ok (some tail) => { s with phase := .looked buf tail }

def goOn (s : SendSide) : SendSide :=
  match s.phase with
  | .idle => s
  | .looked buf tail => { s with ring := sendHeader s.ring tail buf, phase := .headed buf tail }
  | .headed buf tail => { s with ring := sendCopy s.ring tail buf, phase := .copied buf tail }
  | .copied buf tail =>
      { s with
        ring := sendPublish s.ring tail buf
        phase := .published buf
        sent := s.sent ++ [buf] }
  | .published buf =>
      { s with events := if s.ring.alertable then s.events + 1 else s.events }.answer (.sent buf)

/-- The driver takes the packet at the head, if there is one. -/
def driverTakes (s : SendSide) : SendSide :=
  if s.ring.head = s.ring.tail then s
  else
    let size := sizeAt s.ring.data s.ring.head.toNat
    { s with
      ring := recvPublish s.ring s.ring.head (ringPacketAlign (packetHeader + size))
      taken := s.taken ++ [recvCopy s.ring.data s.ring.head size] }

def step (s : SendSide) : SendMove → SendSide
  | .call buf => if s.phase = .idle then s.call buf else s
  | .goOn => s.goOn
  | .driverTakes => s.driverTakes
  | .driverAlerts alertable => { s with ring := { s.ring with alertable := alertable } }

def run (s : SendSide) (moves : List SendMove) : SendSide := moves.foldl step s

/-- The send ring as `open` leaves it. -/
def fresh (data : Nat → UInt8) : SendSide := { ring := { data := data } }

end SendSide

/-! The receiving side: calls of `recv_one` and the driver that puts packets in. -/

inductive RecvPhase
  | idle
  | looked (room : Nat) (head tail : UInt32)
  | measured (room : Nat) (head size aligned : UInt32)
  | copied (room : Nat) (head aligned : UInt32) (payload : List UInt8)
  deriving DecidableEq, Repr

/-- What `recv_one` returned for a buffer with so much room. -/
structure RecvAnswer where
  room : Nat
  result : Except RingError Nat

/-- `arrived` and `received` are the history of the packets. -/
structure RecvSide where
  ring : TunRing
  phase : RecvPhase := .idle
  answers : List RecvAnswer := []
  arrived : List (List UInt8) := []
  received : List (List UInt8) := []

inductive RecvMove
  | call (room : Nat)
  | goOn
  | driverWrites (offset : Nat) (bytes : List UInt8)
  | driverPublishes
  deriving DecidableEq, Repr

namespace RecvSide

def answer (s : RecvSide) (room : Nat) (result : Except RingError Nat) : RecvSide :=
  { s with phase := .idle, answers := s.answers ++ [⟨room, result⟩] }

def call (s : RecvSide) (room : Nat) : RecvSide :=
  match recvLook true (some s.ring) with
  | .error error => s.answer room (.error error)
  | .ok none => s.answer room (.ok 0)
  | .ok (some (head, tail)) => { s with phase := .looked room head tail }

def goOn (s : RecvSide) : RecvSide :=
  match s.phase with
  | .idle => s
  | .looked room head tail =>
      match recvMeasure s.ring.data head tail room with
      | .error error => s.answer room (.error error)
      | .ok (size, aligned) => { s with phase := .measured room head size aligned }
  | .measured room head size aligned =>
      { s with phase := .copied room head aligned (recvCopy s.ring.data head size) }
  | .copied room head aligned payload =>
      { s with
        ring := recvPublish s.ring head aligned
        received := s.received ++ [payload] }.answer room (.ok payload.length)

/-- The driver writes behind the tail, where no packet waits. -/
def driverWrites (s : RecvSide) (offset : Nat) (bytes : List UInt8) : RecvSide :=
  if s.ring.used + (offset + bytes.length) ≤ ringCapacity.toNat then
    { s with ring := { s.ring with data := store s.ring.data (s.ring.tail.toNat + offset) bytes } }
  else s

/-- The driver adds the packet that lies at the tail, if the ring has room for it. -/
def driverPublishes (s : RecvSide) : RecvSide :=
  let size := sizeAt s.ring.data s.ring.tail.toNat
  let aligned := ringPacketAlign (packetHeader + size)
  if size ≤ maxIpPacketSize ∧
      s.ring.used + aligned.toNat + packetAlign.toNat ≤ ringCapacity.toNat then
    { s with
      ring := { s.ring with tail := ringWrap (s.ring.tail + aligned) }
      arrived := s.arrived ++ [recvCopy s.ring.data s.ring.tail size] }
  else s

def step (s : RecvSide) : RecvMove → RecvSide
  | .call room => if s.phase = .idle then s.call room else s
  | .goOn => s.goOn
  | .driverWrites offset bytes => s.driverWrites offset bytes
  | .driverPublishes => s.driverPublishes

def run (s : RecvSide) (moves : List RecvMove) : RecvSide := moves.foldl step s

/-- The receive ring as `open` leaves it. -/
def fresh (data : Nat → UInt8) : RecvSide := { ring := { data := data } }

end RecvSide

theorem recvPublish_tail (ring : TunRing) (head aligned : UInt32) :
    (recvPublish ring head aligned).tail = ring.tail := by
  unfold recvPublish
  rfl

theorem recvPublish_data (ring : TunRing) (head aligned : UInt32) :
    (recvPublish ring head aligned).data = ring.data := by
  unfold recvPublish
  rfl

/-! The arithmetic of the counters. -/

@[simp] theorem ringCapacity_toNat : ringCapacity.toNat = 8388608 := rfl
@[simp] theorem dataSize_toNat : dataSize.toNat = 8454144 := rfl
@[simp] theorem maxIpPacketSize_toNat : maxIpPacketSize.toNat = 65535 := rfl
@[simp] theorem packetAlign_toNat : packetAlign.toNat = 4 := rfl
@[simp] theorem packetHeader_toNat : packetHeader.toNat = 4 := rfl

theorem ringWrap_toNat (value : UInt32) : (ringWrap value).toNat = value.toNat % 8388608 := by
  have mask : (ringCapacity - 1).toNat = 2 ^ 23 - 1 := by decide
  rw [ringWrap, UInt32.toNat_and, mask, Nat.and_two_pow_sub_one_eq_mod]

theorem and_high {value : Nat} (small : value < 2 ^ 32) :
    value &&& 4294967292 = value / 4 * 4 := by
  have mask : (4294967292 : Nat) = (2 ^ 30 - 1) <<< 2 := by decide
  have whole : value / 4 * 4 = (value >>> 2) <<< 2 := by
    rw [Nat.shiftLeft_eq, Nat.shiftRight_eq_div_pow]
  rw [mask, whole]
  refine Nat.eq_of_testBit_eq ?_
  intro i
  rw [Nat.testBit_and, Nat.testBit_shiftLeft, Nat.testBit_shiftLeft, Nat.testBit_shiftRight,
    Nat.testBit_two_pow_sub_one]
  by_cases low : 2 ≤ i
  · by_cases high : i - 2 < 30
    · simp [low, high, Nat.add_sub_cancel' low]
    · have bound : value < 2 ^ i :=
        Nat.lt_of_lt_of_le small (Nat.pow_le_pow_right (by decide) (by omega))
      simp [low, Nat.testBit_lt_two_pow bound, Nat.add_sub_cancel' low]
  · simp [low]

theorem ringPacketAlign_toNat {size : UInt32} (small : size.toNat + 3 < 2 ^ 32) :
    (ringPacketAlign size).toNat = (size.toNat + 3) / 4 * 4 := by
  have sum : (size + (packetAlign - 1)).toNat = size.toNat + 3 := by
    rw [UInt32.toNat_add]
    exact Nat.mod_eq_of_lt small
  have mask : (~~~(packetAlign - 1)).toNat = 4294967292 := by decide
  rw [ringPacketAlign, UInt32.toNat_and, sum, mask, and_high small]

theorem sizeAt_bytes {data : Nat → UInt8} {address : Nat} {size : UInt32}
    (there : load data address 4 = sizeBytes size) : sizeAt data address = size := by
  have bound := size.toNat_lt
  simp only [load, List.range_succ, List.range_zero, List.nil_append, List.map_cons, List.map_nil,
    List.cons_append, sizeBytes, List.cons.injEq, Nat.add_zero] at there
  obtain ⟨first, second, third, fourth, _⟩ := there
  apply UInt32.toNat_inj.mp
  rw [sizeAt, first, second, third, fourth]
  simp only [UInt8.toNat_ofNat', UInt32.toNat_ofNat']
  omega

theorem bytes_sizeAt (data : Nat → UInt8) (address : Nat) :
    load data address 4 = sizeBytes (sizeAt data address) := by
  have first := (data address).toNat_lt
  have second := (data (address + 1)).toNat_lt
  have third := (data (address + 2)).toNat_lt
  have fourth := (data (address + 3)).toNat_lt
  have size : (sizeAt data address).toNat = (data address).toNat + (data (address + 1)).toNat * 256 +
      (data (address + 2)).toNat * 65536 + (data (address + 3)).toNat * 16777216 := by
    rw [sizeAt, UInt32.toNat_ofNat', Nat.mod_eq_of_lt (by omega)]
  simp only [load, List.range_succ, List.range_zero, List.nil_append, List.map_cons, List.map_nil,
    List.cons_append, sizeBytes, List.cons.injEq, Nat.add_zero, and_true]
  rw [size]
  refine ⟨?_, ?_, ?_, ?_⟩ <;> apply UInt8.toNat_inj.mp <;> rw [UInt8.toNat_ofNat'] <;> omega

/-- A packet as it lies in a ring. -/
def frame (payload : List UInt8) : List UInt8 :=
  sizeBytes (UInt32.ofNat payload.length) ++ payload

/-- The room a record is given. -/
def span (image : List UInt8) : Nat := (image.length + 3) / 4 * 4

theorem frame_length (payload : List UInt8) : (frame payload).length = payload.length + 4 := by
  simp [frame, sizeBytes]

theorem span_fits (image : List UInt8) : image.length ≤ span image := by
  unfold span
  omega

theorem span_frame (payload : List UInt8) : span (frame payload) = (payload.length + 7) / 4 * 4 := by
  rw [span, frame_length]

theorem frame_aligned {size : UInt32} {payload : List UInt8} (length : size.toNat = payload.length)
    (small : payload.length ≤ 65535) :
    (ringPacketAlign (packetHeader + size)).toNat = span (frame payload) := by
  have sum : (packetHeader + size).toNat = payload.length + 4 := by
    rw [UInt32.toNat_add, packetHeader_toNat, length]
    omega
  rw [ringPacketAlign_toNat (by omega), sum, span_frame]

/-- A framed packet that lies in memory is read back. -/
theorem frame_there {data : Nat → UInt8} {address : Nat} {payload : List UInt8}
    (there : load data address (frame payload).length = frame payload)
    (small : payload.length ≤ 65535) :
    (sizeAt data address).toNat = payload.length ∧
      load data (address + 4) payload.length = payload := by
  rw [frame_length, Nat.add_comm, load_append] at there
  obtain ⟨size, body⟩ := List.append_inj there (by simp [sizeBytes])
  refine ⟨?_, body⟩
  rw [sizeAt_bytes size, UInt32.toNat_ofNat']
  omega

/-- What lies in memory with its size in front is a framed packet. -/
theorem frame_of_size (data : Nat → UInt8) (address : Nat) :
    load data address (frame (load data (address + 4) (sizeAt data address).toNat)).length =
      frame (load data (address + 4) (sizeAt data address).toNat) := by
  rw [frame_length, load_length, Nat.add_comm, load_append, bytes_sizeAt, frame, load_length,
    UInt32.ofNat_toNat]

end Wintun

end Tunio
