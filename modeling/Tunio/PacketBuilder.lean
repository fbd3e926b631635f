import Tunio.Builders
import Tunio.Course

/-!
The packets that a user builds field by field (`begin_*`, `append_payload` and `finalize` of
`ip_packet.cpp`).  A call that throws gives the exception together with what it has left behind.
-/

namespace Tunio

open Octets

namespace PacketBuffer

/-- The bytes from `data()` to the end of the storage. -/
def memory (buf : PacketBuffer) : List UInt8 := buf.storage.drop buf.headroom

theorem memory_length (buf : PacketBuffer) : buf.memory.length = buf.capacity - buf.headroom := by
  simp [memory, capacity]

theorem size_le_memory (buf : PacketBuffer) : buf.size ≤ buf.memory.length := by
  have fits := buf.fits
  rw [memory_length, capacity]
  omega

theorem bytes_eq_take (buf : PacketBuffer) : buf.bytes = buf.memory.take buf.size := rfl

/-- Other bytes from `data()` on.  There is no memory behind the storage to write to. -/
def refill (buf : PacketBuffer) (memory : List UInt8) : PacketBuffer :=
  if same : memory.length = buf.memory.length then
    have whole : (buf.storage.take buf.headroom ++ memory).length = buf.storage.length := by
      have room := buf.room
      rw [memory_length, capacity] at same
      simp only [List.length_append, List.length_take]
      omega
    { buf with
      storage := buf.storage.take buf.headroom ++ memory
      room := whole ▸ buf.room
      fits := whole ▸ buf.fits }
  else buf

/-- Bytes are copied behind those of the packet and committed.  Its callers test that there is
room. -/
def append (buf : PacketBuffer) (data : List UInt8) : PacketBuffer :=
  ((buf.refill (write buf.memory buf.size data)).commit data.length).getD buf

end PacketBuffer

/-- `build_ip_header`, whose last argument the engines leave at its default. -/
def ipHeaderWrites (memory : List UInt8) (family : UInt8) (srcIp dstIp : Vector UInt8 16)
    (protocol : UInt8) (totalLen : Nat) (ipId : UInt16) (ttl : UInt8) : List Patch :=
  if family = 4 then
    let fields : Patch := ⟨0, [[0x45], [0], ofWord (UInt16.ofNat totalLen), ofWord ipId,
      ofWord 0x4000, [ttl], [protocol], ofWord 0, srcIp.toList.take 4, dstIp.toList.take 4].flatten⟩
    [fields, ⟨10, ofWord (ipv4Checksum (slice (patched memory [fields]) 0 20))⟩]
  else
    [⟨0, [ofLong 0x60000000, ofWord (UInt16.ofNat (if totalLen > 40 then totalLen - 40 else 0)),
      [protocol], [ttl], srcIp.toList, dstIp.toList].flatten⟩]

/-- `builder_state`; of `tcp_options` the bytes in use. -/
structure BuilderState where
  version : UInt8 := 0
  protocol : UInt8 := 0
  src : Vector UInt8 16 := Vector.replicate 16 0
  dst : Vector UInt8 16 := Vector.replicate 16 0
  ttlHop : UInt8 := 64
  ipId : UInt16 := 0
  sport : UInt16 := 0
  dport : UInt16 := 0
  seq : UInt32 := 0
  ack : UInt32 := 0
  flags : UInt8 := 0
  window : UInt16 := 0
  tcpOptions : List UInt8 := []
  icmpType : UInt8 := 0
  icmpCode : UInt8 := 0
  icmpId : UInt16 := 0
  icmpSeq : UInt16 := 0
  icmpEchoSet : Bool := false
  ipHlen : Nat := 0
  transportHlen : Nat := 0
  deriving DecidableEq, Repr

/-- A packet with its own buffer, the view of its last parse and the state of its builder. -/
structure PacketBuilder where
  buf : PacketBuffer
  view : IpPacket := {}
  bld : BuilderState := {}
  deriving DecidableEq

inductive BuildError
  | lengthError (what : String)
  | logicError (what : String)
  | invalidArgument (what : String)
  deriving DecidableEq, Repr

namespace BuilderState

def family (bld : BuilderState) : UInt8 := if bld.version = 4 then 4 else 6

/-! What the calls that begin a transport header set. -/

def beginTcp (bld : BuilderState) (srcPort dstPort : UInt16) (seq ack : UInt32) (flags : UInt8)
    (window : UInt16) (options : List UInt8) : BuilderState :=
  { bld with
    protocol := ipProtocolTcp
    sport := srcPort
    dport := dstPort
    seq := seq
    ack := ack
    flags := flags
    window := window
    transportHlen := 20 + options.length
    tcpOptions := options }

def beginUdp (bld : BuilderState) (srcPort dstPort : UInt16) : BuilderState :=
  { bld with
    protocol := ipProtocolUdp
    sport := srcPort
    dport := dstPort
    transportHlen := 8 }

def beginIcmp (bld : BuilderState) (type code : UInt8) : BuilderState :=
  { bld with
    protocol := if bld.version = 4 then ipProtocolIcmp else ipProtocolIcmpv6
    icmpType := type
    icmpCode := code
    icmpEchoSet := false
    transportHlen := 8 }

/-- What `finalize` writes behind the IP header, in its `switch`. -/
def transportWrites (bld : BuilderState) (memory : List UInt8) (segLen : Nat) : List Patch :=
  let seg := bld.ipHlen
  if bld.protocol = ipProtocolTcp then
    let th : Patch := ⟨seg, [ofWord bld.sport, ofWord bld.dport, ofLong bld.seq, ofLong bld.ack,
      [UInt8.ofNat ((bld.transportHlen / 4) <<< 4)], [bld.flags], ofWord bld.window, ofWord 0,
      ofWord 0].flatten⟩
    let header := if bld.tcpOptions.length ≠ 0 then [th, ⟨seg + 20, bld.tcpOptions⟩] else [th]
    let csum := tcpUdpChecksum bld.family bld.src bld.dst ipProtocolTcp
      (slice (patched memory header) seg segLen)
    header ++ [⟨seg + 16, ofWord csum⟩]
  else if bld.protocol = ipProtocolUdp then
    let uh : Patch := ⟨seg, [ofWord bld.sport, ofWord bld.dport, ofWord (UInt16.ofNat segLen),
      ofWord 0].flatten⟩
    let csum := tcpUdpChecksum bld.family bld.src bld.dst ipProtocolUdp
      (slice (patched memory [uh]) seg segLen)
    let csum := if csum = 0 then 0xffff else csum
    [uh, ⟨seg + 6, ofWord csum⟩]
  else if bld.protocol = ipProtocolIcmp ∨ bld.protocol = ipProtocolIcmpv6 then
    let front : List Patch := [⟨seg, [bld.icmpType]⟩, ⟨seg + 1, [bld.icmpCode]⟩, ⟨seg + 2, [0]⟩,
      ⟨seg + 3, [0]⟩]
    let header := if bld.icmpEchoSet then
      front ++ [⟨seg + 4, ofWord bld.icmpId⟩, ⟨seg + 6, ofWord bld.icmpSeq⟩] else front
    let segment := slice (patched memory header) seg segLen
    let csum := if bld.family = 4 then ipChecksum segment
      else tcpUdpChecksum 6 bld.src bld.dst ipProtocolIcmpv6 segment
    header ++ [⟨seg + 2, ofWord csum⟩]
  else []

end BuilderState

namespace PacketBuilder

/-- The constructor; `none` when it throws. -/
def new (memory : List UInt8) (headroom : Nat) : Option PacketBuilder :=
  (PacketBuffer.new memory headroom).map fun buf => { buf := buf }

def builderBegin (p : PacketBuilder) (version : UInt8) : PacketBuilder × Option BuildError :=
  let ipHlen := if version = 4 then 20 else 40
  let p := { p with buf := p.buf.reset, bld := { version := version, ipHlen := ipHlen } }
  if p.buf.writableSize < ipHlen then
    (p, some (.lengthError "ip_packet: buffer too small for IP header"))
  else ({ p with buf := p.buf.append (List.replicate ipHlen 0) }, none)

def reserveTransport (p : PacketBuilder) : PacketBuilder × Option BuildError :=
  if p.buf.writableSize < p.bld.transportHlen then
    (p, some (.lengthError "ip_packet: buffer too small for transport header"))
  else ({ p with buf := p.buf.append (List.replicate p.bld.transportHlen 0) }, none)

def beginIpv4 (p : PacketBuilder) (src dst : Vector UInt8 4) (ttl : UInt8) :
    PacketBuilder × Option BuildError :=
  match p.builderBegin 4 with
  | (p, some error) => (p, some error)
  | (p, none) =>
      ({ p with bld := { p.bld with
        src := address src.toList, dst := address dst.toList, ttlHop := ttl } }, none)

def beginIpv6 (p : PacketBuilder) (src dst : Vector UInt8 16) (hopLimit : UInt8) :
    PacketBuilder × Option BuildError :=
  match p.builderBegin 6 with
  | (p, some error) => (p, some error)
  | (p, none) => ({ p with bld := { p.bld with src := src, dst := dst, ttlHop := hopLimit } }, none)

def beginTcp (p : PacketBuilder) (srcPort dstPort : UInt16) (seq ack : UInt32) (flags : UInt8)
    (window : UInt16) (options : List UInt8) : PacketBuilder × Option BuildError :=
  if p.bld.version = 0 then
    (p, some (.logicError "ip_packet::begin_tcp: begin_ipv4/begin_ipv6 must be called first"))
  else if p.bld.protocol ≠ 0 then
    (p, some (.logicError "ip_packet::begin_tcp: transport header already begun"))
  else if options.length % 4 ≠ 0 ∨ options.length > 40 then
    (p, some (.invalidArgument
      "ip_packet::begin_tcp: options_len must be a multiple of 4 and <= 40"))
  else
    { p with
      bld := p.bld.beginTcp srcPort dstPort seq ack flags window options }.reserveTransport

def beginUdp (p : PacketBuilder) (srcPort dstPort : UInt16) : PacketBuilder × Option BuildError :=
  if p.bld.version = 0 then
    (p, some (.logicError "ip_packet::begin_udp: begin_ipv4/begin_ipv6 must be called first"))
  else if p.bld.protocol ≠ 0 then
    (p, some (.logicError "ip_packet::begin_udp: transport header already begun"))
  else
    { p with bld := p.bld.beginUdp srcPort dstPort }.reserveTransport

def beginIcmp (p : PacketBuilder) (type code : UInt8) : PacketBuilder × Option BuildError :=
  if p.bld.version = 0 then
    (p, some (.logicError "ip_packet::begin_icmp: begin_ipv4/begin_ipv6 must be called first"))
  else if p.bld.protocol ≠ 0 then
    (p, some (.logicError "ip_packet::begin_icmp: transport header already begun"))
  else
    { p with bld := p.bld.beginIcmp type code }.reserveTransport

def setIcmpEcho (p : PacketBuilder) (id seq : UInt16) : PacketBuilder :=
  { p with bld := { p.bld with icmpId := id, icmpSeq := seq, icmpEchoSet := true } }

def setIpId (p : PacketBuilder) (id : UInt16) : PacketBuilder :=
  { p with bld := { p.bld with ipId := id } }

def appendPayload (p : PacketBuilder) (data : List UInt8) : PacketBuilder × Option BuildError :=
  if p.bld.version = 0 then
    (p, some (.logicError "ip_packet::append_payload: begin_ipv4/begin_ipv6 must be called first"))
  else if p.buf.writableSize < data.length then
    (p, some (.lengthError "ip_packet: payload exceeds buffer capacity"))
  else if data.length ≠ 0 then ({ p with buf := p.buf.append data }, none)
  else (p, none)

def copyAndParse (p : PacketBuilder) (data : List UInt8) : PacketBuilder :=
  let buf := p.buf.reset
  { buf := if data.length > buf.writableSize then buf else buf.append data
    view := IpPacket.parse buf.writableSize data
    bld := {} }

def reset (p : PacketBuilder) : PacketBuilder := { buf := p.buf.reset }

/-- `parse` of the first bytes behind the `data()` of a buffer. -/
def parse (p : PacketBuilder) (src : PacketBuffer) (len : Nat) : PacketBuilder :=
  if len > src.capacity - src.headroom then
    { p.reset with view := { parseError := .bufferTooSmall } }
  else p.copyAndParse (src.memory.take len)

/-! The lengths of `finalize`, as `size_t` has them. -/

def payloadLen (p : PacketBuilder) : Nat :=
  sizeSub (sizeSub p.buf.size p.bld.ipHlen) p.bld.transportHlen

def total (p : PacketBuilder) : Nat :=
  (p.bld.ipHlen + p.bld.transportHlen + p.payloadLen) % 2 ^ 64

def segLen (p : PacketBuilder) : Nat := (p.bld.transportHlen + p.payloadLen) % 2 ^ 64

/-- The exception of `finalize`. -/
def oversize (p : PacketBuilder) : Option BuildError :=
  if p.bld.version = 4 ∧ p.total > 0xffff then
    some (.lengthError "ip_packet: IPv4 total length exceeds 65535")
  else if p.bld.version = 6 ∧ sizeSub p.total p.bld.ipHlen > 0xffff then
    some (.lengthError "ip_packet: IPv6 payload length exceeds 65535")
  else none

def headerWrites (p : PacketBuilder) : List Patch :=
  ipHeaderWrites p.buf.memory p.bld.family p.bld.src p.bld.dst p.bld.protocol p.total
    (if p.bld.version = 4 then p.bld.ipId else 0) p.bld.ttlHop

/-- What `finalize` writes, in order. -/
def finalizeWrites (p : PacketBuilder) : List Patch :=
  if p.bld.version = 0 ∨ p.oversize.isSome then []
  else p.headerWrites ++ p.bld.transportWrites (patched p.buf.memory p.headerWrites) p.segLen

def finalize (p : PacketBuilder) : PacketBuilder × Option BuildError :=
  if p.bld.version = 0 then (p, none)
  else
    match p.oversize with
    | some error => (p, some error)
    | none =>
        let p := { p with buf := p.buf.refill (patched p.buf.memory p.finalizeWrites) }
        (p.parse p.buf p.buf.size, none)

end PacketBuilder

/-- A call of the user on a packet. -/
inductive BuilderCall
  | beginIpv4 (src dst : Vector UInt8 4) (ttl : UInt8)
  | beginIpv6 (src dst : Vector UInt8 16) (hopLimit : UInt8)
  | beginTcp (srcPort dstPort : UInt16) (seq ack : UInt32) (flags : UInt8) (window : UInt16)
      (options : List UInt8)
  | beginUdp (srcPort dstPort : UInt16)
  | beginIcmp (type code : UInt8)
  | setIpId (id : UInt16)
  | setIcmpEcho (id seq : UInt16)
  | appendPayload (data : List UInt8)
  | finalize
  deriving DecidableEq

namespace PacketBuilder

def call (p : PacketBuilder) : BuilderCall → PacketBuilder × Option BuildError
  | .beginIpv4 src dst ttl => p.beginIpv4 src dst ttl
  | .beginIpv6 src dst hopLimit => p.beginIpv6 src dst hopLimit
  | .beginTcp srcPort dstPort seq ack flags window options =>
      p.beginTcp srcPort dstPort seq ack flags window options
  | .beginUdp srcPort dstPort => p.beginUdp srcPort dstPort
  | .beginIcmp type code => p.beginIcmp type code
  | .setIpId id => (p.setIpId id, none)
  | .setIcmpEcho id seq => (p.setIcmpEcho id seq, none)
  | .appendPayload data => p.appendPayload data
  | .finalize => p.finalize

/-- What is there after a call; an exception is caught. -/
def after (p : PacketBuilder) (call : BuilderCall) : PacketBuilder := (p.call call).1

end PacketBuilder

/-! The buffer. -/

namespace PacketBuffer

theorem refill_memory (buf : PacketBuffer) {memory : List UInt8}
    (same : memory.length = buf.memory.length) : (buf.refill memory).memory = memory := by
  have room := Nat.le_of_lt buf.room
  have front : (buf.storage.take buf.headroom).length = buf.headroom := by
    rw [List.length_take]
    omega
  unfold refill
  rw [dif_pos same]
  exact List.drop_left' front

@[simp] theorem refill_size (buf : PacketBuffer) (memory : List UInt8) :
    (buf.refill memory).size = buf.size := by
  unfold refill
  split <;> rfl

@[simp] theorem refill_headroom (buf : PacketBuffer) (memory : List UInt8) :
    (buf.refill memory).headroom = buf.headroom := by
  unfold refill
  split <;> rfl

@[simp] theorem refill_capacity (buf : PacketBuffer) (memory : List UInt8) :
    (buf.refill memory).capacity = buf.capacity := by
  have room := buf.room
  unfold refill
  split
  · rename_i same
    rw [memory_length, capacity] at same
    simp only [capacity, List.length_append, List.length_take]
    omega
  · rfl

@[simp] theorem reset_size (buf : PacketBuffer) : buf.reset.size = 0 := rfl

@[simp] theorem reset_writableSize (buf : PacketBuffer) :
    buf.reset.writableSize = buf.capacity - buf.headroom := rfl

@[simp] theorem reset_memory (buf : PacketBuffer) : buf.reset.memory = buf.memory := rfl

/-- What is appended stands behind what was there, in as much memory as before. -/
structure Appended (buf : PacketBuffer) (data : List UInt8) (after : PacketBuffer) : Prop where
  size : after.size = buf.size + data.length
  headroom : after.headroom = buf.headroom
  capacity : after.capacity = buf.capacity
  memory : after.memory = write buf.memory buf.size data

theorem append_appended {buf : PacketBuffer} {data : List UInt8}
    (fits : data.length ≤ buf.writableSize) : Appended buf data (buf.append data) := by
  have inside : buf.size + data.length ≤ buf.memory.length := by
    have filled := buf.size_le_memory
    rw [memory_length] at filled ⊢
    unfold writableSize at fits
    omega
  have same := write_length buf.memory data inside
  have room : data.length ≤ (buf.refill (write buf.memory buf.size data)).writableSize := by
    simpa [writableSize] using fits
  have done : buf.append data = { buf.refill (write buf.memory buf.size data) with
      size := (buf.refill (write buf.memory buf.size data)).size + data.length
      fits := by
        have filled := (buf.refill (write buf.memory buf.size data)).fits
        unfold writableSize PacketBuffer.capacity at room
        omega } := by
    unfold append commit
    rw [dif_pos room, Option.getD_some]
  rw [done]
  constructor
  · simp
  · simp
  · exact buf.refill_capacity _
  · exact buf.refill_memory same

end PacketBuffer

end Tunio
