import Tunio.Acceptance

/-!
What a packet shows after a parse that failed.  The parser fills the fields of an object that may
have held another packet.
-/

namespace Tunio

open Octets IpGrammar

/-- Bytes copied to the start of an address. -/
def copyAddress (old : Vector UInt8 16) (bytes : List UInt8) : Vector UInt8 16 :=
  Vector.ofFn fun i => bytes.getD i (old.get i)

namespace IpPacket

/-! The parser on the fields of an object. -/

def clearState (packet : IpPacket) : IpPacket :=
  { packet with
    parseError := .none
    version := 0
    protocol := 0
    srcIp := Vector.replicate 16 0
    dstIp := Vector.replicate 16 0
    totalLen := 0
    fragmented := false
    fragOffset := 0
    v4 := {}
    v6 := {}
    tcp := TcpHeader.zero
    udp := UdpHeader.zero
    icmpType := 0
    icmpCode := 0
    icmpChecksum := 0
    icmpEchoId := 0
    icmpEchoSeq := 0
    payload := none
    payloadLen := 0
    transportParsed := false }

def parseV4Into (packet : IpPacket) (data : List UInt8) : IpPacket :=
  let packet := { packet with v4 := Ipv4Header.read data }
  let ihl := packet.v4.headerLen
  if ihl < 20 ∨ ihl > data.length then packet.refuse .invalidIpHeaderLength
  else
    let total := packet.v4.totalLen.toNat
    if total < ihl ∨ total > data.length then packet.refuse .invalidTotalLength
    else
      let frag := packet.v4.fragOff
      let packet := { packet with
        version := 4
        protocol := packet.v4.protocol
        srcIp := copyAddress packet.srcIp (slice data 12 4)
        dstIp := copyAddress packet.dstIp (slice data 16 4)
        totalLen := total
        fragmented := frag &&& 0x3fff != 0
        fragOffset := (frag &&& 0x1fff) * 8
        payload := some ihl
        payloadLen := total - ihl }
      if packet.fragOffset = 0 then
        packet.parseTransport packet.protocol (slice data ihl (total - ihl))
      else packet

def parseV6Into (packet : IpPacket) (data : List UInt8) : IpPacket :=
  if data.length < 40 then packet.refuse .packetTooShort
  else
    let packet := { packet with v6 := Ipv6Header.read data }
    let plen := packet.v6.payloadLen.toNat
    if 40 + plen > data.length then packet.refuse .invalidTotalLength
    else
      let packet := { packet with
        version := 6
        protocol := packet.v6.nextHeader
        srcIp := copyAddress packet.srcIp packet.v6.srcIp.toList
        dstIp := copyAddress packet.dstIp packet.v6.dstIp.toList
        totalLen := 40 + plen
        payload := some 40
        payloadLen := plen }
      packet.parseTransport packet.protocol (slice data 40 plen)

def doParseInto (packet : IpPacket) (data : List UInt8) : IpPacket :=
  let packet := packet.clearState
  if data.length < 20 then packet.refuse .packetTooShort
  else if data.getD 0 0 >>> 4 = 4 then packet.parseV4Into data
  else if data.getD 0 0 >>> 4 = 6 then packet.parseV6Into data
  else packet.refuse .invalidVersion

end IpPacket

namespace PacketBuilder

/-- `copy_and_parse`, with the fields as the object has them. -/
def copyAndParseInto (p : PacketBuilder) (data : List UInt8) : PacketBuilder :=
  let p : PacketBuilder := { buf := p.buf.reset, view := p.view.clearState, bld := {} }
  if data.length > p.buf.writableSize then { p with view := p.view.refuse .bufferTooSmall }
  else { p with buf := p.buf.append data, view := p.view.doParseInto data }

/-- `parse` of a buffer, which may be the object's own. -/
def parseInto (p : PacketBuilder) (src : PacketBuffer) (len : Nat) : PacketBuilder :=
  if len > src.capacity - src.headroom then
    let p : PacketBuilder := { buf := p.buf.reset, view := p.view.clearState, bld := {} }
    { p with view := p.view.refuse .bufferTooSmall }
  else p.copyAndParseInto (src.memory.take len)

end PacketBuilder

theorem copyAddress_zeros (bytes : List UInt8) :
    copyAddress (Vector.replicate 16 0) bytes = address bytes := by
  have zero : ∀ i : Fin 16, (Vector.replicate 16 (0 : UInt8)).get i = 0 := by decide
  unfold copyAddress address
  congr 1
  funext i
  rw [zero i]

namespace IpPacket

theorem clearState_eq (packet : IpPacket) : packet.clearState = {} := rfl

theorem doParseInto_eq (packet : IpPacket) (data : List UInt8) :
    packet.doParseInto data = doParse data := by
  unfold doParseInto doParse
  rw [clearState_eq]
  dsimp only
  have v4 : ({} : IpPacket).parseV4Into data = parseV4 data := by
    unfold parseV4Into parseV4
    simp only [copyAddress_zeros]
  have v6 : ({} : IpPacket).parseV6Into data = parseV6 data := by
    unfold parseV6Into parseV6
    simp only [copyAddress_zeros, address_toList]
    rfl
  rw [v4, v6]
  rfl

end IpPacket

namespace PacketBuilder

/-- Nothing that the object held before is left. -/
theorem copyAndParseInto_eq (p : PacketBuilder) (data : List UInt8) :
    p.copyAndParseInto data = p.copyAndParse data := by
  unfold copyAndParseInto copyAndParse
  simp only [IpPacket.clearState_eq, IpPacket.doParseInto_eq]
  split
  · rename_i large
    simp only [IpPacket.parse, if_pos large]
    rfl
  · rename_i fits
    simp only [IpPacket.parse, if_neg fits]

theorem parseInto_eq (p : PacketBuilder) (src : PacketBuffer) (len : Nat) :
    p.parseInto src len = p.parse src len := by
  unfold parseInto parse
  split
  · rfl
  · exact p.copyAndParseInto_eq _

end PacketBuilder

/-! The accessors after a parse that failed. -/

/-- The accessors have nothing to say. -/
structure ExposesNothing (view : IpPacket) : Prop where
  version : view.version = 0
  ipv4 : view.ipv4 = none
  ipv6 : view.ipv6 = none
  protocol : view.protocol = 0
  sourceAddress : view.sourceAddress = .v4 (Vector.replicate 4 0)
  destinationAddress : view.destinationAddress = .v4 (Vector.replicate 4 0)
  addressBytes : view.srcIp = Vector.replicate 16 0 ∧ view.dstIp = Vector.replicate 16 0
  totalLen : view.totalLen = 0
  fragment : view.fragmented = false ∧ view.fragOffset = 0
  ports : view.sourcePort = 0 ∧ view.destinationPort = 0
  headers : view.tcpView = none ∧ view.udpView = none
  icmp : view.icmpType = 0 ∧ view.icmpCode = 0 ∧ view.icmpChecksum = 0 ∧ view.icmpEchoId = 0 ∧
    view.icmpEchoSeq = 0
  payload : view.payload = none ∧ view.payloadLen = 0
  transportData : view.transportData = none

/-- A failed parse leaves nothing to see. -/
def HidesFailure (view : IpPacket) : Prop := view.valid = false → ExposesNothing view

/-- The IP layer is read before its transport header is refused. -/
def HalfRead (room : Nat) (data : List UInt8) : Prop :=
  data.length ≤ room ∧ ¬Malformed data ∧ Leading data ∧ Truncated (ipProtocol data) (body data)

/-- Only the copies of the headers have been filled, and no accessor shows them. -/
def IpPacket.Blank (view : IpPacket) : Prop :=
  ∃ error v4 v6, view = { parseError := error, v4 := v4, v6 := v6 }

theorem IpPacket.Blank.exposesNothing {view : IpPacket} (blank : view.Blank) :
    ExposesNothing view := by
  obtain ⟨error, v4, v6, rfl⟩ := blank
  constructor <;> first | rfl | exact ⟨rfl, rfl⟩ | exact ⟨rfl, rfl, rfl, rfl, rfl⟩

namespace IpPacket

theorem parseV4_blank {data : List UInt8} (unfit : ¬V4Fits data) : (parseV4 data).Blank := by
  unfold parseV4
  dsimp only
  split
  · exact ⟨_, _, _, rfl⟩
  · split
    · exact ⟨_, _, _, rfl⟩
    · exact absurd ⟨by omega, by omega⟩ unfit

theorem parseV6_blank {data : List UInt8} (unfit : ¬V6Fits data) : (parseV6 data).Blank := by
  unfold parseV6
  dsimp only
  split
  · exact ⟨_, _, _, rfl⟩
  · split
    · exact ⟨_, _, _, rfl⟩
    · exact absurd ⟨by omega, by omega⟩ unfit

theorem doParse_blank {data : List UInt8} (refused : Malformed data) : (doParse data).Blank := by
  rcases doParse_stops refused with parsed | ⟨unfit, parsed⟩ | ⟨unfit, parsed⟩ | parsed
  · rw [parsed]
    exact ⟨_, _, _, rfl⟩
  · rw [parsed]
    exact parseV4_blank unfit
  · rw [parsed]
    exact parseV6_blank unfit
  · rw [parsed]
    exact ⟨_, _, _, rfl⟩

theorem layer_version {data : List UInt8} (intact : ¬Malformed data) :
    (doParse data).version = 4 ∨ (doParse data).version = 6 := by
  rw [(doParse_read intact).same.version]
  unfold layer
  split
  · exact Or.inl rfl
  · exact Or.inr rfl

/-- A failure shows when the parser had come to the transport header. -/
theorem parse_hides (capacity : Nat) (data : List UInt8) :
    HidesFailure (parse capacity data) ↔ ¬HalfRead capacity data := by
  by_cases fits : data.length ≤ capacity
  · have parsed : parse capacity data = doParse data := if_neg (Nat.not_lt.mpr fits)
    rw [parsed]
    by_cases refused : Malformed data
    · exact iff_of_true (fun _ => (doParse_blank refused).exposesNothing)
        fun half => half.2.1 refused
    · have read := doParse_read refused
      have valid : (doParse data).valid = false ↔
          Leading data ∧ Truncated (ipProtocol data) (body data) := by
        rw [IpPacket.valid, decide_eq_false_iff_not, read.parseError]
        simp
      constructor
      · intro hides half
        have hidden := (hides (valid.mpr half.2.2)).version
        rcases layer_version refused with shown | shown <;> rw [shown] at hidden <;> cases hidden
      · intro whole invalid
        exact absurd ⟨fits, refused, valid.mp invalid⟩ whole
  · have parsed : parse capacity data = { parseError := .bufferTooSmall } :=
      if_pos (Nat.not_le.mp fits)
    rw [parsed]
    exact iff_of_true (fun _ => IpPacket.Blank.exposesNothing ⟨_, _, _, rfl⟩)
      fun half => fits half.1

end IpPacket

namespace PacketBuilder

/-- What a failed parse leaves to see, whatever the object held: all of the IP layer when the
transport header is refused, and else nothing. -/
theorem parse_exposure (p : PacketBuilder) :
    (∀ data, HidesFailure (p.copyAndParseInto data).view ↔
      ¬HalfRead (p.buf.capacity - p.buf.headroom) data) ∧
    (∀ src len, HidesFailure (p.parseInto src len).view ↔
      ¬(len ≤ src.capacity - src.headroom ∧
        HalfRead (p.buf.capacity - p.buf.headroom) (src.memory.take len))) ∧
    ∀ other : PacketBuilder,
      other.buf.capacity - other.buf.headroom = p.buf.capacity - p.buf.headroom →
        (∀ data, (other.copyAndParseInto data).view = (p.copyAndParseInto data).view) ∧
        ∀ src len, (other.parseInto src len).view = (p.parseInto src len).view := by
  have copied (data : List UInt8) : HidesFailure (p.copyAndParseInto data).view ↔
      ¬HalfRead (p.buf.capacity - p.buf.headroom) data := by
    rw [copyAndParseInto_eq]
    exact IpPacket.parse_hides _ data
  have alike (other : PacketBuilder)
      (room : other.buf.capacity - other.buf.headroom = p.buf.capacity - p.buf.headroom)
      (data : List UInt8) : (other.copyAndParseInto data).view = (p.copyAndParseInto data).view := by
    rw [copyAndParseInto_eq, copyAndParseInto_eq]
    exact congrArg (fun capacity => IpPacket.parse capacity data) room
  refine ⟨copied, fun src len => ?_, fun other room => ⟨alike other room, fun src len => ?_⟩⟩
  · unfold parseInto
    by_cases large : len > src.capacity - src.headroom
    · rw [if_pos large]
      exact iff_of_true (fun _ => IpPacket.Blank.exposesNothing ⟨_, _, _, rfl⟩)
        fun half => absurd half.1 (Nat.not_le.mpr large)
    · rw [if_neg large, copied]
      simp only [Nat.not_lt.mp large, true_and]
  · unfold parseInto
    split
    · rfl
    · exact alike other room _

/-- Four bytes are no TCP header, and the version is still there. -/
theorem copyAndParse_exposes :
    let data : List UInt8 := [0x45, 0, 0, 24, 0, 0, 0, 0, 64, 6, 0, 0, 10, 0, 0, 2, 8, 8, 8, 8,
      0, 0, 0, 0]
    ∃ p ∈ PacketBuilder.new (List.replicate 64 0) 8,
      (p.copyAndParseInto data).view.valid = false ∧ (p.copyAndParseInto data).view.version = 4 ∧
        ¬HidesFailure (p.copyAndParseInto data).view := by
  intro data
  refine ⟨_, rfl, by decide, by decide, fun hides => ?_⟩
  have hidden := (hides (by decide)).version
  revert hidden
  decide

end PacketBuilder

end Tunio
