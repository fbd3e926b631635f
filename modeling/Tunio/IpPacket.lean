import Tunio.OnesComplement
import Tunio.Udp

/-!
The packet headers, the checksums and the public parser (`ip_packet.hpp`, `ip_packet.cpp`).  A
field in network order is the number that its bytes spell.  A pointer into the packet is the
index of a byte.
-/

namespace Tunio

open Octets

def ipProtocolIcmp : UInt8 := 1
def ipProtocolTcp : UInt8 := 6
def ipProtocolUdp : UInt8 := 17
def ipProtocolIcmpv6 : UInt8 := 58

/-- Bytes copied into sixteen bytes of zeros. -/
def address (bytes : List UInt8) : Vector UInt8 16 := Vector.ofFn fun i => bytes.getD i 0

/-! The headers. -/

structure Ipv4Header where
  versionIhl : UInt8 := 0
  tos : UInt8 := 0
  totalLen : UInt16 := 0
  id : UInt16 := 0
  fragOff : UInt16 := 0
  ttl : UInt8 := 0
  protocol : UInt8 := 0
  checksum : UInt16 := 0
  srcIp : UInt32 := 0
  dstIp : UInt32 := 0
  deriving DecidableEq, Repr

def Ipv4Header.read (data : List UInt8) : Ipv4Header :=
  { versionIhl := data.getD 0 0, tos := data.getD 1 0, totalLen := word data 2, id := word data 4
    fragOff := word data 6, ttl := data.getD 8 0, protocol := data.getD 9 0
    checksum := word data 10, srcIp := long data 12, dstIp := long data 16 }

def Ipv4Header.headerLen (header : Ipv4Header) : Nat := (header.versionIhl &&& 0x0f).toNat * 4

structure Ipv6Header where
  vtcFlow : UInt32 := 0
  payloadLen : UInt16 := 0
  nextHeader : UInt8 := 0
  hopLimit : UInt8 := 0
  srcIp : Vector UInt8 16 := Vector.replicate 16 0
  dstIp : Vector UInt8 16 := Vector.replicate 16 0
  deriving DecidableEq, Repr

def Ipv6Header.read (data : List UInt8) : Ipv6Header :=
  { vtcFlow := long data 0, payloadLen := word data 4, nextHeader := data.getD 6 0
    hopLimit := data.getD 7 0, srcIp := address (slice data 8 16), dstIp := address (slice data 24 16) }

def TcpHeader.read (data : List UInt8) : TcpHeader :=
  { srcPort := word data 0, dstPort := word data 2, seq := long data 4, ack := long data 8
    dataOffset := data.getD 12 0, flags := data.getD 13 0, window := word data 14
    checksum := word data 16, urgent := word data 18 }

def TcpHeader.zero : TcpHeader :=
  { srcPort := 0, dstPort := 0, seq := 0, ack := 0, dataOffset := 0, flags := 0, window := 0 }

def UdpHeader.zero : UdpHeader := { srcPort := 0, dstPort := 0, length := 0, checksum := 0 }

def UdpHeader.read (data : List UInt8) : UdpHeader :=
  { srcPort := word data 0, dstPort := word data 2, length := word data 4, checksum := word data 6 }

/-! The checksums.  The sums are those of at most a few packets' bytes, which 32 bits hold. -/

def checksumSum (data : List UInt8) (sum : Nat) : Nat := sum + OnesComplement.sum data

/-- The folding loop; two rounds end it. -/
def checksumFold (sum : Nat) : UInt16 := OnesComplement.complement (OnesComplement.fold 2 sum)

def ipChecksum (data : List UInt8) : UInt16 := checksumFold (checksumSum data 0)

/-- The word at 10 counts as zero. -/
def ipv4Checksum (header : List UInt8) : UInt16 :=
  checksumFold (checksumSum (slice header 0 10 ++ [0, 0] ++ header.drop 12) 0)

def verifyIpv4Checksum (header : List UInt8) : UInt16 := checksumFold (checksumSum header 0)

def addrLen (family : UInt8) : Nat := if family = 6 then 16 else 4

def tcpUdpChecksum (family : UInt8) (srcIp dstIp : Vector UInt8 16) (protocol : UInt8)
    (segment : List UInt8) : UInt16 :=
  let sum := checksumSum (srcIp.toList.take (addrLen family)) 0
  let sum := checksumSum (dstIp.toList.take (addrLen family)) sum
  let sum := sum + protocol.toNat
  let sum := sum + segment.length % 65536
  checksumFold (checksumSum segment sum)

/-- An address of either version; the default is an IPv4 one. -/
inductive IpAddress
  | v4 (bytes : Vector UInt8 4)
  | v6 (bytes : Vector UInt8 16)
  deriving DecidableEq, Repr

/-! The parser. -/

inductive ParseError
  | none
  | invalidVersion
  | packetTooShort
  | bufferTooSmall
  | invalidIpHeaderLength
  | invalidTotalLength
  | invalidTransportHeader
  deriving DecidableEq, Repr

/-- The fields that `clear_state` resets; `payload` is the index of the first byte behind the IP
header. -/
structure IpPacket where
  parseError : ParseError := .none
  version : UInt8 := 0
  protocol : UInt8 := 0
  srcIp : Vector UInt8 16 := Vector.replicate 16 0
  dstIp : Vector UInt8 16 := Vector.replicate 16 0
  totalLen : Nat := 0
  fragmented : Bool := false
  fragOffset : UInt16 := 0
  v4 : Ipv4Header := {}
  v6 : Ipv6Header := {}
  tcp : TcpHeader := TcpHeader.zero
  udp : UdpHeader := UdpHeader.zero
  icmpType : UInt8 := 0
  icmpCode : UInt8 := 0
  icmpChecksum : UInt16 := 0
  icmpEchoId : UInt16 := 0
  icmpEchoSeq : UInt16 := 0
  payload : Option Nat := Option.none
  payloadLen : Nat := 0
  transportParsed : Bool := false
  deriving DecidableEq, Repr

namespace IpPacket

def valid (packet : IpPacket) : Bool := packet.parseError = .none

def refuse (packet : IpPacket) (error : ParseError) : IpPacket := { packet with parseError := error }

def parseTransport (packet : IpPacket) (protocol : UInt8) (segment : List UInt8) : IpPacket :=
  let packet := { packet with transportParsed := false }
  if protocol = ipProtocolTcp then
    if segment.length < 20 then packet.refuse .invalidTransportHeader
    else
      let packet := { packet with tcp := TcpHeader.read segment }
      let headerLen := packet.tcp.headerLen
      if headerLen < 20 ∨ headerLen > segment.length then packet.refuse .invalidTransportHeader
      else { packet with transportParsed := true }
  else if protocol = ipProtocolUdp then
    if segment.length < 8 then packet.refuse .invalidTransportHeader
    else
      let packet := { packet with udp := UdpHeader.read segment }
      let length := packet.udp.length.toNat
      if length < 8 ∨ length > segment.length then packet.refuse .invalidTransportHeader
      else { packet with transportParsed := true }
  else if protocol = ipProtocolIcmp ∨ protocol = ipProtocolIcmpv6 then
    if segment.length < 8 then packet.refuse .invalidTransportHeader
    else
      let type := segment.getD 0 0
      let packet := { packet with
        icmpType := type
        icmpCode := segment.getD 1 0
        icmpChecksum := word segment 2 }
      let echo := (protocol = ipProtocolIcmp ∧ (type = 8 ∨ type = 0)) ∨
        (protocol = ipProtocolIcmpv6 ∧ (type = 128 ∨ type = 129))
      let packet :=
        if echo then { packet with icmpEchoId := word segment 4, icmpEchoSeq := word segment 6 }
        else packet
      { packet with transportParsed := true }
  else packet

def parseV4 (data : List UInt8) : IpPacket :=
  let packet : IpPacket := { v4 := Ipv4Header.read data }
  let ihl := packet.v4.headerLen
  if ihl < 20 ∨ ihl > data.length then packet.refuse .invalidIpHeaderLength
  else
    let total := packet.v4.totalLen.toNat
    if total < ihl ∨ total > data.length then packet.refuse .invalidTotalLength
    else
      let frag := packet.v4.fragOff
      let packet := { packet with
        version := 4
        protocol := packet.v4.protocol
        srcIp := address (slice data 12 4)
        dstIp := address (slice data 16 4)
        totalLen := total
        fragmented := frag &&& 0x3fff != 0
        fragOffset := (frag &&& 0x1fff) * 8
        payload := some ihl
        payloadLen := total - ihl }
      if packet.fragOffset = 0 then
        packet.parseTransport packet.protocol (slice data ihl (total - ihl))
      else packet

def parseV6 (data : List UInt8) : IpPacket :=
  if data.length < 40 then { parseError := .packetTooShort }
  else
    let packet : IpPacket := { v6 := Ipv6Header.read data }
    let plen := packet.v6.payloadLen.toNat
    if 40 + plen > data.length then packet.refuse .invalidTotalLength
    else
      let packet := { packet with
        version := 6
        protocol := packet.v6.nextHeader
        srcIp := packet.v6.srcIp
        dstIp := packet.v6.dstIp
        totalLen := 40 + plen
        payload := some 40
        payloadLen := plen }
      packet.parseTransport packet.protocol (slice data 40 plen)

def doParse (data : List UInt8) : IpPacket :=
  if data.length < 20 then { parseError := .packetTooShort }
  else if data.getD 0 0 >>> 4 = 4 then parseV4 data
  else if data.getD 0 0 >>> 4 = 6 then parseV6 data
  else { parseError := .invalidVersion }

/-- `capacity` is the writable size of the packet's own buffer. -/
def parse (capacity : Nat) (data : List UInt8) : IpPacket :=
  if data.length > capacity then { parseError := .bufferTooSmall } else doParse data

/-! The accessors. -/

/-- The bytes that an IPv4 address has. -/
def v4Address (a : Vector UInt8 16) : Vector UInt8 4 :=
  Vector.ofFn fun i => a.get (Fin.castLE (by decide) i)

def sourceAddress (packet : IpPacket) : IpAddress :=
  if packet.version = 4 then .v4 (v4Address packet.srcIp)
  else if packet.version = 6 then .v6 packet.srcIp
  else .v4 (Vector.replicate 4 0)

def destinationAddress (packet : IpPacket) : IpAddress :=
  if packet.version = 4 then .v4 (v4Address packet.dstIp)
  else if packet.version = 6 then .v6 packet.dstIp
  else .v4 (Vector.replicate 4 0)

def ipv4 (packet : IpPacket) : Option Ipv4Header :=
  if packet.version = 4 then some packet.v4 else none

def ipv6 (packet : IpPacket) : Option Ipv6Header :=
  if packet.version = 6 then some packet.v6 else none

/-- `tcp()`, which is empty for any other protocol. -/
def tcpView (packet : IpPacket) : Option TcpHeader :=
  if packet.protocol = ipProtocolTcp ∧ packet.transportParsed then some packet.tcp else none

/-- `udp()`. -/
def udpView (packet : IpPacket) : Option UdpHeader :=
  if packet.protocol = ipProtocolUdp ∧ packet.transportParsed then some packet.udp else none

def sourcePort (packet : IpPacket) : UInt16 :=
  if packet.protocol = ipProtocolTcp ∧ packet.transportParsed then packet.tcp.srcPort
  else if packet.protocol = ipProtocolUdp ∧ packet.transportParsed then packet.udp.srcPort
  else 0

def destinationPort (packet : IpPacket) : UInt16 :=
  if packet.protocol = ipProtocolTcp ∧ packet.transportParsed then packet.tcp.dstPort
  else if packet.protocol = ipProtocolUdp ∧ packet.transportParsed then packet.udp.dstPort
  else 0

/-- The index of `transport_data()` and `transport_data_size()`. -/
def transportData (packet : IpPacket) : Option (Nat × Nat) :=
  packet.payload.map fun payload =>
    if packet.protocol = ipProtocolTcp ∧ packet.transportParsed then
      (payload + packet.tcp.headerLen, packet.payloadLen - packet.tcp.headerLen)
    else if packet.protocol = ipProtocolUdp ∧ packet.transportParsed then
      (payload + 8, sizeSub packet.udp.length.toNat 8)
    else if (packet.protocol = ipProtocolIcmp ∨ packet.protocol = ipProtocolIcmpv6) ∧
        packet.transportParsed then
      (payload + 8, packet.payloadLen - 8)
    else (payload, packet.payloadLen)

end IpPacket

end Tunio
