import Tunio.IpPacket
import Tunio.World

/-!
The way of a packet from the device to its protocol handler (`handle_packet` in `tunio.cpp`, and
the tests at the start of the two `on_packet`), compared with the public parser.
-/

namespace Tunio

open Octets

/-- The addresses of the engine itself, where it has them. -/
structure LocalAddresses where
  haveIp4 : Bool := false
  haveIp6 : Bool := false
  localIp4 : List UInt8 := [0, 0, 0, 0]
  localIp6 : List UInt8 := List.replicate 16 0
  deriving DecidableEq, Repr

/-- What a protocol handler is called with; `payload` is the index of its first byte. -/
structure Delivery where
  ip : IpPacketInfo
  protocol : UInt8
  payload : Nat
  payloadLen : Nat
  deriving DecidableEq, Repr

def isReservedLocal (a : Vector UInt8 16) (family : UInt8) : Bool :=
  if family = 4 then a[0] = 0x7f ∨ a[0] = 0x00
  else if (a.toList.take 15).all fun b => b = 0 then a[15] = 0 ∨ a[15] = 1
  else a[0] = 0xfe ∧ a[1] &&& 0xc0 = 0x80

/-- The guard against loops and local addresses. -/
def guarded (locals : LocalAddresses) (ip : IpPacketInfo) : Bool :=
  (locals.haveIp4 ∧ ip.family = 4 ∧ ip.srcIp.toList.take 4 = locals.localIp4) ∨
    (locals.haveIp6 ∧ ip.family = 6 ∧ ip.srcIp.toList = locals.localIp6) ∨
    isReservedLocal ip.srcIp ip.family ∨ isReservedLocal ip.dstIp ip.family

def routeV4 (packet : List UInt8) : Option Delivery :=
  let h := Ipv4Header.read packet
  let ihl := h.headerLen
  if ihl < 20 ∨ ihl > packet.length then none
  else
    let totalLen := h.totalLen.toNat
    if totalLen < ihl ∨ totalLen > packet.length then none
    else
      let frag := h.fragOff
      if frag &&& 0x1fff ≠ 0 ∨ frag &&& 0x2000 ≠ 0 then none
      else if verifyIpv4Checksum (packet.take ihl) ≠ 0 then none
      else some {
        ip := {
          family := 4
          srcIp := address (slice packet 12 4)
          dstIp := address (slice packet 16 4) }
        protocol := h.protocol
        payload := ihl
        payloadLen := totalLen - ihl }

/-- The headers that may follow an IPv6 header and that the engine does not know. -/
def isExtension (nextHeader : UInt8) : Bool :=
  nextHeader = 0 ∨ nextHeader = 43 ∨ nextHeader = 44 ∨ nextHeader = 51 ∨ nextHeader = 60

def routeV6 (packet : List UInt8) : Option Delivery :=
  if packet.length < 40 then none
  else
    let h := Ipv6Header.read packet
    let payloadLenField := h.payloadLen.toNat
    if 40 + payloadLenField > packet.length then none
    else if isExtension h.nextHeader then none
    else some {
      ip := { family := 6, srcIp := h.srcIp, dstIp := h.dstIp }
      protocol := h.nextHeader
      payload := 40
      payloadLen := payloadLenField }

def hasHandler (protocol : UInt8) : Bool :=
  protocol = ipProtocolIcmp ∨ protocol = ipProtocolIcmpv6 ∨ protocol = ipProtocolTcp ∨
    protocol = ipProtocolUdp

/-- The tests that are made on any packet with an IP header. -/
def admits (locals : LocalAddresses) (delivery : Delivery) : Bool :=
  ¬guarded locals delivery.ip ∧ hasHandler delivery.protocol

/-- `handle_packet` up to the call of a handler; `none` when the packet is dropped and counted. -/
def routePacket (locals : LocalAddresses) (packet : List UInt8) : Option Delivery :=
  if packet.length < 20 then none
  else
    let version := packet.getD 0 0 >>> 4
    let delivery :=
      if version = 4 then routeV4 packet
      else if version = 6 then routeV6 packet
      else none
    delivery.filter (admits locals)

/-- `tcp_engine::on_packet`. -/
def World.onSegment (w : World) (ip : IpPacketInfo) (payload : List UInt8) (iss : UInt32) : World :=
  w.onPacket ip (TcpHeader.read payload)
    (tcpUdpChecksum ip.family ip.srcIp ip.dstIp ipProtocolTcp payload = 0) payload iss

/-- `udp_engine::on_packet`. -/
def UdpEngine.onDatagram (e : UdpEngine) (ip : IpPacketInfo) (payload : List UInt8) : UdpEngine :=
  if payload.length < udpHeaderSize then e.drop
  else
    let uh := UdpHeader.read payload
    e.onPacket ip uh
      (tcpUdpChecksum ip.family ip.srcIp ip.dstIp ipProtocolUdp (payload.take uh.length.toNat) = 0)
      (payload.drop udpHeaderSize)

end Tunio
