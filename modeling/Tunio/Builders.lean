import Tunio.Dispatch
import Tunio.Output
import Tunio.QueueWriter

/-!
The packets that the engines build (`build_ip_header`, `build_segment`, `udp_engine.hpp` and the
echo replies of `tunio.cpp`), as the code writes them into a buffer of the writer.  Memory is the
list of the bytes behind a pointer; what is in it before is whatever the buffer was used for.
-/

namespace Tunio

open Octets

/-- Memory as the allocator hands it out. -/
def allocate (junk : Nat → UInt8) (capacity : Nat) : List UInt8 := (List.range capacity).map junk

namespace PacketBuffer

/-- The bytes of the packet are replaced by as many others. -/
def store (buf : PacketBuffer) (data : List UInt8) : PacketBuffer :=
  if same : data.length = buf.size then
    have whole : (buf.storage.take buf.headroom ++ data ++
        buf.storage.drop (buf.headroom + buf.size)).length = buf.storage.length := by
      have fits := buf.fits
      simp only [List.length_append, List.length_take, List.length_drop]
      omega
    { buf with
      storage := buf.storage.take buf.headroom ++ data ++ buf.storage.drop (buf.headroom + buf.size)
      room := whole ▸ buf.room
      fits := whole ▸ buf.fits }
  else buf

@[simp] theorem store_size (buf : PacketBuffer) (data : List UInt8) :
    (buf.store data).size = buf.size := by
  unfold store
  split <;> rfl

@[simp] theorem store_bytes (buf : PacketBuffer) {data : List UInt8} (same : data.length = buf.size) :
    (buf.store data).bytes = data := by
  have room := Nat.le_of_lt buf.room
  have front : (buf.storage.take buf.headroom).length = buf.headroom := by
    rw [List.length_take]
    omega
  unfold store bytes
  rw [dif_pos same]
  dsimp only
  rw [List.append_assoc, List.drop_left' front, List.take_left' same]

end PacketBuffer

/-- A buffer of the pool, or a new one, for a packet of so many bytes. -/
def QueueWriter.buffer (w : QueueWriter) (junk : Nat → UInt8) (capacity total : Nat) :
    QueueWriter × Option PacketBuffer :=
  let acquired := w.acquire (allocate junk capacity) 64
  (acquired.1, acquired.2.bind fun pkt => pkt.resize total)

def kDefaultTtl : UInt8 := 64

def buildIpHeader (memory : List UInt8) (family : UInt8) (srcIp dstIp : Vector UInt8 16)
    (protocol : UInt8) (totalLen : Nat) (ipId : UInt16) : List UInt8 :=
  if family = 4 then
    let memory := writeFields memory 0 [[0x45], [0], ofWord (UInt16.ofNat totalLen), ofWord ipId,
      ofWord 0x4000, [kDefaultTtl], [protocol], ofWord 0, srcIp.toList.take 4, dstIp.toList.take 4]
    write memory 10 (ofWord (ipv4Checksum (slice memory 0 20)))
  else
    writeFields memory 0 [ofLong 0x60000000,
      ofWord (UInt16.ofNat (if totalLen > 40 then totalLen - 40 else 0)), [protocol], [kDefaultTtl],
      srcIp.toList, dstIp.toList]

/-! TCP. -/

/-- The TCP header, the options and the payload of a segment, behind the IP header. -/
def writeSegment (memory : List UInt8) (ipHdrLen : Nat) (key : FiveTuple) (segment : Segment)
    (withMss : Bool) : List UInt8 :=
  let tcpHdrLen := if withMss then 28 else 20
  let len := segment.payload.length
  let memory := writeFields memory ipHdrLen [ofWord key.dstPort, ofWord key.srcPort,
    ofLong segment.seq, ofLong segment.ack, [segment.dataOffset], [segment.flags],
    ofWord segment.window, ofWord 0, ofWord 0]
  let memory := if withMss then write memory (ipHdrLen + 20) segment.options else memory
  let memory := if len > 0 then write memory (ipHdrLen + tcpHdrLen) segment.payload else memory
  write memory (ipHdrLen + 16) (ofWord (tcpUdpChecksum key.family key.dstIp key.srcIp ipProtocolTcp
    (slice memory ipHdrLen (tcpHdrLen + len))))

/-- `build_segment` with the buffer it writes to; `none` when `resize` throws. -/
def buildSegmentPacket (w : QueueWriter) (junk : Nat → UInt8) (c : Conn) (seq : UInt32) (flags : UInt8)
    (payload : List UInt8) (withMss : Bool) : QueueWriter × Option PacketBuffer :=
  let key := c.flow.key
  let ipHdrLen := UdpEngine.ipHeaderSize key.family
  let tcpHdrLen := if withMss then 28 else 20
  let total := ipHdrLen + tcpHdrLen + payload.length
  let (w, pkt) := w.buffer junk (c.eng.cfg.mtu + 64) total
  match pkt with
  | none => (w, none)
  | some pkt =>
      let (w, ipId) := w.allocIpId
      let base := buildIpHeader pkt.bytes key.family key.dstIp key.srcIp ipProtocolTcp total ipId
      let segment := (buildSegment c seq flags payload withMss).1
      (w, some (pkt.store (writeSegment base ipHdrLen key segment withMss)))

/-! UDP. -/

/-- The pieces of the user's buffers that are copied while so many bytes are left. -/
def gathered : List (List UInt8) → Nat → List (List UInt8)
  | [], _ => []
  | buf :: rest, left =>
      if left = 0 then []
      else buf.take (min buf.length left) :: gathered rest (left - min buf.length left)

/-- The family and the bytes of the address of a remote end; `none` when `to_v4` throws, as it does
for an IPv6 address that stands for an IPv4 one. -/
def udpEndpointToAddrBytes (remote : Endpoint) : Option (UInt8 × Vector UInt8 16) :=
  if remote.isV6 ∧ ¬UdpEngine.isV4Mapped remote.address then some (6, remote.address)
  else if remote.isV6 then none
  else some (4, addressOf 4 remote.address)

def udpBuildDatagram (family : UInt8) (srcAddr dstAddr : Vector UInt8 16) (srcPort dstPort : UInt16)
    (buffers : List (List UInt8)) (payloadLen : Nat) (memory : List UInt8) (offset : Nat) :
    List UInt8 :=
  let memory := writeFields memory offset [ofWord srcPort, ofWord dstPort,
    ofWord (UInt16.ofNat (udpHeaderSize + payloadLen)), ofWord 0]
  let memory := writeFields memory (offset + udpHeaderSize) (gathered buffers payloadLen)
  let csum := tcpUdpChecksum family srcAddr dstAddr ipProtocolUdp
    (slice memory offset (udpHeaderSize + payloadLen))
  let csum := if csum = 0 then 0xffff else csum
  write memory (offset + 6) (ofWord csum)

/-- The packet of `udp_send_single`; `none` when `resize` throws. -/
def udpSendSingle (w : QueueWriter) (junk : Nat → UInt8) (mtu : Nat) (key : UdpSessionKey)
    (remotePort : UInt16) (family : UInt8) (srcAddr : Vector UInt8 16) (buffers : List (List UInt8))
    (total : Nat) : QueueWriter × Option PacketBuffer :=
  let ipHdrLen := UdpEngine.ipHeaderSize family
  let totalLen := ipHdrLen + udpHeaderSize + total
  let (w, pkt) := w.buffer junk (mtu + 64) totalLen
  match pkt with
  | none => (w, none)
  | some pkt =>
      let (w, ipId) := w.allocIpId
      let base := buildIpHeader pkt.bytes family srcAddr key.srcIp ipProtocolUdp totalLen ipId
      (w, some (pkt.store (udpBuildDatagram family srcAddr key.srcIp remotePort key.srcPort buffers
        total base ipHdrLen)))

/-- One fragment, in the bytes of its buffer. -/
def writeFragment (memory : List UInt8) (srcAddr dstAddr : Vector UInt8 16) (datagram : List UInt8)
    (ipId : UInt16) (off fragData : Nat) : List UInt8 :=
  let last := decide (off + fragData ≥ datagram.length)
  let memory := writeFields memory 0 [[0x45], [0], ofWord (UInt16.ofNat (20 + fragData)), ofWord ipId,
    ofWord ((if last then 0 else 0x2000) ||| UInt16.ofNat (off / 8)), [64], [ipProtocolUdp], ofWord 0,
    srcAddr.toList.take 4, dstAddr.toList.take 4]
  let memory := write memory 10 (ofWord (ipv4Checksum (slice memory 0 20)))
  write memory 20 (slice datagram off fragData)

/-- What the fragments of a datagram have in common. -/
structure Fragmentation where
  mtu : Nat
  srcAddr : Vector UInt8 16
  dstAddr : Vector UInt8 16
  datagram : List UInt8
  ipId : UInt16

namespace Fragmentation

def maxFragPayload (mtu : Nat) : Nat := (if mtu > 20 then mtu - 20 else 0) / 8 * 8

def firstData (mtu : Nat) : Nat :=
  if maxFragPayload mtu > udpHeaderSize then (maxFragPayload mtu - udpHeaderSize) / 8 * 8 else 0

/-- The number of bytes of the datagram in the fragment that starts at `off`. -/
def fragData (f : Fragmentation) (off : Nat) : Nat :=
  let remain := f.datagram.length - off
  if off = 0 then min (udpHeaderSize + firstData f.mtu) remain
  else min (maxFragPayload f.mtu) remain

/-- The loop that cuts the datagram, with a bound on its rounds; `none` when `resize` throws. -/
def cut (f : Fragmentation) (junk : Nat → Nat → UInt8) :
    Nat → QueueWriter → Nat → List PacketBuffer → QueueWriter × Option (List PacketBuffer)
  | 0, w, _, frags => (w, some frags)
  | fuel + 1, w, off, frags =>
      if off < f.datagram.length then
        let fragData := f.fragData off
        let (w, frag) := w.buffer (junk off) (f.mtu + 64) (20 + fragData)
        match frag with
        | none => (w, none)
        | some frag =>
            let frag := frag.store
              (writeFragment frag.bytes f.srcAddr f.dstAddr f.datagram f.ipId off fragData)
            f.cut junk fuel w (off + fragData) (frags ++ [frag])
      else (w, some frags)

end Fragmentation

/-- The fragments of `udp_write_ipv4_fragments`; there are none when the MTU is too small. -/
def udpWriteIpv4Fragments (w : QueueWriter) (junk : Nat → Nat → UInt8) (mtu : Nat)
    (srcAddr dstAddr : Vector UInt8 16) (datagram : List UInt8) :
    QueueWriter × Option (List PacketBuffer) :=
  if Fragmentation.maxFragPayload mtu < udpHeaderSize then (w, some [])
  else
    let (w, ipId) := w.allocIpId
    let f : Fragmentation :=
      { mtu := mtu, srcAddr := srcAddr, dstAddr := dstAddr, datagram := datagram, ipId := ipId }
    f.cut junk datagram.length w 0 []

def udpSendFragmented (w : QueueWriter) (junk : Nat → Nat → UInt8) (mtu : Nat) (key : UdpSessionKey)
    (remotePort : UInt16) (srcAddr : Vector UInt8 16) (buffers : List (List UInt8)) (total : Nat) :
    QueueWriter × Option (List PacketBuffer) :=
  let datagram := List.replicate (udpHeaderSize + total) 0
  let datagram := udpBuildDatagram 4 srcAddr key.srcIp remotePort key.srcPort buffers total datagram 0
  udpWriteIpv4Fragments w junk mtu srcAddr key.srcIp datagram

/-! Echo replies. -/

/-- The ICMP message of a reply, whose checksum is computed by `checksum`. -/
def writeEchoReply (memory : List UInt8) (offset : Nat) (icmp : List UInt8) (type : UInt8)
    (checksum : List UInt8 → UInt16) : List UInt8 :=
  let memory := write memory offset icmp
  let memory := write memory offset [type]
  let memory := write memory (offset + 2) [0]
  let memory := write memory (offset + 3) [0]
  write memory (offset + 2) (ofWord (checksum (slice memory offset icmp.length)))

/-- `handle_icmp`; `none` when there is no reply. -/
def handleIcmp (w : QueueWriter) (junk : Nat → UInt8) (locals : LocalAddresses) (ip : IpPacketInfo)
    (icmp : List UInt8) : QueueWriter × Option PacketBuffer :=
  if ¬locals.haveIp4 ∨ icmp.length < 8 then (w, none)
  else if ip.dstIp.toList.take 4 ≠ locals.localIp4 ∨ icmp.getD 0 0 ≠ 8 then (w, none)
  else if ipChecksum icmp ≠ 0 then (w, none)
  else
    let (w, reply) := w.buffer junk (20 + icmp.length + 64) (20 + icmp.length)
    match reply with
    | none => (w, none)
    | some reply =>
        let (w, ipId) := w.allocIpId
        let out := buildIpHeader reply.bytes 4 ip.dstIp ip.srcIp ipProtocolIcmp (20 + icmp.length) ipId
        (w, some (reply.store (writeEchoReply out 20 icmp 0 ipChecksum)))

def handleIcmpv6 (w : QueueWriter) (junk : Nat → UInt8) (locals : LocalAddresses) (ip : IpPacketInfo)
    (icmp : List UInt8) : QueueWriter × Option PacketBuffer :=
  if ¬locals.haveIp6 ∨ icmp.length < 8 then (w, none)
  else if ip.dstIp.toList ≠ locals.localIp6 ∨ icmp.getD 0 0 ≠ 128 then (w, none)
  else if tcpUdpChecksum 6 ip.srcIp ip.dstIp ipProtocolIcmpv6 icmp ≠ 0 then (w, none)
  else
    let (w, reply) := w.buffer junk (40 + icmp.length + 64) (40 + icmp.length)
    match reply with
    | none => (w, none)
    | some reply =>
        let out := buildIpHeader reply.bytes 6 ip.dstIp ip.srcIp ipProtocolIcmpv6 (40 + icmp.length) 0
        (w, some (reply.store (writeEchoReply out 40 icmp 129
          (tcpUdpChecksum 6 ip.dstIp ip.srcIp ipProtocolIcmpv6))))

end Tunio
