import Mathlib.Data.List.Forall2
import Tunio.Encoding

/-!
Two runs of a builder whose pools differ in what their buffers hold: the packets are the same.
-/

namespace Tunio

open Octets

/-! The packets, as functions of what they are built from. -/

def segmentPacket (c : Conn) (seq : UInt32) (flags : UInt8) (payload : List UInt8) (withMss : Bool)
    (ipId : UInt16) : List UInt8 :=
  let key := c.flow.key
  let segment := (buildSegment c seq flags payload withMss).1
  let total := UdpEngine.ipHeaderSize key.family + (if withMss then 28 else 20) + payload.length
  ipHeader key.family key.dstIp key.srcIp ipProtocolTcp total ipId ++
    tcpBytes key segment (tcpChecksum key segment)

def datagramPacket (key : UdpSessionKey) (remotePort : UInt16) (family : UInt8)
    (srcAddr : Vector UInt8 16) (payload : List UInt8) (ipId : UInt16) : List UInt8 :=
  let total := UdpEngine.ipHeaderSize family + udpHeaderSize + payload.length
  ipHeader family srcAddr key.srcIp ipProtocolUdp total ipId ++
    udpBytes remotePort key.srcPort payload
      (udpChecksum family srcAddr key.srcIp remotePort key.srcPort payload)

/-- The fragment that starts at `off`. -/
def Fragmentation.packet (f : Fragmentation) (off : Nat) : List UInt8 :=
  ipv4Header (UInt16.ofNat (20 + f.fragData off)) f.ipId
    ((if off + f.fragData off ≥ f.datagram.length then 0 else 0x2000) ||| UInt16.ofNat (off / 8)) 64
    ipProtocolUdp f.srcAddr f.dstAddr ++ slice f.datagram off (f.fragData off)

def echoPacket (family : UInt8) (ip : IpPacketInfo) (protocol : UInt8) (icmp : List UInt8)
    (type : UInt8) (ipId : UInt16) (checksum : List UInt8 → UInt16) : List UInt8 :=
  ipHeader family ip.dstIp ip.srcIp protocol (UdpEngine.ipHeaderSize family + icmp.length) ipId ++
    echoBytes icmp type (checksum (echoBytes icmp type 0))

/-! A buffer for a packet. -/

theorem QueueWriter.buffer_size {w : QueueWriter} {junk : Nat → UInt8} {capacity total : Nat}
    {pkt : PacketBuffer} (made : (w.buffer junk capacity total).2 = some pkt) :
    pkt.bytes.length = total := by
  obtain ⟨got, _, resized⟩ := Option.bind_eq_some_iff.mp made
  obtain ⟨_, _, _, size⟩ := PacketBuffer.resize_eq_some resized
  rw [PacketBuffer.bytes_length, size]

@[simp] theorem QueueWriter.buffer_ipId (w : QueueWriter) (junk : Nat → UInt8) (capacity total : Nat) :
    (w.buffer junk capacity total).1.ipId = w.ipId := rfl

/-- Filling a buffer from the front and then to its end. -/
theorem stored {pkt : PacketBuffer} {head tail : List UInt8} {offset total : Nat}
    (size : pkt.bytes.length = total) (front : head.length = offset)
    (whole : offset + tail.length = total) : (pkt.store (head ++ tail)).bytes = head ++ tail := by
  refine PacketBuffer.store_bytes pkt ?_
  rw [PacketBuffer.bytes_length] at size
  rw [List.length_append, front, whole, size]

theorem synOptions_length (cfg : TunConfig) (flow : TcpFlow) : (synOptions cfg flow).length = 8 := by
  unfold synOptions
  dsimp only
  split <;> rfl

theorem buildSegment_options (c : Conn) (seq : UInt32) (flags : UInt8) (payload : List UInt8)
    (withMss : Bool) :
    (buildSegment c seq flags payload withMss).1.options.length = if withMss then 8 else 0 := by
  unfold buildSegment
  cases withMss with
  | false => rfl
  | true => exact synOptions_length _ _

/-- The segment in the buffer is a function of the flow, the payload and the IP id. -/
theorem buildSegmentPacket_bytes {w : QueueWriter} {junk : Nat → UInt8} {c : Conn} {seq : UInt32}
    {flags : UInt8} {payload : List UInt8} {withMss : Bool} (known : IsFamily c.flow.key.family)
    {pkt : PacketBuffer}
    (made : (buildSegmentPacket w junk c seq flags payload withMss).2 = some pkt) :
    pkt.bytes = segmentPacket c seq flags payload withMss (w.ipId + 1) := by
  unfold buildSegmentPacket at made
  dsimp only at made
  split at made
  · cases made
  · rename_i got buffer
    cases made
    have size := QueueWriter.buffer_size buffer
    have room : UdpEngine.ipHeaderSize c.flow.key.family ≤ got.bytes.length := by omega
    have options := buildSegment_options c seq flags payload withMss
    have header := ipHeader_length known c.flow.key.dstIp c.flow.key.srcIp ipProtocolTcp
      (UdpEngine.ipHeaderSize c.flow.key.family + (if withMss then 28 else 20) + payload.length)
      (w.ipId + 1)
    rw [buildIpHeader_eq known room]
    have left : (got.bytes.drop (UdpEngine.ipHeaderSize c.flow.key.family)).length =
        (if withMss then 28 else 20) + (buildSegment c seq flags payload withMss).1.payload.length := by
      rw [List.length_drop, size]
      change _ = _ + payload.length
      omega
    have written := writeSegment_eq (ipHeader c.flow.key.family c.flow.key.dstIp c.flow.key.srcIp
      ipProtocolTcp (UdpEngine.ipHeaderSize c.flow.key.family + (if withMss then 28 else 20) +
        payload.length) (w.ipId + 1)) c.flow.key options left
    rw [header] at written
    change (got.store (writeSegment _ _ _ _ _)).bytes = _
    rw [show (((w.buffer junk (c.eng.cfg.mtu + 64) (UdpEngine.ipHeaderSize c.flow.key.family +
      (if withMss then 28 else 20) + payload.length)).1.allocIpId).2) = w.ipId + 1 from rfl, written]
    refine stored size header ?_
    rw [tcpBytes_length, options]
    change _ + (20 + _ + payload.length) = _
    split <;> omega

/-- The datagram in the buffer is a function of the session, the remote end, the payload and the
IP id. -/
theorem udpSendSingle_bytes {w : QueueWriter} {junk : Nat → UInt8} {mtu : Nat} {key : UdpSessionKey}
    {remotePort : UInt16} {family : UInt8} {srcAddr : Vector UInt8 16} {buffers : List (List UInt8)}
    {total : Nat} (known : IsFamily family) (holds : total ≤ buffers.flatten.length)
    {pkt : PacketBuffer}
    (made : (udpSendSingle w junk mtu key remotePort family srcAddr buffers total).2 = some pkt) :
    pkt.bytes = datagramPacket key remotePort family srcAddr (buffers.flatten.take total)
      (w.ipId + 1) := by
  have length : (buffers.flatten.take total).length = total := by
    rw [List.length_take]
    omega
  unfold udpSendSingle at made
  dsimp only at made
  split at made
  · cases made
  · rename_i got buffer
    cases made
    have size := QueueWriter.buffer_size buffer
    have room : UdpEngine.ipHeaderSize family ≤ got.bytes.length := by omega
    have header := ipHeader_length known srcAddr key.srcIp ipProtocolUdp
      (UdpEngine.ipHeaderSize family + udpHeaderSize + total) (w.ipId + 1)
    have left : (got.bytes.drop (UdpEngine.ipHeaderSize family)).length = udpHeaderSize + total := by
      rw [List.length_drop, size]
      omega
    have written := udpBuildDatagram_eq family srcAddr key.srcIp remotePort key.srcPort holds
      (ipHeader family srcAddr key.srcIp ipProtocolUdp
        (UdpEngine.ipHeaderSize family + udpHeaderSize + total) (w.ipId + 1)) left
    rw [header] at written
    rw [buildIpHeader_eq known room]
    change (got.store (udpBuildDatagram _ _ _ _ _ _ _ (ipHeader _ _ _ _ _ (w.ipId + 1) ++ _) _)).bytes
      = _
    unfold datagramPacket
    dsimp only
    rw [written, length]
    refine stored size header ?_
    rw [udpBytes_length, length]
    omega

/-- A datagram for the fragments, in memory of its own. -/
theorem udpBuildDatagram_alone (key : UdpSessionKey) (remotePort : UInt16)
    (srcAddr : Vector UInt8 16) {buffers : List (List UInt8)} {total : Nat}
    (holds : total ≤ buffers.flatten.length) :
    udpBuildDatagram 4 srcAddr key.srcIp remotePort key.srcPort buffers total
        (List.replicate (udpHeaderSize + total) 0) 0 =
      udpBytes remotePort key.srcPort (buffers.flatten.take total)
        (udpChecksum 4 srcAddr key.srcIp remotePort key.srcPort (buffers.flatten.take total)) :=
  udpBuildDatagram_eq 4 srcAddr key.srcIp remotePort key.srcPort holds []
    (List.length_replicate)

namespace Fragmentation

variable {f : Fragmentation}

/-- The starts of the fragments from one offset on. -/
def offsets (f : Fragmentation) : Nat → Nat → List Nat
  | 0, _ => []
  | fuel + 1, off =>
      if off < f.datagram.length then off :: f.offsets fuel (off + f.fragData off) else []

theorem fragData_inside (f : Fragmentation) {off : Nat} (more : off < f.datagram.length) :
    off + f.fragData off ≤ f.datagram.length := by
  unfold fragData
  dsimp only
  split <;> omega

/-- The fragments in the buffers are functions of the datagram and of the offset. -/
theorem cut_bytes (junk : Nat → Nat → UInt8) (fuel : Nat) {w : QueueWriter} {off : Nat}
    {before after : List PacketBuffer} (made : (f.cut junk fuel w off before).2 = some after) :
    after.map PacketBuffer.bytes =
      before.map PacketBuffer.bytes ++ (f.offsets fuel off).map f.packet := by
  induction fuel generalizing w off before with
  | zero =>
      cases made
      simp [offsets]
  | succ fuel ih =>
      unfold cut at made
      unfold offsets
      split at made
      · rename_i more
        rw [if_pos more]
        dsimp only at made
        split at made
        · cases made
        · rename_i got buffer
          have size := QueueWriter.buffer_size buffer
          have inside := f.fragData_inside more
          rw [ih made, List.map_append, List.map_cons, List.map_nil, List.map_cons, List.append_assoc,
            writeFragment_eq f.srcAddr f.dstAddr f.ipId inside size,
            stored size (ipv4Header_length ..) (by rw [slice_length f.datagram inside])]
          rfl
      · rename_i through
        cases made
        rw [if_neg through]
        simp

end Fragmentation

/-- The fragments of a datagram. -/
def fragmentPackets (mtu : Nat) (srcAddr dstAddr : Vector UInt8 16) (datagram : List UInt8)
    (ipId : UInt16) : List (List UInt8) :=
  if Fragmentation.maxFragPayload mtu < udpHeaderSize then []
  else
    let f : Fragmentation :=
      { mtu := mtu, srcAddr := srcAddr, dstAddr := dstAddr, datagram := datagram, ipId := ipId }
    (f.offsets datagram.length 0).map f.packet

theorem udpWriteIpv4Fragments_bytes {w : QueueWriter} {junk : Nat → Nat → UInt8} {mtu : Nat}
    {srcAddr dstAddr : Vector UInt8 16} {datagram : List UInt8} {frags : List PacketBuffer}
    (made : (udpWriteIpv4Fragments w junk mtu srcAddr dstAddr datagram).2 = some frags) :
    frags.map PacketBuffer.bytes = fragmentPackets mtu srcAddr dstAddr datagram (w.ipId + 1) := by
  unfold udpWriteIpv4Fragments at made
  unfold fragmentPackets
  split at made
  · rename_i small
    cases made
    rw [if_pos small]
    rfl
  · rename_i enough
    rw [if_neg enough]
    exact Fragmentation.cut_bytes junk _ made

/-- A reply in its buffer. -/
theorem reply_stored {pkt : PacketBuffer} {family : UInt8} (known : IsFamily family)
    (ip : IpPacketInfo) (protocol : UInt8) {icmp : List UInt8} (type : UInt8) (ipId : UInt16)
    (checksum : List UInt8 → UInt16) {offset : Nat} (place : UdpEngine.ipHeaderSize family = offset)
    (least : 4 ≤ icmp.length) (size : pkt.bytes.length = offset + icmp.length) :
    (pkt.store (writeEchoReply (buildIpHeader pkt.bytes family ip.dstIp ip.srcIp protocol
        (offset + icmp.length) ipId) offset icmp type checksum)).bytes =
      echoPacket family ip protocol icmp type ipId checksum := by
  subst place
  have header := ipHeader_length known ip.dstIp ip.srcIp protocol
    (UdpEngine.ipHeaderSize family + icmp.length) ipId
  have left : (pkt.bytes.drop (UdpEngine.ipHeaderSize family)).length = icmp.length := by
    rw [List.length_drop, size, Nat.add_sub_cancel_left]
  have written := writeEchoReply_eq (ipHeader family ip.dstIp ip.srcIp protocol
    (UdpEngine.ipHeaderSize family + icmp.length) ipId) type checksum least left
  rw [header] at written
  rw [buildIpHeader_eq known (by omega), written]
  refine stored size header ?_
  rw [echoBytes_length least]

theorem handleIcmp_bytes {w : QueueWriter} {junk : Nat → UInt8} {locals : LocalAddresses}
    {ip : IpPacketInfo} {icmp : List UInt8} {reply : PacketBuffer}
    (made : (handleIcmp w junk locals ip icmp).2 = some reply) :
    reply.bytes = echoPacket 4 ip ipProtocolIcmp icmp 0 (w.ipId + 1) ipChecksum := by
  unfold handleIcmp at made
  split at made
  · cases made
  · split at made
    · cases made
    · split at made
      · cases made
      · dsimp only at made
        split at made
        · cases made
        · rename_i got buffer
          rw [← Option.some.inj made]
          exact reply_stored (Or.inl rfl) ip ipProtocolIcmp 0 (w.ipId + 1) ipChecksum rfl
            (by omega) (QueueWriter.buffer_size buffer)

theorem handleIcmpv6_bytes {w : QueueWriter} {junk : Nat → UInt8} {locals : LocalAddresses}
    {ip : IpPacketInfo} {icmp : List UInt8} {reply : PacketBuffer}
    (made : (handleIcmpv6 w junk locals ip icmp).2 = some reply) :
    reply.bytes = echoPacket 6 ip ipProtocolIcmpv6 icmp 129 0
      (tcpUdpChecksum 6 ip.dstIp ip.srcIp ipProtocolIcmpv6) := by
  unfold handleIcmpv6 at made
  split at made
  · cases made
  · split at made
    · cases made
    · split at made
      · cases made
      · dsimp only at made
        split at made
        · cases made
        · rename_i got buffer
          rw [← Option.some.inj made]
          exact reply_stored (Or.inr rfl) ip ipProtocolIcmpv6 129 0 _ rfl
            (by omega) (QueueWriter.buffer_size buffer)

/-! Two writers. -/

/-- Two buffers that hold whatever they hold. -/
structure SameShape (a b : PacketBuffer) : Prop where
  capacity : a.capacity = b.capacity
  headroom : a.headroom = b.headroom

/-- Two writers that differ in what the buffers of their pools hold. -/
structure Alike (w₁ w₂ : QueueWriter) : Prop where
  ipId : w₁.ipId = w₂.ipId
  pool : List.Forall₂ SameShape w₁.pool w₂.pool

theorem Alike.allocIpId {w₁ w₂ : QueueWriter} (alike : Alike w₁ w₂) :
    Alike w₁.allocIpId.1 w₂.allocIpId.1 :=
  ⟨congrArg (· + 1) alike.ipId, alike.pool⟩

theorem PacketBuffer.new_shape {memory₁ memory₂ : List UInt8} (size : memory₁.length = memory₂.length)
    (headroom : Nat) :
    Option.Rel SameShape (PacketBuffer.new memory₁ headroom) (PacketBuffer.new memory₂ headroom) := by
  unfold PacketBuffer.new
  by_cases room : headroom < memory₁.length
  · rw [dif_pos room, dif_pos (size ▸ room)]
    exact .some ⟨size, rfl⟩
  · rw [dif_neg room, dif_neg (size ▸ room)]
    exact .none

theorem PacketBuffer.resize_shape {a b : PacketBuffer} (same : SameShape a b) (len : Nat) :
    Option.Rel SameShape (a.resize len) (b.resize len) := by
  have limits : (len ≤ a.capacity - a.headroom) = (len ≤ b.capacity - b.headroom) := by
    rw [same.capacity, same.headroom]
  unfold PacketBuffer.resize
  by_cases fits : len ≤ a.capacity - a.headroom
  · rw [dif_pos fits, dif_pos (limits ▸ fits)]
    exact .some ⟨same.capacity, same.headroom⟩
  · rw [dif_neg fits, dif_neg (limits ▸ fits)]
    exact .none

theorem QueueWriter.acquireFrom_shape {memory₁ memory₂ : List UInt8}
    (size : memory₁.length = memory₂.length) (headroom : Nat) {pool₁ pool₂ : List PacketBuffer}
    (same : List.Forall₂ SameShape pool₁ pool₂) :
    List.Forall₂ SameShape (acquireFrom memory₁ headroom pool₁).1 (acquireFrom memory₂ headroom pool₂).1 ∧
      Option.Rel SameShape (acquireFrom memory₁ headroom pool₁).2
        (acquireFrom memory₂ headroom pool₂).2 := by
  induction same with
  | nil => exact ⟨.nil, PacketBuffer.new_shape size headroom⟩
  | cons head tail ih =>
      unfold acquireFrom
      rw [head.capacity, head.headroom, size]
      split
      · exact ⟨tail, .some head⟩
      · exact ih

/-- Both writers have a buffer, or none has. -/
theorem QueueWriter.buffer_shape {w₁ w₂ : QueueWriter} (alike : Alike w₁ w₂)
    (junk₁ junk₂ : Nat → UInt8) (capacity total : Nat) :
    Alike (w₁.buffer junk₁ capacity total).1 (w₂.buffer junk₂ capacity total).1 ∧
      Option.Rel SameShape (w₁.buffer junk₁ capacity total).2 (w₂.buffer junk₂ capacity total).2 := by
  have size : (allocate junk₁ capacity).length = (allocate junk₂ capacity).length := by
    simp [allocate]
  obtain ⟨pool, got⟩ := acquireFrom_shape size 64 alike.pool
  refine ⟨⟨alike.ipId, pool⟩, ?_⟩
  unfold buffer acquire
  dsimp only
  generalize (acquireFrom (allocate junk₁ capacity) 64 w₁.pool).2 = first at got
  generalize (acquireFrom (allocate junk₂ capacity) 64 w₂.pool).2 = second at got
  cases got with
  | none => exact .none
  | some same => exact PacketBuffer.resize_shape same total

/-- Two results: both have something to submit or none has, and the writers stay alike. -/
structure InStep {α : Type} (r₁ r₂ : QueueWriter × Option α) : Prop where
  writers : Alike r₁.1 r₂.1
  made : r₁.2.isSome = r₂.2.isSome

theorem InStep.map {α β : Type} {r₁ r₂ : QueueWriter × Option α} (same : InStep r₁ r₂)
    (f : α → β) : InStep (r₁.1, r₁.2.map f) (r₂.1, r₂.2.map f) :=
  ⟨same.writers, by rw [Option.isSome_map, Option.isSome_map, same.made]⟩

/-- A packet is filled once there is a buffer for it. -/
theorem filled_inStep {w₁ w₂ : QueueWriter} (alike : Alike w₁ w₂) (junk₁ junk₂ : Nat → UInt8)
    (capacity total : Nat) {next : QueueWriter → QueueWriter}
    (keeps : ∀ {w₁ w₂}, Alike w₁ w₂ → Alike (next w₁) (next w₂))
    (fill₁ fill₂ : PacketBuffer → PacketBuffer) :
    InStep
      (match (w₁.buffer junk₁ capacity total).2 with
        | none => ((w₁.buffer junk₁ capacity total).1, none)
        | some pkt => (next (w₁.buffer junk₁ capacity total).1, some (fill₁ pkt)))
      (match (w₂.buffer junk₂ capacity total).2 with
        | none => ((w₂.buffer junk₂ capacity total).1, none)
        | some pkt => (next (w₂.buffer junk₂ capacity total).1, some (fill₂ pkt))) := by
  obtain ⟨after, got⟩ := QueueWriter.buffer_shape alike junk₁ junk₂ capacity total
  generalize (w₁.buffer junk₁ capacity total).2 = first at got
  generalize (w₂.buffer junk₂ capacity total).2 = second at got
  cases got with
  | none => exact ⟨after, rfl⟩
  | some same => exact ⟨keeps after, rfl⟩

theorem buildSegmentPacket_inStep {w₁ w₂ : QueueWriter} (alike : Alike w₁ w₂)
    (junk₁ junk₂ : Nat → UInt8) (c : Conn) (seq : UInt32) (flags : UInt8) (payload : List UInt8)
    (withMss : Bool) :
    InStep (buildSegmentPacket w₁ junk₁ c seq flags payload withMss)
      (buildSegmentPacket w₂ junk₂ c seq flags payload withMss) :=
  filled_inStep alike junk₁ junk₂ _ _ Alike.allocIpId _ _

theorem udpSendSingle_inStep {w₁ w₂ : QueueWriter} (alike : Alike w₁ w₂) (junk₁ junk₂ : Nat → UInt8)
    (mtu : Nat) (key : UdpSessionKey) (remotePort : UInt16) (family : UInt8)
    (srcAddr : Vector UInt8 16) (buffers : List (List UInt8)) (total : Nat) :
    InStep (udpSendSingle w₁ junk₁ mtu key remotePort family srcAddr buffers total)
      (udpSendSingle w₂ junk₂ mtu key remotePort family srcAddr buffers total) :=
  filled_inStep alike junk₁ junk₂ _ _ Alike.allocIpId _ _

theorem handleIcmp_inStep {w₁ w₂ : QueueWriter} (alike : Alike w₁ w₂) (junk₁ junk₂ : Nat → UInt8)
    (locals : LocalAddresses) (ip : IpPacketInfo) (icmp : List UInt8) :
    InStep (handleIcmp w₁ junk₁ locals ip icmp) (handleIcmp w₂ junk₂ locals ip icmp) := by
  unfold handleIcmp
  split
  · exact ⟨alike, rfl⟩
  · split
    · exact ⟨alike, rfl⟩
    · split
      · exact ⟨alike, rfl⟩
      · exact filled_inStep alike junk₁ junk₂ _ _ Alike.allocIpId _ _

theorem handleIcmpv6_inStep {w₁ w₂ : QueueWriter} (alike : Alike w₁ w₂) (junk₁ junk₂ : Nat → UInt8)
    (locals : LocalAddresses) (ip : IpPacketInfo) (icmp : List UInt8) :
    InStep (handleIcmpv6 w₁ junk₁ locals ip icmp) (handleIcmpv6 w₂ junk₂ locals ip icmp) := by
  unfold handleIcmpv6
  split
  · exact ⟨alike, rfl⟩
  · split
    · exact ⟨alike, rfl⟩
    · split
      · exact ⟨alike, rfl⟩
      · exact filled_inStep alike junk₁ junk₂ _ _ id _ _

theorem Fragmentation.cut_inStep (f : Fragmentation) (junk₁ junk₂ : Nat → Nat → UInt8) (fuel : Nat)
    {w₁ w₂ : QueueWriter} (alike : Alike w₁ w₂) (off : Nat) (before₁ before₂ : List PacketBuffer) :
    InStep (f.cut junk₁ fuel w₁ off before₁) (f.cut junk₂ fuel w₂ off before₂) := by
  induction fuel generalizing w₁ w₂ off before₁ before₂ with
  | zero => exact ⟨alike, rfl⟩
  | succ fuel ih =>
      unfold cut
      split
      · obtain ⟨after, got⟩ := QueueWriter.buffer_shape alike (junk₁ off) (junk₂ off) (f.mtu + 64)
          (20 + f.fragData off)
        dsimp only
        generalize (w₁.buffer (junk₁ off) (f.mtu + 64) (20 + f.fragData off)).2 = first at got
        generalize (w₂.buffer (junk₂ off) (f.mtu + 64) (20 + f.fragData off)).2 = second at got
        cases got with
        | none => exact ⟨after, rfl⟩
        | some same => exact ih after _ _ _
      · exact ⟨alike, rfl⟩

theorem udpWriteIpv4Fragments_inStep {w₁ w₂ : QueueWriter} (alike : Alike w₁ w₂)
    (junk₁ junk₂ : Nat → Nat → UInt8) (mtu : Nat) (srcAddr dstAddr : Vector UInt8 16)
    (datagram : List UInt8) :
    InStep (udpWriteIpv4Fragments w₁ junk₁ mtu srcAddr dstAddr datagram)
      (udpWriteIpv4Fragments w₂ junk₂ mtu srcAddr dstAddr datagram) := by
  unfold udpWriteIpv4Fragments
  split
  · exact ⟨alike, rfl⟩
  · have same : w₁.ipId + 1 = w₂.ipId + 1 := congrArg (· + 1) alike.ipId
    dsimp only [QueueWriter.allocIpId]
    rw [same]
    exact Fragmentation.cut_inStep _ junk₁ junk₂ _ (show Alike { w₁ with ipId := w₂.ipId + 1 }
      { w₂ with ipId := w₂.ipId + 1 } from ⟨rfl, alike.pool⟩) 0 [] []

/-! What the engines ask the builders for. -/

inductive Request
  | segment (c : Conn) (seq : UInt32) (flags : UInt8) (payload : List UInt8) (withMss : Bool)
  | datagram (mtu : Nat) (key : UdpSessionKey) (remotePort : UInt16) (family : UInt8)
      (srcAddr : Vector UInt8 16) (buffers : List (List UInt8)) (total : Nat)
  | fragments (mtu : Nat) (key : UdpSessionKey) (remotePort : UInt16) (srcAddr : Vector UInt8 16)
      (buffers : List (List UInt8)) (total : Nat)
  | icmp (locals : LocalAddresses) (ip : IpPacketInfo) (message : List UInt8)
  | icmpv6 (locals : LocalAddresses) (ip : IpPacketInfo) (message : List UInt8)

namespace Request

/-- The buffers that are submitted; `junk` is what each of them holds when it is new. -/
def build (w : QueueWriter) (junk : Nat → Nat → UInt8) :
    Request → QueueWriter × Option (List PacketBuffer)
  | segment c seq flags payload withMss =>
      let result := buildSegmentPacket w (junk 0) c seq flags payload withMss
      (result.1, result.2.map ([·]))
  | datagram mtu key remotePort family srcAddr buffers total =>
      let result := udpSendSingle w (junk 0) mtu key remotePort family srcAddr buffers total
      (result.1, result.2.map ([·]))
  | fragments mtu key remotePort srcAddr buffers total =>
      udpSendFragmented w junk mtu key remotePort srcAddr buffers total
  | icmp locals ip message =>
      let result := handleIcmp w (junk 0) locals ip message
      (result.1, result.2.map ([·]))
  | icmpv6 locals ip message =>
      let result := handleIcmpv6 w (junk 0) locals ip message
      (result.1, result.2.map ([·]))

/-- The family is one that a packet can have, and the user's buffers hold what is to be sent. -/
def Sound : Request → Prop
  | segment c .. => IsFamily c.flow.key.family
  | datagram _ _ _ family _ buffers total => IsFamily family ∧ total ≤ buffers.flatten.length
  | fragments _ _ _ _ buffers total => total ≤ buffers.flatten.length
  | icmp .. => True
  | icmpv6 .. => True

/-- The packets of a request, which no buffer and no pool is mentioned in. -/
def packets (ipId : UInt16) : Request → List (List UInt8)
  | segment c seq flags payload withMss => [segmentPacket c seq flags payload withMss (ipId + 1)]
  | datagram _ key remotePort family srcAddr buffers total =>
      [datagramPacket key remotePort family srcAddr (buffers.flatten.take total) (ipId + 1)]
  | fragments mtu key remotePort srcAddr buffers total =>
      let payload := buffers.flatten.take total
      fragmentPackets mtu srcAddr key.srcIp (udpBytes remotePort key.srcPort payload
        (udpChecksum 4 srcAddr key.srcIp remotePort key.srcPort payload)) (ipId + 1)
  | icmp _ ip message => [echoPacket 4 ip ipProtocolIcmp message 0 (ipId + 1) ipChecksum]
  | icmpv6 _ ip message =>
      [echoPacket 6 ip ipProtocolIcmpv6 message 129 0
        (tcpUdpChecksum 6 ip.dstIp ip.srcIp ipProtocolIcmpv6)]

theorem build_packets {w : QueueWriter} {junk : Nat → Nat → UInt8} {request : Request}
    (sound : request.Sound) {made : List PacketBuffer} (done : (request.build w junk).2 = some made) :
    made.map PacketBuffer.bytes = request.packets w.ipId := by
  cases request with
  | segment c seq flags payload withMss =>
      obtain ⟨pkt, built, rfl⟩ := Option.map_eq_some_iff.mp done
      exact congrArg ([·]) (buildSegmentPacket_bytes sound built)
  | datagram mtu key remotePort family srcAddr buffers total =>
      obtain ⟨pkt, built, rfl⟩ := Option.map_eq_some_iff.mp done
      exact congrArg ([·]) (udpSendSingle_bytes sound.1 sound.2 built)
  | fragments mtu key remotePort srcAddr buffers total =>
      refine (udpWriteIpv4Fragments_bytes done).trans ?_
      rw [udpBuildDatagram_alone key remotePort srcAddr sound]
      rfl
  | icmp locals ip message =>
      obtain ⟨pkt, built, rfl⟩ := Option.map_eq_some_iff.mp done
      exact congrArg ([·]) (handleIcmp_bytes built)
  | icmpv6 locals ip message =>
      obtain ⟨pkt, built, rfl⟩ := Option.map_eq_some_iff.mp done
      exact congrArg ([·]) (handleIcmpv6_bytes built)

theorem build_inStep {w₁ w₂ : QueueWriter} (alike : Alike w₁ w₂) (junk₁ junk₂ : Nat → Nat → UInt8)
    (request : Request) : InStep (request.build w₁ junk₁) (request.build w₂ junk₂) := by
  cases request with
  | segment c seq flags payload withMss =>
      exact (buildSegmentPacket_inStep alike _ _ c seq flags payload withMss).map _
  | datagram mtu key remotePort family srcAddr buffers total =>
      exact (udpSendSingle_inStep alike _ _ mtu key remotePort family srcAddr buffers total).map _
  | fragments mtu key remotePort srcAddr buffers total =>
      exact udpWriteIpv4Fragments_inStep alike junk₁ junk₂ mtu srcAddr key.srcIp _
  | icmp locals ip message => exact (handleIcmp_inStep alike _ _ locals ip message).map _
  | icmpv6 locals ip message => exact (handleIcmpv6_inStep alike _ _ locals ip message).map _

/-- Two writers whose pools differ in what their buffers hold submit the same packets, which are
functions of the request and of the IP id alone, and stay alike. -/
theorem build_leaks_nothing {w₁ w₂ : QueueWriter} (alike : Alike w₁ w₂)
    (junk₁ junk₂ : Nat → Nat → UInt8) {request : Request} (sound : request.Sound) :
    (request.build w₁ junk₁).2.map (·.map PacketBuffer.bytes) =
        (request.build w₂ junk₂).2.map (·.map PacketBuffer.bytes) ∧
      (∀ made, (request.build w₁ junk₁).2 = some made →
        made.map PacketBuffer.bytes = request.packets w₁.ipId) ∧
      Alike (request.build w₁ junk₁).1 (request.build w₂ junk₂).1 := by
  obtain ⟨writers, both⟩ := request.build_inStep alike junk₁ junk₂
  refine ⟨?_, fun made done => build_packets sound done, writers⟩
  cases first : (request.build w₁ junk₁).2 with
  | none =>
      rw [first] at both
      cases second : (request.build w₂ junk₂).2 with
      | none => rfl
      | some made => rw [second] at both; cases both
  | some made =>
      rw [first] at both
      cases second : (request.build w₂ junk₂).2 with
      | none => rw [second] at both; cases both
      | some made' =>
          rw [Option.map_some, Option.map_some, build_packets sound first, build_packets sound second,
            alike.ipId]

/-- A buffer of the pool that was filled with one byte. -/
def filledWith (byte : UInt8) : PacketBuffer :=
  { storage := List.replicate 164 byte, headroom := 64, size := 0
    room := by rw [List.length_replicate]; decide
    fits := by rw [List.length_replicate]; decide }

theorem build_leaks_nothing_datagram :
    let key : UdpSessionKey := { family := 4, srcIp := Vector.replicate 16 10, srcPort := 53 }
    let request := datagram 100 key 4000 4 (Vector.replicate 16 20) [[1, 2], [3]] 3
    let w₁ : QueueWriter := { queueCount := 1, pool := [filledWith 0] }
    let w₂ : QueueWriter := { queueCount := 1, pool := [filledWith 255] }
    (request.build w₁ fun _ _ => 0).2.map (·.map PacketBuffer.bytes) =
        (request.build w₂ fun _ _ => 0).2.map (·.map PacketBuffer.bytes) ∧
      (∀ made, (request.build w₁ fun _ _ => 0).2 = some made →
        made.map PacketBuffer.bytes = request.packets 0) ∧
      Alike (request.build w₁ fun _ _ => 0).1 (request.build w₂ fun _ _ => 0).1 := by
  have shape : SameShape (filledWith 0) (filledWith 255) :=
    ⟨List.length_replicate.trans List.length_replicate.symm, rfl⟩
  intro key request w₁ w₂
  have alike : Alike w₁ w₂ := ⟨rfl, .cons shape .nil⟩
  have sound : request.Sound := ⟨Or.inl rfl, by decide⟩
  exact build_leaks_nothing alike _ _ sound

end Request

end Tunio
