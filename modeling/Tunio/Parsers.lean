import Tunio.Dispatch

/-!
The engine's parser and the public one agree on every byte string.
-/

namespace Tunio

open Octets

/-! The transport header. -/

/-- The tests of the lengths in `tcp_engine::on_packet`. -/
def tcpLengthsHold (payload : List UInt8) : Bool :=
  let hlen := (TcpHeader.read payload).headerLen
  ¬payload.length < 20 ∧ ¬(hlen < 20 ∨ hlen > payload.length)

/-- The tests of the lengths in `udp_engine::on_packet`. -/
def udpLengthsHold (payload : List UInt8) : Bool :=
  let udpLen := (UdpHeader.read payload).length.toNat
  ¬payload.length < 8 ∧ ¬(udpLen < 8 ∨ udpLen > payload.length)

namespace IpPacket

/-- What parsing the transport header leaves alone. -/
structure SameLayer (packet parsed : IpPacket) : Prop where
  version : parsed.version = packet.version
  protocol : parsed.protocol = packet.protocol
  srcIp : parsed.srcIp = packet.srcIp
  dstIp : parsed.dstIp = packet.dstIp
  totalLen : parsed.totalLen = packet.totalLen
  fragmented : parsed.fragmented = packet.fragmented
  v4 : parsed.v4 = packet.v4
  v6 : parsed.v6 = packet.v6
  payload : parsed.payload = packet.payload
  payloadLen : parsed.payloadLen = packet.payloadLen
  parseError : parsed.parseError = packet.parseError ∨
    parsed.parseError = .invalidTransportHeader

theorem SameLayer.refl (packet : IpPacket) : SameLayer packet packet :=
  ⟨rfl, rfl, rfl, rfl, rfl, rfl, rfl, rfl, rfl, rfl, Or.inl rfl⟩

theorem parseTransport_sameLayer (packet : IpPacket) (protocol : UInt8) (segment : List UInt8) :
    SameLayer packet (packet.parseTransport protocol segment) := by
  have refused (other : IpPacket) : SameLayer packet other → SameLayer packet
      (other.refuse .invalidTransportHeader) := fun same =>
    ⟨same.version, same.protocol, same.srcIp, same.dstIp, same.totalLen, same.fragmented, same.v4,
      same.v6, same.payload, same.payloadLen, Or.inr rfl⟩
  have kept (other : IpPacket) (version : other.version = packet.version)
      (protocol : other.protocol = packet.protocol) (srcIp : other.srcIp = packet.srcIp)
      (dstIp : other.dstIp = packet.dstIp) (totalLen : other.totalLen = packet.totalLen)
      (fragmented : other.fragmented = packet.fragmented) (v4 : other.v4 = packet.v4)
      (v6 : other.v6 = packet.v6) (payload : other.payload = packet.payload)
      (payloadLen : other.payloadLen = packet.payloadLen)
      (parseError : other.parseError = packet.parseError) : SameLayer packet other :=
    ⟨version, protocol, srcIp, dstIp, totalLen, fragmented, v4, v6, payload, payloadLen,
      Or.inl parseError⟩
  unfold parseTransport
  dsimp only
  split
  · split
    · exact refused _ (kept _ rfl rfl rfl rfl rfl rfl rfl rfl rfl rfl rfl)
    · split
      · exact refused _ (kept _ rfl rfl rfl rfl rfl rfl rfl rfl rfl rfl rfl)
      · exact kept _ rfl rfl rfl rfl rfl rfl rfl rfl rfl rfl rfl
  · split
    · split
      · exact refused _ (kept _ rfl rfl rfl rfl rfl rfl rfl rfl rfl rfl rfl)
      · split
        · exact refused _ (kept _ rfl rfl rfl rfl rfl rfl rfl rfl rfl rfl rfl)
        · exact kept _ rfl rfl rfl rfl rfl rfl rfl rfl rfl rfl rfl
    · split
      · split
        · exact refused _ (kept _ rfl rfl rfl rfl rfl rfl rfl rfl rfl rfl rfl)
        · split
          · exact kept _ rfl rfl rfl rfl rfl rfl rfl rfl rfl rfl rfl
          · exact kept _ rfl rfl rfl rfl rfl rfl rfl rfl rfl rfl rfl
      · exact kept _ rfl rfl rfl rfl rfl rfl rfl rfl rfl rfl rfl

/-- A TCP header is parsed when its lengths hold. -/
theorem parseTransport_tcp (packet : IpPacket) (segment : List UInt8) :
    (packet.parseTransport ipProtocolTcp segment).transportParsed = tcpLengthsHold segment ∧
      (tcpLengthsHold segment = true →
        (packet.parseTransport ipProtocolTcp segment).tcp = TcpHeader.read segment) := by
  unfold parseTransport tcpLengthsHold
  dsimp only
  rw [if_pos rfl]
  split
  · simp_all [refuse]
  · split
    · simp_all [refuse]
    · simp_all

theorem parseTransport_udp (packet : IpPacket) (segment : List UInt8) :
    (packet.parseTransport ipProtocolUdp segment).transportParsed = udpLengthsHold segment ∧
      (udpLengthsHold segment = true →
        (packet.parseTransport ipProtocolUdp segment).udp = UdpHeader.read segment) := by
  unfold parseTransport udpLengthsHold
  dsimp only
  rw [if_neg (by decide), if_pos rfl]
  split
  · simp_all [refuse]
  · split
    · simp_all [refuse]
    · simp_all

/-! The IP header. -/

/-- The tests of the lengths in an IPv4 header. -/
def V4Fits (data : List UInt8) : Prop :=
  let h := Ipv4Header.read data
  (20 ≤ h.headerLen ∧ h.headerLen ≤ data.length) ∧
    h.headerLen ≤ h.totalLen.toNat ∧ h.totalLen.toNat ≤ data.length

instance (data : List UInt8) : Decidable (V4Fits data) := by
  unfold V4Fits
  infer_instance

/-- The view of an IPv4 packet before its transport header is parsed. -/
def layerV4 (data : List UInt8) : IpPacket :=
  let h := Ipv4Header.read data
  { version := 4
    protocol := h.protocol
    srcIp := address (slice data 12 4)
    dstIp := address (slice data 16 4)
    totalLen := h.totalLen.toNat
    fragmented := h.fragOff &&& 0x3fff != 0
    fragOffset := (h.fragOff &&& 0x1fff) * 8
    v4 := h
    payload := some h.headerLen
    payloadLen := h.totalLen.toNat - h.headerLen }

def layerV6 (data : List UInt8) : IpPacket :=
  let h := Ipv6Header.read data
  { version := 6
    protocol := h.nextHeader
    srcIp := h.srcIp
    dstIp := h.dstIp
    totalLen := 40 + h.payloadLen.toNat
    v6 := h
    payload := some 40
    payloadLen := h.payloadLen.toNat }

def V6Fits (data : List UInt8) : Prop :=
  40 ≤ data.length ∧ 40 + (Ipv6Header.read data).payloadLen.toNat ≤ data.length

instance (data : List UInt8) : Decidable (V6Fits data) := by
  unfold V6Fits
  infer_instance

theorem parseV4_fits {data : List UInt8} (fits : V4Fits data) :
    parseV4 data = if (layerV4 data).fragOffset = 0 then
      (layerV4 data).parseTransport (layerV4 data).protocol
        (slice data (Ipv4Header.read data).headerLen
          ((Ipv4Header.read data).totalLen.toNat - (Ipv4Header.read data).headerLen))
    else layerV4 data := by
  obtain ⟨⟨least, most⟩, total, inside⟩ := fits
  unfold parseV4
  dsimp only
  rw [if_neg (by omega), if_neg (by omega)]
  rfl

theorem parseV4_unfit {data : List UInt8} (unfit : ¬V4Fits data) :
    (parseV4 data).parseError = .invalidIpHeaderLength ∨
      (parseV4 data).parseError = .invalidTotalLength := by
  unfold parseV4
  dsimp only
  split
  · exact Or.inl rfl
  · split
    · exact Or.inr rfl
    · exact absurd ⟨by omega, by omega⟩ unfit

theorem parseV6_fits {data : List UInt8} (fits : V6Fits data) :
    parseV6 data = (layerV6 data).parseTransport (layerV6 data).protocol
      (slice data 40 (Ipv6Header.read data).payloadLen.toNat) := by
  obtain ⟨least, inside⟩ := fits
  unfold parseV6
  dsimp only
  rw [if_neg (by omega), if_neg (by omega)]
  rfl

theorem parseV6_unfit {data : List UInt8} (unfit : ¬V6Fits data) :
    (parseV6 data).parseError = .packetTooShort ∨
      (parseV6 data).parseError = .invalidTotalLength := by
  unfold parseV6
  dsimp only
  split
  · exact Or.inl rfl
  · split
    · exact Or.inr rfl
    · exact absurd ⟨by omega, by omega⟩ unfit

end IpPacket

/-! The routes. -/

/-- What the public parser has to say of a packet that a handler is called with. -/
structure ParsedAlike (locals : LocalAddresses) (packet : List UInt8) (parsed : IpPacket)
    (delivery : Delivery) : Prop where
  accepted : parsed.parseError = .none ∨ parsed.parseError = .invalidTransportHeader
  version : parsed.version = delivery.ip.family
  protocol : parsed.protocol = delivery.protocol
  srcIp : parsed.srcIp = delivery.ip.srcIp
  dstIp : parsed.dstIp = delivery.ip.dstIp
  payload : parsed.payload = some delivery.payload
  payloadLen : parsed.payloadLen = delivery.payloadLen
  whole : parsed.fragmented = false
  checksum : parsed.version = 4 → verifyIpv4Checksum (packet.take parsed.v4.headerLen) = 0
  plain : parsed.version = 6 → isExtension parsed.protocol = false
  unguarded : guarded locals delivery.ip = false
  handler : hasHandler delivery.protocol = true

/-- The two tests of the fragment bits are one. -/
theorem fragment_bits (frag : UInt16) :
    (frag &&& 0x1fff ≠ 0 ∨ frag &&& 0x2000 ≠ 0) ↔ (frag &&& 0x3fff != 0) = true := by
  have split : frag &&& 0x3fff = (frag &&& 0x1fff) ||| (frag &&& 0x2000) := by
    apply UInt16.toBitVec_inj.mp
    simp only [UInt16.toBitVec_and, UInt16.toBitVec_or, ← BitVec.and_or_distrib_left]
    rfl
  rw [split, bne_iff_ne, Ne, Ne, Ne, UInt16.or_eq_zero_iff]
  tauto

theorem routeV4_eq {packet : List UInt8} (fits : IpPacket.V4Fits packet) :
    routeV4 packet = if (IpPacket.layerV4 packet).fragmented = true ∨
        verifyIpv4Checksum (packet.take (Ipv4Header.read packet).headerLen) ≠ 0 then none
      else some {
        ip := {
          family := 4
          srcIp := (IpPacket.layerV4 packet).srcIp
          dstIp := (IpPacket.layerV4 packet).dstIp }
        protocol := (IpPacket.layerV4 packet).protocol
        payload := (Ipv4Header.read packet).headerLen
        payloadLen := (IpPacket.layerV4 packet).payloadLen } := by
  obtain ⟨⟨least, most⟩, total, inside⟩ := fits
  unfold routeV4
  dsimp only
  rw [if_neg (by omega), if_neg (by omega)]
  by_cases fragmented : (IpPacket.layerV4 packet).fragmented = true
  · rw [if_pos ((fragment_bits _).mpr fragmented), if_pos (Or.inl fragmented)]
  · rw [if_neg (fun bits => fragmented ((fragment_bits _).mp bits))]
    by_cases bad : verifyIpv4Checksum (packet.take (Ipv4Header.read packet).headerLen) ≠ 0
    · rw [if_pos bad, if_pos (Or.inr bad)]
    · rw [if_neg bad, if_neg (fun either => either.elim fragmented bad)]
      rfl

theorem routeV4_unfit {packet : List UInt8} (unfit : ¬IpPacket.V4Fits packet) :
    routeV4 packet = none := by
  unfold routeV4
  dsimp only
  split
  · rfl
  · split
    · rfl
    · exact absurd ⟨by omega, by omega⟩ unfit

theorem routeV6_eq {packet : List UInt8} (fits : IpPacket.V6Fits packet) :
    routeV6 packet = if isExtension (IpPacket.layerV6 packet).protocol = true then none
      else some {
        ip := {
          family := 6
          srcIp := (IpPacket.layerV6 packet).srcIp
          dstIp := (IpPacket.layerV6 packet).dstIp }
        protocol := (IpPacket.layerV6 packet).protocol
        payload := 40
        payloadLen := (IpPacket.layerV6 packet).payloadLen } := by
  obtain ⟨least, inside⟩ := fits
  unfold routeV6
  dsimp only
  rw [if_neg (by omega), if_neg (by omega)]
  rfl

theorem routeV6_unfit {packet : List UInt8} (unfit : ¬IpPacket.V6Fits packet) :
    routeV6 packet = none := by
  unfold routeV6
  dsimp only
  split
  · rfl
  · split
    · rfl
    · exact absurd ⟨by omega, by omega⟩ unfit

theorem routePacket_eq_some (locals : LocalAddresses) (packet : List UInt8) (delivery : Delivery) :
    routePacket locals packet = some delivery ↔
      20 ≤ packet.length ∧ admits locals delivery = true ∧
        ((packet.getD 0 0 >>> 4 = 4 ∧ routeV4 packet = some delivery) ∨
          (packet.getD 0 0 >>> 4 = 6 ∧ routeV6 packet = some delivery)) := by
  unfold routePacket
  split
  · constructor
    · nofun
    · intro long
      omega
  · dsimp only
    rw [Option.filter_eq_some_iff]
    by_cases four : packet.getD 0 0 >>> 4 = 4
    · rw [if_pos four]
      constructor
      · exact fun both => ⟨by omega, both.2, Or.inl ⟨four, both.1⟩⟩
      · rintro ⟨_, free, ⟨_, route⟩ | ⟨wrong, _⟩⟩
        · exact ⟨route, free⟩
        · rw [four] at wrong
          cases wrong
    · rw [if_neg four]
      by_cases six : packet.getD 0 0 >>> 4 = 6
      · rw [if_pos six]
        constructor
        · exact fun both => ⟨by omega, both.2, Or.inr ⟨six, both.1⟩⟩
        · rintro ⟨_, free, ⟨wrong, _⟩ | ⟨_, route⟩⟩
          · exact absurd wrong four
          · exact ⟨route, free⟩
      · rw [if_neg six]
        constructor
        · exact fun both => absurd both.1 nofun
        · rintro ⟨_, _, ⟨wrong, _⟩ | ⟨wrong, _⟩⟩
          · exact absurd wrong four
          · exact absurd wrong six

theorem admits_iff (locals : LocalAddresses) (delivery : Delivery) :
    admits locals delivery = true ↔
      guarded locals delivery.ip = false ∧ hasHandler delivery.protocol = true := by
  simp [admits]

/-- Both parsers on an IPv4 packet. -/
theorem routeV4_iff (locals : LocalAddresses) (packet : List UInt8) (delivery : Delivery) :
    admits locals delivery = true ∧ routeV4 packet = some delivery ↔
      ParsedAlike locals packet (IpPacket.parseV4 packet) delivery := by
  rw [admits_iff]
  by_cases fits : IpPacket.V4Fits packet
  · have same : IpPacket.SameLayer (IpPacket.layerV4 packet) (IpPacket.parseV4 packet) := by
      rw [IpPacket.parseV4_fits fits]
      split
      · exact IpPacket.parseTransport_sameLayer _ _ _
      · exact IpPacket.SameLayer.refl _
    rw [routeV4_eq fits]
    constructor
    · rintro ⟨⟨free, handler⟩, route⟩
      split at route
      · cases route
      · rename_i passed
        obtain ⟨whole, checksum⟩ := not_or.mp passed
        cases route
        exact ⟨same.parseError, same.version, same.protocol, same.srcIp, same.dstIp, same.payload,
          same.payloadLen, same.fragmented.trans (Bool.eq_false_of_not_eq_true whole),
          fun _ => same.v4 ▸ not_ne_iff.mp checksum,
          fun wrong => absurd (same.version.symm.trans wrong) (show (4 : UInt8) ≠ 6 by decide), free,
          handler⟩
    · intro agrees
      have whole : ¬(IpPacket.layerV4 packet).fragmented = true := by
        rw [← same.fragmented, agrees.whole]
        decide
      have checksum := agrees.checksum same.version
      rw [same.v4] at checksum
      refine ⟨⟨agrees.unguarded, agrees.handler⟩, ?_⟩
      rw [if_neg (fun either => either.elim whole fun bad => bad checksum)]
      obtain ⟨⟨family, srcIp, dstIp⟩, protocol, payload, payloadLen⟩ := delivery
      have payloadEq := same.payload.symm.trans agrees.payload
      have familyEq := same.version.symm.trans agrees.version
      have srcEq := same.srcIp.symm.trans agrees.srcIp
      have dstEq := same.dstIp.symm.trans agrees.dstIp
      have protocolEq := same.protocol.symm.trans agrees.protocol
      have lenEq := same.payloadLen.symm.trans agrees.payloadLen
      dsimp only at familyEq srcEq dstEq protocolEq lenEq payloadEq
      subst familyEq srcEq dstEq protocolEq lenEq
      cases payloadEq
      rfl
  · rw [routeV4_unfit fits]
    constructor
    · rintro ⟨_, wrong⟩
      cases wrong
    · intro agrees
      rcases IpPacket.parseV4_unfit fits with refused | refused <;>
        rcases agrees.accepted with fine | fine <;> rw [refused] at fine <;> cases fine

/-- Both parsers on an IPv6 packet. -/
theorem routeV6_iff (locals : LocalAddresses) (packet : List UInt8) (delivery : Delivery) :
    admits locals delivery = true ∧ routeV6 packet = some delivery ↔
      ParsedAlike locals packet (IpPacket.parseV6 packet) delivery := by
  rw [admits_iff]
  by_cases fits : IpPacket.V6Fits packet
  · have same : IpPacket.SameLayer (IpPacket.layerV6 packet) (IpPacket.parseV6 packet) := by
      rw [IpPacket.parseV6_fits fits]
      exact IpPacket.parseTransport_sameLayer _ _ _
    rw [routeV6_eq fits]
    constructor
    · rintro ⟨⟨free, handler⟩, route⟩
      split at route
      · cases route
      · rename_i plain
        cases route
        exact ⟨same.parseError, same.version, same.protocol, same.srcIp, same.dstIp, same.payload,
          same.payloadLen, same.fragmented,
          fun wrong => absurd (same.version.symm.trans wrong) (show (6 : UInt8) ≠ 4 by decide),
          fun _ => same.protocol ▸ Bool.eq_false_of_not_eq_true plain, free, handler⟩
    · intro agrees
      have plain := agrees.plain same.version
      rw [same.protocol] at plain
      refine ⟨⟨agrees.unguarded, agrees.handler⟩, ?_⟩
      rw [if_neg (by simp [plain])]
      obtain ⟨⟨family, srcIp, dstIp⟩, protocol, payload, payloadLen⟩ := delivery
      have payloadEq := same.payload.symm.trans agrees.payload
      have familyEq := same.version.symm.trans agrees.version
      have srcEq := same.srcIp.symm.trans agrees.srcIp
      have dstEq := same.dstIp.symm.trans agrees.dstIp
      have protocolEq := same.protocol.symm.trans agrees.protocol
      have lenEq := same.payloadLen.symm.trans agrees.payloadLen
      dsimp only at familyEq srcEq dstEq protocolEq lenEq payloadEq
      subst familyEq srcEq dstEq protocolEq lenEq
      cases payloadEq
      rfl
  · rw [routeV6_unfit fits]
    constructor
    · rintro ⟨_, wrong⟩
      cases wrong
    · intro agrees
      rcases IpPacket.parseV6_unfit fits with refused | refused <;>
        rcases agrees.accepted with fine | fine <;> rw [refused] at fine <;> cases fine

/-- The parsers agree on the route of every packet. -/
theorem routePacket_iff (locals : LocalAddresses) {capacity : Nat} {packet : List UInt8}
    (fits : packet.length ≤ capacity) (delivery : Delivery) :
    routePacket locals packet = some delivery ↔
      ParsedAlike locals packet (IpPacket.parse capacity packet) delivery := by
  rw [routePacket_eq_some, IpPacket.parse, if_neg (Nat.not_lt.mpr fits), IpPacket.doParse]
  have refused (error : ParseError) (none : error ≠ .none) (transport : error ≠ .invalidTransportHeader) :
      ¬ParsedAlike locals packet { parseError := error } delivery := fun alike =>
    alike.accepted.elim none transport
  by_cases short : packet.length < 20
  · rw [if_pos short]
    constructor
    · intro long
      omega
    · exact fun alike => absurd alike (refused _ nofun nofun)
  · rw [if_neg short]
    have long : 20 ≤ packet.length := Nat.not_lt.mp short
    by_cases four : packet.getD 0 0 >>> 4 = 4
    · rw [if_pos four, ← routeV4_iff]
      constructor
      · rintro ⟨_, free, ⟨_, route⟩ | ⟨wrong, _⟩⟩
        · exact ⟨free, route⟩
        · rw [four] at wrong
          cases wrong
      · exact fun both => ⟨long, both.1, Or.inl ⟨four, both.2⟩⟩
    · rw [if_neg four]
      by_cases six : packet.getD 0 0 >>> 4 = 6
      · rw [if_pos six, ← routeV6_iff]
        constructor
        · rintro ⟨_, free, ⟨wrong, _⟩ | ⟨_, route⟩⟩
          · exact absurd wrong four
          · exact ⟨free, route⟩
        · exact fun both => ⟨long, both.1, Or.inr ⟨six, both.2⟩⟩
      · rw [if_neg six]
        constructor
        · rintro ⟨_, _, ⟨wrong, _⟩ | ⟨wrong, _⟩⟩
          · exact absurd wrong four
          · exact absurd wrong six
        · exact fun alike => absurd alike (refused _ nofun nofun)

/-! The transport data. -/

/-- A packet that a handler is called with had its transport header parsed. -/
theorem ParsedAlike.transport {locals : LocalAddresses} {packet : List UInt8} {capacity : Nat}
    (fits : packet.length ≤ capacity) {delivery : Delivery}
    (alike : ParsedAlike locals packet (IpPacket.parse capacity packet) delivery) :
    ∃ layer : IpPacket, layer.payload = some delivery.payload ∧
      layer.payloadLen = delivery.payloadLen ∧ layer.protocol = delivery.protocol ∧
      IpPacket.parse capacity packet = layer.parseTransport delivery.protocol
        (slice packet delivery.payload delivery.payloadLen) := by
  have route := (routePacket_iff locals fits delivery).mpr alike
  obtain ⟨long, _, way⟩ := (routePacket_eq_some locals packet delivery).mp route
  rw [IpPacket.parse, if_neg (Nat.not_lt.mpr fits), IpPacket.doParse, if_neg (Nat.not_lt.mpr long)]
  rcases way with ⟨four, way⟩ | ⟨six, way⟩
  · rw [if_pos four]
    by_cases unfit : IpPacket.V4Fits packet
    · rw [routeV4_eq unfit] at way
      split at way
      · cases way
      · rename_i passed
        cases way
        have whole := (not_or.mp passed).1
        have first : (IpPacket.layerV4 packet).fragOffset = 0 := by
          have bits := (fragment_bits (Ipv4Header.read packet).fragOff).not.mpr whole
          have none : (Ipv4Header.read packet).fragOff &&& 0x1fff = 0 := not_ne_iff.mp (not_or.mp bits).1
          change ((Ipv4Header.read packet).fragOff &&& 0x1fff) * 8 = 0
          rw [none]
          rfl
        refine ⟨IpPacket.layerV4 packet, rfl, rfl, rfl, ?_⟩
        rw [IpPacket.parseV4_fits unfit, if_pos first]
        rfl
    · rw [routeV4_unfit unfit] at way
      cases way
  · rw [if_neg (by rw [six]; decide), if_pos six]
    by_cases unfit : IpPacket.V6Fits packet
    · rw [routeV6_eq unfit] at way
      split at way
      · cases way
      · cases way
        exact ⟨IpPacket.layerV6 packet, rfl, rfl, rfl, IpPacket.parseV6_fits unfit⟩
    · rw [routeV6_unfit unfit] at way
      cases way

theorem slice_drop (bytes : List UInt8) (offset len skip : Nat) :
    (slice bytes offset len).drop skip = slice bytes (offset + skip) (len - skip) := by
  unfold slice
  rw [List.drop_take, List.drop_drop]

theorem slice_take (bytes : List UInt8) (offset : Nat) {len keep : Nat} (less : keep ≤ len) :
    (slice bytes offset len).take keep = slice bytes offset keep := by
  unfold slice
  rw [List.take_take, Nat.min_eq_left less]

/-- The bytes that `transport_data()` and `transport_data_size()` give access to. -/
def IpPacket.applicationBytes (parsed : IpPacket) (packet : List UInt8) : List UInt8 :=
  match parsed.transportData with
  | some (offset, size) => slice packet offset size
  | none => []

/-- The test of the checksum in `udp_engine::on_packet`. -/
def udpChecksumHolds (ip : IpPacketInfo) (uh : UdpHeader) (payload : List UInt8) : Bool :=
  ¬(ip.family = 6 ∧ uh.checksum = 0) ∧ (uh.checksum = 0 ∨
    tcpUdpChecksum ip.family ip.srcIp ip.dstIp ipProtocolUdp (payload.take uh.length.toNat) = 0)

theorem onSegment_eq (w : World) (ip : IpPacketInfo) (payload : List UInt8) (iss : UInt32) :
    w.onSegment ip payload iss =
      if tcpLengthsHold payload = true ∧
          tcpUdpChecksum ip.family ip.srcIp ip.dstIp ipProtocolTcp payload = 0 then
        w.receiveSegment (World.makeFiveTuple ip (TcpHeader.read payload)) (TcpHeader.read payload) payload
          (payload.drop (TcpHeader.read payload).headerLen) iss
      else w.drop := by
  unfold World.onSegment World.onPacket tcpLengthsHold
  dsimp only
  by_cases checksum : tcpUdpChecksum ip.family ip.srcIp ip.dstIp ipProtocolTcp payload = 0
  · by_cases short : payload.length < 20
    · simp [short]
    · by_cases header : (TcpHeader.read payload).headerLen < 20 ∨
          (TcpHeader.read payload).headerLen > payload.length
      · simp [header]
      · simp [short, header, checksum]
  · simp [checksum]

theorem onDatagram_eq (e : UdpEngine) (ip : IpPacketInfo) (payload : List UInt8) :
    e.onDatagram ip payload =
      if udpLengthsHold payload = true ∧ udpChecksumHolds ip (UdpHeader.read payload) payload = true then
        e.receiveDatagram
          { srcIp := addressOf ip.family ip.srcIp, srcPort := (UdpHeader.read payload).srcPort
            family := ip.family }
          ((payload.drop 8).take ((UdpHeader.read payload).length.toNat - 8))
          { isV6 := ip.family = 6, address := addressOf ip.family ip.dstIp
            port := (UdpHeader.read payload).dstPort }
      else e.drop := by
  unfold UdpEngine.onDatagram UdpEngine.onPacket udpLengthsHold udpChecksumHolds udpHeaderSize
  dsimp only
  by_cases short : payload.length < 8
  · simp [short]
  · rw [if_neg short]
    have body : 8 + (payload.drop 8).length = payload.length := by
      rw [List.length_drop]
      omega
    rw [body]
    by_cases length : (UdpHeader.read payload).length.toNat < 8 ∨
        (UdpHeader.read payload).length.toNat > payload.length
    · simp [length]
    · rw [if_neg length]
      by_cases refused : (ip.family = 6 ∧ (UdpHeader.read payload).checksum = 0) ∨
          ((UdpHeader.read payload).checksum ≠ 0 ∧
            ¬decide (tcpUdpChecksum ip.family ip.srcIp ip.dstIp ipProtocolUdp
              (payload.take (UdpHeader.read payload).length.toNat) = 0) = true)
      · rw [if_pos refused, if_neg]
        simp only [decide_eq_true_eq] at refused ⊢
        tauto
      · rw [if_neg refused, if_pos]
        simp only [decide_eq_true_eq] at refused ⊢
        tauto

/-- What the two `on_packet` make of the payload, and what the public parser says of it. -/
structure TransportAlike (packet : List UInt8) (parsed : IpPacket) (delivery : Delivery) : Prop where
  tcp : delivery.protocol = ipProtocolTcp →
    let segment := slice packet delivery.payload delivery.payloadLen
    tcpLengthsHold segment = parsed.transportParsed ∧
    ∀ (w : World) (iss : UInt32), w.onSegment delivery.ip segment iss =
      if parsed.transportParsed = true ∧
          tcpUdpChecksum delivery.ip.family delivery.ip.srcIp delivery.ip.dstIp ipProtocolTcp segment
            = 0 then
        w.receiveSegment (World.makeFiveTuple delivery.ip parsed.tcp) parsed.tcp segment
          (parsed.applicationBytes packet) iss
      else w.drop
  udp : delivery.protocol = ipProtocolUdp →
    let datagram := slice packet delivery.payload delivery.payloadLen
    udpLengthsHold datagram = parsed.transportParsed ∧
    ∀ e : UdpEngine, e.onDatagram delivery.ip datagram =
      if parsed.transportParsed = true ∧ udpChecksumHolds delivery.ip parsed.udp datagram = true then
        e.receiveDatagram
          { srcIp := addressOf delivery.ip.family delivery.ip.srcIp, srcPort := parsed.udp.srcPort
            family := delivery.ip.family }
          (parsed.applicationBytes packet)
          { isV6 := delivery.ip.family = 6
            address := addressOf delivery.ip.family delivery.ip.dstIp
            port := parsed.udp.dstPort }
      else e.drop

/-- The length of what the parser found is there. -/
theorem ParsedAlike.inside {locals : LocalAddresses} {packet : List UInt8} {capacity : Nat}
    (fits : packet.length ≤ capacity) {delivery : Delivery}
    (alike : ParsedAlike locals packet (IpPacket.parse capacity packet) delivery) :
    (slice packet delivery.payload delivery.payloadLen).length = delivery.payloadLen := by
  have route := (routePacket_iff locals fits delivery).mpr alike
  obtain ⟨_, _, ⟨_, way⟩ | ⟨_, way⟩⟩ := (routePacket_eq_some locals packet delivery).mp route
  · by_cases v4 : IpPacket.V4Fits packet
    · rw [routeV4_eq v4] at way
      split at way
      · cases way
      · cases way
        obtain ⟨⟨least, most⟩, total, inside⟩ := v4
        refine slice_length packet ?_
        change (Ipv4Header.read packet).headerLen +
          ((Ipv4Header.read packet).totalLen.toNat - (Ipv4Header.read packet).headerLen) ≤ _
        omega
    · rw [routeV4_unfit v4] at way
      cases way
  · by_cases v6 : IpPacket.V6Fits packet
    · rw [routeV6_eq v6] at way
      split at way
      · cases way
      · cases way
        exact slice_length packet v6.2
    · rw [routeV6_unfit v6] at way
      cases way

theorem ParsedAlike.transportAlike {locals : LocalAddresses} {packet : List UInt8} {capacity : Nat}
    (fits : packet.length ≤ capacity) {delivery : Delivery}
    (alike : ParsedAlike locals packet (IpPacket.parse capacity packet) delivery) :
    TransportAlike packet (IpPacket.parse capacity packet) delivery := by
  obtain ⟨layer, payload, payloadLen, protocol, parsed⟩ := alike.transport fits
  have inside := alike.inside fits
  have same := layer.parseTransport_sameLayer delivery.protocol
    (slice packet delivery.payload delivery.payloadLen)
  rw [parsed]
  constructor
  · intro tcp
    rw [tcp] at same ⊢
    obtain ⟨lengths, header⟩ := layer.parseTransport_tcp
      (slice packet delivery.payload delivery.payloadLen)
    refine ⟨lengths.symm, fun w iss => ?_⟩
    rw [onSegment_eq, lengths]
    split
    · rename_i holds
      have data : (layer.parseTransport ipProtocolTcp
          (slice packet delivery.payload delivery.payloadLen)).applicationBytes packet =
            (slice packet delivery.payload delivery.payloadLen).drop
              (TcpHeader.read (slice packet delivery.payload delivery.payloadLen)).headerLen := by
        rw [IpPacket.applicationBytes, IpPacket.transportData, same.payload, payload, same.protocol,
          protocol, tcp, lengths, header holds.1, same.payloadLen, payloadLen, Option.map_some,
          if_pos ⟨rfl, holds.1⟩, slice_drop]
      rw [data, header holds.1]
    · rfl
  · intro udp
    rw [udp] at same ⊢
    obtain ⟨lengths, header⟩ := layer.parseTransport_udp
      (slice packet delivery.payload delivery.payloadLen)
    refine ⟨lengths.symm, fun e => ?_⟩
    rw [onDatagram_eq, lengths]
    by_cases holds : udpLengthsHold (slice packet delivery.payload delivery.payloadLen) = true
    · have bounds := holds
      unfold udpLengthsHold at bounds
      simp only [decide_eq_true_eq, not_or, Nat.not_lt] at bounds
      obtain ⟨_, least, most⟩ := bounds
      rw [inside] at most
      have data : (layer.parseTransport ipProtocolUdp
          (slice packet delivery.payload delivery.payloadLen)).applicationBytes packet =
            ((slice packet delivery.payload delivery.payloadLen).drop 8).take
              ((UdpHeader.read (slice packet delivery.payload delivery.payloadLen)).length.toNat - 8) := by
        have size : sizeSub (UdpHeader.read
            (slice packet delivery.payload delivery.payloadLen)).length.toNat 8 =
              (UdpHeader.read (slice packet delivery.payload delivery.payloadLen)).length.toNat - 8 := by
          unfold sizeSub
          exact if_pos least
        rw [IpPacket.applicationBytes, IpPacket.transportData, same.payload, payload, same.protocol,
          protocol, udp, lengths, header holds, Option.map_some, if_neg (fun both => absurd both.1 (by decide)),
          if_pos ⟨rfl, holds⟩, slice_drop, slice_take _ _ (by omega), size]
      rw [data, header holds]
    · rw [if_neg fun both => holds both.1, if_neg fun both => holds both.1]

/-- The engine and the public parser agree on every packet: on the route it takes, and on what its
TCP or UDP payload holds. -/
theorem parsers_agree (locals : LocalAddresses) {capacity : Nat} {packet : List UInt8}
    (fits : packet.length ≤ capacity) :
    (∀ delivery, routePacket locals packet = some delivery ↔
      ParsedAlike locals packet (IpPacket.parse capacity packet) delivery) ∧
    ∀ delivery, routePacket locals packet = some delivery →
      TransportAlike packet (IpPacket.parse capacity packet) delivery :=
  ⟨routePacket_iff locals fits, fun delivery route =>
    ((routePacket_iff locals fits delivery).mp route).transportAlike fits⟩

/-- A datagram of one byte for port 53, sent without a checksum. -/
theorem parsers_agree_datagram :
    let packet : List UInt8 := [0x45, 0, 0, 0x1d, 0, 0, 0x40, 0, 0x40, 0x11, 0x20, 0xbf, 10, 0, 0, 2,
      8, 8, 8, 8, 4, 0xd2, 0, 53, 0, 9, 0, 0, 7]
    ∃ delivery, routePacket {} packet = some delivery ∧
      TransportAlike packet (IpPacket.parse 2048 packet) delivery ∧
      (IpPacket.parse 2048 packet).applicationBytes packet = [7] :=
  ⟨_, rfl, (parsers_agree {} (by decide)).2 _ rfl, by decide⟩

end Tunio
