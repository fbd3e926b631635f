import Tunio.Parsers
import Tunio.Recycling
import Tunio.Run

/-!
What the public parser says of the packets that are built: they are valid, their checksums
verify, and every field is the one that was meant.
-/

namespace Tunio

open Octets

/-! Addresses. -/

theorem address_getElem (bytes : List UInt8) (i : Nat) (inside : i < 16) :
    (address bytes)[i] = bytes.getD i 0 := by
  simp [address]

theorem addressOf_getElem (family : UInt8) (a : Vector UInt8 16) (i : Nat) (inside : i < 16) :
    (addressOf family a)[i] = if family = 6 ∨ i < 4 then a[i] else 0 := by
  simp [addressOf]

theorem address_v4Bytes (a : Vector UInt8 16) : address (v4Bytes a) = addressOf 4 a := by
  apply Vector.ext
  intro i inside
  rw [address_getElem, addressOf_getElem]
  have other : ¬(4 : UInt8) = 6 := by decide
  by_cases front : i < 4
  · rw [if_pos (Or.inr front)]
    simp [v4Bytes, front]
  · rw [if_neg (by simp [front])]
    simp [v4Bytes, front]

theorem address_toList (a : Vector UInt8 16) : address a.toList = a := by
  apply Vector.ext
  intro i inside
  rw [address_getElem]
  simp [inside]

theorem addressOf_v6 (a : Vector UInt8 16) : addressOf 6 a = a := by
  apply Vector.ext
  intro i inside
  rw [addressOf_getElem, if_pos (Or.inl rfl)]

/-- The checksums read only the bytes that an address of the family has. -/
theorem addressOf_take {family : UInt8} (known : IsFamily family) (a : Vector UInt8 16) :
    (addressOf family a).toList.take (addrLen family) = a.toList.take (addrLen family) := by
  rcases known with rfl | rfl
  · apply List.ext_getElem?
    intro i
    rw [List.getElem?_take, List.getElem?_take]
    change (if i < 4 then _ else _) = if i < 4 then _ else _
    by_cases front : i < 4
    · have inside : i < 16 := by omega
      simp only [if_pos front]
      simp [inside, addressOf_getElem, front]
    · rw [if_neg front, if_neg front]
  · rw [addressOf_v6]

/-! The IP header. -/

/-- What the parser knows of a packet before it looks behind the IP header. -/
structure Layered (family protocol : UInt8) (src dst : Vector UInt8 16) (len : Nat)
    (layer : IpPacket) : Prop where
  parseError : layer.parseError = .none
  version : layer.version = family
  protocol : layer.protocol = protocol
  srcIp : layer.srcIp = addressOf family src
  dstIp : layer.dstIp = addressOf family dst
  totalLen : layer.totalLen = UdpEngine.ipHeaderSize family + len
  whole : layer.fragmented = false
  payload : layer.payload = some (UdpEngine.ipHeaderSize family)
  payloadLen : layer.payloadLen = len

/-- The other fields of the IP header, and nothing of an echo. -/
structure Timed (family : UInt8) (id : UInt16) (ttl : UInt8) (layer : IpPacket) : Prop where
  v4 : family = 4 → layer.v4.id = id ∧ layer.v4.ttl = ttl ∧ layer.v4.headerLen = 20
  v6 : family = 6 → layer.v6.hopLimit = ttl
  silent : layer.icmpEchoId = 0 ∧ layer.icmpEchoSeq = 0

section Ipv4

variable (totalLen id frag : UInt16) (ttl protocol : UInt8) (src dst : Vector UInt8 16)
  (rest : List UInt8)

/-- The header, with the fields in sight. -/
theorem ipv4Header_fields : ∃ checksum, ipv4Header totalLen id frag ttl protocol src dst =
    [0x45, 0] ++ (ofWord totalLen ++ (ofWord id ++ (ofWord frag ++ ([ttl, protocol] ++
      (ofWord checksum ++ (v4Bytes src ++ v4Bytes dst)))))) :=
  ⟨_, rfl⟩

theorem Ipv4Header.read_built :
    let h := Ipv4Header.read (ipv4Header totalLen id frag ttl protocol src dst ++ rest)
    h.headerLen = 20 ∧ h.totalLen = totalLen ∧ h.fragOff = frag ∧ h.protocol = protocol := by
  obtain ⟨checksum, fields⟩ := ipv4Header_fields totalLen id frag ttl protocol src dst
  let routed := [ttl, protocol] ++ (ofWord checksum ++ (v4Bytes src ++ v4Bytes dst)) ++ rest
  let fragmented := ofWord frag ++ routed
  have whole : ipv4Header totalLen id frag ttl protocol src dst ++ rest =
      [0x45, 0] ++ (ofWord totalLen ++ (ofWord id ++ fragmented)) := by
    rw [fields]
    simp only [fragmented, routed, List.append_assoc]
  have words : ((0x45 : UInt8) &&& 0x0f).toNat * 4 = 20 := by decide
  rw [whole]
  exact ⟨words, word_ofWord totalLen (ofWord id ++ fragmented), word_ofWord frag routed, rfl⟩

theorem Ipv4Header.read_timed :
    let h := Ipv4Header.read (ipv4Header totalLen id frag ttl protocol src dst ++ rest)
    h.id = id ∧ h.ttl = ttl := by
  obtain ⟨checksum, fields⟩ := ipv4Header_fields totalLen id frag ttl protocol src dst
  let fragmented := ofWord frag ++ ([ttl, protocol] ++
    (ofWord checksum ++ (v4Bytes src ++ v4Bytes dst)) ++ rest)
  have whole : ipv4Header totalLen id frag ttl protocol src dst ++ rest =
      [0x45, 0] ++ (ofWord totalLen ++ (ofWord id ++ fragmented)) := by
    rw [fields]
    simp only [fragmented, List.append_assoc]
  rw [whole]
  exact ⟨word_ofWord id fragmented, rfl⟩

theorem ipv4_addresses :
    let data := ipv4Header totalLen id frag ttl protocol src dst ++ rest
    slice data 12 4 = v4Bytes src ∧ slice data 16 4 = v4Bytes dst := by
  obtain ⟨checksum, fields⟩ := ipv4Header_fields totalLen id frag ttl protocol src dst
  obtain ⟨front, split⟩ : ∃ front, front = [0x45, 0] ++ (ofWord totalLen ++ (ofWord id ++
      (ofWord frag ++ ([ttl, protocol] ++ ofWord checksum)))) := ⟨_, rfl⟩
  have length : front.length = 12 := by
    rw [split]
    rfl
  have whole : ipv4Header totalLen id frag ttl protocol src dst ++ rest =
      front ++ (v4Bytes src ++ (v4Bytes dst ++ rest)) := by
    rw [fields, split]
    simp only [List.append_assoc]
  dsimp only
  rw [whole]
  refine ⟨slice_behind length (v4Bytes_length src) _, ?_⟩
  rw [← List.append_assoc]
  refine slice_behind ?_ (v4Bytes_length dst) _
  rw [List.length_append, length, v4Bytes_length]

end Ipv4

/-- The header with its checksum verifies. -/
theorem ipv4Header_verifies (totalLen id frag : UInt16) (ttl protocol : UInt8)
    (src dst : Vector UInt8 16) :
    verifyIpv4Checksum (ipv4Header totalLen id frag ttl protocol src dst) = 0 := by
  obtain ⟨front, named⟩ : ∃ front, front = ipv4Front totalLen id frag ttl protocol := ⟨_, rfl⟩
  have length : front.length = 10 := by
    rw [named]
    rfl
  obtain ⟨ends, addresses⟩ : ∃ ends, ends = v4Bytes src ++ v4Bytes dst := ⟨_, rfl⟩
  have bound := OnesComplement.sum_le (front ++ ends)
  have short : (front ++ ends).length = 18 := by
    rw [List.length_append, length, addresses]
    simp
  rw [short, OnesComplement.sum_append front ends (by omega)] at bound
  have total (checksum : UInt16) : OnesComplement.sum (front ++ (ofWord checksum ++ ends)) =
      OnesComplement.sum front + OnesComplement.sum ends + checksum.toNat := by
    rw [OnesComplement.sum_append front _ (by omega), OnesComplement.sum_word]
    omega
  have cleared : slice (front ++ (ofWord 0 ++ ends)) 0 10 ++ [0, 0] ++
      (front ++ (ofWord 0 ++ ends)).drop 12 = front ++ (ofWord 0 ++ ends) := by
    have head : slice (front ++ (ofWord 0 ++ ends)) 0 10 = front := by
      rw [← length]
      exact slice_front front _
    have tail : (front ++ (ofWord 0 ++ ends)).drop 12 = ends := by
      rw [← List.append_assoc]
      refine List.drop_left' ?_
      rw [List.length_append, length, ofWord_length]
    rw [head, tail, List.append_assoc]
    rfl
  have checksum : ipv4Checksum (ipv4Bytes front 0 src dst) =
      OnesComplement.complement (OnesComplement.fold 2
        (OnesComplement.sum front + OnesComplement.sum ends)) := by
    unfold ipv4Checksum checksumFold checksumSum ipv4Bytes
    rw [← addresses, cleared, total]
    simp
  unfold verifyIpv4Checksum checksumFold checksumSum ipv4Header
  dsimp only
  rw [← named, checksum]
  unfold ipv4Bytes
  rw [← addresses, total, Nat.zero_add]
  exact OnesComplement.verifies (by omega)

theorem toNat_ofNat {n : Nat} (small : n ≤ 65535) : (UInt16.ofNat n).toNat = n := by
  rw [UInt16.toNat_ofNat']
  omega

theorem doParse_v4 {protocol : UInt8} (src dst : Vector UInt8 16) (id : UInt16) (ttl : UInt8)
    {segment : List UInt8} (small : 20 + segment.length ≤ 65535) :
    ∃ layer, Layered 4 protocol src dst segment.length layer ∧ Timed 4 id ttl layer ∧
      IpPacket.doParse (ipHeaderTtl 4 src dst protocol (20 + segment.length) id ttl ++ segment) =
        layer.parseTransport protocol segment := by
  obtain ⟨data, named⟩ : ∃ data, data = ipv4Header (UInt16.ofNat (20 + segment.length)) id 0x4000
      ttl protocol src dst ++ segment := ⟨_, rfl⟩
  have header := Ipv4Header.read_built (UInt16.ofNat (20 + segment.length)) id 0x4000 ttl
    protocol src dst segment
  have timed := Ipv4Header.read_timed (UInt16.ofNat (20 + segment.length)) id 0x4000 ttl
    protocol src dst segment
  have addresses := ipv4_addresses (UInt16.ofNat (20 + segment.length)) id 0x4000 ttl
    protocol src dst segment
  dsimp only at header timed addresses
  rw [← named] at header timed addresses
  obtain ⟨headerLen, totalLen, fragOff, proto⟩ := header
  have total : (Ipv4Header.read data).totalLen.toNat = 20 + segment.length := by
    rw [totalLen, toNat_ofNat small]
  have length : data.length = 20 + segment.length := by
    rw [named, List.length_append, ipv4Header_length]
  have version : data.getD 0 0 >>> 4 = 4 := by
    rw [named]
    change (0x45 : UInt8) >>> 4 = 4
    decide
  have fits : IpPacket.V4Fits data := by
    unfold IpPacket.V4Fits
    dsimp only
    rw [headerLen, total, length]
    omega
  have first : (IpPacket.layerV4 data).fragOffset = 0 := by
    change ((Ipv4Header.read data).fragOff &&& 0x1fff) * 8 = 0
    rw [fragOff]
    decide
  refine ⟨IpPacket.layerV4 data, ⟨rfl, rfl, proto, ?_, ?_, total, ?_, ?_, ?_⟩,
    ⟨fun _ => ⟨timed.1, timed.2, headerLen⟩, by simp, rfl, rfl⟩, ?_⟩
  · change address (slice data 12 4) = _
    rw [addresses.1, address_v4Bytes]
  · change address (slice data 16 4) = _
    rw [addresses.2, address_v4Bytes]
  · change ((Ipv4Header.read data).fragOff &&& 0x3fff != 0) = false
    rw [fragOff]
    decide
  · exact congrArg some headerLen
  · change (Ipv4Header.read data).totalLen.toNat - (Ipv4Header.read data).headerLen = _
    rw [total, headerLen, Nat.add_sub_cancel_left]
  · change IpPacket.doParse (ipv4Header _ _ _ _ _ _ _ ++ segment) = _
    rw [← named]
    unfold IpPacket.doParse
    rw [if_neg (by omega), if_pos version, IpPacket.parseV4_fits fits, if_pos first, headerLen, total,
      Nat.add_sub_cancel_left, show (IpPacket.layerV4 data).protocol = protocol from proto]
    have behind := slice_behind (ipv4Header_length (UInt16.ofNat (20 + segment.length)) id 0x4000
      ttl protocol src dst) (show segment.length = segment.length from rfl) []
    rw [List.append_nil, ← named] at behind
    rw [behind]

section Ipv6

variable (totalLen : Nat) (protocol hopLimit : UInt8) (src dst : Vector UInt8 16) (rest : List UInt8)

theorem ipv6HeaderHop_length : (ipv6HeaderHop totalLen protocol hopLimit src dst).length = 40 := by
  simp [ipv6HeaderHop]

theorem ipv6HeaderHop_addresses :
    slice (ipv6HeaderHop totalLen protocol hopLimit src dst ++ rest) 8 16 = src.toList ∧
      slice (ipv6HeaderHop totalLen protocol hopLimit src dst ++ rest) 24 16 = dst.toList := by
  obtain ⟨front, split⟩ : ∃ front, front = ofLong 0x60000000 ++ (ofWord (UInt16.ofNat (totalLen - 40)) ++
      [protocol, hopLimit]) := ⟨_, rfl⟩
  have length : front.length = 8 := by
    rw [split]
    rfl
  have whole : ipv6HeaderHop totalLen protocol hopLimit src dst ++ rest =
      front ++ (src.toList ++ (dst.toList ++ rest)) := by
    rw [split]
    simp only [ipv6HeaderHop, List.append_assoc]
  rw [whole]
  refine ⟨slice_behind length Vector.length_toList _, ?_⟩
  rw [← List.append_assoc]
  refine slice_behind ?_ Vector.length_toList _
  rw [List.length_append, length, Vector.length_toList]

theorem Ipv6Header.read_hop :
    let h := Ipv6Header.read (ipv6HeaderHop totalLen protocol hopLimit src dst ++ rest)
    h.payloadLen = UInt16.ofNat (totalLen - 40) ∧ h.nextHeader = protocol ∧ h.hopLimit = hopLimit ∧
      h.srcIp = src ∧ h.dstIp = dst := by
  obtain ⟨srcBytes, dstBytes⟩ := ipv6HeaderHop_addresses totalLen protocol hopLimit src dst rest
  have payload : word (ipv6HeaderHop totalLen protocol hopLimit src dst ++ rest) 4 =
      UInt16.ofNat (totalLen - 40) := by
    rw [ipv6HeaderHop, List.append_assoc, List.append_assoc]
    exact (word_append (ofLong 0x60000000) _ 0).trans (word_ofWord _ _)
  refine ⟨payload, rfl, rfl, ?_, ?_⟩
  · change address (slice _ 8 16) = src
    rw [srcBytes, address_toList]
  · change address (slice _ 24 16) = dst
    rw [dstBytes, address_toList]

theorem ipv6Header_length : (ipv6Header totalLen protocol src dst).length = 40 :=
  ipv6HeaderHop_length totalLen protocol kDefaultTtl src dst

theorem ipv6_addresses :
    slice (ipv6Header totalLen protocol src dst ++ rest) 8 16 = src.toList ∧
      slice (ipv6Header totalLen protocol src dst ++ rest) 24 16 = dst.toList :=
  ipv6HeaderHop_addresses totalLen protocol kDefaultTtl src dst rest

theorem Ipv6Header.read_built :
    let h := Ipv6Header.read (ipv6Header totalLen protocol src dst ++ rest)
    h.payloadLen = UInt16.ofNat (totalLen - 40) ∧ h.nextHeader = protocol ∧ h.srcIp = src ∧
      h.dstIp = dst := by
  obtain ⟨payload, next, -, addresses⟩ :=
    Ipv6Header.read_hop totalLen protocol kDefaultTtl src dst rest
  exact ⟨payload, next, addresses⟩

end Ipv6

theorem doParse_v6 {protocol : UInt8} (src dst : Vector UInt8 16) (id : UInt16) (hopLimit : UInt8)
    {segment : List UInt8} (small : segment.length ≤ 65535) :
    ∃ layer, Layered 6 protocol src dst segment.length layer ∧ Timed 6 id hopLimit layer ∧
      IpPacket.doParse (ipHeaderTtl 6 src dst protocol (40 + segment.length) id hopLimit ++ segment) =
        layer.parseTransport protocol segment := by
  obtain ⟨data, named⟩ : ∃ data, data = ipv6HeaderHop (40 + segment.length) protocol hopLimit src dst ++
      segment := ⟨_, rfl⟩
  have header := Ipv6Header.read_hop (40 + segment.length) protocol hopLimit src dst segment
  dsimp only at header
  rw [← named, Nat.add_sub_cancel_left] at header
  obtain ⟨payloadLen, nextHeader, hop, srcIp, dstIp⟩ := header
  have payload : (Ipv6Header.read data).payloadLen.toNat = segment.length := by
    rw [payloadLen, toNat_ofNat small]
  have length : data.length = 40 + segment.length := by
    rw [named, List.length_append, ipv6HeaderHop_length]
  have version : data.getD 0 0 >>> 4 = 6 := by
    rw [named]
    change UInt8.ofNat ((UInt16.ofNat ((0x60000000 : UInt32).toNat / 65536)).toNat / 256) >>> 4 = 6
    decide
  have other : ¬data.getD 0 0 >>> 4 = 4 := by
    rw [version]
    decide
  have fits : IpPacket.V6Fits data := by
    unfold IpPacket.V6Fits
    rw [payload, length]
    omega
  refine ⟨IpPacket.layerV6 data, ⟨rfl, rfl, nextHeader, ?_, ?_, ?_, rfl, rfl, payload⟩,
    ⟨by simp, fun _ => hop, rfl, rfl⟩, ?_⟩
  · rw [addressOf_v6]
    exact srcIp
  · rw [addressOf_v6]
    exact dstIp
  · change 40 + (Ipv6Header.read data).payloadLen.toNat = _
    rw [payload]
    rfl
  · change IpPacket.doParse (ipv6HeaderHop _ _ _ _ _ ++ segment) = _
    rw [← named]
    unfold IpPacket.doParse
    rw [if_neg (by omega), if_neg other, if_pos version, IpPacket.parseV6_fits fits, payload,
      show (IpPacket.layerV6 data).protocol = protocol from nextHeader]
    have behind := slice_behind (ipv6HeaderHop_length (40 + segment.length) protocol hopLimit src dst)
      (show segment.length = segment.length from rfl) []
    rw [List.append_nil, ← named] at behind
    rw [behind]

/-- The parser finds what the builder of the IP header put there. -/
theorem doParse_built {family : UInt8} (known : IsFamily family) (protocol : UInt8)
    (src dst : Vector UInt8 16) (id : UInt16) {segment : List UInt8}
    (small : UdpEngine.ipHeaderSize family + segment.length ≤ 65535) :
    ∃ layer, Layered family protocol src dst segment.length layer ∧
      IpPacket.doParse (ipHeader family src dst protocol
        (UdpEngine.ipHeaderSize family + segment.length) id ++ segment) =
        layer.parseTransport protocol segment := by
  rcases known with rfl | rfl
  · obtain ⟨layer, layered, -, parsed⟩ := doParse_v4 src dst id kDefaultTtl small
    exact ⟨layer, layered, parsed⟩
  · have less : segment.length ≤ 65535 := Nat.le_trans (Nat.le_add_left _ _) small
    obtain ⟨layer, layered, -, parsed⟩ := doParse_v6 src dst id kDefaultTtl less
    exact ⟨layer, layered, parsed⟩

/-! The checksums. -/

/-- A checksum over a header, a word and what is behind it is a sum to which the word is added. -/
theorem tcpUdpChecksum_word (family : UInt8) (src dst : Vector UInt8 16) (protocol : UInt8)
    (front rest : List UInt8) (even : front.length % 2 = 0)
    (small : front.length + 2 + rest.length ≤ 65535) :
    ∃ total, total + 65535 < 2 ^ 32 ∧ ∀ checksum : UInt16,
      tcpUdpChecksum family src dst protocol (front ++ (ofWord checksum ++ rest)) =
        OnesComplement.complement (OnesComplement.fold 2 (total + checksum.toNat)) := by
  have srcBound := OnesComplement.sum_le (src.toList.take (addrLen family))
  have dstBound := OnesComplement.sum_le (dst.toList.take (addrLen family))
  have bound := OnesComplement.sum_le (front ++ rest)
  have address (a : Vector UInt8 16) : (a.toList.take (addrLen family)).length ≤ 16 := by
    rw [List.length_take, Vector.length_toList]
    exact Nat.min_le_right _ _
  have srcLength := address src
  have dstLength := address dst
  have protocolBound := protocol.toNat_lt
  rw [OnesComplement.sum_append front rest even, List.length_append] at bound
  refine ⟨OnesComplement.sum (src.toList.take (addrLen family)) +
    OnesComplement.sum (dst.toList.take (addrLen family)) + protocol.toNat +
    (front.length + 2 + rest.length) % 65536 + (OnesComplement.sum front + OnesComplement.sum rest),
    by omega, fun checksum => ?_⟩
  have length : (front ++ (ofWord checksum ++ rest)).length = front.length + 2 + rest.length := by
    rw [List.length_append, List.length_append, ofWord_length]
    omega
  unfold tcpUdpChecksum checksumSum checksumFold
  dsimp only
  rw [length, OnesComplement.sum_append front _ even, OnesComplement.sum_word]
  congr 2
  omega

theorem tcpChecksum_verifies (key : FiveTuple) (segment : Segment)
    (small : (tcpBytes key segment 0).length ≤ 65535) :
    tcpUdpChecksum key.family key.dstIp key.srcIp ipProtocolTcp
      (tcpBytes key segment (tcpChecksum key segment)) = 0 := by
  rw [tcpBytes_length] at small
  obtain ⟨total, bound, eq⟩ := tcpUdpChecksum_word key.family key.dstIp key.srcIp ipProtocolTcp
    (tcpFront key segment) (ofWord 0 ++ (segment.options ++ segment.payload)) (by rw [tcpFront_length])
    (by
      rw [tcpFront_length, List.length_append, List.length_append, ofWord_length]
      omega)
  have checksum : tcpChecksum key segment =
      OnesComplement.complement (OnesComplement.fold 2 total) := eq 0
  rw [checksum]
  exact (eq _).trans (OnesComplement.verifies bound)

theorem udpChecksum_verifies (family : UInt8) (src dst : Vector UInt8 16) (srcPort dstPort : UInt16)
    (payload : List UInt8) (small : udpHeaderSize + payload.length ≤ 65535) :
    tcpUdpChecksum family src dst ipProtocolUdp (udpBytes srcPort dstPort payload
      (udpChecksum family src dst srcPort dstPort payload)) = 0 := by
  unfold udpHeaderSize at small
  obtain ⟨total, bound, eq⟩ := tcpUdpChecksum_word family src dst ipProtocolUdp
    (udpFront srcPort dstPort payload.length) payload (by rw [udpFront_length]) (by
      rw [udpFront_length]
      omega)
  have plain : tcpUdpChecksum family src dst ipProtocolUdp (udpBytes srcPort dstPort payload 0) =
      OnesComplement.complement (OnesComplement.fold 2 total) := eq 0
  unfold udpChecksum
  rw [plain]
  dsimp only
  split
  · rename_i zero
    exact (eq _).trans (OnesComplement.verifies_ones bound zero)
  · exact (eq _).trans (OnesComplement.verifies bound)

theorem udpChecksum_ne_zero (family : UInt8) (src dst : Vector UInt8 16) (srcPort dstPort : UInt16)
    (payload : List UInt8) : udpChecksum family src dst srcPort dstPort payload ≠ 0 := by
  unfold udpChecksum
  dsimp only
  split
  · decide
  · assumption

/-- Only the bytes that an address of the family has count. -/
theorem tcpUdpChecksum_addressOf {family : UInt8} (known : IsFamily family) (src dst : Vector UInt8 16)
    (protocol : UInt8) (segment : List UInt8) :
    tcpUdpChecksum family (addressOf family src) (addressOf family dst) protocol segment =
      tcpUdpChecksum family src dst protocol segment := by
  unfold tcpUdpChecksum
  rw [addressOf_take known, addressOf_take known]

/-! The options of a TCP header. -/

inductive TcpOption
  | maximumSegmentSize (size : Nat)
  | windowScale (shift : UInt8)
  | other (kind : UInt8) (value : List UInt8)
  deriving DecidableEq, Repr

/-- What an option of a kind with a value says. -/
def TcpOption.of (kind : UInt8) (value : List UInt8) : TcpOption :=
  if kind = 2 ∧ value.length = 2 then .maximumSegmentSize (word value 0).toNat
  else if kind = 3 ∧ value.length = 1 then .windowScale (value.getD 0 0)
  else .other kind value

/-- The options of an area, whose length bounds the rounds; `none` when it is malformed. -/
def decodeOptions : Nat → List UInt8 → Option (List TcpOption)
  | 0, _ | _, [] => some []
  | fuel + 1, kind :: rest =>
      if kind = 0 then some []
      else if kind = 1 then decodeOptions fuel rest
      else
        match rest with
        | [] => none
        | len :: body =>
            if len < 2 ∨ len.toNat - 2 > body.length then none
            else
              (decodeOptions fuel (body.drop (len.toNat - 2))).map
                (TcpOption.of kind (body.take (len.toNat - 2)) :: ·)

/-- The options a segment is meant to carry. -/
def meantOptions (cfg : TunConfig) (flow : TcpFlow) (withMss : Bool) : List TcpOption :=
  if withMss then
    .maximumSegmentSize (mss cfg flow.key.family) :: if flow.wscaleOk then [.windowScale 7] else []
  else []

theorem mss_small {cfg : TunConfig} (small : cfg.mtu ≤ 65535) (family : UInt8) :
    mss cfg family ≤ 65535 := by
  unfold mss
  split <;> split <;> omega

theorem decodeOptions_syn {cfg : TunConfig} (small : cfg.mtu ≤ 65535) (flow : TcpFlow) :
    decodeOptions 8 (synOptions cfg flow) = some (meantOptions cfg flow true) := by
  have bound := mss_small small flow.key.family
  have size : (word [UInt8.ofNat (mss cfg flow.key.family >>> 8),
      UInt8.ofNat (mss cfg flow.key.family &&& 0xff)] 0).toNat = mss cfg flow.key.family := by
    rw [word_pair, UInt8.toNat_ofNat', UInt8.toNat_ofNat', Nat.shiftRight_eq_div_pow,
      show 0xff = 2 ^ 8 - 1 from rfl, Nat.and_two_pow_sub_one_eq_mod]
    omega
  unfold synOptions meantOptions
  dsimp only
  rw [if_pos rfl]
  generalize mss cfg flow.key.family = m at size
  cases flow.wscaleOk with
  | false =>
      change some [TcpOption.maximumSegmentSize (word [UInt8.ofNat (m >>> 8),
        UInt8.ofNat (m &&& 0xff)] 0).toNat] = _
      rw [size]
      rfl
  | true =>
      change some [TcpOption.maximumSegmentSize (word [UInt8.ofNat (m >>> 8),
        UInt8.ofNat (m &&& 0xff)] 0).toNat, TcpOption.windowScale kRcvWndScale] = _
      rw [size]
      rfl

/-! The transport headers. -/

theorem TcpHeader.read_built (key : FiveTuple) (segment : Segment) (checksum : UInt16) :
    TcpHeader.read (tcpBytes key segment checksum) =
      { srcPort := key.dstPort, dstPort := key.srcPort, seq := segment.seq, ack := segment.ack
        dataOffset := segment.dataOffset, flags := segment.flags, window := segment.window
        checksum := checksum, urgent := 0 } := by
  obtain ⟨data, ends⟩ : ∃ data, data = segment.options ++ segment.payload := ⟨_, rfl⟩
  let checked := ofWord checksum ++ (ofWord 0 ++ data)
  let acked := [segment.dataOffset, segment.flags] ++ (ofWord segment.window ++ checked)
  let sequenced := ofLong segment.ack ++ acked
  let ported := ofLong segment.seq ++ sequenced
  have fields : tcpBytes key segment checksum =
      ofWord key.dstPort ++ (ofWord key.srcPort ++ ported) := by
    simp only [ported, sequenced, acked, checked, ends, tcpBytes, tcpFront, List.append_assoc]
  rw [fields]
  simp only [TcpHeader.read, TcpHeader.mk.injEq]
  exact ⟨word_ofWord _ _, word_ofWord key.srcPort ported, long_ofLong segment.seq sequenced,
    long_ofLong segment.ack acked, rfl, rfl, word_ofWord segment.window checked,
    word_ofWord checksum (ofWord 0 ++ data), word_ofWord 0 data⟩

theorem UdpHeader.read_built (srcPort dstPort : UInt16) (payload : List UInt8) (checksum : UInt16) :
    UdpHeader.read (udpBytes srcPort dstPort payload checksum) =
      { srcPort := srcPort, dstPort := dstPort
        length := UInt16.ofNat (udpHeaderSize + payload.length), checksum := checksum } := by
  let checked := ofWord checksum ++ payload
  let measured := ofWord (UInt16.ofNat (udpHeaderSize + payload.length)) ++ checked
  have fields : udpBytes srcPort dstPort payload checksum =
      ofWord srcPort ++ (ofWord dstPort ++ measured) := by
    simp only [measured, checked, udpBytes, udpFront, List.append_assoc]
  rw [fields]
  simp only [UdpHeader.read, UdpHeader.mk.injEq]
  exact ⟨word_ofWord _ _, word_ofWord dstPort measured,
    word_ofWord (UInt16.ofNat (udpHeaderSize + payload.length)) checked, word_ofWord checksum payload⟩

namespace IpPacket

theorem parseTransport_tcp_holds (packet : IpPacket) {segment : List UInt8}
    (holds : tcpLengthsHold segment = true) :
    packet.parseTransport ipProtocolTcp segment =
      { packet with tcp := TcpHeader.read segment, transportParsed := true } := by
  unfold tcpLengthsHold at holds
  simp only [Bool.decide_and, Bool.and_eq_true, decide_eq_true_eq] at holds
  unfold parseTransport
  dsimp only
  rw [if_pos rfl, if_neg holds.1, if_neg holds.2]

theorem parseTransport_udp_holds (packet : IpPacket) {segment : List UInt8}
    (holds : udpLengthsHold segment = true) :
    packet.parseTransport ipProtocolUdp segment =
      { packet with udp := UdpHeader.read segment, transportParsed := true } := by
  unfold udpLengthsHold at holds
  simp only [Bool.decide_and, Bool.and_eq_true, decide_eq_true_eq] at holds
  have other : ¬ipProtocolUdp = ipProtocolTcp := by decide
  unfold parseTransport
  dsimp only
  rw [if_neg other, if_pos rfl, if_neg holds.1, if_neg holds.2]

end IpPacket

/-! The packets. -/

/-- The parser's view of a packet from `src` to `dst` that carries a payload. -/
structure Reads (family protocol : UInt8) (src dst : Vector UInt8 16) (payload packet : List UInt8)
    (parsed : IpPacket) : Prop where
  valid : parsed.valid = true
  checksum : tcpUdpChecksum family parsed.srcIp parsed.dstIp protocol
    (packet.drop (UdpEngine.ipHeaderSize family)) = 0
  version : parsed.version = family
  protocol : parsed.protocol = protocol
  srcIp : parsed.srcIp = addressOf family src
  dstIp : parsed.dstIp = addressOf family dst
  totalLen : parsed.totalLen = packet.length
  whole : parsed.fragmented = false
  transport : parsed.transportParsed = true
  headerChecksum : family = 4 → verifyIpv4Checksum (packet.take 20) = 0
  application : parsed.applicationBytes packet = payload

/-- The parser's view of a segment of a flow. -/
structure TcpReads (c : Conn) (seq : UInt32) (flags : UInt8) (payload : List UInt8) (withMss : Bool)
    (packet : List UInt8) (parsed : IpPacket) : Prop where
  common : Reads c.flow.key.family ipProtocolTcp c.flow.key.dstIp c.flow.key.srcIp payload packet parsed
  window : parsed.tcp.window = (buildSegment c seq flags payload withMss).1.window
  srcPort : parsed.tcp.srcPort = c.flow.key.dstPort
  dstPort : parsed.tcp.dstPort = c.flow.key.srcPort
  seq : parsed.tcp.seq = seq
  ack : parsed.tcp.ack = c.flow.rcvNxt
  flags : parsed.tcp.flags = flags
  options :
    let area := parsed.tcp.headerLen - 20
    decodeOptions area (slice packet (UdpEngine.ipHeaderSize c.flow.key.family + 20) area) =
      some (meantOptions c.eng.cfg c.flow withMss)

/-- The parser's view of a datagram from a remote end to a client. -/
structure UdpReads (key : UdpSessionKey) (remote : Endpoint) (payload packet : List UInt8)
    (parsed : IpPacket) : Prop where
  common : Reads (UdpEngine.Endpoint.family remote) ipProtocolUdp remote.address key.srcIp payload packet parsed
  srcPort : parsed.udp.srcPort = remote.port
  dstPort : parsed.udp.dstPort = key.srcPort
  summed : parsed.udp.checksum ≠ 0

/-- The header of a built packet verifies. -/
theorem built_verifies {family : UInt8} (src dst : Vector UInt8 16) (protocol : UInt8) (totalLen : Nat)
    (id : UInt16) (segment : List UInt8) (v4 : family = 4) :
    verifyIpv4Checksum ((ipHeader family src dst protocol totalLen id ++ segment).take 20) = 0 := by
  subst v4
  unfold ipHeader
  rw [if_pos rfl, List.take_left' (ipv4Header_length ..)]
  exact ipv4Header_verifies ..

/-- What the layers have in common once the transport header is parsed. -/
theorem reads_built {family protocol : UInt8} (known : IsFamily family) {src dst : Vector UInt8 16}
    {id : UInt16} {segment payload : List UInt8} {layer parsed : IpPacket}
    (layered : Layered family protocol src dst segment.length layer)
    (same : IpPacket.SameLayer layer parsed) (clean : parsed.parseError = layer.parseError)
    (transport : parsed.transportParsed = true)
    (checksum : tcpUdpChecksum family src dst protocol segment = 0)
    (application : parsed.applicationBytes (ipHeader family src dst protocol
      (UdpEngine.ipHeaderSize family + segment.length) id ++ segment) = payload) :
    Reads family protocol src dst payload (ipHeader family src dst protocol
      (UdpEngine.ipHeaderSize family + segment.length) id ++ segment) parsed := by
  have header := ipHeader_length known src dst protocol
    (UdpEngine.ipHeaderSize family + segment.length) id
  refine
    { valid := ?_
      checksum := ?_
      version := same.version.trans layered.version
      protocol := same.protocol.trans layered.protocol
      srcIp := same.srcIp.trans layered.srcIp
      dstIp := same.dstIp.trans layered.dstIp
      totalLen := ?_
      whole := same.fragmented.trans layered.whole
      transport := transport
      headerChecksum := built_verifies src dst protocol _ id segment
      application := application }
  · unfold IpPacket.valid
    rw [clean, layered.parseError]
    decide
  · rw [same.srcIp, same.dstIp, layered.srcIp, layered.dstIp, tcpUdpChecksum_addressOf known,
      List.drop_left' header, checksum]
  · rw [same.totalLen, layered.totalLen, List.length_append, header]

/-- The part of a built packet that starts so many bytes behind the IP header. -/
theorem slice_built {family : UInt8} (known : IsFamily family) (src dst : Vector UInt8 16)
    (protocol : UInt8) (totalLen : Nat) (id : UInt16) (segment : List UInt8) (offset len : Nat) :
    slice (ipHeader family src dst protocol totalLen id ++ segment)
      (UdpEngine.ipHeaderSize family + offset) len = slice segment offset len := by
  rw [← ipHeader_length known src dst protocol totalLen id]
  exact slice_append _ segment offset len

theorem slice_end (front payload : List UInt8) :
    slice (front ++ payload) front.length payload.length = payload := by
  have behind := slice_behind (show front.length = front.length from rfl)
    (show payload.length = payload.length from rfl) []
  rwa [List.append_nil] at behind

/-- A segment says what was meant. -/
theorem segmentPacket_reads {c : Conn} (seq : UInt32) (flags : UInt8) {payload : List UInt8}
    {withMss : Bool} (ipId : UInt16) {capacity : Nat} (known : IsFamily c.flow.key.family)
    (small : c.eng.cfg.mtu ≤ 65535)
    (short : (segmentPacket c seq flags payload withMss ipId).length ≤ 65535)
    (fits : (segmentPacket c seq flags payload withMss ipId).length ≤ capacity) :
    TcpReads c seq flags payload withMss (segmentPacket c seq flags payload withMss ipId)
      (IpPacket.parse capacity (segmentPacket c seq flags payload withMss ipId)) := by
  obtain ⟨built, named⟩ : ∃ built, built = (buildSegment c seq flags payload withMss).1 := ⟨_, rfl⟩
  obtain ⟨segment, bytes⟩ : ∃ segment, segment =
      tcpBytes c.flow.key built (tcpChecksum c.flow.key built) := ⟨_, rfl⟩
  have options : built.options.length = if withMss then 8 else 0 := by
    rw [named]
    exact buildSegment_options c seq flags payload withMss
  have carried : built.payload = payload := by rw [named]; rfl
  have offset : built.dataOffset = (if withMss then (7 : UInt8) else 5) <<< 4 := by rw [named]; rfl
  have length : segment.length = (if withMss then 28 else 20) + payload.length := by
    rw [bytes, tcpBytes_length, options, carried]
    split <;> rfl
  have whole : segmentPacket c seq flags payload withMss ipId =
      ipHeader c.flow.key.family c.flow.key.dstIp c.flow.key.srcIp ipProtocolTcp
        (UdpEngine.ipHeaderSize c.flow.key.family + segment.length) ipId ++ segment := by
    unfold segmentPacket
    dsimp only
    rw [length, bytes, named, Nat.add_assoc]
  rw [whole] at short fits ⊢
  rw [List.length_append, ipHeader_length known] at short
  obtain ⟨layer, layered, parsed⟩ := doParse_built known ipProtocolTcp c.flow.key.dstIp
    c.flow.key.srcIp ipId short
  have read := TcpHeader.read_built c.flow.key built (tcpChecksum c.flow.key built)
  rw [← bytes] at read
  have headerLen : (TcpHeader.read segment).headerLen = if withMss then 28 else 20 := by
    rw [read]
    change (built.dataOffset >>> 4).toNat * 4 = _
    rw [offset]
    cases withMss <;> decide
  have holds : tcpLengthsHold segment = true := by
    unfold tcpLengthsHold
    simp only [Bool.decide_and, Bool.and_eq_true, decide_eq_true_eq]
    rw [headerLen, length]
    split <;> omega
  have result : IpPacket.parse capacity (ipHeader c.flow.key.family c.flow.key.dstIp c.flow.key.srcIp
      ipProtocolTcp (UdpEngine.ipHeaderSize c.flow.key.family + segment.length) ipId ++ segment) =
        { layer with tcp := TcpHeader.read segment, transportParsed := true } := by
    unfold IpPacket.parse
    rw [if_neg (Nat.not_lt.mpr fits), parsed, IpPacket.parseTransport_tcp_holds layer holds]
  have checksum : tcpUdpChecksum c.flow.key.family c.flow.key.dstIp c.flow.key.srcIp ipProtocolTcp
      segment = 0 := by
    rw [bytes]
    refine tcpChecksum_verifies c.flow.key built ?_
    have size : (tcpBytes c.flow.key built 0).length = segment.length := by
      rw [bytes, tcpBytes_length, tcpBytes_length]
    rw [size]
    omega
  have split : segment = tcpFront c.flow.key built ++ (ofWord (tcpChecksum c.flow.key built) ++
      ofWord 0) ++ (built.options ++ payload) := by
    rw [bytes, ← carried]
    simp only [tcpBytes, List.append_assoc]
  have application : ({ layer with tcp := TcpHeader.read segment, transportParsed := true } :
      IpPacket).applicationBytes (ipHeader c.flow.key.family c.flow.key.dstIp c.flow.key.srcIp
        ipProtocolTcp (UdpEngine.ipHeaderSize c.flow.key.family + segment.length) ipId ++ segment) =
          payload := by
    unfold IpPacket.applicationBytes IpPacket.transportData
    dsimp only
    rw [layered.payload, layered.payloadLen, layered.protocol, Option.map_some, if_pos ⟨rfl, rfl⟩,
      headerLen]
    dsimp only
    rw [slice_built known, length, Nat.add_sub_cancel_left, split, ← List.append_assoc]
    have front : (tcpFront c.flow.key built ++ (ofWord (tcpChecksum c.flow.key built) ++ ofWord 0) ++
        built.options).length = if withMss then 28 else 20 := by
      simp only [List.length_append, tcpFront_length, ofWord_length, options]
      split <;> rfl
    rw [← front]
    exact slice_end _ payload
  rw [result]
  have common := reads_built known layered (show IpPacket.SameLayer layer { layer with
    tcp := TcpHeader.read segment, transportParsed := true } from
      ⟨rfl, rfl, rfl, rfl, rfl, rfl, rfl, rfl, rfl, rfl, Or.inl rfl⟩) rfl rfl checksum application
  refine
    { common := common
      window := ?_
      srcPort := ?_
      dstPort := ?_
      seq := ?_
      ack := ?_
      flags := ?_
      options := ?_ }
  · dsimp only
    rw [read, named]
  · dsimp only
    rw [read]
  · dsimp only
    rw [read]
  · dsimp only
    rw [read, named]
    rfl
  · dsimp only
    rw [read, named]
    rfl
  · dsimp only
    rw [read, named]
    rfl
  · dsimp only
    rw [headerLen, slice_built known, split]
    have front : (tcpFront c.flow.key built ++ (ofWord (tcpChecksum c.flow.key built) ++
        ofWord 0)).length = 20 := rfl
    have area : (if withMss then 28 else 20) - 20 = built.options.length := by
      rw [options]
      split <;> rfl
    rw [area, slice_behind front rfl]
    cases withMss with
    | false =>
        rw [options, List.length_eq_zero_iff.mp options]
        rfl
    | true =>
        have syn : built.options = synOptions c.eng.cfg c.flow := by rw [named]; rfl
        rw [options, syn]
        exact decodeOptions_syn small c.flow

theorem endpoint_bytes {remote : Endpoint} {family : UInt8} {srcAddr : Vector UInt8 16}
    (bytes : udpEndpointToAddrBytes remote = some (family, srcAddr)) :
    IsFamily family ∧ UdpEngine.Endpoint.family remote = family ∧
      addressOf family srcAddr = addressOf family remote.address := by
  unfold udpEndpointToAddrBytes at bytes
  unfold UdpEngine.Endpoint.family
  split at bytes
  · rename_i v6
    cases bytes
    refine ⟨Or.inr rfl, ?_, rfl⟩
    simp [v6.1, v6.2]
  · split at bytes
    · cases bytes
    · rename_i v4
      cases bytes
      refine ⟨Or.inl rfl, ?_, ?_⟩
      · simp [v4]
      · apply Vector.ext
        intro i inside
        simp only [addressOf_getElem]
        split <;> rfl

/-- A datagram says what was meant. -/
theorem datagramPacket_reads (key : UdpSessionKey) {remote : Endpoint} {family : UInt8}
    {srcAddr : Vector UInt8 16} {payload : List UInt8} (ipId : UInt16) {capacity : Nat}
    (bytes : udpEndpointToAddrBytes remote = some (family, srcAddr))
    (short : (datagramPacket key remote.port family srcAddr payload ipId).length ≤ 65535)
    (fits : (datagramPacket key remote.port family srcAddr payload ipId).length ≤ capacity) :
    UdpReads key remote payload (datagramPacket key remote.port family srcAddr payload ipId)
      (IpPacket.parse capacity (datagramPacket key remote.port family srcAddr payload ipId)) := by
  obtain ⟨known, reached, source⟩ := endpoint_bytes bytes
  obtain ⟨checksum, summed⟩ : ∃ checksum, checksum =
      udpChecksum family srcAddr key.srcIp remote.port key.srcPort payload := ⟨_, rfl⟩
  obtain ⟨segment, named⟩ : ∃ segment, segment = udpBytes remote.port key.srcPort payload checksum :=
    ⟨_, rfl⟩
  have length : segment.length = 8 + payload.length := by
    rw [named, udpBytes_length]
    rfl
  have whole : datagramPacket key remote.port family srcAddr payload ipId =
      ipHeader family srcAddr key.srcIp ipProtocolUdp
        (UdpEngine.ipHeaderSize family + segment.length) ipId ++ segment := by
    unfold datagramPacket
    dsimp only
    rw [length, named, summed, Nat.add_assoc]
    rfl
  rw [whole] at short fits ⊢
  rw [List.length_append, ipHeader_length known] at short
  obtain ⟨layer, layered, parsed⟩ := doParse_built known ipProtocolUdp srcAddr key.srcIp ipId short
  have read := UdpHeader.read_built remote.port key.srcPort payload checksum
  rw [← named] at read
  have udpLen : (UdpHeader.read segment).length.toNat = 8 + payload.length := by
    rw [read]
    exact toNat_ofNat (by unfold udpHeaderSize; omega)
  have holds : udpLengthsHold segment = true := by
    unfold udpLengthsHold
    simp only [Bool.decide_and, Bool.and_eq_true, decide_eq_true_eq]
    rw [udpLen, length]
    omega
  have result : IpPacket.parse capacity (ipHeader family srcAddr key.srcIp ipProtocolUdp
      (UdpEngine.ipHeaderSize family + segment.length) ipId ++ segment) =
        { layer with udp := UdpHeader.read segment, transportParsed := true } := by
    unfold IpPacket.parse
    rw [if_neg (Nat.not_lt.mpr fits), parsed, IpPacket.parseTransport_udp_holds layer holds]
  have verifies : tcpUdpChecksum family srcAddr key.srcIp ipProtocolUdp segment = 0 := by
    rw [named, summed]
    exact udpChecksum_verifies family srcAddr key.srcIp remote.port key.srcPort payload
      (by unfold udpHeaderSize; omega)
  have split : segment = udpFront remote.port key.srcPort payload.length ++ ofWord checksum ++
      payload := by
    rw [named]
    simp only [udpBytes, List.append_assoc]
  have application : ({ layer with udp := UdpHeader.read segment, transportParsed := true } :
      IpPacket).applicationBytes (ipHeader family srcAddr key.srcIp ipProtocolUdp
        (UdpEngine.ipHeaderSize family + segment.length) ipId ++ segment) = payload := by
    have other : ¬(ipProtocolUdp = ipProtocolTcp ∧ true = true) := by decide
    unfold IpPacket.applicationBytes IpPacket.transportData
    dsimp only
    rw [layered.payload, layered.protocol, Option.map_some, if_neg other, if_pos ⟨rfl, rfl⟩, udpLen]
    dsimp only
    rw [slice_built known]
    have left : sizeSub (8 + payload.length) 8 = payload.length := by
      rw [sizeSub, if_pos (Nat.le_add_right _ _), Nat.add_sub_cancel_left]
    rw [left, split]
    exact slice_end _ payload
  rw [result]
  have common := reads_built known layered (show IpPacket.SameLayer layer { layer with
    udp := UdpHeader.read segment, transportParsed := true } from
      ⟨rfl, rfl, rfl, rfl, rfl, rfl, rfl, rfl, rfl, rfl, Or.inl rfl⟩) rfl rfl verifies application
  refine
    { common := ?_
      srcPort := ?_
      dstPort := ?_
      summed := ?_ }
  · rw [reached]
    exact { common with srcIp := common.srcIp.trans source }
  · dsimp only
    rw [read]
  · dsimp only
    rw [read]
  · dsimp only
    rw [read, summed]
    exact udpChecksum_ne_zero _ _ _ _ _ _

/-! The buffers. -/

theorem acquireFrom_made (memory : List UInt8) {headroom : Nat} (pool : List PacketBuffer)
    (room : headroom < memory.length) :
    ∃ buf, (QueueWriter.acquireFrom memory headroom pool).2 = some buf ∧
      memory.length ≤ buf.capacity ∧ buf.headroom = headroom := by
  induction pool with
  | nil => exact ⟨_, dif_pos room, Nat.le_refl _, rfl⟩
  | cons buf rest ih =>
      unfold QueueWriter.acquireFrom
      split
      · rename_i large
        exact ⟨buf, rfl, large.1, large.2⟩
      · exact ih

/-- A packet that is no longer than the MTU fits in its buffer. -/
theorem QueueWriter.buffer_made (w : QueueWriter) (junk : Nat → UInt8) {mtu total : Nat}
    (some_ : 0 < mtu) (fits : total ≤ mtu) : ∃ pkt, (w.buffer junk (mtu + 64) total).2 = some pkt := by
  have length : (allocate junk (mtu + 64)).length = mtu + 64 := by simp [allocate]
  obtain ⟨buf, got, large, headroom⟩ := acquireFrom_made (allocate junk (mtu + 64)) w.pool
    (show 64 < _ by omega)
  have enough : total ≤ buf.capacity - buf.headroom := by omega
  refine ⟨_, Option.bind_eq_some_iff.mpr ⟨buf, got, dif_pos enough⟩⟩

theorem buildSegmentPacket_made (w : QueueWriter) (junk : Nat → UInt8) {c : Conn} (seq : UInt32)
    (flags : UInt8) {payload : List UInt8} {withMss : Bool}
    (fits : UdpEngine.ipHeaderSize c.flow.key.family + (if withMss then 28 else 20) + payload.length ≤
      c.eng.cfg.mtu) :
    ∃ pkt, (buildSegmentPacket w junk c seq flags payload withMss).2 = some pkt := by
  have some_ : 0 < c.eng.cfg.mtu := by
    split at fits <;> omega
  obtain ⟨pkt, got⟩ := w.buffer_made junk some_ fits
  unfold buildSegmentPacket
  dsimp only
  rw [got]
  exact ⟨_, rfl⟩

theorem udpSendSingle_made (w : QueueWriter) (junk : Nat → UInt8) {mtu : Nat} (key : UdpSessionKey)
    (remotePort : UInt16) {family : UInt8} (srcAddr : Vector UInt8 16) (buffers : List (List UInt8))
    {total : Nat} (fits : UdpEngine.ipHeaderSize family + udpHeaderSize + total ≤ mtu) :
    ∃ pkt, (udpSendSingle w junk mtu key remotePort family srcAddr buffers total).2 = some pkt := by
  have some_ : 0 < mtu := by
    unfold udpHeaderSize at fits
    omega
  obtain ⟨pkt, got⟩ := w.buffer_made junk some_ fits
  unfold udpSendSingle
  dsimp only
  rw [got]
  exact ⟨_, rfl⟩

/-- Every segment and every datagram that fits the MTU is built, and the public parser reads it
as what was meant. -/
theorem built_packets_read (w : QueueWriter) (junk : Nat → UInt8) {capacity : Nat} :
    (∀ (c : Conn) (seq : UInt32) (flags : UInt8) (payload : List UInt8) (withMss : Bool),
      IsFamily c.flow.key.family → c.eng.cfg.mtu ≤ 65535 → c.eng.cfg.mtu ≤ capacity →
      UdpEngine.ipHeaderSize c.flow.key.family + (if withMss then 28 else 20) + payload.length ≤
        c.eng.cfg.mtu →
      ∃ pkt, (buildSegmentPacket w junk c seq flags payload withMss).2 = some pkt ∧
        TcpReads c seq flags payload withMss pkt.bytes (IpPacket.parse capacity pkt.bytes)) ∧
    ∀ (mtu : Nat) (key : UdpSessionKey) (remote : Endpoint) (family : UInt8)
      (srcAddr : Vector UInt8 16) (buffers : List (List UInt8)),
      udpEndpointToAddrBytes remote = some (family, srcAddr) → mtu ≤ 65535 → mtu ≤ capacity →
      UdpEngine.ipHeaderSize family + udpHeaderSize + buffers.flatten.length ≤ mtu →
      ∃ pkt, (udpSendSingle w junk mtu key remote.port family srcAddr buffers
          buffers.flatten.length).2 = some pkt ∧
        UdpReads key remote buffers.flatten pkt.bytes (IpPacket.parse capacity pkt.bytes) := by
  refine ⟨fun c seq flags payload withMss known small room fits => ?_,
    fun mtu key remote family srcAddr buffers bytes small room fits => ?_⟩
  · obtain ⟨pkt, made⟩ := buildSegmentPacket_made w junk seq flags fits
    have packet := buildSegmentPacket_bytes known made
    have length : (segmentPacket c seq flags payload withMss (w.ipId + 1)).length =
        UdpEngine.ipHeaderSize c.flow.key.family + (if withMss then 28 else 20) + payload.length := by
      unfold segmentPacket
      dsimp only
      rw [List.length_append, ipHeader_length known, tcpBytes_length, buildSegment_options]
      change _ + (20 + _ + payload.length) = _
      split <;> omega
    refine ⟨pkt, made, ?_⟩
    rw [packet]
    exact segmentPacket_reads seq flags (w.ipId + 1) known small (by omega) (by omega)
  · obtain ⟨known, -, -⟩ := endpoint_bytes bytes
    obtain ⟨pkt, made⟩ := udpSendSingle_made w junk key remote.port srcAddr buffers fits
    have packet := udpSendSingle_bytes known (Nat.le_refl _) made
    rw [List.take_length] at packet
    have length : (datagramPacket key remote.port family srcAddr buffers.flatten (w.ipId + 1)).length =
        UdpEngine.ipHeaderSize family + udpHeaderSize + buffers.flatten.length := by
      unfold datagramPacket
      dsimp only
      rw [List.length_append, ipHeader_length known, udpBytes_length, Nat.add_assoc]
    refine ⟨pkt, made, ?_⟩
    rw [packet]
    exact datagramPacket_reads key (w.ipId + 1) bytes (by omega) (by omega)

/-- A SYN-ACK, and a datagram in two buffers. -/
theorem built_packets_read_first :
    let c := opened {} 1000
    let w : QueueWriter := { queueCount := 1 }
    let key : UdpSessionKey := { family := 4, srcIp := Vector.replicate 16 10, srcPort := 53 }
    let remote : Endpoint := { isV6 := false, address := Vector.replicate 16 20, port := 4000 }
    (∃ pkt, (buildSegmentPacket w (fun _ => 0) c 1000 (tcpSyn ||| tcpAck) [] true).2 = some pkt ∧
      TcpReads c 1000 (tcpSyn ||| tcpAck) [] true pkt.bytes (IpPacket.parse 2048 pkt.bytes)) ∧
    ∃ pkt, (udpSendSingle w (fun _ => 0) 1500 key 4000 4 (addressOf 4 remote.address) [[1, 2], [3]]
        3).2 = some pkt ∧
      UdpReads key remote [1, 2, 3] pkt.bytes (IpPacket.parse 2048 pkt.bytes) := by
  intro c w key remote
  refine ⟨(built_packets_read w (fun _ => 0)).1 c 1000 (tcpSyn ||| tcpAck) [] true (Or.inl rfl)
    (by decide) (by decide) (by decide), ?_⟩
  exact (built_packets_read w (fun _ => 0)).2 1500 key remote 4 (addressOf 4 remote.address)
    [[1, 2], [3]] rfl (by decide) (by decide) (by decide)

end Tunio
