import Tunio.RoundTrip

/-!
The byte strings that the packet parser accepts, and how far its views reach.
-/

namespace Tunio

open Octets

/-! What a packet says of itself, in the numbers that its bytes spell. -/

namespace IpGrammar

def octet (data : List UInt8) (i : Nat) : Nat := (data.getD i 0).toNat

def pair (data : List UInt8) (i : Nat) : Nat := octet data i * 256 + octet data (i + 1)

def ipVersion (data : List UInt8) : Nat := octet data 0 / 16

def ihl (data : List UInt8) : Nat := octet data 0 % 16 * 4

/-- The reasons to refuse the IP layer. -/
inductive Malformed (data : List UInt8) : Prop
  | short (short : data.length < 20)
  | version (four : ipVersion data ≠ 4) (six : ipVersion data ≠ 6)
  | headerLength (four : ipVersion data = 4) (wrong : ihl data < 20 ∨ data.length < ihl data)
  | totalLength (four : ipVersion data = 4)
      (wrong : pair data 2 < ihl data ∨ data.length < pair data 2)
  | shortV6 (six : ipVersion data = 6) (short : data.length < 40)
  | payloadLength (six : ipVersion data = 6) (beyond : data.length < 40 + pair data 4)

def headerEnd (data : List UInt8) : Nat := if ipVersion data = 4 then ihl data else 40

def totalLength (data : List UInt8) : Nat :=
  if ipVersion data = 4 then pair data 2 else 40 + pair data 4

def ipProtocol (data : List UInt8) : UInt8 := if ipVersion data = 4 then data.getD 9 0 else data.getD 6 0

/-- The bytes behind the IP header. -/
def body (data : List UInt8) : List UInt8 :=
  slice data (headerEnd data) (totalLength data - headerEnd data)

/-- The first bytes of a datagram, if not all. -/
def Leading (data : List UInt8) : Prop := ipVersion data = 4 → pair data 6 % 8192 = 0

instance (data : List UInt8) : Decidable (Leading data) := by
  unfold Leading
  infer_instance

/-- Neither an offset nor a mark that more fragments follow. -/
def Unfragmented (data : List UInt8) : Prop := ipVersion data = 4 → pair data 6 % 16384 = 0

/-- The bytes behind the IP header are too few for the transport header, or for the lengths that it
gives. -/
def Truncated (protocol : UInt8) (body : List UInt8) : Prop :=
  (protocol = ipProtocolTcp ∧ (body.length < 20 ∨ octet body 12 / 16 * 4 < 20 ∨
      body.length < octet body 12 / 16 * 4)) ∨
    (protocol = ipProtocolUdp ∧ (body.length < 8 ∨ pair body 4 < 8 ∨ body.length < pair body 4)) ∨
    ((protocol = ipProtocolIcmp ∨ protocol = ipProtocolIcmpv6) ∧ body.length < 8)

instance (protocol : UInt8) (body : List UInt8) : Decidable (Truncated protocol body) := by
  unfold Truncated
  infer_instance

theorem word_toNat (data : List UInt8) (i : Nat) : (word data i).toNat = pair data i := by
  have high := (data.getD i 0).toNat_lt
  have low := (data.getD (i + 1) 0).toNat_lt
  unfold word pair octet
  rw [UInt16.toNat_ofNat']
  omega

theorem shift_toNat (b : UInt8) : (b >>> 4).toNat = b.toNat / 16 := by
  rw [UInt8.toNat_shiftRight, Nat.shiftRight_eq_div_pow]
  rfl

theorem version_iff (data : List UInt8) (v : UInt8) :
    data.getD 0 0 >>> 4 = v ↔ ipVersion data = v.toNat := by
  rw [← UInt8.toNat_inj, shift_toNat]
  rfl

theorem headerLen_v4 (data : List UInt8) : (Ipv4Header.read data).headerLen = ihl data := by
  have low : (data.getD 0 0 &&& 0x0f).toNat = (data.getD 0 0).toNat % 16 := by
    rw [UInt8.toNat_and]
    exact Nat.and_two_pow_sub_one_eq_mod _ 4
  change (data.getD 0 0 &&& 0x0f).toNat * 4 = (data.getD 0 0).toNat % 16 * 4
  rw [low]

theorem headerLen_tcp (segment : List UInt8) :
    (TcpHeader.read segment).headerLen = octet segment 12 / 16 * 4 := by
  change (segment.getD 12 0 >>> 4).toNat * 4 = _
  rw [shift_toNat]
  rfl

/-- The offset of a fragment, in bytes. -/
theorem fragOffset_toNat (data : List UInt8) :
    ((word data 6 &&& 0x1fff) * 8).toNat = pair data 6 % 8192 * 8 := by
  have low : (word data 6 &&& 0x1fff).toNat = pair data 6 % 8192 := by
    rw [UInt16.toNat_and, word_toNat]
    exact Nat.and_two_pow_sub_one_eq_mod _ 13
  rw [UInt16.toNat_mul, low]
  change pair data 6 % 8192 * 8 % 65536 = _
  omega

theorem fragmented_iff (data : List UInt8) :
    (word data 6 &&& 0x3fff != 0) = true ↔ pair data 6 % 16384 ≠ 0 := by
  have low : (word data 6 &&& 0x3fff).toNat = pair data 6 % 16384 := by
    rw [UInt16.toNat_and, word_toNat]
    exact Nat.and_two_pow_sub_one_eq_mod _ 14
  rw [bne_iff_ne, Ne, ← UInt16.toNat_inj, low]
  rfl

end IpGrammar

open IpGrammar

/-! The transport header. -/

theorem truncated_tcp (body : List UInt8) : Truncated ipProtocolTcp body ↔
    body.length < 20 ∨ (TcpHeader.read body).headerLen < 20 ∨
      body.length < (TcpHeader.read body).headerLen := by
  rw [headerLen_tcp]
  simp [Truncated, ipProtocolTcp, ipProtocolUdp, ipProtocolIcmp, ipProtocolIcmpv6]

theorem truncated_udp (body : List UInt8) : Truncated ipProtocolUdp body ↔
    body.length < 8 ∨ (UdpHeader.read body).length.toNat < 8 ∨
      body.length < (UdpHeader.read body).length.toNat := by
  simp only [UdpHeader.read, word_toNat]
  simp [Truncated, ipProtocolTcp, ipProtocolUdp, ipProtocolIcmp, ipProtocolIcmpv6]

/-- ICMP of either version. -/
def IsIcmp (protocol : UInt8) : Prop := protocol = ipProtocolIcmp ∨ protocol = ipProtocolIcmpv6

instance (protocol : UInt8) : Decidable (IsIcmp protocol) := by
  unfold IsIcmp
  infer_instance

theorem truncated_icmp {protocol : UInt8} (icmp : IsIcmp protocol) (body : List UInt8) :
    Truncated protocol body ↔ body.length < 8 := by
  rcases icmp with rfl | rfl <;>
    simp [Truncated, ipProtocolTcp, ipProtocolUdp, ipProtocolIcmp, ipProtocolIcmpv6]

/-- The protocols whose headers the parser looks at. -/
def HasHeader (protocol : UInt8) : Prop :=
  protocol = ipProtocolTcp ∨ protocol = ipProtocolUdp ∨ IsIcmp protocol

instance (protocol : UInt8) : Decidable (HasHeader protocol) := by
  unfold HasHeader
  infer_instance

theorem IpGrammar.Truncated.header {protocol : UInt8} {body : List UInt8} (short : Truncated protocol body) :
    HasHeader protocol := by
  rcases short with ⟨tcp, _⟩ | ⟨udp, _⟩ | ⟨icmp, _⟩
  · exact Or.inl tcp
  · exact Or.inr (Or.inl udp)
  · exact Or.inr (Or.inr icmp)

namespace IpPacket

/-- What the accessors tell of an ICMP message: its type, its code, its checksum, and the identifier
and the sequence number of an echo. -/
def icmpFields (packet : IpPacket) : UInt8 × UInt8 × UInt16 × UInt16 × UInt16 :=
  (packet.icmpType, packet.icmpCode, packet.icmpChecksum, packet.icmpEchoId, packet.icmpEchoSeq)

def readIcmp (protocol : UInt8) (segment : List UInt8) : UInt8 × UInt8 × UInt16 × UInt16 × UInt16 :=
  let type := segment.getD 0 0
  let echo := (protocol = ipProtocolIcmp ∧ (type = 8 ∨ type = 0)) ∨
    (protocol = ipProtocolIcmpv6 ∧ (type = 128 ∨ type = 129))
  (type, segment.getD 1 0, word segment 2,
    if echo then (word segment 4, word segment 6) else (0, 0))

/-- What comes of a transport header. -/
structure TransportRead (packet parsed : IpPacket) (protocol : UInt8) (segment : List UInt8) : Prop where
  parseError : parsed.parseError =
    if Truncated protocol segment then .invalidTransportHeader else packet.parseError
  whole : parsed.transportParsed = true ↔ HasHeader protocol ∧ ¬Truncated protocol segment
  tcp : protocol = ipProtocolTcp → parsed.transportParsed = true → parsed.tcp = TcpHeader.read segment
  udp : protocol = ipProtocolUdp → parsed.transportParsed = true → parsed.udp = UdpHeader.read segment
  icmp : packet.icmpFields = (0, 0, 0, 0, 0) → parsed.icmpFields =
    if IsIcmp protocol ∧ ¬Truncated protocol segment then readIcmp protocol segment
    else (0, 0, 0, 0, 0)

theorem TransportRead.refused {packet other : IpPacket} {protocol : UInt8} {segment : List UInt8}
    (short : Truncated protocol segment) (unread : other.transportParsed = false)
    (still : other.icmpFields = packet.icmpFields) :
    TransportRead packet (other.refuse .invalidTransportHeader) protocol segment := by
  have none_ : ¬(other.refuse .invalidTransportHeader).transportParsed = true := by
    simp [refuse, unread]
  refine ⟨(if_pos short).symm, iff_of_false none_ fun both => both.2 short, ?_, ?_, ?_⟩
  · exact fun _ read => absurd read none_
  · exact fun _ read => absurd read none_
  · intro silent
    rw [if_neg fun both => both.2 short, ← silent, ← still]
    rfl

theorem parseTransport_read (packet : IpPacket) (protocol : UInt8) (segment : List UInt8) :
    TransportRead packet (packet.parseTransport protocol segment) protocol segment := by
  unfold parseTransport
  dsimp only
  split
  · rename_i tcp
    subst tcp
    split
    · rename_i short
      exact .refused ((truncated_tcp segment).mpr (Or.inl short)) rfl rfl
    · rename_i long
      split
      · rename_i wrong
        exact .refused ((truncated_tcp segment).mpr (Or.inr wrong)) rfl rfl
      · rename_i right
        have whole : ¬Truncated ipProtocolTcp segment := fun short =>
          ((truncated_tcp segment).mp short).elim long right
        refine ⟨(if_neg whole).symm, iff_of_true rfl ⟨Or.inl rfl, whole⟩, fun _ _ => rfl, ?_, ?_⟩
        · exact fun udp => absurd udp (by decide)
        · intro silent
          rw [if_neg fun both => absurd both.1 (by decide)]
          exact silent
  · rename_i notTcp
    split
    · rename_i udp
      subst udp
      split
      · rename_i short
        exact .refused ((truncated_udp segment).mpr (Or.inl short)) rfl rfl
      · rename_i long
        split
        · rename_i wrong
          exact .refused ((truncated_udp segment).mpr (Or.inr wrong)) rfl rfl
        · rename_i right
          have whole : ¬Truncated ipProtocolUdp segment := fun short =>
            ((truncated_udp segment).mp short).elim long right
          refine ⟨(if_neg whole).symm, iff_of_true rfl ⟨Or.inr (Or.inl rfl), whole⟩, ?_,
            fun _ _ => rfl, ?_⟩
          · exact fun tcp => absurd tcp (by decide)
          · intro silent
            rw [if_neg fun both => absurd both.1 (by decide)]
            exact silent
    · rename_i notUdp
      split
      · rename_i icmp
        split
        · rename_i short
          exact .refused ((truncated_icmp icmp segment).mpr short) rfl rfl
        · rename_i long
          have whole : ¬Truncated protocol segment := fun short =>
            long ((truncated_icmp icmp segment).mp short)
          refine ⟨?_, iff_of_true rfl ⟨Or.inr (Or.inr icmp), whole⟩, ?_, ?_, ?_⟩
          · rw [if_neg whole]
            split <;> rfl
          · exact fun tcp => absurd tcp notTcp
          · exact fun udp => absurd udp notUdp
          · intro silent
            rw [if_pos (show IsIcmp protocol ∧ ¬Truncated protocol segment from ⟨icmp, whole⟩)]
            unfold readIcmp
            dsimp only
            split
            · rfl
            · have id : packet.icmpEchoId = 0 := congrArg (fun fields => fields.2.2.2.1) silent
              have seq : packet.icmpEchoSeq = 0 := congrArg (fun fields => fields.2.2.2.2) silent
              simp only [icmpFields, id, seq]
      · rename_i notIcmp
        have unknown : ¬HasHeader protocol := fun known =>
          known.elim notTcp fun rest => rest.elim notUdp notIcmp
        refine ⟨(if_neg fun short => unknown short.header).symm,
          iff_of_false Bool.false_ne_true fun both => unknown both.1, ?_, ?_, ?_⟩
        · exact fun tcp => absurd tcp notTcp
        · exact fun udp => absurd udp notUdp
        · intro silent
          rw [if_neg fun both => notIcmp both.1]
          exact silent

/-! The IP header. -/

/-- The errors that the IP layer gives. -/
def ErrorOfIp (error : ParseError) : Prop :=
  error = .invalidVersion ∨ error = .packetTooShort ∨ error = .invalidIpHeaderLength ∨
    error = .invalidTotalLength

/-- The view of a packet before its transport header is parsed. -/
def layer (data : List UInt8) : IpPacket :=
  if ipVersion data = 4 then layerV4 data else layerV6 data

theorem v4Fits_iff (data : List UInt8) : V4Fits data ↔
    (20 ≤ ihl data ∧ ihl data ≤ data.length) ∧ ihl data ≤ pair data 2 ∧
      pair data 2 ≤ data.length := by
  unfold V4Fits
  dsimp only
  rw [headerLen_v4]
  change _ ∧ _ ≤ (word data 2).toNat ∧ (word data 2).toNat ≤ _ ↔ _
  rw [word_toNat]

theorem v6Fits_iff (data : List UInt8) : V6Fits data ↔
    40 ≤ data.length ∧ 40 + pair data 4 ≤ data.length := by
  unfold V6Fits
  change _ ∧ 40 + (word data 4).toNat ≤ _ ↔ _
  rw [word_toNat]

/-- The lengths of an IP layer that is not refused. -/
structure Bounded (data : List UInt8) : Prop where
  least : 20 ≤ headerEnd data
  inside : headerEnd data ≤ totalLength data
  most : totalLength data ≤ data.length
  v4 : ipVersion data = 4 → V4Fits data
  v6 : ipVersion data ≠ 4 → ipVersion data = 6 ∧ V6Fits data

theorem bounded {data : List UInt8} (intact : ¬Malformed data) : Bounded data := by
  by_cases four : ipVersion data = 4
  · have fits : V4Fits data := by
      have header : ¬(ihl data < 20 ∨ data.length < ihl data) :=
        fun wrong => intact (.headerLength four wrong)
      have total : ¬(pair data 2 < ihl data ∨ data.length < pair data 2) :=
        fun wrong => intact (.totalLength four wrong)
      rw [v4Fits_iff]
      omega
    have bounds := (v4Fits_iff data).mp fits
    refine ⟨?_, ?_, ?_, fun _ => fits, fun other => absurd four other⟩
    · rw [headerEnd, if_pos four]
      exact bounds.1.1
    · rw [headerEnd, totalLength, if_pos four, if_pos four]
      exact bounds.2.1
    · rw [totalLength, if_pos four]
      exact bounds.2.2
  · have six : ipVersion data = 6 := by
      by_contra other
      exact intact (.version four other)
    have fits : V6Fits data := by
      have long : ¬data.length < 40 := fun short => intact (.shortV6 six short)
      have room : ¬data.length < 40 + pair data 4 := fun beyond => intact (.payloadLength six beyond)
      rw [v6Fits_iff]
      omega
    have bounds := (v6Fits_iff data).mp fits
    refine ⟨?_, ?_, ?_, fun other => absurd other four, fun _ => ⟨six, fits⟩⟩
    · rw [headerEnd, if_neg four]
      omega
    · rw [headerEnd, totalLength, if_neg four, if_neg four]
      exact Nat.le_add_right _ _
    · rw [totalLength, if_neg four]
      exact bounds.2

/-- Where the parser stops at an IP layer that is refused. -/
theorem doParse_stops {data : List UInt8} (refused : Malformed data) :
    doParse data = { parseError := .packetTooShort } ∨
      (¬V4Fits data ∧ doParse data = parseV4 data) ∨ (¬V6Fits data ∧ doParse data = parseV6 data) ∨
        doParse data = { parseError := .invalidVersion } := by
  unfold doParse
  by_cases short : data.length < 20
  · exact Or.inl (if_pos short)
  rw [if_neg short]
  by_cases four : data.getD 0 0 >>> 4 = 4
  · rw [if_pos four]
    refine Or.inr (Or.inl ⟨fun fits => ?_, rfl⟩)
    have four : ipVersion data = 4 := (version_iff data 4).mp four
    rw [v4Fits_iff] at fits
    cases refused <;> omega
  rw [if_neg four]
  by_cases six : data.getD 0 0 >>> 4 = 6
  · rw [if_pos six]
    refine Or.inr (Or.inr (Or.inl ⟨fun fits => ?_, rfl⟩))
    have six : ipVersion data = 6 := (version_iff data 6).mp six
    rw [v6Fits_iff] at fits
    cases refused <;> omega
  rw [if_neg six]
  exact Or.inr (Or.inr (Or.inr rfl))

theorem doParse_refused {data : List UInt8} (refused : Malformed data) :
    ErrorOfIp (doParse data).parseError := by
  rcases doParse_stops refused with short | ⟨unfit, parsed⟩ | ⟨unfit, parsed⟩ | version
  · exact Or.inr (Or.inl (congrArg parseError short))
  · rw [parsed]
    exact (parseV4_unfit unfit).elim (fun header => Or.inr (Or.inr (Or.inl header)))
      fun total => Or.inr (Or.inr (Or.inr total))
  · rw [parsed]
    exact (parseV6_unfit unfit).elim (fun short => Or.inr (Or.inl short))
      fun total => Or.inr (Or.inr (Or.inr total))
  · exact Or.inl (congrArg parseError version)

theorem doParse_intact {data : List UInt8} (intact : ¬Malformed data) :
    doParse data = if Leading data then (layer data).parseTransport (ipProtocol data) (body data)
      else layer data := by
  have bounds := bounded intact
  have long : ¬data.length < 20 := fun short => intact (.short short)
  unfold doParse
  rw [if_neg long]
  by_cases four : ipVersion data = 4
  · have offset : (layerV4 data).fragOffset = 0 ↔ Leading data := by
      have exact_ := fragOffset_toNat data
      change (word data 6 &&& 0x1fff) * 8 = 0 ↔ (ipVersion data = 4 → pair data 6 % 8192 = 0)
      rw [← UInt16.toNat_inj, exact_]
      change _ * 8 = 0 ↔ _
      omega
    rw [if_pos ((version_iff data 4).mpr four), parseV4_fits (bounds.v4 four), layer, if_pos four,
      ipProtocol, if_pos four, body, headerEnd, totalLength, if_pos four, if_pos four, headerLen_v4]
    simp only [offset]
    have total : (Ipv4Header.read data).totalLen.toNat = pair data 2 := word_toNat data 2
    rw [total]
    rfl
  · obtain ⟨six, fits⟩ := bounds.v6 four
    have notFour : ¬data.getD 0 0 >>> 4 = 4 := fun wrong => four ((version_iff data 4).mp wrong)
    have leading : Leading data := fun wrong => absurd wrong four
    have total : (Ipv6Header.read data).payloadLen.toNat = pair data 4 := word_toNat data 4
    rw [if_neg notFour, if_pos ((version_iff data 6).mpr six), parseV6_fits fits, if_pos leading,
      layer, if_neg four, ipProtocol, if_neg four, body, headerEnd, totalLength, if_neg four,
      if_neg four, total, Nat.add_sub_cancel_left]
    rfl

/-- The view of a packet whose IP layer is not refused. -/
structure LayerRead (data : List UInt8) (view : IpPacket) : Prop where
  same : SameLayer (layer data) view
  parseError : view.parseError =
    if Leading data ∧ Truncated (ipProtocol data) (body data) then .invalidTransportHeader else .none
  whole : view.transportParsed = true ↔
    Leading data ∧ HasHeader (ipProtocol data) ∧ ¬Truncated (ipProtocol data) (body data)
  tcp : ipProtocol data = ipProtocolTcp → view.transportParsed = true →
    view.tcp = TcpHeader.read (body data)
  udp : ipProtocol data = ipProtocolUdp → view.transportParsed = true →
    view.udp = UdpHeader.read (body data)
  icmp : view.icmpFields =
    if Leading data ∧ IsIcmp (ipProtocol data) ∧ ¬Truncated (ipProtocol data) (body data) then
      readIcmp (ipProtocol data) (body data)
    else (0, 0, 0, 0, 0)

theorem layer_fields (data : List UInt8) : (layer data).parseError = .none ∧
    (layer data).transportParsed = false ∧ (layer data).icmpFields = (0, 0, 0, 0, 0) := by
  unfold layer
  split
  · exact ⟨rfl, rfl, rfl⟩
  · exact ⟨rfl, rfl, rfl⟩

theorem doParse_read {data : List UInt8} (intact : ¬Malformed data) :
    LayerRead data (doParse data) := by
  obtain ⟨fine, unread, silent⟩ := layer_fields data
  rw [doParse_intact intact]
  by_cases leading : Leading data
  · rw [if_pos leading]
    have read := (layer data).parseTransport_read (ipProtocol data) (body data)
    refine ⟨parseTransport_sameLayer _ _ _, ?_, ?_, read.tcp, read.udp, ?_⟩
    · rw [read.parseError, fine]
      simp only [leading, true_and]
    · rw [read.whole]
      simp only [leading, true_and]
    · rw [read.icmp silent]
      simp only [leading, true_and]
  · have none_ : ¬(layer data).transportParsed = true := by
      rw [unread]
      decide
    rw [if_neg leading]
    refine ⟨.refl _, ?_, ?_, ?_, ?_, ?_⟩
    · rw [fine, if_neg fun both => leading both.1]
    · exact iff_of_false none_ fun both => leading both.1
    · exact fun _ read => absurd read none_
    · exact fun _ read => absurd read none_
    · rw [silent, if_neg fun both => leading both.1]

theorem layer_places (data : List UInt8) : (layer data).payload = some (headerEnd data) ∧
    (layer data).payloadLen = totalLength data - headerEnd data ∧
    (layer data).totalLen = totalLength data ∧ (layer data).protocol = ipProtocol data := by
  unfold layer headerEnd totalLength ipProtocol
  split
  · have total : (Ipv4Header.read data).totalLen.toNat = pair data 2 := word_toNat data 2
    refine ⟨congrArg some (headerLen_v4 data), ?_, total, rfl⟩
    change (Ipv4Header.read data).totalLen.toNat - (Ipv4Header.read data).headerLen = _
    rw [total, headerLen_v4]
  · have plen : (Ipv6Header.read data).payloadLen.toNat = pair data 4 := word_toNat data 4
    refine ⟨rfl, ?_, congrArg (40 + ·) plen, rfl⟩
    rw [Nat.add_sub_cancel_left]
    exact plen

/-- The application's bytes are in the packet. -/
theorem LayerRead.application {data : List UInt8} {view : IpPacket} (read : LayerRead data view)
    (bounds : Bounded data) :
    ∃ offset size, view.transportData = some (offset, size) ∧ offset + size ≤ totalLength data := by
  obtain ⟨payload, payloadLen, _, protocol⟩ := layer_places data
  have inside := bounds.inside
  have length : (body data).length = totalLength data - headerEnd data :=
    slice_length data (by have most := bounds.most; omega)
  unfold transportData
  rw [read.same.payload, payload, read.same.payloadLen, payloadLen, read.same.protocol, protocol,
    Option.map_some]
  split
  · rename_i tcp
    have whole := (read.whole.mp tcp.2).2.2
    rw [tcp.1, truncated_tcp, length] at whole
    refine ⟨_, _, rfl, ?_⟩
    rw [read.tcp tcp.1 tcp.2]
    omega
  · split
    · rename_i udp
      have whole := (read.whole.mp udp.2).2.2
      rw [udp.1, truncated_udp, length] at whole
      have least : 8 ≤ (UdpHeader.read (body data)).length.toNat := by omega
      refine ⟨_, _, rfl, ?_⟩
      rw [read.udp udp.1 udp.2, sizeSub, if_pos least]
      omega
    · split
      · rename_i icmp
        have whole := (read.whole.mp icmp.2).2.2
        rw [truncated_icmp icmp.1, length] at whole
        refine ⟨_, _, rfl, ?_⟩
        omega
      · refine ⟨_, _, rfl, ?_⟩
        omega

end IpPacket

/-! What stands behind the packet. -/

/-- The front of a packet reads like the whole: its IP header is there. -/
structure IpGrammar.SameFields (front data : List UInt8) : Prop where
  version : ipVersion data = ipVersion front
  ihl : ihl data = ihl front
  pair : ∀ i, i + 2 ≤ 20 → pair data i = pair front i
  protocol : ipProtocol data = ipProtocol front
  headerEnd : headerEnd data = headerEnd front
  totalLength : totalLength data = totalLength front

theorem IpGrammar.sameFields (front rest : List UInt8) (long : 20 ≤ front.length) :
    SameFields front (front ++ rest) := by
  have byte (i : Nat) (inside : i < 20) : (front ++ rest).getD i 0 = front.getD i 0 :=
    byte_front front rest (by omega)
  have version : ipVersion (front ++ rest) = ipVersion front := by
    unfold ipVersion octet
    rw [byte 0 (by decide)]
  have ihl : ihl (front ++ rest) = ihl front := by
    unfold IpGrammar.ihl octet
    rw [byte 0 (by decide)]
  have pair (i : Nat) (inside : i + 2 ≤ 20) : pair (front ++ rest) i = pair front i := by
    unfold IpGrammar.pair octet
    rw [byte i (by omega), byte (i + 1) (by omega)]
  refine ⟨version, ihl, pair, ?_, ?_, ?_⟩
  · unfold ipProtocol
    rw [version, byte 9 (by decide), byte 6 (by decide)]
  · unfold headerEnd
    rw [version, ihl]
  · unfold totalLength
    rw [version, pair 2 (by decide), pair 4 (by decide)]

section

variable (front rest : List UInt8)

theorem IpGrammar.malformed_front (long : 20 ≤ front.length)
    (whole : totalLength front ≤ front.length) :
    Malformed (front ++ rest) ↔ Malformed front := by
  have same := sameFields front rest long
  have length : (front ++ rest).length = front.length + rest.length := List.length_append
  constructor
  · intro refused
    cases refused with
    | short short => omega
    | version four six => exact .version (same.version ▸ four) (same.version ▸ six)
    | headerLength four wrong =>
        rw [same.version] at four
        rw [same.ihl, length] at wrong
        rw [totalLength, if_pos four] at whole
        by_cases low : ihl front < 20
        · exact .headerLength four (Or.inl low)
        · exact .totalLength four (Or.inl (by omega))
    | totalLength four wrong =>
        rw [same.version] at four
        rw [same.ihl, same.pair 2 (by decide), length] at wrong
        rw [totalLength, if_pos four] at whole
        exact .totalLength four (by omega)
    | shortV6 six short =>
        rw [same.version] at six
        exact .shortV6 six (by omega)
    | payloadLength six beyond =>
        rw [same.version] at six
        rw [same.pair 4 (by decide), length] at beyond
        exact .payloadLength six (by omega)
  · intro refused
    cases refused with
    | short short => omega
    | version four six => exact .version (same.version ▸ four) (same.version ▸ six)
    | headerLength four wrong =>
        rw [totalLength, if_pos four] at whole
        rw [← same.version] at four
        by_cases low : ihl front < 20
        · exact .headerLength four (Or.inl (same.ihl ▸ low))
        · refine .totalLength four (Or.inl ?_)
          rw [same.ihl, same.pair 2 (by decide)]
          omega
    | totalLength four wrong =>
        rw [totalLength, if_pos four] at whole
        rw [← same.version] at four
        refine .totalLength four (Or.inl ?_)
        rw [same.ihl, same.pair 2 (by decide)]
        omega
    | shortV6 six short =>
        rw [totalLength, if_neg (by omega)] at whole
        omega
    | payloadLength six beyond =>
        rw [totalLength, if_neg (by omega)] at whole
        omega

namespace IpPacket

theorem layer_front (least : 20 ≤ headerEnd front) (inside : headerEnd front ≤ front.length) :
    layer (front ++ rest) = layer front := by
  have least : 20 ≤ front.length := by omega
  have words (i : Nat) (room : i + 2 ≤ 20) : word (front ++ rest) i = word front i :=
    word_front front rest (by omega)
  have longs (i : Nat) (room : i + 4 ≤ 20) : long (front ++ rest) i = long front i :=
    long_front front rest (by omega)
  have bytes (i : Nat) (room : i < 20) : (front ++ rest).getD i 0 = front.getD i 0 :=
    byte_front front rest (by omega)
  have slices (i : Nat) (room : i + 4 ≤ 20) : slice (front ++ rest) i 4 = slice front i 4 :=
    slice_inside front rest (by omega)
  unfold layer
  rw [(sameFields front rest least).version]
  split
  · have read : Ipv4Header.read (front ++ rest) = Ipv4Header.read front := by
      unfold Ipv4Header.read
      rw [bytes 0 (by decide), bytes 1 (by decide), words 2 (by decide), words 4 (by decide),
        words 6 (by decide), bytes 8 (by decide), bytes 9 (by decide), words 10 (by decide),
        longs 12 (by decide), longs 16 (by decide)]
    unfold layerV4
    rw [read, slices 12 (by decide), slices 16 (by decide)]
  · rename_i six
    rw [headerEnd, if_neg six] at inside
    have read : Ipv6Header.read (front ++ rest) = Ipv6Header.read front := by
      unfold Ipv6Header.read
      rw [longs 0 (by decide), words 4 (by decide), bytes 6 (by decide), bytes 7 (by decide),
        slice_inside front rest (by omega), slice_inside front rest (by omega)]
    unfold layerV6
    rw [read]

/-- The parser does not look behind the packet. -/
theorem doParse_front (intact : ¬Malformed front) : doParse (front ++ rest) = doParse front := by
  have bounds := bounded intact
  have long : 20 ≤ front.length := by
    have inside := bounds.inside
    have least := bounds.least
    have most := bounds.most
    omega
  have same := sameFields front rest long
  have leading : Leading (front ++ rest) ↔ Leading front := by
    unfold Leading
    rw [same.version, same.pair 6 (by decide)]
  have body : body (front ++ rest) = body front := by
    have inside := bounds.inside
    have most := bounds.most
    unfold IpGrammar.body
    rw [same.headerEnd, same.totalLength]
    exact slice_inside front rest (by omega)
  have layers := layer_front front rest bounds.least (bounds.inside.trans bounds.most)
  have intact' : ¬Malformed (front ++ rest) := by
    rwa [malformed_front front rest long bounds.most]
  rw [doParse_intact intact', doParse_intact intact, same.protocol, body, layers]
  simp only [leading]

end IpPacket

end

/-- What the parser says of a byte string that fits its buffer. -/
structure Accepts (data : List UInt8) (view : IpPacket) : Prop where
  layer : IpPacket.ErrorOfIp view.parseError ↔ Malformed data
  transport : ¬Malformed data → Unfragmented data →
    (view.parseError = .invalidTransportHeader ↔ Truncated (ipProtocol data) (body data))
  valid : Unfragmented data →
    (view.valid = true ↔ ¬Malformed data ∧ ¬Truncated (ipProtocol data) (body data))
  total : view.valid = true → view.totalLen ≤ data.length
  payload : view.valid = true →
    ∃ offset, view.payload = some offset ∧ offset + view.payloadLen ≤ view.totalLen
  application : view.valid = true →
    ∃ offset size, view.transportData = some (offset, size) ∧ offset + size ≤ view.totalLen

namespace IpPacket

theorem valid_intact {data : List UInt8} (valid : (doParse data).valid = true) : ¬Malformed data := by
  intro refused
  have error := doParse_refused refused
  simp only [IpPacket.valid, decide_eq_true_eq] at valid
  rw [valid] at error
  rcases error with wrong | wrong | wrong | wrong <;> cases wrong

theorem doParse_totalLen {data : List UInt8} (intact : ¬Malformed data) :
    (doParse data).totalLen = totalLength data :=
  (doParse_read intact).same.totalLen.trans (layer_places data).2.2.1

theorem doParse_payload {data : List UInt8} (intact : ¬Malformed data) :
    (doParse data).payload = some (headerEnd data) ∧
      (doParse data).payloadLen = totalLength data - headerEnd data :=
  ⟨(doParse_read intact).same.payload.trans (layer_places data).1,
    (doParse_read intact).same.payloadLen.trans (layer_places data).2.1⟩

theorem doParse_accepts (data : List UInt8) : Accepts data (doParse data) := by
  have fine {error : ParseError} (layer : ErrorOfIp error) :
      error ≠ .none ∧ error ≠ .invalidTransportHeader := by
    rcases layer with rfl | rfl | rfl | rfl <;> decide
  have leading : Unfragmented data → Leading data := by
    intro whole four
    have none_ := whole four
    omega
  by_cases refused : Malformed data
  · have layer := doParse_refused refused
    have unfit : ¬(doParse data).valid = true := fun valid => valid_intact valid refused
    exact ⟨iff_of_true layer refused, fun intact => absurd refused intact,
      fun _ => iff_of_false unfit fun both => both.1 refused,
      fun valid => absurd valid unfit, fun valid => absurd valid unfit,
      fun valid => absurd valid unfit⟩
  · have read := doParse_read refused
    have bounds := bounded refused
    have total := doParse_totalLen refused
    have error : (doParse data).parseError = .none ∨
        (doParse data).parseError = .invalidTransportHeader := by
      rw [read.parseError]
      split
      · exact Or.inr rfl
      · exact Or.inl rfl
    refine ⟨iff_of_false (fun layer => error.elim (fine layer).1 (fine layer).2) refused,
      fun _ whole => ?_, fun whole => ?_, fun _ => total ▸ bounds.most, fun _ => ?_, fun _ => ?_⟩
    · rw [read.parseError]
      simp [leading whole]
    · rw [IpPacket.valid, decide_eq_true_eq, read.parseError]
      simp [leading whole, refused]
    · obtain ⟨payload, payloadLen⟩ := doParse_payload refused
      have inside := bounds.inside
      refine ⟨_, payload, ?_⟩
      rw [payloadLen, total]
      omega
    · rw [total]
      exact read.application bounds

/-- A packet that was accepted is parsed alike with anything behind it. -/
theorem doParse_padded {data : List UInt8} (valid : (doParse data).valid = true)
    (rest : List UInt8) :
    doParse (data.take (doParse data).totalLen ++ rest) = doParse data := by
  have intact := valid_intact valid
  have bounds := bounded intact
  rw [doParse_totalLen intact]
  have length : (data.take (totalLength data)).length = totalLength data := by
    rw [List.length_take]
    exact Nat.min_eq_left bounds.most
  have front : 20 ≤ (data.take (totalLength data)).length := by
    have least := bounds.least
    have inside := bounds.inside
    omega
  have split : data.take (totalLength data) ++ data.drop (totalLength data) = data :=
    List.take_append_drop _ _
  have same := sameFields (data.take (totalLength data)) (data.drop (totalLength data)) front
  have total := same.totalLength
  rw [split] at total
  have intact' : ¬Malformed (data.take (totalLength data)) := by
    rwa [← malformed_front _ (data.drop (totalLength data)) front (by omega), split]
  rw [doParse_front _ rest intact', ← doParse_front _ (data.drop (totalLength data)) intact', split]

end IpPacket

namespace PacketBuilder

theorem copyAndParse_view (p : PacketBuilder) {data : List UInt8}
    (fits : data.length ≤ p.buf.capacity - p.buf.headroom) :
    (p.copyAndParse data).view = IpPacket.doParse data :=
  if_neg (Nat.not_lt.mpr fits)

/-- The bytes stand at the start of the buffer's memory. -/
theorem copyAndParse_memory (p : PacketBuilder) {data : List UInt8}
    (fits : data.length ≤ p.buf.capacity - p.buf.headroom) :
    (p.copyAndParse data).buf.memory = data ++ p.buf.memory.drop data.length := by
  have room : data.length ≤ p.buf.reset.writableSize := fits
  unfold copyAndParse
  dsimp only
  rw [if_neg (Nat.not_lt.mpr room), (PacketBuffer.append_appended room).memory,
    PacketBuffer.reset_size, PacketBuffer.reset_memory, write_start]

/-- The parser accepts what the grammar says, and what stands behind an accepted packet changes
nothing of it. -/
theorem copyAndParse_accepts (p : PacketBuilder) {data : List UInt8}
    (fits : data.length ≤ p.buf.capacity - p.buf.headroom) :
    Accepts data (p.copyAndParse data).view ∧
      ((p.copyAndParse data).view.valid = true → ∀ (other : PacketBuilder) (rest : List UInt8),
        let packet := data.take (p.copyAndParse data).view.totalLen ++ rest
        packet.length ≤ other.buf.capacity - other.buf.headroom →
          (other.copyAndParse packet).view = (p.copyAndParse data).view ∧
            (other.copyAndParse packet).view.payloadBytes (other.copyAndParse packet).buf.memory =
              (p.copyAndParse data).view.payloadBytes (p.copyAndParse data).buf.memory ∧
            (other.copyAndParse packet).view.applicationBytes
                (other.copyAndParse packet).buf.memory =
              (p.copyAndParse data).view.applicationBytes (p.copyAndParse data).buf.memory) := by
  have accepts := IpPacket.doParse_accepts data
  rw [p.copyAndParse_view fits, p.copyAndParse_memory fits]
  refine ⟨accepts, fun valid other rest => ?_⟩
  dsimp only
  intro room
  have same := IpPacket.doParse_padded valid rest
  rw [other.copyAndParse_view room, other.copyAndParse_memory room, same]
  obtain ⟨offset, payload, insidePayload⟩ := accepts.payload valid
  obtain ⟨start, size, application, insideApplication⟩ := accepts.application valid
  have slices (front : List UInt8) (offset len : Nat)
      (inside : offset + len ≤ (IpPacket.doParse data).totalLen) :
      slice (data.take (IpPacket.doParse data).totalLen ++ front) offset len =
        slice (data.take (IpPacket.doParse data).totalLen) offset len := by
    refine slice_inside _ front ?_
    rwa [List.length_take, Nat.min_eq_left (accepts.total valid)]
  have whole (behind : List UInt8) : data ++ behind =
      data.take (IpPacket.doParse data).totalLen ++
        (data.drop (IpPacket.doParse data).totalLen ++ behind) := by
    rw [← List.append_assoc, List.take_append_drop]
  refine ⟨rfl, ?_, ?_⟩
  · unfold IpPacket.payloadBytes
    rw [payload, whole, List.append_assoc]
    exact (slices _ _ _ insidePayload).trans (slices _ _ _ insidePayload).symm
  · unfold IpPacket.applicationBytes
    rw [application, whole, List.append_assoc]
    exact (slices _ _ _ insideApplication).trans (slices _ _ _ insideApplication).symm

/-- An echo request of eight bytes with padding behind it, and the same with other padding in a
buffer that held something else. -/
theorem copyAndParse_accepts_echo :
    let echo : List UInt8 := [0x45, 0, 0, 28, 0, 0, 0, 0, 64, 1, 0, 0, 10, 0, 0, 2, 10, 0, 0, 1,
      8, 0, 0, 0, 0, 7, 0, 1]
    ∃ p ∈ PacketBuilder.new (List.replicate 48 0) 8,
      ∃ other ∈ PacketBuilder.new (List.replicate 64 9) 16,
        Accepts (echo ++ [1, 2, 3]) (p.copyAndParse (echo ++ [1, 2, 3])).view ∧
        (p.copyAndParse (echo ++ [1, 2, 3])).view.valid = true ∧
        (other.copyAndParse (echo ++ [4])).view = (p.copyAndParse (echo ++ [1, 2, 3])).view := by
  intro echo
  let p : PacketBuilder := { buf := ⟨List.replicate 48 0, 8, 0, by decide, by decide⟩ }
  let other : PacketBuilder := { buf := ⟨List.replicate 64 9, 16, 0, by decide, by decide⟩ }
  obtain ⟨accepts, blind⟩ := copyAndParse_accepts p
    (show (echo ++ [1, 2, 3]).length ≤ p.buf.capacity - p.buf.headroom by decide)
  have valid : (p.copyAndParse (echo ++ [1, 2, 3])).view.valid = true := by decide
  have same := (blind valid other [4] (by decide)).1
  have packet : (echo ++ [1, 2, 3]).take (p.copyAndParse (echo ++ [1, 2, 3])).view.totalLen ++ [4] =
      echo ++ [4] := by decide
  rw [packet] at same
  exact ⟨p, rfl, other, rfl, accepts, valid, same⟩

end PacketBuilder

end Tunio
