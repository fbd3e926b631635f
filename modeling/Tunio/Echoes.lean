import Tunio.Splitting
import Tunio.Unpacking

/-!
The echo requests that are answered, and the replies.
-/

namespace Tunio

open Octets

namespace IpGrammar

def source (data : List UInt8) : List UInt8 :=
  if ipVersion data = 4 then slice data 12 4 else slice data 8 16

def destination (data : List UInt8) : List UInt8 :=
  if ipVersion data = 4 then slice data 16 4 else slice data 24 16

/-- A sum that its checksum makes all ones. -/
def Sums (total : Nat) : Prop := 0 < total ∧ total % 65535 = 0

instance (total : Nat) : Decidable (Sums total) := by
  unfold Sums
  infer_instance

/-- An IPv4 header has its checksum; an IPv6 header has none. -/
def HeaderSums (data : List UInt8) : Prop :=
  ipVersion data = 4 → Sums (OnesComplement.sum (data.take (ihl data)))

/-- What the checksum of an ICMP message covers. -/
def icmpSum (data : List UInt8) : Nat := OnesComplement.sum (body data)

/-- That of an ICMPv6 message covers the addresses, the length and the protocol, too. -/
def icmpv6Sum (data : List UInt8) : Nat :=
  OnesComplement.sum (source data) + OnesComplement.sum (destination data) + (body data).length + 58 +
    OnesComplement.sum (body data)

/-- The addresses as the guard looks at them. -/
def addresses (data : List UInt8) : IpPacketInfo :=
  { family := if ipVersion data = 4 then 4 else 6
    srcIp := address (source data)
    dstIp := address (destination data) }

end IpGrammar

open IpGrammar

/-! The echo messages. -/

/-- The echo messages of one version of IP; `covered` is what their checksum covers, and `here` the
address that is asked for. -/
structure EchoKind where
  family : UInt8
  protocol : UInt8
  request : UInt8
  reply : UInt8
  covered : List UInt8 → Nat
  here : LocalAddresses → Option (List UInt8)

namespace EchoKind

def v4 : EchoKind :=
  { family := 4
    protocol := ipProtocolIcmp
    request := 8
    reply := 0
    covered := icmpSum
    here := fun locals => if locals.haveIp4 then some locals.localIp4 else none }

def v6 : EchoKind :=
  { family := 6
    protocol := ipProtocolIcmpv6
    request := 128
    reply := 129
    covered := icmpv6Sum
    here := fun locals => if locals.haveIp6 then some locals.localIp6 else none }

/-- The kind that belongs to the IP version of a packet. -/
def own (data : List UInt8) : EchoKind := if ipVersion data = 4 then v4 else v6

end EchoKind

/-- An echo request that is well formed, whatever the IP version and the destination. -/
structure Asks (kind : EchoKind) (locals : LocalAddresses) (data : List UInt8) : Prop where
  intact : ¬Malformed data
  whole : Unfragmented data
  header : HeaderSums data
  unguarded : guarded locals (addresses data) = false
  protocol : ipProtocol data = kind.protocol
  least : 8 ≤ (body data).length
  type : (body data).getD 0 0 = kind.request
  checksum : Sums (kind.covered data)

/-- An echo request to the engine. -/
def IsEchoRequest (locals : LocalAddresses) (data : List UInt8) : Prop :=
  Asks (.own data) locals data ∧ (EchoKind.own data).here locals = some (destination data)

/-- An echo request of the other IP version, whose destination looks like the engine's own address
of that version: it starts with the IPv4 address, or is the IPv6 address when zeros are put behind
it. -/
def Crossed (locals : LocalAddresses) (data : List UInt8) : Prop :=
  (ipVersion data = 6 ∧ Asks .v4 locals data ∧
      EchoKind.v4.here locals = some ((destination data).take 4)) ∨
    (ipVersion data = 4 ∧ Asks .v6 locals data ∧
      EchoKind.v6.here locals = some (destination data ++ List.replicate 12 0))

/-- The reply of a kind to a request. -/
structure EchoReply (kind : EchoKind) (data reply : List UInt8) : Prop where
  valid : (IpPacket.doParse reply).valid = true
  version : ipVersion reply = kind.family.toNat
  whole : Unfragmented reply
  length : totalLength reply = reply.length
  protocol : ipProtocol reply = kind.protocol
  swapped : source reply = destination data ∧ destination reply = source data
  type : (body reply).getD 0 0 = kind.reply
  code : (body reply).getD 1 0 = (body data).getD 1 0
  rest : (body reply).drop 4 = (body data).drop 4
  header : HeaderSums reply
  checksum : Sums (kind.covered reply)

/-! The handlers. -/

/-- What a handler has built is submitted. -/
def submitReply (result : QueueWriter × Option PacketBuffer) : QueueWriter × List PacketBuffer :=
  match result.2 with
  | none => (result.1, [])
  | some reply => (result.1.asyncWriteAndForget reply, [reply])

/-- `handle_packet` with its two handlers of echo requests, and what they submit.  Segments and
datagrams go to their engines. -/
def handlePacket (w : QueueWriter) (junk : Nat → UInt8) (locals : LocalAddresses)
    (packet : List UInt8) : QueueWriter × List PacketBuffer :=
  match routePacket locals packet with
  | none => (w, [])
  | some delivery =>
      let payload := slice packet delivery.payload delivery.payloadLen
      if delivery.protocol = ipProtocolIcmp then
        submitReply (handleIcmp w junk locals delivery.ip payload)
      else if delivery.protocol = ipProtocolIcmpv6 then
        submitReply (handleIcmpv6 w junk locals delivery.ip payload)
      else (w, [])

/-- A packet is answered if it is an echo request to the engine, with its reply and nothing else. -/
structure EchoAnswers (locals : LocalAddresses) (packet : List UInt8) (w : QueueWriter)
    (result : QueueWriter × List PacketBuffer) : Prop where
  counted : result.1.submitted = w.submitted + result.2.length
  most : result.2.length ≤ 1
  exactly : result.2.length = 1 ↔ IsEchoRequest locals packet
  replies : ∀ reply ∈ result.2, EchoReply (.own packet) packet reply.bytes

/-! The sums. -/

theorem checksumFold_sums {total : Nat} (bound : total < 2 ^ 32) :
    checksumFold total = 0 ↔ Sums total := by
  unfold checksumFold
  rw [OnesComplement.complement_zero (OnesComplement.fold_lt bound), OnesComplement.fold_ones bound]
  exact Iff.rfl

/-- Bytes in sixteen bytes of zeros. -/
theorem address_padded {bytes : List UInt8} (short : bytes.length ≤ 16) :
    (address bytes).toList = bytes ++ List.replicate (16 - bytes.length) 0 := by
  apply List.ext_getElem
  · rw [Vector.length_toList, List.length_append, List.length_replicate]
    omega
  · intro i inside _
    rw [Vector.length_toList] at inside
    rw [Vector.getElem_toList, address_getElem bytes i inside, List.getElem_append]
    split
    · rename_i front
      simp [front]
    · rename_i behind
      simp [behind]

theorem address_sum {bytes : List UInt8} (short : bytes.length ≤ 16) (even : bytes.length % 2 = 0) :
    OnesComplement.sum (address bytes).toList = OnesComplement.sum bytes := by
  rw [address_padded short, OnesComplement.sum_append bytes _ even, OnesComplement.sum_zeros,
    Nat.add_zero]

/-- All the bytes that an IPv6 address has. -/
theorem whole_address (a : Vector UInt8 16) : a.toList.take (addrLen 6) = a.toList := by
  refine List.take_of_length_le ?_
  rw [Vector.length_toList]
  exact Nat.le_refl _

/-! The route. -/

/-- The addresses of a packet whose IP layer is not refused. -/
theorem addresses_length {data : List UInt8} (intact : ¬Malformed data) :
    (source data).length = (if ipVersion data = 4 then 4 else 16) ∧
      (destination data).length = (if ipVersion data = 4 then 4 else 16) := by
  have bounds := IpPacket.bounded intact
  have least := bounds.least
  have inside := bounds.inside
  have most := bounds.most
  unfold source destination
  split
  · exact ⟨slice_length data (by omega), slice_length data (by omega)⟩
  · rename_i six
    rw [headerEnd, if_neg six] at inside
    exact ⟨slice_length data (by omega), slice_length data (by omega)⟩

/-- The packets that come to a handler. -/
structure Routed (locals : LocalAddresses) (data : List UInt8) : Prop where
  intact : ¬Malformed data
  whole : Unfragmented data
  header : HeaderSums data
  plain : ipVersion data = 6 → isExtension (ipProtocol data) = false
  free : guarded locals (addresses data) = false ∧ hasHandler (ipProtocol data) = true

/-- What a handler is called with. -/
def deliveryOf (data : List UInt8) : Delivery :=
  { ip := addresses data
    protocol := ipProtocol data
    payload := headerEnd data
    payloadLen := totalLength data - headerEnd data }

theorem header_sums (data : List UInt8) :
    verifyIpv4Checksum (data.take (ihl data)) = 0 ↔ Sums (OnesComplement.sum (data.take (ihl data))) := by
  have bound := OnesComplement.sum_le (data.take (ihl data))
  have small : ihl data ≤ 60 := by
    unfold ihl
    omega
  have length := List.length_take_le (ihl data) data
  unfold verifyIpv4Checksum checksumSum
  rw [Nat.zero_add]
  exact checksumFold_sums (by omega)

theorem routeV4_reads {data : List UInt8} (four : ipVersion data = 4) (fits : IpPacket.V4Fits data)
    (delivery : Delivery) :
    routeV4 data = some delivery ↔
      (Unfragmented data ∧ HeaderSums data) ∧ delivery = deliveryOf data := by
  have whole : (IpPacket.layerV4 data).fragmented = true ↔ ¬Unfragmented data := by
    refine (fragmented_iff data).trans ?_
    simp [Unfragmented, four]
  have header : verifyIpv4Checksum (data.take (Ipv4Header.read data).headerLen) = 0 ↔
      HeaderSums data := by
    rw [headerLen_v4, header_sums]
    simp [HeaderSums, four]
  have total : (Ipv4Header.read data).totalLen.toNat = pair data 2 := word_toNat data 2
  have made : deliveryOf data = {
      ip := {
        family := 4
        srcIp := (IpPacket.layerV4 data).srcIp
        dstIp := (IpPacket.layerV4 data).dstIp }
      protocol := (IpPacket.layerV4 data).protocol
      payload := (Ipv4Header.read data).headerLen
      payloadLen := (IpPacket.layerV4 data).payloadLen } := by
    have left : (IpPacket.layerV4 data).payloadLen = pair data 2 - ihl data := by
      rw [← total, ← headerLen_v4]
      rfl
    unfold deliveryOf addresses source destination ipProtocol headerEnd totalLength
    simp only [if_pos four]
    rw [left, headerLen_v4]
    rfl
  have refused : ((IpPacket.layerV4 data).fragmented = true ∨
      verifyIpv4Checksum (data.take (Ipv4Header.read data).headerLen) ≠ 0) ↔
        ¬(Unfragmented data ∧ HeaderSums data) := by
    rw [whole, Ne, header, not_and_or]
  rw [routeV4_eq fits, made]
  by_cases fine : Unfragmented data ∧ HeaderSums data
  · rw [if_neg fun bad => refused.mp bad fine, Option.some.injEq]
    exact ⟨fun same => ⟨fine, same.symm⟩, fun both => both.2.symm⟩
  · rw [if_pos (refused.mpr fine)]
    exact iff_of_false nofun fun both => fine both.1

theorem routeV6_reads {data : List UInt8} (six : ¬ipVersion data = 4) (fits : IpPacket.V6Fits data)
    (delivery : Delivery) :
    routeV6 data = some delivery ↔
      isExtension (ipProtocol data) = false ∧ delivery = deliveryOf data := by
  have plen : (Ipv6Header.read data).payloadLen.toNat = pair data 4 := word_toNat data 4
  have made : deliveryOf data = {
      ip := {
        family := 6
        srcIp := (IpPacket.layerV6 data).srcIp
        dstIp := (IpPacket.layerV6 data).dstIp }
      protocol := (IpPacket.layerV6 data).protocol
      payload := 40
      payloadLen := (IpPacket.layerV6 data).payloadLen } := by
    have left : (IpPacket.layerV6 data).payloadLen = pair data 4 := plen
    unfold deliveryOf addresses source destination ipProtocol headerEnd totalLength
    simp only [if_neg six]
    rw [left, Nat.add_sub_cancel_left]
    rfl
  have protocol : (IpPacket.layerV6 data).protocol = ipProtocol data := by
    rw [ipProtocol, if_neg six]
    rfl
  rw [routeV6_eq fits, made, protocol]
  cases plain : isExtension (ipProtocol data) with
  | false => simp [eq_comm]
  | true => simp

/-- The engine routes what the grammar lets through. -/
theorem routePacket_reads (locals : LocalAddresses) (data : List UInt8) (delivery : Delivery) :
    routePacket locals data = some delivery ↔ Routed locals data ∧ delivery = deliveryOf data := by
  rw [routePacket_eq_some, admits_iff]
  constructor
  · rintro ⟨long, free, ⟨four, route⟩ | ⟨six, route⟩⟩
    · have four : ipVersion data = 4 := (version_iff data 4).mp four
      have fits : IpPacket.V4Fits data := by
        by_contra unfit
        rw [routeV4_unfit unfit] at route
        cases route
      obtain ⟨⟨whole, header⟩, rfl⟩ := (routeV4_reads four fits delivery).mp route
      have bounds := (IpPacket.v4Fits_iff data).mp fits
      refine ⟨⟨?_, whole, header, by omega, free⟩, rfl⟩
      intro refused
      cases refused <;> omega
    · have six : ipVersion data = 6 := (version_iff data 6).mp six
      have fits : IpPacket.V6Fits data := by
        by_contra unfit
        rw [routeV6_unfit unfit] at route
        cases route
      obtain ⟨plain, rfl⟩ := (routeV6_reads (by omega) fits delivery).mp route
      have bounds := (IpPacket.v6Fits_iff data).mp fits
      refine ⟨⟨?_, by intro four; omega, by intro four; omega, fun _ => plain, free⟩, rfl⟩
      intro refused
      cases refused <;> omega
  · rintro ⟨routed, rfl⟩
    have bounds := IpPacket.bounded routed.intact
    have long : ¬data.length < 20 := fun short => routed.intact (.short short)
    refine ⟨Nat.not_lt.mp long, routed.free, ?_⟩
    by_cases four : ipVersion data = 4
    · refine Or.inl ⟨(version_iff data 4).mpr four, ?_⟩
      exact (routeV4_reads four (bounds.v4 four) _).mpr ⟨⟨routed.whole, routed.header⟩, rfl⟩
    · obtain ⟨six, fits⟩ := bounds.v6 four
      refine Or.inr ⟨(version_iff data 6).mpr six, ?_⟩
      exact (routeV6_reads four fits _).mpr ⟨routed.plain six, rfl⟩

/-! The tests of the handlers. -/

section

variable (w : QueueWriter) (junk : Nat → UInt8) (locals : LocalAddresses)

theorem handleIcmp_answers (ip : IpPacketInfo) (icmp : List UInt8) :
    (∃ reply, (handleIcmp w junk locals ip icmp).2 = some reply) ↔
      (locals.haveIp4 = true ∧ 8 ≤ icmp.length) ∧
        (ip.dstIp.toList.take 4 = locals.localIp4 ∧ icmp.getD 0 0 = 8) ∧ ipChecksum icmp = 0 := by
  unfold handleIcmp
  constructor
  · rintro ⟨reply, made⟩
    split at made
    · cases made
    · rename_i long
      split at made
      · cases made
      · rename_i mine
        split at made
        · cases made
        · rename_i sums
          exact ⟨by simpa using long, by simpa using mine, not_not.mp sums⟩
  · rintro ⟨⟨here, long⟩, ⟨mine, type⟩, sums⟩
    obtain ⟨pkt, buffer⟩ := w.buffer_made junk (show 0 < 20 + icmp.length by omega) (Nat.le_refl _)
    rw [if_neg (not_or.mpr ⟨not_not.mpr here, Nat.not_lt.mpr long⟩),
      if_neg (not_or.mpr ⟨not_not.mpr mine, not_not.mpr type⟩), if_neg (not_not.mpr sums)]
    dsimp only
    rw [buffer]
    exact ⟨_, rfl⟩

theorem handleIcmpv6_answers (ip : IpPacketInfo) (icmp : List UInt8) :
    (∃ reply, (handleIcmpv6 w junk locals ip icmp).2 = some reply) ↔
      (locals.haveIp6 = true ∧ 8 ≤ icmp.length) ∧
        (ip.dstIp.toList = locals.localIp6 ∧ icmp.getD 0 0 = 128) ∧
          tcpUdpChecksum 6 ip.srcIp ip.dstIp ipProtocolIcmpv6 icmp = 0 := by
  unfold handleIcmpv6
  constructor
  · rintro ⟨reply, made⟩
    split at made
    · cases made
    · rename_i long
      split at made
      · cases made
      · rename_i mine
        split at made
        · cases made
        · rename_i sums
          exact ⟨by simpa using long, by simpa using mine, not_not.mp sums⟩
  · rintro ⟨⟨here, long⟩, ⟨mine, type⟩, sums⟩
    obtain ⟨pkt, buffer⟩ := w.buffer_made junk (show 0 < 40 + icmp.length by omega) (Nat.le_refl _)
    rw [if_neg (not_or.mpr ⟨not_not.mpr here, Nat.not_lt.mpr long⟩),
      if_neg (not_or.mpr ⟨not_not.mpr mine, not_not.mpr type⟩), if_neg (not_not.mpr sums)]
    dsimp only
    rw [buffer]
    exact ⟨_, rfl⟩

end

/-- The request that the handler of a kind answers: it looks at the address as it stands in sixteen
bytes. -/
def Accepted (kind : EchoKind) (locals : LocalAddresses) (data : List UInt8) : Prop :=
  Asks kind locals data ∧
    kind.here locals = some ((address (destination data)).toList.take (addrLen kind.family))

theorem body_short {data : List UInt8} (intact : ¬Malformed data) :
    headerEnd data + (body data).length = totalLength data ∧ (body data).length ≤ 65535 ∧
      (ipVersion data = 4 → 20 + (body data).length ≤ 65535) := by
  have bounds := IpPacket.bounded intact
  have least := bounds.least
  have inside := bounds.inside
  have most := bounds.most
  have length : (body data).length = totalLength data - headerEnd data :=
    slice_length data (by omega)
  have field (i : Nat) : pair data i < 65536 := by
    rw [← word_toNat]
    exact (word data i).toNat_lt
  have total : totalLength data = if ipVersion data = 4 then pair data 2 else 40 + pair data 4 := rfl
  have ends : headerEnd data = if ipVersion data = 4 then ihl data else 40 := rfl
  have two := field 2
  have four := field 4
  split at total <;> split at ends <;> omega

theorem icmp_sums {data : List UInt8} (intact : ¬Malformed data) :
    ipChecksum (body data) = 0 ↔ Sums (icmpSum data) := by
  have bound := OnesComplement.sum_le (body data)
  have short := (body_short intact).2.1
  unfold ipChecksum checksumSum
  rw [Nat.zero_add]
  exact checksumFold_sums (by omega)

theorem icmpv6_sums {data : List UInt8} (intact : ¬Malformed data) :
    tcpUdpChecksum 6 (addresses data).srcIp (addresses data).dstIp ipProtocolIcmpv6 (body data) = 0 ↔
      Sums (icmpv6Sum data) := by
  have bound := OnesComplement.sum_le (body data)
  have srcBound := OnesComplement.sum_le (source data)
  have dstBound := OnesComplement.sum_le (destination data)
  have short := (body_short intact).2.1
  obtain ⟨srcLength, dstLength⟩ := addresses_length intact
  have srcSum : OnesComplement.sum (address (source data)).toList = OnesComplement.sum (source data) := by
    refine address_sum ?_ ?_ <;> split at srcLength <;> omega
  have dstSum : OnesComplement.sum (address (destination data)).toList =
      OnesComplement.sum (destination data) := by
    refine address_sum ?_ ?_ <;> split at dstLength <;> omega
  have total : tcpUdpChecksum 6 (addresses data).srcIp (addresses data).dstIp ipProtocolIcmpv6
      (body data) = checksumFold (icmpv6Sum data) := by
    unfold tcpUdpChecksum checksumSum icmpv6Sum
    dsimp only
    rw [whole_address, whole_address, show (addresses data).srcIp = address (source data) from rfl,
      show (addresses data).dstIp = address (destination data) from rfl, srcSum, dstSum,
      show ipProtocolIcmpv6.toNat = 58 from rfl, Nat.mod_eq_of_lt (by omega)]
    refine congrArg checksumFold ?_
    omega
  rw [total]
  refine checksumFold_sums ?_
  unfold icmpv6Sum
  split at srcLength <;> split at dstLength <;> omega

theorem EchoKind.v4_here (locals : LocalAddresses) (bytes : List UInt8) :
    EchoKind.v4.here locals = some bytes ↔ locals.haveIp4 = true ∧ bytes = locals.localIp4 := by
  change (if locals.haveIp4 = true then some locals.localIp4 else none) = some bytes ↔ _
  cases locals.haveIp4 with
  | false => simp
  | true => simp [eq_comm]

theorem EchoKind.v6_here (locals : LocalAddresses) (bytes : List UInt8) :
    EchoKind.v6.here locals = some bytes ↔ locals.haveIp6 = true ∧ bytes = locals.localIp6 := by
  change (if locals.haveIp6 = true then some locals.localIp6 else none) = some bytes ↔ _
  cases locals.haveIp6 with
  | false => simp
  | true => simp [eq_comm]

section

variable {locals : LocalAddresses} {data : List UInt8}

/-- A request of either kind comes to a handler. -/
theorem Asks.routed {kind : EchoKind} (icmp : IsIcmp kind.protocol) (asks : Asks kind locals data) :
    Routed locals data := by
  have protocol : IsIcmp (ipProtocol data) := asks.protocol ▸ icmp
  refine ⟨asks.intact, asks.whole, asks.header, fun _ => ?_, asks.unguarded, ?_⟩
  · rcases protocol with same | same <;> rw [same] <;> decide
  · rcases protocol with same | same <;> rw [same] <;> decide

theorem handled_v4 (routed : Routed locals data) (protocol : ipProtocol data = ipProtocolIcmp)
    (w : QueueWriter) (junk : Nat → UInt8) :
    (∃ reply, (handleIcmp w junk locals (addresses data) (body data)).2 = some reply) ↔
      Accepted .v4 locals data := by
  rw [handleIcmp_answers, icmp_sums routed.intact, Accepted, EchoKind.v4_here]
  constructor
  · rintro ⟨⟨here, long⟩, ⟨mine, type⟩, sums⟩
    exact ⟨⟨routed.intact, routed.whole, routed.header, routed.free.1, protocol, long, type, sums⟩,
      here, mine⟩
  · rintro ⟨asks, here, mine⟩
    exact ⟨⟨here, asks.least⟩, ⟨mine, asks.type⟩, asks.checksum⟩

theorem handled_v6 (routed : Routed locals data) (protocol : ipProtocol data = ipProtocolIcmpv6)
    (w : QueueWriter) (junk : Nat → UInt8) :
    (∃ reply, (handleIcmpv6 w junk locals (addresses data) (body data)).2 = some reply) ↔
      Accepted .v6 locals data := by
  have whole : (address (destination data)).toList.take (addrLen EchoKind.v6.family) =
      (address (destination data)).toList := whole_address _
  rw [handleIcmpv6_answers, icmpv6_sums routed.intact, Accepted, EchoKind.v6_here, whole]
  constructor
  · rintro ⟨⟨here, long⟩, ⟨mine, type⟩, sums⟩
    exact ⟨⟨routed.intact, routed.whole, routed.header, routed.free.1, protocol, long, type, sums⟩,
      here, mine⟩
  · rintro ⟨asks, here, mine⟩
    exact ⟨⟨here, asks.least⟩, ⟨mine, asks.type⟩, asks.checksum⟩

/-- The destination as the two handlers see it. -/
theorem seen_v4 (intact : ¬Malformed data) (four : ipVersion data = 4) :
    (address (destination data)).toList.take 4 = destination data ∧
      (address (destination data)).toList.take 16 = destination data ++ List.replicate 12 0 := by
  have length := (addresses_length intact).2
  rw [if_pos four] at length
  rw [address_padded (by omega), length]
  refine ⟨List.take_left' length, List.take_of_length_le ?_⟩
  rw [List.length_append, length, List.length_replicate]

theorem seen_v6 (intact : ¬Malformed data) (six : ¬ipVersion data = 4) :
    (address (destination data)).toList.take 4 = (destination data).take 4 ∧
      (address (destination data)).toList.take 16 = destination data := by
  have length := (addresses_length intact).2
  rw [if_neg six] at length
  rw [address_padded (by omega), length, Nat.sub_self, List.replicate_zero, List.append_nil]
  exact ⟨rfl, List.take_of_length_le (Nat.le_of_eq length)⟩

/-- What is handled is a request to the engine or a crossed one. -/
theorem handled_iff : Accepted .v4 locals data ∨ Accepted .v6 locals data ↔
    IsEchoRequest locals data ∨ Crossed locals data := by
  unfold Accepted IsEchoRequest Crossed EchoKind.own
  by_cases four : ipVersion data = 4
  · simp only [four, ↓reduceIte, true_and, Nat.reduceEqDiff, false_and, false_or]
    refine or_congr ?_ ?_
    · refine and_congr_right fun asks => ?_
      rw [show addrLen EchoKind.v4.family = 4 from rfl, (seen_v4 asks.intact four).1]
    · refine and_congr_right fun asks => ?_
      rw [show addrLen EchoKind.v6.family = 16 from rfl, (seen_v4 asks.intact four).2]
  · simp only [four, ↓reduceIte, false_and, or_false]
    rw [or_comm]
    refine or_congr ?_ ?_
    · refine and_congr_right fun asks => ?_
      rw [show addrLen EchoKind.v6.family = 16 from rfl, (seen_v6 asks.intact four).2]
    · constructor
      · rintro ⟨asks, here⟩
        rw [show addrLen EchoKind.v4.family = 4 from rfl, (seen_v6 asks.intact four).1] at here
        exact ⟨((IpPacket.bounded asks.intact).v6 four).1, asks, here⟩
      · rintro ⟨_, asks, here⟩
        rw [show addrLen EchoKind.v4.family = 4 from rfl, (seen_v6 asks.intact four).1]
        exact ⟨asks, here⟩

/-- No request is crossed. -/
theorem IsEchoRequest.straight (request : IsEchoRequest locals data) : ¬Crossed locals data := by
  have protocol := request.1.protocol
  rintro (⟨six, asks, _⟩ | ⟨four, asks, _⟩)
  · have own : EchoKind.own data = .v6 := if_neg (by omega)
    rw [own, asks.protocol] at protocol
    cases protocol
  · have own : EchoKind.own data = .v4 := if_pos four
    rw [own, asks.protocol] at protocol
    cases protocol

end

/-! What is submitted. -/

namespace QueueWriter

theorem startWrite_submitted (w : QueueWriter) (q : Nat) :
    (w.startWrite q).submitted = w.submitted := by
  unfold startWrite
  dsimp only
  split <;> rfl

theorem pump_submitted (w : QueueWriter) (q : Nat) : (w.pump q).submitted = w.submitted := by
  unfold pump
  dsimp only
  split
  · rfl
  · split
    · rfl
    · exact startWrite_submitted _ q

theorem asyncWriteAndForget_submitted (w : QueueWriter) (buf : PacketBuffer) :
    (w.asyncWriteAndForget buf).submitted = w.submitted + 1 := by
  unfold asyncWriteAndForget
  dsimp only
  split
  · rfl
  · exact pump_submitted _ _

end QueueWriter

/-- What a handler of requests of a kind submits. -/
structure Submits (kind : EchoKind) (locals : LocalAddresses) (data bytes : List UInt8) (w : QueueWriter)
    (result : QueueWriter × List PacketBuffer) : Prop where
  counted : result.1.submitted = w.submitted + result.2.length
  most : result.2.length ≤ 1
  exactly : result.2.length = 1 ↔ Accepted kind locals data
  bytes : ∀ reply ∈ result.2, reply.bytes = bytes

theorem submitReply_submits {kind : EchoKind} {locals : LocalAddresses} {data bytes : List UInt8}
    {w : QueueWriter} {result : QueueWriter × Option PacketBuffer}
    (kept : result.1.submitted = w.submitted)
    (handled : (∃ reply, result.2 = some reply) ↔ Accepted kind locals data)
    (built : ∀ reply, result.2 = some reply → reply.bytes = bytes) :
    Submits kind locals data bytes w (submitReply result) := by
  unfold submitReply
  split
  · rename_i silent
    rw [silent] at handled
    exact ⟨kept, Nat.zero_le _, by rw [← handled]; simp, nofun⟩
  · rename_i reply made
    refine ⟨?_, Nat.le_refl _, iff_of_true rfl (handled.mp ⟨reply, made⟩), ?_⟩
    · rw [QueueWriter.asyncWriteAndForget_submitted, kept]
      rfl
    · intro other member
      rw [List.mem_singleton.mp member]
      exact built reply made

theorem handleIcmp_submitted (w : QueueWriter) (junk : Nat → UInt8) (locals : LocalAddresses)
    (ip : IpPacketInfo) (icmp : List UInt8) :
    (handleIcmp w junk locals ip icmp).1.submitted = w.submitted := by
  unfold handleIcmp
  split
  · rfl
  · split
    · rfl
    · split
      · rfl
      · dsimp only
        split <;> rfl

theorem handleIcmpv6_submitted (w : QueueWriter) (junk : Nat → UInt8) (locals : LocalAddresses)
    (ip : IpPacketInfo) (icmp : List UInt8) :
    (handleIcmpv6 w junk locals ip icmp).1.submitted = w.submitted := by
  unfold handleIcmpv6
  split
  · rfl
  · split
    · rfl
    · split
      · rfl
      · dsimp only
        split <;> rfl

section

variable (w : QueueWriter) (junk : Nat → UInt8) (locals : LocalAddresses) (packet : List UInt8)

theorem handlePacket_routed {locals : LocalAddresses} {packet : List UInt8}
    (routed : Routed locals packet) :
    handlePacket w junk locals packet =
      if ipProtocol packet = ipProtocolIcmp then
        submitReply (handleIcmp w junk locals (addresses packet) (body packet))
      else if ipProtocol packet = ipProtocolIcmpv6 then
        submitReply (handleIcmpv6 w junk locals (addresses packet) (body packet))
      else (w, []) := by
  unfold handlePacket
  rw [(routePacket_reads locals packet (deliveryOf packet)).mpr ⟨routed, rfl⟩]
  rfl

theorem handlePacket_unrouted {locals : LocalAddresses} {packet : List UInt8}
    (unrouted : ¬Routed locals packet) : handlePacket w junk locals packet = (w, []) := by
  unfold handlePacket
  cases route : routePacket locals packet with
  | none => rfl
  | some delivery => exact absurd ((routePacket_reads locals packet delivery).mp route).1 unrouted

/-- A packet is handled by the handler of its protocol or by none. -/
theorem handlePacket_cases :
    (ipProtocol packet = ipProtocolIcmp ∧ Submits .v4 locals packet
        (echoPacket 4 (addresses packet) ipProtocolIcmp (body packet) 0 (w.ipId + 1) ipChecksum) w
        (handlePacket w junk locals packet)) ∨
      (ipProtocol packet = ipProtocolIcmpv6 ∧ Submits .v6 locals packet
        (echoPacket 6 (addresses packet) ipProtocolIcmpv6 (body packet) 129 0
          (tcpUdpChecksum 6 (addresses packet).dstIp (addresses packet).srcIp ipProtocolIcmpv6)) w
        (handlePacket w junk locals packet)) ∨
      (handlePacket w junk locals packet = (w, []) ∧ ¬Accepted .v4 locals packet ∧
        ¬Accepted .v6 locals packet) := by
  by_cases routed : Routed locals packet
  · rw [handlePacket_routed w junk routed]
    by_cases icmp : ipProtocol packet = ipProtocolIcmp
    · rw [if_pos icmp]
      refine Or.inl ⟨icmp, submitReply_submits ?_ ?_ ?_⟩
      · exact handleIcmp_submitted w junk locals _ _
      · exact handled_v4 routed icmp w junk
      · exact fun reply made => handleIcmp_bytes made
    · rw [if_neg icmp]
      by_cases icmpv6 : ipProtocol packet = ipProtocolIcmpv6
      · rw [if_pos icmpv6]
        refine Or.inr (Or.inl ⟨icmpv6, submitReply_submits ?_ ?_ ?_⟩)
        · exact handleIcmpv6_submitted w junk locals _ _
        · exact handled_v6 routed icmpv6 w junk
        · exact fun reply made => handleIcmpv6_bytes made
      · rw [if_neg icmpv6]
        refine Or.inr (Or.inr ⟨rfl, fun handled => ?_, fun handled => ?_⟩)
        · exact icmp handled.1.protocol
        · exact icmpv6 handled.1.protocol
  · refine Or.inr (Or.inr ⟨handlePacket_unrouted w junk routed, fun handled => ?_, fun handled => ?_⟩)
    · exact routed (handled.1.routed (Or.inl rfl))
    · exact routed (handled.1.routed (Or.inr rfl))

end

/-! The replies. -/

/-- A packet with a header of the engine's. -/
structure Framed (family protocol : UInt8) (src dst : Vector UInt8 16) (segment packet : List UInt8) :
    Prop where
  intact : ¬Malformed packet
  version : ipVersion packet = family.toNat
  whole : Unfragmented packet
  length : totalLength packet = packet.length
  protocol : ipProtocol packet = protocol
  body : body packet = segment
  source : IpGrammar.source packet = src.toList.take (addrLen family)
  destination : IpGrammar.destination packet = dst.toList.take (addrLen family)
  header : HeaderSums packet

theorem framed_v4 (src dst : Vector UInt8 16) (protocol : UInt8) (id : UInt16) (segment : List UInt8)
    (small : 20 + segment.length ≤ 65535) :
    Framed 4 protocol src dst segment
      (ipHeader 4 src dst protocol (20 + segment.length) id ++ segment) := by
  obtain ⟨packet, named⟩ : ∃ packet, packet = ipv4Header (UInt16.ofNat (20 + segment.length)) id 0x4000
      kDefaultTtl protocol src dst ++ segment := ⟨_, rfl⟩
  have carries := built_carries id 0x4000 kDefaultTtl protocol src dst segment small
  obtain ⟨version, ihlEq, total, bits, protocolEq, _⟩ := ipv4Header_grammar
    (UInt16.ofNat (20 + segment.length)) id 0x4000 kDefaultTtl protocol src dst segment
  obtain ⟨srcBytes, dstBytes⟩ := ipv4_addresses (UInt16.ofNat (20 + segment.length)) id 0x4000
    kDefaultTtl protocol src dst segment
  change Framed 4 protocol src dst segment (ipv4Header _ _ _ _ _ _ _ ++ segment)
  have front : packet.take 20 = ipv4Header (UInt16.ofNat (20 + segment.length)) id 0x4000
      kDefaultTtl protocol src dst := by
    rw [named]
    exact List.take_left' (ipv4Header_length ..)
  have length : packet.length = 20 + segment.length := by
    rw [named, List.length_append, ipv4Header_length]
  rw [← named] at carries version ihlEq total bits protocolEq srcBytes dstBytes ⊢
  rw [toNat_ofNat small] at total
  refine ⟨carries.intact, version, fun _ => ?_, ?_, protocolEq, carries.body, ?_, ?_, fun _ => ?_⟩
  · rw [bits]
    decide
  · rw [totalLength, if_pos version, total, length]
  · rw [IpGrammar.source, if_pos version, srcBytes]
    rfl
  · rw [IpGrammar.destination, if_pos version, dstBytes]
    rfl
  · rw [← header_sums, ihlEq, front]
    exact ipv4Header_verifies ..

theorem framed_v6 (src dst : Vector UInt8 16) (protocol : UInt8) (id : UInt16) (segment : List UInt8)
    (small : segment.length ≤ 65535) :
    Framed 6 protocol src dst segment
      (ipHeader 6 src dst protocol (40 + segment.length) id ++ segment) := by
  obtain ⟨packet, named⟩ : ∃ packet, packet = ipv6Header (40 + segment.length) protocol src dst ++
      segment := ⟨_, rfl⟩
  change Framed 6 protocol src dst segment (ipv6Header _ _ _ _ ++ segment)
  obtain ⟨plen, next, _, _⟩ := Ipv6Header.read_built (40 + segment.length) protocol src dst segment
  obtain ⟨srcBytes, dstBytes⟩ := ipv6_addresses (40 + segment.length) protocol src dst segment
  have length : packet.length = 40 + segment.length := by
    rw [named, List.length_append, ipv6Header_length]
  have version : ipVersion packet = 6 := by
    rw [named]
    change (UInt8.ofNat ((UInt16.ofNat ((0x60000000 : UInt32).toNat / 65536)).toNat / 256)).toNat /
      16 = 6
    decide
  have behind : packet.drop 40 = segment := by
    rw [named]
    exact List.drop_left' (ipv6Header_length ..)
  rw [← named] at plen next srcBytes dstBytes ⊢
  have other : ¬ipVersion packet = 4 := by omega
  have plen : pair packet 4 = segment.length := by
    rw [← word_toNat]
    refine (congrArg UInt16.toNat plen).trans ?_
    rw [Nat.add_sub_cancel_left, toNat_ofNat small]
  have ends : headerEnd packet = 40 := if_neg other
  have total : totalLength packet = 40 + segment.length := by
    rw [totalLength, if_neg other, plen]
  refine ⟨?_, version, fun four => absurd four other, total.trans length.symm, ?_, ?_, ?_, ?_,
    fun four => absurd four other⟩
  · intro refused
    cases refused <;> omega
  · rw [ipProtocol, if_neg other]
    exact next
  · rw [body, ends, total, Nat.add_sub_cancel_left, slice, behind, List.take_length]
  · rw [IpGrammar.source, if_neg other, srcBytes, whole_address]
  · rw [IpGrammar.destination, if_neg other, dstBytes, whole_address]

/-- The message of a reply in a packet of its own. -/
theorem framed_reply {kind : EchoKind} {src dst : Vector UInt8 16} {data packet : List UInt8}
    {checksum : UInt16} (icmp : IsIcmp kind.protocol) (least : 8 ≤ (body data).length)
    (framed : Framed kind.family kind.protocol src dst (echoBytes (body data) kind.reply checksum) packet)
    (swapped : src.toList.take (addrLen kind.family) = destination data ∧
      dst.toList.take (addrLen kind.family) = source data)
    (sums : Sums (kind.covered packet)) : EchoReply kind data packet := by
  have length := echoBytes_length (show 4 ≤ (body data).length by omega) kind.reply checksum
  have long : ¬Truncated (ipProtocol packet) (body packet) := by
    rw [framed.protocol, framed.body, truncated_icmp icmp, length]
    omega
  refine ⟨((IpPacket.doParse_accepts packet).valid framed.whole).mpr ⟨framed.intact, long⟩,
    framed.version, framed.whole, framed.length, framed.protocol,
    ⟨framed.source.trans swapped.1, framed.destination.trans swapped.2⟩, ?_, ?_, ?_, framed.header,
    sums⟩
  · rw [framed.body]
    rfl
  · rw [framed.body]
    rfl
  · rw [framed.body]
    rfl

section

variable {data : List UInt8}

theorem address_back {bytes : List UInt8} {n : Nat} (length : bytes.length = n) (short : n ≤ 16) :
    (address bytes).toList.take n = bytes := by
  rw [address_padded (by omega)]
  exact List.take_left' length

theorem reply_v4 (intact : ¬Malformed data) (four : ipVersion data = 4) (least : 8 ≤ (body data).length)
    (id : UInt16) :
    EchoReply .v4 data
      (echoPacket 4 (addresses data) ipProtocolIcmp (body data) 0 id ipChecksum) := by
  obtain ⟨srcLength, dstLength⟩ := addresses_length intact
  rw [if_pos four] at srcLength dstLength
  have short := (body_short intact).2.2 four
  obtain ⟨checksum, summed⟩ : ∃ checksum, checksum = ipChecksum (echoBytes (body data) 0 0) := ⟨_, rfl⟩
  have length := echoBytes_length (show 4 ≤ (body data).length by omega) 0 checksum
  have framed := framed_v4 (addresses data).dstIp (addresses data).srcIp ipProtocolIcmp id
    (echoBytes (body data) 0 checksum) (by omega)
  rw [length] at framed
  have packet : echoPacket 4 (addresses data) ipProtocolIcmp (body data) 0 id ipChecksum =
      ipHeader 4 (addresses data).dstIp (addresses data).srcIp ipProtocolIcmp
        (20 + (body data).length) id ++ echoBytes (body data) 0 checksum := by
    rw [summed]
    rfl
  rw [packet]
  refine framed_reply (Or.inl rfl) least framed ⟨?_, ?_⟩ ?_
  · exact address_back dstLength (by decide)
  · exact address_back srcLength (by decide)
  · obtain ⟨total, bound, eq⟩ := ipChecksum_word [0, (body data).getD 1 0] ((body data).drop 4) (by simp) (by
      simp only [List.length_cons, List.length_nil, List.length_drop]
      omega)
    refine (icmp_sums framed.intact).mp ?_
    rw [framed.body, summed]
    have plain : ipChecksum (echoBytes (body data) 0 0) =
        OnesComplement.complement (OnesComplement.fold 2 total) := eq 0
    rw [plain]
    exact (eq _).trans (OnesComplement.verifies bound)

theorem reply_v6 (intact : ¬Malformed data) (six : ¬ipVersion data = 4) (least : 8 ≤ (body data).length) :
    EchoReply .v6 data
      (echoPacket 6 (addresses data) ipProtocolIcmpv6 (body data) 129 0
        (tcpUdpChecksum 6 (addresses data).dstIp (addresses data).srcIp ipProtocolIcmpv6)) := by
  obtain ⟨srcLength, dstLength⟩ := addresses_length intact
  rw [if_neg six] at srcLength dstLength
  have short := (body_short intact).2.1
  obtain ⟨src, srcEq⟩ : ∃ src, src = (addresses data).dstIp := ⟨_, rfl⟩
  obtain ⟨dst, dstEq⟩ : ∃ dst, dst = (addresses data).srcIp := ⟨_, rfl⟩
  rw [← srcEq, ← dstEq]
  obtain ⟨checksum, summed⟩ : ∃ checksum, checksum =
      tcpUdpChecksum 6 src dst ipProtocolIcmpv6 (echoBytes (body data) 129 0) := ⟨_, rfl⟩
  have length := echoBytes_length (show 4 ≤ (body data).length by omega) 129 checksum
  have framed := framed_v6 src dst ipProtocolIcmpv6 0 (echoBytes (body data) 129 checksum) (by omega)
  rw [length] at framed
  have packet : echoPacket 6 (addresses data) ipProtocolIcmpv6 (body data) 129 0
      (tcpUdpChecksum 6 src dst ipProtocolIcmpv6) =
      ipHeader 6 src dst ipProtocolIcmpv6 (40 + (body data).length) 0 ++
        echoBytes (body data) 129 checksum := by
    rw [summed, srcEq, dstEq]
    rfl
  rw [packet]
  refine framed_reply (Or.inr rfl) least framed ⟨?_, ?_⟩ ?_
  · rw [srcEq]
    exact address_back dstLength (Nat.le_refl _)
  · rw [dstEq]
    exact address_back srcLength (Nat.le_refl _)
  · obtain ⟨total, bound, eq⟩ := tcpUdpChecksum_word 6 src dst ipProtocolIcmpv6
      [129, (body data).getD 1 0] ((body data).drop 4) (by simp) (by
        simp only [List.length_cons, List.length_nil, List.length_drop]
        omega)
    refine (icmpv6_sums framed.intact).mp ?_
    have back (a : Vector UInt8 16) : address (a.toList.take (addrLen 6)) = a := by
      rw [whole_address, address_toList]
    rw [framed.body, addresses]
    dsimp only
    rw [framed.source, framed.destination, back, back, summed]
    have plain : tcpUdpChecksum 6 src dst ipProtocolIcmpv6 (echoBytes (body data) 129 0) =
        OnesComplement.complement (OnesComplement.fold 2 total) := eq 0
    rw [plain]
    exact (eq _).trans (OnesComplement.verifies bound)

end

section

variable (w : QueueWriter) (junk : Nat → UInt8) (locals : LocalAddresses) (packet : List UInt8)

theorem handlePacket_asked :
    (handlePacket w junk locals packet).1.submitted =
        w.submitted + (handlePacket w junk locals packet).2.length ∧
      (handlePacket w junk locals packet).2.length ≤ 1 ∧
      ((handlePacket w junk locals packet).2.length = 1 ↔
        IsEchoRequest locals packet ∨ Crossed locals packet) := by
  rw [← handled_iff]
  rcases handlePacket_cases w junk locals packet with ⟨icmp, submits⟩ | ⟨icmpv6, submits⟩ |
    ⟨silent, notV4, notV6⟩
  · have other : ¬Accepted .v6 locals packet := by
      intro handled
      have protocol := handled.1.protocol
      rw [icmp] at protocol
      cases protocol
    exact ⟨submits.counted, submits.most, submits.exactly.trans (or_iff_left other).symm⟩
  · have other : ¬Accepted .v4 locals packet := by
      intro handled
      have protocol := handled.1.protocol
      rw [icmpv6] at protocol
      cases protocol
    exact ⟨submits.counted, submits.most, submits.exactly.trans (or_iff_right other).symm⟩
  · rw [silent]
    exact ⟨rfl, Nat.zero_le _, iff_of_false nofun fun handled => handled.elim notV4 notV6⟩

/-- What is submitted for a request to the engine. -/
theorem handlePacket_replies {locals : LocalAddresses} {packet : List UInt8}
    (request : IsEchoRequest locals packet) :
    ∀ reply ∈ (handlePacket w junk locals packet).2,
      EchoReply (.own packet) packet reply.bytes := by
  obtain ⟨asks, _⟩ := request
  have protocol := asks.protocol
  intro reply member
  by_cases four : ipVersion packet = 4
  · have own : EchoKind.own packet = .v4 := if_pos four
    rw [own] at protocol ⊢
    rcases handlePacket_cases w junk locals packet with ⟨_, submits⟩ | ⟨icmpv6, _⟩ | ⟨silent, _⟩
    · rw [submits.bytes reply member]
      exact reply_v4 asks.intact four asks.least _
    · rw [icmpv6] at protocol
      cases protocol
    · rw [silent] at member
      exact absurd member List.not_mem_nil
  · have own : EchoKind.own packet = .v6 := if_neg four
    rw [own] at protocol ⊢
    rcases handlePacket_cases w junk locals packet with ⟨icmp, _⟩ | ⟨_, submits⟩ | ⟨silent, _⟩
    · rw [icmp] at protocol
      cases protocol
    · rw [submits.bytes reply member]
      exact reply_v6 asks.intact four asks.least
    · rw [silent] at member
      exact absurd member List.not_mem_nil

/-- A packet is answered as it should be unless it is crossed. -/
theorem handlePacket_answers :
    EchoAnswers locals packet w (handlePacket w junk locals packet) ↔ ¬Crossed locals packet := by
  obtain ⟨counted, most, asked⟩ := handlePacket_asked w junk locals packet
  constructor
  · intro answers crossed
    have request := answers.exactly.mp (asked.mpr (Or.inr crossed))
    exact request.straight crossed
  · intro straight
    rw [or_iff_left straight] at asked
    refine ⟨counted, most, asked, fun reply member => ?_⟩
    have some_ := List.length_pos_of_mem member
    exact handlePacket_replies w junk (asked.mp (by omega)) reply member

end

/-- A request of 9 bytes of ICMP, and its reply. -/
example : (handlePacket { queueCount := 1 } (fun _ => 7)
    { haveIp4 := true, localIp4 := [10, 0, 0, 1] }
    [0x45, 0, 0, 29, 0, 5, 0x40, 0, 64, 1, 0x26, 0xd9, 10, 0, 0, 2, 10, 0, 0, 1,
      8, 0, 0xcd, 0xf7, 0, 7, 0, 1, 0x2a]).2.map PacketBuffer.bytes =
    [[0x45, 0, 0, 29, 0, 1, 0x40, 0, 64, 1, 0x26, 0xdd, 10, 0, 0, 1, 10, 0, 0, 2,
      0, 0, 0xd5, 0xf7, 0, 7, 0, 1, 0x2a]] := by decide +kernel

/-- An IPv6 packet with an ICMP message, to an address that starts with the bytes of the engine's
IPv4 address.  It is answered with an IPv4 packet to the first bytes of the IPv6 source. -/
theorem handlePacket_answers_crossed : ∃ locals : LocalAddresses, ∃ packet : List UInt8,
    ¬EchoAnswers locals packet { queueCount := 1 }
      (handlePacket { queueCount := 1 } (fun _ => 0) locals packet) := by
  let locals : LocalAddresses := { haveIp4 := true, localIp4 := [0x20, 0x01, 0x0d, 0xb8] }
  let packet : List UInt8 := [0x60, 0, 0, 0, 0, 8, 1, 64,
    0x20, 0x01, 0x0d, 0xb8, 0, 0, 0, 0, 0, 0, 0, 0, 0, 0, 0, 2,
    0x20, 0x01, 0x0d, 0xb8, 0, 0, 0, 0, 0, 0, 0, 0, 0, 0, 0, 1,
    8, 0, 0xf7, 0xfe, 0, 0, 0, 1]
  refine ⟨locals, packet, fun answers => ?_⟩
  have submitted : (handlePacket { queueCount := 1 } (fun _ => 0) locals packet).2.length = 1 := by
    decide +kernel
  obtain ⟨asks, _⟩ := answers.exactly.mp submitted
  have protocol := asks.protocol
  revert protocol
  decide

end Tunio
