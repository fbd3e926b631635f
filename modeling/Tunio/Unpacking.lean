import Tunio.Packing

/-!
What the parser reads in the bytes that `finalize` leaves.
-/

namespace Tunio

open Octets

/-- A plain checksum over a header, a word and what is behind it is a sum to which the word is
added. -/
theorem ipChecksum_word (front rest : List UInt8) (even : front.length % 2 = 0)
    (small : front.length + 2 + rest.length ≤ 65535) :
    ∃ total, total + 65535 < 2 ^ 32 ∧ ∀ checksum : UInt16,
      ipChecksum (front ++ (ofWord checksum ++ rest)) =
        OnesComplement.complement (OnesComplement.fold 2 (total + checksum.toNat)) := by
  have bound := OnesComplement.sum_le (front ++ rest)
  rw [OnesComplement.sum_append front rest even, List.length_append] at bound
  refine ⟨OnesComplement.sum front + OnesComplement.sum rest, by omega, fun checksum => ?_⟩
  unfold ipChecksum checksumFold checksumSum
  rw [OnesComplement.sum_append front _ even, OnesComplement.sum_word]
  congr 2
  omega

namespace PacketBuilder

variable {bld : BuilderState} {payload : List UInt8}

/-- The parser finds both headers. -/
theorem packet_parsed (sized : Sized bld payload) :
    ∃ layer, Layered bld.family bld.protocol bld.src bld.dst (bld.segment payload).length layer ∧
      Timed bld.family (if bld.version = 4 then bld.ipId else 0) bld.ttlHop layer ∧
      IpPacket.doParse (packet bld payload) =
        layer.parseTransport bld.protocol (bld.segment payload) := by
  unfold packet
  rcases bld.isFamily with family | family
  · have small := sized.v4 family
    rw [family]
    exact doParse_v4 bld.src bld.dst _ bld.ttlHop small
  · rw [family]
    exact doParse_v6 bld.src bld.dst _ bld.ttlHop sized.v6

/-- The part of a packet that starts so many bytes behind the IP header. -/
theorem slice_packet (bld : BuilderState) (payload : List UInt8) (offset len : Nat) :
    slice (packet bld payload) (UdpEngine.ipHeaderSize bld.family + offset) len =
      slice (bld.segment payload) offset len := by
  have length := ipHeaderTtl_length bld.isFamily bld.src bld.dst bld.protocol
    (UdpEngine.ipHeaderSize bld.family + (bld.segment payload).length)
    (if bld.version = 4 then bld.ipId else 0) bld.ttlHop
  unfold packet
  have behind := slice_append (ipHeaderTtl bld.family bld.src bld.dst bld.protocol
    (UdpEngine.ipHeaderSize bld.family + (bld.segment payload).length)
    (if bld.version = 4 then bld.ipId else 0) bld.ttlHop) (bld.segment payload) offset len
  rwa [length] at behind

theorem packet_length (bld : BuilderState) (payload : List UInt8) :
    (packet bld payload).length =
      UdpEngine.ipHeaderSize bld.family + (bld.segment payload).length := by
  unfold packet
  rw [List.length_append, ipHeaderTtl_length bld.isFamily]

theorem packet_verifies (bld : BuilderState) (payload : List UInt8) (v4 : bld.family = 4) :
    verifyIpv4Checksum (slice (packet bld payload) 0 20) = 0 := by
  unfold packet ipHeaderTtl
  rw [if_pos v4]
  have front := slice_front (ipv4Header (UInt16.ofNat (UdpEngine.ipHeaderSize bld.family +
    (bld.segment payload).length)) (if bld.version = 4 then bld.ipId else 0) 0x4000 bld.ttlHop
      bld.protocol bld.src bld.dst) (bld.segment payload)
  rw [ipv4Header_length] at front
  rw [front]
  exact ipv4Header_verifies ..

/-! TCP. -/

/-- The data offset for so many words of options. -/
theorem dataOffset_words {options : Nat} (multiple : options % 4 = 0) (short : options ≤ 40) :
    (UInt8.ofNat (((20 + options) / 4) <<< 4) >>> 4).toNat * 4 = 20 + options := by
  obtain ⟨words, rfl⟩ : ∃ words, options = 4 * words := ⟨options / 4, by omega⟩
  have bound : words < 11 := by omega
  have all : ∀ words < 11,
      (UInt8.ofNat (((20 + 4 * words) / 4) <<< 4) >>> 4).toNat * 4 = 20 + 4 * words := by decide
  exact all words bound

/-- The parser's view of a TCP segment. -/
structure TcpRead (bld : BuilderState) (payload : List UInt8) (view : IpPacket) : Prop where
  parsed : view.transportParsed = true
  protocol : view.protocol = ipProtocolTcp
  srcPort : view.tcp.srcPort = bld.sport
  dstPort : view.tcp.dstPort = bld.dport
  seq : view.tcp.seq = bld.seq
  ack : view.tcp.ack = bld.ack
  flags : view.tcp.flags = bld.flags
  window : view.tcp.window = bld.window
  headerLen : view.tcp.headerLen = 20 + bld.tcpOptions.length
  options : slice (bld.segment payload) 20 bld.tcpOptions.length = bld.tcpOptions
  checksum : tcpUdpChecksum bld.family bld.src bld.dst ipProtocolTcp (bld.segment payload) = 0
  application : view.applicationBytes (packet bld payload) = payload

theorem tcp_read {layer : IpPacket} (tcp : bld.protocol = ipProtocolTcp)
    (fit : OptionsFit bld.tcpOptions) (length : bld.transportHlen = 20 + bld.tcpOptions.length)
    (sized : Sized bld payload)
    (layered : Layered bld.family bld.protocol bld.src bld.dst (bld.segment payload).length layer) :
    (layer.parseTransport bld.protocol (bld.segment payload)).valid = true ∧
      IpPacket.SameLayer layer (layer.parseTransport bld.protocol (bld.segment payload)) ∧
      TcpRead bld payload (layer.parseTransport bld.protocol (bld.segment payload)) := by
  obtain ⟨checksum, summed⟩ : ∃ checksum, checksum =
      tcpChecksum bld.tcpKey (bld.tcpSegment payload) := ⟨_, rfl⟩
  have bytes : bld.segment payload = tcpBytes bld.tcpKey (bld.tcpSegment payload) checksum := by
    unfold BuilderState.segment
    rw [if_pos tcp, summed]
  have count : (bld.segment payload).length = 20 + bld.tcpOptions.length + payload.length := by
    rw [bytes, tcpBytes_length]
    rfl
  have read := TcpHeader.read_built bld.tcpKey (bld.tcpSegment payload) checksum
  rw [← bytes] at read
  have headerLen : (TcpHeader.read (bld.segment payload)).headerLen = 20 + bld.tcpOptions.length := by
    rw [read]
    change (UInt8.ofNat ((bld.transportHlen / 4) <<< 4) >>> 4).toNat * 4 = _
    rw [length]
    exact dataOffset_words fit.1 fit.2
  have holds : tcpLengthsHold (bld.segment payload) = true := by
    unfold tcpLengthsHold
    simp only [Bool.decide_and, Bool.and_eq_true, decide_eq_true_eq]
    rw [headerLen, count]
    omega
  have parsed := IpPacket.parseTransport_tcp_holds layer holds
  rw [tcp, parsed]
  have front : (tcpFront bld.tcpKey (bld.tcpSegment payload) ++ (ofWord checksum ++ ofWord 0)).length =
      20 := rfl
  have split : bld.segment payload = tcpFront bld.tcpKey (bld.tcpSegment payload) ++
      (ofWord checksum ++ ofWord 0) ++ (bld.tcpOptions ++ payload) := by
    rw [bytes]
    simp only [tcpBytes, List.append_assoc]
    rfl
  refine ⟨?_, ⟨rfl, rfl, rfl, rfl, rfl, rfl, rfl, rfl, rfl, rfl, Or.inl rfl⟩, ?_⟩
  · unfold IpPacket.valid
    dsimp only
    rw [layered.parseError]
    rfl
  · refine
      { parsed := rfl
        protocol := layered.protocol.trans tcp
        srcPort := by rw [read]; rfl
        dstPort := by rw [read]; rfl
        seq := by rw [read]; rfl
        ack := by rw [read]; rfl
        flags := by rw [read]; rfl
        window := by rw [read]; rfl
        headerLen := headerLen
        options := ?_
        checksum := ?_
        application := ?_ }
    · rw [split]
      exact slice_behind front rfl payload
    · rw [bytes, summed]
      refine tcpChecksum_verifies bld.tcpKey (bld.tcpSegment payload) ?_
      have small := sized.v6
      rw [tcpBytes_length]
      change 20 + bld.tcpOptions.length + payload.length ≤ 65535
      omega
    · unfold IpPacket.applicationBytes IpPacket.transportData
      dsimp only
      rw [layered.payload, layered.payloadLen, layered.protocol, Option.map_some,
        if_pos ⟨tcp, rfl⟩, headerLen]
      dsimp only
      rw [slice_packet, count, Nat.add_sub_cancel_left, split, ← List.append_assoc]
      have place : (tcpFront bld.tcpKey (bld.tcpSegment payload) ++ (ofWord checksum ++ ofWord 0) ++
          bld.tcpOptions).length = 20 + bld.tcpOptions.length := by
        rw [List.length_append, front]
      rw [← place]
      exact slice_end _ payload

/-! UDP. -/

structure UdpRead (bld : BuilderState) (payload : List UInt8) (view : IpPacket) : Prop where
  parsed : view.transportParsed = true
  protocol : view.protocol = ipProtocolUdp
  srcPort : view.udp.srcPort = bld.sport
  dstPort : view.udp.dstPort = bld.dport
  summed : view.udp.checksum ≠ 0
  checksum : tcpUdpChecksum bld.family bld.src bld.dst ipProtocolUdp (bld.segment payload) = 0
  application : view.applicationBytes (packet bld payload) = payload

theorem udp_read {layer : IpPacket} (udp : bld.protocol = ipProtocolUdp) (sized : Sized bld payload)
    (layered : Layered bld.family bld.protocol bld.src bld.dst (bld.segment payload).length layer) :
    (layer.parseTransport bld.protocol (bld.segment payload)).valid = true ∧
      IpPacket.SameLayer layer (layer.parseTransport bld.protocol (bld.segment payload)) ∧
      UdpRead bld payload (layer.parseTransport bld.protocol (bld.segment payload)) := by
  obtain ⟨checksum, summed⟩ : ∃ checksum, checksum =
      udpChecksum bld.family bld.src bld.dst bld.sport bld.dport payload := ⟨_, rfl⟩
  have other : ¬bld.protocol = ipProtocolTcp := by
    rw [udp]
    decide
  have bytes : bld.segment payload = udpBytes bld.sport bld.dport payload checksum := by
    unfold BuilderState.segment
    rw [if_neg other, if_pos udp, summed]
  have count : (bld.segment payload).length = 8 + payload.length := by
    rw [bytes, udpBytes_length]
    rfl
  have small := sized.v6
  have read := UdpHeader.read_built bld.sport bld.dport payload checksum
  rw [← bytes] at read
  have udpLen : (UdpHeader.read (bld.segment payload)).length.toNat = 8 + payload.length := by
    rw [read]
    exact toNat_ofNat (by unfold udpHeaderSize; omega)
  have holds : udpLengthsHold (bld.segment payload) = true := by
    unfold udpLengthsHold
    simp only [Bool.decide_and, Bool.and_eq_true, decide_eq_true_eq]
    rw [udpLen, count]
    omega
  have parsed := IpPacket.parseTransport_udp_holds layer holds
  rw [udp, parsed]
  have split : bld.segment payload = udpFront bld.sport bld.dport payload.length ++ ofWord checksum ++
      payload := by
    rw [bytes]
    simp only [udpBytes, List.append_assoc]
  refine ⟨?_, ⟨rfl, rfl, rfl, rfl, rfl, rfl, rfl, rfl, rfl, rfl, Or.inl rfl⟩, ?_⟩
  · unfold IpPacket.valid
    dsimp only
    rw [layered.parseError]
    rfl
  · refine
      { parsed := rfl
        protocol := layered.protocol.trans udp
        srcPort := by rw [read]
        dstPort := by rw [read]
        summed := ?_
        checksum := ?_
        application := ?_ }
    · dsimp only
      rw [read, summed]
      exact udpChecksum_ne_zero _ _ _ _ _ _
    · rw [bytes, summed]
      exact udpChecksum_verifies bld.family bld.src bld.dst bld.sport bld.dport payload
        (by unfold udpHeaderSize; omega)
    · have left : sizeSub (8 + payload.length) 8 = payload.length := by
        rw [sizeSub, if_pos (Nat.le_add_right _ _), Nat.add_sub_cancel_left]
      unfold IpPacket.applicationBytes IpPacket.transportData
      dsimp only
      rw [layered.payload, layered.protocol, Option.map_some, if_neg (fun tcp => other tcp.1),
        if_pos ⟨udp, rfl⟩, udpLen]
      dsimp only
      rw [slice_packet, left, split]
      exact slice_end _ payload

/-! ICMP. -/

/-- The types of an echo in either version. -/
def IsEcho (family type : UInt8) : Prop :=
  (family = 4 ∧ (type = 8 ∨ type = 0)) ∨ (family = 6 ∧ (type = 128 ∨ type = 129))

instance (family type : UInt8) : Decidable (IsEcho family type) :=
  inferInstanceAs (Decidable (_ ∨ _))

/-- The protocol of the version. -/
def icmpProtocol (family : UInt8) : UInt8 :=
  if family = 4 then ipProtocolIcmp else ipProtocolIcmpv6

structure IcmpRead (bld : BuilderState) (payload : List UInt8) (view : IpPacket) : Prop where
  parsed : view.transportParsed = true
  protocol : view.protocol = icmpProtocol bld.family
  type : view.icmpType = bld.icmpType
  code : view.icmpCode = bld.icmpCode
  echo : (view.icmpEchoId, view.icmpEchoSeq) =
    if IsEcho bld.family bld.icmpType ∧ bld.icmpEchoSet then (bld.icmpId, bld.icmpSeq) else (0, 0)
  v4 : bld.family = 4 → ipChecksum (bld.segment payload) = 0
  v6 : bld.family = 6 →
    tcpUdpChecksum 6 bld.src bld.dst ipProtocolIcmpv6 (bld.segment payload) = 0
  application : view.applicationBytes (packet bld payload) = payload

theorem icmpChecksum_verifies (bld : BuilderState) (payload : List UInt8)
    (small : 8 + payload.length ≤ 65535) :
    (bld.family = 4 → ipChecksum (bld.icmpBytes payload (bld.icmpChecksum payload)) = 0) ∧
      (bld.family = 6 → tcpUdpChecksum 6 bld.src bld.dst ipProtocolIcmpv6
        (bld.icmpBytes payload (bld.icmpChecksum payload)) = 0) := by
  obtain ⟨rest, named⟩ : ∃ rest, rest = (if bld.icmpEchoSet then ofWord bld.icmpId ++
      ofWord bld.icmpSeq else zeros 4) ++ payload := ⟨_, rfl⟩
  have bytes (checksum : UInt16) : bld.icmpBytes payload checksum =
      [bld.icmpType, bld.icmpCode] ++ (ofWord checksum ++ rest) := by
    rw [named]
    rfl
  have length : rest.length = 4 + payload.length := by
    rw [named]
    split <;> simp
    omega
  have short : [bld.icmpType, bld.icmpCode].length + 2 + rest.length ≤ 65535 := by
    rw [length]
    simp only [List.length_cons, List.length_nil]
    omega
  constructor
  · intro v4
    obtain ⟨total, bound, eq⟩ := ipChecksum_word [bld.icmpType, bld.icmpCode] rest (by simp)
      short
    have checksum : bld.icmpChecksum payload =
        OnesComplement.complement (OnesComplement.fold 2 total) := by
      unfold BuilderState.icmpChecksum
      rw [if_pos v4, bytes]
      exact eq 0
    rw [checksum, bytes]
    exact (eq _).trans (OnesComplement.verifies bound)
  · intro v6
    obtain ⟨total, bound, eq⟩ := tcpUdpChecksum_word 6 bld.src bld.dst ipProtocolIcmpv6
      [bld.icmpType, bld.icmpCode] rest (by simp) short
    have checksum : bld.icmpChecksum payload =
        OnesComplement.complement (OnesComplement.fold 2 total) := by
      unfold BuilderState.icmpChecksum
      rw [if_neg (by rw [v6]; decide), bytes]
      exact eq 0
    rw [checksum, bytes]
    exact (eq _).trans (OnesComplement.verifies bound)

theorem icmp_read {layer : IpPacket} (icmp : bld.protocol = icmpProtocol bld.family)
    (sized : Sized bld payload)
    (layered : Layered bld.family bld.protocol bld.src bld.dst (bld.segment payload).length layer)
    (silent : layer.icmpEchoId = 0 ∧ layer.icmpEchoSeq = 0) :
    (layer.parseTransport bld.protocol (bld.segment payload)).valid = true ∧
      IpPacket.SameLayer layer (layer.parseTransport bld.protocol (bld.segment payload)) ∧
      IcmpRead bld payload (layer.parseTransport bld.protocol (bld.segment payload)) := by
  have either : bld.protocol = ipProtocolIcmp ∨ bld.protocol = ipProtocolIcmpv6 := by
    rw [icmp, icmpProtocol]
    split
    · exact Or.inl rfl
    · exact Or.inr rfl
  have notTcp : ¬bld.protocol = ipProtocolTcp := by
    rcases either with v4 | v6
    · rw [v4]
      decide
    · rw [v6]
      decide
  have notUdp : ¬bld.protocol = ipProtocolUdp := by
    rcases either with v4 | v6
    · rw [v4]
      decide
    · rw [v6]
      decide
  obtain ⟨checksum, summed⟩ : ∃ checksum, checksum = bld.icmpChecksum payload := ⟨_, rfl⟩
  -- Without an echo its words are zero.
  obtain ⟨id, seq, words, echo⟩ : ∃ id seq, (id, seq) =
      (if bld.icmpEchoSet then (bld.icmpId, bld.icmpSeq) else (0, 0)) ∧
        (if bld.icmpEchoSet then ofWord bld.icmpId ++ ofWord bld.icmpSeq else zeros 4) =
          ofWord id ++ ofWord seq := by
    split
    · exact ⟨bld.icmpId, bld.icmpSeq, rfl, rfl⟩
    · exact ⟨0, 0, rfl, rfl⟩
  have bytes : bld.segment payload = bld.icmpBytes payload checksum := by
    unfold BuilderState.segment
    rw [if_neg notTcp, if_neg notUdp, summed]
  have split : bld.segment payload = [bld.icmpType, bld.icmpCode] ++ (ofWord checksum ++
      (ofWord id ++ (ofWord seq ++ payload))) := by
    rw [bytes, BuilderState.icmpBytes, echo]
    simp only [List.append_assoc]
  have count : (bld.segment payload).length = 8 + payload.length := by
    rw [bytes, BuilderState.icmpBytes_length]
  have type : (bld.segment payload).getD 0 0 = bld.icmpType := by
    rw [split]
    rfl
  have code : (bld.segment payload).getD 1 0 = bld.icmpCode := by
    rw [split]
    rfl
  have echoId : word (bld.segment payload) 4 = id := by
    rw [split, ← List.append_assoc]
    exact (word_append ([bld.icmpType, bld.icmpCode] ++ ofWord checksum) _ 0).trans
      (word_ofWord id _)
  have echoSeq : word (bld.segment payload) 6 = seq := by
    rw [split, ← List.append_assoc, ← List.append_assoc]
    exact (word_append ([bld.icmpType, bld.icmpCode] ++ ofWord checksum ++ ofWord id) _ 0).trans
      (word_ofWord seq _)
  have isEcho : ((bld.protocol = ipProtocolIcmp ∧ (bld.icmpType = 8 ∨ bld.icmpType = 0)) ∨
      (bld.protocol = ipProtocolIcmpv6 ∧ (bld.icmpType = 128 ∨ bld.icmpType = 129))) ↔
        IsEcho bld.family bld.icmpType := by
    unfold IsEcho
    rw [icmp, icmpProtocol]
    rcases bld.isFamily with family | family <;> simp [family, ipProtocolIcmp, ipProtocolIcmpv6]
  have parsed : layer.parseTransport bld.protocol (bld.segment payload) =
      { layer with
        icmpType := bld.icmpType
        icmpCode := bld.icmpCode
        icmpChecksum := word (bld.segment payload) 2
        icmpEchoId := if IsEcho bld.family bld.icmpType then id else 0
        icmpEchoSeq := if IsEcho bld.family bld.icmpType then seq else 0
        transportParsed := true } := by
    unfold IpPacket.parseTransport
    dsimp only
    rw [if_neg notTcp, if_neg notUdp, if_pos either, if_neg (by omega), type, code, echoId, echoSeq]
    by_cases echoes : IsEcho bld.family bld.icmpType
    · rw [if_pos (isEcho.mpr echoes), if_pos echoes, if_pos echoes]
    · rw [if_neg (fun holds => echoes (isEcho.mp holds)), if_neg echoes, if_neg echoes]
      obtain ⟨noId, noSeq⟩ := silent
      simp only [noId, noSeq]
  have verifies := icmpChecksum_verifies bld payload (by
    have small := sized.v6
    omega)
  rw [← summed, ← bytes] at verifies
  rw [parsed]
  refine ⟨?_, ⟨rfl, rfl, rfl, rfl, rfl, rfl, rfl, rfl, rfl, rfl, Or.inl rfl⟩, ?_⟩
  · unfold IpPacket.valid
    dsimp only
    rw [layered.parseError]
    rfl
  · refine
      { parsed := rfl
        protocol := layered.protocol.trans icmp
        type := rfl
        code := rfl
        echo := ?_
        v4 := verifies.1
        v6 := verifies.2
        application := ?_ }
    · dsimp only
      by_cases echoes : IsEcho bld.family bld.icmpType
      · rw [if_pos echoes, if_pos echoes, words]
        simp [echoes]
      · rw [if_neg echoes, if_neg echoes, if_neg (fun both => echoes both.1)]
    · unfold IpPacket.applicationBytes IpPacket.transportData
      dsimp only
      rw [layered.payload, layered.protocol, layered.payloadLen, Option.map_some,
        if_neg (fun tcp => notTcp tcp.1), if_neg (fun udp => notUdp udp.1), if_pos ⟨either, rfl⟩]
      dsimp only
      rw [slice_packet, count, Nat.add_sub_cancel_left, split, ← List.append_assoc,
        ← List.append_assoc, ← List.append_assoc]
      exact slice_end _ payload

end PacketBuilder

end Tunio
