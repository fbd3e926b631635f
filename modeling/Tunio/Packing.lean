import Tunio.Building
import Tunio.Decoding

/-!
The bytes that `finalize` leaves in the buffer, as lists of their fields: the IP header, the
transport header with its checksum, and the payload.
-/

namespace Tunio

open Octets

namespace PacketBuffer

theorem refill_bytes (buf : PacketBuffer) {memory : List UInt8}
    (same : memory.length = buf.memory.length) : (buf.refill memory).bytes = memory.take buf.size := by
  rw [bytes_eq_take, refill_memory buf same, refill_size]

theorem Appended.bytes {buf after : PacketBuffer} {data : List UInt8}
    (appended : Appended buf data after) : after.bytes = buf.bytes ++ data := by
  have filled := buf.size_le_memory
  have front : (buf.memory.take buf.size ++ data).length = buf.size + data.length := by
    rw [List.length_append, List.length_take]
    omega
  rw [bytes_eq_take, appended.memory, appended.size]
  exact List.take_left' front

end PacketBuffer

/-- The header is written over the start of the memory. -/
theorem ipHeaderWrites_eq {memory : List UInt8} {family : UInt8} (known : IsFamily family)
    (room : UdpEngine.ipHeaderSize family ≤ memory.length) (srcIp dstIp : Vector UInt8 16)
    (protocol : UInt8) (totalLen : Nat) (ipId : UInt16) (ttl : UInt8) :
    patched memory (ipHeaderWrites memory family srcIp dstIp protocol totalLen ipId ttl) =
      ipHeaderTtl family srcIp dstIp protocol totalLen ipId ttl ++
        memory.drop (UdpEngine.ipHeaderSize family) := by
  rcases known with rfl | rfl
  · have written := ipv4_written room (UInt16.ofNat totalLen) ipId 0x4000 ttl protocol srcIp dstIp
    have least : 20 ≤ memory.length := room
    rw [writeFields_eq _ (by simpa using least)] at written
    change _ = ipv4Header _ _ _ _ _ _ _ ++ memory.drop 20
    simpa [ipHeaderWrites] using written
  · have other : ¬(6 : UInt8) = 4 := by decide
    have payload : (if totalLen > 40 then totalLen - 40 else 0) = totalLen - 40 := by
      split <;> omega
    have flat : ([ofLong 0x60000000, ofWord (UInt16.ofNat (totalLen - 40)), [protocol], [ttl],
        srcIp.toList, dstIp.toList] : List (List UInt8)).flatten =
          ipv6HeaderHop totalLen protocol ttl srcIp dstIp := by
      simp [ipv6HeaderHop]
    unfold ipHeaderWrites ipHeaderTtl
    rw [if_neg other, if_neg other, payload, flat, patched_cons, patched_nil, write_start,
      ipv6HeaderHop_length]
    rfl

/-! The transport headers, over zeros. -/

def zeros (count : Nat) : List UInt8 := List.replicate count 0

@[simp] theorem zeros_length (count : Nat) : (zeros count).length = count := by
  simp [zeros]

theorem zeros_add (first second : Nat) : zeros (first + second) = zeros first ++ zeros second :=
  List.replicate_add ..

namespace BuilderState

theorem isFamily (bld : BuilderState) : IsFamily bld.family := by
  unfold BuilderState.family
  split
  · exact Or.inl rfl
  · exact Or.inr rfl

def tcpKey (bld : BuilderState) : FiveTuple :=
  { srcIp := bld.dst, dstIp := bld.src, srcPort := bld.dport, dstPort := bld.sport
    protocol := ipProtocolTcp, family := bld.family }

def tcpSegment (bld : BuilderState) (payload : List UInt8) : Segment :=
  { seq := bld.seq, ack := bld.ack, dataOffset := UInt8.ofNat ((bld.transportHlen / 4) <<< 4)
    flags := bld.flags, window := bld.window, options := bld.tcpOptions, payload := payload }

/-- An ICMP message. -/
def icmpBytes (bld : BuilderState) (payload : List UInt8) (checksum : UInt16) : List UInt8 :=
  [bld.icmpType, bld.icmpCode] ++ (ofWord checksum ++
    ((if bld.icmpEchoSet then ofWord bld.icmpId ++ ofWord bld.icmpSeq else zeros 4) ++ payload))

def icmpChecksum (bld : BuilderState) (payload : List UInt8) : UInt16 :=
  if bld.family = 4 then ipChecksum (bld.icmpBytes payload 0)
  else tcpUdpChecksum 6 bld.src bld.dst ipProtocolIcmpv6 (bld.icmpBytes payload 0)

theorem icmpBytes_length (bld : BuilderState) (payload : List UInt8) (checksum : UInt16) :
    (bld.icmpBytes payload checksum).length = 8 + payload.length := by
  unfold icmpBytes
  split <;> simp <;> omega

/-- The segment of a packet: the transport header and the payload. -/
def segment (bld : BuilderState) (payload : List UInt8) : List UInt8 :=
  if bld.protocol = ipProtocolTcp then
    tcpBytes bld.tcpKey (bld.tcpSegment payload) (tcpChecksum bld.tcpKey (bld.tcpSegment payload))
  else if bld.protocol = ipProtocolUdp then
    udpBytes bld.sport bld.dport payload
      (udpChecksum bld.family bld.src bld.dst bld.sport bld.dport payload)
  else bld.icmpBytes payload (bld.icmpChecksum payload)

section Writes

variable {bld : BuilderState} {head : List UInt8} (place : head.length = bld.ipHlen)
  (payload rest : List UInt8)
include place

theorem tcpWrites_eq (tcp : bld.protocol = ipProtocolTcp) :
    patched (head ++ (zeros (20 + bld.tcpOptions.length) ++ (payload ++ rest)))
      (bld.transportWrites (head ++ (zeros (20 + bld.tcpOptions.length) ++ (payload ++ rest)))
        (20 + bld.tcpOptions.length + payload.length)) = head ++ (bld.segment payload ++ rest) := by
  obtain ⟨key, keyed⟩ : ∃ key, key = bld.tcpKey := ⟨_, rfl⟩
  obtain ⟨built, named⟩ : ∃ built, built = bld.tcpSegment payload := ⟨_, rfl⟩
  have flat : ([ofWord bld.sport, ofWord bld.dport, ofLong bld.seq, ofLong bld.ack,
      [UInt8.ofNat ((bld.transportHlen / 4) <<< 4)], [bld.flags], ofWord bld.window, ofWord 0,
      ofWord 0] : List (List UInt8)).flatten = tcpFront key built ++ (ofWord 0 ++ ofWord 0) := by
    rw [keyed, named]
    simp [tcpFront, tcpKey, tcpSegment]
  have size : (tcpFront key built ++ (ofWord 0 ++ ofWord 0)).length = (zeros 20).length := rfl
  -- The fields, then the options if there are any.
  have fields := overwrite place size (zeros bld.tcpOptions.length ++ (payload ++ rest))
  have front : (head ++ (tcpFront key built ++ (ofWord 0 ++ ofWord 0))).length = bld.ipHlen + 20 := by
    rw [List.length_append, place]
    rfl
  have header : patched (head ++ (zeros 20 ++ (zeros bld.tcpOptions.length ++ (payload ++ rest))))
      (if bld.tcpOptions.length ≠ 0 then
        [⟨bld.ipHlen, tcpFront key built ++ (ofWord 0 ++ ofWord 0)⟩,
          ⟨bld.ipHlen + 20, bld.tcpOptions⟩]
      else [⟨bld.ipHlen, tcpFront key built ++ (ofWord 0 ++ ofWord 0)⟩]) =
        head ++ (tcpBytes key built 0 ++ rest) := by
    split
    · have options := overwrite front (show bld.tcpOptions.length =
        (zeros bld.tcpOptions.length).length by simp) (payload ++ rest)
      rw [patched_cons, patched_cons, patched_nil, fields, ← List.append_assoc, options, named]
      simp [tcpBytes, tcpSegment]
    · rename_i none
      have empty : bld.tcpOptions = [] := by simpa using none
      rw [patched_cons, patched_nil, fields, named]
      simp [tcpBytes, tcpSegment, empty, zeros]
  have length : (tcpBytes key built 0).length = 20 + bld.tcpOptions.length + payload.length := by
    rw [tcpBytes_length, named]
    rfl
  have whole := slice_behind place length rest
  have place' : (head ++ tcpFront key built).length = bld.ipHlen + 16 := by
    rw [List.length_append, place]
    rfl
  have after := overwrite place' (twoBytes (tcpChecksum key built) 0)
    (ofWord 0 ++ (built.options ++ built.payload) ++ rest)
  rw [zeros_add, List.append_assoc]
  unfold transportWrites segment
  dsimp only
  rw [if_pos tcp, if_pos tcp, flat, patched_append, header, whole, patched_cons, patched_nil,
    ← keyed, ← named]
  have csum : tcpUdpChecksum bld.family bld.src bld.dst ipProtocolTcp (tcpBytes key built 0) =
      tcpChecksum key built := by
    rw [tcpChecksum, keyed]
    rfl
  rw [csum]
  simp only [tcpBytes, List.append_assoc] at after ⊢
  exact after

theorem udpWrites_eq (udp : bld.protocol = ipProtocolUdp) :
    patched (head ++ (zeros 8 ++ (payload ++ rest)))
      (bld.transportWrites (head ++ (zeros 8 ++ (payload ++ rest))) (8 + payload.length)) =
        head ++ (bld.segment payload ++ rest) := by
  have other : ¬bld.protocol = ipProtocolTcp := by
    rw [udp]
    decide
  have flat : ([ofWord bld.sport, ofWord bld.dport, ofWord (UInt16.ofNat (8 + payload.length)),
      ofWord 0] : List (List UInt8)).flatten =
        udpFront bld.sport bld.dport payload.length ++ ofWord 0 := by
    simp [udpFront, udpHeaderSize]
  have fields := overwrite place (show (udpFront bld.sport bld.dport payload.length ++
    ofWord 0).length = (zeros 8).length from rfl) (payload ++ rest)
  have header : head ++ (udpFront bld.sport bld.dport payload.length ++ ofWord 0 ++
      (payload ++ rest)) = head ++ (udpBytes bld.sport bld.dport payload 0 ++ rest) := by
    simp [udpBytes]
  have whole := slice_behind place (udpBytes_length bld.sport bld.dport payload 0) rest
  have place' : (head ++ udpFront bld.sport bld.dport payload.length).length = bld.ipHlen + 6 := by
    rw [List.length_append, place]
    rfl
  have after := overwrite place' (twoBytes (udpChecksum bld.family bld.src bld.dst bld.sport
    bld.dport payload) 0) (payload ++ rest)
  unfold transportWrites segment
  dsimp only
  rw [if_neg other, if_pos udp, if_neg other, if_pos udp, flat]
  simp only [patched_cons, patched_nil]
  rw [fields, header]
  unfold udpHeaderSize at whole
  rw [whole, ← header]
  simp only [udpBytes, List.append_assoc] at after ⊢
  exact after

theorem icmpWrites_eq (icmp : bld.protocol = ipProtocolIcmp ∨ bld.protocol = ipProtocolIcmpv6) :
    patched (head ++ (zeros 8 ++ (payload ++ rest)))
      (bld.transportWrites (head ++ (zeros 8 ++ (payload ++ rest))) (8 + payload.length)) =
        head ++ (bld.segment payload ++ rest) := by
  have notTcp : ¬bld.protocol = ipProtocolTcp := by
    rcases icmp with v4 | v6
    · rw [v4]
      decide
    · rw [v6]
      decide
  have notUdp : ¬bld.protocol = ipProtocolUdp := by
    rcases icmp with v4 | v6
    · rw [v4]
      decide
    · rw [v6]
      decide
  have skip (memory data : List UInt8) (k : Nat) :
      write (head ++ memory) (bld.ipHlen + k) data = head ++ write memory k data := by
    rw [← place]
    exact write_append head memory data k
  have start (memory data : List UInt8) :
      write (head ++ memory) bld.ipHlen data = head ++ write memory 0 data := skip memory data 0
  have header : patched (head ++ (zeros 8 ++ (payload ++ rest)))
      (if bld.icmpEchoSet = true then
        [⟨bld.ipHlen, [bld.icmpType]⟩, ⟨bld.ipHlen + 1, [bld.icmpCode]⟩, ⟨bld.ipHlen + 2, [0]⟩,
          ⟨bld.ipHlen + 3, [0]⟩] ++
            [⟨bld.ipHlen + 4, ofWord bld.icmpId⟩, ⟨bld.ipHlen + 6, ofWord bld.icmpSeq⟩]
      else [⟨bld.ipHlen, [bld.icmpType]⟩, ⟨bld.ipHlen + 1, [bld.icmpCode]⟩, ⟨bld.ipHlen + 2, [0]⟩,
        ⟨bld.ipHlen + 3, [0]⟩]) = head ++ (bld.icmpBytes payload 0 ++ rest) := by
    unfold icmpBytes
    split
    · simp only [List.cons_append, List.nil_append, patched_cons, patched_nil, start, skip]
      simp [write, zeros, ofWord, List.replicate]
    · simp only [patched_cons, patched_nil, start, skip]
      simp [write, zeros, ofWord, List.replicate]
  have whole := slice_behind place (icmpBytes_length bld payload 0) rest
  have place' : (head ++ [bld.icmpType, bld.icmpCode]).length = bld.ipHlen + 2 := by
    rw [List.length_append, place]
    rfl
  have after := overwrite place' (twoBytes (bld.icmpChecksum payload) 0)
    ((if bld.icmpEchoSet then ofWord bld.icmpId ++ ofWord bld.icmpSeq else zeros 4) ++ payload ++ rest)
  unfold transportWrites segment
  dsimp only
  rw [if_neg notTcp, if_neg notUdp, if_pos icmp, if_neg notTcp, if_neg notUdp, patched_append, header,
    whole, patched_cons, patched_nil]
  change write _ _ (ofWord (bld.icmpChecksum payload)) = _
  simp only [icmpBytes, List.append_assoc] at after ⊢
  exact after

/-- The transport header of any of the protocols, with the payload behind it. -/
theorem transportWrites_eq (known : bld.protocol = ipProtocolTcp ∨ bld.protocol = ipProtocolUdp ∨
      bld.protocol = ipProtocolIcmp ∨ bld.protocol = ipProtocolIcmpv6)
    (length : bld.transportHlen = PacketBuilder.transportLen bld.protocol bld.tcpOptions.length) :
    patched (head ++ (zeros bld.transportHlen ++ (payload ++ rest)))
      (bld.transportWrites (head ++ (zeros bld.transportHlen ++ (payload ++ rest)))
        (bld.transportHlen + payload.length)) = head ++ (bld.segment payload ++ rest) := by
  rcases known with tcp | udp | icmp
  · have header : bld.transportHlen = 20 + bld.tcpOptions.length := by
      simpa [PacketBuilder.transportLen, tcp] using length
    have written := tcpWrites_eq place payload rest tcp
    rw [← header] at written
    exact written
  · have header : bld.transportHlen = 8 := by
      simpa [PacketBuilder.transportLen, udp, ipProtocolUdp, ipProtocolTcp] using length
    rw [header]
    exact udpWrites_eq place payload rest udp
  · have header : bld.transportHlen = 8 := by
      rcases icmp with v4 | v6
      · simpa [PacketBuilder.transportLen, v4, ipProtocolIcmp, ipProtocolTcp] using length
      · simpa [PacketBuilder.transportLen, v6, ipProtocolIcmpv6, ipProtocolTcp] using length
    rw [header]
    exact icmpWrites_eq place payload rest icmp

end Writes

theorem segment_length {bld : BuilderState} (payload : List UInt8)
    (known : bld.protocol = ipProtocolTcp ∨ bld.protocol = ipProtocolUdp ∨
      bld.protocol = ipProtocolIcmp ∨ bld.protocol = ipProtocolIcmpv6) :
    (bld.segment payload).length =
      PacketBuilder.transportLen bld.protocol bld.tcpOptions.length + payload.length := by
  unfold segment PacketBuilder.transportLen
  split
  · rw [tcpBytes_length]
    rfl
  · rename_i other
    split
    · rename_i udp
      rw [if_pos (Or.inl udp), udpBytes_length]
      rfl
    · rename_i other'
      have icmp := (known.resolve_left other).resolve_left other'
      rw [if_pos (Or.inr icmp), icmpBytes_length]

end BuilderState

namespace PacketBuilder

/-- A packet parses what is in a buffer when its own has room for it. -/
theorem parse_buffer (p : PacketBuilder) (src : PacketBuffer)
    (fits : src.size ≤ p.buf.capacity - p.buf.headroom) :
    (p.parse src src.size).view = IpPacket.doParse src.bytes ∧
      (p.parse src src.size).buf.bytes = src.bytes := by
  have inside : src.size ≤ src.capacity - src.headroom := by
    have filled := src.size_le_memory
    rwa [PacketBuffer.memory_length] at filled
  have length : src.bytes.length ≤ p.buf.reset.writableSize := by
    simpa using fits
  have none_ : p.buf.reset.bytes = [] := List.length_eq_zero_iff.mp (by simp)
  unfold parse copyAndParse
  rw [if_neg (Nat.not_lt.mpr inside), ← PacketBuffer.bytes_eq_take]
  dsimp only
  rw [if_neg (Nat.not_lt.mpr length)]
  refine ⟨if_neg (Nat.not_lt.mpr length), ?_⟩
  rw [(PacketBuffer.append_appended length).bytes, none_, List.nil_append]

/-- A state of the builder in which both headers are begun. -/
structure Complete (bld : BuilderState) : Prop where
  version : bld.version = bld.family
  ipHlen : bld.ipHlen = UdpEngine.ipHeaderSize bld.family
  protocol : bld.protocol = ipProtocolTcp ∨ bld.protocol = ipProtocolUdp ∨
    bld.protocol = ipProtocolIcmp ∨ bld.protocol = ipProtocolIcmpv6
  transportHlen : bld.transportHlen = transportLen bld.protocol bld.tcpOptions.length

/-- The packet that is built from a state and a payload. -/
def packet (bld : BuilderState) (payload : List UInt8) : List UInt8 :=
  ipHeaderTtl bld.family bld.src bld.dst bld.protocol
    (UdpEngine.ipHeaderSize bld.family + (bld.segment payload).length)
    (if bld.version = 4 then bld.ipId else 0) bld.ttlHop ++ bld.segment payload

/-- The lengths fit the fields of the IP header. -/
structure Sized (bld : BuilderState) (payload : List UInt8) : Prop where
  v4 : bld.family = 4 → 20 + (bld.segment payload).length ≤ 65535
  v6 : (bld.segment payload).length ≤ 65535

theorem finalize_built {p done : PacketBuilder} {payload : List UInt8}
    (complete : Complete p.bld) (sizes : p.buf.capacity < 2 ^ 64)
    (bytes : p.buf.bytes = zeros p.bld.ipHlen ++ (zeros p.bld.transportHlen ++ payload))
    (finalized : p.finalize = (done, none)) :
    done.buf.bytes = packet p.bld payload ∧ done.view = IpPacket.doParse (packet p.bld payload) ∧
      Sized p.bld payload := by
  have known := p.bld.isFamily
  have header := complete.ipHlen
  have length := p.bld.segment_length payload complete.protocol
  rw [← complete.transportHlen] at length
  -- The lengths that `finalize` computes.
  have size : p.buf.size = p.bld.ipHlen + (p.bld.transportHlen + payload.length) := by
    have counted := congrArg List.length bytes
    simpa using counted
  have inside : p.buf.size < 2 ^ 64 := by
    have fits := p.buf.size_le_memory
    rw [PacketBuffer.memory_length] at fits
    omega
  have payloadLen : p.payloadLen = payload.length := by
    unfold PacketBuilder.payloadLen sizeSub
    rw [if_pos (show p.bld.ipHlen ≤ p.buf.size by omega), if_pos (by omega)]
    omega
  have total : p.total = UdpEngine.ipHeaderSize p.bld.family + (p.bld.segment payload).length := by
    unfold PacketBuilder.total
    rw [payloadLen, Nat.mod_eq_of_lt (by omega)]
    omega
  have segLen : p.segLen = p.bld.transportHlen + payload.length := by
    unfold PacketBuilder.segLen
    rw [payloadLen, Nat.mod_eq_of_lt (by omega)]
  have begun : p.bld.version ≠ 0 := by
    rw [complete.version]
    rcases known with v4 | v6
    · rw [v4]
      decide
    · rw [v6]
      decide
  have fits : p.oversize = none := by
    cases thrown : p.oversize with
    | none => rfl
    | some error =>
        unfold finalize at finalized
        rw [if_neg begun, thrown] at finalized
        cases finalized
  have writes : p.finalizeWrites = p.headerWrites ++
      p.bld.transportWrites (patched p.buf.memory p.headerWrites) p.segLen := by
    unfold finalizeWrites
    rw [if_neg (by simp [begun, fits])]
  -- The bytes behind `data()`, and what is written over them.
  obtain ⟨rest, split⟩ : ∃ rest, p.buf.memory =
      zeros p.bld.ipHlen ++ (zeros p.bld.transportHlen ++ (payload ++ rest)) := by
    refine ⟨p.buf.memory.drop p.buf.size, ?_⟩
    have whole := List.take_append_drop p.buf.size p.buf.memory
    rw [← PacketBuffer.bytes_eq_take, bytes] at whole
    exact whole.symm.trans (by simp only [List.append_assoc])
  obtain ⟨head, named⟩ : ∃ head, head = ipHeaderTtl p.bld.family p.bld.src p.bld.dst p.bld.protocol
      p.total (if p.bld.version = 4 then p.bld.ipId else 0) p.bld.ttlHop := ⟨_, rfl⟩
  have place : head.length = p.bld.ipHlen := by
    rw [named, ipHeaderTtl_length known, header]
  have headed : patched p.buf.memory p.headerWrites =
      head ++ (zeros p.bld.transportHlen ++ (payload ++ rest)) := by
    unfold headerWrites
    rw [ipHeaderWrites_eq known (by rw [split, ← header]; simp), ← named, split, ← header,
      List.drop_left' (zeros_length _)]
  have done_ : patched p.buf.memory p.finalizeWrites =
      head ++ p.bld.segment payload ++ rest := by
    rw [writes, patched_append, headed, segLen, BuilderState.transportWrites_eq place payload rest
      complete.protocol complete.transportHlen, List.append_assoc]
  have same : (patched p.buf.memory p.finalizeWrites).length = p.buf.memory.length := by
    rw [done_, split]
    simp only [List.length_append, zeros_length, place, length]
    omega
  have packed : (p.buf.refill (patched p.buf.memory p.finalizeWrites)).bytes =
      packet p.bld payload := by
    rw [PacketBuffer.refill_bytes _ same, done_]
    have count : (head ++ p.bld.segment payload).length = p.buf.size := by
      rw [List.length_append, place, length, size]
    rw [List.take_left' count, named, total]
    rfl
  unfold finalize at finalized
  rw [if_neg begun, fits] at finalized
  cases finalized
  have parsed := parse_buffer
    ({ p with buf := p.buf.refill (patched p.buf.memory p.finalizeWrites) } : PacketBuilder)
    (p.buf.refill (patched p.buf.memory p.finalizeWrites)) (by
      have filled := (p.buf.refill (patched p.buf.memory p.finalizeWrites)).size_le_memory
      rwa [PacketBuffer.memory_length] at filled)
  rw [packed] at parsed
  refine ⟨parsed.2, parsed.1, ?_⟩
  -- No exception was thrown.
  unfold oversize at fits
  split at fits
  · cases fits
  · rename_i v4
    split at fits
    · cases fits
    · rename_i v6
      rw [complete.version, total] at v4 v6
      rw [header] at v6
      rcases known with family | family
      · rw [family] at v4
        have bound : 20 + (p.bld.segment payload).length ≤ 65535 :=
          Nat.le_of_not_lt fun more => v4 ⟨rfl, more⟩
        exact ⟨fun _ => bound, by omega⟩
      · rw [family] at v6
        have bound : sizeSub (40 + (p.bld.segment payload).length) 40 ≤ 65535 :=
          Nat.le_of_not_lt fun more => v6 ⟨rfl, more⟩
        rw [sizeSub, if_pos (Nat.le_add_right _ _), Nat.add_sub_cancel_left] at bound
        refine ⟨fun other => ?_, bound⟩
        rw [family] at other
        cases other

end PacketBuilder

end Tunio
