import Tunio.Builders

/-!
The bytes of the packets that are built, as lists of their fields.  Nothing of what was in the
buffer before is left in them.
-/

namespace Tunio

open Octets

/-! Writing behind a prefix, and what was written. -/

theorem write_behind {front : List UInt8} {offset : Nat} (place : front.length = offset)
    (rest data : List UInt8) :
    write (front ++ rest) offset data = front ++ (data ++ rest.drop data.length) := by
  have behind := write_append front rest data 0
  rwa [place, Nat.add_zero, write_start] at behind

theorem slice_behind {front middle : List UInt8} {offset len : Nat} (place : front.length = offset)
    (size : middle.length = len) (rest : List UInt8) :
    slice (front ++ (middle ++ rest)) offset len = middle := by
  have behind := slice_append front (middle ++ rest) 0 len
  rw [place, Nat.add_zero] at behind
  rw [behind, ← size]
  exact slice_front middle rest

theorem overwrite {front old data : List UInt8} {offset : Nat} (place : front.length = offset)
    (same : data.length = old.length) (rest : List UInt8) :
    write (front ++ (old ++ rest)) offset data = front ++ (data ++ rest) := by
  rw [← place]
  exact write_over front old rest data same

/-! The IP header. -/

/-- The first four bytes of an address. -/
def v4Bytes (a : Vector UInt8 16) : List UInt8 := a.toList.take 4

@[simp] theorem v4Bytes_length (a : Vector UInt8 16) : (v4Bytes a).length = 4 := by
  simp [v4Bytes]

/-- The fields in front of the checksum. -/
def ipv4Front (totalLen id frag : UInt16) (ttl protocol : UInt8) : List UInt8 :=
  [0x45, 0] ++ (ofWord totalLen ++ (ofWord id ++ (ofWord frag ++ [ttl, protocol])))

def ipv4Bytes (front : List UInt8) (checksum : UInt16) (srcIp dstIp : Vector UInt8 16) : List UInt8 :=
  front ++ (ofWord checksum ++ (v4Bytes srcIp ++ v4Bytes dstIp))

def ipv4Header (totalLen id frag : UInt16) (ttl protocol : UInt8) (srcIp dstIp : Vector UInt8 16) :
    List UInt8 :=
  let front := ipv4Front totalLen id frag ttl protocol
  ipv4Bytes front (ipv4Checksum (ipv4Bytes front 0 srcIp dstIp)) srcIp dstIp

@[simp] theorem ipv4Front_length (totalLen id frag : UInt16) (ttl protocol : UInt8) :
    (ipv4Front totalLen id frag ttl protocol).length = 10 := rfl

@[simp] theorem ipv4Header_length (totalLen id frag : UInt16) (ttl protocol : UInt8)
    (srcIp dstIp : Vector UInt8 16) :
    (ipv4Header totalLen id frag ttl protocol srcIp dstIp).length = 20 := by
  simp [ipv4Header, ipv4Bytes]

theorem twoBytes (new old : UInt16) : (ofWord new).length = (ofWord old).length := by
  rw [ofWord_length, ofWord_length]

/-- The fields of an IPv4 header and then its checksum are written. -/
theorem ipv4_written {memory : List UInt8} (room : 20 ≤ memory.length) (totalLen id frag : UInt16)
    (ttl protocol : UInt8) (srcIp dstIp : Vector UInt8 16) :
    write (writeFields memory 0 [[0x45], [0], ofWord totalLen, ofWord id, ofWord frag, [ttl],
        [protocol], ofWord 0, srcIp.toList.take 4, dstIp.toList.take 4]) 10
      (ofWord (ipv4Checksum (slice (writeFields memory 0 [[0x45], [0], ofWord totalLen, ofWord id,
        ofWord frag, [ttl], [protocol], ofWord 0, srcIp.toList.take 4, dstIp.toList.take 4]) 0 20))) =
      ipv4Header totalLen id frag ttl protocol srcIp dstIp ++ memory.drop 20 := by
  have flat : ([[0x45], [0], ofWord totalLen, ofWord id, ofWord frag, [ttl], [protocol], ofWord 0,
      srcIp.toList.take 4, dstIp.toList.take 4] : List (List UInt8)).flatten =
        ipv4Bytes (ipv4Front totalLen id frag ttl protocol) 0 srcIp dstIp := by
    simp [ipv4Bytes, ipv4Front, v4Bytes]
  have size : (ipv4Bytes (ipv4Front totalLen id frag ttl protocol) 0 srcIp dstIp).length = 20 := by
    simp [ipv4Bytes]
  rw [writeFields_eq _ (by rw [flat, size]; omega), flat, write_start, size]
  have header := slice_front (ipv4Bytes (ipv4Front totalLen id frag ttl protocol) 0 srcIp dstIp)
    (memory.drop 20)
  rw [size] at header
  rw [header]
  unfold ipv4Header ipv4Bytes
  dsimp only
  rw [List.append_assoc, List.append_assoc]
  exact overwrite (ipv4Front_length ..) (twoBytes _ _) _

def ipv6Header (totalLen : Nat) (protocol : UInt8) (srcIp dstIp : Vector UInt8 16) : List UInt8 :=
  ofLong 0x60000000 ++ (ofWord (UInt16.ofNat (totalLen - 40)) ++ ([protocol, kDefaultTtl] ++
    (srcIp.toList ++ dstIp.toList)))

/-- The header that `build_ip_header` builds. -/
def ipHeader (family : UInt8) (srcIp dstIp : Vector UInt8 16) (protocol : UInt8) (totalLen : Nat)
    (ipId : UInt16) : List UInt8 :=
  if family = 4 then ipv4Header (UInt16.ofNat totalLen) ipId 0x4000 kDefaultTtl protocol srcIp dstIp
  else ipv6Header totalLen protocol srcIp dstIp

/-- The IPv6 header with any hop limit. -/
def ipv6HeaderHop (totalLen : Nat) (protocol hopLimit : UInt8) (srcIp dstIp : Vector UInt8 16) :
    List UInt8 :=
  ofLong 0x60000000 ++ (ofWord (UInt16.ofNat (totalLen - 40)) ++ ([protocol, hopLimit] ++
    (srcIp.toList ++ dstIp.toList)))

/-- The header that `build_ip_header` builds with any TTL or hop limit. -/
def ipHeaderTtl (family : UInt8) (srcIp dstIp : Vector UInt8 16) (protocol : UInt8) (totalLen : Nat)
    (ipId : UInt16) (ttl : UInt8) : List UInt8 :=
  if family = 4 then ipv4Header (UInt16.ofNat totalLen) ipId 0x4000 ttl protocol srcIp dstIp
  else ipv6HeaderHop totalLen protocol ttl srcIp dstIp

theorem ipHeader_eq_ttl (family : UInt8) (srcIp dstIp : Vector UInt8 16) (protocol : UInt8)
    (totalLen : Nat) (ipId : UInt16) :
    ipHeader family srcIp dstIp protocol totalLen ipId =
      ipHeaderTtl family srcIp dstIp protocol totalLen ipId kDefaultTtl := rfl

/-- The families a packet can have. -/
def IsFamily (family : UInt8) : Prop := family = 4 ∨ family = 6

theorem ipHeaderTtl_length {family : UInt8} (known : IsFamily family) (srcIp dstIp : Vector UInt8 16)
    (protocol : UInt8) (totalLen : Nat) (ipId : UInt16) (ttl : UInt8) :
    (ipHeaderTtl family srcIp dstIp protocol totalLen ipId ttl).length =
      UdpEngine.ipHeaderSize family := by
  rcases known with rfl | rfl
  · rw [ipHeaderTtl, if_pos rfl, ipv4Header_length]
    rfl
  · rw [ipHeaderTtl, if_neg (by decide)]
    simp [ipv6HeaderHop, UdpEngine.ipHeaderSize]

theorem ipHeader_length {family : UInt8} (known : IsFamily family) (srcIp dstIp : Vector UInt8 16)
    (protocol : UInt8) (totalLen : Nat) (ipId : UInt16) :
    (ipHeader family srcIp dstIp protocol totalLen ipId).length = UdpEngine.ipHeaderSize family := by
  rw [ipHeader_eq_ttl, ipHeaderTtl_length known]

/-- `build_ip_header` fills the start of the memory. -/
theorem buildIpHeader_eq {memory : List UInt8} {family : UInt8} (known : IsFamily family)
    (room : UdpEngine.ipHeaderSize family ≤ memory.length) (srcIp dstIp : Vector UInt8 16)
    (protocol : UInt8) (totalLen : Nat) (ipId : UInt16) :
    buildIpHeader memory family srcIp dstIp protocol totalLen ipId =
      ipHeader family srcIp dstIp protocol totalLen ipId ++
        memory.drop (UdpEngine.ipHeaderSize family) := by
  rcases known with rfl | rfl
  · exact ipv4_written room (UInt16.ofNat totalLen) ipId 0x4000 kDefaultTtl protocol srcIp dstIp
  · have payload : (if totalLen > 40 then totalLen - 40 else 0) = totalLen - 40 := by
      split <;> omega
    have flat : ([ofLong 0x60000000, ofWord (UInt16.ofNat (totalLen - 40)), [protocol], [kDefaultTtl],
        srcIp.toList, dstIp.toList] : List (List UInt8)).flatten =
          ipv6Header totalLen protocol srcIp dstIp := by
      simp [ipv6Header]
    have size : (ipv6Header totalLen protocol srcIp dstIp).length = 40 := by
      simp [ipv6Header]
    have other : ¬(6 : UInt8) = 4 := by decide
    unfold buildIpHeader ipHeader
    rw [if_neg other, if_neg other, payload, writeFields_eq _ (by rw [flat, size]; exact room),
      flat, write_start, size]
    rfl

/-! TCP. -/

/-- The fields in front of the checksum. -/
def tcpFront (key : FiveTuple) (segment : Segment) : List UInt8 :=
  ofWord key.dstPort ++ (ofWord key.srcPort ++ (ofLong segment.seq ++ (ofLong segment.ack ++
    ([segment.dataOffset, segment.flags] ++ ofWord segment.window))))

def tcpBytes (key : FiveTuple) (segment : Segment) (checksum : UInt16) : List UInt8 :=
  tcpFront key segment ++ (ofWord checksum ++ (ofWord 0 ++ (segment.options ++ segment.payload)))

def tcpChecksum (key : FiveTuple) (segment : Segment) : UInt16 :=
  tcpUdpChecksum key.family key.dstIp key.srcIp ipProtocolTcp (tcpBytes key segment 0)

@[simp] theorem tcpFront_length (key : FiveTuple) (segment : Segment) :
    (tcpFront key segment).length = 16 := rfl

theorem tcpBytes_length (key : FiveTuple) (segment : Segment) (checksum : UInt16) :
    (tcpBytes key segment checksum).length =
      20 + segment.options.length + segment.payload.length := by
  simp only [tcpBytes, List.length_append, tcpFront_length, ofWord_length]
  omega

/-- The header behind the IP header, the options and the payload are written over all that is
left of the memory. -/
theorem writeSegment_eq (head : List UInt8) {rest : List UInt8} (key : FiveTuple) {segment : Segment}
    {withMss : Bool} (options : segment.options.length = if withMss then 8 else 0)
    (size : rest.length = (if withMss then 28 else 20) + segment.payload.length) :
    writeSegment (head ++ rest) head.length key segment withMss =
      head ++ tcpBytes key segment (tcpChecksum key segment) := by
  have flat : ([ofWord key.dstPort, ofWord key.srcPort, ofLong segment.seq, ofLong segment.ack,
      [segment.dataOffset], [segment.flags], ofWord segment.window, ofWord 0, ofWord 0] :
        List (List UInt8)).flatten = tcpFront key segment ++ (ofWord 0 ++ ofWord 0) := by
    simp [tcpFront]
  have room : 20 ≤ rest.length := by
    rw [size]
    split <;> omega
  have fields : writeFields (head ++ rest) head.length [ofWord key.dstPort, ofWord key.srcPort,
      ofLong segment.seq, ofLong segment.ack, [segment.dataOffset], [segment.flags],
      ofWord segment.window, ofWord 0, ofWord 0] =
        head ++ (tcpFront key segment ++ (ofWord 0 ++ ofWord 0) ++ rest.drop 20) := by
    rw [writeFields_eq _ (by rw [flat, List.length_append]; simp; omega), flat, write_behind rfl]
    rfl
  -- The options and the payload end the memory.
  have body : (let memory := head ++ (tcpFront key segment ++ (ofWord 0 ++ ofWord 0) ++ rest.drop 20)
      let memory := if withMss then write memory (head.length + 20) segment.options else memory
      if segment.payload.length > 0 then
        write memory (head.length + if withMss then 28 else 20) segment.payload
      else memory) = head ++ tcpBytes key segment 0 := by
    have front : (head ++ (tcpFront key segment ++ (ofWord 0 ++ ofWord 0))).length =
        head.length + 20 := by
      simp
    cases withMss with
    | false =>
        have none : segment.options = [] := List.length_eq_zero_iff.mp options
        have left : (rest.drop 20).length = segment.payload.length := by
          rw [List.length_drop, size]
          simp
        simp only [Bool.false_eq_true, if_false]
        rw [← List.append_assoc]
        split
        · rw [write_behind front, List.drop_eq_nil_of_le (Nat.le_of_eq left)]
          simp [tcpBytes, none]
        · have empty : segment.payload = [] := List.length_eq_zero_iff.mp (by omega)
          have nothing : rest.drop 20 = [] := List.length_eq_zero_iff.mp (by rw [left, empty]; rfl)
          rw [nothing]
          simp [tcpBytes, none, empty]
    | true =>
        have eight : segment.options.length = 8 := options
        have left : ((rest.drop 20).drop 8).length = segment.payload.length := by
          rw [List.length_drop, List.length_drop, size]
          simp
          omega
        have front' : (head ++ (tcpFront key segment ++ (ofWord 0 ++ ofWord 0)) ++
            segment.options).length = head.length + 28 := by
          rw [List.length_append, front, eight]
        simp only [if_true]
        rw [← List.append_assoc, write_behind front, eight, ← List.append_assoc]
        split
        · rw [write_behind front', List.drop_eq_nil_of_le (Nat.le_of_eq left)]
          simp [tcpBytes]
        · have empty : segment.payload = [] := List.length_eq_zero_iff.mp (by omega)
          have nothing : (rest.drop 20).drop 8 = [] :=
            List.length_eq_zero_iff.mp (by rw [left, empty]; rfl)
          rw [nothing]
          simp [tcpBytes, empty]
  unfold writeSegment
  dsimp only at body ⊢
  rw [fields, body]
  have length : (tcpBytes key segment 0).length =
      (if withMss then 28 else 20) + segment.payload.length := by
    rw [tcpBytes_length, options]
    split <;> rfl
  have whole := slice_behind (show head.length = head.length from rfl) length []
  rw [List.append_nil] at whole
  rw [whole]
  have place : (head ++ tcpFront key segment).length = head.length + 16 := by
    simp
  have after := overwrite place (twoBytes (tcpChecksum key segment) 0)
    (ofWord 0 ++ (segment.options ++ segment.payload))
  rw [List.append_assoc, List.append_assoc] at after
  exact after

/-! UDP. -/

theorem gathered_flatten (buffers : List (List UInt8)) (left : Nat) :
    (gathered buffers left).flatten = buffers.flatten.take left := by
  induction buffers generalizing left with
  | nil => simp [gathered]
  | cons buf rest ih =>
      unfold gathered
      split
      · rename_i none
        simp [none]
      · rw [List.flatten_cons, ih, List.flatten_cons, List.take_append]
        rcases Nat.le_total buf.length left with short | long
        · rw [Nat.min_eq_left short, List.take_of_length_le (Nat.le_refl _),
            List.take_of_length_le short]
        · rw [Nat.min_eq_right long, Nat.sub_self, Nat.sub_eq_zero_of_le long]

/-- The fields in front of the checksum. -/
def udpFront (srcPort dstPort : UInt16) (payloadLen : Nat) : List UInt8 :=
  ofWord srcPort ++ (ofWord dstPort ++ ofWord (UInt16.ofNat (udpHeaderSize + payloadLen)))

def udpBytes (srcPort dstPort : UInt16) (payload : List UInt8) (checksum : UInt16) : List UInt8 :=
  udpFront srcPort dstPort payload.length ++ (ofWord checksum ++ payload)

/-- Zero would say that there is no checksum. -/
def udpChecksum (family : UInt8) (srcAddr dstAddr : Vector UInt8 16) (srcPort dstPort : UInt16)
    (payload : List UInt8) : UInt16 :=
  let csum := tcpUdpChecksum family srcAddr dstAddr ipProtocolUdp (udpBytes srcPort dstPort payload 0)
  if csum = 0 then 0xffff else csum

@[simp] theorem udpFront_length (srcPort dstPort : UInt16) (payloadLen : Nat) :
    (udpFront srcPort dstPort payloadLen).length = 6 := rfl

theorem udpBytes_length (srcPort dstPort : UInt16) (payload : List UInt8) (checksum : UInt16) :
    (udpBytes srcPort dstPort payload checksum).length = udpHeaderSize + payload.length := by
  simp only [udpBytes, List.length_append, udpFront_length, ofWord_length, udpHeaderSize]
  omega

/-- The datagram is written over all that is left of the memory when the user's buffers hold what
they are said to. -/
theorem udpBuildDatagram_eq (family : UInt8) (srcAddr dstAddr : Vector UInt8 16)
    (srcPort dstPort : UInt16) {buffers : List (List UInt8)} {payloadLen : Nat}
    (holds : payloadLen ≤ buffers.flatten.length) (head : List UInt8) {rest : List UInt8}
    (size : rest.length = udpHeaderSize + payloadLen) :
    udpBuildDatagram family srcAddr dstAddr srcPort dstPort buffers payloadLen (head ++ rest)
      head.length = head ++ udpBytes srcPort dstPort (buffers.flatten.take payloadLen)
        (udpChecksum family srcAddr dstAddr srcPort dstPort (buffers.flatten.take payloadLen)) := by
  obtain ⟨payload, same⟩ : ∃ payload, buffers.flatten.take payloadLen = payload := ⟨_, rfl⟩
  have length : payload.length = payloadLen := by
    rw [← same, List.length_take]
    omega
  rw [same]
  unfold udpHeaderSize at size
  have flat : ([ofWord srcPort, ofWord dstPort, ofWord (UInt16.ofNat (udpHeaderSize + payloadLen)),
      ofWord 0] : List (List UInt8)).flatten = udpFront srcPort dstPort payload.length ++ ofWord 0 := by
    simp [udpFront, length]
  have fields : writeFields (head ++ rest) head.length [ofWord srcPort, ofWord dstPort,
      ofWord (UInt16.ofNat (udpHeaderSize + payloadLen)), ofWord 0] =
        head ++ (udpFront srcPort dstPort payload.length ++ ofWord 0) ++ rest.drop 8 := by
    rw [writeFields_eq _ (by rw [flat, List.length_append]; simp; omega), flat, write_behind rfl,
      ← List.append_assoc]
    rfl
  have front : (head ++ (udpFront srcPort dstPort payload.length ++ ofWord 0)).length =
      head.length + udpHeaderSize := by
    simp [udpHeaderSize]
  have left : (rest.drop 8).length = payload.length := by
    rw [List.length_drop, size, length]
    omega
  have body : writeFields (head ++ (udpFront srcPort dstPort payload.length ++ ofWord 0) ++ rest.drop 8)
      (head.length + udpHeaderSize) (gathered buffers payloadLen) =
        head ++ udpBytes srcPort dstPort payload 0 := by
    rw [writeFields_eq _ (by rw [gathered_flatten, same, List.length_append, front, left]),
      gathered_flatten, same, write_behind front, List.drop_eq_nil_of_le (Nat.le_of_eq left)]
    simp [udpBytes]
  have whole := slice_behind (show head.length = head.length from rfl)
    ((udpBytes_length srcPort dstPort payload 0).trans (congrArg _ length)) []
  rw [List.append_nil] at whole
  have place : (head ++ udpFront srcPort dstPort payload.length).length = head.length + 6 := by
    simp
  unfold udpBuildDatagram
  dsimp only
  rw [fields, body, whole]
  have after := overwrite place (twoBytes (udpChecksum family srcAddr dstAddr srcPort dstPort payload) 0)
    payload
  rw [List.append_assoc, List.append_assoc] at after
  exact after

/-- A fragment fills its buffer. -/
theorem writeFragment_eq {memory : List UInt8} (srcAddr dstAddr : Vector UInt8 16)
    {datagram : List UInt8} (ipId : UInt16) {off fragData : Nat}
    (inside : off + fragData ≤ datagram.length) (size : memory.length = 20 + fragData) :
    writeFragment memory srcAddr dstAddr datagram ipId off fragData =
      ipv4Header (UInt16.ofNat (20 + fragData)) ipId
        ((if off + fragData ≥ datagram.length then 0 else 0x2000) ||| UInt16.ofNat (off / 8)) 64
        ipProtocolUdp srcAddr dstAddr ++ slice datagram off fragData := by
  have room : 20 ≤ memory.length := by omega
  have data : (slice datagram off fragData).length = fragData := slice_length datagram inside
  unfold writeFragment
  dsimp only
  rw [ipv4_written room, write_behind (ipv4Header_length ..), data, List.drop_drop,
    List.drop_eq_nil_of_le (by omega), List.append_nil]
  simp only [decide_eq_true_eq]

/-! Echo replies. -/

/-- The message of a reply, behind its type and code. -/
def echoBytes (icmp : List UInt8) (type : UInt8) (checksum : UInt16) : List UInt8 :=
  [type, icmp.getD 1 0] ++ (ofWord checksum ++ icmp.drop 4)

theorem echoBytes_length {icmp : List UInt8} (least : 4 ≤ icmp.length) (type : UInt8)
    (checksum : UInt16) : (echoBytes icmp type checksum).length = icmp.length := by
  simp only [echoBytes, List.length_append, List.length_cons, List.length_nil, ofWord_length,
    List.length_drop]
  omega

theorem writeEchoReply_eq (head : List UInt8) {rest icmp : List UInt8} (type : UInt8)
    (checksum : List UInt8 → UInt16) (least : 4 ≤ icmp.length) (size : rest.length = icmp.length) :
    writeEchoReply (head ++ rest) head.length icmp type checksum =
      head ++ echoBytes icmp type (checksum (echoBytes icmp type 0)) := by
  obtain ⟨first, code, high, low, body, rfl⟩ : ∃ first code high low body,
      icmp = first :: code :: high :: low :: body := by
    match icmp, least with
    | first :: code :: high :: low :: body, _ => exact ⟨first, code, high, low, body, rfl⟩
  have copied : write (head ++ rest) head.length (first :: code :: high :: low :: body) =
      head ++ (first :: code :: high :: low :: body) := by
    rw [write_behind rfl, List.drop_eq_nil_of_le (Nat.le_of_eq size), List.append_nil]
  have typed : write (head ++ (first :: code :: high :: low :: body)) head.length [type] =
      head ++ ([type, code] ++ (high :: low :: body)) :=
    write_behind rfl (first :: code :: high :: low :: body) [type]
  have place : (head ++ [type, code]).length = head.length + 2 := by simp
  have place' : (head ++ [type, code] ++ [0]).length = head.length + 3 := by simp
  have cleared : write (head ++ ([type, code] ++ (high :: low :: body))) (head.length + 2) [0] =
      head ++ [type, code] ++ [0] ++ (low :: body) := by
    rw [← List.append_assoc, write_behind place, ← List.append_assoc]
    rfl
  have cleared' : write (head ++ [type, code] ++ [0] ++ (low :: body)) (head.length + 3) [0] =
      head ++ echoBytes (first :: code :: high :: low :: body) type 0 := by
    rw [write_behind place']
    simp [echoBytes, ofWord]
  have length := echoBytes_length least type 0
  have whole := slice_behind (show head.length = head.length from rfl) length []
  rw [List.append_nil] at whole
  unfold writeEchoReply
  dsimp only
  rw [copied, typed, cleared, cleared', whole]
  have after := overwrite place (twoBytes (checksum (echoBytes (first :: code :: high :: low :: body)
    type 0)) 0) body
  rw [List.append_assoc, List.append_assoc] at after
  exact after

end Tunio
