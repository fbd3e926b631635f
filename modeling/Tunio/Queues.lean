import Mathlib.Data.Int.GCD
import Tunio.Decoding

/-!
The queue that a packet is put on.  A packet that carries its ports behind the IP header is put on
the queue of its flow; the fragments behind the first do not carry them.
-/

namespace Tunio

open Octets

/-! The hash of a flow. -/

def addrBytes (family : UInt8) (a : Vector UInt8 16) : List UInt8 := a.toList.take (addrLen family)

/-- The hash of the addresses and of the protocol. -/
def pairHash (family : UInt8) (src dst : Vector UInt8 16) (protocol : UInt8) : UInt64 :=
  fnvMix (fnvMix (fnvMix fnvOffset (addrBytes family src)) (addrBytes family dst)) [protocol]

/-- What follows the IP header of a packet is hashed when the header says that the ports are there. -/
def carriedHash (base : UInt64) (segment : List UInt8) (carries : Prop) [Decidable carries] : UInt64 :=
  if carries then fnvMix base (segment.take 4) else base

/-- A length field, as the hash reads it. -/
theorem lengthField (data : List UInt8) (i : Nat) :
    (data.getD i 0).toNat * 256 + (data.getD (i + 1) 0).toNat = (word data i).toNat := by
  have high := (data.getD i 0).toNat_lt
  have low := (data.getD (i + 1) 0).toNat_lt
  rw [word, UInt16.toNat_ofNat']
  omega

theorem pickTxQueue_v4 {n : Nat} (some_ : 1 ≤ n) (totalLen id frag : UInt16) (ttl protocol : UInt8)
    (src dst : Vector UInt8 16) (segment : List UInt8) (hashed : protocol = 6 ∨ protocol = 17) :
    pickTxQueue (ipv4Header totalLen id frag ttl protocol src dst ++ segment) n =
      (carriedHash (pairHash 4 src dst protocol) segment
        (24 ≤ totalLen.toNat ∧ totalLen.toNat ≤ 20 + segment.length)).toNat % n := by
  obtain ⟨data, named⟩ : ∃ data, data = ipv4Header totalLen id frag ttl protocol src dst ++ segment :=
    ⟨_, rfl⟩
  have length : data.length = 20 + segment.length := by
    rw [named, List.length_append, ipv4Header_length]
  have header := Ipv4Header.read_built totalLen id frag ttl protocol src dst segment
  have addresses := ipv4_addresses totalLen id frag ttl protocol src dst segment
  have behind := slice_append (ipv4Header totalLen id frag ttl protocol src dst) segment 0 4
  rw [ipv4Header_length, ← named, Nat.add_zero] at behind
  dsimp only at header addresses
  have version : data.getD 0 0 >>> 4 = 4 := by
    rw [named]
    change (0x45 : UInt8) >>> 4 = 4
    decide
  rw [← named] at header addresses ⊢
  obtain ⟨headerLen, total, -, proto⟩ := header
  have protocolByte : sliceOf data 9 1 = [protocol] := by
    rw [named]
    rfl
  have field : (data.getD 2 0).toNat * 256 + (data.getD 3 0).toNat = totalLen.toNat := by
    rw [lengthField data 2]
    exact congrArg UInt16.toNat total
  have hash : hashV4 data = carriedHash (pairHash 4 src dst protocol) segment
      (24 ≤ totalLen.toNat ∧ totalLen.toNat ≤ 20 + segment.length) := by
    unfold hashV4 carriedHash
    dsimp only
    rw [show (data.getD 0 0 &&& 0x0f).toNat * 4 = 20 from headerLen, field,
      show data.getD 9 0 = protocol from proto, length, protocolByte,
      show sliceOf data 12 4 = _ from addresses.1, show sliceOf data 16 4 = _ from addresses.2,
      show sliceOf data 20 4 = _ from behind]
    have tests : (20 ≥ 20 ∧ totalLen.toNat ≥ 20 ∧ 20 + segment.length ≥ totalLen.toNat ∧
        (protocol = 6 ∨ protocol = 17) ∧ totalLen.toNat - 20 ≥ 4) ↔
          24 ≤ totalLen.toNat ∧ totalLen.toNat ≤ 20 + segment.length := by
      constructor
      · rintro ⟨-, -, inside, -, ports⟩
        omega
      · rintro ⟨ports, inside⟩
        exact ⟨Nat.le_refl _, by omega, inside, hashed, by omega⟩
    simp only [tests]
    rfl
  have long : ¬data.length < 20 := by omega
  unfold pickTxQueue
  rw [if_neg long, if_pos version, hash]
  split
  · rw [show n = 1 by omega, Nat.mod_one]
  · rfl

theorem pickTxQueue_v6 {n : Nat} (some_ : 1 ≤ n) (totalLen : Nat) (protocol : UInt8)
    (src dst : Vector UInt8 16) (segment : List UInt8) (hashed : protocol = 6 ∨ protocol = 17) :
    let payload := (UInt16.ofNat (totalLen - 40)).toNat
    pickTxQueue (ipv6Header totalLen protocol src dst ++ segment) n =
      (carriedHash (pairHash 6 src dst protocol) segment
        (4 ≤ payload ∧ payload ≤ segment.length)).toNat % n := by
  intro payload
  obtain ⟨data, named⟩ : ∃ data, data = ipv6Header totalLen protocol src dst ++ segment := ⟨_, rfl⟩
  have length : data.length = 40 + segment.length := by
    rw [named, List.length_append, ipv6Header_length]
  obtain ⟨payloadLen, nextHeader, -, -⟩ := Ipv6Header.read_built totalLen protocol src dst segment
  obtain ⟨srcBytes, dstBytes⟩ := ipv6_addresses totalLen protocol src dst segment
  have behind := slice_append (ipv6Header totalLen protocol src dst) segment 0 4
  rw [ipv6Header_length, ← named, Nat.add_zero] at behind
  have version : data.getD 0 0 >>> 4 = 6 := by
    rw [named]
    change UInt8.ofNat ((UInt16.ofNat ((0x60000000 : UInt32).toNat / 65536)).toNat / 256) >>> 4 = 6
    decide
  have protocolByte : sliceOf data 6 1 = [protocol] := by
    rw [named]
    rfl
  rw [← named] at payloadLen nextHeader srcBytes dstBytes ⊢
  have field : (data.getD 4 0).toNat * 256 + (data.getD 5 0).toNat = payload := by
    rw [lengthField data 4]
    exact congrArg UInt16.toNat payloadLen
  have hash : hashV6 data = carriedHash (pairHash 6 src dst protocol) segment
      (4 ≤ payload ∧ payload ≤ segment.length) := by
    have whole (a : Vector UInt8 16) : addrBytes 6 a = a.toList :=
      List.take_of_length_le (Nat.le_of_eq Vector.length_toList)
    unfold hashV6 carriedHash pairHash
    dsimp only
    rw [field, show data.getD 6 0 = protocol from nextHeader, length, protocolByte,
      show sliceOf data 8 16 = _ from srcBytes, show sliceOf data 24 16 = _ from dstBytes,
      show sliceOf data 40 4 = _ from behind, whole, whole]
    have tests : (40 + payload ≥ 40 ∧ 40 + segment.length ≥ 40 + payload ∧
        (protocol = 6 ∨ protocol = 17) ∧ 40 + payload - 40 ≥ 4) ↔
          4 ≤ payload ∧ payload ≤ segment.length := by
      constructor
      · rintro ⟨-, inside, -, ports⟩
        omega
      · rintro ⟨ports, inside⟩
        exact ⟨by omega, by omega, hashed, by omega⟩
    simp only [tests]
    rfl
  have long : ¬data.length < 20 := by omega
  have long' : ¬data.length < 40 := by omega
  have other : ¬data.getD 0 0 >>> 4 = 4 := by
    rw [version]
    decide
  unfold pickTxQueue
  rw [if_neg long, if_neg other, if_pos version, if_neg long', hash]
  split
  · rw [show n = 1 by omega, Nat.mod_one]
  · rfl

/-- The length in the IP header of a packet with so many bytes behind it says that the ports are
there.  The field has 16 bits. -/
def Legible (family : UInt8) (len : Nat) : Prop :=
  if family = 4 then 24 ≤ (20 + len) % 65536 else 4 ≤ len % 65536

instance (family : UInt8) (len : Nat) : Decidable (Legible family len) := by
  unfold Legible
  infer_instance

theorem legible_of_small {family : UInt8} {len : Nat} (least : 4 ≤ len) (small : 20 + len ≤ 65535) :
    Legible family len := by
  unfold Legible
  split <;> omega

theorem carriedHash_congr (base : UInt64) (segment : List UInt8) {p q : Prop} [Decidable p] [Decidable q]
    (same : p ↔ q) : carriedHash base segment p = carriedHash base segment q := by
  unfold carriedHash
  simp only [same]

theorem pickTxQueue_built {n : Nat} (some_ : 1 ≤ n) {family : UInt8} (known : IsFamily family)
    {protocol : UInt8} (src dst : Vector UInt8 16) (id : UInt16) (segment : List UInt8)
    (hashed : protocol = 6 ∨ protocol = 17) :
    pickTxQueue (ipHeader family src dst protocol (UdpEngine.ipHeaderSize family + segment.length) id ++
        segment) n =
      (carriedHash (pairHash family src dst protocol) segment
        (Legible family segment.length)).toNat % n := by
  rcases known with rfl | rfl
  · have field : (UInt16.ofNat (20 + segment.length)).toNat = (20 + segment.length) % 65536 :=
      UInt16.toNat_ofNat'
    refine (pickTxQueue_v4 some_ _ _ _ _ _ _ _ _ hashed).trans ?_
    rw [carriedHash_congr _ _ (show _ ↔ Legible 4 segment.length from ?_)]
    change 24 ≤ (UInt16.ofNat (20 + segment.length)).toNat ∧
      (UInt16.ofNat (20 + segment.length)).toNat ≤ _ ↔ 24 ≤ (20 + segment.length) % 65536
    rw [field]
    omega
  · have field : (UInt16.ofNat (40 + segment.length - 40)).toNat = segment.length % 65536 := by
      rw [Nat.add_sub_cancel_left]
      exact UInt16.toNat_ofNat'
    refine (pickTxQueue_v6 some_ _ _ _ _ _ hashed).trans ?_
    rw [carriedHash_congr _ _ (show _ ↔ Legible 6 segment.length from ?_)]
    change 4 ≤ (UInt16.ofNat (40 + segment.length - 40)).toNat ∧
      (UInt16.ofNat (40 + segment.length - 40)).toNat ≤ _ ↔ 4 ≤ segment.length % 65536
    rw [field]
    omega

/-! What the engines emit. -/

/-- The packets of a datagram that is sent to a client; there are none when it is refused. -/
def datagramPackets (mtu : Nat) (key : UdpSessionKey) (remotePort : UInt16) (srcAddr : Vector UInt8 16)
    (payload : List UInt8) (ipId : UInt16) : List (List UInt8) :=
  if udpHeaderSize + payload.length > 65535 then []
  else if payload.length > mtu - UdpEngine.ipHeaderSize key.family - udpHeaderSize then
    if key.family ≠ 4 then []
    else
      fragmentPackets mtu srcAddr key.srcIp (udpBytes remotePort key.srcPort payload
        (udpChecksum 4 srcAddr key.srcIp remotePort key.srcPort payload)) ipId
  else [datagramPacket key remotePort key.family srcAddr payload ipId]

inductive Outgoing
  | segment (c : Conn) (seq : UInt32) (flags : UInt8) (payload : List UInt8) (withMss : Bool)
      (ipId : UInt16)
  | datagram (mtu : Nat) (key : UdpSessionKey) (remotePort : UInt16) (srcAddr : Vector UInt8 16)
      (payload : List UInt8) (ipId : UInt16)

/-- What of an emission does not depend on the bytes that are sent. -/
inductive Shape
  | segment (family : UInt8) (withMss : Bool) (len : Nat)
  | datagram (family : UInt8) (mtu len : Nat)
  deriving DecidableEq, Repr

def Shape.family : Shape → UInt8
  | segment family .. => family
  | datagram family .. => family

/-- There is one packet, and its ports are where the hash looks for them. -/
def Shape.Carries : Shape → Prop
  | segment family withMss len => Legible family ((if withMss then 28 else 20) + len)
  | datagram family mtu len =>
      len ≤ mtu - UdpEngine.ipHeaderSize family - udpHeaderSize ∧ Legible family (udpHeaderSize + len)

/-- The datagram is refused. -/
def Shape.Silent : Shape → Prop
  | segment .. => False
  | datagram family mtu len =>
      udpHeaderSize + len > 65535 ∨
        (len > mtu - UdpEngine.ipHeaderSize family - udpHeaderSize ∧ (family ≠ 4 ∨ mtu < 28))

namespace Outgoing

def packets : Outgoing → List (List UInt8)
  | segment c seq flags payload withMss ipId => [segmentPacket c seq flags payload withMss ipId]
  | datagram mtu key remotePort srcAddr payload ipId =>
      datagramPackets mtu key remotePort srcAddr payload ipId

def shape : Outgoing → Shape
  | segment c _ _ payload withMss _ => .segment c.flow.key.family withMss payload.length
  | datagram mtu key _ _ payload _ => .datagram key.family mtu payload.length

/-- The five-tuple of the packets. -/
def tuple : Outgoing → FiveTuple
  | segment c .. =>
      let key := c.flow.key
      { srcIp := addressOf key.family key.dstIp, dstIp := addressOf key.family key.srcIp
        srcPort := key.dstPort, dstPort := key.srcPort, protocol := ipProtocolTcp, family := key.family }
  | datagram _ key remotePort srcAddr _ _ =>
      { srcIp := addressOf key.family srcAddr, dstIp := addressOf key.family key.srcIp
        srcPort := remotePort, dstPort := key.srcPort, protocol := ipProtocolUdp, family := key.family }

end Outgoing

/-- The hash of a five-tuple. -/
def flowHash (t : FiveTuple) : UInt64 :=
  fnvMix (pairHash t.family t.srcIp t.dstIp t.protocol) (ofWord t.srcPort ++ ofWord t.dstPort)

theorem pairHash_addressOf {family : UInt8} (known : IsFamily family) (src dst : Vector UInt8 16)
    (protocol : UInt8) :
    pairHash family (addressOf family src) (addressOf family dst) protocol =
      pairHash family src dst protocol := by
  unfold pairHash addrBytes
  rw [addressOf_take known, addressOf_take known]

theorem segmentPacket_eq (c : Conn) (seq : UInt32) (flags : UInt8) (payload : List UInt8)
    (withMss : Bool) (ipId : UInt16) :
    ∃ segment, segment.length = (if withMss then 28 else 20) + payload.length ∧
      segment.take 4 = ofWord c.flow.key.dstPort ++ ofWord c.flow.key.srcPort ∧
      segmentPacket c seq flags payload withMss ipId =
        ipHeader c.flow.key.family c.flow.key.dstIp c.flow.key.srcIp ipProtocolTcp
          (UdpEngine.ipHeaderSize c.flow.key.family + segment.length) ipId ++ segment := by
  obtain ⟨built, named⟩ : ∃ built, built = (buildSegment c seq flags payload withMss).1 := ⟨_, rfl⟩
  have length : (tcpBytes c.flow.key built (tcpChecksum c.flow.key built)).length =
      (if withMss then 28 else 20) + payload.length := by
    rw [tcpBytes_length, named, buildSegment_options]
    change 20 + _ + payload.length = _
    split <;> rfl
  refine ⟨tcpBytes c.flow.key built (tcpChecksum c.flow.key built), length, rfl, ?_⟩
  unfold segmentPacket
  dsimp only
  rw [length, named, Nat.add_assoc]

theorem datagramPacket_eq (key : UdpSessionKey) (remotePort : UInt16) (srcAddr : Vector UInt8 16)
    (payload : List UInt8) (ipId : UInt16) :
    ∃ segment, segment.length = udpHeaderSize + payload.length ∧
      segment.take 4 = ofWord remotePort ++ ofWord key.srcPort ∧
      datagramPacket key remotePort key.family srcAddr payload ipId =
        ipHeader key.family srcAddr key.srcIp ipProtocolUdp
          (UdpEngine.ipHeaderSize key.family + segment.length) ipId ++ segment := by
  have length := udpBytes_length remotePort key.srcPort payload
    (udpChecksum key.family srcAddr key.srcIp remotePort key.srcPort payload)
  refine ⟨_, length, rfl, ?_⟩
  unfold datagramPacket
  dsimp only
  rw [length, Nat.add_assoc]

/-- A packet whose ports are in sight is put on the queue of its flow. -/
theorem Outgoing.carries_queue {n : Nat} (some_ : 1 ≤ n) {e : Outgoing} (known : IsFamily e.shape.family)
    (carries : e.shape.Carries) {p : List UInt8} (sent : p ∈ e.packets) :
    pickTxQueue p n = (flowHash e.tuple).toNat % n := by
  cases e with
  | segment c seq flags payload withMss ipId =>
      have known : IsFamily c.flow.key.family := known
      have hashed : ipProtocolTcp = 6 ∨ ipProtocolTcp = 17 := Or.inl rfl
      obtain ⟨segment, length, ports, packet⟩ := segmentPacket_eq c seq flags payload withMss ipId
      rw [List.mem_singleton.mp sent, packet, pickTxQueue_built some_ known _ _ _ _ hashed]
      have legible : Legible c.flow.key.family segment.length := by
        rw [length]
        exact carries
      unfold carriedHash flowHash tuple
      dsimp only
      rw [if_pos legible, ports, pairHash_addressOf known]
  | datagram mtu key remotePort srcAddr payload ipId =>
      have known : IsFamily key.family := known
      have hashed : ipProtocolUdp = 6 ∨ ipProtocolUdp = 17 := Or.inr rfl
      obtain ⟨segment, length, ports, packet⟩ := datagramPacket_eq key remotePort srcAddr payload ipId
      change p ∈ datagramPackets mtu key remotePort srcAddr payload ipId at sent
      unfold datagramPackets at sent
      split at sent
      · cases sent
      · rw [if_neg (Nat.not_lt.mpr carries.1)] at sent
        rw [List.mem_singleton.mp sent, packet, pickTxQueue_built some_ known _ _ _ _ hashed]
        have legible : Legible key.family segment.length := by
          rw [length]
          exact carries.2
        unfold carriedHash flowHash tuple
        dsimp only
        rw [if_pos legible, ports, pairHash_addressOf known]

/-! Packets without ports. -/

/-- Every packet of the shape is put on the queue of every packet of the same five-tuple whose ports
are in sight. -/
def Faithful (n : Nat) (s : Shape) : Prop :=
  ∀ e : Outgoing, e.shape = s → ∀ p ∈ e.packets, ∀ e' : Outgoing, IsFamily e'.shape.family →
    e'.shape.Carries → e'.tuple = e.tuple → ∀ q ∈ e'.packets, pickTxQueue p n = pickTxQueue q n

theorem remainders_differ {n a b c : Nat} (two : 2 ≤ n)
    (coprime : Int.gcd ((b : Int) - a) ((c : Int) - a) = 1) : b % n ≠ a % n ∨ c % n ≠ a % n := by
  by_contra same
  push Not at same
  have first : (n : Int) ∣ (b : Int) - a := Nat.ModEq.dvd same.1.symm
  have second : (n : Int) ∣ (c : Int) - a := Nat.ModEq.dvd same.2.symm
  have divides := Int.dvd_coe_gcd first second
  rw [coprime] at divides
  have one : n ∣ 1 := Int.natCast_dvd_natCast.mp divides
  have small := Nat.le_of_dvd (by omega) one
  omega

def zeroAddress : Vector UInt8 16 := Vector.replicate 16 0

def zeroHash (family protocol : UInt8) : UInt64 := pairHash family zeroAddress zeroAddress protocol

/-- The distances of the hashes with the ports from the one without have no common divisor. -/
theorem ports_coprime {family protocol : UInt8} (known : IsFamily family)
    (hashed : protocol = 6 ∨ protocol = 17) :
    Int.gcd (((fnvMix (zeroHash family protocol) (ofWord 0 ++ ofWord 0)).toNat : Int) -
        (zeroHash family protocol).toNat)
      ((fnvMix (zeroHash family protocol) (ofWord 0 ++ ofWord 1)).toNat -
        (zeroHash family protocol).toNat) = 1 := by
  rcases known with rfl | rfl <;> rcases hashed with rfl | rfl <;> decide +kernel

theorem data_coprime :
    Int.gcd (((fnvMix (zeroHash 4 17) [0, 0, 0, 1]).toNat : Int) -
        (fnvMix (zeroHash 4 17) (ofWord 0 ++ ofWord 0)).toNat)
      ((fnvMix (zeroHash 4 17) [1, 0, 0, 0]).toNat -
        (fnvMix (zeroHash 4 17) (ofWord 0 ++ ofWord 0)).toNat) = 1 := by
  decide +kernel

theorem ports_matter {n : Nat} (two : 2 ≤ n) {family protocol : UInt8} (known : IsFamily family)
    (hashed : protocol = 6 ∨ protocol = 17) :
    ∃ port : UInt16, (fnvMix (zeroHash family protocol) (ofWord 0 ++ ofWord port)).toNat % n ≠
      (zeroHash family protocol).toNat % n := by
  rcases remainders_differ two (ports_coprime known hashed) with differ | differ
  · exact ⟨0, differ⟩
  · exact ⟨1, differ⟩

theorem data_matters {n : Nat} (two : 2 ≤ n) :
    ∃ data : List UInt8, data.length = 4 ∧ (fnvMix (zeroHash 4 17) data).toNat % n ≠
      (fnvMix (zeroHash 4 17) (ofWord 0 ++ ofWord 0)).toNat % n := by
  rcases remainders_differ two data_coprime with differ | differ
  · exact ⟨_, rfl, differ⟩
  · exact ⟨_, rfl, differ⟩

/-! Flows between addresses of zeros. -/

def plainKey (family : UInt8) (port : UInt16) : UdpSessionKey :=
  { srcIp := zeroAddress, srcPort := port, family := family }

def plainConn (family : UInt8) (port : UInt16) : Conn :=
  { opened {} 0 with
    flow.key := { srcIp := zeroAddress, dstIp := zeroAddress, srcPort := port, dstPort := 0
                  protocol := ipProtocolTcp, family := family } }

theorem addressOf_zero (family : UInt8) : addressOf family zeroAddress = zeroAddress := by
  apply Vector.ext
  intro i inside
  rw [addressOf_getElem]
  simp [zeroAddress]

/-- An empty segment of the flow, and an empty datagram of the session. -/
def plainSegment (family : UInt8) (port : UInt16) : Outgoing :=
  .segment (plainConn family port) 0 tcpAck [] false 0

def plainDatagram (family : UInt8) (port : UInt16) : Outgoing :=
  .datagram 1500 (plainKey family port) 0 zeroAddress [] 0

theorem plainSegment_queue {n : Nat} (some_ : 1 ≤ n) {family : UInt8} (known : IsFamily family)
    (port : UInt16) : ∃ q ∈ (plainSegment family port).packets, pickTxQueue q n =
      (fnvMix (zeroHash family ipProtocolTcp) (ofWord 0 ++ ofWord port)).toNat % n := by
  have carries : (plainSegment family port).shape.Carries := legible_of_small (by decide) (by decide)
  have sent : segmentPacket (plainConn family port) 0 tcpAck [] false 0 ∈
      (plainSegment family port).packets := List.mem_singleton_self _
  have known' : IsFamily (plainSegment family port).shape.family := known
  refine ⟨_, sent, (Outgoing.carries_queue some_ known' carries sent).trans ?_⟩
  change (fnvMix (pairHash family (addressOf family zeroAddress) (addressOf family zeroAddress) _)
    _).toNat % n = _
  rw [addressOf_zero]
  rfl

theorem plainDatagram_carries (family : UInt8) (port : UInt16) :
    (plainDatagram family port).shape.Carries := by
  refine ⟨?_, legible_of_small (by decide) (by decide)⟩
  exact Nat.zero_le _

theorem plainDatagram_queue {n : Nat} (some_ : 1 ≤ n) {family : UInt8} (known : IsFamily family)
    (port : UInt16) : ∃ q ∈ (plainDatagram family port).packets, pickTxQueue q n =
      (fnvMix (zeroHash family ipProtocolUdp) (ofWord 0 ++ ofWord port)).toNat % n := by
  have carries := plainDatagram_carries family port
  have sent : datagramPacket (plainKey family port) 0 family zeroAddress [] 0 ∈
      (plainDatagram family port).packets := by
    have fits : ¬([] : List UInt8).length >
        1500 - UdpEngine.ipHeaderSize (plainKey family port).family - udpHeaderSize :=
      Nat.not_lt_zero _
    change _ ∈ datagramPackets 1500 (plainKey family port) 0 zeroAddress [] 0
    unfold datagramPackets
    rw [if_neg (by decide), if_neg fits]
    exact List.mem_singleton_self _
  have known' : IsFamily (plainDatagram family port).shape.family := known
  refine ⟨_, sent, (Outgoing.carries_queue some_ known' carries sent).trans ?_⟩
  change (fnvMix (pairHash family (addressOf family zeroAddress) (addressOf family zeroAddress) _)
    _).toNat % n = _
  rw [addressOf_zero]
  rfl

/-- A packet that wraps its length field is put on a queue that the ports do not choose. -/
theorem segment_unfaithful {n : Nat} (two : 2 ≤ n) {family : UInt8} (known : IsFamily family)
    {withMss : Bool} {len : Nat} (wraps : ¬(Shape.segment family withMss len).Carries) :
    ¬Faithful n (.segment family withMss len) := by
  intro faithful
  have some_ : 1 ≤ n := by omega
  have hashed : ipProtocolTcp = 6 ∨ ipProtocolTcp = 17 := Or.inl rfl
  obtain ⟨port, differ⟩ := ports_matter two known hashed
  obtain ⟨q, sent, queue⟩ := plainSegment_queue some_ known port
  obtain ⟨payload, length⟩ : ∃ payload : List UInt8, payload.length = len :=
    ⟨List.replicate len 0, List.length_replicate⟩
  have same := faithful (.segment (plainConn family port) 0 tcpAck payload withMss 0)
    (congrArg (Shape.segment family withMss) length) _ (List.mem_singleton_self _)
    (plainSegment family port) known (legible_of_small (by decide) (by decide)) rfl q sent
  obtain ⟨segment, size, -, packet⟩ := segmentPacket_eq (plainConn family port) 0 tcpAck payload
    withMss 0
  have illegible : ¬Legible family segment.length := by
    rw [size, length]
    exact wraps
  have picked := pickTxQueue_built some_ known zeroAddress zeroAddress 0 segment hashed
  unfold carriedHash at picked
  rw [if_neg illegible] at picked
  rw [packet, queue] at same
  exact differ (same.symm.trans picked)

theorem single_unfaithful {n : Nat} (two : 2 ≤ n) {family : UInt8} (known : IsFamily family)
    {mtu len : Nat} (small : ¬udpHeaderSize + len > 65535)
    (fits : len ≤ mtu - UdpEngine.ipHeaderSize family - udpHeaderSize)
    (wraps : ¬Legible family (udpHeaderSize + len)) : ¬Faithful n (.datagram family mtu len) := by
  intro faithful
  have some_ : 1 ≤ n := by omega
  have hashed : ipProtocolUdp = 6 ∨ ipProtocolUdp = 17 := Or.inr rfl
  obtain ⟨port, differ⟩ := ports_matter two known hashed
  obtain ⟨q, sent, queue⟩ := plainDatagram_queue some_ known port
  obtain ⟨payload, length⟩ : ∃ payload : List UInt8, payload.length = len :=
    ⟨List.replicate len 0, List.length_replicate⟩
  have emitted : datagramPacket (plainKey family port) 0 family zeroAddress payload 0 ∈
      datagramPackets mtu (plainKey family port) 0 zeroAddress payload 0 := by
    have single : ¬len > mtu - UdpEngine.ipHeaderSize (plainKey family port).family - udpHeaderSize :=
      Nat.not_lt.mpr fits
    unfold datagramPackets
    rw [length, if_neg small, if_neg single]
    exact List.mem_singleton_self _
  have same := faithful (.datagram mtu (plainKey family port) 0 zeroAddress payload 0)
    (congrArg (Shape.datagram family mtu) length) _ emitted
    (plainDatagram family port) known (plainDatagram_carries family port) rfl q sent
  obtain ⟨segment, size, -, packet⟩ := datagramPacket_eq (plainKey family port) 0 zeroAddress payload 0
  have illegible : ¬Legible family segment.length := by
    rw [size, length]
    exact wraps
  have picked := pickTxQueue_built some_ known zeroAddress zeroAddress 0 segment hashed
  unfold carriedHash at picked
  rw [if_neg illegible] at picked
  rw [queue] at same
  exact differ (same.symm.trans ((congrArg (pickTxQueue · n) packet).trans picked))

/-! The second fragment. -/

namespace Fragmentation

theorem maxFragPayload_bounds {mtu : Nat} (large : 28 ≤ mtu) :
    8 ≤ maxFragPayload mtu ∧ maxFragPayload mtu ≤ mtu - 20 ∧ udpHeaderSize + firstData mtu =
      maxFragPayload mtu := by
  have least : 8 ≤ maxFragPayload mtu := by
    unfold maxFragPayload
    rw [if_pos (by omega)]
    omega
  refine ⟨least, ?_, ?_⟩
  · unfold maxFragPayload
    rw [if_pos (by omega)]
    omega
  · have whole : maxFragPayload mtu % 8 = 0 := by
      unfold maxFragPayload
      omega
    unfold firstData udpHeaderSize
    split <;> omega

/-- The second fragment starts where the first is full. -/
theorem second_fragment (f : Fragmentation) (large : 28 ≤ f.mtu)
    (more : maxFragPayload f.mtu < f.datagram.length) :
    f.packet (maxFragPayload f.mtu) ∈ (f.offsets f.datagram.length 0).map f.packet := by
  obtain ⟨least, -, first⟩ := maxFragPayload_bounds large
  have start : f.fragData 0 = maxFragPayload f.mtu := by
    unfold fragData
    dsimp only
    rw [if_pos rfl, first]
    omega
  obtain ⟨fuel, rounds⟩ : ∃ fuel, f.datagram.length = fuel + 2 := ⟨f.datagram.length - 2, by omega⟩
  refine List.mem_map_of_mem ?_
  rw [rounds]
  unfold offsets
  rw [if_pos (by omega), start, Nat.zero_add]
  refine List.mem_cons_of_mem _ ?_
  unfold offsets
  rw [if_pos more]
  exact List.mem_cons_self

/-- What the hash sees of the second fragment. -/
theorem second_queue {n : Nat} (some_ : 1 ≤ n) (f : Fragmentation) (large : 28 ≤ f.mtu)
    (more : maxFragPayload f.mtu < f.datagram.length) (small : f.datagram.length ≤ 65535) :
    pickTxQueue (f.packet (maxFragPayload f.mtu)) n =
      (carriedHash (pairHash 4 f.srcAddr f.dstAddr ipProtocolUdp)
        (f.datagram.drop (maxFragPayload f.mtu))
        (4 ≤ f.datagram.length - maxFragPayload f.mtu)).toNat % n := by
  obtain ⟨least, -, -⟩ := maxFragPayload_bounds large
  have size : f.fragData (maxFragPayload f.mtu) =
      min (maxFragPayload f.mtu) (f.datagram.length - maxFragPayload f.mtu) := by
    unfold fragData
    dsimp only
    rw [if_neg (by omega)]
  have length := slice_length f.datagram (f.fragData_inside more)
  have field : (UInt16.ofNat (20 + f.fragData (maxFragPayload f.mtu))).toNat =
      20 + f.fragData (maxFragPayload f.mtu) := by
    rw [UInt16.toNat_ofNat', size]
    omega
  unfold packet
  rw [pickTxQueue_v4 some_ _ _ _ _ _ _ _ _ (show ipProtocolUdp = 6 ∨ ipProtocolUdp = 17 from Or.inr rfl),
    length, field]
  unfold carriedHash slice
  rw [List.take_take, size]
  by_cases ports : 4 ≤ f.datagram.length - maxFragPayload f.mtu
  · rw [if_pos (by omega), if_pos ports, Nat.min_eq_left (by omega)]
  · rw [if_neg (by omega), if_neg ports]

end Fragmentation

theorem split_unfaithful {n : Nat} (two : 2 ≤ n) {mtu len : Nat}
    (small : ¬udpHeaderSize + len > 65535) (large : 28 ≤ mtu)
    (oversized : len > mtu - UdpEngine.ipHeaderSize 4 - udpHeaderSize) :
    ¬Faithful n (.datagram 4 mtu len) := by
  intro faithful
  have some_ : 1 ≤ n := by omega
  have hashed : ipProtocolUdp = 6 ∨ ipProtocolUdp = 17 := Or.inr rfl
  obtain ⟨least, most, -⟩ := Fragmentation.maxFragPayload_bounds large
  have header : UdpEngine.ipHeaderSize 4 = 20 := rfl
  unfold udpHeaderSize at small oversized
  rw [header] at oversized
  -- The second fragment's part of the datagram, and the port of the client.
  have reached {payload : List UInt8} (length : payload.length = len) (port : UInt16) :
      (carriedHash (zeroHash 4 ipProtocolUdp) (payload.drop (Fragmentation.maxFragPayload mtu - 8))
        (4 ≤ 8 + len - Fragmentation.maxFragPayload mtu)).toNat % n =
        (fnvMix (zeroHash 4 ipProtocolUdp) (ofWord 0 ++ ofWord port)).toNat % n := by
    obtain ⟨checksum, summed⟩ : ∃ checksum, checksum =
        udpChecksum 4 zeroAddress zeroAddress 0 port payload := ⟨_, rfl⟩
    obtain ⟨f, named⟩ : ∃ f : Fragmentation, f =
        { mtu := mtu, srcAddr := zeroAddress, dstAddr := zeroAddress
          datagram := udpBytes 0 port payload checksum, ipId := 0 } := ⟨_, rfl⟩
    have whole : f.datagram.length = 8 + len := by
      rw [named, udpBytes_length, length]
      rfl
    have at_ : f.mtu = mtu := by rw [named]
    have more : Fragmentation.maxFragPayload f.mtu < f.datagram.length := by
      rw [at_, whole]
      omega
    have emitted : f.packet (Fragmentation.maxFragPayload f.mtu) ∈
        datagramPackets mtu (plainKey 4 port) 0 zeroAddress payload 0 := by
      have split : payload.length >
          mtu - UdpEngine.ipHeaderSize (plainKey 4 port).family - udpHeaderSize := by
        rw [length]
        exact oversized
      have wide : ¬Fragmentation.maxFragPayload mtu < udpHeaderSize := Nat.not_lt.mpr least
      have held : ¬udpHeaderSize + payload.length > 65535 := by
        rw [length]
        exact small
      have v4 : ¬(plainKey 4 port).family ≠ 4 := fun other => other rfl
      unfold datagramPackets fragmentPackets
      rw [if_neg held, if_pos split, if_neg v4, if_neg wide]
      have second := f.second_fragment (at_ ▸ large) more
      rw [named] at second ⊢
      rw [summed] at second ⊢
      exact second
    obtain ⟨q, sent, queue⟩ := plainDatagram_queue some_ (Or.inl rfl) port
    have same := faithful (.datagram mtu (plainKey 4 port) 0 zeroAddress payload 0)
      (congrArg (Shape.datagram 4 mtu) length) _ emitted (plainDatagram 4 port) (Or.inl rfl)
      (plainDatagram_carries 4 port) rfl q sent
    rw [queue, f.second_queue some_ (at_ ▸ large) more (by omega), whole, at_] at same
    have data : f.datagram.drop (Fragmentation.maxFragPayload mtu) =
        payload.drop (Fragmentation.maxFragPayload mtu - 8) := by
      have split : f.datagram = (udpFront 0 port payload.length ++ ofWord checksum) ++ payload := by
        rw [named]
        simp only [udpBytes, List.append_assoc]
      rw [split, List.drop_append, List.drop_eq_nil_of_le (by simpa using least), List.nil_append]
      simp
    rw [data] at same
    rw [named] at same
    exact same
  by_cases ports : 4 ≤ 8 + len - Fragmentation.maxFragPayload mtu
  · obtain ⟨data, four, differ⟩ := data_matters two
    obtain ⟨payload, filled⟩ : ∃ payload, payload =
        List.replicate (Fragmentation.maxFragPayload mtu - 8) 0 ++ (data ++
          List.replicate (len - (Fragmentation.maxFragPayload mtu - 8) - 4) 0) := ⟨_, rfl⟩
    have length : payload.length = len := by
      rw [filled]
      simp only [List.length_append, List.length_replicate, four]
      omega
    have same := reached length 0
    unfold carriedHash at same
    rw [if_pos ports, filled, List.drop_left' List.length_replicate, List.take_left' four] at same
    exact differ same
  · obtain ⟨port, differ⟩ := ports_matter two (Or.inl rfl) hashed
    have same := reached (show (List.replicate len 0).length = len from List.length_replicate) port
    unfold carriedHash at same
    rw [if_neg ports] at same
    exact differ same.symm

theorem silent_packets {e : Outgoing} (known : IsFamily e.shape.family) (silent : e.shape.Silent) :
    e.packets = [] := by
  cases e with
  | segment c seq flags payload withMss ipId => exact silent.elim
  | datagram mtu key remotePort srcAddr payload ipId =>
      change datagramPackets mtu key remotePort srcAddr payload ipId = []
      unfold datagramPackets
      by_cases small : udpHeaderSize + payload.length > 65535
      · rw [if_pos small]
      · rw [if_neg small]
        obtain ⟨oversized, refused⟩ := Or.resolve_left silent small
        rw [if_pos oversized]
        by_cases v4 : key.family ≠ 4
        · rw [if_pos v4]
        · rw [if_neg v4]
          have narrow : mtu < 28 := Or.resolve_left refused v4
          have none : Fragmentation.maxFragPayload mtu < udpHeaderSize := by
            unfold Fragmentation.maxFragPayload udpHeaderSize
            split <;> omega
          unfold fragmentPackets
          rw [if_pos none]

/-- A shape is faithful when there is one queue, when its packets carry their ports, or when there
are no packets. -/
theorem faithful_iff {n : Nat} (some_ : 1 ≤ n) {s : Shape} (known : IsFamily s.family) :
    Faithful n s ↔ n = 1 ∨ s.Carries ∨ s.Silent := by
  constructor
  · intro faithful
    by_contra unfaithful
    push Not at unfaithful
    obtain ⟨several, wraps, speaks⟩ := unfaithful
    have two : 2 ≤ n := by omega
    cases s with
    | segment family withMss len => exact segment_unfaithful two known wraps faithful
    | datagram family mtu len =>
        obtain ⟨small, accepted⟩ := not_or.mp speaks
        by_cases fits : len ≤ mtu - UdpEngine.ipHeaderSize family - udpHeaderSize
        · exact single_unfaithful two known small fits (fun legible => wraps ⟨fits, legible⟩) faithful
        · have oversized := Nat.not_le.mp fits
          have answered : ¬(family ≠ 4 ∨ mtu < 28) := fun refused => accepted ⟨oversized, refused⟩
          have v4 : family = 4 := by
            by_contra other
            exact answered (Or.inl other)
          subst v4
          exact split_unfaithful two small (Nat.not_lt.mp fun narrow => answered (Or.inr narrow))
            oversized faithful
  · rintro (one | carries | silent) e rfl p sent e' known' carries' same q sent'
    · subst one
      have first := pickTxQueue_lt p 1 (Nat.le_refl 1)
      have second := pickTxQueue_lt q 1 (Nat.le_refl 1)
      omega
    · rw [Outgoing.carries_queue some_ known carries sent,
        Outgoing.carries_queue some_ known' carries' sent', same]
    · rw [silent_packets known silent] at sent
      cases sent

/-- The choice of a queue: it is one of the queues, packets of one five-tuple whose ports are in
sight share it, and so do those of any other shape exactly when there is but one queue. -/
theorem pickTxQueue_sameFlow {n : Nat} (some_ : 1 ≤ n) :
    (∀ p, pickTxQueue p n < n) ∧
      (∀ e₁ e₂ : Outgoing, IsFamily e₁.shape.family → IsFamily e₂.shape.family →
        e₁.shape.Carries → e₂.shape.Carries → e₁.tuple = e₂.tuple →
        ∀ p ∈ e₁.packets, ∀ q ∈ e₂.packets, pickTxQueue p n = pickTxQueue q n) ∧
      ∀ s : Shape, IsFamily s.family → (Faithful n s ↔ n = 1 ∨ s.Carries ∨ s.Silent) := by
  refine ⟨fun p => pickTxQueue_lt p n some_, ?_, fun s known => faithful_iff some_ known⟩
  intro e₁ e₂ known₁ known₂ carries₁ carries₂ same p sent₁ q sent₂
  rw [Outgoing.carries_queue some_ known₁ carries₁ sent₁,
    Outgoing.carries_queue some_ known₂ carries₂ sent₂, same]

theorem pickTxQueue_sameFlow_four :
    (∀ p, pickTxQueue p 4 < 4) ∧
      (∀ e₁ e₂ : Outgoing, IsFamily e₁.shape.family → IsFamily e₂.shape.family →
        e₁.shape.Carries → e₂.shape.Carries → e₁.tuple = e₂.tuple →
        ∀ p ∈ e₁.packets, ∀ q ∈ e₂.packets, pickTxQueue p 4 = pickTxQueue q 4) ∧
      ∀ s : Shape, IsFamily s.family → (Faithful 4 s ↔ 4 = 1 ∨ s.Carries ∨ s.Silent) :=
  pickTxQueue_sameFlow (by decide)

/-- A datagram of sixteen bytes with an MTU of 36: the second fragment holds the second half of the
payload, and its first four bytes take the place of the ports. -/
theorem fragments_split :
    let packets := (Outgoing.datagram 36 { srcIp := Vector.replicate 16 10, srcPort := 53, family := 4 }
      4000 (Vector.replicate 16 20) [0, 0, 0, 0, 0, 0, 0, 0, 1, 0, 0, 0, 0, 0, 0, 0] 0).packets
    packets.map List.length = [36, 28] ∧ packets.map (pickTxQueue · 2) = [0, 1] ∧
      ¬∀ p ∈ packets, ∀ q ∈ packets, pickTxQueue p 2 = pickTxQueue q 2 := by
  decide +kernel

end Tunio
