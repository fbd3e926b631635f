import Tunio.Fragmenting
import Tunio.Refusal

/-!
The packet parser on the fragments of an IPv4 packet.
-/

namespace Tunio

open Octets IpGrammar

/-! The fragments of a packet. -/

/-- A packet that is whole, with an intact transport header. -/
structure WellFormed (packet : List UInt8) : Prop where
  version : ipVersion packet = 4
  intact : ¬Malformed packet
  whole : Unfragmented packet
  known : ipProtocol packet = ipProtocolTcp ∨ ipProtocol packet = ipProtocolUdp ∨
    ipProtocol packet = ipProtocolIcmp
  header : ¬Truncated (ipProtocol packet) (body packet)

structure Fragment where
  header : List UInt8
  data : List UInt8
  deriving DecidableEq

def Fragment.bytes (fragment : Fragment) : List UInt8 := fragment.header ++ fragment.data

/-- The header of a fragment of a packet.  It may have other options than the packet. -/
structure Heads (packet header : List UInt8) (offset size : Nat) (more : Bool) : Prop where
  version : ipVersion header = 4
  least : 20 ≤ header.length
  ihl : ihl header = header.length
  total : pair header 2 = header.length + size
  bits : pair header 6 % 16384 = offset / 8 + if more then 8192 else 0
  protocol : ipProtocol header = ipProtocol packet
  addresses : slice header 12 8 = slice packet 12 8

/-- Fragments with the data of a packet from an offset on. -/
def Splits (packet : List UInt8) : Nat → List Fragment → Prop
  | offset, [] => offset = (body packet).length
  | offset, fragment :: rest =>
      Heads packet fragment.header offset fragment.data.length (!rest.isEmpty) ∧
        offset % 8 = 0 ∧ 0 < fragment.data.length ∧
        fragment.data = slice (body packet) offset fragment.data.length ∧
        Splits packet (offset + fragment.data.length) rest

/-- The fragments with their offsets. -/
def placed : Nat → List Fragment → List (Nat × Fragment)
  | _, [] => []
  | offset, fragment :: rest => (offset, fragment) :: placed (offset + fragment.data.length) rest

def transportHeaderLen (packet : List UInt8) : Nat :=
  if ipProtocol packet = ipProtocolTcp then (TcpHeader.read (body packet)).headerLen else 8

/-- At least two fragments, and the transport header is in the first. -/
structure FragmentsOf (packet : List UInt8) (fragments : List Fragment) : Prop where
  splits : Splits packet 0 fragments
  several : 2 ≤ fragments.length
  header : ∀ first ∈ fragments.head?, transportHeaderLen packet ≤ first.data.length

/-- The first fragment ends before the UDP datagram does. -/
def CutsDatagram (packet : List UInt8) (fragments : List Fragment) : Prop :=
  ipProtocol packet = ipProtocolUdp ∧
    ∃ first ∈ fragments.head?, first.data.length < (UdpHeader.read (body packet)).length.toNat

/-! What the parser says of a fragment. -/

/-- What the accessors tell of the transport header. -/
structure TransportView where
  tcp : Option TcpHeader := none
  udp : Option UdpHeader := none
  icmp : UInt8 × UInt8 × UInt16 × UInt16 × UInt16 := (0, 0, 0, 0, 0)
  deriving DecidableEq

def IpPacket.transportView (view : IpPacket) : TransportView :=
  { tcp := view.tcpView, udp := view.udpView, icmp := view.icmpFields }

structure ParsesAs (packet : List UInt8) (offset : Nat) (data : List UInt8)
    (parsed : PacketBuilder) : Prop where
  valid : parsed.view.valid = true
  fragmented : parsed.view.fragmented = true
  place : parsed.view.fragOffset.toNat = offset
  size : parsed.view.payloadLen = data.length
  payload : parsed.view.payloadBytes parsed.buf.memory = data
  first : offset = 0 → parsed.view.transportView = (IpPacket.doParse packet).transportView
  later : offset ≠ 0 → parsed.view.transportView = {}

/-- The IP layer of a fragment. -/
structure FragmentLayer (bytes : List UInt8) (protocol : UInt8) (bits : Nat) (data : List UInt8) : Prop where
  version : ipVersion bytes = 4
  intact : ¬Malformed bytes
  protocol : ipProtocol bytes = protocol
  bits : pair bytes 6 % 16384 = bits
  places : headerEnd bytes + data.length = totalLength bytes
  body : body bytes = data

theorem Heads.carries {packet : List UInt8} {fragment : Fragment} {offset : Nat} {more : Bool}
    (heads : Heads packet fragment.header offset fragment.data.length more) :
    FragmentLayer fragment.bytes (ipProtocol packet) (offset / 8 + if more then 8192 else 0)
      fragment.data := by
  have same := sameFields fragment.header fragment.data heads.least
  have length : fragment.bytes.length = fragment.header.length + fragment.data.length :=
    List.length_append
  have total : totalLength fragment.bytes = fragment.bytes.length := by
    rw [Fragment.bytes, same.totalLength, totalLength, if_pos heads.version, heads.total]
    exact length.symm
  have ends : headerEnd fragment.bytes = fragment.header.length := by
    rw [Fragment.bytes, same.headerEnd, headerEnd, if_pos heads.version, heads.ihl]
  have version : ipVersion fragment.bytes = 4 := same.version.trans heads.version
  have ihlEq : IpGrammar.ihl fragment.bytes = fragment.header.length := same.ihl.trans heads.ihl
  have totalEq : pair fragment.bytes 2 = fragment.bytes.length := by
    rw [length, ← heads.total]
    exact same.pair 2 (by decide)
  have least := heads.least
  refine ⟨version, ?_, same.protocol.trans heads.protocol, ?_, ?_, ?_⟩
  · intro refused
    cases refused <;> omega
  · rw [← heads.bits]
    exact congrArg (· % 16384) (same.pair 6 (by decide))
  · rw [total, ends, length]
  · rw [body, total, ends, length, Nat.add_sub_cancel_left]
    unfold slice Fragment.bytes
    rw [List.drop_left, List.take_length]

theorem IpPacket.parseTransport_fragOffset (packet : IpPacket) (protocol : UInt8)
    (segment : List UInt8) :
    (packet.parseTransport protocol segment).fragOffset = packet.fragOffset := by
  unfold IpPacket.parseTransport
  dsimp only
  split
  · split
    · rfl
    · split <;> rfl
  · split
    · split
      · rfl
      · split <;> rfl
    · split
      · split
        · rfl
        · split <;> rfl
      · rfl

section

variable {bytes data : List UInt8} {protocol : UInt8} {bits : Nat}

theorem FragmentLayer.leading (carries : FragmentLayer bytes protocol bits data) :
    Leading bytes ↔ bits % 8192 = 0 := by
  unfold Leading
  rw [← carries.bits]
  have version := carries.version
  omega

theorem FragmentLayer.fields (carries : FragmentLayer bytes protocol bits data) :
    (IpPacket.doParse bytes).fragmented = decide (bits ≠ 0) ∧
      (IpPacket.doParse bytes).fragOffset.toNat = bits % 8192 * 8 ∧
      (IpPacket.doParse bytes).payloadLen = data.length ∧
      (IpPacket.doParse bytes).payloadBytes bytes = data := by
  have read := IpPacket.doParse_read carries.intact
  have layer : IpPacket.layer bytes = IpPacket.layerV4 bytes := if_pos carries.version
  obtain ⟨payload, payloadLen⟩ := IpPacket.doParse_payload carries.intact
  have places := carries.places
  refine ⟨?_, ?_, by omega, ?_⟩
  · rw [read.same.fragmented, layer, Bool.eq_iff_iff, decide_eq_true_eq, ← carries.bits]
    exact fragmented_iff bytes
  · have offset : (IpPacket.doParse bytes).fragOffset = (word bytes 6 &&& 0x1fff) * 8 := by
      rw [IpPacket.doParse_intact carries.intact]
      split
      · rw [IpPacket.parseTransport_fragOffset, layer]
        rfl
      · rw [layer]
        rfl
    rw [offset, fragOffset_toNat, ← carries.bits]
    omega
  · unfold IpPacket.payloadBytes
    rw [payload, payloadLen]
    exact carries.body

/-- What comes of the transport header of a fragment. -/
theorem FragmentLayer.transport (carries : FragmentLayer bytes protocol bits data) :
    ((IpPacket.doParse bytes).valid = true ↔ ¬(bits % 8192 = 0 ∧ Truncated protocol data)) ∧
    (bits % 8192 ≠ 0 → (IpPacket.doParse bytes).transportView = {}) := by
  have read := IpPacket.doParse_read carries.intact
  constructor
  · rw [IpPacket.valid, decide_eq_true_eq, read.parseError, carries.protocol, carries.body]
    simp [carries.leading]
  · intro behind
    have unread : ¬(IpPacket.doParse bytes).transportParsed = true := by
      rw [read.whole, carries.leading]
      exact fun both => behind both.1
    have silent := read.icmp
    rw [if_neg fun both => behind (carries.leading.mp both.1)] at silent
    unfold IpPacket.transportView IpPacket.tcpView IpPacket.udpView
    rw [if_neg fun both => unread both.2, if_neg fun both => unread both.2, silent]

end

/-- What the accessors tell of a transport header that was read. -/
def readTransport (protocol : UInt8) (segment : List UInt8) : TransportView :=
  { tcp := if protocol = ipProtocolTcp then some (TcpHeader.read segment) else none
    udp := if protocol = ipProtocolUdp then some (UdpHeader.read segment) else none
    icmp := if IsIcmp protocol then IpPacket.readIcmp protocol segment else (0, 0, 0, 0, 0) }

theorem IpPacket.transportView_read {data : List UInt8} (intact : ¬Malformed data)
    (leading : Leading data) (known : HasHeader (ipProtocol data))
    (whole : ¬Truncated (ipProtocol data) (body data)) :
    (IpPacket.doParse data).transportView = readTransport (ipProtocol data) (body data) := by
  have read := IpPacket.doParse_read intact
  have parsed : (IpPacket.doParse data).transportParsed = true :=
    read.whole.mpr ⟨leading, known, whole⟩
  have protocol : (IpPacket.doParse data).protocol = ipProtocol data :=
    read.same.protocol.trans (IpPacket.layer_places data).2.2.2
  have icmp := read.icmp
  simp only [leading, whole, not_false_eq_true, true_and, and_true] at icmp
  unfold transportView readTransport tcpView udpView
  rw [protocol, parsed, icmp]
  congr 1
  · by_cases tcp : ipProtocol data = ipProtocolTcp
    · rw [if_pos ⟨tcp, rfl⟩, if_pos tcp, read.tcp tcp parsed]
    · rw [if_neg fun both => tcp both.1, if_neg tcp]
  · by_cases udp : ipProtocol data = ipProtocolUdp
    · rw [if_pos ⟨udp, rfl⟩, if_pos udp, read.udp udp parsed]
    · rw [if_neg fun both => udp both.1, if_neg udp]

/-- The header alone says what it says in front of other bytes. -/
theorem readTransport_front {protocol : UInt8} (front rest : List UInt8)
    (tcp : protocol = ipProtocolTcp → 20 ≤ front.length) (least : 8 ≤ front.length) :
    readTransport protocol (front ++ rest) = readTransport protocol front := by
  have words (i : Nat) (inside : i + 2 ≤ 8) : word (front ++ rest) i = word front i :=
    word_front front rest (by omega)
  have bytes (i : Nat) (inside : i < 8) : (front ++ rest).getD i 0 = front.getD i 0 :=
    byte_front front rest (by omega)
  unfold readTransport
  rw [TransportView.mk.injEq]
  refine ⟨?_, ?_, ?_⟩
  · split
    · rename_i same
      have long := tcp same
      unfold TcpHeader.read
      rw [words 0 (by decide), words 2 (by decide), long_front front rest (by omega),
        long_front front rest (by omega), byte_front front rest (by omega),
        byte_front front rest (by omega), word_front front rest (by omega),
        word_front front rest (by omega), word_front front rest (by omega)]
    · rfl
  · split
    · unfold UdpHeader.read
      rw [words 0 (by decide), words 2 (by decide), words 4 (by decide), words 6 (by decide)]
    · rfl
  · split
    · unfold IpPacket.readIcmp
      dsimp only
      rw [bytes 0 (by decide), bytes 1 (by decide), words 2 (by decide), words 4 (by decide),
        words 6 (by decide)]
    · rfl

/-! One fragment after the other. -/

/-- A fragment in its place. -/
structure PlacedIn (packet : List UInt8) (offset : Nat) (fragment : Fragment) : Prop where
  heads : ∃ more, Heads packet fragment.header offset fragment.data.length more
  aligned : offset % 8 = 0
  data : fragment.data = slice (body packet) offset fragment.data.length
  inside : offset + fragment.data.length ≤ (body packet).length

theorem placed_member {start : Nat} {fragments : List Fragment} {entry : Nat × Fragment}
    (member : entry ∈ placed start fragments) : entry.2 ∈ fragments := by
  induction fragments generalizing start with
  | nil => exact absurd member List.not_mem_nil
  | cons fragment rest ih =>
      rcases List.mem_cons.mp member with rfl | later
      · exact List.mem_cons_self
      · exact List.mem_cons_of_mem _ (ih later)

theorem Splits.head {packet : List UInt8} {offset : Nat} {fragment : Fragment}
    {rest : List Fragment} (splits : Splits packet offset (fragment :: rest)) :
    PlacedIn packet offset fragment := by
  obtain ⟨heads, aligned, some_, data, _⟩ := splits
  refine ⟨⟨_, heads⟩, aligned, data, ?_⟩
  have length := congrArg List.length data
  unfold slice at length
  rw [List.length_take, List.length_drop] at length
  omega

theorem Splits.placed {packet : List UInt8} {start : Nat} {fragments : List Fragment}
    (splits : Splits packet start fragments) {entry : Nat × Fragment}
    (member : entry ∈ placed start fragments) :
    start ≤ entry.1 ∧ PlacedIn packet entry.1 entry.2 := by
  induction fragments generalizing start with
  | nil => exact absurd member List.not_mem_nil
  | cons fragment rest ih =>
      rcases List.mem_cons.mp member with rfl | later
      · exact ⟨Nat.le_refl _, splits.head⟩
      · obtain ⟨behind, placed⟩ := ih splits.2.2.2.2 later
        exact ⟨by omega, placed⟩

theorem body_length {packet : List UInt8} (whole : WellFormed packet) :
    (body packet).length < 65516 := by
  have bounds := IpPacket.bounded whole.intact
  have inside := bounds.inside
  have least := bounds.least
  have total : totalLength packet < 65536 := by
    rw [totalLength, if_pos whole.version, ← word_toNat]
    exact (word packet 2).toNat_lt
  have length : (body packet).length ≤ totalLength packet - headerEnd packet := by
    unfold body slice
    rw [List.length_take]
    exact Nat.min_le_left _ _
  omega

/-- The payload is read where the packet stands in the buffer. -/
theorem PacketBuilder.copyAndParse_payload (p : PacketBuilder) {data : List UInt8}
    (fits : data.length ≤ p.buf.capacity - p.buf.headroom) (intact : ¬Malformed data) :
    (p.copyAndParse data).view.payloadBytes (p.copyAndParse data).buf.memory =
      (IpPacket.doParse data).payloadBytes data := by
  rw [p.copyAndParse_view fits, p.copyAndParse_memory fits]
  obtain ⟨payload, payloadLen⟩ := IpPacket.doParse_payload intact
  have bounds := IpPacket.bounded intact
  have inside := bounds.inside
  have most := bounds.most
  unfold IpPacket.payloadBytes
  rw [payload, payloadLen]
  exact slice_inside _ _ (by omega)

section

variable {packet : List UInt8} (whole : WellFormed packet)

include whole

theorem WellFormed.hasHeader : HasHeader (ipProtocol packet) := by
  rcases whole.known with tcp | udp | icmp
  · exact Or.inl tcp
  · exact Or.inr (Or.inl udp)
  · exact Or.inr (Or.inr (Or.inl icmp))

theorem WellFormed.leading : Leading packet := by
  intro four
  have none_ := whole.whole four
  omega

/-- The header of a first fragment that holds it is refused for the length of a UDP datagram
alone. -/
theorem WellFormed.first_truncated {front rest : List UInt8} (split : body packet = front ++ rest)
    (header : transportHeaderLen packet ≤ front.length) :
    (ipProtocol packet = ipProtocolTcp → 20 ≤ front.length) ∧ 8 ≤ front.length ∧
    (Truncated (ipProtocol packet) front ↔ ipProtocol packet = ipProtocolUdp ∧
      front.length < (UdpHeader.read (body packet)).length.toNat) := by
  have intact := whole.header
  unfold transportHeaderLen at header
  rcases whole.known with tcp | udp | icmp
  · have other : ¬ipProtocol packet = ipProtocolUdp := by
      rw [tcp]
      decide
    rw [if_pos tcp] at header
    rw [tcp, truncated_tcp] at intact
    have long : 20 ≤ front.length := by omega
    have same : (TcpHeader.read (body packet)).headerLen = (TcpHeader.read front).headerLen := by
      rw [split, headerLen_tcp, headerLen_tcp, octet, octet, byte_front front rest (by omega)]
    refine ⟨fun _ => long, by omega, ?_⟩
    refine iff_of_false ?_ fun both => other both.1
    rw [tcp, truncated_tcp]
    omega
  · have other : ¬ipProtocol packet = ipProtocolTcp := by
      rw [udp]
      decide
    rw [if_neg other] at header
    rw [udp, truncated_udp] at intact
    have same : (UdpHeader.read (body packet)).length = (UdpHeader.read front).length := by
      rw [split]
      exact word_front front rest (by omega)
    refine ⟨fun tcp => absurd tcp other, header, ?_⟩
    rw [udp, truncated_udp, ← same]
    have least := intact
    constructor
    · intro short
      exact ⟨rfl, by omega⟩
    · rintro ⟨_, short⟩
      omega
  · have other : ¬ipProtocol packet = ipProtocolTcp := by
      rw [icmp]
      decide
    rw [if_neg other] at header
    refine ⟨fun tcp => absurd tcp other, header, ?_⟩
    refine iff_of_false ?_ fun both => ?_
    · rw [truncated_icmp (Or.inl icmp)]
      omega
    · rw [icmp] at both
      exact absurd both.1 (by decide)

end

section

variable {packet : List UInt8} (whole : WellFormed packet) {offset : Nat} {fragment : Fragment}
  (p : PacketBuilder) (fits : fragment.bytes.length ≤ p.buf.capacity - p.buf.headroom)

include whole fits

/-- Any fragment but the first that has been cut is as it should be. -/
theorem parses_placed {more : Bool}
    (heads : Heads packet fragment.header offset fragment.data.length more)
    (place : PlacedIn packet offset fragment) (part : offset ≠ 0 ∨ more = true)
    (header : offset = 0 → transportHeaderLen packet ≤ fragment.data.length) :
    ((p.copyAndParse fragment.bytes).view.valid = true ↔
      ¬(offset = 0 ∧ ipProtocol packet = ipProtocolUdp ∧
        fragment.data.length < (UdpHeader.read (body packet)).length.toNat)) ∧
    ((p.copyAndParse fragment.bytes).view.valid = true →
      ParsesAs packet offset fragment.data (p.copyAndParse fragment.bytes)) := by
  have carries := heads.carries
  have small := body_length whole
  have inside := place.inside
  have aligned := place.aligned
  have low : (offset / 8 + if more then 8192 else 0) % 8192 = offset / 8 := by
    split <;> omega
  obtain ⟨fragmented, offsetEq, size, payload⟩ := carries.fields
  obtain ⟨valid, later⟩ := carries.transport
  rw [low] at valid later offsetEq
  have begins : offset / 8 = 0 ↔ offset = 0 := by omega
  have split : offset = 0 → body packet = fragment.data ++ (body packet).drop fragment.data.length := by
    intro first
    have data := place.data
    rw [first] at data
    unfold slice at data
    rw [List.drop_zero] at data
    nth_rewrite 1 [data]
    exact (List.take_append_drop _ _).symm
  rw [← p.copyAndParse_payload fits carries.intact] at payload
  rw [← p.copyAndParse_view fits] at valid later fragmented offsetEq size
  constructor
  · rw [valid, begins]
    by_cases first : offset = 0
    · have truncated := (whole.first_truncated (split first) (header first)).2.2
      simp only [first, truncated, true_and]
    · simp only [first, false_and]
  · intro fine
    refine ⟨fine, ?_, by omega, size, payload, fun first => ?_, fun behind => later (by omega)⟩
    · rw [fragmented, decide_eq_true_eq]
      rcases part with behind | more
      · omega
      · rw [more, if_pos rfl]
        omega
    · have uncut : ¬Truncated (ipProtocol packet) fragment.data := fun short =>
        valid.mp fine ⟨begins.mpr first, short⟩
      obtain ⟨tcp, least, -⟩ := whole.first_truncated (split first) (header first)
      have leading : Leading fragment.bytes := by
        rw [carries.leading, low]
        exact begins.mpr first
      have known := whole.hasHeader
      have read := IpPacket.transportView_read carries.intact leading
      rw [carries.protocol, carries.body, ← p.copyAndParse_view fits] at read
      rw [read known uncut, IpPacket.transportView_read whole.intact whole.leading known whole.header]
      conv => rhs; rw [split first]
      exact (readTransport_front _ _ tcp least).symm

end

/-- Each fragment of a packet parses as what it is, but for a first one that cuts a UDP datagram. -/
theorem FragmentsOf.parse_iff {packet : List UInt8} (whole : WellFormed packet)
    {fragments : List Fragment} (cut : FragmentsOf packet fragments) (p : PacketBuilder)
    (fits : ∀ fragment ∈ fragments, fragment.bytes.length ≤ p.buf.capacity - p.buf.headroom)
    {entry : Nat × Fragment} (member : entry ∈ placed 0 fragments) :
    ParsesAs packet entry.1 entry.2.data (p.copyAndParse entry.2.bytes) ↔
      ¬(entry.1 = 0 ∧ CutsDatagram packet fragments) := by
  obtain ⟨splits, several, header⟩ := cut
  obtain ⟨first, second, rest, rfl⟩ : ∃ first second rest, fragments = first :: second :: rest := by
    match fragments, several with
    | first :: second :: rest, _ => exact ⟨first, second, rest, rfl⟩
  have place := splits.head
  obtain ⟨heads, -, filled, -, tail⟩ := splits
  rcases List.mem_cons.mp member with rfl | later
  · have cuts : CutsDatagram packet (first :: second :: rest) ↔
        ipProtocol packet = ipProtocolUdp ∧
          first.data.length < (UdpHeader.read (body packet)).length.toNat := by
      simp [CutsDatagram]
    obtain ⟨valid, parses⟩ := parses_placed whole p (fits first List.mem_cons_self) heads place
      (Or.inr rfl) fun _ => header first rfl
    rw [cuts, ← valid]
    exact ⟨ParsesAs.valid, parses⟩
  · obtain ⟨behind, place⟩ := tail.placed later
    obtain ⟨more, heads⟩ := place.heads
    have positive : entry.1 ≠ 0 := by omega
    have room := fits entry.2 (List.mem_cons_of_mem _ (placed_member later))
    obtain ⟨valid, parses⟩ := parses_placed whole p room heads place (Or.inl positive)
      fun none_ => absurd none_ positive
    exact iff_of_true (parses (valid.mpr fun both => positive both.1)) fun both => positive both.1

/-! The fragments of the engine. -/

theorem ipv4Header_grammar (totalLen id frag : UInt16) (ttl protocol : UInt8)
    (src dst : Vector UInt8 16) (rest : List UInt8) :
    let data := ipv4Header totalLen id frag ttl protocol src dst ++ rest
    ipVersion data = 4 ∧ ihl data = 20 ∧ pair data 2 = totalLen.toNat ∧ pair data 6 = frag.toNat ∧
      ipProtocol data = protocol ∧ slice data 12 8 = v4Bytes src ++ v4Bytes dst := by
  intro data
  obtain ⟨headerLen, total, fragOff, _⟩ := Ipv4Header.read_built totalLen id frag ttl protocol src dst
    rest
  obtain ⟨checksum, fields⟩ := ipv4Header_fields totalLen id frag ttl protocol src dst
  have version : ipVersion data = 4 := by
    simp only [data, fields]
    change (0x45 : UInt8).toNat / 16 = 4
    decide
  refine ⟨version, ?_, ?_, ?_, ?_, ?_⟩
  · rw [← headerLen_v4]
    exact headerLen
  · rw [← word_toNat]
    exact congrArg UInt16.toNat total
  · rw [← word_toNat]
    exact congrArg UInt16.toNat fragOff
  · rw [ipProtocol, if_pos version]
    simp only [data, fields]
    rfl
  · simp only [data]
    rw [slice_inside _ rest (by rw [ipv4Header_length]), fields]
    refine List.take_of_length_le ?_
    simp

section

variable (id frag : UInt16) (ttl protocol : UInt8) (src dst : Vector UInt8 16) (data : List UInt8)

theorem built_carries (small : 20 + data.length ≤ 65535) :
    FragmentLayer (ipv4Header (UInt16.ofNat (20 + data.length)) id frag ttl protocol src dst ++ data)
      protocol (frag.toNat % 16384) data := by
  obtain ⟨version, ihlEq, total, bits, protocolEq, _⟩ := ipv4Header_grammar
    (UInt16.ofNat (20 + data.length)) id frag ttl protocol src dst data
  rw [toNat_ofNat small] at total
  have length : (ipv4Header (UInt16.ofNat (20 + data.length)) id frag ttl protocol src dst ++
      data).length = 20 + data.length := by
    rw [List.length_append, ipv4Header_length]
  have ends : headerEnd (ipv4Header (UInt16.ofNat (20 + data.length)) id frag ttl protocol src dst ++
      data) = 20 := by
    rw [headerEnd, if_pos version, ihlEq]
  have totalEq : totalLength (ipv4Header (UInt16.ofNat (20 + data.length)) id frag ttl protocol src
      dst ++ data) = 20 + data.length := by
    rw [totalLength, if_pos version, total]
  refine ⟨version, ?_, protocolEq, congrArg (· % 16384) bits, ?_, ?_⟩
  · intro refused
    cases refused <;> omega
  · rw [ends, totalEq]
  · rw [body, ends, totalEq, Nat.add_sub_cancel_left]
    unfold slice
    rw [List.drop_left' (ipv4Header_length ..), List.take_length]

/-- A total length that does not fit its field is too small. -/
theorem built_refused (large : 65535 < 20 + data.length) (bound : data.length ≤ 65535) :
    Malformed (ipv4Header (UInt16.ofNat (20 + data.length)) id frag ttl protocol src dst ++ data) := by
  obtain ⟨version, ihlEq, total, _, _, _⟩ := ipv4Header_grammar
    (UInt16.ofNat (20 + data.length)) id frag ttl protocol src dst data
  rw [UInt16.toNat_ofNat'] at total
  refine .totalLength version (Or.inl ?_)
  omega

end

/-- A UDP datagram, header included. -/
structure IsDatagram (datagram : List UInt8) : Prop where
  header : 8 ≤ datagram.length
  length : (UdpHeader.read datagram).length.toNat = datagram.length

theorem IsDatagram.short {datagram : List UInt8} (udp : IsDatagram datagram) :
    datagram.length ≤ 65535 := by
  have bound := (UdpHeader.read datagram).length.toNat_lt
  have length := udp.length
  omega

/-- A datagram in a packet of its own. -/
def datagramWhole (src dst : Vector UInt8 16) (datagram : List UInt8) : List UInt8 :=
  ipv4Header (UInt16.ofNat (20 + datagram.length)) 0 0 64 ipProtocolUdp src dst ++ datagram

theorem datagramWhole_wellFormed (src dst : Vector UInt8 16) {datagram : List UInt8}
    (udp : IsDatagram datagram) (small : 20 + datagram.length ≤ 65535) :
    WellFormed (datagramWhole src dst datagram) ∧
      body (datagramWhole src dst datagram) = datagram ∧
      ipProtocol (datagramWhole src dst datagram) = ipProtocolUdp := by
  have carries := built_carries 0 0 64 ipProtocolUdp src dst datagram small
  have whole : ¬Truncated ipProtocolUdp datagram := by
    have header := udp.header
    have length := udp.length
    rw [truncated_udp]
    omega
  refine ⟨⟨carries.version, carries.intact, fun _ => carries.bits, Or.inr (Or.inl carries.protocol),
    ?_⟩, carries.body, carries.protocol⟩
  change ¬Truncated (ipProtocol (ipv4Header _ _ _ _ _ _ _ ++ _))
    (body (ipv4Header _ _ _ _ _ _ _ ++ _))
  rwa [carries.protocol, carries.body]

/-- The flag and the offset in the word they share. -/
theorem fragOff_bits (frag : UInt16) : frag.toNat % 16384 =
    (frag &&& 0x1fff).toNat + if frag &&& 0x2000 ≠ 0 then 8192 else 0 := by
  have low : (frag &&& 0x1fff).toNat = frag.toNat % 8192 := by
    rw [UInt16.toNat_and]
    exact Nat.and_two_pow_sub_one_eq_mod _ 13
  have flag : (frag &&& 0x2000).toNat = (frag.toNat.testBit 13).toNat * 8192 := by
    rw [UInt16.toNat_and]
    exact Nat.and_two_pow frag.toNat 13
  have set : frag &&& 0x2000 ≠ 0 ↔ frag.toNat / 8192 % 2 = 1 := by
    rw [Ne, ← UInt16.toNat_inj, flag, Nat.testBit_eq_decide_div_mod_eq]
    simp
  simp only [low, set]
  split <;> omega

def Fragment.ofBytes (bytes : List UInt8) : Fragment := ⟨bytes.take 20, bytes.drop 20⟩

theorem Fragment.ofBytes_bytes (bytes : List UInt8) : (Fragment.ofBytes bytes).bytes = bytes :=
  List.take_append_drop 20 bytes

/-- The header of a fragment that the engine makes. -/
theorem IsFragment.heads {mtu : Nat} {src dst : Vector UInt8 16} {ipId : UInt16} {start : Nat}
    {more : Bool} {bytes packet : List UInt8} (is : IsFragment mtu src dst ipId start more bytes)
    (protocol : ipProtocol packet = ipProtocolUdp)
    (addresses : slice packet 12 8 = v4Bytes src ++ v4Bytes dst) :
    Heads packet (bytes.take 20) start (bytes.drop 20).length more := by
  have filled := is.filled
  have length : (bytes.take 20).length = 20 := by
    rw [List.length_take]
    omega
  have same := sameFields (bytes.take 20) (bytes.drop 20) (by omega)
  rw [List.take_append_drop] at same
  have first : bytes.getD 0 0 = 0x45 := is.version
  have version : ipVersion bytes = 4 := by
    unfold ipVersion octet
    rw [first]
    decide
  have ihlEq : IpGrammar.ihl bytes = 20 := by
    unfold IpGrammar.ihl octet
    rw [first]
    decide
  have total : pair bytes 2 = bytes.length := by
    rw [← word_toNat]
    exact is.totalLen
  refine ⟨same.version ▸ version, by omega, ?_, ?_, ?_, ?_, ?_⟩
  · rw [← same.ihl, ihlEq, length]
  · rw [← same.pair 2 (by decide), total, length, List.length_drop]
    omega
  · have offset := is.offset
    have aligned := is.aligned
    rw [← same.pair 6 (by decide), ← word_toNat]
    change (Ipv4Header.read bytes).fragOff.toNat % 16384 = _
    rw [fragOff_bits]
    simp only [is.moreFragments]
    omega
  · rw [← same.protocol, protocol, ipProtocol, if_pos version]
    exact is.protocol
  · have joined : slice (bytes.take 20) 12 8 = slice bytes 12 4 ++ slice bytes 16 4 := by
      unfold slice
      rw [List.drop_take, List.take_take]
      change (bytes.drop 12).take 8 = _
      rw [show (8 : Nat) = 4 + 4 from rfl, List.take_add, List.drop_drop]
    rw [joined, is.source, is.destination, addresses]

/-- Fragments that follow one another split the packet whose data they hold. -/
theorem Consecutive.splits {mtu : Nat} {src dst : Vector UInt8 16} {ipId : UInt16}
    {packet : List UInt8} (protocol : ipProtocol packet = ipProtocolUdp)
    (addresses : slice packet 12 8 = v4Bytes src ++ v4Bytes dst) {start : Nat}
    {packets : List (List UInt8)} (follow : Consecutive mtu src dst ipId start packets)
    (inside : start ≤ (body packet).length)
    (data : (packets.map (List.drop 20)).flatten = (body packet).drop start) :
    Splits packet start (packets.map Fragment.ofBytes) := by
  induction packets generalizing start with
  | nil =>
      have none_ := congrArg List.length data
      rw [List.length_drop] at none_
      change 0 = _ at none_
      change start = _
      omega
  | cons bytes rest ih =>
      obtain ⟨is, follow⟩ := follow
      rw [List.map_cons, List.flatten_cons] at data
      have front : bytes.drop 20 = slice (body packet) start (bytes.drop 20).length := by
        unfold slice
        rw [← data, List.take_left]
      have behind : (rest.map (List.drop 20)).flatten =
          (body packet).drop (start + (bytes.drop 20).length) := by
        rw [← List.drop_drop, ← data, List.drop_left]
      have room := congrArg List.length data
      simp only [List.length_append, List.length_drop] at room
      have filled := is.filled
      have heads := is.heads protocol addresses
      have next : start + (bytes.drop 20).length ≤ (body packet).length := by
        rw [List.length_drop]
        omega
      refine ⟨?_, is.aligned, ?_, front, ih follow next behind⟩
      · rw [List.isEmpty_map]
        exact heads
      · change 0 < (bytes.drop 20).length
        rw [List.length_drop]
        omega

section

variable {mtu : Nat} (src dst : Vector UInt8 16) {datagram : List UInt8} (ipId : UInt16)

/-- The first fragment is full. -/
theorem fragmentPackets_first (large : 28 ≤ mtu) (some_ : 0 < datagram.length) :
    ∃ frag rest first, first = datagram.take (Fragmentation.maxFragPayload mtu) ∧
      fragmentPackets mtu src dst datagram ipId =
        (ipv4Header (UInt16.ofNat (20 + first.length)) ipId frag 64 ipProtocolUdp src dst ++ first) ::
          rest ∧
      frag.toNat = (if Fragmentation.maxFragPayload mtu < datagram.length then 8192 else 0) ∧
      (rest = [] ↔ datagram.length ≤ Fragmentation.maxFragPayload mtu) := by
  let f : Fragmentation :=
    { mtu := mtu, srcAddr := src, dstAddr := dst, datagram := datagram, ipId := ipId }
  obtain ⟨least, _, first⟩ := Fragmentation.maxFragPayload_bounds large
  have size : f.fragData 0 = min (Fragmentation.maxFragPayload mtu) datagram.length := by
    unfold Fragmentation.fragData
    dsimp only
    rw [if_pos rfl, first, Nat.sub_zero]
  obtain ⟨fuel, length⟩ : ∃ fuel, datagram.length = fuel + 1 := ⟨datagram.length - 1, by omega⟩
  have offsets : f.offsets datagram.length 0 = 0 :: f.offsets fuel (0 + f.fragData 0) := by
    rw [length]
    exact if_pos some_
  rw [fragmentPackets_eq large]
  refine ⟨(if 0 + f.fragData 0 ≥ datagram.length then 0 else 0x2000) ||| UInt16.ofNat (0 / 8),
    (f.offsets fuel (0 + f.fragData 0)).map f.packet, _, rfl, ?_, ?_, ?_⟩
  · dsimp only
    rw [offsets, List.map_cons, List.length_take]
    congr 1
    unfold Fragmentation.packet
    rw [size, slice, List.drop_zero]
    change _ ++ datagram.take _ = _
    have taken : datagram.take (Fragmentation.maxFragPayload mtu) =
        datagram.take (min (Fragmentation.maxFragPayload mtu) datagram.length) := List.take_eq_take_min
    rw [taken]
  · rw [size]
    by_cases more : Fragmentation.maxFragPayload mtu < datagram.length
    · rw [if_pos more, if_neg (by omega)]
      decide
    · rw [if_neg more, if_pos (by omega)]
      decide
  · have enough : f.datagram.length ≤ 0 + f.fragData 0 + fuel := by
      change datagram.length ≤ _
      omega
    rw [List.map_eq_nil_iff, ← List.isEmpty_iff, f.offsets_isEmpty enough, decide_eq_true_eq, size]
    change datagram.length ≤ _ ↔ _
    omega

/-- The engine's fragments are those of a packet with the whole datagram. -/
theorem fragmentPackets_split (large : 28 ≤ mtu) (udp : IsDatagram datagram)
    (small : 20 + datagram.length ≤ 65535)
    (several : Fragmentation.maxFragPayload mtu < datagram.length) :
    FragmentsOf (datagramWhole src dst datagram)
      ((fragmentPackets mtu src dst datagram ipId).map Fragment.ofBytes) := by
  obtain ⟨_, bodyEq, protocol⟩ := datagramWhole_wellFormed src dst udp small
  have header := udp.header
  obtain ⟨least, -, -⟩ := Fragmentation.maxFragPayload_bounds large
  have addresses : slice (datagramWhole src dst datagram) 12 8 = v4Bytes src ++ v4Bytes dst :=
    (ipv4Header_grammar _ _ _ _ _ src dst datagram).2.2.2.2.2
  have data : ((fragmentPackets mtu src dst datagram ipId).map (List.drop 20)).flatten =
      (body (datagramWhole src dst datagram)).drop 0 := by
    rw [bodyEq]
    exact fragmentPackets_data large src dst datagram ipId
  have follow := fragmentPackets_consecutive large src dst (show datagram.length ≤ 65515 by omega) ipId
  refine ⟨follow.splits protocol addresses (Nat.zero_le _) data, ?_, ?_⟩
  · obtain ⟨frag, rest, first, -, packets, -, one⟩ := fragmentPackets_first src dst ipId large
      (show 0 < datagram.length by omega)
    have more : 0 < rest.length := by
      rw [List.length_pos_iff]
      exact fun none_ => absurd (one.mp none_) (by omega)
    rw [packets, List.length_map, List.length_cons]
    omega
  · obtain ⟨frag, rest, first, front, packets, -, -⟩ := fragmentPackets_first src dst ipId large
      (show 0 < datagram.length by omega)
    rw [packets]
    rintro fragment ⟨⟩
    change _ ≤ (List.drop 20 _).length
    rw [transportHeaderLen, protocol, if_neg (by decide), List.drop_left' (ipv4Header_length ..),
      front, List.length_take]
    omega

/-- All of the engine's fragments parse if there is only one, or none. -/
theorem fragmentPackets_valid (udp : IsDatagram datagram) :
    (∀ packet ∈ fragmentPackets mtu src dst datagram ipId, (IpPacket.doParse packet).valid = true) ↔
      mtu < 28 ∨ (datagram.length ≤ Fragmentation.maxFragPayload mtu ∧
        20 + datagram.length ≤ 65535) := by
  have header := udp.header
  have short := udp.short
  by_cases small : mtu < 28
  · have none_ : fragmentPackets mtu src dst datagram ipId = [] := by
      refine if_pos ?_
      unfold Fragmentation.maxFragPayload udpHeaderSize
      split <;> omega
    rw [none_]
    exact iff_of_true (fun packet member => absurd member List.not_mem_nil) (Or.inl small)
  have large : 28 ≤ mtu := Nat.not_lt.mp small
  obtain ⟨least, _, _⟩ := Fragmentation.maxFragPayload_bounds large
  obtain ⟨frag, rest, first, front, packets, bits, one⟩ := fragmentPackets_first src dst ipId large
    (show 0 < datagram.length by omega)
  have size := congrArg List.length front
  rw [List.length_take] at size
  rw [packets]
  have refused (wide : 65535 < 20 + first.length) : (IpPacket.doParse
      (ipv4Header (UInt16.ofNat (20 + first.length)) ipId frag 64 ipProtocolUdp src dst ++
        first)).valid ≠ true := fun valid =>
    IpPacket.valid_intact valid (built_refused ipId frag 64 ipProtocolUdp src dst first wide (by omega))
  by_cases several : Fragmentation.maxFragPayload mtu < datagram.length
  · refine iff_of_false (fun all => ?_) (by omega)
    have valid := all _ List.mem_cons_self
    by_cases narrow : 20 + first.length ≤ 65535
    · have carries := built_carries ipId frag 64 ipProtocolUdp src dst first narrow
      rw [bits, if_pos several] at carries
      refine carries.transport.1.mp valid ⟨by decide, ?_⟩
      have length : (UdpHeader.read first).length = (UdpHeader.read datagram).length := by
        have whole := word_front first (datagram.drop (Fragmentation.maxFragPayload mtu))
          (show 4 + 2 ≤ first.length by omega)
        rw [front, List.take_append_drop] at whole
        rw [front]
        exact whole.symm
      rw [truncated_udp, length, udp.length]
      omega
    · exact refused (by omega) valid
  · have all : first = datagram := by
      rw [front]
      exact List.take_of_length_le (by omega)
    rw [one.mpr (by omega)]
    rw [if_neg several] at bits
    constructor
    · intro valid
      refine Or.inr ⟨by omega, ?_⟩
      by_contra wide
      exact refused (by omega) (valid _ List.mem_cons_self)
    · intro fits packet member
      have carries := built_carries ipId frag 64 ipProtocolUdp src dst first (by omega)
      rw [bits] at carries
      rw [List.mem_singleton.mp member]
      refine carries.transport.1.mpr fun both => ?_
      have short := (truncated_udp first).mp both.2
      rw [all, udp.length] at short
      omega

end

/-- Each fragment of a packet parses as what it is, but for a first one that cuts a UDP datagram;
and the engine's fragments of a datagram all parse only when there is one. -/
theorem fragments_parse (p : PacketBuilder) :
    (∀ packet fragments, WellFormed packet → FragmentsOf packet fragments →
      (∀ fragment ∈ fragments, fragment.bytes.length ≤ p.buf.capacity - p.buf.headroom) →
      ∀ entry ∈ placed 0 fragments,
        (ParsesAs packet entry.1 entry.2.data (p.copyAndParse entry.2.bytes) ↔
          ¬(entry.1 = 0 ∧ CutsDatagram packet fragments))) ∧
    ∀ (w : QueueWriter) (junk : Nat → Nat → UInt8) (mtu : Nat) (src dst : Vector UInt8 16)
      (datagram : List UInt8) (frags : List PacketBuffer), IsDatagram datagram →
      (udpWriteIpv4Fragments w junk mtu src dst datagram).2 = some frags →
      (∀ frag ∈ frags, frag.bytes.length ≤ p.buf.capacity - p.buf.headroom) →
      (28 ≤ mtu → 20 + datagram.length ≤ 65535 →
        Fragmentation.maxFragPayload mtu < datagram.length →
          WellFormed (datagramWhole src dst datagram) ∧
          FragmentsOf (datagramWhole src dst datagram)
            (frags.map fun frag => Fragment.ofBytes frag.bytes)) ∧
      ((∀ frag ∈ frags, (p.copyAndParse frag.bytes).view.valid = true) ↔
        mtu < 28 ∨ (datagram.length ≤ Fragmentation.maxFragPayload mtu ∧
          20 + datagram.length ≤ 65535)) := by
  refine ⟨fun packet fragments whole cut fits entry member => cut.parse_iff whole p fits member, ?_⟩
  intro w junk mtu src dst datagram frags udp made fits
  have bytes := udpWriteIpv4Fragments_bytes made
  constructor
  · intro large small several
    refine ⟨(datagramWhole_wellFormed src dst udp small).1, ?_⟩
    have split := fragmentPackets_split src dst (w.ipId + 1) large udp small several
    rw [← bytes, List.map_map] at split
    exact split
  · rw [← fragmentPackets_valid src dst (w.ipId + 1) udp, ← bytes]
    constructor
    · intro all packet member
      obtain ⟨frag, one, rfl⟩ := List.mem_map.mp member
      rw [← p.copyAndParse_view (fits frag one)]
      exact all frag one
    · intro all frag one
      rw [p.copyAndParse_view (fits frag one)]
      exact all frag.bytes (List.mem_map_of_mem one)

set_option maxRecDepth 8192 in
/-- A datagram of sixteen bytes in two fragments: the first says sixteen, and holds eight. -/
theorem fragments_parse_two :
    let datagram : List UInt8 := [0, 7, 0, 53, 0, 16, 0, 0, 1, 2, 3, 4, 5, 6, 7, 8]
    let packet := datagramWhole zeroAddress zeroAddress datagram
    let fragments := (fragmentPackets 28 zeroAddress zeroAddress datagram 7).map Fragment.ofBytes
    WellFormed packet ∧ FragmentsOf packet fragments ∧
      ∃ p ∈ PacketBuilder.new (List.replicate 128 0) 64, ∃ entry ∈ placed 0 fragments,
        entry.2.bytes.length ≤ p.buf.capacity - p.buf.headroom ∧
        ¬ParsesAs packet entry.1 entry.2.data (p.copyAndParse entry.2.bytes) := by
  intro datagram packet fragments
  have udp : IsDatagram datagram := ⟨by decide, by decide⟩
  refine ⟨(datagramWhole_wellFormed _ _ udp (by decide)).1,
    fragmentPackets_split _ _ 7 (by decide) udp (by decide) (by decide), _, rfl, ?_⟩
  have refused : ∃ entry ∈ placed 0 fragments, entry.2.bytes.length ≤ 64 ∧
      (IpPacket.doParse entry.2.bytes).valid = false := by decide +kernel
  obtain ⟨entry, member, fits, invalid⟩ := refused
  refine ⟨entry, member, fits, fun parses => ?_⟩
  have valid := parses.valid
  rw [PacketBuilder.copyAndParse_view _ fits, invalid] at valid
  cases valid

end Tunio
