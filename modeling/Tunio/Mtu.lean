import Tunio.Engines
import Tunio.Sending
import Tunio.Spilling
import Tunio.Submission

/-!
The sizes of the packets.  The engines cut what they send by the MTU of the configuration; the
device has the MTU that it was opened with, or the one that came with an injected handle.
-/

namespace Tunio

open UdpEngine (Endpoint.family ipHeaderSize)

/-- What `open` goes by: the configuration, and the MTU that comes with an injected handle. -/
structure OpenConfig where
  cfg : TunConfig := {}
  injected : Bool := false
  externalMtu : Nat := 1500

namespace OpenConfig

/-- The MTU that the device reports. -/
def deviceMtu (o : OpenConfig) : Nat := if o.injected then o.externalMtu else o.cfg.mtu

/-- The capacity of the buffers for packets, a `size_t`. -/
def bufferSize (o : OpenConfig) : Nat := (o.cfg.mtu + 64) % 2 ^ 64

/-- The device takes what the configuration allows, and the capacity of a buffer is a `size_t`. -/
structure Adequate (o : OpenConfig) : Prop where
  device : o.cfg.mtu ≤ o.deviceMtu
  buffer : o.cfg.mtu + 64 < 2 ^ 64

end OpenConfig

/-- The length of the IP packet of a segment. -/
def packetLength (key : FiveTuple) (segment : Segment) : Nat :=
  ipHeaderSize key.family + 20 + segment.options.length + segment.payload.length

/-- The length of a SYN-ACK. -/
def synAckSize (family : UInt8) : Nat := ipHeaderSize family + 28

/-- A packet of so many bytes is not too long for the device, and fits behind the headroom of its
buffer. -/
structure Carried (o : OpenConfig) (length : Nat) : Prop where
  device : length ≤ o.deviceMtu
  buffer : length + 64 ≤ o.bufferSize

theorem OpenConfig.Adequate.carried {o : OpenConfig} (adequate : o.Adequate) {length : Nat}
    (small : length ≤ o.cfg.mtu) : Carried o length := by
  refine ⟨small.trans adequate.device, ?_⟩
  unfold OpenConfig.bufferSize
  rw [Nat.mod_eq_of_lt adequate.buffer]
  omega

theorem Carried.small {o : OpenConfig} {length : Nat} (carried : Carried o length) :
    length ≤ o.cfg.mtu := by
  have whole := carried.buffer
  have least := Nat.mod_le (o.cfg.mtu + 64) (2 ^ 64)
  unfold OpenConfig.bufferSize at whole
  omega

/-- The packet of a segment can be carried, and `build_segment` does not throw where it makes the
segment. -/
structure SegmentCarried (o : OpenConfig) (key : FiveTuple) (segment : Segment) : Prop where
  carried : Carried o (packetLength key segment)
  built : ∀ (c : Conn) (args : BuildArgs), c.flow.key = key → c.eng.cfg = o.cfg →
    args.segment c = segment → ∀ (w : QueueWriter) (junk : Nat → UInt8), ∃ pkt,
      (buildSegmentPacket w junk c args.seq args.flags args.payload args.withMss).2 = some pkt ∧
        pkt.bytes.length = packetLength key segment

/-- A send does not throw, and its packets can be carried. -/
structure SendCarried (o : OpenConfig) (call : SendCall) : Prop where
  made : call ≠ .thrown
  carried : ∀ pkt ∈ call.packets, Carried o pkt.bytes.length

/-- Every segment of every flow is carried, and so is every datagram that a session is given. -/
structure Compliant (o : OpenConfig) (e : Engines) : Prop where
  segments : ∀ id < e.tcp.created, ∀ segment ∈ (e.tcp.conn id).out,
    SegmentCarried o (e.tcp.conn id).flow.key segment
  datagrams : ∀ (id : SessionId) (w : QueueWriter) (junk : Nat → Nat → UInt8) (remote : Endpoint)
    (buffers : List (List UInt8)),
    SendCarried o (doSendTo w junk o.cfg.mtu (e.udp.objects id) remote buffers).2

/-! Segments. -/

/-- A SYN has options and no data, any other segment no options and at most an MSS of data. -/
def Portioned (limit : Nat) (segment : Segment) : Prop :=
  (segment.options.length = 8 ∧ segment.payload = []) ∨
    (segment.options = [] ∧ segment.payload.length ≤ limit)

theorem calls_portioned {c : Conn} {effect : Effect} (permits : c.Permits effect)
    (inMss : effect.data.length ≤ mss c.eng.cfg c.flow.key.family) {args : BuildArgs}
    (called : effect.Calls c args) (at_ : Conn) :
    Portioned (mss c.eng.cfg c.flow.key.family) (args.segment at_) := by
  have options := buildSegment_options at_ args.seq args.flags args.payload args.withMss
  have syn (bare : args.payload = []) (withMss : args.withMss = true) :
      Portioned (mss c.eng.cfg c.flow.key.family) (args.segment at_) := by
    exact Or.inl ⟨options.trans (if_pos withMss), bare⟩
  have plain (small : args.payload.length ≤ mss c.eng.cfg c.flow.key.family)
      (withMss : args.withMss = false) :
      Portioned (mss c.eng.cfg c.flow.key.family) (args.segment at_) := by
    refine Or.inr ⟨List.eq_nil_of_length_eq_zero ?_, small⟩
    exact options.trans (if_neg (by simp [withMss]))
  have bare (empty : args.payload = []) : args.payload.length ≤ mss c.eng.cfg c.flow.key.family := by
    rw [empty]
    exact Nat.zero_le _
  cases effect with
  | submit seq flags payload withMss =>
      subst called
      rcases permits with ⟨-, without⟩ | ⟨-, -, empty, with_, -⟩
      · exact plain inMss without
      · exact syn empty with_
  | next inFlight => exact plain called.2.2 called.2.1
  | accept => exact syn called.2.1 called.2.2
  | _ => exact plain (bare called.2.1) called.2.2

/-- The segments of a flow keep to the MSS of its family. -/
def Conn.Portioned (c : Conn) : Prop :=
  ∀ segment ∈ c.out, Tunio.Portioned (mss c.eng.cfg c.flow.key.family) segment

theorem Conn.Portioned.apply {c : Conn} (portioned : c.Portioned) (effect : Effect)
    (permits : c.Permits effect) (inMss : effect.data.length ≤ mss c.eng.cfg c.flow.key.family) :
    (c.apply effect).Portioned := by
  cases apply_builds c effect with
  | still same =>
      have out : (c.apply effect).out = c.out := congrArg SubmitView.out same
      have key : (c.apply effect).flow.key = c.flow.key := congrArg SubmitView.key same
      have cfg : (c.apply effect).eng.cfg = c.eng.cfg := congrArg SubmitView.cfg same
      unfold Conn.Portioned
      rw [out, key, cfg]
      exact portioned
  | one at_ args _ called built =>
      have out : (c.apply effect).out = c.out ++ [args.segment at_] := congrArg SubmitView.out built
      have key : (c.apply effect).flow.key = c.flow.key := congrArg SubmitView.key built
      have cfg : (c.apply effect).eng.cfg = c.eng.cfg := congrArg SubmitView.cfg built
      unfold Conn.Portioned
      rw [out, key, cfg]
      intro segment member
      rcases List.mem_append.mp member with old | new
      · exact portioned segment old
      · rw [List.mem_singleton.mp new]
        exact calls_portioned permits inMss called at_

theorem openFlow_out (eng : TcpEngine) (id : FlowId) (key : FiveTuple) (th : TcpHeader)
    (payload data : List UInt8) (iss : UInt32) :
    (openFlow eng id key th payload data iss).out = [] := by
  unfold openFlow notifyAccept takeSynData
  dsimp only
  repeat' split
  all_goals rfl

theorem portioned_persists : World.Persists (fun _ _ => True) Conn.Portioned where
  own c event _ _ _ portioned :=
    step_keeps_inMss Conn.Portioned (fun _ effect here permits inMss => here.apply effect permits inMss)
      c event portioned
  aside c eng cfg _ portioned := by
    unfold Conn.Portioned
    rw [cfg]
    exact portioned
  opened eng id key th payload data iss := by
    intro segment member
    rw [openFlow_out] at member
    cases member

/-- With room for a SYN-ACK the MSS leaves room for the headers. -/
theorem mss_fits {cfg : TunConfig} {family : UInt8} (room : synAckSize family ≤ cfg.mtu) :
    ipHeaderSize family + 20 + mss cfg family ≤ cfg.mtu := by
  unfold synAckSize ipHeaderSize at room
  unfold mss ipHeaderSize
  split at room
  · rw [if_pos (by assumption), if_pos (by assumption), if_pos (by omega)]
    omega
  · rw [if_neg (by assumption), if_neg (by assumption), if_pos (by omega)]
    omega

theorem Portioned.small {cfg : TunConfig} {key : FiveTuple} {segment : Segment}
    (portioned : Portioned (mss cfg key.family) segment) (room : synAckSize key.family ≤ cfg.mtu) :
    packetLength key segment ≤ cfg.mtu := by
  have whole := mss_fits room
  unfold packetLength
  rcases portioned with ⟨options, bare⟩ | ⟨options, small⟩
  · rw [options, bare]
    exact room
  · rw [options, List.length_nil]
    omega

theorem buildSegmentPacket_length {w : QueueWriter} {junk : Nat → UInt8} {c : Conn} {seq : UInt32}
    {flags : UInt8} {payload : List UInt8} {withMss : Bool} {pkt : PacketBuffer}
    (made : (buildSegmentPacket w junk c seq flags payload withMss).2 = some pkt) :
    pkt.bytes.length =
      ipHeaderSize c.flow.key.family + (if withMss then 28 else 20) + payload.length := by
  unfold buildSegmentPacket at made
  dsimp only at made
  split at made
  · cases made
  · rename_i got buffer
    cases made
    have size := QueueWriter.buffer_size buffer
    rw [PacketBuffer.bytes_length] at size ⊢
    exact (PacketBuffer.store_size _ _).trans size

/-- What `build_segment` makes of its arguments has the length that it asks for. -/
theorem segment_length (args : BuildArgs) (c : Conn) :
    packetLength c.flow.key (args.segment c) =
      ipHeaderSize c.flow.key.family + (if args.withMss then 28 else 20) + args.payload.length := by
  have options := buildSegment_options c args.seq args.flags args.payload args.withMss
  have payload : (args.segment c).payload = args.payload := rfl
  unfold packetLength
  rw [payload, show (args.segment c).options.length = _ from options]
  split <;> omega

theorem SegmentCarried.of_small {o : OpenConfig} (adequate : o.Adequate) {key : FiveTuple}
    {segment : Segment} (small : packetLength key segment ≤ o.cfg.mtu) :
    SegmentCarried o key segment := by
  refine ⟨adequate.carried small, ?_⟩
  rintro c args rfl cfg rfl w junk
  rw [segment_length] at small
  obtain ⟨pkt, made⟩ := buildSegmentPacket_made w junk args.seq args.flags
    (show _ ≤ c.eng.cfg.mtu by rw [cfg]; exact small)
  exact ⟨pkt, made, (buildSegmentPacket_length made).trans (segment_length args c).symm⟩

/-! Datagrams. -/

theorem Fragmentation.offsets_short (f : Fragmentation) (large : 28 ≤ f.mtu) (fuel : Nat) {off : Nat}
    {packet : List UInt8} (member : packet ∈ (f.offsets fuel off).map f.packet) :
    packet.length ≤ f.mtu := by
  induction fuel generalizing off with
  | zero => cases member
  | succ fuel ih =>
      unfold offsets at member
      split at member
      · rename_i more
        rcases List.mem_cons.mp member with rfl | later
        · obtain ⟨-, fits, -⟩ := f.fragData_size large more
          unfold Fragmentation.packet
          rw [List.length_append, ipv4Header_length,
            Octets.slice_length f.datagram (f.fragData_inside more)]
          exact fits
        · exact ih later
      · cases member

theorem fragmentPackets_short {mtu : Nat} (large : 28 ≤ mtu) (srcAddr dstAddr : Vector UInt8 16)
    (datagram : List UInt8) (ipId : UInt16) {packet : List UInt8}
    (member : packet ∈ fragmentPackets mtu srcAddr dstAddr datagram ipId) : packet.length ≤ mtu := by
  rw [fragmentPackets_eq large] at member
  exact Fragmentation.offsets_short _ large _ member

theorem Ends.carried {o : OpenConfig} (adequate : o.Adequate) {w : QueueWriter} {key : UdpSessionKey}
    {remote : Endpoint} {payload : List UInt8} {call : QueueWriter × SendCall}
    (ends : Ends w o.cfg.mtu key remote payload call)
    (room : payload = [] → ipHeaderSize key.family + udpHeaderSize ≤ o.cfg.mtu) :
    SendCarried o call.2 := by
  cases ends with
  | terminated | stranger | tooLong =>
      exact ⟨nofun, fun _ member => absurd member List.not_mem_nil⟩
  | cut _ _ _ _ _ large srcAddr _ frags _ bytes =>
      refine ⟨nofun, fun pkt member => adequate.carried ?_⟩
      have sent : pkt.bytes ∈ frags.map PacketBuffer.bytes := List.mem_map_of_mem member
      rw [bytes] at sent
      exact fragmentPackets_short large srcAddr key.srcIp _ (w.ipId + 1) sent
  | single _ same _ fits _ srcAddr _ pkt _ bytes =>
      refine ⟨nofun, fun sent member => adequate.carried ?_⟩
      rw [List.mem_singleton.mp member, bytes,
        datagramPacket_length key remote.port (same ▸ family_known remote)]
      unfold Oversized at fits
      by_cases empty : payload = []
      · have least := room empty
        rw [empty]
        exact least
      · have filled := List.length_pos_iff.mpr empty
        omega
  | thrown _ _ fits short =>
      obtain ⟨empty, small⟩ := thrown_empty fits short
      exact absurd (room (List.eq_nil_of_length_eq_zero empty)) (Nat.not_le_of_lt small)

theorem doSendTo_carried {o : OpenConfig} (adequate : o.Adequate) (w : QueueWriter)
    (junk : Nat → Nat → UInt8) (session : UdpSession) (remote : Endpoint)
    (buffers : List (List UInt8))
    (room : buffers.flatten = [] → ipHeaderSize session.key.family + udpHeaderSize ≤ o.cfg.mtu) :
    SendCarried o (doSendTo w junk o.cfg.mtu session remote buffers).2 := by
  cases closed : session.closed with
  | true =>
      unfold doSendTo udpSessionStartSend
      rw [if_pos closed]
      exact ⟨nofun, fun _ member => absurd member List.not_mem_nil⟩
  | false => exact (doSendTo_ends w junk o.cfg.mtu session closed remote buffers).carried adequate room

/-! Runs. -/

namespace Engines

/-- Where the device takes what the configuration allows, the engines keep to its MTU and to their
buffers in every run, as far as the configuration has room for a SYN-ACK and for the headers of an
empty datagram.  A SYN-ACK for which it has no room is not carried. -/
theorem run_compliant (o : OpenConfig) (adequate : o.Adequate) (now : Int)
    (events : List EngineEvent) :
    let e := (fresh o.cfg now).run events
    (∀ id < e.tcp.created, synAckSize (e.tcp.conn id).flow.key.family ≤ o.cfg.mtu →
      ∀ segment ∈ (e.tcp.conn id).out, SegmentCarried o (e.tcp.conn id).flow.key segment) ∧
    (∀ id < e.tcp.created, ∀ segment ∈ (e.tcp.conn id).out, segment.options ≠ [] →
      (SegmentCarried o (e.tcp.conn id).flow.key segment ↔
        synAckSize (e.tcp.conn id).flow.key.family ≤ o.cfg.mtu)) ∧
    (∀ (id : SessionId) (w : QueueWriter) (junk : Nat → Nat → UInt8) (remote : Endpoint)
      (buffers : List (List UInt8)),
      (buffers.flatten = [] →
        ipHeaderSize (e.udp.objects id).key.family + udpHeaderSize ≤ o.cfg.mtu) →
      SendCarried o (doSendTo w junk o.cfg.mtu (e.udp.objects id) remote buffers).2) ∧
    (68 ≤ o.cfg.mtu → Compliant o e) := by
  intro e
  have cfg : e.tcp.eng.cfg = o.cfg := run_cfg o.cfg now events
  have portioned : ∀ id < e.tcp.created, ∀ segment ∈ (e.tcp.conn id).out,
      Portioned (mss o.cfg (e.tcp.conn id).flow.key.family) segment := by
    intro id old segment member
    have here := run_persists portioned_persists o.cfg now events id old segment member
    rwa [show ((fresh o.cfg now).run events |>.tcp.conn id).eng.cfg = o.cfg from cfg] at here
  have segments : ∀ id < e.tcp.created, synAckSize (e.tcp.conn id).flow.key.family ≤ o.cfg.mtu →
      ∀ segment ∈ (e.tcp.conn id).out, SegmentCarried o (e.tcp.conn id).flow.key segment :=
    fun id old room segment member =>
      SegmentCarried.of_small adequate ((portioned id old segment member).small room)
  have datagrams (id : SessionId) (w : QueueWriter) (junk : Nat → Nat → UInt8) (remote : Endpoint)
      (buffers : List (List UInt8)) (room : buffers.flatten = [] →
        ipHeaderSize (e.udp.objects id).key.family + udpHeaderSize ≤ o.cfg.mtu) :=
    doSendTo_carried adequate w junk (e.udp.objects id) remote buffers room
  refine ⟨segments, fun id old segment member syn => ⟨fun carried => ?_, fun room =>
    segments id old room segment member⟩, datagrams, fun large => ⟨fun id old => ?_,
    fun id w junk remote buffers => datagrams id w junk remote buffers fun _ => ?_⟩⟩
  · rcases portioned id old segment member with ⟨options, bare⟩ | ⟨none, -⟩
    · have small := carried.carried.small
      unfold packetLength at small
      rw [options, bare] at small
      exact small
    · exact absurd none syn
  · refine segments id old (le_trans ?_ large)
    unfold synAckSize ipHeaderSize
    split <;> omega
  · refine le_trans ?_ large
    unfold ipHeaderSize udpHeaderSize
    split <;> omega

/-- A write of a thousand bytes on an accepted connection. -/
def writeEvents : List EngineEvent :=
  opening 1 0 0 ++ [.tcp (.call 0 (.write [List.replicate 1000 0] 5)) nofun]

def written : Engines := (fresh {} 0).run writeEvents

theorem run_compliant_default : Compliant {} written :=
  (run_compliant {} ⟨by decide, by decide⟩ 0 writeEvents).2.2.2 (by decide)

/-- The MTU of an injected device does not bound the segments. -/
theorem injected_exceeds : ¬Compliant { injected := true, externalMtu := 576 } written := by
  intro compliant
  have exceeds : ∃ id < written.tcp.created, ∃ segment ∈ (written.tcp.conn id).out,
      576 < packetLength (written.tcp.conn id).flow.key segment := by decide +kernel
  obtain ⟨id, old, segment, member, long⟩ := exceeds
  have short : packetLength (written.tcp.conn id).flow.key segment ≤ 576 :=
    (compliant.segments id old segment member).carried.device
  omega

end Engines

end Tunio
