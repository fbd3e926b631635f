import Tunio.Unpacking

/-!
A packet that is built in the documented order is parsed as what was meant, by `finalize` itself
and by any other packet.
-/

namespace Tunio

open Octets

/-! What the user means. -/

/-- The two ends of a packet. -/
inductive Network
  | v4 (src dst : Vector UInt8 4) (ttl : UInt8)
  | v6 (src dst : Vector UInt8 16) (hopLimit : UInt8)
  deriving DecidableEq

inductive Transport
  | tcp (srcPort dstPort : UInt16) (seq ack : UInt32) (flags : UInt8) (window : UInt16)
      (options : List UInt8)
  | udp (srcPort dstPort : UInt16)
  | icmp (type code : UInt8) (echo : Option (UInt16 × UInt16))
  deriving DecidableEq

/-- The arguments of the calls that build a packet. -/
structure Draft where
  network : Network
  ipId : Option UInt16 := none
  transport : Transport
  payload : List (List UInt8) := []
  deriving DecidableEq

def Network.call : Network → BuilderCall
  | .v4 src dst ttl => .beginIpv4 src dst ttl
  | .v6 src dst hopLimit => .beginIpv6 src dst hopLimit

def Transport.calls : Transport → List BuilderCall
  | .tcp srcPort dstPort seq ack flags window options =>
      [.beginTcp srcPort dstPort seq ack flags window options]
  | .udp srcPort dstPort => [.beginUdp srcPort dstPort]
  | .icmp type code none => [.beginIcmp type code]
  | .icmp type code (some (id, seq)) => [.beginIcmp type code, .setIcmpEcho id seq]

/-- The calls in the documented order. -/
def Draft.calls (draft : Draft) : List BuilderCall :=
  draft.network.call :: ((draft.ipId.map BuilderCall.setIpId).toList ++ (draft.transport.calls ++
    (draft.payload.map BuilderCall.appendPayload ++ [.finalize])))

namespace PacketBuilder

/-- The calls one after the other; `none` when one of them throws. -/
def runCalls (p : PacketBuilder) : List BuilderCall → Option PacketBuilder
  | [] => some p
  | call :: calls =>
      match p.call call with
      | (_, some _) => none
      | (p, none) => p.runCalls calls

theorem runCalls_cons {p done : PacketBuilder} {call : BuilderCall} {calls : List BuilderCall}
    (ran : p.runCalls (call :: calls) = some done) :
    ∃ next, p.call call = (next, none) ∧ next.runCalls calls = some done := by
  unfold runCalls at ran
  split at ran
  · cases ran
  · rename_i next called
    exact ⟨next, called, ran⟩

theorem runCalls_append {p done : PacketBuilder} {first second : List BuilderCall}
    (ran : p.runCalls (first ++ second) = some done) :
    ∃ next, p.runCalls first = some next ∧ next.runCalls second = some done := by
  induction first generalizing p with
  | nil => exact ⟨p, rfl, ran⟩
  | cons call first ih =>
      obtain ⟨next, called, rest⟩ := runCalls_cons ran
      obtain ⟨middle, early, late⟩ := ih rest
      refine ⟨middle, ?_, late⟩
      rw [runCalls, called]
      exact early

/-- A builder in a state, with the bytes that are committed and as much memory as before. -/
structure Stage (p : PacketBuilder) (bld : BuilderState) (data : List UInt8) (capacity : Nat) :
    Prop where
  bld : p.bld = bld
  bytes : p.buf.bytes = data
  capacity : p.buf.capacity = capacity

theorem Opens.stage {p next : PacketBuilder} {bld : BuilderState}
    (opens : Opens p bld (next, none)) :
    Stage next bld (zeros bld.ipHlen) p.buf.capacity := by
  cases opens with
  | opened enough =>
      have fits : (List.replicate bld.ipHlen (0 : UInt8)).length ≤ p.buf.reset.writableSize := by
        simpa using enough
      have appended := PacketBuffer.append_appended fits
      have none_ : p.buf.reset.bytes = [] := List.length_eq_zero_iff.mp (by simp)
      refine ⟨rfl, ?_, appended.capacity⟩
      rw [appended.bytes, none_]
      rfl

theorem Starts.stage {p next : PacketBuilder} {admitted : Prop} {bld bld' : BuilderState}
    {data : List UInt8} {capacity : Nat} (starts : Starts p admitted bld (next, none))
    (stage : Stage p bld' data capacity) :
    admitted ∧ Stage next bld (data ++ zeros bld.transportHlen) capacity := by
  cases starts with
  | reserved allowed enough =>
      have fits : (List.replicate bld.transportHlen (0 : UInt8)).length ≤ p.buf.writableSize := by
        simpa using enough
      have appended := PacketBuffer.append_appended fits
      refine ⟨allowed, rfl, ?_, appended.capacity.trans stage.capacity⟩
      rw [appended.bytes, stage.bytes]
      rfl

theorem appendPayload_stage {p next : PacketBuilder} {bld : BuilderState}
    {data more : List UInt8} {capacity : Nat} (stage : Stage p bld data capacity)
    (called : p.appendPayload more = (next, none)) : Stage next bld (data ++ more) capacity := by
  unfold appendPayload at called
  split at called
  · cases called
  · split at called
    · cases called
    · rename_i enough
      have appended := PacketBuffer.append_appended (Nat.le_of_not_lt enough)
      split at called
      · cases called
        refine ⟨stage.bld, ?_, appended.capacity.trans stage.capacity⟩
        rw [appended.bytes, stage.bytes]
      · rename_i empty
        cases called
        have nothing : more = [] := by simpa using empty
        rw [nothing, List.append_nil]
        exact stage

theorem payload_stage {p next : PacketBuilder} {bld : BuilderState} {data : List UInt8}
    {capacity : Nat} (stage : Stage p bld data capacity) (payload : List (List UInt8))
    (ran : p.runCalls (payload.map BuilderCall.appendPayload) = some next) :
    Stage next bld (data ++ payload.flatten) capacity := by
  induction payload generalizing p data with
  | nil =>
      cases ran
      simpa using stage
  | cons more payload ih =>
      obtain ⟨middle, called, rest⟩ := runCalls_cons ran
      have grown := ih (appendPayload_stage stage called) rest
      simpa using grown

end PacketBuilder

/-! The state of the builder before `finalize`. -/

def Network.opened : Network → BuilderState
  | .v4 src dst ttl => PacketBuilder.openedV4 src dst ttl
  | .v6 src dst hopLimit => PacketBuilder.openedV6 src dst hopLimit

def Transport.begun (bld : BuilderState) : Transport → BuilderState
  | .tcp srcPort dstPort seq ack flags window options =>
      bld.beginTcp srcPort dstPort seq ack flags window options
  | .udp srcPort dstPort => bld.beginUdp srcPort dstPort
  | .icmp type code none => bld.beginIcmp type code
  | .icmp type code (some (id, seq)) =>
      { bld.beginIcmp type code with icmpId := id, icmpSeq := seq, icmpEchoSet := true }

/-- What a transport header leaves alone. -/
structure SameNetwork (before after : BuilderState) : Prop where
  version : after.version = before.version
  src : after.src = before.src
  dst : after.dst = before.dst
  ttlHop : after.ttlHop = before.ttlHop
  ipId : after.ipId = before.ipId
  ipHlen : after.ipHlen = before.ipHlen

theorem Transport.begun_network (transport : Transport) (bld : BuilderState) :
    SameNetwork bld (transport.begun bld) := by
  cases transport with
  | tcp => exact ⟨rfl, rfl, rfl, rfl, rfl, rfl⟩
  | udp => exact ⟨rfl, rfl, rfl, rfl, rfl, rfl⟩
  | icmp type code echo => cases echo <;> exact ⟨rfl, rfl, rfl, rfl, rfl, rfl⟩

/-- The options that `begin_tcp` takes. -/
def Transport.Allowed : Transport → Prop
  | .tcp _ _ _ _ _ _ options => PacketBuilder.OptionsFit options
  | _ => True

def Draft.state (draft : Draft) : BuilderState :=
  draft.transport.begun { draft.network.opened with ipId := draft.ipId.getD 0 }

namespace PacketBuilder

theorem network_stage {p next : PacketBuilder} (network : Network)
    (called : p.call network.call = (next, none)) :
    Stage next network.opened (zeros network.opened.ipHlen) p.buf.capacity := by
  cases network with
  | v4 src dst ttl =>
      have opens := beginIpv4_opens p src dst ttl
      rw [show p.beginIpv4 src dst ttl = (next, none) from called] at opens
      exact opens.stage
  | v6 src dst hopLimit =>
      have opens := beginIpv6_opens p src dst hopLimit
      rw [show p.beginIpv6 src dst hopLimit = (next, none) from called] at opens
      exact opens.stage

theorem setIpId_stage {p next : PacketBuilder} {bld : BuilderState} {data : List UInt8}
    {capacity : Nat} (stage : Stage p bld data capacity) (zero : bld.ipId = 0)
    (ipId : Option UInt16) (ran : p.runCalls (ipId.map BuilderCall.setIpId).toList = some next) :
    Stage next { bld with ipId := ipId.getD 0 } data capacity := by
  cases ipId with
  | none =>
      cases ran
      rw [Option.getD_none, ← zero]
      exact stage
  | some id =>
      cases ran
      refine ⟨?_, stage.bytes, stage.capacity⟩
      change ({ p.bld with ipId := id } : BuilderState) = _
      rw [stage.bld]
      rfl

theorem transport_stage {p next : PacketBuilder} {bld : BuilderState} {data : List UInt8}
    {capacity : Nat} (stage : Stage p bld data capacity) (transport : Transport)
    (ran : p.runCalls transport.calls = some next) :
    transport.Allowed ∧
      Stage next (transport.begun bld) (data ++ zeros (transport.begun bld).transportHlen) capacity := by
  cases transport with
  | tcp srcPort dstPort seq ack flags window options =>
      obtain ⟨middle, called, rest⟩ := runCalls_cons ran
      cases rest
      have starts := beginTcp_starts p srcPort dstPort seq ack flags window options
      rw [show p.beginTcp srcPort dstPort seq ack flags window options = (next, none) from called,
        stage.bld] at starts
      obtain ⟨⟨_, fit⟩, begun⟩ := starts.stage stage
      exact ⟨fit, begun⟩
  | udp srcPort dstPort =>
      obtain ⟨middle, called, rest⟩ := runCalls_cons ran
      cases rest
      have starts := beginUdp_starts p srcPort dstPort
      rw [show p.beginUdp srcPort dstPort = (next, none) from called, stage.bld] at starts
      exact ⟨trivial, (starts.stage stage).2⟩
  | icmp type code echo =>
      cases echo with
      | none =>
          obtain ⟨middle, called, rest⟩ := runCalls_cons ran
          cases rest
          have starts := beginIcmp_starts p type code
          rw [show p.beginIcmp type code = (next, none) from called, stage.bld] at starts
          exact ⟨trivial, (starts.stage stage).2⟩
      | some echo =>
          obtain ⟨id, seq⟩ := echo
          obtain ⟨middle, called, rest⟩ := runCalls_cons ran
          cases rest
          have starts := beginIcmp_starts p type code
          rw [show p.beginIcmp type code = (middle, none) from called, stage.bld] at starts
          obtain ⟨_, begun⟩ := starts.stage stage
          refine ⟨trivial, ?_, begun.bytes, begun.capacity⟩
          change ({ middle.bld with icmpId := id, icmpSeq := seq, icmpEchoSet := true } :
            BuilderState) = _
          rw [begun.bld]
          rfl

/-- What the calls before `finalize` leave. -/
theorem draft_stage {p done : PacketBuilder} (draft : Draft)
    (ran : p.runCalls draft.calls = some done) :
    draft.transport.Allowed ∧ ∃ packed, packed.finalize = (done, none) ∧
      Stage packed draft.state (zeros draft.state.ipHlen ++
        (zeros draft.state.transportHlen ++ draft.payload.flatten)) p.buf.capacity := by
  obtain ⟨opened, called, rest⟩ := runCalls_cons ran
  obtain ⟨identified, ran, rest⟩ := runCalls_append rest
  have stage := setIpId_stage (network_stage draft.network called) (by cases draft.network <;> rfl)
    draft.ipId ran
  obtain ⟨begun, ran, rest⟩ := runCalls_append rest
  obtain ⟨allowed, stage⟩ := transport_stage stage draft.transport ran
  obtain ⟨packed, ran, rest⟩ := runCalls_append rest
  have stage := payload_stage stage draft.payload ran
  obtain ⟨last, called, rest⟩ := runCalls_cons rest
  cases rest
  refine ⟨allowed, packed, called, stage.bld, ?_, stage.capacity⟩
  have bytes : packed.buf.bytes = zeros draft.network.opened.ipHlen ++
    zeros draft.state.transportHlen ++ draft.payload.flatten := stage.bytes
  have same : draft.state.ipHlen = draft.network.opened.ipHlen :=
    (draft.transport.begun_network _).ipHlen
  rw [bytes, List.append_assoc, same]

end PacketBuilder

/-! What the accessors say. -/

/-- The bytes that `payload()` and `payload_size()` give access to. -/
def IpPacket.payloadBytes (view : IpPacket) (data : List UInt8) : List UInt8 :=
  match view.payload with
  | some offset => slice data offset view.payloadLen
  | none => []

/-- The IP header says what was meant. -/
def Network.Shown (ipId : UInt16) (data : List UInt8) (view : IpPacket) : Network → Prop
  | .v4 src dst ttl =>
      view.version = 4 ∧ view.sourceAddress = .v4 src ∧ view.destinationAddress = .v4 dst ∧
        (∃ header, view.ipv4 = some header ∧ header.ttl = ttl ∧ header.id = ipId ∧
          header.headerLen = 20) ∧
        verifyIpv4Checksum (slice data 0 20) = 0
  | .v6 src dst hopLimit =>
      view.version = 6 ∧ view.sourceAddress = .v6 src ∧ view.destinationAddress = .v6 dst ∧
        ∃ header, view.ipv6 = some header ∧ header.hopLimit = hopLimit

/-- The transport header says what was meant, and its checksum verifies.  Only the types of an echo
have an identifier and a sequence number. -/
def Transport.Shown (data : List UInt8) (view : IpPacket) : Transport → Prop
  | .tcp srcPort dstPort seq ack flags window options =>
      view.protocol = ipProtocolTcp ∧ view.sourcePort = srcPort ∧ view.destinationPort = dstPort ∧
        (∃ header, view.tcpView = some header ∧ header.seq = seq ∧ header.ack = ack ∧
          header.flags = flags ∧ header.window = window ∧
          header.headerLen = 20 + options.length) ∧
        slice (view.payloadBytes data) 20 options.length = options ∧
        tcpUdpChecksum view.version view.srcIp view.dstIp ipProtocolTcp (view.payloadBytes data) = 0
  | .udp srcPort dstPort =>
      view.protocol = ipProtocolUdp ∧ view.sourcePort = srcPort ∧ view.destinationPort = dstPort ∧
        (∃ header, view.udpView = some header ∧ header.checksum ≠ 0) ∧
        tcpUdpChecksum view.version view.srcIp view.dstIp ipProtocolUdp (view.payloadBytes data) = 0
  | .icmp type code echo =>
      view.protocol = PacketBuilder.icmpProtocol view.version ∧ view.icmpType = type ∧
        view.icmpCode = code ∧
        (view.icmpEchoId, view.icmpEchoSeq) =
          (if PacketBuilder.IsEcho view.version type then echo.getD (0, 0) else (0, 0)) ∧
        (view.version = 4 → ipChecksum (view.payloadBytes data) = 0) ∧
        (view.version = 6 → tcpUdpChecksum 6 view.srcIp view.dstIp ipProtocolIcmpv6
          (view.payloadBytes data) = 0)

structure RoundTrip (draft : Draft) (data : List UInt8) (view : IpPacket) : Prop where
  valid : view.valid = true
  totalLength : view.totalLen = data.length
  network : draft.network.Shown (draft.ipId.getD 0) data view
  transport : draft.transport.Shown data view
  application : view.applicationBytes data = draft.payload.flatten

/-! The view of a packet. -/

theorem v4Address_padded (src : Vector UInt8 4) :
    IpPacket.v4Address (addressOf 4 (address src.toList)) = src := by
  apply Vector.ext
  intro i inside
  have front : i < 16 := by omega
  unfold IpPacket.v4Address
  rw [Vector.getElem_ofFn]
  change (addressOf 4 (address src.toList))[i] = src[i]
  rw [addressOf_getElem 4 (address src.toList) i front, if_pos (Or.inr inside),
    address_getElem src.toList i front]
  simp [inside]

namespace Draft

theorem state_network (draft : Draft) :
    SameNetwork { draft.network.opened with ipId := draft.ipId.getD 0 } draft.state :=
  draft.transport.begun_network _

theorem state_family (draft : Draft) :
    draft.state.family = match draft.network with
      | .v4 .. => 4
      | .v6 .. => 6 := by
  unfold BuilderState.family
  rw [draft.state_network.version]
  cases draft.network <;> rfl

theorem state_complete (draft : Draft) : PacketBuilder.Complete draft.state := by
  have same := draft.state_network
  have family := draft.state_family
  constructor
  · rw [same.version, family]
    cases draft.network <;> rfl
  · rw [same.ipHlen, family]
    cases draft.network <;> rfl
  · unfold state
    cases draft.transport with
    | tcp => exact Or.inl rfl
    | udp => exact Or.inr (Or.inl rfl)
    | icmp type code echo =>
        refine Or.inr (Or.inr ?_)
        cases echo <;> cases draft.network <;> first | exact Or.inl rfl | exact Or.inr rfl
  · unfold state
    cases draft.transport with
    | tcp => rfl
    | udp => rfl
    | icmp type code echo => cases echo <;> cases draft.network <;> rfl

/-- The network layer is read from the IP header. -/
theorem network_shown (draft : Draft) {payload : List UInt8} {layer view : IpPacket}
    (layered : Layered draft.state.family draft.state.protocol draft.state.src draft.state.dst
      (draft.state.segment payload).length layer)
    (timed : Timed draft.state.family (if draft.state.version = 4 then draft.state.ipId else 0)
      draft.state.ttlHop layer)
    (same : IpPacket.SameLayer layer view) :
    draft.network.Shown (draft.ipId.getD 0) (PacketBuilder.packet draft.state payload) view := by
  have network := draft.state_network
  have family := draft.state_family
  have verifies := PacketBuilder.packet_verifies draft.state payload
  rw [network.version, network.ipId, network.ttlHop] at timed
  have version := same.version.trans layered.version
  have srcIp := same.srcIp.trans layered.srcIp
  have dstIp := same.dstIp.trans layered.dstIp
  rw [network.src] at srcIp
  rw [network.dst] at dstIp
  cases ends : draft.network with
  | v4 src dst ttl =>
      rw [ends] at family timed srcIp dstIp
      dsimp only at family
      rw [family] at version timed srcIp dstIp
      obtain ⟨id, life, headerLen⟩ := timed.v4 rfl
      refine ⟨version, ?_, ?_, ⟨view.v4, ?_, ?_, ?_, ?_⟩, verifies family⟩
      · unfold IpPacket.sourceAddress
        rw [if_pos version, srcIp]
        exact congrArg IpAddress.v4 (v4Address_padded src)
      · unfold IpPacket.destinationAddress
        rw [if_pos version, dstIp]
        exact congrArg IpAddress.v4 (v4Address_padded dst)
      · unfold IpPacket.ipv4
        rw [if_pos version]
      · rw [same.v4, life]
        rfl
      · rw [same.v4, id]
        rfl
      · rw [same.v4, headerLen]
  | v6 src dst hopLimit =>
      rw [ends] at family timed srcIp dstIp
      dsimp only at family
      rw [family] at version timed srcIp dstIp
      have other : ¬view.version = 4 := by
        rw [version]
        decide
      refine ⟨version, ?_, ?_, view.v6, ?_, ?_⟩
      · unfold IpPacket.sourceAddress
        rw [if_neg other, if_pos version, srcIp, addressOf_v6]
        rfl
      · unfold IpPacket.destinationAddress
        rw [if_neg other, if_pos version, dstIp, addressOf_v6]
        rfl
      · unfold IpPacket.ipv6
        rw [if_pos version]
      · rw [same.v6, timed.v6 rfl]
        rfl

/-- The segment is all that is behind the IP header. -/
theorem payloadBytes_packet {bld : BuilderState} {payload : List UInt8} {layer view : IpPacket}
    (layered : Layered bld.family bld.protocol bld.src bld.dst (bld.segment payload).length layer)
    (same : IpPacket.SameLayer layer view) :
    view.payloadBytes (PacketBuilder.packet bld payload) = bld.segment payload := by
  have behind := PacketBuilder.slice_packet bld payload 0 (bld.segment payload).length
  unfold IpPacket.payloadBytes
  rw [same.payload, layered.payload, same.payloadLen, layered.payloadLen]
  dsimp only
  rw [← Nat.add_zero (UdpEngine.ipHeaderSize bld.family), behind]
  unfold slice
  rw [List.drop_zero, List.take_length]

/-- The transport layer is read from the segment. -/
theorem transport_shown (draft : Draft) (allowed : draft.transport.Allowed) {payload : List UInt8}
    {layer : IpPacket} (sized : PacketBuilder.Sized draft.state payload)
    (layered : Layered draft.state.family draft.state.protocol draft.state.src draft.state.dst
      (draft.state.segment payload).length layer)
    (silent : layer.icmpEchoId = 0 ∧ layer.icmpEchoSeq = 0) :
    let view := layer.parseTransport draft.state.protocol (draft.state.segment payload)
    view.valid = true ∧ IpPacket.SameLayer layer view ∧
      draft.transport.Shown (PacketBuilder.packet draft.state payload) view ∧
      view.applicationBytes (PacketBuilder.packet draft.state payload) = payload := by
  intro view
  have addresses := tcpUdpChecksum_addressOf draft.state.isFamily draft.state.src draft.state.dst
  cases transport : draft.transport with
  | tcp srcPort dstPort seq ack flags window options =>
      have state : draft.state = ({ draft.network.opened with ipId := draft.ipId.getD 0 } :
          BuilderState).beginTcp srcPort dstPort seq ack flags window options := by
        rw [Draft.state, transport]
        rfl
      have protocol : draft.state.protocol = ipProtocolTcp := by rw [state]; rfl
      have fit : PacketBuilder.OptionsFit draft.state.tcpOptions := by
        rw [transport] at allowed
        rw [state]
        exact allowed
      have length : draft.state.transportHlen = 20 + draft.state.tcpOptions.length := by
        rw [state]
        rfl
      obtain ⟨valid, same, read⟩ := PacketBuilder.tcp_read protocol fit length sized layered
      have bytes := payloadBytes_packet layered same
      have is : view.protocol = ipProtocolTcp ∧ view.transportParsed = true :=
        ⟨read.protocol, read.parsed⟩
      refine ⟨valid, same, ⟨read.protocol, ?_, ?_, ⟨view.tcp, if_pos is, ?_, ?_, ?_, ?_, ?_⟩, ?_, ?_⟩,
        read.application⟩
      · rw [IpPacket.sourcePort, if_pos is, read.srcPort, state]
        rfl
      · rw [IpPacket.destinationPort, if_pos is, read.dstPort, state]
        rfl
      · rw [read.seq, state]
        rfl
      · rw [read.ack, state]
        rfl
      · rw [read.flags, state]
        rfl
      · rw [read.window, state]
        rfl
      · rw [read.headerLen, state]
        rfl
      · have area := read.options
        rw [bytes]
        have carried : draft.state.tcpOptions = options := by rw [state]; rfl
        rwa [carried] at area
      · rw [bytes, same.version, same.srcIp, same.dstIp, layered.version, layered.srcIp,
          layered.dstIp, addresses]
        exact read.checksum
  | udp srcPort dstPort =>
      have state : draft.state = ({ draft.network.opened with ipId := draft.ipId.getD 0 } :
          BuilderState).beginUdp srcPort dstPort := by
        rw [Draft.state, transport]
        rfl
      have protocol : draft.state.protocol = ipProtocolUdp := by rw [state]; rfl
      obtain ⟨valid, same, read⟩ := PacketBuilder.udp_read protocol sized layered
      have bytes := payloadBytes_packet layered same
      have is : view.protocol = ipProtocolUdp ∧ view.transportParsed = true :=
        ⟨read.protocol, read.parsed⟩
      have notTcp : ¬(view.protocol = ipProtocolTcp ∧ view.transportParsed = true) := fun tcp =>
        absurd (is.1.symm.trans tcp.1) (by decide)
      refine ⟨valid, same, ⟨read.protocol, ?_, ?_, ⟨view.udp, if_pos is, read.summed⟩, ?_⟩,
        read.application⟩
      · rw [IpPacket.sourcePort, if_neg notTcp, if_pos is, read.srcPort, state]
        rfl
      · rw [IpPacket.destinationPort, if_neg notTcp, if_pos is, read.dstPort, state]
        rfl
      · rw [bytes, same.version, same.srcIp, same.dstIp, layered.version, layered.srcIp,
          layered.dstIp, addresses]
        exact read.checksum
  | icmp type code echo =>
      have set : draft.state.icmpType = type ∧ draft.state.icmpCode = code ∧
          draft.state.protocol = PacketBuilder.icmpProtocol draft.state.family ∧
          (if draft.state.icmpEchoSet then (draft.state.icmpId, draft.state.icmpSeq) else (0, 0)) =
            echo.getD (0, 0) := by
        rw [draft.state_family, Draft.state, transport]
        cases echo <;> cases draft.network <;> exact ⟨rfl, rfl, rfl, rfl⟩
      obtain ⟨isType, isCode, protocol, words⟩ := set
      obtain ⟨valid, same, read⟩ := PacketBuilder.icmp_read protocol sized layered silent
      have bytes := payloadBytes_packet layered same
      have version : view.version = draft.state.family := same.version.trans layered.version
      refine ⟨valid, same, ⟨?_, read.type.trans isType, read.code.trans isCode, ?_, ?_, ?_⟩,
        read.application⟩
      · rw [read.protocol, version]
      · rw [read.echo, version, isType, ← words]
        by_cases echoes : PacketBuilder.IsEcho draft.state.family type
        · simp [echoes]
        · simp [echoes]
      · intro v4
        rw [bytes]
        exact read.v4 (version.symm.trans v4)
      · intro v6
        have family := version.symm.trans v6
        have checksum := read.v6 family
        rw [family] at addresses
        rw [bytes, same.srcIp, same.dstIp, layered.srcIp, layered.dstIp, family, addresses]
        exact checksum

end Draft

namespace PacketBuilder

/-- A packet that is built in the documented order says what was meant, and every packet that has
room for its bytes parses them alike. -/
theorem run_roundTrip {p done : PacketBuilder} (sizes : p.buf.capacity < 2 ^ 64) (draft : Draft)
    (ran : p.runCalls draft.calls = some done) :
    RoundTrip draft done.buf.bytes done.view ∧
      ∀ other : PacketBuilder, done.buf.size ≤ other.buf.capacity - other.buf.headroom →
        (other.parse done.buf done.buf.size).view = done.view ∧
          (other.copyAndParse done.buf.bytes).view = done.view := by
  obtain ⟨allowed, packed, finalized, stage⟩ := draft_stage draft ran
  have complete := draft.state_complete
  rw [← stage.bld] at complete
  have bytes := stage.bytes
  rw [← stage.bld] at bytes
  obtain ⟨built, viewed, sized⟩ := finalize_built complete (stage.capacity ▸ sizes) bytes finalized
  rw [stage.bld] at built viewed sized
  obtain ⟨layer, layered, timed, parsed⟩ := packet_parsed sized
  obtain ⟨valid, same, shown, application⟩ := draft.transport_shown allowed sized layered timed.silent
  have network := draft.network_shown layered timed same
  refine ⟨?_, fun other fits => ?_⟩
  · rw [built, viewed, parsed]
    refine ⟨valid, ?_, network, shown, application⟩
    rw [same.totalLen, layered.totalLen, packet_length]
  · have room : done.buf.bytes.length ≤ other.buf.reset.writableSize := by
      simpa using fits
    refine ⟨?_, ?_⟩
    · rw [(other.parse_buffer done.buf fits).1, viewed, built]
    · rw [viewed, ← built]
      exact if_neg (Nat.not_lt.mpr room)

/-- An echo request with two pieces of payload. -/
theorem run_roundTrip_echo :
    ∃ p done, PacketBuilder.new (List.replicate 48 7) 8 = some p ∧
      p.runCalls (Draft.calls
        { network := .v4 (Vector.replicate 4 10) (Vector.replicate 4 20) 7, ipId := some 300
          transport := .icmp 8 0 (some (1, 2)), payload := [[1, 2], [3]] }) = some done ∧
      RoundTrip
        { network := .v4 (Vector.replicate 4 10) (Vector.replicate 4 20) 7, ipId := some 300
          transport := .icmp 8 0 (some (1, 2)), payload := [[1, 2], [3]] } done.buf.bytes done.view := by
  have built : ((PacketBuilder.new (List.replicate 48 7) 8).bind fun p => p.runCalls (Draft.calls
      { network := .v4 (Vector.replicate 4 10) (Vector.replicate 4 20) 7, ipId := some 300
        transport := .icmp 8 0 (some (1, 2)), payload := [[1, 2], [3]] })).isSome = true := by decide
  obtain ⟨done, both⟩ := Option.isSome_iff_exists.mp built
  obtain ⟨p, made, ran⟩ := Option.bind_eq_some_iff.mp both
  have sizes : p.buf.capacity < 2 ^ 64 := by
    cases made
    decide
  exact ⟨p, done, made, ran, (run_roundTrip sizes _ ran).1⟩

/-- The type of an unreachable destination has no identifier, but it can be given one. -/
theorem setIcmpEcho_unreachable :
    ∃ p done, PacketBuilder.new (List.replicate 48 7) 8 = some p ∧
      p.runCalls (Draft.calls
        { network := .v4 (Vector.replicate 4 10) (Vector.replicate 4 20) 7
          transport := .icmp 3 3 (some (1, 2)) }) = some done ∧
      (done.view.icmpEchoId, done.view.icmpEchoSeq) ≠ (1, 2) :=
  ⟨_, _, rfl, rfl, by decide⟩

end PacketBuilder

end Tunio
