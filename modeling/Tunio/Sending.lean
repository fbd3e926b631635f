import Tunio.Fragmenting

/-!
Datagrams to a client (`udp_session_start_send`).  A send is refused, or its packets are submitted
and its handler is called when they were written; an address that stands for an IPv4 address ends
the process.
-/

namespace Tunio

open Octets
open UdpEngine (Endpoint.family isV4Mapped ipHeaderSize)

/-- What the handler of a send is told. -/
inductive SendCode
  | refused (ec : ErrorCode)
  | device (ec : IoCode)
  deriving DecidableEq, Repr

/-- How a send ends: refused before anything is submitted, with one packet or with fragments that
are submitted, with an exception, or with the end of the process. -/
inductive SendCall
  | refused (ec : ErrorCode)
  | single (pkt : PacketBuffer)
  | fragments (frags : List PacketBuffer)
  | thrown
  | terminated

namespace SendCall

def packets : SendCall → List PacketBuffer
  | single pkt => [pkt]
  | fragments frags => frags
  | refused _ | thrown | terminated => []

def report (total : Nat) (ec : IoCode) : SendCode × Nat :=
  (.device ec, if ec = .success then total else 0)

/-- The calls of the handler, once the packets were reported with `ecs`. -/
def completions (total : Nat) (ecs : List IoCode) : SendCall → List (SendCode × Nat)
  | refused ec => [(.refused ec, 0)]
  | single _ => ecs.map (report total)
  | fragments frags =>
      (ecs.foldl FragmentState.onFrag { pending := frags.length }).done.map (report total)
  | thrown | terminated => []

end SendCall

/-- `udp_session_start_send` on the strand, with the writer and the MTU of the engine. -/
def udpSessionStartSend (w : QueueWriter) (junk : Nat → Nat → UInt8) (mtu : Nat)
    (session : UdpSession) (remote : Endpoint) (buffers : List (List UInt8)) (total : Nat) :
    QueueWriter × SendCall :=
  if session.closed then (w, .refused .badDescriptor)
  else
    match udpEndpointToAddrBytes remote with
    | none => (w, .terminated)
    | some (family, srcAddr) =>
        if session.key.family ≠ family then (w, .refused .addressFamilyNotSupported)
        else if udpHeaderSize + total > 65535 then (w, .refused .messageSize)
        else
          let oversized := decide (total > mtu - ipHeaderSize family - udpHeaderSize)
          if oversized ∧ family ≠ 4 then (w, .refused .messageSize)
          else if oversized then
            let datagram := List.replicate (udpHeaderSize + total) 0
            let datagram := udpBuildDatagram 4 srcAddr session.key.srcIp remote.port
              session.key.srcPort buffers total datagram 0
            match fragmentsCall w junk mtu srcAddr session.key.srcIp datagram with
            | (w, .refused) => (w, .refused .messageSize)
            | (w, .thrown) => (w, .thrown)
            | (w, .submitted frags) => (w, .fragments frags)
          else
            match udpSendSingle w (junk 0) mtu session.key remote.port family srcAddr buffers
                total with
            | (w, none) => (w, .thrown)
            | (w, some pkt) => (w, .single pkt)

/-- `do_send_to` adds up the sizes of the buffers. -/
def doSendTo (w : QueueWriter) (junk : Nat → Nat → UInt8) (mtu : Nat) (session : UdpSession)
    (remote : Endpoint) (buffers : List (List UInt8)) : QueueWriter × SendCall :=
  udpSessionStartSend w junk mtu session remote buffers (buffers.map List.length).sum

/-! Addresses. -/

/-- An IPv6 address that stands for an IPv4 address. -/
def Mapped (remote : Endpoint) : Prop := remote.isV6 = true ∧ isV4Mapped remote.address = true

instance (remote : Endpoint) : Decidable (Mapped remote) :=
  inferInstanceAs (Decidable (_ ∧ _))

/-- The address an endpoint stands for. -/
def remoteAddress (remote : Endpoint) : Vector UInt8 16 :=
  if Mapped remote then address (slice remote.address.toList 12 4) else remote.address

theorem bytes_mapped {remote : Endpoint} (mapped : Mapped remote) :
    udpEndpointToAddrBytes remote = none := by
  unfold udpEndpointToAddrBytes
  rw [if_neg (fun plain => plain.2 mapped.2), if_pos mapped.1]

theorem bytes_plain {remote : Endpoint} (plain : ¬Mapped remote) :
    ∃ srcAddr, udpEndpointToAddrBytes remote = some (Endpoint.family remote, srcAddr) ∧
      addrBytes (Endpoint.family remote) srcAddr =
        addrBytes (Endpoint.family remote) (remoteAddress remote) := by
  have itself : remoteAddress remote = remote.address := if_neg plain
  rw [itself]
  by_cases v6 : remote.isV6 = true
  · have real : ¬isV4Mapped remote.address = true := fun mapped => plain ⟨v6, mapped⟩
    have family : Endpoint.family remote = 6 := by
      simp [UdpEngine.Endpoint.family, v6, real]
    refine ⟨remote.address, ?_, rfl⟩
    unfold udpEndpointToAddrBytes
    rw [if_pos ⟨v6, real⟩, family]
  · have family : Endpoint.family remote = 4 := by
      simp [UdpEngine.Endpoint.family, v6]
    refine ⟨addressOf 4 remote.address, ?_, ?_⟩
    · unfold udpEndpointToAddrBytes
      rw [if_neg (fun real => v6 real.1), if_neg v6, family]
    · rw [family]
      exact addressOf_take (Or.inl rfl) _

/-! The buffer of a single packet. -/

/-- How long a packet can be in the buffer that the pool gives. -/
def pooledRoom (pool : List PacketBuffer) (mtu : Nat) : Nat :=
  match pool.find? fun buf => buf.capacity ≥ mtu + 64 ∧ buf.headroom = 64 with
  | some buf => buf.capacity - 64
  | none => mtu

theorem pooledRoom_ge (pool : List PacketBuffer) (mtu : Nat) : mtu ≤ pooledRoom pool mtu := by
  unfold pooledRoom
  split
  · rename_i buf found
    have large : buf.capacity ≥ mtu + 64 ∧ buf.headroom = 64 := by
      simpa using List.find?_some found
    omega
  · exact Nat.le_refl _

theorem acquireFrom_find (memory : List UInt8) (headroom : Nat) (pool : List PacketBuffer) :
    (QueueWriter.acquireFrom memory headroom pool).2 =
      ((pool.find? fun buf => buf.capacity ≥ memory.length ∧ buf.headroom = headroom).or
        (PacketBuffer.new memory headroom)) := by
  induction pool with
  | nil => rfl
  | cons buf rest ih =>
      unfold QueueWriter.acquireFrom
      rw [List.find?_cons]
      by_cases large : buf.capacity ≥ memory.length ∧ buf.headroom = headroom
      · simp [large]
      · rw [if_neg large, ih]
        simp [large]

theorem buffer_room (w : QueueWriter) (junk : Nat → UInt8) (mtu : Nat) {total : Nat}
    (some_ : 0 < total) :
    (∃ pkt, (w.buffer junk (mtu + 64) total).2 = some pkt) ↔ total ≤ pooledRoom w.pool mtu := by
  have length : (allocate junk (mtu + 64)).length = mtu + 64 := by simp [allocate]
  have got := acquireFrom_find (allocate junk (mtu + 64)) 64 w.pool
  rw [length] at got
  have resized (buf : PacketBuffer) :
      (∃ pkt, buf.resize total = some pkt) ↔ total ≤ buf.capacity - buf.headroom := by
    unfold PacketBuffer.resize
    by_cases fits : total ≤ buf.capacity - buf.headroom <;> simp [fits]
  change (∃ pkt, (QueueWriter.acquireFrom _ 64 w.pool).2.bind _ = some pkt) ↔ _
  rw [got]
  unfold pooledRoom
  cases found : w.pool.find? fun buf => buf.capacity ≥ mtu + 64 ∧ buf.headroom = 64 with
  | some buf =>
      have headroom : buf.capacity ≥ mtu + 64 ∧ buf.headroom = 64 := by
        simpa using List.find?_some found
      have here := resized buf
      rw [headroom.2] at here
      exact here
  | none =>
      rw [Option.none_or]
      unfold PacketBuffer.new
      by_cases room : 64 < (allocate junk (mtu + 64)).length
      · rw [dif_pos room]
        refine (resized _).trans ?_
        unfold PacketBuffer.capacity
        dsimp only
        rw [length]
        omega
      · rw [dif_neg room]
        simp
        omega

/-! What a call does. -/

/-- The payload does not fit one packet. -/
def Oversized (mtu : Nat) (family : UInt8) (payload : List UInt8) : Prop :=
  mtu - ipHeaderSize family - udpHeaderSize < payload.length

/-- The ends of a call on an open session, each with what leads to it. -/
inductive Ends (w : QueueWriter) (mtu : Nat) (key : UdpSessionKey) (remote : Endpoint)
    (payload : List UInt8) : QueueWriter × SendCall → Prop
  | terminated (mapped : Mapped remote) : Ends w mtu key remote payload (w, .terminated)
  | stranger (plain : ¬Mapped remote) (other : key.family ≠ Endpoint.family remote) :
      Ends w mtu key remote payload (w, .refused .addressFamilyNotSupported)
  | tooLong (plain : ¬Mapped remote) (same : key.family = Endpoint.family remote)
      (long : 65535 < udpHeaderSize + payload.length ∨
        (Oversized mtu key.family payload ∧ (key.family ≠ 4 ∨ mtu < 28))) :
      Ends w mtu key remote payload (w, .refused .messageSize)
  | cut (plain : ¬Mapped remote) (same : key.family = Endpoint.family remote)
      (short : udpHeaderSize + payload.length ≤ 65535) (v4 : key.family = 4)
      (oversized : Oversized mtu key.family payload) (large : 28 ≤ mtu) (srcAddr : Vector UInt8 16)
      (source : addrBytes 4 srcAddr = addrBytes 4 (remoteAddress remote))
      (frags pool : List PacketBuffer)
      (bytes : frags.map PacketBuffer.bytes = fragmentPackets mtu srcAddr key.srcIp
        (udpBytes remote.port key.srcPort payload
          (udpChecksum 4 srcAddr key.srcIp remote.port key.srcPort payload)) (w.ipId + 1)) :
      Ends w mtu key remote payload ({ w with pool := pool, ipId := w.ipId + 1 }, .fragments frags)
  | single (plain : ¬Mapped remote) (same : key.family = Endpoint.family remote)
      (short : udpHeaderSize + payload.length ≤ 65535)
      (fits : ¬Oversized mtu key.family payload)
      (room : ipHeaderSize key.family + udpHeaderSize + payload.length ≤ pooledRoom w.pool mtu)
      (srcAddr : Vector UInt8 16)
      (source : addrBytes key.family srcAddr = addrBytes key.family (remoteAddress remote))
      (pkt : PacketBuffer) (pool : List PacketBuffer)
      (bytes : pkt.bytes = datagramPacket key remote.port key.family srcAddr payload (w.ipId + 1)) :
      Ends w mtu key remote payload ({ w with pool := pool, ipId := w.ipId + 1 }, .single pkt)
  | thrown (plain : ¬Mapped remote) (same : key.family = Endpoint.family remote)
      (fits : ¬Oversized mtu key.family payload)
      (room : pooledRoom w.pool mtu < ipHeaderSize key.family + udpHeaderSize + payload.length)
      (pool : List PacketBuffer) : Ends w mtu key remote payload ({ w with pool := pool }, .thrown)

theorem family_known (remote : Endpoint) : IsFamily (Endpoint.family remote) := by
  unfold UdpEngine.Endpoint.family
  split
  · exact Or.inr rfl
  · exact Or.inl rfl

theorem udpSendSingle_ends (w : QueueWriter) (junk : Nat → UInt8) (mtu : Nat) (key : UdpSessionKey)
    (remotePort : UInt16) (srcAddr : Vector UInt8 16) (buffers : List (List UInt8))
    (known : IsFamily key.family) :
    let need := ipHeaderSize key.family + udpHeaderSize + buffers.flatten.length
    let sent := udpSendSingle w junk mtu key remotePort key.family srcAddr buffers
      buffers.flatten.length
    (need ≤ pooledRoom w.pool mtu ∧ ∃ pkt pool,
      sent = ({ w with pool := pool, ipId := w.ipId + 1 }, some pkt) ∧
      pkt.bytes = datagramPacket key remotePort key.family srcAddr buffers.flatten (w.ipId + 1)) ∨
    (pooledRoom w.pool mtu < need ∧ ∃ pool, sent = ({ w with pool := pool }, none)) := by
  dsimp only
  have room := buffer_room w junk mtu
    (show 0 < ipHeaderSize key.family + udpHeaderSize + buffers.flatten.length by
      unfold udpHeaderSize
      omega)
  cases got : (w.buffer junk (mtu + 64)
      (ipHeaderSize key.family + udpHeaderSize + buffers.flatten.length)).2 with
  | none =>
      right
      constructor
      · by_contra fits
        obtain ⟨pkt, made⟩ := room.mpr (Nat.not_lt.mp fits)
        rw [got] at made
        cases made
      · refine ⟨(w.buffer junk (mtu + 64)
          (ipHeaderSize key.family + udpHeaderSize + buffers.flatten.length)).1.pool, ?_⟩
        unfold udpSendSingle
        dsimp only
        rw [got]
        rfl
  | some pkt =>
      left
      obtain ⟨filled, pool, made⟩ : ∃ filled pool,
          udpSendSingle w junk mtu key remotePort key.family srcAddr buffers buffers.flatten.length =
            ({ w with pool := pool, ipId := w.ipId + 1 }, some filled) := by
        unfold udpSendSingle
        dsimp only
        rw [got]
        exact ⟨_, _, rfl⟩
      have bytes := udpSendSingle_bytes known (Nat.le_refl _) (congrArg Prod.snd made)
      rw [List.take_length] at bytes
      exact ⟨room.mp ⟨pkt, got⟩, filled, pool, made, bytes⟩

theorem doSendTo_ends (w : QueueWriter) (junk : Nat → Nat → UInt8) (mtu : Nat)
    (session : UdpSession) (opened : session.closed = false) (remote : Endpoint)
    (buffers : List (List UInt8)) :
    Ends w mtu session.key remote buffers.flatten
      (doSendTo w junk mtu session remote buffers) := by
  have isOpen : ¬session.closed = true := by simp [opened]
  unfold doSendTo udpSessionStartSend
  rw [if_neg isOpen, ← List.length_flatten]
  by_cases mapped : Mapped remote
  · rw [bytes_mapped mapped]
    exact .terminated mapped
  · obtain ⟨srcAddr, bytes, source⟩ := bytes_plain mapped
    rw [bytes]
    dsimp only
    by_cases same : session.key.family = Endpoint.family remote
    · have known : IsFamily session.key.family := by
        rw [same]
        exact family_known remote
      rw [← same] at source
      rw [if_neg (not_not_intro same), ← same]
      by_cases long : udpHeaderSize + buffers.flatten.length > 65535
      · rw [if_pos long]
        exact .tooLong mapped same (Or.inl long)
      · rw [if_neg long]
        have short := Nat.not_lt.mp long
        by_cases oversized : Oversized mtu session.key.family buffers.flatten
        · have size : buffers.flatten.length >
              mtu - ipHeaderSize session.key.family - udpHeaderSize := oversized
          by_cases v4 : session.key.family = 4
          · rw [if_neg (fun refused => refused.2 v4), if_pos (decide_eq_true size)]
            rw [udpBuildDatagram_alone session.key remote.port srcAddr (Nat.le_refl _),
              List.take_length]
            by_cases small : mtu < 28
            · rw [fragmentsCall_small w junk _ _ _ small]
              exact .tooLong mapped same (Or.inr ⟨oversized, Or.inr small⟩)
            · obtain ⟨frags, pool, submitted, packets⟩ := fragmentsCall_large w junk srcAddr
                session.key.srcIp (udpBytes remote.port session.key.srcPort buffers.flatten
                  (udpChecksum 4 srcAddr session.key.srcIp remote.port session.key.srcPort
                    buffers.flatten)) (Nat.not_lt.mp small)
              rw [submitted]
              rw [v4] at source
              exact .cut mapped same short v4 oversized (Nat.not_lt.mp small) srcAddr source frags
                pool packets
          · rw [if_pos ⟨decide_eq_true size, v4⟩]
            exact .tooLong mapped same (Or.inr ⟨oversized, Or.inl v4⟩)
        · have size : ¬decide (buffers.flatten.length >
              mtu - ipHeaderSize session.key.family - udpHeaderSize) = true := by
            simpa [Oversized] using oversized
          rw [if_neg (fun refused => size refused.1), if_neg size]
          rcases udpSendSingle_ends w (junk 0) mtu session.key remote.port srcAddr buffers known with
            ⟨room, pkt, pool, sent, packet⟩ | ⟨room, pool, sent⟩
          · rw [sent]
            exact .single mapped same short oversized room srcAddr source pkt pool packet
          · rw [sent]
            exact .thrown mapped same oversized room pool
    · rw [if_pos same]
      exact .stranger mapped same

/-- The engine refuses the same sends, if fragments are possible at all. -/
theorem startSend_refuses (e : UdpEngine) (id : SessionId) {remote : Endpoint} (plain : ¬Mapped remote)
    (large : 28 ≤ e.cfg.mtu) (buffers : List (List UInt8)) (handler : HandlerId) (w : QueueWriter)
    (junk : Nat → Nat → UInt8) {ec : ErrorCode}
    (refused : (doSendTo w junk e.cfg.mtu (e.objects id) remote buffers).2 = .refused ec) :
    e.startSend id remote buffers.flatten handler =
      { e with sendFailures := e.sendFailures ++ [{ handler := handler, ec := ec, n := 0 }] } := by
  unfold UdpEngine.startSend
  dsimp only
  by_cases closed : (e.objects id).closed = true
  · unfold doSendTo udpSessionStartSend at refused
    rw [if_pos closed] at refused
    cases refused
    rw [if_pos closed]
  · rw [if_neg closed]
    have ends := doSendTo_ends w junk e.cfg.mtu (e.objects id) (by simpa using closed) remote buffers
    generalize doSendTo w junk e.cfg.mtu (e.objects id) remote buffers = call at ends refused
    cases ends with
    | terminated mapped => exact absurd mapped plain
    | stranger _ other =>
        cases refused
        rw [if_pos other]
    | tooLong _ same long =>
        cases refused
        rw [if_neg (not_not_intro same)]
        by_cases many : udpHeaderSize + buffers.flatten.length > 65535
        · rw [if_pos many]
        · rw [if_neg many, if_pos]
          rcases long with more | ⟨oversized, v6 | small⟩
          · exact absurd more many
          · exact ⟨decide_eq_true oversized, v6⟩
          · omega
    | cut | single | thrown => cases refused

/-! Legal datagrams. -/

/-- Where a fragment ends in the datagram, as its header says. -/
def fragmentEnd (packet : List UInt8) : Nat :=
  ((Ipv4Header.read packet).fragOff &&& 0x1fff).toNat * 8 + (packet.length - 20)

/-- What is left of a datagram's packets behind their headers fits one packet, and no fragment ends
behind the largest datagram; over IPv6 there is one packet that the device can carry. -/
structure Legal (mtu : Nat) (family : UInt8) (packets : List (List UInt8)) : Prop where
  total : family = 4 → 20 + (packets.map (List.drop 20)).flatten.length ≤ 65535
  within : family = 4 → ∀ packet ∈ packets, fragmentEnd packet ≤ 65535 - 20
  v6 : family = 6 → ∃ packet, packets = [packet] ∧ packet.length ≤ mtu

/-- There is a legal way to send so many bytes. -/
def Sendable (mtu : Nat) (family : UInt8) (len : Nat) : Prop :=
  if family = 6 then 48 + len ≤ mtu ∧ 8 + len ≤ 65535 else 28 + len ≤ 65535

/-- What was submitted is legal, and what cannot be sent legally is refused. -/
structure SendLegal (w : QueueWriter) (mtu : Nat) (family : UInt8) (len : Nat)
    (call : QueueWriter × SendCall) : Prop where
  legal : call.2.packets ≠ [] → Legal mtu family (call.2.packets.map PacketBuffer.bytes)
  refused : ¬Sendable mtu family len → call = (w, .refused .messageSize)

theorem Consecutive.within {mtu : Nat} {src dst : Vector UInt8 16} {ipId : UInt16} {start : Nat}
    {packets : List (List UInt8)} (consecutive : Consecutive mtu src dst ipId start packets) :
    ∀ packet ∈ packets, fragmentEnd packet ≤ start + (packets.map (List.drop 20)).flatten.length := by
  induction packets generalizing start with
  | nil => simp
  | cons first rest ih =>
      obtain ⟨fragment, further⟩ := consecutive
      intro packet member
      rw [List.map_cons, List.flatten_cons, List.length_append]
      rcases List.mem_cons.mp member with rfl | later
      · unfold fragmentEnd
        rw [fragment.offset, List.length_drop]
        omega
      · have inside := ih further packet later
        omega

theorem cut_legal {mtu : Nat} (large : 28 ≤ mtu) (src dst : Vector UInt8 16) {datagram : List UInt8}
    (short : datagram.length ≤ 65515) (ipId : UInt16) :
    Legal mtu 4 (fragmentPackets mtu src dst datagram ipId) := by
  have data := fragmentPackets_data large src dst datagram ipId
  refine ⟨fun _ => ?_, fun _ packet member => ?_, fun v6 => by simp at v6⟩
  · rw [data]
    omega
  · have inside := (fragmentPackets_consecutive large src dst short ipId).within packet member
    rw [data] at inside
    omega

theorem datagramPacket_length (key : UdpSessionKey) (remotePort : UInt16) {family : UInt8}
    (known : IsFamily family) (srcAddr : Vector UInt8 16) (payload : List UInt8) (ipId : UInt16) :
    (datagramPacket key remotePort family srcAddr payload ipId).length =
      ipHeaderSize family + udpHeaderSize + payload.length := by
  unfold datagramPacket
  rw [List.length_append, ipHeader_length known, udpBytes_length, Nat.add_assoc]

theorem single_legal (mtu : Nat) (key : UdpSessionKey) (remotePort : UInt16) {family : UInt8}
    (known : IsFamily family) (srcAddr : Vector UInt8 16) {payload : List UInt8} (ipId : UInt16)
    (sendable : Sendable mtu family payload.length) :
    Legal mtu family [datagramPacket key remotePort family srcAddr payload ipId] := by
  have length := datagramPacket_length key remotePort known srcAddr payload ipId
  unfold Sendable at sendable
  unfold udpHeaderSize at length
  rcases known with rfl | rfl
  · change _ = 20 + 8 + _ at length
    rw [if_neg (by decide)] at sendable
    refine ⟨fun _ => ?_, fun _ packet member => ?_, fun v6 => by simp at v6⟩
    · simp only [List.map_cons, List.map_nil, List.flatten_cons, List.flatten_nil, List.append_nil,
        List.length_drop, length]
      omega
    · rw [List.mem_singleton.mp member]
      obtain ⟨-, -, fragOff, -⟩ := Ipv4Header.read_built
        (UInt16.ofNat (ipHeaderSize 4 + udpHeaderSize + payload.length)) ipId 0x4000 kDefaultTtl
        ipProtocolUdp srcAddr key.srcIp (udpBytes remotePort key.srcPort payload
          (udpChecksum 4 srcAddr key.srcIp remotePort key.srcPort payload))
      have whole : (Ipv4Header.read (datagramPacket key remotePort 4 srcAddr payload ipId)).fragOff =
          0x4000 := fragOff
      unfold fragmentEnd
      rw [whole, length]
      change 0 * 8 + _ ≤ _
      omega
  · change _ = 40 + 8 + _ at length
    rw [if_pos rfl] at sendable
    refine ⟨fun v4 => by simp at v4, fun v4 => by simp at v4, fun _ => ⟨_, rfl, ?_⟩⟩
    omega

/-- A call whose payload can be sent legally does so, if anything. -/
theorem Ends.legal {w : QueueWriter} {mtu : Nat} {key : UdpSessionKey} {remote : Endpoint}
    {payload : List UInt8} {call : QueueWriter × SendCall} (ends : Ends w mtu key remote payload call)
    (sendable : Sendable mtu key.family payload.length) :
    SendLegal w mtu key.family payload.length call := by
  refine ⟨fun submitted => ?_, fun impossible => absurd sendable impossible⟩
  cases ends with
  | terminated | stranger | tooLong | thrown => exact absurd rfl submitted
  | cut _ _ _ v4 _ large srcAddr _ frags pool bytes =>
      change Legal mtu key.family (frags.map PacketBuffer.bytes)
      rw [bytes, v4]
      refine cut_legal large srcAddr key.srcIp ?_ _
      rw [v4] at sendable
      unfold Sendable at sendable
      rw [if_neg (by decide)] at sendable
      rw [udpBytes_length]
      unfold udpHeaderSize
      omega
  | single _ same _ _ _ srcAddr _ pkt pool bytes =>
      change Legal mtu key.family [pkt.bytes]
      rw [bytes]
      exact single_legal mtu key remote.port (same ▸ family_known remote) srcAddr _ sendable

/-- The payloads that cannot be sent legally and are not refused. -/
def Unchecked (mtu : Nat) (family : UInt8) (remote : Endpoint) (len : Nat) : Prop :=
  (family = 4 ∧ 65507 < len ∧ (Mapped remote ∨ (28 ≤ mtu ∧ len ≤ 65527))) ∨
    (family = 6 ∧ mtu < 48 ∧ len = 0)

theorem mapped_family {remote : Endpoint} (mapped : Mapped remote) : Endpoint.family remote = 4 := by
  unfold UdpEngine.Endpoint.family
  simp [mapped.1, mapped.2]

/-- An exception is thrown only for an empty payload. -/
theorem thrown_empty {pool : List PacketBuffer} {mtu : Nat} {family : UInt8} {payload : List UInt8}
    (fits : ¬Oversized mtu family payload)
    (room : pooledRoom pool mtu < ipHeaderSize family + udpHeaderSize + payload.length) :
    payload.length = 0 ∧ mtu < ipHeaderSize family + udpHeaderSize := by
  have least := pooledRoom_ge pool mtu
  unfold Oversized at fits
  omega

theorem Ends.refused_iff {w : QueueWriter} {mtu : Nat} {key : UdpSessionKey} {remote : Endpoint}
    {payload : List UInt8} {call : QueueWriter × SendCall} (ends : Ends w mtu key remote payload call)
    (same : key.family = Endpoint.family remote)
    (impossible : ¬Sendable mtu key.family payload.length) :
    call = (w, .refused .messageSize) ↔ ¬Unchecked mtu key.family remote payload.length := by
  have sizes : ipHeaderSize 4 = 20 ∧ ipHeaderSize 6 = 40 := ⟨rfl, rfl⟩
  have known : IsFamily key.family := same ▸ family_known remote
  have bound (v4 : key.family = 4) : 65507 < payload.length := by
    unfold Sendable at impossible
    rw [v4, if_neg (by decide)] at impossible
    omega
  have narrow (v6 : key.family = 6) : 8 + payload.length ≤ 65535 → mtu < 48 + payload.length := by
    unfold Sendable at impossible
    rw [if_pos v6] at impossible
    omega
  unfold Unchecked
  cases ends with
  | terminated mapped =>
      have v4 : key.family = 4 := same.trans (mapped_family mapped)
      refine ⟨fun refused => ?_, fun checked => absurd (Or.inl ⟨v4, bound v4, Or.inl mapped⟩) checked⟩
      cases congrArg Prod.snd refused
  | stranger _ other => exact absurd same other
  | tooLong plain _ long =>
      refine ⟨fun _ unchecked => ?_, fun _ => rfl⟩
      unfold Oversized udpHeaderSize at long
      rcases unchecked with ⟨v4, _, mapped | ⟨large, few⟩⟩ | ⟨v6, small, none⟩
      · exact plain mapped
      · rcases long with long | ⟨_, other | small⟩
        · omega
        · exact other v4
        · omega
      · rw [v6, sizes.2] at long
        omega
  | cut _ _ short v4 _ large =>
      unfold udpHeaderSize at short
      refine ⟨fun refused => ?_, fun checked => absurd (Or.inl ⟨v4, bound v4, Or.inr ⟨large, ?_⟩⟩)
        checked⟩
      · cases congrArg Prod.snd refused
      · omega
  | single _ _ short fits =>
      unfold Oversized at fits
      unfold udpHeaderSize at short fits
      refine ⟨fun refused => (by cases congrArg Prod.snd refused), fun checked => absurd ?_ checked⟩
      rcases known with v4 | v6
      · have many := bound v4
        rw [v4, sizes.1] at fits
        exact Or.inl ⟨v4, many, Or.inr ⟨by omega, by omega⟩⟩
      · have less := narrow v6 short
        rw [v6, sizes.2] at fits
        exact Or.inr ⟨v6, by omega, by omega⟩
  | thrown _ _ fits room =>
      obtain ⟨none, small⟩ := thrown_empty fits room
      refine ⟨fun refused => (by cases congrArg Prod.snd refused), fun checked => absurd ?_ checked⟩
      rcases known with v4 | v6
      · have many := bound v4
        omega
      · rw [v6, sizes.2] at small
        exact Or.inr ⟨v6, small, none⟩

/-- A send on an open session to an endpoint of its family is legal or refused, except for the
payloads that the test of the UDP length lets through. -/
theorem doSendTo_legal_iff (w : QueueWriter) (junk : Nat → Nat → UInt8) (mtu : Nat)
    (session : UdpSession) (opened : session.closed = false) (remote : Endpoint)
    (same : session.key.family = Endpoint.family remote) (buffers : List (List UInt8)) :
    SendLegal w mtu session.key.family buffers.flatten.length
        (doSendTo w junk mtu session remote buffers) ↔
      ¬((session.key.family = 4 ∧ 65507 < buffers.flatten.length ∧
          (Mapped remote ∨ (28 ≤ mtu ∧ buffers.flatten.length ≤ 65527))) ∨
        (session.key.family = 6 ∧ mtu < 48 ∧ buffers.flatten.length = 0)) := by
  have ends := doSendTo_ends w junk mtu session opened remote buffers
  change _ ↔ ¬Unchecked mtu session.key.family remote buffers.flatten.length
  by_cases sendable : Sendable mtu session.key.family buffers.flatten.length
  · refine ⟨fun _ unchecked => ?_, fun _ => ends.legal sendable⟩
    unfold Sendable at sendable
    rcases unchecked with ⟨v4, many, _⟩ | ⟨v6, small, none⟩
    · rw [v4, if_neg (by decide)] at sendable
      omega
    · rw [if_pos v6] at sendable
      omega
  · rw [← ends.refused_iff same sendable]
    refine ⟨fun legal => legal.refused sendable, fun refused => ⟨fun submitted => ?_, fun _ => refused⟩⟩
    rw [refused] at submitted
    exact absurd rfl submitted

/-- A session of a client and a remote end of the IPv4 family. -/
def plainSession : UdpSession := { key := plainKey 4 5000, closed := false }

def plainRemote : Endpoint := { isV6 := false, address := zeroAddress, port := 53 }

/-- The largest payload of an IPv4 datagram. -/
theorem doSendTo_legal_most :
    SendLegal (QueueWriter.fresh 1) 1500 4 65507
      (doSendTo (QueueWriter.fresh 1) (fun _ _ => 0) 1500 plainSession plainRemote
        [List.replicate 65507 0]) := by
  have legal := (doSendTo_legal_iff (QueueWriter.fresh 1) (fun _ _ => 0) 1500
    plainSession rfl plainRemote rfl [List.replicate 65507 0]).mpr
  have length : [List.replicate 65507 (0 : UInt8)].flatten.length = 65507 := by
    rw [List.flatten_singleton, List.length_replicate]
  rw [length] at legal
  refine legal ?_
  rintro (⟨-, many, -⟩ | ⟨v6, -⟩)
  · exact absurd many (Nat.lt_irrefl _)
  · exact absurd v6 (by decide)

/-- One byte more is cut into fragments of a datagram that is too long. -/
theorem doSendTo_illegal :
    ¬SendLegal (QueueWriter.fresh 1) 1500 4 65508
      (doSendTo (QueueWriter.fresh 1) (fun _ _ => 0) 1500 plainSession plainRemote
        [List.replicate 65508 0]) := by
  intro legal
  have length : [List.replicate 65508 (0 : UInt8)].flatten.length = 65508 := by
    rw [List.flatten_singleton, List.length_replicate]
  have impossible : ¬Sendable 1500 4 65508 := by
    unfold Sendable
    rw [if_neg (by decide)]
    omega
  have ends := doSendTo_ends (QueueWriter.fresh 1) (fun _ _ => 0) 1500 plainSession rfl plainRemote
    [List.replicate 65508 0]
  have unchecked : Unchecked 1500 plainSession.key.family plainRemote
      [List.replicate 65508 (0 : UInt8)].flatten.length := by
    rw [length]
    exact Or.inl ⟨rfl, by omega, Or.inr ⟨by omega, by omega⟩⟩
  refine (ends.refused_iff rfl ?_).mp (legal.refused impossible) unchecked
  rw [length]
  exact impossible

/-! The handler of a send. -/

/-- A packet of one address to another, over UDP. -/
structure AddressedTo (family : UInt8) (src dst : Vector UInt8 16) (packet : List UInt8) : Prop where
  source : slice packet (if family = 6 then 8 else 12) (addrLen family) = addrBytes family src
  destination : slice packet (if family = 6 then 24 else 16) (addrLen family) = addrBytes family dst
  protocol : (if family = 6 then (Ipv6Header.read packet).nextHeader
    else (Ipv4Header.read packet).protocol) = ipProtocolUdp

theorem ipHeader_addressed {family : UInt8} (known : IsFamily family) (src dst : Vector UInt8 16)
    (totalLen : Nat) (id : UInt16) (segment : List UInt8) :
    AddressedTo family src dst (ipHeader family src dst ipProtocolUdp totalLen id ++ segment) := by
  rcases known with rfl | rfl
  · obtain ⟨source, destination⟩ := ipv4_addresses (UInt16.ofNat totalLen) id 0x4000 kDefaultTtl
      ipProtocolUdp src dst segment
    obtain ⟨-, -, -, protocol⟩ := Ipv4Header.read_built (UInt16.ofNat totalLen) id 0x4000 kDefaultTtl
      ipProtocolUdp src dst segment
    exact ⟨source, destination, protocol⟩
  · obtain ⟨source, destination⟩ := ipv6_addresses totalLen ipProtocolUdp src dst segment
    obtain ⟨-, protocol, -, -⟩ := Ipv6Header.read_built totalLen ipProtocolUdp src dst segment
    have whole (a : Vector UInt8 16) : addrBytes 6 a = a.toList := by
      refine List.take_of_length_le ?_
      rw [Vector.length_toList]
      exact Nat.le_refl _
    refine ⟨?_, ?_, protocol⟩
    · rw [whole]
      exact source
    · rw [whole]
      exact destination

theorem fragmentPackets_addressed {mtu : Nat} (large : 28 ≤ mtu) (src dst : Vector UInt8 16)
    (datagram : List UInt8) (ipId : UInt16) :
    ∀ packet ∈ fragmentPackets mtu src dst datagram ipId, AddressedTo 4 src dst packet := by
  intro packet member
  rw [fragmentPackets_eq large] at member
  obtain ⟨off, -, rfl⟩ := List.mem_map.mp member
  let f : Fragmentation := { mtu, srcAddr := src, dstAddr := dst, datagram, ipId }
  obtain ⟨source, destination⟩ := ipv4_addresses (UInt16.ofNat (20 + f.fragData off)) ipId
    ((if off + f.fragData off ≥ datagram.length then 0 else 0x2000) ||| UInt16.ofNat (off / 8)) 64
    ipProtocolUdp src dst (slice datagram off (f.fragData off))
  obtain ⟨-, -, -, protocol⟩ := Ipv4Header.read_built (UInt16.ofNat (20 + f.fragData off)) ipId
    ((if off + f.fragData off ≥ datagram.length then 0 else 0x2000) ||| UInt16.ofNat (off / 8)) 64
    ipProtocolUdp src dst (slice datagram off (f.fragData off))
  exact ⟨source, destination, protocol⟩

/-- The packets go from the remote end to the client, and hold the datagram behind their headers. -/
structure CarriesDatagram (key : UdpSessionKey) (remote : Endpoint) (payload : List UInt8)
    (packets : List (List UInt8)) : Prop where
  some_ : packets ≠ []
  addressed : ∀ packet ∈ packets, AddressedTo key.family (remoteAddress remote) key.srcIp packet
  datagram : ∃ checksum, (packets.map (List.drop (ipHeaderSize key.family))).flatten =
    udpBytes remote.port key.srcPort payload checksum

/-- What the handler of a send is told when its packets were reported with `ecs`. -/
def SendCall.result (total : Nat) (ecs : List IoCode) : SendCall → SendCode × Nat
  | .refused ec => (.refused ec, 0)
  | _ => report total (firstError ecs)

/-- The call returns.  It submits nothing or the datagram, and the handler is called once: when all
packets were reported, which are none when the call is refused. -/
structure SendHandled (base : Nat) (handler : HandlerId) (w : QueueWriter) (key : UdpSessionKey)
    (remote : Endpoint) (payload : List UInt8) (call : QueueWriter × SendCall) : Prop where
  returns : call.2 ≠ .thrown ∧ call.2 ≠ .terminated
  family : call.2 = .refused .addressFamilyNotSupported ↔ key.family ≠ Endpoint.family remote
  refused : ∀ ec, call.2 = .refused ec → call.1 = w
  carries : (∀ ec, call.2 ≠ .refused ec) →
    CarriesDatagram key remote payload (call.2.packets.map PacketBuffer.bytes)
  once : ∀ later, (∀ packet ∈ submissions later, packet.2 ≠ some handler) →
    let after := call.1.run (submitFragments call.2.packets handler ++ later)
    let ecs := (after.reported handler).map PacketCompletion.ec
    Reported base call.2.packets.length handler after ∧
      call.2.completions payload.length ecs =
        if ecs.length = call.2.packets.length then [call.2.result payload.length ecs] else []

theorem completions_refused (total : Nat) (ec : ErrorCode) {ecs : List IoCode}
    (none : ecs.length = 0) : (SendCall.refused ec).completions total ecs =
      if ecs.length = 0 then [(SendCall.refused ec).result total ecs] else [] := by
  rw [if_pos none]
  rfl

theorem completions_single (total : Nat) (pkt : PacketBuffer) {ecs : List IoCode}
    (few : ecs.length ≤ 1) : (SendCall.single pkt).completions total ecs =
      if ecs.length = 1 then [(SendCall.single pkt).result total ecs] else [] := by
  match ecs, few with
  | [], _ => rfl
  | [ec], _ =>
      have first : firstError [ec] = ec := by
        by_cases good : ec = .success <;> simp [firstError, good]
      simp only [SendCall.completions, SendCall.result, first]
      rfl

theorem completions_fragments (total : Nat) {frags : List PacketBuffer} {ecs : List IoCode}
    (few : ecs.length ≤ frags.length) (some_ : 0 < frags.length) :
    (SendCall.fragments frags).completions total ecs =
      if ecs.length = frags.length then [(SendCall.fragments frags).result total ecs] else [] := by
  simp only [SendCall.completions, SendCall.result]
  rw [onFrag_done ecs few some_]
  split <;> rfl

section Handled

variable {w : QueueWriter} {base : Nat} {handler : HandlerId} {key : UdpSessionKey}
  {remote : Endpoint} {payload : List UInt8} {mtu : Nat} {call : QueueWriter × SendCall}

/-- Packets that are submitted with a handler of their own are reported. -/
def Reports (base : Nat) (handler : HandlerId) (w : QueueWriter) : Prop :=
  ∀ pool ipId packets later, (∀ packet ∈ submissions later, packet.2 ≠ some handler) →
    Reported base packets.length handler
      (QueueWriter.run { w with pool := pool, ipId := ipId } (submitFragments packets handler ++ later))

theorem refused_handled (reports : Reports base handler w) {ec : ErrorCode}
    (family : ec = .addressFamilyNotSupported ↔ key.family ≠ Endpoint.family remote) :
    SendHandled base handler w key remote payload (w, .refused ec) := by
  refine ⟨by simp, ?_, fun _ _ => rfl, fun sent => absurd rfl (sent ec), fun later afterwards => ?_⟩
  · rw [← family]
    simp
  · have reported := reports w.pool w.ipId [] later afterwards
    refine ⟨reported, completions_refused _ _ ?_⟩
    rw [List.length_map]
    exact Nat.le_zero.mp reported.few

/-- A call that is not ended by an exception is handled. -/
theorem Ends.handled (reports : Reports base handler w) (ends : Ends w mtu key remote payload call)
    (returns : call.2 ≠ .thrown ∧ call.2 ≠ .terminated) :
    SendHandled base handler w key remote payload call := by
  cases ends with
  | terminated => exact absurd rfl returns.2
  | thrown => exact absurd rfl returns.1
  | stranger _ other => exact refused_handled reports ⟨fun _ => other, fun _ => rfl⟩
  | tooLong _ same => exact refused_handled reports ⟨by simp, fun other => absurd same other⟩
  | cut _ same _ v4 _ large srcAddr source frags pool bytes =>
      have filled : frags.map PacketBuffer.bytes ≠ [] := by
        rw [bytes]
        refine fragmentPackets_some large srcAddr key.srcIp ?_ _
        rw [udpBytes_length]
        unfold udpHeaderSize
        omega
      have some_ : 0 < frags.length := by
        refine Nat.pos_of_ne_zero fun none => filled ?_
        rw [List.length_eq_zero_iff.mp none, List.map_nil]
      refine ⟨returns, ⟨by simp, fun other => absurd same other⟩, by simp,
        fun _ => ⟨filled, fun packet member => ?_, ⟨udpChecksum 4 srcAddr key.srcIp
          remote.port key.srcPort payload, ?_⟩⟩, fun later afterwards => ?_⟩
      · change packet ∈ frags.map PacketBuffer.bytes at member
        rw [bytes] at member
        obtain ⟨from_, to_, protocol⟩ := fragmentPackets_addressed large srcAddr key.srcIp _ _ packet
          member
        rw [v4]
        exact ⟨from_.trans source, to_, protocol⟩
      · change ((frags.map PacketBuffer.bytes).map _).flatten = _
        rw [bytes, v4]
        exact fragmentPackets_data large srcAddr key.srcIp _ _
      · have reported := reports pool (w.ipId + 1) frags later afterwards
        refine ⟨reported, completions_fragments _ ?_ some_⟩
        rw [List.length_map]
        exact reported.few
  | single _ same _ _ _ srcAddr source pkt pool bytes =>
      have known : IsFamily key.family := same ▸ family_known remote
      refine ⟨returns, ⟨by simp, fun other => absurd same other⟩, by simp,
        fun _ => ⟨List.cons_ne_nil _ _, fun packet member => ?_, ⟨udpChecksum key.family
          srcAddr key.srcIp remote.port key.srcPort payload, ?_⟩⟩, fun later afterwards => ?_⟩
      · have here : packet = datagramPacket key remote.port key.family srcAddr payload (w.ipId + 1) :=
          (List.mem_singleton.mp member).trans bytes
        obtain ⟨from_, to_, protocol⟩ := ipHeader_addressed known srcAddr key.srcIp
          (ipHeaderSize key.family + udpHeaderSize + payload.length) (w.ipId + 1)
          (udpBytes remote.port key.srcPort payload
            (udpChecksum key.family srcAddr key.srcIp remote.port key.srcPort payload))
        rw [here]
        exact ⟨from_.trans source, to_, protocol⟩
      · change (([pkt.bytes]).map _).flatten = _
        rw [bytes, List.map_singleton, List.flatten_singleton]
        exact List.drop_left' (ipHeader_length known ..)
      · have reported := reports pool (w.ipId + 1) [pkt] later afterwards
        refine ⟨reported, completions_single _ pkt ?_⟩
        rw [List.length_map]
        exact reported.few

/-- A call is ended by an exception for an address that stands for an IPv4 address, and for an
empty payload that the buffer has no room for. -/
theorem Ends.returns_iff (ends : Ends w mtu key remote payload call) :
    (call.2 ≠ .thrown ∧ call.2 ≠ .terminated) ↔
      ¬Mapped remote ∧ (key.family = Endpoint.family remote → payload = [] →
        ipHeaderSize key.family + 8 ≤ pooledRoom w.pool mtu) := by
  have empty (none : payload.length = 0) : payload = [] := List.length_eq_zero_iff.mp none
  cases ends with
  | terminated mapped => exact ⟨fun returns => absurd rfl returns.2, fun plain => absurd mapped plain.1⟩
  | stranger plain other =>
      exact ⟨fun _ => ⟨plain, fun same => absurd same other⟩, fun _ => by simp⟩
  | tooLong plain same long =>
      refine ⟨fun _ => ⟨plain, fun _ none => ?_⟩, fun _ => by simp⟩
      unfold Oversized udpHeaderSize at long
      rw [none, List.length_nil] at long
      omega
  | cut plain _ _ _ oversized =>
      refine ⟨fun _ => ⟨plain, fun _ none => ?_⟩, fun _ => by simp⟩
      unfold Oversized at oversized
      rw [none, List.length_nil] at oversized
      omega
  | single plain _ _ _ room =>
      refine ⟨fun _ => ⟨plain, fun _ none => ?_⟩, fun _ => by simp⟩
      rw [none] at room
      exact room
  | thrown _ same fits room =>
      obtain ⟨none, -⟩ := thrown_empty fits room
      refine ⟨fun returns => absurd rfl returns.1, fun ⟨_, enough⟩ => ?_⟩
      have least := enough same (empty none)
      rw [none] at room
      unfold udpHeaderSize at room
      omega

end Handled

/-- A send on an open session is handled unless the remote address stands for an IPv4 address, or
the payload is empty and the buffer has no room for the headers. -/
theorem doSendTo_handled_iff (queueCount : Nat) (before : List WriterEvent)
    (pool : List PacketBuffer) (ipId : UInt16) (handler : HandlerId)
    (new : ∀ packet ∈ submissions before, packet.2 ≠ some handler) (junk : Nat → Nat → UInt8)
    (mtu : Nat) (session : UdpSession) (opened : session.closed = false) (remote : Endpoint)
    (buffers : List (List UInt8)) :
    let w := { (QueueWriter.fresh queueCount).run before with pool := pool, ipId := ipId }
    SendHandled (submissions before).length handler w session.key remote buffers.flatten
        (doSendTo w junk mtu session remote buffers) ↔
      ¬Mapped remote ∧ (session.key.family = Endpoint.family remote → buffers.flatten = [] →
        ipHeaderSize session.key.family + 8 ≤ pooledRoom pool mtu) := by
  intro w
  have ends := doSendTo_ends w junk mtu session opened remote buffers
  exact ⟨fun handled => ends.returns_iff.mp handled.returns,
    fun returns => ends.handled (fun pool ipId packets later afterwards =>
      submitted_reported queueCount pool ipId packets new afterwards) (ends.returns_iff.mpr returns)⟩

/-- An empty datagram over a device of the usual MTU. -/
theorem doSendTo_handled_empty :
    SendHandled 0 7 { (QueueWriter.fresh 1).run [] with pool := [], ipId := 0 } plainSession.key
      plainRemote [] (doSendTo { (QueueWriter.fresh 1).run [] with pool := [], ipId := 0 }
        (fun _ _ => 0) 1500 plainSession plainRemote [[]]) :=
  (doSendTo_handled_iff 1 [] [] 0 7 (by simp [submissions]) (fun _ _ => 0) 1500 plainSession rfl
    plainRemote [[]]).mpr ⟨by decide, by decide⟩

def mappedRemote : Endpoint :=
  { isV6 := true, port := 53
    address := #v[0, 0, 0, 0, 0, 0, 0, 0, 0, 0, 0xff, 0xff, 192, 0, 2, 1] }

/-- The same to an IPv6 address that stands for an IPv4 address. -/
theorem doSendTo_terminates :
    ¬SendHandled 0 7 (QueueWriter.fresh 1) plainSession.key mappedRemote [1]
      (doSendTo (QueueWriter.fresh 1) (fun _ _ => 0) 1500 plainSession mappedRemote [[1]]) := by
  intro handled
  have ends := doSendTo_ends (QueueWriter.fresh 1) (fun _ _ => 0) 1500 plainSession rfl mappedRemote
    [[1]]
  exact (ends.returns_iff.mp handled.returns).1 (by decide)

end Tunio
