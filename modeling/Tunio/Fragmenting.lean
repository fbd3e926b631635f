import Mathlib.Data.Nat.Bitwise
import Tunio.Queues
import Tunio.Writing

/-!
IPv4 fragments.  Put together in the order of their offsets they are the datagram again, and the
handler of the send is called once, when all of them are done with.
-/

namespace Tunio

open Octets

/-! The fields of a fragment. -/

/-- The flag and the offset in the word they share. -/
theorem fragOff_fields {offset : Nat} (small : offset < 8192) (more : Bool) :
    let frag := (if more then 0x2000 else 0) ||| UInt16.ofNat offset
    (frag &&& 0x1fff).toNat = offset ∧ (frag &&& 0x2000 ≠ 0 ↔ more = true) ∧ frag &&& 0x4000 = 0 := by
  have value : ((if more then 0x2000 else 0) ||| UInt16.ofNat offset).toNat =
      (if more then 8192 else 0) + offset := by
    have sum := Nat.two_pow_add_eq_or_of_lt (i := 13) small 1
    have narrow : offset % 65536 = offset := by omega
    cases more with
    | true =>
        simp only [if_true, UInt16.toNat_or, UInt16.toNat_ofNat']
        rw [show (2 : Nat) ^ 16 = 65536 from rfl, narrow]
        exact sum.symm
    | false => simp [narrow]
  intro frag
  have masked (bit : Nat) : (frag.toNat &&& 2 ^ bit) = (frag.toNat.testBit bit).toNat * 2 ^ bit :=
    Nat.and_two_pow _ _
  have first := masked 13
  have second := masked 14
  rw [Nat.testBit_eq_decide_div_mod_eq, value] at first second
  refine ⟨?_, ?_, ?_⟩
  · rw [UInt16.toNat_and, show (0x1fff : UInt16).toNat = 2 ^ 13 - 1 from rfl,
      Nat.and_two_pow_sub_one_eq_mod, value]
    cases more <;> simp <;> omega
  · rw [ne_eq, ← UInt16.toNat_inj, UInt16.toNat_and]
    change ¬(frag.toNat &&& 2 ^ 13) = 0 ↔ _
    rw [value, first]
    cases more <;> simp <;> omega
  · rw [← UInt16.toNat_inj, UInt16.toNat_and]
    change (frag.toNat &&& 2 ^ 14) = 0
    rw [value, second]
    cases more <;> simp <;> omega

/-- A fragment of a datagram: the data from `start` on, and whether more follow. -/
structure IsFragment (mtu : Nat) (src dst : Vector UInt8 16) (ipId : UInt16) (start : Nat)
    (more : Bool) (packet : List UInt8) : Prop where
  filled : 20 < packet.length
  short : packet.length ≤ mtu
  version : (Ipv4Header.read packet).versionIhl = 0x45
  totalLen : (Ipv4Header.read packet).totalLen.toNat = packet.length
  ipId : (Ipv4Header.read packet).id = ipId
  aligned : start % 8 = 0
  offset : ((Ipv4Header.read packet).fragOff &&& 0x1fff).toNat * 8 = start
  moreFragments : (Ipv4Header.read packet).fragOff &&& 0x2000 ≠ 0 ↔ more = true
  mayFragment : (Ipv4Header.read packet).fragOff &&& 0x4000 = 0
  protocol : (Ipv4Header.read packet).protocol = ipProtocolUdp
  source : slice packet 12 4 = v4Bytes src
  destination : slice packet 16 4 = v4Bytes dst
  verified : verifyIpv4Checksum (packet.take 20) = 0

/-- Fragments that follow one another from an offset on, and the last of them says so. -/
def Consecutive (mtu : Nat) (src dst : Vector UInt8 16) (ipId : UInt16) :
    Nat → List (List UInt8) → Prop
  | _, [] => True
  | start, packet :: rest =>
      IsFragment mtu src dst ipId start (!rest.isEmpty) packet ∧
        Consecutive mtu src dst ipId (start + (packet.drop 20).length) rest

theorem ipv4Header_front (totalLen id frag : UInt16) (ttl protocol : UInt8)
    (src dst : Vector UInt8 16) (rest : List UInt8) :
    let h := Ipv4Header.read (ipv4Header totalLen id frag ttl protocol src dst ++ rest)
    h.versionIhl = 0x45 ∧ h.id = id := by
  obtain ⟨checksum, fields⟩ := ipv4Header_fields totalLen id frag ttl protocol src dst
  let behind := ofWord frag ++ ([ttl, protocol] ++
    (ofWord checksum ++ (v4Bytes src ++ v4Bytes dst))) ++ rest
  have whole : ipv4Header totalLen id frag ttl protocol src dst ++ rest =
      [0x45, 0] ++ (ofWord totalLen ++ (ofWord id ++ behind)) := by
    rw [fields]
    simp only [behind, List.append_assoc]
  rw [whole]
  exact ⟨rfl, word_ofWord id behind⟩

namespace Fragmentation

/-- As long as something is left, a fragment takes some of it; all but the last are full. -/
theorem fragData_size (f : Fragmentation) (large : 28 ≤ f.mtu) {off : Nat}
    (more : off < f.datagram.length) :
    0 < f.fragData off ∧ 20 + f.fragData off ≤ f.mtu ∧
      (off + f.fragData off < f.datagram.length → f.fragData off = maxFragPayload f.mtu) := by
  obtain ⟨least, most, first⟩ := maxFragPayload_bounds large
  unfold fragData
  dsimp only
  rw [first, ite_self]
  omega

theorem packet_isFragment (f : Fragmentation) (large : 28 ≤ f.mtu)
    (small : f.datagram.length ≤ 65515) {off : Nat} (aligned : off % 8 = 0)
    (more : off < f.datagram.length) :
    IsFragment f.mtu f.srcAddr f.dstAddr f.ipId off
      (decide (off + f.fragData off < f.datagram.length)) (f.packet off) := by
  obtain ⟨some_, fits, -⟩ := f.fragData_size large more
  have inside := f.fragData_inside more
  have data := slice_length f.datagram inside
  have flag : (if off + f.fragData off ≥ f.datagram.length then (0 : UInt16) else 0x2000) =
      if decide (off + f.fragData off < f.datagram.length) then 0x2000 else 0 := by
    by_cases last : off + f.fragData off ≥ f.datagram.length
    · simp [last]
    · simp [last, Nat.not_le.mp last]
  obtain ⟨offset, follows, whole⟩ := fragOff_fields (show off / 8 < 8192 by omega)
    (decide (off + f.fragData off < f.datagram.length))
  have length : (f.packet off).length = 20 + f.fragData off := by
    unfold packet
    rw [List.length_append, ipv4Header_length, data]
  let field := (if decide (off + f.fragData off < f.datagram.length) then 0x2000 else 0) |||
    UInt16.ofNat (off / 8)
  have shape : f.packet off = ipv4Header (UInt16.ofNat (20 + f.fragData off)) f.ipId field 64
      ipProtocolUdp f.srcAddr f.dstAddr ++ slice f.datagram off (f.fragData off) := by
    unfold packet
    rw [flag]
  obtain ⟨-, totalLen, fragOff, protocol⟩ := Ipv4Header.read_built
    (UInt16.ofNat (20 + f.fragData off)) f.ipId field 64 ipProtocolUdp f.srcAddr f.dstAddr
    (slice f.datagram off (f.fragData off))
  obtain ⟨version, id⟩ := ipv4Header_front (UInt16.ofNat (20 + f.fragData off)) f.ipId field 64
    ipProtocolUdp f.srcAddr f.dstAddr (slice f.datagram off (f.fragData off))
  obtain ⟨source, destination⟩ := ipv4_addresses (UInt16.ofNat (20 + f.fragData off)) f.ipId field 64
    ipProtocolUdp f.srcAddr f.dstAddr (slice f.datagram off (f.fragData off))
  rw [← shape] at totalLen fragOff protocol version id source destination
  refine ⟨by omega, by omega, version, ?_, id, aligned, ?_, ?_, ?_, protocol, source, destination, ?_⟩
  · rw [totalLen, length]
    exact toNat_ofNat (by omega)
  · rw [fragOff, offset]
    omega
  · rw [fragOff]
    exact follows
  · rw [fragOff]
    exact whole
  · unfold packet
    rw [List.take_left' (ipv4Header_length ..)]
    exact ipv4Header_verifies ..

theorem packet_data (f : Fragmentation) (off : Nat) :
    (f.packet off).drop 20 = slice f.datagram off (f.fragData off) :=
  List.drop_left' (ipv4Header_length ..)

/-- Something is left at the start of a fragment, and nothing more is needed for there to be one. -/
theorem offsets_isEmpty (f : Fragmentation) {fuel off : Nat}
    (enough : f.datagram.length ≤ off + fuel) :
    (f.offsets fuel off).isEmpty = decide (f.datagram.length ≤ off) := by
  cases fuel with
  | zero => simpa [offsets] using enough
  | succ fuel =>
      unfold offsets
      by_cases more : off < f.datagram.length
      · simp [more]
      · simp [more, Nat.not_lt.mp more]

/-- The fragments from one offset on hold what is left. -/
theorem offsets_data (f : Fragmentation) (large : 28 ≤ f.mtu) (fuel : Nat) {off : Nat}
    (enough : f.datagram.length ≤ off + fuel) :
    (((f.offsets fuel off).map f.packet).map (List.drop 20)).flatten = f.datagram.drop off := by
  induction fuel generalizing off with
  | zero =>
      rw [List.drop_eq_nil_of_le (by omega)]
      rfl
  | succ fuel ih =>
      unfold offsets
      by_cases more : off < f.datagram.length
      · have some_ := (f.fragData_size large more).1
        rw [if_pos more, List.map_cons, List.map_cons, List.flatten_cons, ih (by omega), packet_data,
          slice, ← List.drop_drop]
        exact List.take_append_drop _ _
      · rw [if_neg more, List.drop_eq_nil_of_le (by omega)]
        rfl

/-- The fragments from one offset on follow one another. -/
theorem offsets_consecutive (f : Fragmentation) (large : 28 ≤ f.mtu)
    (small : f.datagram.length ≤ 65515) (fuel : Nat) {off : Nat}
    (aligned : off < f.datagram.length → off % 8 = 0) (enough : f.datagram.length ≤ off + fuel) :
    Consecutive f.mtu f.srcAddr f.dstAddr f.ipId off ((f.offsets fuel off).map f.packet) := by
  induction fuel generalizing off with
  | zero => trivial
  | succ fuel ih =>
      unfold offsets
      by_cases more : off < f.datagram.length
      · obtain ⟨some_, -, full⟩ := f.fragData_size large more
        have inside := f.fragData_inside more
        have next : off + f.fragData off < f.datagram.length → (off + f.fragData off) % 8 = 0 := by
          intro further
          have whole : maxFragPayload f.mtu % 8 = 0 := by
            unfold maxFragPayload
            omega
          have size := full further
          have start := aligned more
          omega
        have ends : (!((f.offsets fuel (off + f.fragData off)).map f.packet).isEmpty) =
            decide (off + f.fragData off < f.datagram.length) := by
          rw [List.isEmpty_map, f.offsets_isEmpty (by omega), ← decide_not, decide_eq_decide]
          omega
        rw [if_pos more, List.map_cons]
        constructor
        · rw [ends]
          exact f.packet_isFragment large small (aligned more) more
        · rw [packet_data, slice_length f.datagram inside]
          exact ih next (by omega)
      · rw [if_neg more]
        trivial

/-- No buffer is too small for its fragment. -/
theorem cut_made (f : Fragmentation) (large : 28 ≤ f.mtu) (junk : Nat → Nat → UInt8) (fuel : Nat)
    (w : QueueWriter) (off : Nat) (frags : List PacketBuffer) :
    ∃ made, (f.cut junk fuel w off frags).2 = some made := by
  induction fuel generalizing w off frags with
  | zero => exact ⟨frags, rfl⟩
  | succ fuel ih =>
      unfold cut
      split
      · rename_i more
        obtain ⟨pkt, got⟩ := w.buffer_made (junk off) (show 0 < f.mtu by omega)
          (f.fragData_size large more).2.1
        dsimp only
        rw [got]
        exact ih _ _ _
      · exact ⟨frags, rfl⟩

/-- Only the pool changes. -/
theorem cut_writer (f : Fragmentation) (junk : Nat → Nat → UInt8) (fuel : Nat) (w : QueueWriter)
    (off : Nat) (frags : List PacketBuffer) :
    ∃ pool, (f.cut junk fuel w off frags).1 = { w with pool := pool } := by
  induction fuel generalizing w off frags with
  | zero => exact ⟨w.pool, rfl⟩
  | succ fuel ih =>
      unfold cut
      split
      · dsimp only
        split
        · exact ⟨_, rfl⟩
        · exact ih _ _ _
      · exact ⟨w.pool, rfl⟩

end Fragmentation

/-! The handler of the fragments. -/

/-- What the fragments of a datagram share; `done` are the calls of the handler of the send. -/
structure FragmentState where
  pending : Nat
  firstError : IoCode := .success
  done : List IoCode := []

def FragmentState.onFrag (st : FragmentState) (ec : IoCode) : FragmentState :=
  let st := if ec ≠ .success ∧ st.firstError = .success then { st with firstError := ec } else st
  let st := { st with pending := sizeSub st.pending 1 }
  if st.pending ≠ 0 then st else { st with done := st.done ++ [st.firstError] }

def firstError (ecs : List IoCode) : IoCode := (ecs.find? (· ≠ .success)).getD .success

/-- The last of the fragments reports the first error. -/
theorem onFrag_done {n : Nat} (ecs : List IoCode) (few : ecs.length ≤ n) (some_ : 0 < n) :
    (ecs.foldl FragmentState.onFrag { pending := n }).done =
      if ecs.length = n then [firstError ecs] else [] := by
  have state : ecs.foldl FragmentState.onFrag { pending := n } =
      { pending := n - ecs.length, firstError := firstError ecs
        done := if ecs.length = n then [firstError ecs] else [] } := by
    induction ecs using List.reverseRecOn with
    | nil =>
        have more : ¬0 = n := by omega
        simp [firstError, more]
    | append_singleton before ec ih =>
        rw [List.length_append, List.length_singleton] at few
        have fewer : ¬before.length = n := by omega
        rw [List.foldl_append, ih (by omega), if_neg fewer]
        have error : firstError (before ++ [ec]) =
            if ec ≠ .success ∧ firstError before = .success then ec else firstError before := by
          unfold firstError
          rw [List.find?_append]
          cases found : before.find? (· ≠ .success) with
          | none => by_cases good : ec = .success <;> simp [good]
          | some first =>
              have bad : first ≠ .success := by simpa using List.find?_some found
              simp [bad]
        have left : sizeSub (n - before.length) 1 = n - (before.length + 1) := by
          unfold sizeSub
          rw [if_pos (by omega)]
          omega
        simp only [List.foldl_cons, List.foldl_nil, FragmentState.onFrag, List.length_append,
          List.length_singleton]
        rw [error]
        by_cases last : before.length + 1 = n
        · have none : n - (before.length + 1) = 0 := by omega
          split <;> simp [left, last]
        · have further : n - (before.length + 1) ≠ 0 := by omega
          split <;> simp [left, further]
  rw [state]

/-! The handlers of packets. -/

/-- The handler of the packets from one number on. -/
theorem numbered_own (sent : List (PacketBuffer × Option HandlerId)) (h : HandlerId) (base : Nat)
    (own : ∀ packet ∈ sent, packet.2 = some h) :
    (sent.zipIdx base).filterMap (fun (packet, number) => packet.2.map fun handler =>
      (number, handler)) = (List.range' base sent.length).map fun number => (number, h) := by
  induction sent generalizing base with
  | nil => rfl
  | cons packet rest ih =>
      have first := own packet List.mem_cons_self
      rw [List.zipIdx_cons, List.length_cons, List.range'_succ, List.map_cons,
        ← ih (base + 1) fun other member => own other (List.mem_cons_of_mem _ member)]
      simp [first]

theorem numbered_stranger (sent : List (PacketBuffer × Option HandlerId)) (h : HandlerId)
    (base : Nat) (strangers : ∀ packet ∈ sent, packet.2 ≠ some h) :
    ((sent.zipIdx base).filterMap (fun (packet, number) => packet.2.map fun handler =>
      (number, handler))).filter (fun entry => entry.2 = h) = [] := by
  induction sent generalizing base with
  | nil => rfl
  | cons packet rest ih =>
      have later := ih (base + 1) fun other member => strangers other (List.mem_cons_of_mem _ member)
      have first := strangers packet List.mem_cons_self
      rw [List.zipIdx_cons, List.filterMap_cons]
      dsimp only
      cases shape : packet.2 with
      | none => simpa [shape] using later
      | some other =>
          have differ : other ≠ h := fun same => first (same ▸ shape)
          simpa [shape, differ] using later

/-- A handler that was passed in with consecutive packets only has their numbers. -/
theorem numbered_between {before own later : List (PacketBuffer × Option HandlerId)} {h : HandlerId}
    (earlier : ∀ packet ∈ before, packet.2 ≠ some h) (owned : ∀ packet ∈ own, packet.2 = some h)
    (afterwards : ∀ packet ∈ later, packet.2 ≠ some h) :
    (numbered (before ++ own ++ later)).filter (fun entry => entry.2 = h) =
      (List.range' before.length own.length).map fun number => (number, h) := by
  unfold numbered
  rw [List.zipIdx_append, List.zipIdx_append, List.filterMap_append, List.filterMap_append,
    List.filter_append, List.filter_append, numbered_stranger before h _ earlier,
    numbered_stranger later h _ afterwards, numbered_own own h _ owned, Nat.zero_add,
    List.nil_append, List.append_nil]
  refine List.filter_eq_self.mpr fun entry member => ?_
  obtain ⟨number, -, rfl⟩ := List.mem_map.mp member
  exact decide_eq_true rfl

namespace QueueWriter

/-- The completions of a handler. -/
def reported (w : QueueWriter) (h : HandlerId) : List PacketCompletion :=
  w.completions.filter fun completion => completion.handler = h

theorem HandlersKept.reported {sent : List (PacketBuffer × Option HandlerId)} {w : QueueWriter}
    (kept : HandlersKept sent w) (h : HandlerId) :
    ((w.reported h).map PacketCompletion.key).Subperm
      ((numbered sent).filter fun entry => entry.2 = h) := by
  have filtered : (w.reported h).map PacketCompletion.key =
      (w.completions.map PacketCompletion.key).filter fun entry => entry.2 = h := by
    rw [List.filter_map]
    rfl
  have fewer : ((w.completions.map PacketCompletion.key : List _) : Multiset (Nat × HandlerId)) ≤
      (numbered sent : Multiset (Nat × HandlerId)) := by
    rw [← kept.once]
    exact Multiset.le_add_right _ _
  rw [filtered, ← Multiset.coe_le, ← Multiset.filter_coe, ← Multiset.filter_coe]
  exact Multiset.filter_le_filter _ fewer

theorem HandlersKept.reported_all {sent : List (PacketBuffer × Option HandlerId)} {w : QueueWriter}
    (kept : HandlersKept sent w) (h : HandlerId) (drained : w.queuedTotal = 0)
    (idle : w.writing = 0) : (w.reported h).length =
      ((numbered sent).filter fun entry => entry.2 = h).length := by
  have same := ((kept.all drained idle).filter fun entry => entry.2 = h).length_eq
  rw [List.filter_map, List.length_map] at same
  exact same

end QueueWriter

/-! The call. -/

/-- What the handler of the send is called with. -/
inductive FragmentsDone
  | messageSize
  | written (firstError : IoCode)
  deriving DecidableEq

/-- How a call of `udp_write_ipv4_fragments` ends: with an exception, with the handler called at
once, or with fragments that are submitted. -/
inductive FragmentsCall
  | thrown
  | refused
  | submitted (frags : List PacketBuffer)

def fragmentsCall (w : QueueWriter) (junk : Nat → Nat → UInt8) (mtu : Nat)
    (srcAddr dstAddr : Vector UInt8 16) (datagram : List UInt8) : QueueWriter × FragmentsCall :=
  if Fragmentation.maxFragPayload mtu < udpHeaderSize then (w, .refused)
  else
    match udpWriteIpv4Fragments w junk mtu srcAddr dstAddr datagram with
    | (w, none) => (w, .thrown)
    | (w, some frags) => (w, .submitted frags)

/-- The calls of the handler of the send, once the fragments were reported with `ecs`. -/
def FragmentsCall.done (call : FragmentsCall) (ecs : List IoCode) : List FragmentsDone :=
  match call with
  | .thrown => []
  | .refused => [.messageSize]
  | .submitted frags =>
      (ecs.foldl FragmentState.onFrag { pending := frags.length }).done.map .written

/-- Every fragment is submitted before another event of the writer. -/
def submitFragments (frags : List PacketBuffer) (onFrag : HandlerId) : List WriterEvent :=
  frags.map fun frag => .asyncWrite frag onFrag

/-- The fragments of a datagram, put together, are the datagram. -/
structure Reassembles (mtu : Nat) (src dst : Vector UInt8 16) (ipId : UInt16)
    (datagram : List UInt8) (packets : List (List UInt8)) : Prop where
  some_ : packets ≠ []
  consecutive : Consecutive mtu src dst ipId 0 packets
  data : (packets.map (List.drop 20)).flatten = datagram

theorem fragmentsCall_small (w : QueueWriter) (junk : Nat → Nat → UInt8) {mtu : Nat}
    (srcAddr dstAddr : Vector UInt8 16) (datagram : List UInt8) (small : mtu < 28) :
    fragmentsCall w junk mtu srcAddr dstAddr datagram = (w, .refused) := by
  refine if_pos ?_
  unfold Fragmentation.maxFragPayload udpHeaderSize
  split <;> omega

theorem fragmentsCall_large (w : QueueWriter) (junk : Nat → Nat → UInt8) {mtu : Nat}
    (srcAddr dstAddr : Vector UInt8 16) (datagram : List UInt8) (large : 28 ≤ mtu) :
    ∃ frags pool,
      fragmentsCall w junk mtu srcAddr dstAddr datagram =
        ({ w with pool := pool, ipId := w.ipId + 1 }, .submitted frags) ∧
      frags.map PacketBuffer.bytes = fragmentPackets mtu srcAddr dstAddr datagram (w.ipId + 1) := by
  obtain ⟨least, -, -⟩ := Fragmentation.maxFragPayload_bounds large
  have enough : ¬Fragmentation.maxFragPayload mtu < udpHeaderSize := Nat.not_lt.mpr least
  let f : Fragmentation :=
    { mtu := mtu, srcAddr := srcAddr, dstAddr := dstAddr, datagram := datagram, ipId := w.ipId + 1 }
  obtain ⟨frags, made⟩ := f.cut_made large junk datagram.length w.allocIpId.1 0 []
  obtain ⟨pool, writer⟩ := f.cut_writer junk datagram.length w.allocIpId.1 0 []
  have call : udpWriteIpv4Fragments w junk mtu srcAddr dstAddr datagram =
      ({ w with pool := pool, ipId := w.ipId + 1 }, some frags) := by
    unfold udpWriteIpv4Fragments
    rw [if_neg enough]
    exact Prod.ext writer made
  refine ⟨frags, pool, ?_, udpWriteIpv4Fragments_bytes (congrArg Prod.snd call)⟩
  unfold fragmentsCall
  rw [if_neg enough, call]

theorem fragmentPackets_eq {mtu : Nat} (large : 28 ≤ mtu) (srcAddr dstAddr : Vector UInt8 16)
    (datagram : List UInt8) (ipId : UInt16) :
    fragmentPackets mtu srcAddr dstAddr datagram ipId =
      let f : Fragmentation := { mtu, srcAddr, dstAddr, datagram, ipId }
      (f.offsets datagram.length 0).map f.packet := by
  obtain ⟨least, -, -⟩ := Fragmentation.maxFragPayload_bounds large
  have enough : ¬Fragmentation.maxFragPayload mtu < udpHeaderSize := Nat.not_lt.mpr least
  unfold fragmentPackets
  rw [if_neg enough]

theorem fragmentPackets_data {mtu : Nat} (large : 28 ≤ mtu) (srcAddr dstAddr : Vector UInt8 16)
    (datagram : List UInt8) (ipId : UInt16) :
    ((fragmentPackets mtu srcAddr dstAddr datagram ipId).map (List.drop 20)).flatten = datagram := by
  rw [fragmentPackets_eq large]
  exact Fragmentation.offsets_data { mtu, srcAddr, dstAddr, datagram, ipId } large datagram.length
    (Nat.le_of_eq (Nat.zero_add _).symm)

/-- There is a fragment for a datagram that is not empty. -/
theorem fragmentPackets_some {mtu : Nat} (large : 28 ≤ mtu) (srcAddr dstAddr : Vector UInt8 16)
    {datagram : List UInt8} (some_ : 0 < datagram.length) (ipId : UInt16) :
    fragmentPackets mtu srcAddr dstAddr datagram ipId ≠ [] := by
  intro none
  have data := fragmentPackets_data large srcAddr dstAddr datagram ipId
  rw [none] at data
  exact absurd (congrArg List.length data) (Nat.ne_of_lt some_)

theorem fragmentPackets_consecutive {mtu : Nat} (large : 28 ≤ mtu)
    (srcAddr dstAddr : Vector UInt8 16) {datagram : List UInt8} (short : datagram.length ≤ 65515)
    (ipId : UInt16) : Consecutive mtu srcAddr dstAddr ipId 0
      (fragmentPackets mtu srcAddr dstAddr datagram ipId) := by
  rw [fragmentPackets_eq large]
  exact Fragmentation.offsets_consecutive { mtu, srcAddr, dstAddr, datagram, ipId } large short
    datagram.length (fun _ => rfl) (Nat.le_of_eq (Nat.zero_add _).symm)

theorem submissions_fragments (frags : List PacketBuffer) (onFrag : HandlerId) :
    submissions (submitFragments frags onFrag) = frags.map fun frag => (frag, some onFrag) := by
  unfold submissions submitFragments
  rw [List.filterMap_map]
  exact congrFun List.filterMap_eq_map frags

/-- The packets that were submitted with a handler of their own are reported at most once each, and
all of them are when nothing waits. -/
structure Reported (base count : Nat) (handler : HandlerId) (w : QueueWriter) : Prop where
  own : ((w.reported handler).map PacketCompletion.number).Subperm (List.range' base count)
  all : w.queuedTotal = 0 → w.writing = 0 → (w.reported handler).length = count

theorem Reported.few {base count : Nat} {handler : HandlerId} {w : QueueWriter}
    (reported : Reported base count handler w) : (w.reported handler).length ≤ count := by
  have few := reported.own.length_le
  simpa using few

theorem submitted_reported (queueCount : Nat) {before later : List WriterEvent}
    (pool : List PacketBuffer) (ipId : UInt16) (packets : List PacketBuffer) {handler : HandlerId}
    (new : ∀ packet ∈ submissions before, packet.2 ≠ some handler)
    (afterwards : ∀ packet ∈ submissions later, packet.2 ≠ some handler) :
    Reported (submissions before).length packets.length handler
      (QueueWriter.run { (QueueWriter.fresh queueCount).run before with pool := pool, ipId := ipId }
        (submitFragments packets handler ++ later)) := by
  have reached := (QueueWriter.Conserving.fresh queueCount).run before
  have assigned := (QueueWriter.Assigned.fresh queueCount).run before
  have conserving : QueueWriter.Conserving
      { (QueueWriter.fresh queueCount).run before with pool := pool, ipId := ipId } :=
    ⟨reached.ordered, reached.outside, reached.total, reached.capped, reached.counted,
      reached.handlers, reached.numbers, reached.known, reached.honest⟩
  have placed : QueueWriter.Assigned (submissions before)
      { (QueueWriter.fresh queueCount).run before with pool := pool, ipId := ipId } :=
    ⟨assigned.submitted, assigned.registered, assigned.waiting, assigned.given⟩
  have kept := (conserving.run (submitFragments packets handler ++ later)).handlersKept
    (placed.run (submitFragments packets handler ++ later))
  have sent : submissions (submitFragments packets handler ++ later) =
      packets.map (fun packet => (packet, some handler)) ++ submissions later := by
    rw [← submissions_fragments]
    exact List.filterMap_append
  have owned : ∀ packet ∈ packets.map (fun packet => (packet, some handler)),
      packet.2 = some handler := by simp
  have numbers := numbered_between new owned afterwards
  rw [sent, ← List.append_assoc] at kept
  rw [List.length_map] at numbers
  constructor
  · have subperm := kept.reported handler
    rw [numbers] at subperm
    obtain ⟨chosen, permuted, inside⟩ := subperm
    have names := permuted.map Prod.fst
    rw [List.map_map] at names
    have firsts := inside.map Prod.fst
    rw [List.map_map, show (Prod.fst ∘ fun number => (number, handler)) = id from rfl,
      List.map_id] at firsts
    exact ⟨chosen.map Prod.fst, names, firsts⟩
  · intro drained idle
    have all := kept.reported_all handler drained idle
    rw [numbers] at all
    simpa using all

/-- The handler of the send was called once if every fragment was reported, and was not called
otherwise. -/
structure DoneOnce (call : FragmentsCall) (base count : Nat) (onFrag : HandlerId)
    (w : QueueWriter) : Prop extends Reported base count onFrag w where
  once : call.done ((w.reported onFrag).map PacketCompletion.ec) =
    if (w.reported onFrag).length = count then
      [.written (firstError ((w.reported onFrag).map PacketCompletion.ec))]
    else []

/-- A datagram is cut into fragments that make it up again, and its handler is called once, when
all of them were written or refused, with the first error; with too small an MTU it is called at
once and nothing is submitted. -/
theorem run_fragments (queueCount : Nat) (before : List WriterEvent) (pool : List PacketBuffer)
    (ipId : UInt16) (junk : Nat → Nat → UInt8) (mtu : Nat) (src dst : Vector UInt8 16)
    (datagram : List UInt8) (header : 8 ≤ datagram.length) (short : datagram.length ≤ 65515)
    (onFrag : HandlerId) (new : ∀ packet ∈ submissions before, packet.2 ≠ some onFrag) :
    let w := { (QueueWriter.fresh queueCount).run before with pool := pool, ipId := ipId }
    let call := fragmentsCall w junk mtu src dst datagram
    (mtu < 28 → call.1 = w ∧ ∀ ecs, call.2.done ecs = [.messageSize]) ∧
    (28 ≤ mtu → ∃ frags, call.2 = .submitted frags ∧
      Reassembles mtu src dst (ipId + 1) datagram (frags.map PacketBuffer.bytes) ∧
      ∀ later, (∀ packet ∈ submissions later, packet.2 ≠ some onFrag) →
        DoneOnce call.2 (submissions before).length frags.length onFrag
          (call.1.run (submitFragments frags onFrag ++ later))) := by
  intro w call
  constructor
  · intro small
    have refused : call = (w, .refused) := fragmentsCall_small w junk src dst datagram small
    rw [refused]
    exact ⟨rfl, fun _ => rfl⟩
  · intro large
    have filled : 0 < datagram.length := by omega
    obtain ⟨frags, pool', submitted, bytes⟩ := fragmentsCall_large w junk src dst datagram large
    have shape : call = ({ w with pool := pool', ipId := ipId + 1 }, .submitted frags) := submitted
    have some_ : frags.map PacketBuffer.bytes ≠ [] := by
      rw [bytes]
      exact fragmentPackets_some large src dst filled _
    refine ⟨frags, by rw [shape], ⟨some_, ?_, ?_⟩, ?_⟩
    · rw [bytes]
      exact fragmentPackets_consecutive large src dst short _
    · rw [bytes]
      exact fragmentPackets_data large src dst datagram _
    · intro later afterwards
      rw [shape]
      have reported := submitted_reported queueCount pool' (ipId + 1) frags new afterwards
      refine ⟨reported, ?_⟩
      have least : 0 < frags.length := by
        refine Nat.pos_of_ne_zero fun none => some_ ?_
        rw [List.length_eq_zero_iff.mp none, List.map_nil]
      have done := onFrag_done (((QueueWriter.run { w with pool := pool', ipId := ipId + 1 }
        (submitFragments frags onFrag ++ later)).reported onFrag).map PacketCompletion.ec)
        (by rw [List.length_map]; exact reported.few) least
      change List.map _ _ = _
      rw [done, List.length_map]
      split <;> rfl

/-- A datagram of three fragments. -/
theorem run_fragments_three :
    ∃ frags, (fragmentsCall { QueueWriter.fresh 2 with ipId := 6 } (fun _ _ => 0) 28 zeroAddress
        zeroAddress (List.replicate 24 1)).2 = .submitted frags ∧
      Reassembles 28 zeroAddress zeroAddress 7 (List.replicate 24 1)
        (frags.map PacketBuffer.bytes) := by
  obtain ⟨frags, submitted, reassembles, -⟩ := (run_fragments 2 [] [] 6 (fun _ _ => 0) 28 zeroAddress
    zeroAddress (List.replicate 24 1) (by decide) (by decide) 5 (by simp [submissions])).2 (by decide)
  exact ⟨frags, submitted, reassembles⟩

end Tunio
