import Tunio.PacketBuilder

/-!
Failures of the packet builder.  The capacity tests of `builder_begin` and `reserve_transport`
come behind the assignments: a header that does not fit is begun all the same, and its bytes are
missing when `finalize` counts them.
-/

namespace Tunio

open Octets

/-! What a call does not do. -/

namespace BuilderCall

/-- The calls that change nothing when they throw. -/
def atomic : BuilderCall → Bool
  | .beginTcp .. | .beginUdp .. | .beginIcmp .. | .appendPayload _ => true
  | _ => false

/-- The calls that begin a packet. -/
def opens : BuilderCall → Bool
  | .beginIpv4 .. | .beginIpv6 .. => true
  | _ => false

end BuilderCall

structure Unharmed (p : PacketBuilder) (call : BuilderCall) : Prop where
  kept : call.atomic = true → (p.call call).2 ≠ none → (p.call call).1 = p
  unbegun : call.opens = true → (p.call call).2 ≠ none → (p.call call).1.bld.version = 0
  sized : (p.call call).1.bld.version ≠ 0 →
    (p.call call).1.bld.ipHlen + (p.call call).1.bld.transportHlen ≤ (p.call call).1.buf.size
  counted : call = .finalize → p.bld.version ≠ 0 →
    p.bld.ipHlen + p.bld.transportHlen + p.payloadLen = p.buf.size
  inside : call = .finalize → ∀ patch ∈ p.finalizeWrites, patch.stop ≤ p.buf.size

/-! When a header is begun for which there is no room. -/

namespace PacketBuilder

/-- A transport header may be begun. -/
def Ready (p : PacketBuilder) : Prop := p.bld.version ≠ 0 ∧ p.bld.protocol = 0

instance (p : PacketBuilder) : Decidable p.Ready := inferInstanceAs (Decidable (_ ∧ _))

/-- `begin_tcp` takes options of this length. -/
def OptionsFit (options : List UInt8) : Prop := options.length % 4 = 0 ∧ options.length ≤ 40

instance (options : List UInt8) : Decidable (OptionsFit options) :=
  inferInstanceAs (Decidable (_ ∧ _))

/-- The call throws at a capacity test that is behind its assignments. -/
def Overfull (p : PacketBuilder) : BuilderCall → Prop
  | .beginIpv4 .. => p.buf.capacity - p.buf.headroom < 20
  | .beginIpv6 .. => p.buf.capacity - p.buf.headroom < 40
  | .beginTcp _ _ _ _ _ _ options =>
      p.Ready ∧ OptionsFit options ∧ p.buf.writableSize < 20 + options.length
  | .beginUdp .. | .beginIcmp .. => p.Ready ∧ p.buf.writableSize < 8
  | _ => False

/-! What the calls that begin a header come to. -/

/-- A transport header: the call is refused, or it is begun without room, or with. -/
inductive Starts (p : PacketBuilder) (admitted : Prop) (bld : BuilderState) :
    PacketBuilder × Option BuildError → Prop
  | refused (error : BuildError) : ¬admitted → Starts p admitted bld (p, some error)
  | full (error : BuildError) : admitted → p.buf.writableSize < bld.transportHlen →
      Starts p admitted bld ({ p with bld := bld }, some error)
  | reserved : admitted → bld.transportHlen ≤ p.buf.writableSize →
      Starts p admitted bld
        ({ p with buf := p.buf.append (List.replicate bld.transportHlen 0), bld := bld }, none)

theorem reserveTransport_starts (p : PacketBuilder) {admitted : Prop} (holds : admitted)
    (bld : BuilderState) : Starts p admitted bld { p with bld := bld }.reserveTransport := by
  unfold reserveTransport
  split
  · rename_i less
    exact .full _ holds less
  · rename_i enough
    exact .reserved holds (Nat.le_of_not_lt enough)

theorem beginTcp_starts (p : PacketBuilder) (srcPort dstPort : UInt16) (seq ack : UInt32)
    (flags : UInt8) (window : UInt16) (options : List UInt8) :
    Starts p (p.Ready ∧ OptionsFit options)
      (p.bld.beginTcp srcPort dstPort seq ack flags window options)
      (p.beginTcp srcPort dstPort seq ack flags window options) := by
  unfold PacketBuilder.beginTcp
  split
  · rename_i unbegun
    exact .refused _ fun ⟨ready, _⟩ => ready.1 unbegun
  · rename_i begun
    split
    · rename_i twice
      exact .refused _ fun ⟨ready, _⟩ => twice ready.2
    · rename_i once
      split
      · rename_i unfit
        refine .refused _ ?_
        rintro ⟨_, multiple, short⟩
        omega
      · rename_i fit
        refine reserveTransport_starts p ⟨⟨begun, Decidable.not_not.mp once⟩, ?_⟩ _
        constructor <;> omega

theorem beginUdp_starts (p : PacketBuilder) (srcPort dstPort : UInt16) :
    Starts p p.Ready (p.bld.beginUdp srcPort dstPort) (p.beginUdp srcPort dstPort) := by
  unfold PacketBuilder.beginUdp
  split
  · rename_i unbegun
    exact .refused _ fun ready => ready.1 unbegun
  · rename_i begun
    split
    · rename_i twice
      exact .refused _ fun ready => twice ready.2
    · rename_i once
      exact reserveTransport_starts p ⟨begun, Decidable.not_not.mp once⟩ _

theorem beginIcmp_starts (p : PacketBuilder) (type code : UInt8) :
    Starts p p.Ready (p.bld.beginIcmp type code) (p.beginIcmp type code) := by
  unfold PacketBuilder.beginIcmp
  split
  · rename_i unbegun
    exact .refused _ fun ready => ready.1 unbegun
  · rename_i begun
    split
    · rename_i twice
      exact .refused _ fun ready => twice ready.2
    · rename_i once
      exact reserveTransport_starts p ⟨begun, Decidable.not_not.mp once⟩ _

/-- An IP header: it is begun without room, or with. -/
inductive Opens (p : PacketBuilder) (bld : BuilderState) :
    PacketBuilder × Option BuildError → Prop
  | full (after : PacketBuilder) (error : BuildError) :
      p.buf.capacity - p.buf.headroom < bld.ipHlen → after.bld.version = bld.version →
      Opens p bld (after, some error)
  | opened : bld.ipHlen ≤ p.buf.capacity - p.buf.headroom →
      Opens p bld
        ({ p with buf := p.buf.reset.append (List.replicate bld.ipHlen 0), bld := bld }, none)

/-- The builder behind `begin_ipv4`. -/
def openedV4 (src dst : Vector UInt8 4) (ttl : UInt8) : BuilderState :=
  { version := 4, ipHlen := 20, src := address src.toList, dst := address dst.toList, ttlHop := ttl }

/-- The builder behind `begin_ipv6`. -/
def openedV6 (src dst : Vector UInt8 16) (hopLimit : UInt8) : BuilderState :=
  { version := 6, ipHlen := 40, src := src, dst := dst, ttlHop := hopLimit }

theorem beginIpv4_opens (p : PacketBuilder) (src dst : Vector UInt8 4) (ttl : UInt8) :
    Opens p (openedV4 src dst ttl) (p.beginIpv4 src dst ttl) := by
  unfold PacketBuilder.beginIpv4 builderBegin
  by_cases less : p.buf.reset.writableSize < 20
  · simp only [if_true, if_pos less]
    exact .full _ _ less rfl
  · simp only [if_true, if_neg less]
    have enough : (openedV4 src dst ttl).ipHlen ≤ p.buf.capacity - p.buf.headroom :=
      Nat.le_of_not_lt less
    exact .opened enough

theorem beginIpv6_opens (p : PacketBuilder) (src dst : Vector UInt8 16) (hopLimit : UInt8) :
    Opens p (openedV6 src dst hopLimit) (p.beginIpv6 src dst hopLimit) := by
  have other : ¬(6 : UInt8) = 4 := by decide
  unfold PacketBuilder.beginIpv6 builderBegin
  by_cases less : p.buf.reset.writableSize < 40
  · simp only [if_neg other, if_pos less]
    exact .full _ _ less rfl
  · simp only [if_neg other, if_neg less]
    have enough : (openedV6 src dst hopLimit).ipHlen ≤ p.buf.capacity - p.buf.headroom :=
      Nat.le_of_not_lt less
    exact .opened enough

/-! A header without room does harm. -/

theorem Starts.harms {p : PacketBuilder} {admitted : Prop} {bld : BuilderState}
    {result : PacketBuilder × Option BuildError} (starts : Starts p admitted bld result)
    (ready : p.Ready) (begins : bld.protocol ≠ 0) (allowed : admitted)
    (less : p.buf.writableSize < bld.transportHlen) : result.2 ≠ none ∧ result.1 ≠ p := by
  cases starts with
  | refused error refused => exact absurd allowed refused
  | full error _ _ =>
      refine ⟨by simp, fun same => begins ?_⟩
      have protocol := congrArg (fun p : PacketBuilder => p.bld.protocol) same
      exact protocol.trans ready.2
  | reserved _ enough => omega

theorem Opens.harms {p : PacketBuilder} {bld : BuilderState}
    {result : PacketBuilder × Option BuildError} (opens : Opens p bld result)
    (less : p.buf.capacity - p.buf.headroom < bld.ipHlen) :
    result.2 ≠ none ∧ result.1.bld.version = bld.version := by
  cases opens with
  | full after error _ begun => exact ⟨by simp, begun⟩
  | opened enough => omega

theorem icmpProtocol_ne_zero (version : UInt8) :
    (if version = 4 then ipProtocolIcmp else ipProtocolIcmpv6) ≠ 0 := by
  split <;> decide

theorem overfull_harms {p : PacketBuilder} {call : BuilderCall} (unharmed : Unharmed p call) :
    ¬p.Overfull call := by
  intro overfull
  cases call with
  | beginIpv4 src dst ttl =>
      obtain ⟨threw, begun⟩ := (beginIpv4_opens p src dst ttl).harms overfull
      have version : (4 : UInt8) = 0 := begun.symm.trans (unharmed.unbegun rfl threw)
      exact absurd version (by decide)
  | beginIpv6 src dst hopLimit =>
      obtain ⟨threw, begun⟩ := (beginIpv6_opens p src dst hopLimit).harms overfull
      have version : (6 : UInt8) = 0 := begun.symm.trans (unharmed.unbegun rfl threw)
      exact absurd version (by decide)
  | beginTcp srcPort dstPort seq ack flags window options =>
      obtain ⟨ready, fit, less⟩ := overfull
      obtain ⟨threw, changed⟩ := (beginTcp_starts p srcPort dstPort seq ack flags window
        options).harms ready (by simp [BuilderState.beginTcp, ipProtocolTcp]) ⟨ready, fit⟩ less
      exact changed (unharmed.kept rfl threw)
  | beginUdp srcPort dstPort =>
      obtain ⟨ready, less⟩ := overfull
      obtain ⟨threw, changed⟩ := (beginUdp_starts p srcPort dstPort).harms ready
        (by simp [BuilderState.beginUdp, ipProtocolUdp]) ready less
      exact changed (unharmed.kept rfl threw)
  | beginIcmp type code =>
      obtain ⟨ready, less⟩ := overfull
      obtain ⟨threw, changed⟩ := (beginIcmp_starts p type code).harms ready
        (icmpProtocol_ne_zero p.bld.version) ready less
      exact changed (unharmed.kept rfl threw)
  | setIpId id => exact overfull
  | setIcmpEcho id seq => exact overfull
  | appendPayload data => exact overfull
  | finalize => exact overfull

/-! What holds between the calls. -/

/-- The length of the transport header of a protocol. -/
def transportLen (protocol : UInt8) (options : Nat) : Nat :=
  if protocol = ipProtocolTcp then 20 + options
  else if protocol = ipProtocolUdp ∨ protocol = ipProtocolIcmp ∨ protocol = ipProtocolIcmpv6 then 8
  else 0

structure Consistent (p : PacketBuilder) : Prop where
  ipHlen : p.bld.version ≠ 0 → p.bld.ipHlen = if p.bld.version = 4 then 20 else 40
  transportHlen : p.bld.transportHlen = transportLen p.bld.protocol p.bld.tcpOptions.length
  sized : p.bld.version ≠ 0 → p.bld.ipHlen + p.bld.transportHlen ≤ p.buf.size

theorem consistent_empty {p : PacketBuilder} (empty : p.bld = {}) : Consistent p := by
  constructor
  · intro begun
    simp [empty] at begun
  · simp [empty, transportLen, ipProtocolTcp, ipProtocolUdp, ipProtocolIcmp, ipProtocolIcmpv6]
  · intro begun
    simp [empty] at begun

theorem new_consistent {memory : List UInt8} {headroom : Nat} {p : PacketBuilder}
    (made : PacketBuilder.new memory headroom = some p) : Consistent p := by
  unfold PacketBuilder.new at made
  obtain ⟨buf, _, rfl⟩ := Option.map_eq_some_iff.mp made
  exact consistent_empty rfl

theorem ipHeaderWrites_stop (memory : List UInt8) {family : UInt8} (srcIp dstIp : Vector UInt8 16)
    (protocol : UInt8) (totalLen : Nat) (ipId : UInt16) (ttl : UInt8) {patch : Patch}
    (member : patch ∈ ipHeaderWrites memory family srcIp dstIp protocol totalLen ipId ttl) :
    patch.stop ≤ if family = 4 then 20 else 40 := by
  unfold ipHeaderWrites at member
  split at member
  · rename_i v4
    simp only [List.mem_cons, List.not_mem_nil, or_false] at member
    rw [if_pos v4]
    rcases member with rfl | rfl
    · simp [Patch.stop]
    · simp [Patch.stop]
  · rename_i v6
    simp only [List.mem_cons, List.not_mem_nil, or_false] at member
    rw [if_neg v6, member]
    simp [Patch.stop]

theorem transportWrites_stop (bld : BuilderState) (memory : List UInt8) (segLen : Nat)
    {patch : Patch} (member : patch ∈ bld.transportWrites memory segLen) :
    patch.stop ≤ bld.ipHlen + transportLen bld.protocol bld.tcpOptions.length := by
  unfold BuilderState.transportWrites at member
  unfold transportLen
  dsimp only at member
  split at member
  · rename_i tcp
    rw [if_pos tcp]
    rcases List.mem_append.mp member with header | checksum
    · split at header
      · simp only [List.mem_cons, List.not_mem_nil, or_false] at header
        rcases header with rfl | rfl
        · simp [Patch.stop]
        · simp only [Patch.stop]
          omega
      · simp only [List.mem_cons, List.not_mem_nil, or_false] at header
        rw [header]
        simp [Patch.stop]
    · simp only [List.mem_cons, List.not_mem_nil, or_false] at checksum
      rw [checksum]
      simp only [Patch.stop, ofWord_length]
      omega
  · rename_i notTcp
    rw [if_neg notTcp]
    split at member
    · rename_i udp
      rw [if_pos (Or.inl udp)]
      simp only [List.mem_cons, List.not_mem_nil, or_false] at member
      rcases member with rfl | rfl
      · simp [Patch.stop]
      · simp [Patch.stop]
    · split at member
      · rename_i icmp
        rw [if_pos (Or.inr icmp)]
        rcases List.mem_append.mp member with header | checksum
        · split at header
          · simp only [List.cons_append, List.nil_append, List.mem_cons, List.not_mem_nil,
              or_false] at header
            rcases header with rfl | rfl | rfl | rfl | rfl | rfl <;> simp [Patch.stop]
          · simp only [List.mem_cons, List.not_mem_nil, or_false] at header
            rcases header with rfl | rfl | rfl | rfl <;> simp [Patch.stop]
        · simp only [List.mem_cons, List.not_mem_nil, or_false] at checksum
          rw [checksum]
          simp [Patch.stop]
      · simp at member

theorem Consistent.counted {p : PacketBuilder} (consistent : Consistent p)
    (begun : p.bld.version ≠ 0) :
    p.bld.ipHlen + p.bld.transportHlen + p.payloadLen = p.buf.size := by
  have sized := consistent.sized begun
  unfold payloadLen sizeSub
  rw [if_pos (show p.bld.ipHlen ≤ p.buf.size by omega), if_pos (by omega)]
  omega

theorem Consistent.inside {p : PacketBuilder} (consistent : Consistent p) :
    ∀ patch ∈ p.finalizeWrites, patch.stop ≤ p.buf.size := by
  intro patch member
  unfold finalizeWrites at member
  split at member
  · simp at member
  · rename_i goes
    have begun : p.bld.version ≠ 0 := fun unbegun => goes (Or.inl unbegun)
    have sized := consistent.sized begun
    rcases List.mem_append.mp member with header | transport
    · have stop := ipHeaderWrites_stop _ _ _ _ _ _ _ header
      have ipHlen := consistent.ipHlen begun
      unfold BuilderState.family at stop
      split at ipHlen
      · rename_i v4
        rw [if_pos v4, if_pos rfl] at stop
        omega
      · rename_i v6
        rw [if_neg v6, if_neg (by decide)] at stop
        omega
    · have stop := transportWrites_stop _ _ _ transport
      rw [← consistent.transportHlen] at stop
      omega

/-! A header with room does none. -/

theorem Starts.spares {p : PacketBuilder} {admitted : Prop} {bld : BuilderState}
    {result : PacketBuilder × Option BuildError} (starts : Starts p admitted bld result)
    (consistent : Consistent p) (version : bld.version = p.bld.version)
    (ipHlen : bld.ipHlen = p.bld.ipHlen)
    (length : bld.transportHlen = transportLen bld.protocol bld.tcpOptions.length)
    (roomy : admitted → bld.transportHlen ≤ p.buf.writableSize) :
    (result.2 ≠ none → result.1 = p) ∧ Consistent result.1 := by
  cases starts with
  | refused error _ => exact ⟨fun _ => rfl, consistent⟩
  | full error allowed less =>
      have enough := roomy allowed
      omega
  | reserved _ enough =>
      have fits : (List.replicate bld.transportHlen (0 : UInt8)).length ≤ p.buf.writableSize := by
        simpa using enough
      have size := (PacketBuffer.append_appended fits).size
      rw [List.length_replicate] at size
      refine ⟨fun threw => absurd rfl threw, ?_, length, ?_⟩
      · intro begun
        dsimp only at begun ⊢
        rw [version] at begun ⊢
        rw [ipHlen]
        exact consistent.ipHlen begun
      · intro begun
        dsimp only at begun ⊢
        rw [version] at begun
        have sized := consistent.sized begun
        rw [size, ipHlen]
        omega

theorem Opens.spares {p : PacketBuilder} {bld : BuilderState}
    {result : PacketBuilder × Option BuildError} (opens : Opens p bld result)
    (ipHlen : bld.ipHlen = if bld.version = 4 then 20 else 40)
    (length : bld.transportHlen = 0) (none_ : bld.protocol = 0)
    (roomy : bld.ipHlen ≤ p.buf.capacity - p.buf.headroom) :
    result.2 = none ∧ Consistent result.1 := by
  cases opens with
  | full after error less _ => omega
  | opened enough =>
      have fits : (List.replicate bld.ipHlen (0 : UInt8)).length ≤ p.buf.reset.writableSize := by
        simpa using enough
      have size := (PacketBuffer.append_appended fits).size
      rw [List.length_replicate, PacketBuffer.reset_size, Nat.zero_add] at size
      refine ⟨rfl, fun _ => ipHlen, ?_, fun _ => ?_⟩
      · dsimp only
        rw [length, none_]
        rfl
      · dsimp only
        rw [size]
        omega

theorem Consistent.unharmed {p : PacketBuilder} {call : BuilderCall} (consistent : Consistent p)
    (after : Consistent (p.call call).1)
    (kept : call.atomic = true → (p.call call).2 ≠ none → (p.call call).1 = p)
    (open_ : call.opens = true → (p.call call).2 = none) : Unharmed p call where
  kept := kept
  unbegun := fun opens threw => absurd (open_ opens) threw
  sized := after.sized
  counted := fun _ => consistent.counted
  inside := fun _ => consistent.inside

theorem appendPayload_spares {p : PacketBuilder} (consistent : Consistent p) (data : List UInt8) :
    ((p.appendPayload data).2 ≠ none → (p.appendPayload data).1 = p) ∧
      Consistent (p.appendPayload data).1 := by
  unfold appendPayload
  split
  · exact ⟨fun _ => rfl, consistent⟩
  · split
    · exact ⟨fun _ => rfl, consistent⟩
    · rename_i enough
      split
      · have size := (PacketBuffer.append_appended (Nat.le_of_not_lt enough)).size
        refine ⟨fun threw => absurd rfl threw, consistent.ipHlen, consistent.transportHlen, ?_⟩
        intro begun
        have sized := consistent.sized begun
        dsimp only
        rw [size]
        omega
      · exact ⟨fun _ => rfl, consistent⟩

@[simp] theorem parse_bld (p : PacketBuilder) (src : PacketBuffer) (len : Nat) :
    (p.parse src len).bld = {} := by
  unfold parse
  split <;> rfl

theorem finalize_consistent {p : PacketBuilder} (consistent : Consistent p) :
    Consistent p.finalize.1 := by
  unfold finalize
  split
  · exact consistent
  · split
    · exact consistent
    · exact consistent_empty (parse_bld _ _ _)

/-- A step of a run in which every header has room. -/
theorem roomy_spares {p : PacketBuilder} {call : BuilderCall} (consistent : Consistent p)
    (roomy : ¬p.Overfull call) : Unharmed p call ∧ Consistent (p.after call) := by
  cases call with
  | beginIpv4 src dst ttl =>
      obtain ⟨done, next⟩ := (beginIpv4_opens p src dst ttl).spares rfl rfl rfl
        (Nat.le_of_not_lt roomy)
      exact ⟨consistent.unharmed next nofun fun _ => done, next⟩
  | beginIpv6 src dst hopLimit =>
      obtain ⟨done, next⟩ := (beginIpv6_opens p src dst hopLimit).spares rfl rfl rfl
        (Nat.le_of_not_lt roomy)
      exact ⟨consistent.unharmed next nofun fun _ => done, next⟩
  | beginTcp srcPort dstPort seq ack flags window options =>
      obtain ⟨same, next⟩ := (beginTcp_starts p srcPort dstPort seq ack flags window
        options).spares consistent rfl rfl rfl
          fun ⟨ready, fit⟩ => Nat.le_of_not_lt fun less => roomy ⟨ready, fit, less⟩
      exact ⟨consistent.unharmed next (fun _ => same) nofun, next⟩
  | beginUdp srcPort dstPort =>
      obtain ⟨same, next⟩ := (beginUdp_starts p srcPort dstPort).spares consistent rfl rfl rfl
        fun ready => Nat.le_of_not_lt fun less => roomy ⟨ready, less⟩
      exact ⟨consistent.unharmed next (fun _ => same) nofun, next⟩
  | beginIcmp type code =>
      have length : 8 = transportLen (if p.bld.version = 4 then ipProtocolIcmp
          else ipProtocolIcmpv6) p.bld.tcpOptions.length := by
        split <;> rfl
      obtain ⟨same, next⟩ := (beginIcmp_starts p type code).spares consistent rfl rfl length
        fun ready => Nat.le_of_not_lt fun less => roomy ⟨ready, less⟩
      exact ⟨consistent.unharmed next (fun _ => same) nofun, next⟩
  | setIpId id =>
      have next : Consistent (p.setIpId id) :=
        ⟨consistent.ipHlen, consistent.transportHlen, consistent.sized⟩
      exact ⟨consistent.unharmed next nofun nofun, next⟩
  | setIcmpEcho id seq =>
      have next : Consistent (p.setIcmpEcho id seq) :=
        ⟨consistent.ipHlen, consistent.transportHlen, consistent.sized⟩
      exact ⟨consistent.unharmed next nofun nofun, next⟩
  | appendPayload data =>
      obtain ⟨same, next⟩ := appendPayload_spares consistent data
      exact ⟨consistent.unharmed next (fun _ => same) nofun, next⟩
  | finalize =>
      have next := finalize_consistent consistent
      exact ⟨consistent.unharmed next nofun nofun, next⟩

theorem run_roomy {p : PacketBuilder} {calls : List BuilderCall} (consistent : Consistent p)
    (roomy : Courses.Throughout after (fun p call => ¬p.Overfull call) p calls) :
    Courses.Throughout after Unharmed p calls := by
  induction calls generalizing p with
  | nil => trivial
  | cons call calls ih =>
      obtain ⟨unharmed, next⟩ := roomy_spares consistent roomy.1
      exact ⟨unharmed, ih next roomy.2⟩

/-- The failures of a run of calls do no harm exactly when none of its calls begins a header that
the buffer has no room for. -/
theorem run_unharmed_iff {memory : List UInt8} {headroom : Nat} {p : PacketBuilder}
    (made : PacketBuilder.new memory headroom = some p) (calls : List BuilderCall) :
    Courses.Throughout after Unharmed p calls ↔
      Courses.Throughout after (fun p call => ¬p.Overfull call) p calls := by
  constructor
  · intro unharmed
    exact unharmed.weaken fun _ _ => overfull_harms
  · exact run_roomy (new_consistent made)

/-- A packet that is built, and payload for which there is no room. -/
theorem run_unharmed_datagram :
    ∃ p, PacketBuilder.new (List.replicate 32 0) 1 = some p ∧
      Courses.Throughout after Unharmed p
        [.beginIpv4 (Vector.replicate 4 10) (Vector.replicate 4 20) 64, .beginUdp 1 2,
          .appendPayload [1, 2, 3, 4], .appendPayload [1, 2, 3], .finalize] := by
  refine ⟨_, rfl, ?_⟩
  have made : PacketBuilder.new (List.replicate 32 0) 1 = some _ := rfl
  refine (run_unharmed_iff made _).mpr ?_
  refine ⟨?_, ?_, ?_, ?_, ?_, trivial⟩
  · unfold Overfull
    decide
  · rintro ⟨_, less⟩
    revert less
    decide
  · exact id
  · exact id
  · exact id

/-- Sixteen bytes do not hold an IPv4 header, but the packet is begun, and `finalize` writes
behind the end of the memory. -/
theorem beginIpv4_begun_without_room :
    ∃ p, PacketBuilder.new (List.replicate 16 0) 0 = some p ∧
      ¬Courses.Throughout after Unharmed p
        [.beginIpv4 (Vector.replicate 4 10) (Vector.replicate 4 20) 64, .finalize] ∧
      ∃ patch ∈ (p.after (.beginIpv4 (Vector.replicate 4 10) (Vector.replicate 4 20)
        64)).finalizeWrites, 16 < patch.stop := by
  refine ⟨_, rfl, ?_, ?_⟩
  · intro unharmed
    exact absurd (unharmed.1.unbegun rfl (by decide)) (by decide)
  · decide

end PacketBuilder

end Tunio
