import Tunio.PosixDevice

/-!
The descriptors of a process with a POSIX device: over any run every open descriptor is in one
place, the device's or the rest of the process's, and none is used or closed that is not open.
-/

namespace Tunio

open Leases

section Keeping

variable {own : List Fd} {s : Fd}

theorem ioctl_keeps (mine : s ∈ own) (request : IoctlRequest) (ifr : Ifreq) :
    Keeps (ioctl s request ifr) own :=
  Spec.ask _ fun _ used => List.mem_singleton.mp used ▸ mine

theorem own_ask (mine : s ∈ own) (call : Call) : Keeps (ask [s] call : System Answer) own :=
  Spec.ask call fun _ used => List.mem_singleton.mp used ▸ mine

theorem lookup_keeps (own : List Fd) (call : Call) : Keeps (ask [] call : System Answer) own :=
  Spec.ask call fun _ used => absurd used List.not_mem_nil

theorem setTxQueueLen_keeps (mine : s ∈ own) (ifname : Text) (qlen : Nat) :
    Keeps (setTxQueueLen s ifname qlen) own :=
  Spec.seq (ioctl_keeps mine _ _) fun _ => Spec.pure rfl

theorem addIpv6Address_keeps (mine : s ∈ own) (ifname addr : Text) (prefixLen : UInt8) :
    Keeps (addIpv6Address s ifname addr prefixLen) own := by
  unfold addIpv6Address
  split
  · exact Spec.pure rfl
  refine Spec.seq (lookup_keeps own _) fun a6 => ?_
  split
  · exact Spec.pure rfl
  refine Spec.seq (ioctl_keeps mine _ _) fun idx => ?_
  split
  · exact Spec.pure rfl
  refine Spec.acquire_bind (fun nl => ?_) fun _ => Spec.pure rfl
  have ours : nl ∈ nl :: own := List.mem_cons_self
  refine Spec.seq (own_ask ours _) fun sent => ?_
  split
  · exact Spec.seq (Spec.release nl own) fun _ => Spec.pure rfl
  · exact Spec.seq (own_ask ours _) fun _ =>
      Spec.seq (Spec.release nl own) fun _ => Spec.pure rfl

namespace PosixTunDeviceImpl

theorem setIfr_keeps (mine : s ∈ own) (devName : Text) (request : IoctlRequest) (addr : Text) :
    Keeps (setIfr s devName request addr) own := by
  refine Spec.seq (lookup_keeps own _) fun sin => ?_
  split
  · exact Spec.pure rfl
  refine Spec.seq (ioctl_keeps mine _ _) fun answer => ?_
  split <;> exact Spec.pure rfl

theorem configureIpv6_keeps (mine : s ∈ own) (cfg : DeviceConfig) (devName : Text) :
    Keeps (configureIpv6 s cfg devName) own := by
  unfold configureIpv6
  split
  · exact Spec.pure rfl
  · exact addIpv6Address_keeps mine _ _ _

theorem setIoctlAddr_keeps (mine : s ∈ own) (ifname : Text) (request : IoctlRequest) (addr : Text) :
    Keeps (setIoctlAddr s ifname request addr) own := by
  refine Spec.seq (lookup_keeps own _) fun sin => ?_
  split
  · exact Spec.pure rfl
  refine Spec.seq (ioctl_keeps mine _ _) fun answer => ?_
  split <;> exact Spec.pure rfl

theorem setIoctlMtu_keeps (mine : s ∈ own) (ifname : Text) (mtu : Nat) :
    Keeps (setIoctlMtu s ifname mtu) own := by
  refine Spec.seq (ioctl_keeps mine _ _) fun set => ?_
  split
  · exact Spec.pure rfl
  refine Spec.seq (ioctl_keeps mine _ _) fun got => ?_
  split <;> exact Spec.pure rfl

theorem setIfUp_keeps (mine : s ∈ own) (ifname : Text) : Keeps (setIfUp s ifname) own := by
  refine Spec.seq (ioctl_keeps mine _ _) fun got => ?_
  split
  · exact Spec.pure rfl
  refine Spec.seq (ioctl_keeps mine _ _) fun up => ?_
  split <;> exact Spec.pure rfl

theorem aliasIpv6_keeps (own : List Fd) (ifname addr : Text) (prefixLen : UInt8) :
    Keeps (aliasIpv6 ifname addr prefixLen) own := by
  unfold aliasIpv6
  split
  · exact Spec.pure rfl
  refine Spec.seq (lookup_keeps own _) fun a6 => ?_
  split
  · exact Spec.pure rfl
  refine Spec.acquire_bind (fun s6 => ?_) fun _ => Spec.pure rfl
  refine Spec.seq (own_ask List.mem_cons_self _) fun answer => ?_
  refine Spec.seq (Spec.release s6 own) fun _ => ?_
  split <;> exact Spec.pure rfl

theorem configureUtun_keeps (mine : s ∈ own) (cfg : DeviceConfig) (ifname : Text) :
    Keeps (configureUtun s cfg ifname) own := by
  unfold configureUtun
  split
  · exact Spec.pure rfl
  refine Spec.seq (setIoctlAddr_keeps mine _ _ _) fun local_ => ?_
  split
  · exact Spec.pure rfl
  refine Spec.seq (setIoctlAddr_keeps mine _ _ _) fun remote => ?_
  split
  · exact Spec.pure rfl
  · exact setIoctlAddr_keeps mine _ _ _

theorem configureUtunIpv6_keeps (own : List Fd) (cfg : DeviceConfig) (ifname : Text) :
    Keeps (configureUtunIpv6 cfg ifname) own := by
  unfold configureUtunIpv6
  split
  · exact Spec.pure rfl
  · exact aliasIpv6_keeps own _ _ _

theorem bringUpUtun_keeps (mine : s ∈ own) (cfg : DeviceConfig) (ifname : Text) :
    Keeps (bringUpUtun s cfg ifname) own := by
  unfold bringUpUtun
  split
  · exact Spec.pure rfl
  · exact setIfUp_keeps mine _

theorem applyDefaultTxQueueLen_keeps (platform : Platform) (mine : s ∈ own) :
    Keeps (applyDefaultTxQueueLen platform s) own := by
  unfold applyDefaultTxQueueLen
  split
  · refine Spec.seq (ioctl_keeps mine _ _) fun got => ?_
    split
    · exact Spec.pure rfl
    refine Spec.acquire_bind (fun sock => ?_) fun _ => Spec.pure rfl
    exact Spec.seq (setTxQueueLen_keeps List.mem_cons_self _ _) fun _ => Spec.release sock own
  · exact Spec.pure rfl

theorem disownAll_keeps {fds : List Fd} (mine : ∀ fd ∈ fds, fd ∈ own) :
    Keeps (disownAll fds) own := by
  induction fds with
  | nil => exact Spec.pure rfl
  | cons fd rest ih =>
      refine Spec.seq (own_ask (mine fd List.mem_cons_self) _) fun _ => ?_
      exact ih fun other member => mine other (List.mem_cons_of_mem fd member)

end PosixTunDeviceImpl

end Keeping

/-! The loops. -/

/-- Either all queues are there, or none is left open. -/
theorem openQueues_spec (devName : Text) (fds : List Fd) (count : Nat) :
    Spec (openQueues devName fds count) fds fun result own =>
      (∃ all, result = .ok all ∧ own = all ∧ all.length = fds.length + count) ∨
        ∃ error, result = .error error ∧ own = [] := by
  induction count generalizing fds with
  | zero => exact Spec.pure (Or.inl ⟨fds, rfl, rfl, rfl⟩)
  | succ count ih =>
      refine Spec.acquire_bind (fun qfd => ?_) fun answer => ?_
      · refine Spec.seq (ioctl_keeps List.mem_cons_self _ _) fun answer => ?_
        split
        · exact Spec.seq (Spec.release qfd fds) fun _ =>
            Spec.seq (Spec.releaseAll_only fds) fun _ => Spec.pure (Or.inr ⟨_, rfl, rfl⟩)
        · have more : (qfd :: fds).Perm (fds ++ [qfd]) := 
            (List.perm_append_comm : ([qfd] ++ fds).Perm (fds ++ [qfd]))
          refine ((ih (fds ++ [qfd])).regroup more).weaken ?_
          rintro result own (⟨all, rfl, rfl, length⟩ | failed)
          · refine Or.inl ⟨own, rfl, rfl, ?_⟩
            rw [length, List.length_append, List.length_singleton]
            omega
          · exact Or.inr failed
      · exact Spec.seq (Spec.releaseAll_only fds) fun _ => Spec.pure (Or.inr ⟨_, rfl, rfl⟩)

namespace PosixTunDeviceImpl

theorem adoptLoop_spec (newDescs fds : List Fd) :
    Spec (adoptLoop newDescs fds) (newDescs ++ fds) fun result own =>
      (result = .ok (newDescs ++ fds) ∧ own = newDescs ++ fds) ∨
        ∃ error, result = .error error ∧ own = [] := by
  induction fds generalizing newDescs with
  | nil => exact Spec.pure (Or.inl ⟨by rw [List.append_nil], rfl⟩)
  | cons fd rest ih =>
      have mine : fd ∈ newDescs ++ fd :: rest :=
        List.mem_append_right newDescs List.mem_cons_self
      refine Spec.seq (own_ask mine _) fun answer => ?_
      split
      · exact Spec.seq (Spec.releaseAll newDescs (fd :: rest)) fun _ =>
          Spec.seq (Spec.releaseAll_only (fd :: rest)) fun _ => Spec.pure (Or.inr ⟨_, rfl, rfl⟩)
      · have spec := ih (newDescs ++ [fd])
        rwa [List.append_assoc, List.singleton_append] at spec

theorem assignLoop_keeps (platform : Platform) {own : List Fd} (newDescs : List Fd)
    {handles : List Fd} (mine : ∀ fd ∈ newDescs ++ handles, fd ∈ own) :
    Spec (assignLoop platform newDescs handles) own fun result after => after = own ∧
      (result = .ok (newDescs ++ handles) ∨ ∃ error, result = .error error) := by
  induction handles generalizing newDescs with
  | nil => exact Spec.pure ⟨rfl, Or.inl (by rw [List.append_nil])⟩
  | cons handle rest ih =>
      have one : handle ∈ own := mine handle (List.mem_append_right newDescs List.mem_cons_self)
      refine Spec.seq (applyDefaultTxQueueLen_keeps platform one) fun _ => ?_
      refine Spec.seq (own_ask one _) fun answer => ?_
      split
      · have kept : ∀ fd ∈ newDescs, fd ∈ own := fun fd member =>
          mine fd (List.mem_append_left _ member)
        exact Spec.seq (disownAll_keeps kept) fun _ => Spec.pure ⟨rfl, Or.inr ⟨_, rfl⟩⟩
      · have spec := ih (newDescs ++ [handle])
        rw [List.append_assoc, List.singleton_append] at spec
        exact spec mine

/-- An open device has its descriptors, and a closed one none. -/
structure WellFormed (device : PosixTunDeviceImpl) : Prop where
  opened : device.open_ = true ↔ device.descs ≠ []
  few : device.descs.length ≤ maxMultiQueues

/-- The device after `close`. -/
def closed (device : PosixTunDeviceImpl) : PosixTunDeviceImpl :=
  { device with descs := [], open_ := false }

/-- The device after `open` or `assign_queues`. -/
def holding (descs : List Fd) (mtu : Nat) (utunPrefix : Bool) : PosixTunDeviceImpl :=
  { descs := descs, open_ := true, mtu := mtu, utunPrefix := utunPrefix }

theorem WellFormed.closed (device : PosixTunDeviceImpl) : device.closed.WellFormed :=
  ⟨⟨fun shut => absurd shut Bool.false_ne_true, fun some => absurd rfl some⟩, Nat.zero_le _⟩

theorem WellFormed.holding {descs : List Fd} (some : descs ≠ [])
    (few : descs.length ≤ maxMultiQueues) (mtu : Nat) (utunPrefix : Bool) :
    (holding descs mtu utunPrefix).WellFormed :=
  ⟨⟨fun _ => some, fun _ => rfl⟩, few⟩

theorem close_spec {device : PosixTunDeviceImpl} (formed : device.WellFormed) :
    Spec device.close device.descs fun result own => result = device.closed ∧ own = [] := by
  unfold close
  split
  · exact Spec.seq (Spec.releaseAll_only _) fun _ => Spec.pure ⟨rfl, rfl⟩
  · rename_i shut
    have none : device.descs = [] := by
      by_contra some
      exact shut (formed.opened.mpr some)
    refine Spec.pure ⟨?_, none⟩
    unfold PosixTunDeviceImpl.closed
    rw [← none, ← Bool.eq_false_iff.mpr shut]

/-- What `open` may come to: an error and a closed device, or a device with so many descriptors of
its own, that reports an MTU of this kind. -/
inductive OpenOutcome (device : PosixTunDeviceImpl) (queues : Nat) (reported : Nat → Prop) :
    Opened → Prop
  | failed (error : DeviceError) :
      OpenOutcome device queues reported (device.closed, .error error)
  | opened (fds : List Fd) (mtu : Nat) (utunPrefix : Bool) (all : fds.length = queues)
      (allowed : 0 < queues ∧ queues ≤ maxMultiQueues) (reports : reported mtu) :
      OpenOutcome device queues reported (holding fds mtu utunPrefix, .ok ())

theorem OpenOutcome.wellFormed {device : PosixTunDeviceImpl} {queues : Nat}
    {reported : Nat → Prop} {result : Opened} (outcome : OpenOutcome device queues reported result) :
    result.1.WellFormed := by
  cases outcome with
  | failed error => exact WellFormed.closed device
  | opened fds mtu utunPrefix all allowed reports =>
      subst all
      exact WellFormed.holding (List.ne_nil_of_length_pos allowed.1) allowed.2 mtu utunPrefix

section Opening

variable {device : PosixTunDeviceImpl} {queues : Nat} {reported : Nat → Prop}

/-- What is owned at the end is what the device has. -/
abbrev Opens (m : System Opened) (before : List Fd) (device : PosixTunDeviceImpl) (queues : Nat)
    (reported : Nat → Prop) : Prop :=
  Spec m before fun result own => own = result.1.descs ∧ OpenOutcome device queues reported result

theorem failed_opens (error : DeviceError) :
    Opens (pure (device.closed, .error error)) [] device queues reported :=
  Spec.pure ⟨rfl, .failed error⟩

theorem giveUp_opens (s : Fd) (fds : List Fd) (error : DeviceError) :
    Opens (device.closed.giveUp s fds error) (s :: fds) device queues reported :=
  Spec.seq (Spec.release s fds) fun _ =>
    Spec.seq (Spec.releaseAll_only fds) fun _ => failed_opens error

theorem adoptFds_opens {fds : List Fd} {mtu : Nat} (utunPrefix : Bool)
    (all : fds.length = queues) (allowed : 0 < queues ∧ queues ≤ maxMultiQueues)
    (reports : reported mtu) :
    Opens (device.closed.adoptFds fds mtu utunPrefix) fds device queues reported := by
  refine Spec.bind (adoptLoop_spec [] fds) ?_
  rintro result own (⟨rfl, owned⟩ | ⟨error, rfl, rfl⟩)
  · rw [owned]
    exact Spec.seq (Spec.releaseAll [] fds) fun _ =>
      Spec.pure ⟨rfl, .opened fds mtu utunPrefix all allowed reports⟩
  · exact failed_opens error

end Opening

/-- On Linux a device without an IPv4 address reports the MTU that was set.  One with an address
reports the word that the MTU shares with the flags, where `IFF_UP` and `IFF_RUNNING` are set. -/
structure LinuxReports (cfg : DeviceConfig) (mtu : Nat) : Prop where
  plain : cfg.ipv4 = [] → mtu = (({} : Ifreq).setWord (max cfg.mtu 576)).mtu
  addressed : cfg.ipv4 ≠ [] → mtu % 2 = 1 ∧ mtu / 64 % 2 = 1

theorem setFlags_reported (ifr : Ifreq) (flags : UInt16) :
    (ifr.setFlags (flags ||| (iffUp ||| iffRunning))).mtu % 2 = 1 ∧
      (ifr.setFlags (flags ||| (iffUp ||| iffRunning))).mtu / 64 % 2 = 1 := by
  have bits (i : Nat) (set : (0x41 : Nat).testBit i = true) :
      (ifr.setFlags (flags ||| (iffUp ||| iffRunning))).word.toNat.testBit i = true := by
    unfold Ifreq.setFlags
    rw [UInt32.toNat_or, Nat.testBit_or, UInt16.toNat_toUInt32, UInt16.toNat_or, Nat.testBit_or]
    have both : (iffUp ||| iffRunning).toNat = 0x41 := by decide
    rw [both, set, Bool.or_true, Bool.or_true]
  have up := bits 0 (by decide)
  have running := bits 6 (by decide)
  rw [Nat.testBit_eq_decide_div_mod_eq, decide_eq_true_eq] at up running
  unfold Ifreq.mtu
  split <;> omega

theorem bringUp_opens {device : PosixTunDeviceImpl} (s : Fd) {cfg : DeviceConfig} (devName : Text)
    {fds : List Fd} {queues : Nat} (all : fds.length = queues)
    (allowed : 0 < queues ∧ queues ≤ maxMultiQueues) (addressed : cfg.ipv4 ≠ []) :
    Opens (device.closed.bringUp s cfg devName fds) (s :: fds) device queues
      (LinuxReports cfg) := by
  have mine : s ∈ s :: fds := List.mem_cons_self
  refine Spec.seq (ioctl_keeps mine _ _) fun set => ?_
  split
  · exact giveUp_opens s fds _
  refine Spec.seq (ioctl_keeps mine _ _) fun got => ?_
  split
  · exact giveUp_opens s fds _
  refine Spec.seq (ioctl_keeps mine _ _) fun up => ?_
  split
  · exact giveUp_opens s fds _
  refine Spec.seq (Spec.release s fds) fun _ => adoptFds_opens false all allowed ?_
  exact ⟨fun none => absurd none addressed, fun _ => setFlags_reported _ _⟩

theorem configure_opens {device : PosixTunDeviceImpl} (cfg : DeviceConfig) (devName : Text)
    {fds : List Fd} {queues : Nat} (all : fds.length = queues)
    (allowed : 0 < queues ∧ queues ≤ maxMultiQueues) :
    Opens (device.closed.configure cfg devName fds) fds device queues (LinuxReports cfg) := by
  refine Spec.acquire_bind (fun s => ?_) fun answer => ?_
  · have mine : s ∈ s :: fds := List.mem_cons_self
    refine Spec.seq (setTxQueueLen_keeps mine _ _) fun _ => ?_
    split
    · rename_i none
      refine Spec.seq (ioctl_keeps mine _ _) fun answer => ?_
      split
      · exact giveUp_opens s fds _
      refine Spec.seq (Spec.release s fds) fun _ => adoptFds_opens false all allowed ?_
      exact ⟨fun _ => rfl, fun addressed => absurd none addressed⟩
    · rename_i addressed
      refine Spec.seq (setIfr_keeps mine _ _ _) fun address => ?_
      split
      · exact giveUp_opens s fds _
      refine Spec.seq (setIfr_keeps mine _ _ _) fun netmask => ?_
      split
      · exact giveUp_opens s fds _
      refine Spec.seq (configureIpv6_keeps mine _ _) fun ipv6 => ?_
      split
      · exact giveUp_opens s fds _
      · exact bringUp_opens s devName all allowed addressed
  · exact Spec.seq (Spec.releaseAll_only fds) fun _ => failed_opens _

/-- `open` on Linux, whatever fails. -/
theorem openLinux_opens {device : PosixTunDeviceImpl} (formed : device.WellFormed)
    (cfg : DeviceConfig) :
    Opens (device.openLinux cfg) device.descs device cfg.numQueues (LinuxReports cfg) := by
  refine Spec.bind (close_spec formed) ?_
  rintro _ _ ⟨rfl, rfl⟩
  split
  · exact failed_opens _
  rename_i queues
  have allowed : 0 < cfg.numQueues ∧ cfg.numQueues ≤ maxMultiQueues := by omega
  refine Spec.acquire_bind (fun fd => ?_) fun answer => failed_opens _
  refine Spec.seq (ioctl_keeps List.mem_cons_self _ _) fun answer => ?_
  split
  · exact Spec.seq (Spec.release fd []) fun _ => failed_opens _
  refine Spec.bind (openQueues_spec _ [fd] _) ?_
  rintro result own (⟨all, rfl, rfl, length⟩ | ⟨error, rfl, rfl⟩)
  · refine configure_opens cfg _ ?_ allowed
    rw [length, List.length_singleton]
    omega
  · exact failed_opens error

/-- The descriptor is the caller's, or nobody's. -/
theorem failUtun_spec (fd : Fd) (error : DeviceError) :
    Spec (failUtun fd error) [fd] fun result own =>
      (∃ fd ifname, result = .ok (fd, ifname) ∧ own = [fd]) ∨
        ∃ error, result = .error error ∧ own = [] :=
  Spec.seq (Spec.release fd []) fun _ => Spec.pure (Or.inr ⟨error, rfl, rfl⟩)

theorem unblock_spec (fd : Fd) (ifname : Text) :
    Spec (unblock fd ifname) [fd] fun result own =>
      (∃ fd ifname, result = .ok (fd, ifname) ∧ own = [fd]) ∨
        ∃ error, result = .error error ∧ own = [] := by
  have mine : fd ∈ [fd] := List.mem_cons_self
  refine Spec.seq (own_ask mine _) fun flags => ?_
  split
  · exact failUtun_spec fd _
  refine Spec.seq (own_ask mine _) fun set => ?_
  split
  · exact failUtun_spec fd _
  refine Spec.seq (own_ask mine _) fun cloexec => ?_
  split
  · exact failUtun_spec fd _
  · exact Spec.pure (Or.inl ⟨fd, _, rfl, rfl⟩)

theorem openUtun_spec (name : Text) :
    Spec (openUtun name) [] fun result own =>
      (∃ fd ifname, result = .ok (fd, ifname) ∧ own = [fd]) ∨
        ∃ error, result = .error error ∧ own = [] := by
  unfold openUtun
  split
  · exact Spec.pure (Or.inr ⟨_, rfl, rfl⟩)
  refine Spec.acquire_bind (fun fd => ?_) fun answer => Spec.pure (Or.inr ⟨_, rfl, rfl⟩)
  have mine : fd ∈ [fd] := List.mem_cons_self
  refine Spec.seq (own_ask mine _) fun info => ?_
  split
  · exact failUtun_spec fd _
  refine Spec.seq (own_ask mine _) fun connected => ?_
  split
  · exact failUtun_spec fd _
  refine Spec.seq (own_ask mine _) fun ifname => ?_
  split
  · exact failUtun_spec fd _
  · exact unblock_spec fd _

/-- `open` on macOS, whatever fails. -/
theorem openApple_opens {device : PosixTunDeviceImpl} (formed : device.WellFormed)
    (cfg : DeviceConfig) :
    Opens (device.openApple cfg) device.descs device 1 fun _ => True := by
  refine Spec.bind (close_spec formed) ?_
  rintro _ _ ⟨rfl, rfl⟩
  refine Spec.bind (openUtun_spec cfg.name) ?_
  rintro result own (⟨fd, ifname, rfl, rfl⟩ | ⟨error, rfl, rfl⟩)
  · refine Spec.acquire_bind (fun s => ?_) fun answer =>
      Spec.seq (Spec.release fd []) fun _ => failed_opens _
    have mine : s ∈ [s, fd] := List.mem_cons_self
    refine Spec.seq (setIoctlMtu_keeps mine _ _) fun mtu => ?_
    split
    · exact giveUp_opens s [fd] _
    refine Spec.seq (configureUtun_keeps mine _ _) fun addresses => ?_
    split
    · exact giveUp_opens s [fd] _
    refine Spec.seq (configureUtunIpv6_keeps _ _ _) fun ipv6 => ?_
    split
    · exact giveUp_opens s [fd] _
    refine Spec.seq (bringUpUtun_keeps mine _ _) fun up => ?_
    split
    · exact giveUp_opens s [fd] _
    · exact Spec.seq (Spec.release s [fd]) fun _ =>
        adoptFds_opens true rfl ⟨Nat.one_pos, by decide⟩ trivial
  · exact failed_opens error

/-- What `assign_queues` may come to: an error and the device as it was, or the device with the
handles. -/
inductive AssignOutcome (device : PosixTunDeviceImpl) (handles : List Fd) (mtu : Nat)
    (utunPrefix : Bool) : Opened → Prop
  | failed (error : DeviceError) :
      AssignOutcome device handles mtu utunPrefix (device, .error error)
  | assigned (some : handles ≠ []) (few : handles.length ≤ maxMultiQueues) :
      AssignOutcome device handles mtu utunPrefix (holding handles mtu utunPrefix, .ok ())

theorem AssignOutcome.wellFormed {device : PosixTunDeviceImpl} {handles : List Fd} {mtu : Nat}
    {utunPrefix : Bool} {result : Opened}
    (outcome : AssignOutcome device handles mtu utunPrefix result) (formed : device.WellFormed) :
    result.1.WellFormed := by
  cases outcome with
  | failed error => exact formed
  | assigned some few => exact WellFormed.holding some few mtu utunPrefix

/-- A failed `assign_queues` leaves all handles open; otherwise the old descriptors are closed. -/
theorem assignQueues_spec (platform : Platform) (device : PosixTunDeviceImpl) (handles : List Fd)
    (mtu : Nat) (utunPrefix : Bool) :
    Spec (assignQueues platform device handles mtu utunPrefix) (device.descs ++ handles)
      fun result own => AssignOutcome device handles mtu utunPrefix result ∧
        own = if result.2 = .ok () then handles else device.descs ++ handles := by
  unfold assignQueues
  split
  · exact Spec.pure ⟨.failed _, rfl⟩
  rename_i some
  split
  · exact Spec.pure ⟨.failed _, rfl⟩
  rename_i few
  refine Spec.bind (assignLoop_keeps platform [] fun fd member =>
    List.mem_append_right device.descs member) ?_
  rintro _ _ ⟨rfl, rfl | ⟨error, rfl⟩⟩
  · exact Spec.seq (Spec.releaseAll device.descs handles) fun _ =>
      Spec.pure ⟨.assigned some (Nat.le_of_not_lt few), rfl⟩
  · exact Spec.pure ⟨.failed error, rfl⟩

/-- What `open` may come to on each platform. -/
def OpenEnds (platform : Platform) (device : PosixTunDeviceImpl) (cfg : DeviceConfig)
    (result : Opened) : Prop :=
  match platform with
  | .linux => OpenOutcome device cfg.numQueues (LinuxReports cfg) result
  | .apple => OpenOutcome device 1 (fun _ => True) result
  | .other => result = (device, .error .notSupported)

theorem OpenEnds.wellFormed {platform : Platform} {device : PosixTunDeviceImpl}
    {cfg : DeviceConfig} {result : Opened} (ends : OpenEnds platform device cfg result)
    (formed : device.WellFormed) : result.1.WellFormed := by
  cases platform with
  | linux => exact OpenOutcome.wellFormed ends
  | apple => exact OpenOutcome.wellFormed ends
  | other =>
      rw [show result = _ from ends]
      exact formed

theorem openOn_spec (platform : Platform) {device : PosixTunDeviceImpl}
    (formed : device.WellFormed) (cfg : DeviceConfig) :
    Spec (device.openOn platform cfg) device.descs fun result own =>
      own = result.1.descs ∧ OpenEnds platform device cfg result := by
  cases platform with
  | linux => exact openLinux_opens formed cfg
  | apple => exact openApple_opens formed cfg
  | other => exact Spec.pure ⟨rfl, rfl⟩

end PosixTunDeviceImpl

/-- A process with a device.  `caller` has the descriptors of the rest of the process, `last` what
the last `open` or `assign_queues` said. -/
structure Process where
  device : PosixTunDeviceImpl := {}
  caller : List Fd := []
  last : Except DeviceError Unit := .ok ()
  book : Book Fd := {}

inductive ProcessEvent
  | open_ (cfg : DeviceConfig)
  | assign (handles : List Fd) (mtu : Nat) (utunPrefix : Bool)
  | close
  | obtain
  | drop (fd : Fd)

namespace Process

def step (platform : Platform) (system : Lender Fd Call Answer) (s : Process) :
    ProcessEvent → Process
  | .open_ cfg =>
      let (result, book) := s.device.openOn platform cfg system s.book
      { s with device := result.1, last := result.2, book := book }
  | .assign handles mtu utunPrefix =>
      let (result, book) := s.device.assignQueues platform handles mtu utunPrefix system s.book
      { device := result.1
        caller := if result.2 = .ok () then s.caller.diff handles else s.caller
        last := result.2
        book := book }
  | .close =>
      let (device, book) := s.device.close system s.book
      { s with device := device, book := book }
  | .obtain =>
      match acquire (A := Answer) Call.openTun system s.book with
      | (.ok fd, book) => { s with caller := fd :: s.caller, book := book }
      | (.error _, book) => { s with book := book }
  | .drop fd =>
      let ((), book) := release fd system s.book
      { s with caller := s.caller.erase fd, book := book }

/-- The handles that are injected are different ones of the caller's, and the rest of the process
closes what is its own. -/
def Lawful (s : Process) : ProcessEvent → Prop
  | .assign handles _ _ => handles.Nodup ∧ ∀ fd ∈ handles, fd ∈ s.caller
  | .drop fd => fd ∈ s.caller
  | _ => True

inductive Reaches (platform : Platform) (system : Lender Fd Call Answer) : Process → Prop
  | start : Reaches platform system {}
  | step {s : Process} (before : Reaches platform system s) (event : ProcessEvent)
      (lawful : s.Lawful event) : Reaches platform system (s.step platform system event)

/-- Every open descriptor is the device's or the caller's and none is both, and no call was made
with a descriptor that was not open. -/
structure Accounted (s : Process) : Prop where
  owns : s.book.Owns (s.device.descs ++ s.caller)
  formed : s.device.WellFormed

/-- What an event comes to, from a state and to one. -/
def Ends (platform : Platform) (s s' : Process) : ProcessEvent → Prop
  | .open_ cfg =>
      s.device.OpenEnds platform cfg (s'.device, s'.last) ∧ s'.caller = s.caller
  | .assign handles mtu utunPrefix =>
      s.device.AssignOutcome handles mtu utunPrefix (s'.device, s'.last) ∧
        s'.caller = if s'.last = .ok () then s.caller.diff handles else s.caller
  | .close => s'.device = s.device.closed ∧ s'.caller = s.caller
  | .obtain => s'.device = s.device
  | .drop fd => s'.device = s.device ∧ s'.caller = s.caller.erase fd

theorem diff_perm {handles all : List Fd} (apart : handles.Nodup)
    (among : ∀ fd ∈ handles, fd ∈ all) : all.Perm (handles ++ all.diff handles) :=
  (List.subperm_append_diff_self_of_count_le
    (List.subperm_ext_iff.mp (List.subperm_of_subset apart among))).symm

/-- One step. -/
theorem Accounted.step {platform : Platform} {system : Lender Fd Call Answer} {s : Process}
    (accounted : s.Accounted) (event : ProcessEvent) (lawful : s.Lawful event) :
    (s.step platform system event).Accounted ∧
      Ends platform s (s.step platform system event) event := by
  have owns := accounted.owns
  have formed := accounted.formed
  cases event with
  | open_ cfg =>
      obtain ⟨_, ⟨rfl, ends⟩, after⟩ :=
        s.device.openOn_spec platform formed cfg system s.book s.caller owns
      exact ⟨⟨after, ends.wellFormed formed⟩, ends, rfl⟩
  | assign handles mtu utunPrefix =>
      have before : s.book.Owns ((s.device.descs ++ handles) ++ s.caller.diff handles) := by
        refine owns.regroup ?_
        rw [List.append_assoc]
        exact (diff_perm lawful.1 lawful.2).append_left s.device.descs
      obtain ⟨own, ⟨outcome, rfl⟩, after⟩ :=
        s.device.assignQueues_spec platform handles mtu utunPrefix system s.book _ before
      unfold Process.step
      dsimp only
      generalize s.device.assignQueues platform handles mtu utunPrefix system s.book = ended
        at outcome after ⊢
      obtain ⟨result, book⟩ := ended
      refine ⟨⟨?_, outcome.wellFormed formed⟩, outcome, rfl⟩
      cases outcome with
      | failed error =>
          refine after.regroup ?_
          rw [if_neg (by simp), List.append_assoc]
          exact (diff_perm lawful.1 lawful.2).symm.append_left s.device.descs
      | assigned some few => exact after
  | close =>
      obtain ⟨own, ⟨closed, rfl⟩, after⟩ :=
        PosixTunDeviceImpl.close_spec formed system s.book s.caller owns
      unfold Process.step
      dsimp only
      rw [closed]
      exact ⟨⟨after, PosixTunDeviceImpl.WellFormed.closed s.device⟩, rfl, rfl⟩
  | obtain =>
      obtain ⟨own, got, after⟩ :=
        Spec.acquire Call.openTun (s.device.descs ++ s.caller) system s.book []
          ((List.append_nil _).symm ▸ owns)
      unfold Process.step
      dsimp only
      generalize acquire Call.openTun system s.book = ended at got after
      obtain ⟨result, book⟩ := ended
      rcases got with ⟨fd, rfl, rfl⟩ | ⟨answer, rfl, rfl⟩
      · refine ⟨⟨?_, formed⟩, rfl⟩
        refine after.regroup ?_
        rw [List.append_nil]
        exact List.perm_middle.symm
      · refine ⟨⟨?_, formed⟩, rfl⟩
        rwa [List.append_nil] at after
  | drop fd =>
      have apart : (s.device.descs ++ s.caller).Perm (fd :: (s.device.descs ++ s.caller.erase fd)) :=
        ((List.perm_cons_erase lawful).append_left s.device.descs).trans List.perm_middle
      obtain ⟨own, rfl, after⟩ :=
        Spec.release fd [] system s.book (s.device.descs ++ s.caller.erase fd) (owns.regroup apart)
      exact ⟨⟨after, formed⟩, rfl, rfl⟩

/-- A system where no call fails, and a new descriptor has the lowest number that is free. -/
def willing : Lender Fd Call Answer where
  answer _ call := { result := match call with | .inetPton _ _ => 1 | _ => 0 }
  pick _ _ out := (List.range (out.length + 1)).find? fun fd => decide (fd ∉ out)
  unused _ _ out fd found := by
    have free := List.find?_some found
    exact of_decide_eq_true free

end Process

end Tunio
