import Mathlib.Algebra.Order.Ring.Nat
import Tunio.Leases

/-!
The device of a POSIX system (`tun_device_posix.cpp`): how it comes by its file descriptors, on
every path of `open`, `assign_queues` and `close`.  The answers of the system are the lender's:
which calls fail, what they write back, and which numbers new descriptors get.
-/

namespace Tunio

open Leases

abbrev Fd := Nat

/-- The bytes of a string. -/
abbrev Text := List UInt8

/-- What a `const char*` to the text shows. -/
def cStr (text : Text) : Text := text.takeWhile (· ≠ 0)

/-- `max_multi_queues`. -/
def maxMultiQueues : Nat := 256

structure DeviceConfig where
  name : Text := []
  ipv4 : Text := []
  netmask : Text := []
  ipv6 : Text := []
  ipv6PrefixLen : UInt8 := 64
  mtu : Nat := 1500
  numQueues : Nat := 1
  deriving DecidableEq, Repr

/-- An `ifreq`.  `word` holds the union's first four bytes: `ifr_mtu`, `ifr_qlen` and `ifr_ifindex`
are all of it, `ifr_flags` is its lower half. -/
structure Ifreq where
  name : Text := []
  word : UInt32 := 0
  addr : Text := []
  deriving DecidableEq, Repr

namespace Ifreq

/-- A cleared request with a name of at most `IFNAMSIZ - 1` bytes. -/
def named (name : Text) : Ifreq := { name := (cStr name).take 15 }

def flags (ifr : Ifreq) : UInt16 := ifr.word.toUInt16

def setFlags (ifr : Ifreq) (flags : UInt16) : Ifreq :=
  { ifr with word := (ifr.word &&& 0xffff0000) ||| flags.toUInt32 }

/-- An assignment of an `int` from a `size_t`. -/
def setWord (ifr : Ifreq) (value : Nat) : Ifreq := { ifr with word := UInt32.ofNat value }

/-- `static_cast<size_t>(ifr.ifr_mtu)`. -/
def mtu (ifr : Ifreq) : Nat :=
  if ifr.word.toNat < 2 ^ 31 then ifr.word.toNat else 2 ^ 64 - 2 ^ 32 + ifr.word.toNat

end Ifreq

def iffUp : UInt16 := 0x1
def iffRunning : UInt16 := 0x40
def iffTun : UInt16 := 0x1
def iffNoPi : UInt16 := 0x1000
def iffMultiQueue : UInt16 := 0x100

inductive IoctlRequest
  | tunSetIff
  | tunGetIff
  | siocGifIndex
  | siocSifTxqlen
  | siocSifMtu
  | siocGifMtu
  | siocGifFlags
  | siocSifFlags
  | siocSifAddr
  | siocSifDstaddr
  | siocSifNetmask
  deriving DecidableEq, Repr

inductive SocketKind
  | inetDatagram
  | inet6Datagram
  | netlinkRoute
  | systemControl
  deriving DecidableEq, Repr

inductive Fcntl
  | getFl
  | setFl (flags : Nat)
  | setFdCloexec
  deriving DecidableEq, Repr

/-- The message of `RTM_NEWADDR`; the attributes in order, each with its type. -/
structure NlMessage where
  length : Nat := 24
  type : UInt16 := 20
  flags : UInt16 := 0x605
  seq : UInt32 := 1
  family : UInt8 := 10
  prefixlen : UInt8
  scope : UInt8 := 0
  index : UInt32
  attributes : List (Nat × List UInt8) := []
  deriving DecidableEq, Repr

/-- `RTA_ALIGN` and `NLMSG_ALIGN`. -/
def align4 (length : Nat) : Nat := (length + 3) / 4 * 4

/-- An attribute that does not fit is left out. -/
def addattrL (n : NlMessage) (maxlen type : Nat) (data : List UInt8) : NlMessage :=
  if maxlen < align4 n.length + align4 (4 + data.length) then n
  else
    { n with length := align4 n.length + align4 (4 + data.length)
             attributes := n.attributes ++ [(type, data)] }

/-- The calls into the system and into Asio. -/
inductive Call
  | openTun
  | socket (kind : SocketKind)
  | ioctl (fd : Fd) (request : IoctlRequest) (ifr : Ifreq)
  | inetPton (v6 : Bool) (text : Text)
  | send (fd : Fd) (message : NlMessage)
  | await (fd : Fd)
  | ctlInfo (fd : Fd) (name : Text)
  | connect (fd : Fd) (id unit : UInt32)
  | getsockopt (fd : Fd)
  | fcntl (fd : Fd) (command : Fcntl)
  | aliasIn6 (fd : Fd) (name addr mask : Text)
  | assign (fd : Fd)
  | disown (fd : Fd)
  deriving DecidableEq, Repr

/-- What one `recv` gives that `poll` announced. -/
inductive Round
  | failed (errno : Nat)
  | message (bytes : List UInt8)
  deriving DecidableEq, Repr

/-- `rounds` is all that comes in before `poll` gives up. -/
structure Answer where
  result : Int := 0
  errno : Nat := 0
  ifr : Ifreq := {}
  bytes : Text := []
  word : UInt32 := 0
  rounds : List Round := []
  deriving DecidableEq, Repr

inductive DeviceError
  | invalidArgument
  | timedOut
  | notSupported
  | system (errno : Int)
  deriving DecidableEq, Repr

def Answer.failed (answer : Answer) : Bool := answer.result < 0

def Answer.error (answer : Answer) : DeviceError := .system answer.errno

abbrev System (α : Type) := Lease Fd Call Answer α

/-- A call on a descriptor. -/
def ioctl (fd : Fd) (request : IoctlRequest) (ifr : Ifreq) : System Answer :=
  ask [fd] (.ioctl fd request ifr)

/-! Linux. -/

section Netlink

/-- A number of so many bytes at an offset, least byte first; the buffer ends in zeros. -/
def little (bytes : List UInt8) (offset count : Nat) : Nat :=
  ((bytes.drop offset).take count).foldr (fun byte rest => byte.toNat + 256 * rest) 0

def nlmsgOk (rest : List UInt8) : Bool :=
  16 ≤ rest.length && 16 ≤ little rest 0 4 && little rest 0 4 ≤ rest.length

/-- The error of the first `NLMSG_ERROR` among the messages. -/
def ackOf (rest : List UInt8) : Option Int :=
  if nlmsgOk rest then
    if little rest 4 2 = 2 then
      some (if little rest 16 4 < 2 ^ 31 then little rest 16 4 else little rest 16 4 - 2 ^ 32)
    else ackOf (rest.drop (align4 (little rest 0 4)))
  else none
termination_by rest.length
decreasing_by
  rename_i ok _
  simp only [nlmsgOk, Bool.and_eq_true, decide_eq_true_eq] at ok
  rw [List.length_drop, align4]
  omega

def eintr : Nat := 4
def eexist : Nat := 17

/-- The loop of `add_ipv6_address` that waits for the acknowledgement. -/
def awaitAck : List Round → Except DeviceError Unit
  | [] => .error .timedOut
  | .failed errno :: rest =>
      if errno = eintr then awaitAck rest else .error (.system errno)
  | .message bytes :: rest =>
      match ackOf bytes with
      | some error => if error = 0 ∨ error = -eexist then .ok () else .error (.system (-error))
      | none => awaitAck rest

end Netlink

def newAddress (prefixLen : UInt8) (index : UInt32) (a6 : Text) : NlMessage :=
  let n : NlMessage := { prefixlen := prefixLen, index := index }
  addattrL (addattrL n 512 2 a6) 512 1 a6

/-- `add_ipv6_address` of Linux. -/
def addIpv6Address (ioctlSock : Fd) (ifname addr : Text) (prefixLen : UInt8) :
    System (Except DeviceError Unit) :=
  if 128 < prefixLen then pure (.error .invalidArgument)
  else do
    let a6 ← ask [] (.inetPton true (cStr addr))
    if a6.result ≠ 1 then pure (.error .invalidArgument)
    else do
      let idx ← ioctl ioctlSock .siocGifIndex (.named ifname)
      if idx.failed then pure (.error idx.error)
      else do
        match ← acquire (.socket .netlinkRoute) with
        | .error answer => pure (.error answer.error)
        | .ok nl => do
            let sent ← ask [nl] (.send nl (newAddress prefixLen idx.ifr.word a6.bytes))
            if sent.failed then do
              release nl
              pure (.error sent.error)
            else do
              let answer ← ask [nl] (.await nl)
              release nl
              pure (awaitAck answer.rounds)

def setTxQueueLen (sock : Fd) (ifname : Text) (qlen : Nat) : System Unit := do
  let _ ← ioctl sock .siocSifTxqlen ((Ifreq.named ifname).setWord qlen)
  pure ()

/-- What makes a queue's descriptor, besides its name. -/
def queueFlags (multi : Bool) : UInt16 :=
  iffTun ||| iffNoPi ||| (if multi then iffMultiQueue else 0)

/-- The loop over the queues after the first. -/
def openQueues (devName : Text) (fds : List Fd) : Nat → System (Except DeviceError (List Fd))
  | 0 => pure (.ok fds)
  | count + 1 => do
      match ← acquire .openTun with
      | .error answer => do
          releaseAll fds
          pure (.error answer.error)
      | .ok qfd => do
          let answer ← ioctl qfd .tunSetIff ((Ifreq.named devName).setFlags (queueFlags true))
          if answer.failed then do
            release qfd
            releaseAll fds
            pure (.error answer.error)
          else openQueues devName (fds ++ [qfd]) count

structure PosixTunDeviceImpl where
  descs : List Fd := []
  mtu : Nat := 1500
  open_ : Bool := false
  utunPrefix : Bool := false
  deriving DecidableEq, Repr

/-- What `open` and `assign_queues` leave: the device, and the error code. -/
abbrev Opened := PosixTunDeviceImpl × Except DeviceError Unit

namespace PosixTunDeviceImpl

def close (device : PosixTunDeviceImpl) : System PosixTunDeviceImpl :=
  if device.open_ then do
    releaseAll device.descs
    pure { device with descs := [], open_ := false }
  else pure device

/-- The loop of `adopt_fds`; the descriptors that it does not keep are closed. -/
def adoptLoop (newDescs : List Fd) : List Fd → System (Except DeviceError (List Fd))
  | [] => pure (.ok newDescs)
  | fd :: rest => do
      let answer ← ask [fd] (.assign fd)
      if answer.failed then do
        releaseAll newDescs
        releaseAll (fd :: rest)
        pure (.error answer.error)
      else adoptLoop (newDescs ++ [fd]) rest

/-- The end of `adopt_fds` and of `assign_queues`: the old descriptors are closed as they are
replaced. -/
def take (device : PosixTunDeviceImpl) (newDescs : List Fd) (mtu : Nat) (utunPrefix : Bool) :
    System Opened := do
  releaseAll device.descs
  pure ({ descs := newDescs, open_ := true, mtu := mtu, utunPrefix := utunPrefix }, .ok ())

def adoptFds (device : PosixTunDeviceImpl) (fds : List Fd) (mtu : Nat) (utunPrefix : Bool) :
    System Opened := do
  match ← adoptLoop [] fds with
  | .error error => pure (device, .error error)
  | .ok newDescs => device.take newDescs mtu utunPrefix

/-- The socket and the queues are closed, and `open` fails. -/
def giveUp (device : PosixTunDeviceImpl) (s : Fd) (fds : List Fd) (error : DeviceError) :
    System Opened := do
  release s
  releaseAll fds
  pure (device, .error error)

/-- `set_ifr`. -/
def setIfr (s : Fd) (devName : Text) (request : IoctlRequest) (addr : Text) :
    System (Except DeviceError Unit) := do
  let sin ← ask [] (.inetPton false (cStr addr))
  if sin.result ≠ 1 then pure (.error .invalidArgument)
  else do
    let answer ← ioctl s request { Ifreq.named devName with addr := sin.bytes }
    if answer.result = 0 then pure (.ok ()) else pure (.error answer.error)

/-- An address is asked for only where the configuration has one. -/
def configureIpv6 (s : Fd) (cfg : DeviceConfig) (devName : Text) :
    System (Except DeviceError Unit) :=
  if cfg.ipv6 = [] then pure (.ok ()) else addIpv6Address s devName cfg.ipv6 cfg.ipv6PrefixLen

/-- `open` on Linux from the MTU on, for a device with an IPv4 address.  The flags are read into
the `ifreq` that the MTU was set with, and `adopt_fds` gets the `ifr_mtu` of that. -/
def bringUp (device : PosixTunDeviceImpl) (s : Fd) (cfg : DeviceConfig) (devName : Text)
    (fds : List Fd) : System Opened := do
  let ifr := (Ifreq.named devName).setWord (max cfg.mtu 576)
  let set ← ioctl s .siocSifMtu ifr
  if set.failed then device.giveUp s fds set.error
  else do
    let got ← ioctl s .siocGifFlags ifr
    if got.failed then device.giveUp s fds got.error
    else do
      let ifr := got.ifr.setFlags (got.ifr.flags ||| (iffUp ||| iffRunning))
      let up ← ioctl s .siocSifFlags ifr
      if up.failed then device.giveUp s fds up.error
      else do
        release s
        device.adoptFds fds ifr.mtu false

/-- `open` on Linux once all queues are there. -/
def configure (device : PosixTunDeviceImpl) (cfg : DeviceConfig) (devName : Text)
    (fds : List Fd) : System Opened := do
  match ← acquire (.socket .inetDatagram) with
  | .error answer => do
      releaseAll fds
      pure (device, .error answer.error)
  | .ok s => do
      setTxQueueLen s devName 4096
      if cfg.ipv4 = [] then do
        let ifr := (Ifreq.named devName).setWord (max cfg.mtu 576)
        let answer ← ioctl s .siocSifMtu ifr
        if answer.failed then device.giveUp s fds answer.error
        else do
          release s
          device.adoptFds fds ifr.mtu false
      else do
        match ← setIfr s devName .siocSifAddr cfg.ipv4 with
        | .error error => device.giveUp s fds error
        | .ok () => do
            match ← setIfr s devName .siocSifNetmask cfg.netmask with
            | .error error => device.giveUp s fds error
            | .ok () => do
                match ← configureIpv6 s cfg devName with
                | .error error => device.giveUp s fds error
                | .ok () => device.bringUp s cfg devName fds

/-- `open` on Linux. -/
def openLinux (device : PosixTunDeviceImpl) (cfg : DeviceConfig) : System Opened := do
  let device ← device.close
  if cfg.numQueues < 1 ∨ maxMultiQueues < cfg.numQueues then
    pure (device, .error .invalidArgument)
  else do
    match ← acquire .openTun with
    | .error answer => pure (device, .error answer.error)
    | .ok fd => do
        let ifr := (Ifreq.named cfg.name).setFlags (queueFlags (1 < cfg.numQueues))
        let answer ← ioctl fd .tunSetIff ifr
        if answer.failed then do
          release fd
          pure (device, .error answer.error)
        else do
          let devName := if cStr answer.ifr.name ≠ [] then cStr answer.ifr.name else cfg.name
          match ← openQueues devName [fd] (cfg.numQueues - 1) with
          | .error error => pure (device, .error error)
          | .ok fds => device.configure cfg devName fds

/-! macOS. -/

def utun : Text := [117, 116, 117, 110]

def isDigit (byte : UInt8) : Bool := 48 ≤ byte && byte ≤ 57

/-- `strtol` on digits. -/
def strtol (digits : Text) : Nat :=
  min (digits.foldl (fun value digit => 10 * value + (digit.toNat - 48)) 0) (2 ^ 63 - 1)

/-- The `sc_unit` that a name asks for. -/
def scUnit (name : Text) : Option UInt32 :=
  if name = [] ∨ name = utun then some 0
  else if name.take 4 ≠ utun ∨ !isDigit (name.getD 4 0) then none
  else
    let digits := (name.drop 4).takeWhile isDigit
    if ((name.drop 4).drop digits.length).headD 0 ≠ 0 then none
    else some (UInt32.ofNat (strtol digits) + 1)

/-- `open_utun` has failed: its descriptor is closed. -/
def failUtun (fd : Fd) (error : DeviceError) : System (Except DeviceError (Fd × Text)) := do
  release fd
  pure (.error error)

/-- `com.apple.net.utun_control`. -/
def utunControl : Text :=
  [99, 111, 109, 46, 97, 112, 112, 108, 101, 46, 110, 101, 116, 46, 117, 116, 117, 110, 95, 99,
    111, 110, 116, 114, 111, 108]

/-- The end of `open_utun`: a descriptor that does not block and is not inherited. -/
def unblock (fd : Fd) (ifname : Text) : System (Except DeviceError (Fd × Text)) := do
  let flags ← ask [fd] (.fcntl fd .getFl)
  if flags.failed then failUtun fd flags.error
  else do
    let set ← ask [fd] (.fcntl fd (.setFl (flags.result.toNat ||| 4)))
    if set.failed then failUtun fd set.error
    else do
      let cloexec ← ask [fd] (.fcntl fd .setFdCloexec)
      if cloexec.failed then failUtun fd cloexec.error else pure (.ok (fd, cStr ifname))

def openUtun (name : Text) : System (Except DeviceError (Fd × Text)) :=
  match scUnit name with
  | none => pure (.error .invalidArgument)
  | some unit => do
      match ← acquire (.socket .systemControl) with
      | .error answer => pure (.error answer.error)
      | .ok fd => do
          let info ← ask [fd] (.ctlInfo fd utunControl)
          if info.failed then failUtun fd info.error
          else do
            let connected ← ask [fd] (.connect fd info.word unit)
            if connected.failed then failUtun fd connected.error
            else do
              let ifname ← ask [fd] (.getsockopt fd)
              if ifname.failed then failUtun fd ifname.error else unblock fd ifname.bytes

def setIoctlAddr (s : Fd) (ifname : Text) (request : IoctlRequest) (addr : Text) :
    System (Except DeviceError Unit) := do
  let sin ← ask [] (.inetPton false (cStr addr))
  if sin.result ≠ 1 then pure (.error .invalidArgument)
  else do
    let answer ← ioctl s request { Ifreq.named ifname with addr := sin.bytes }
    if answer.failed then pure (.error answer.error) else pure (.ok ())

/-- The MTU that the interface has afterwards, where it can be read back. -/
def setIoctlMtu (s : Fd) (ifname : Text) (mtu : Nat) : System (Except DeviceError Nat) := do
  let set ← ioctl s .siocSifMtu ((Ifreq.named ifname).setWord (max mtu 576))
  if set.failed then pure (.error set.error)
  else do
    let got ← ioctl s .siocGifMtu (.named ifname)
    if got.result = 0 then pure (.ok got.ifr.mtu) else pure (.ok mtu)

def setIfUp (s : Fd) (ifname : Text) : System (Except DeviceError Unit) := do
  let got ← ioctl s .siocGifFlags (.named ifname)
  if got.failed then pure (.error got.error)
  else do
    let up ← ioctl s .siocSifFlags (got.ifr.setFlags (got.ifr.flags ||| iffUp))
    if up.failed then pure (.error up.error) else pure (.ok ())

def prefixMask (prefixLen : UInt8) : List UInt8 :=
  (List.range prefixLen.toNat).foldl
    (fun mask i => mask.modify (i / 8) (· ||| (0x80 >>> UInt8.ofNat (i % 8))))
    (List.replicate 16 0)

/-- `add_ipv6_address` of macOS. -/
def aliasIpv6 (ifname addr : Text) (prefixLen : UInt8) : System (Except DeviceError Unit) :=
  if 128 < prefixLen then pure (.error .invalidArgument)
  else do
    let a6 ← ask [] (.inetPton true (cStr addr))
    if a6.result ≠ 1 then pure (.error .invalidArgument)
    else do
      match ← acquire (.socket .inet6Datagram) with
      | .error answer => pure (.error answer.error)
      | .ok s6 => do
          let answer ← ask [s6] (.aliasIn6 s6 ((cStr ifname).take 15) a6.bytes (prefixMask prefixLen))
          release s6
          if answer.failed ∧ answer.errno ≠ eexist then pure (.error answer.error)
          else pure (.ok ())

/-- The addresses of a point-to-point interface, where the configuration has one. -/
def configureUtun (s : Fd) (cfg : DeviceConfig) (ifname : Text) :
    System (Except DeviceError Unit) :=
  if cfg.ipv4 = [] then pure (.ok ())
  else do
    match ← setIoctlAddr s ifname .siocSifAddr cfg.ipv4 with
    | .error error => pure (.error error)
    | .ok () => do
        match ← setIoctlAddr s ifname .siocSifDstaddr cfg.ipv4 with
        | .error error => pure (.error error)
        | .ok () =>
            -- 255.255.255.0 where the configuration has no mask
            setIoctlAddr s ifname .siocSifNetmask
              (if cfg.netmask = [] then [50, 53, 53, 46, 50, 53, 53, 46, 50, 53, 53, 46, 48]
                else cfg.netmask)

def configureUtunIpv6 (cfg : DeviceConfig) (ifname : Text) : System (Except DeviceError Unit) :=
  if cfg.ipv6 = [] then pure (.ok ()) else aliasIpv6 ifname cfg.ipv6 cfg.ipv6PrefixLen

/-- An interface without addresses is left to others (`need_config`). -/
def bringUpUtun (s : Fd) (cfg : DeviceConfig) (ifname : Text) : System (Except DeviceError Unit) :=
  if cfg.ipv4 = [] ∧ cfg.ipv6 = [] then pure (.ok ()) else setIfUp s ifname

/-- `open` on macOS. -/
def openApple (device : PosixTunDeviceImpl) (cfg : DeviceConfig) : System Opened := do
  let device ← device.close
  match ← openUtun cfg.name with
  | .error error => pure (device, .error error)
  | .ok (fd, ifname) => do
      match ← acquire (.socket .inetDatagram) with
      | .error answer => do
          release fd
          pure (device, .error answer.error)
      | .ok s => do
          match ← setIoctlMtu s ifname cfg.mtu with
          | .error error => device.giveUp s [fd] error
          | .ok mtu => do
              match ← configureUtun s cfg ifname with
              | .error error => device.giveUp s [fd] error
              | .ok () => do
                  match ← configureUtunIpv6 cfg ifname with
                  | .error error => device.giveUp s [fd] error
                  | .ok () => do
                      match ← bringUpUtun s cfg ifname with
                      | .error error => device.giveUp s [fd] error
                      | .ok () => do
                          release s
                          device.adoptFds [fd] mtu true

end PosixTunDeviceImpl

/-- What the library was built for. -/
inductive Platform
  | linux
  | apple
  | other
  deriving DecidableEq, Repr

namespace PosixTunDeviceImpl

/-- `open`, as it was built. -/
def openOn (platform : Platform) (device : PosixTunDeviceImpl) (cfg : DeviceConfig) :
    System Opened :=
  match platform with
  | .linux => device.openLinux cfg
  | .apple => device.openApple cfg
  | .other => pure (device, .error .notSupported)

def applyDefaultTxQueueLen (platform : Platform) (handle : Fd) : System Unit :=
  match platform with
  | .linux => do
      let got ← ioctl handle .tunGetIff {}
      if got.failed then pure ()
      else do
        match ← acquire (.socket .inetDatagram) with
        | .error _ => pure ()
        | .ok s => do
            setTxQueueLen s got.ifr.name 4096
            release s
  | _ => pure ()

/-- Each descriptor is given back to its owner, as it is. -/
def disownAll : List Fd → System Unit
  | [] => pure ()
  | fd :: rest => do
      let _ ← ask [fd] (.disown fd)
      disownAll rest

/-- The loop of `assign_queues`; the descriptors that it does not keep stay open. -/
def assignLoop (platform : Platform) (newDescs : List Fd) :
    List Fd → System (Except DeviceError (List Fd))
  | [] => pure (.ok newDescs)
  | handle :: rest => do
      applyDefaultTxQueueLen platform handle
      let answer ← ask [handle] (.assign handle)
      if answer.failed then do
        disownAll newDescs
        pure (.error answer.error)
      else assignLoop platform (newDescs ++ [handle]) rest

def assignQueues (platform : Platform) (device : PosixTunDeviceImpl) (handles : List Fd)
    (mtu : Nat) (utunPrefix : Bool) : System Opened :=
  if handles = [] then pure (device, .error .invalidArgument)
  else if maxMultiQueues < handles.length then pure (device, .error .invalidArgument)
  else do
    match ← assignLoop platform [] handles with
    | .error error => pure (device, .error error)
    | .ok newDescs => device.take newDescs mtu utunPrefix

end PosixTunDeviceImpl

end Tunio
