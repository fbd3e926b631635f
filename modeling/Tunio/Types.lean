import Mathlib.Algebra.Order.Ring.Nat
import Tunio.Serial

/-!
The plain data of the TCP engine: configuration, buffer accounting, the control
block of a flow and the packets that pass through it.  Names follow
`tun_config.hpp`, `ip_headers.hpp` and `detail/tcp_engine.hpp`.  A `size_t` is a
`Nat`; where the code subtracts without a guard the subtraction wraps.
-/

namespace Tunio

def sizeSub (left right : Nat) : Nat :=
  if right ≤ left then left - right else left + 2 ^ 64 - right

def seqGt (a b : UInt32) : Bool := decide (0 < (a - b).toInt32)

def seqGe (a b : UInt32) : Bool := a == b || seqGt a b

theorem seqGt_num (base : UInt32) (a b : Nat) (lower : b ≤ a + 2 ^ 31) (upper : a < b + 2 ^ 31) :
    seqGt (Serial.num base a) (Serial.num base b) = decide (b < a) := by
  rw [seqGt, decide_eq_decide, Serial.toInt32_pos, UInt32.toNat_sub, Serial.num_toNat,
    Serial.num_toNat]
  omega

theorem seqGe_num (base : UInt32) (a b : Nat) (lower : b ≤ a + 2 ^ 31) (upper : a < b + 2 ^ 31) :
    seqGe (Serial.num base a) (Serial.num base b) = decide (b ≤ a) := by
  rw [seqGe, seqGt_num base a b lower upper, Bool.eq_iff_iff]
  simp only [Bool.or_eq_true, beq_iff_eq, decide_eq_true_eq,
    Serial.num_eq_iff base a b (by omega) (by omega)]
  omega

def tcpFin : UInt8 := 0x01
def tcpSyn : UInt8 := 0x02
def tcpRst : UInt8 := 0x04
def tcpPsh : UInt8 := 0x08
def tcpAck : UInt8 := 0x10

def hasFlag (flags flag : UInt8) : Bool := flags &&& flag != 0

structure FiveTuple where
  srcIp : Vector UInt8 16
  dstIp : Vector UInt8 16
  srcPort : UInt16
  dstPort : UInt16
  protocol : UInt8
  family : UInt8
  deriving DecidableEq, Repr

structure TunConfig where
  mtu : Nat := 1500
  maxTcpFlows : Nat := 65536
  maxUdpFlows : Nat := 65536
  maxRxQueuePerFlow : Nat := 8 * 1024 * 1024
  tcpOooMaxSegments : Nat := 4096
  maxTotalBuffer : Nat := 512 * 1024 * 1024
  udpIdleTimeout : Int := 30
  tcpTimeWaitTimeout : Int := 10
  tcpAcceptTimeout : Int := 30
  tcpSynTimeout : Int := 30
  tcpCloseTimeout : Int := 30
  tcpPersistTimeout : Int := 5000
  tcpPersistMaxProbes : Int := 15
  tcpRtoTimeout : Int := 200
  tcpRtoMaxRetransmits : Int := 8
  deriving DecidableEq, Repr

structure EngineStats where
  rxDropped : Nat := 0
  rxOoo : Nat := 0
  tcpConnections : Nat := 0
  udpSessions : Nat := 0
  deriving DecidableEq, Repr

structure BufferAccountant where
  limit : Nat := 0
  used : Nat := 0
  deriving DecidableEq, Repr

/-- `none` when the budget refuses. -/
def BufferAccountant.reserve (account : BufferAccountant) (n : Nat) : Option BufferAccountant :=
  if n > account.limit ∨ account.used > account.limit - n then none
  else some { account with used := account.used + n }

def BufferAccountant.release (account : BufferAccountant) (n : Nat) : BufferAccountant :=
  { account with used := sizeSub account.used n }

inductive TcpState
  | closed
  | synRcvd
  | synAckSent
  | established
  | finWait1
  | finWait2
  | closeWait
  | lastAck
  | timeWait
  deriving DecidableEq, Repr

inductive ErrorCode
  | success
  | eof
  | operationAborted
  | badDescriptor
  | connectionReset
  | noBufferSpace
  | messageSize
  | addressFamilyNotSupported
  deriving DecidableEq, Repr

abbrev HandlerId := Nat
abbrev FlowId := Nat

structure TcpHeader where
  srcPort : UInt16
  dstPort : UInt16
  seq : UInt32
  ack : UInt32
  dataOffset : UInt8
  flags : UInt8
  window : UInt16
  checksum : UInt16 := 0
  urgent : UInt16 := 0
  deriving DecidableEq, Repr

def TcpHeader.headerLen (th : TcpHeader) : Nat := (th.dataOffset >>> 4).toNat * 4

/-- A segment handed to the device writer, without the fields every segment of
the flow shares (addresses, ports and the IP header). -/
structure Segment where
  seq : UInt32
  ack : UInt32
  dataOffset : UInt8
  flags : UInt8
  window : UInt16
  options : List UInt8
  payload : List UInt8
  deriving DecidableEq, Repr

/-- What a flow was like when a segment of it was built: its state and its `current_wnd`. -/
structure BuildPoint where
  state : TcpState
  wnd : UInt32
  deriving DecidableEq, Repr

structure OooSegment where
  data : List UInt8
  fin : Bool
  deriving DecidableEq, Repr

abbrev OooCache := Std.TreeMap UInt32 OooSegment

structure ReadOp where
  buffers : List Nat
  total : Nat
  handler : HandlerId
  deriving DecidableEq, Repr

structure WriteOp where
  buffers : List (List UInt8)
  total : Nat
  offset : Nat := 0
  bufIndex : Nat := 0
  bufOff : Nat := 0
  startSeq : UInt32 := 0
  implicitAccept : Bool
  handler : HandlerId
  deriving DecidableEq, Repr

/-- The delayed-ACK timer: when its wait ends, whether the wait is outstanding, and how
many expired waits have their handler queued behind other work. -/
structure AckTimer where
  expiry : Int
  waiting : Bool
  expired : Nat
  deriving DecidableEq, Repr

structure WriteChannel where
  isOpen : Bool
  deriving DecidableEq, Repr

def fixedRcvWnd : UInt32 := 1048576
def kRcvWndScale : UInt8 := 7

structure TcpFlow where
  id : FlowId
  key : FiveTuple
  sndNxt : UInt32 := 0
  sndUna : UInt32 := 0
  rcvNxt : UInt32 := 0
  iss : UInt32 := 0
  irs : UInt32 := 0
  state : TcpState := .closed
  peerWnd : UInt32 := 0
  sndWndScale : UInt8 := 0
  rcvWndScale : UInt8 := 0
  wscaleOk : Bool := false
  lastWndAdvertised : UInt32 := 0
  finSent : Bool := false
  finReceived : Bool := false
  finPending : Bool := false
  rst : Bool := false
  appClosed : Bool := false
  rxShutdown : Bool := false
  accepted : Bool := false
  pendingAccept : Bool := false
  probeInFlight : Bool := false
  createdAt : Int := 0
  destroyAt : Int := 0
  closeStartedAt : Int := 0
  ackPending : Bool := false
  ackTimer : Option AckTimer := none
  rxData : List UInt8 := []
  rxHead : Nat := 0
  rxBytes : Nat := 0
  oooCache : OooCache := ∅
  oooBytes : Nat := 0
  oooCount : Nat := 0
  activeRead : Option ReadOp := none
  activeWrite : Option WriteOp := none
  writeCh : Option WriteChannel := none

/-- A completion of a read, with the bytes stored in each buffer of the caller. -/
structure ReadCompletion where
  handler : HandlerId
  ec : ErrorCode
  n : Nat
  data : List (List UInt8)
  deriving DecidableEq, Repr

structure WriteCompletion where
  handler : HandlerId
  ec : ErrorCode
  n : Nat
  deriving DecidableEq, Repr

structure AcceptCompletion where
  handler : HandlerId
  ec : ErrorCode
  flow : Option FlowId
  deriving DecidableEq, Repr

/-- The suspension points of `write_loop`. -/
inductive Await
  | handshake
  | window
  | device
  | ack
  deriving DecidableEq, Repr

/-- Which operand of `write_ch || timer` completed first. -/
inductive Winner
  | signal
  | timer
  deriving DecidableEq, Repr

/-- The frame of a suspended send coroutine: its local variables, where it is
suspended and, once one operand of the wait has completed, which one. -/
structure WriteLoop where
  persistInterval : Int
  persistProbes : Int := 0
  rto : Int
  retransmits : Int := 0
  lastUna : UInt32
  writeEnd : UInt32 := 0
  await : Await := .ack
  winner : Option Winner := none
  deriving DecidableEq, Repr

/-- The members of the engine that the operations of a flow read or change. -/
structure TcpEngine where
  cfg : TunConfig := {}
  account : BufferAccountant := {}
  stats : EngineStats := {}
  flows : List (FiveTuple × FlowId) := []
  pendingAccepts : List HandlerId := []
  pendingFlows : List FlowId := []
  accepts : List AcceptCompletion := []
  now : Int := 0

/-- A flow with everything that was done on its behalf: the segments submitted
to the writer, the completions posted and the send coroutines still alive. -/
structure FlowRecord where
  flow : TcpFlow
  out : List Segment := []
  builds : List BuildPoint := []
  reads : List ReadCompletion := []
  writes : List WriteCompletion := []
  loops : List WriteLoop := []
  fault : Bool := false

/-- A flow together with the engine its operations run in. -/
structure Conn extends FlowRecord where
  eng : TcpEngine

end Tunio
