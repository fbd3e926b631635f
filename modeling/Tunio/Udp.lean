import Tunio.Receive

/-!
The UDP engine (`udp_engine.hpp`, `udp_engine.cpp`).  A session pointer is an index into
`objects`; a null pointer behaves like a closed session.  Nodes of the list of waiting
sessions have numbers of their own, which stand for iterators.  Times are in milliseconds.
-/

namespace Tunio

abbrev SessionId := Nat
abbrev NodeId := Nat

structure UdpSessionKey where
  srcIp : Vector UInt8 16 := Vector.replicate 16 0
  srcPort : UInt16 := 0
  family : UInt8 := 0
  deriving DecidableEq, Repr

/-- The bytes of an IPv4 address come first. -/
structure Endpoint where
  isV6 : Bool
  address : Vector UInt8 16
  port : UInt16
  deriving DecidableEq, Repr

structure IpPacketInfo where
  family : UInt8
  srcIp : Vector UInt8 16
  dstIp : Vector UInt8 16
  deriving DecidableEq, Repr

/-- Only the bytes of the address family are copied. -/
def addressOf (family : UInt8) (bytes : Vector UInt8 16) : Vector UInt8 16 :=
  Vector.ofFn fun i => if family = 6 ∨ i.val < 4 then bytes[i] else 0

structure UdpHeader where
  srcPort : UInt16
  dstPort : UInt16
  length : UInt16
  checksum : UInt16
  deriving DecidableEq, Repr

structure Datagram where
  data : List UInt8
  sender : Endpoint
  deriving DecidableEq, Repr

structure ReceiveOp where
  buffers : List Nat
  total : Nat
  handler : HandlerId
  deriving DecidableEq, Repr

structure UdpSession where
  key : UdpSessionKey := {}
  closed : Bool := true
  pendingAccept : Bool := false
  pendingIt : NodeId := 0
  timeout : Int := 30
  expiry : Int := 0
  expiryGen : Nat := 0
  lastHeapPush : Int := 0
  heapLive : Bool := false
  rxDatagrams : List Datagram := []
  rxBytes : Nat := 0
  pendingReads : List ReceiveOp := []
  deriving DecidableEq, Repr

structure ExpiryEntry where
  deadline : Int
  gen : Nat
  session : SessionId
  deriving DecidableEq, Repr

structure SessionAccept where
  handler : HandlerId
  ec : ErrorCode
  session : Option SessionId
  deriving DecidableEq, Repr

structure ReceiveCompletion where
  handler : HandlerId
  ec : ErrorCode
  n : Nat
  data : List (List UInt8)
  sender : Option Endpoint
  deriving DecidableEq, Repr

/-- A datagram handed to the device writer, whose completion posts `handler`. -/
structure SentDatagram where
  session : SessionId
  remote : Endpoint
  payload : List UInt8
  fragmented : Bool
  handler : HandlerId
  deriving DecidableEq, Repr

structure UdpEngine where
  cfg : TunConfig := {}
  account : BufferAccountant := {}
  stats : EngineStats := {}
  objects : SessionId → UdpSession := fun _ => {}
  created : Nat := 0
  sessions : List (UdpSessionKey × SessionId) := []
  pendingAccepts : List HandlerId := []
  pendingNewSessions : List (NodeId × SessionId) := []
  nextNode : NodeId := 0
  expiryHeap : List ExpiryEntry := []
  timerWaiting : Bool := false
  armedTarget : Int := 0
  waitGen : Nat := 0
  accepts : List SessionAccept := []
  receives : List ReceiveCompletion := []
  sendFailures : List WriteCompletion := []
  sent : List SentDatagram := []
  now : Int := 0

def maxPendingNewSessions : Nat := 1024
def kExpiryPushInterval : Int := 500
def udpHeaderSize : Nat := 8

namespace UdpEngine

def put (e : UdpEngine) (id : SessionId) (session : UdpSession) : UdpEngine :=
  { e with objects := Function.update e.objects id session }

def drop (e : UdpEngine) : UdpEngine :=
  { e with stats.rxDropped := e.stats.rxDropped + 1 }

def postReceive (e : UdpEngine) (handler : HandlerId) (ec : ErrorCode) (n : Nat)
    (data : List (List UInt8)) (sender : Option Endpoint) : UdpEngine :=
  { e with receives := e.receives ++
      [{ handler := handler, ec := ec, n := n, data := data, sender := sender }] }

def postAccept (e : UdpEngine) (handler : HandlerId) (ec : ErrorCode)
    (session : Option SessionId) : UdpEngine :=
  { e with accepts := e.accepts ++ [{ handler := handler, ec := ec, session := session }] }

/-! Expiry of idle sessions.  The heap is a list with the earliest deadline in front. -/

def pushHeap (entry : ExpiryEntry) : List ExpiryEntry → List ExpiryEntry
  | [] => [entry]
  | top :: rest =>
      if entry.deadline < top.deadline then entry :: top :: rest else top :: pushHeap entry rest

def stale (e : UdpEngine) (entry : ExpiryEntry) : Bool :=
  (e.objects entry.session).closed || (e.objects entry.session).expiryGen != entry.gen

def armExpiryTimer (e : UdpEngine) : UdpEngine :=
  let e := { e with expiryHeap := e.expiryHeap.dropWhile e.stale }
  match e.expiryHeap with
  | [] => e
  | top :: _ =>
      if e.timerWaiting ∧ top.deadline ≥ e.armedTarget then e
      else
        { e with
          waitGen := e.waitGen + 1
          armedTarget := top.deadline
          timerWaiting := true }

def refreshExpiry (e : UdpEngine) (id : SessionId) : UdpEngine :=
  let session := e.objects id
  if session.closed then e
  else
    let session := { session with expiry := e.now + session.timeout * 1000 }
    if session.heapLive ∧ e.now - session.lastHeapPush < kExpiryPushInterval then e.put id session
    else
      let session := { session with
        expiryGen := session.expiryGen + 1
        heapLive := true
        lastHeapPush := e.now }
      let entry : ExpiryEntry :=
        { deadline := session.expiry, gen := session.expiryGen, session := id }
      armExpiryTimer { e.put id session with expiryHeap := pushHeap entry e.expiryHeap }

/-- The session leaves the list of waiting sessions through its own node. -/
def withdraw (e : UdpEngine) (session : UdpSession) : List (NodeId × SessionId) :=
  if session.pendingAccept then
    e.pendingNewSessions.filter fun node => node.1 ≠ session.pendingIt
  else e.pendingNewSessions

def removeSession (e : UdpEngine) (id : SessionId) : UdpEngine :=
  let session := e.objects id
  if session.closed then e
  else
    let e := { e with
      sessions := e.sessions.filter fun entry => entry.1 ≠ session.key
      stats.udpSessions := sizeSub e.stats.udpSessions 1
      pendingNewSessions := e.withdraw session
      account := if session.rxBytes > 0 then e.account.release session.rxBytes else e.account }
    let e := e.put id { session with
      closed := true
      pendingAccept := false
      rxBytes := 0
      rxDatagrams := []
      pendingReads := [] }
    session.pendingReads.foldl (fun e op => e.postReceive op.handler .operationAborted 0 [] none) e

/-- The loop of `on_expiry_timer` over the heap, with the sessions that were extended. -/
def expireEntries : List ExpiryEntry → UdpEngine → List SessionId → UdpEngine × List SessionId
  | [], e, extended => (e, extended)
  | top :: rest, e, extended =>
      if top.deadline > e.now then (e, extended)
      else
        let session := e.objects top.session
        let popped (e : UdpEngine) : UdpEngine := { e with expiryHeap := rest }
        if e.stale top then expireEntries rest (popped e) extended
        else if session.expiry ≤ e.now then
          expireEntries rest (popped (e.removeSession top.session)) extended
        else
          expireEntries rest (popped (e.put top.session { session with heapLive := false }))
            (extended ++ [top.session])

def onExpiryTimer (e : UdpEngine) (failed : Bool) : UdpEngine :=
  let e := { e with timerWaiting := false }
  if failed then armExpiryTimer e
  else
    let result := expireEntries e.expiryHeap e []
    armExpiryTimer (result.2.foldl refreshExpiry result.1)

/-! Receiving. -/

def deliverDatagram (e : UdpEngine) (id : SessionId) (data : List UInt8) (sender : Endpoint) :
    UdpEngine :=
  if (e.objects id).closed then e
  else
    let e := e.refreshExpiry id
    let session := e.objects id
    match session.pendingReads with
    | op :: rest =>
        let n := min data.length op.total
        let copied := copyOut op.buffers n data
        (e.put id { session with pendingReads := rest }).postReceive op.handler .success
          copied.flatten.length copied (some sender)
    | [] =>
        if session.rxBytes + data.length > e.cfg.maxRxQueuePerFlow then e.drop
        else
          match e.account.reserve data.length with
          | none => e.drop
          | some account =>
              let session := { session with
                rxDatagrams := session.rxDatagrams ++ [{ data := data, sender := sender }]
                rxBytes := session.rxBytes + data.length }
              { e with account := account }.put id session

def newSession (e : UdpEngine) (key : UdpSessionKey) : UdpSession := {
  key := key
  closed := false
  timeout := e.cfg.udpIdleTimeout
  expiry := e.now + e.cfg.udpIdleTimeout * 1000
}

def enterSession (e : UdpEngine) (key : UdpSessionKey) : UdpEngine :=
  { e with
    created := e.created + 1
    sessions := (key, e.created) :: e.sessions
    stats.udpSessions := e.stats.udpSessions + 1 }.put e.created (e.newSession key)

/-- A waiting handler gets the session; without one it is queued. -/
def announceSession (e : UdpEngine) (id : SessionId) : UdpEngine :=
  match e.pendingAccepts with
  | handler :: rest => { e with pendingAccepts := rest }.postAccept handler .success (some id)
  | [] =>
      { e.put id { e.objects id with pendingAccept := true, pendingIt := e.nextNode } with
        pendingNewSessions := e.pendingNewSessions ++ [(e.nextNode, id)]
        nextNode := e.nextNode + 1 }

/-- The part of `on_packet` for a key without a session. -/
def openSession (e : UdpEngine) (key : UdpSessionKey) (data : List UInt8) (sender : Endpoint) :
    UdpEngine :=
  if e.sessions.length ≥ e.cfg.maxUdpFlows then e.drop
  else if e.pendingAccepts.isEmpty ∧ e.pendingNewSessions.length ≥ maxPendingNewSessions then e.drop
  else
    let id := e.created
    announceSession (((e.enterSession key).deliverDatagram id data sender).refreshExpiry id) id

def findSession (e : UdpEngine) (key : UdpSessionKey) : Option SessionId :=
  (e.sessions.find? fun entry => entry.1 = key).map Prod.snd

/-- `on_packet` for a datagram that passed the tests. -/
def receiveDatagram (e : UdpEngine) (key : UdpSessionKey) (data : List UInt8) (sender : Endpoint) :
    UdpEngine :=
  match e.findSession key with
  | some id =>
      if ¬(e.objects id).closed then e.deliverDatagram id data sender
      else
        { e with sessions := e.sessions.filter fun entry => entry.1 ≠ key }.openSession key data
          sender
  | none => e.openSession key data sender

/-- `body` follows the header; `verified` is the outcome of the checksum test. -/
def onPacket (e : UdpEngine) (ip : IpPacketInfo) (uh : UdpHeader) (verified : Bool)
    (body : List UInt8) : UdpEngine :=
  let udpLen := uh.length.toNat
  if udpLen < udpHeaderSize ∨ udpLen > udpHeaderSize + body.length then e.drop
  else if (ip.family = 6 ∧ uh.checksum = 0) ∨ (uh.checksum ≠ 0 ∧ ¬verified) then e.drop
  else
    let key : UdpSessionKey :=
      { srcIp := addressOf ip.family ip.srcIp, srcPort := uh.srcPort, family := ip.family }
    let sender : Endpoint := {
      isV6 := ip.family = 6
      address := addressOf ip.family ip.dstIp
      port := uh.dstPort
    }
    e.receiveDatagram key (body.take (udpLen - udpHeaderSize)) sender

/-! Accepting and closing. -/

def acceptFrom : List (NodeId × SessionId) → UdpEngine → HandlerId → UdpEngine
  | [], e, handler =>
      { e with pendingNewSessions := [], pendingAccepts := e.pendingAccepts ++ [handler] }
  | (_, id) :: rest, e, handler =>
      let e := { e.put id { e.objects id with pendingAccept := false } with
        pendingNewSessions := rest }
      if (e.objects id).closed then acceptFrom rest e handler
      else e.postAccept handler .success (some id)

def asyncAccept (e : UdpEngine) (handler : HandlerId) : UdpEngine :=
  acceptFrom e.pendingNewSessions e handler

def cancelAccepts (e : UdpEngine) : UdpEngine :=
  { e with
    accepts := e.accepts ++ e.pendingAccepts.map fun handler =>
      ({ handler := handler, ec := .operationAborted, session := none } : SessionAccept)
    pendingAccepts := [] }

def closeAll (e : UdpEngine) : UdpEngine :=
  let e := { e with timerWaiting := false }
  let e := (e.sessions.map Prod.snd).foldl removeSession e
  { cancelAccepts { e with pendingNewSessions := [] } with expiryHeap := [] }

/-! The operations of `tun_udp_socket`. -/

def setTimeout (e : UdpEngine) (id : SessionId) (timeout : Int) : UdpEngine :=
  if (e.objects id).closed then e
  else (e.put id { e.objects id with timeout := timeout }).refreshExpiry id

def startReceive (e : UdpEngine) (id : SessionId) (buffers : List Nat) (handler : HandlerId) :
    UdpEngine :=
  let session := e.objects id
  let total := buffers.sum
  if session.closed then e.postReceive handler .badDescriptor 0 [] none
  else
    match session.rxDatagrams with
    | datagram :: rest =>
        let size := datagram.data.length
        let copied := copyOut buffers (min size total) datagram.data
        ({ e with account := e.account.release size }.put id { session with
          rxDatagrams := rest
          rxBytes := sizeSub session.rxBytes size }).postReceive handler .success
            copied.flatten.length copied (some datagram.sender)
    | [] =>
        e.put id { session with
          pendingReads := session.pendingReads ++
            [{ buffers := buffers, total := total, handler := handler }] }

def isV4Mapped (address : Vector UInt8 16) : Bool :=
  (address.toList.take 10).all (· == 0) && address[10] == 0xff && address[11] == 0xff

/-- The address family a remote endpoint is reached by. -/
def Endpoint.family (remote : Endpoint) : UInt8 :=
  if remote.isV6 && !isV4Mapped remote.address then 6 else 4

def ipHeaderSize (family : UInt8) : Nat := if family = 6 then 40 else 20

def maxUdpPayload (e : UdpEngine) (family : UInt8) : Nat :=
  e.cfg.mtu - ipHeaderSize family - udpHeaderSize

def startSend (e : UdpEngine) (id : SessionId) (remote : Endpoint) (payload : List UInt8)
    (handler : HandlerId) : UdpEngine :=
  let session := e.objects id
  let fail (ec : ErrorCode) : UdpEngine :=
    { e with sendFailures := e.sendFailures ++ [{ handler := handler, ec := ec, n := 0 }] }
  if session.closed then fail .badDescriptor
  else if session.key.family ≠ Endpoint.family remote then fail .addressFamilyNotSupported
  else if udpHeaderSize + payload.length > 65535 then fail .messageSize
  else
    let oversized := decide (payload.length > e.maxUdpPayload session.key.family)
    if oversized ∧ session.key.family ≠ 4 then fail .messageSize
    else
      let e := e.refreshExpiry id
      { e with sent := e.sent ++ [{
          session := id
          remote := remote
          payload := payload
          fragmented := oversized
          handler := handler }] }

end UdpEngine

/-! Runs.  `elsewhere` is whatever the TCP engine does to the budget. -/

inductive UdpEvent
  | packet (ip : IpPacketInfo) (uh : UdpHeader) (verified : Bool) (body : List UInt8)
  | runt
  | asyncAccept (handler : HandlerId)
  | cancelAccepts
  | closeAll
  | receive (id : SessionId) (buffers : List Nat) (handler : HandlerId)
  | send (id : SessionId) (remote : Endpoint) (payload : List UInt8) (handler : HandlerId)
  | setTimeout (id : SessionId) (timeout : Int)
  | close (id : SessionId)
  | expiryTimer (gen : Nat) (failed : Bool)
  | tick (millis : Nat)
  | elsewhere (account : BufferAccountant)

/-- The handler of an `async_accept`. -/
def UdpEvent.registers : UdpEvent → Option HandlerId
  | .asyncAccept handler => some handler
  | _ => none

def UdpEngine.step (e : UdpEngine) : UdpEvent → UdpEngine
  | .packet ip uh verified body => e.onPacket ip uh verified body
  | .runt => e.drop
  | .asyncAccept handler => e.asyncAccept handler
  | .cancelAccepts => e.cancelAccepts
  | .closeAll => e.closeAll
  | .receive id buffers handler => e.startReceive id buffers handler
  | .send id remote payload handler => e.startSend id remote payload handler
  | .setTimeout id timeout => e.setTimeout id timeout
  | .close id => e.removeSession id
  | .expiryTimer gen failed => if gen = e.waitGen then e.onExpiryTimer failed else e
  | .tick millis => { e with now := e.now + millis }
  | .elsewhere account => { e with account := account }

def UdpEngine.run (e : UdpEngine) (events : List UdpEvent) : UdpEngine := events.foldl step e

end Tunio
