import Mathlib.Logic.Function.Basic
import Tunio.Run
import Tunio.Udp

/-!
The TCP engine with all its flows.  A flow pointer is an index into `records`; a null pointer
behaves like a closed flow.  The application reaches the flows it was handed.
-/

namespace Tunio

/-- What an application calls on a socket. -/
inductive SocketCall
  | read (buffers : List Nat) (handler : HandlerId)
  | write (buffers : List (List UInt8)) (handler : HandlerId)
  | shutdownSend
  | shutdownReceive
  | close
  | reset
  | accept
  | reject

def SocketCall.event : SocketCall → Event
  | .read buffers handler => .read buffers handler
  | .write buffers handler => .write buffers handler
  | .shutdownSend => .shutdownSend
  | .shutdownReceive => .shutdownReceive
  | .close => .close
  | .reset => .reset
  | .accept => .accept
  | .reject => .reject

/-- What is queued on the strand on behalf of a flow. -/
inductive FlowTask
  | timer (index : Nat)
  | resume (index : Nat)
  | device (index : Nat) (failed : Bool)
  | ackTimerExpires
  | ackTimerRuns

def FlowTask.event : FlowTask → Event
  | .timer index => .timer index
  | .resume index => .resume index
  | .device index failed => .device index failed
  | .ackTimerExpires => .ackTimerExpires
  | .ackTimerRuns => .ackTimerRuns

def nullFlow : FlowRecord :=
  { flow := { id := 0, key := ⟨Vector.replicate 16 0, Vector.replicate 16 0, 0, 0, 0, 0⟩ } }

structure World where
  eng : TcpEngine := {}
  records : FlowId → FlowRecord := fun _ => nullFlow
  created : Nat := 0

namespace World

def conn (w : World) (id : FlowId) : Conn := { w.records id with eng := w.eng }

def set (w : World) (id : FlowId) (c : Conn) : World :=
  { w with eng := c.eng, records := Function.update w.records id c.toFlowRecord }

def on (w : World) (id : FlowId) (operation : Conn → Conn) : World :=
  w.set id (operation (w.conn id))

def drop (w : World) : World := { w with eng.stats.rxDropped := w.eng.stats.rxDropped + 1 }

def postAccept (w : World) (handler : HandlerId) (ec : ErrorCode) (flow : Option FlowId) : World :=
  { w with eng.accepts := w.eng.accepts ++ [{ handler := handler, ec := ec, flow := flow }] }

def makeFiveTuple (ip : IpPacketInfo) (th : TcpHeader) : FiveTuple := {
  srcIp := addressOf ip.family ip.srcIp
  dstIp := addressOf ip.family ip.dstIp
  srcPort := th.srcPort
  dstPort := th.dstPort
  protocol := 6
  family := ip.family
}

def findFlow (w : World) (key : FiveTuple) : Option FlowId :=
  (w.eng.flows.find? fun entry => entry.1 = key).map Prod.snd

def enterFlow (w : World) (key : FiveTuple) (th : TcpHeader) (payload data : List UInt8)
    (iss : UInt32) : World :=
  { w.set w.created (Tunio.openFlow w.eng w.created key th payload data iss) with
    created := w.created + 1 }

/-- The part of `on_packet` for a SYN of an unknown flow. -/
def openFlow (w : World) (key : FiveTuple) (th : TcpHeader) (payload data : List UInt8)
    (iss : UInt32) : World :=
  if w.eng.flows.length ≥ w.eng.cfg.maxTcpFlows then w.drop
  else w.enterFlow key th payload data iss

/-- `on_packet` behind the tests of the header. -/
def receiveSegment (w : World) (key : FiveTuple) (th : TcpHeader) (payload data : List UInt8)
    (iss : UInt32) : World :=
  match w.findFlow key with
  | some id =>
      if (w.records id).flow.state = .timeWait ∧ isSyn th then
        (w.on id fun c => closeFlow c .success).openFlow key th payload data iss
      else w.on id fun c => handleSegment c th data
  | none => if isSyn th then w.openFlow key th payload data iss else w

/-- `th` is parsed from `payload`; `verified` is the outcome of the checksum test. -/
def onPacket (w : World) (ip : IpPacketInfo) (th : TcpHeader) (verified : Bool)
    (payload : List UInt8) (iss : UInt32) : World :=
  let hlen := th.headerLen
  if payload.length < 20 ∨ ¬verified then w.drop
  else if hlen < 20 ∨ hlen > payload.length then w.drop
  else w.receiveSegment (makeFiveTuple ip th) th payload (payload.drop hlen) iss

/-- The loop of `async_accept` over the waiting flows. -/
def acceptFrom : List FlowId → World → HandlerId → World
  | [], w, handler =>
      { w with eng.pendingFlows := [], eng.pendingAccepts := w.eng.pendingAccepts ++ [handler] }
  | id :: rest, w, handler =>
      let w := { w with eng.pendingFlows := rest }
      let w := w.on id fun c => { c with flow.pendingAccept := false }
      if (w.records id).flow.state = .closed then acceptFrom rest w handler
      else
        (w.on id fun c => { c with flow.accepted := true }).postAccept handler .success (some id)

def asyncAccept (w : World) (handler : HandlerId) : World :=
  acceptFrom w.eng.pendingFlows w handler

def cancelAccepts (w : World) : World :=
  { w with
    eng.accepts := w.eng.accepts ++ w.eng.pendingAccepts.map fun handler =>
      ({ handler := handler, ec := .operationAborted, flow := none } : AcceptCompletion)
    eng.pendingAccepts := [] }

/-- Every flow of the table, one after the other. -/
def forFlows (w : World) (operation : Conn → Conn) : World :=
  (w.eng.flows.map Prod.snd).foldl (fun w id => w.on id operation) w

def onSweep (w : World) : World := w.forFlows sweepFlow

def closeAll (w : World) : World :=
  let w := w.forFlows fun c => closeFlow c .operationAborted
  cancelAccepts { w with eng.pendingFlows := [] }

end World

/-! Runs.  `elsewhere` is whatever the UDP engine does to the budget. -/

/-- What follows an IP header; its length is a 16-bit number. -/
structure IpPayload where
  bytes : List UInt8
  small : bytes.length ≤ 65535

inductive WorldEvent
  | packet (ip : IpPacketInfo) (th : TcpHeader) (verified : Bool) (payload : IpPayload)
      (iss : UInt32)
  | asyncAccept (handler : HandlerId)
  | cancelAccepts
  | closeAll
  | sweep
  | call (id : FlowId) (call : SocketCall)
  | task (id : FlowId) (task : FlowTask)
  | tick (millis : Nat)
  | elsewhere (account : BufferAccountant)

/-- The handler of an `async_accept`. -/
def WorldEvent.registers : WorldEvent → Option HandlerId
  | .asyncAccept handler => some handler
  | _ => none

namespace World

def step (w : World) : WorldEvent → World
  | .packet ip th verified payload iss => w.onPacket ip th verified payload.bytes iss
  | .asyncAccept handler => w.asyncAccept handler
  | .cancelAccepts => w.cancelAccepts
  | .closeAll => w.closeAll
  | .sweep => w.onSweep
  | .call id call =>
      if (w.records id).flow.accepted then w.on id fun c => Tunio.step c call.event else w
  | .task id task => w.on id fun c => Tunio.step c task.event
  | .tick millis => { w with eng.now := w.eng.now + millis }
  | .elsewhere account => { w with eng.account := account }

def run (w : World) (events : List WorldEvent) : World := events.foldl step w

/-- An engine nothing has happened to. -/
def fresh (cfg : TunConfig) (account : BufferAccountant) (now : Int) : World :=
  { eng := { cfg := cfg, account := account, now := now } }

end World

end Tunio
