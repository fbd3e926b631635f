import Tunio.Spilling

/-!
The budget that all flows share.  The bytes that the flows have cached out of order can use it
up, and then the segments that are missing are refused.
-/

namespace Tunio

open Directory

theorem rested_persists :
    World.Persists (fun _ _ => True) fun c => c.flow.state ≠ .closed → c.inbox.Rested where
  own c event _ _ _ rested := step_rested c event rested
  aside _ _ _ _ rested := rested
  opened eng id key th payload data iss _ := openFlow_rested eng id key th payload data iss

/-- What the flows of the table have cached together. -/
def World.cached (w : World) : Nat := total (fun id => (w.records id).flow.oooBytes) w.eng.flows

namespace Engines

/-- Nothing waits for an application, and there is room for a segment as such. -/
structure Unread (cfg : TunConfig) (family : UInt8) (e : Engines) : Prop where
  queue : mss cfg family ≤ cfg.maxRxQueuePerFlow
  budget : mss cfg family ≤ cfg.maxTotalBuffer
  flows : ∀ entry ∈ e.tcp.eng.flows, (e.tcp.records entry.2).flow.rxBytes = 0
  sessions : ∀ entry ∈ e.udp.sessions, (e.udp.objects entry.2).rxBytes = 0

/-- The next full segment for a flow arrives. -/
structure Arrives (cfg : TunConfig) (e : Engines) (event : EngineEvent) (id : FlowId)
    (th : TcpHeader) (data : List UInt8) : Prop where
  there : e.arrival event = some (id, th, data)
  established : (e.tcp.records id).flow.state = .established
  next : th.seq = (e.tcp.records id).flow.rcvNxt
  full : data.length = mss cfg (e.tcp.records id).flow.key.family
  takes : (e.tcp.conn id).takes th = true

/-- `deliver_data` takes the segment in: the stream goes on behind it. -/
def Accepts (e : Engines) (event : EngineEvent) (th : TcpHeader) (data : List UInt8) : Prop :=
  ∃ c, e.beforeFlush event = some c ∧ c.flow.rcvNxt = th.seq + UInt32.ofNat data.length

/-- The flows hold what they have cached, and the sessions nothing. -/
theorem Unread.used {cfg : TunConfig} {family : UInt8} {size : Nat} {e : Engines}
    (unread : Unread cfg family e) (joint : Joint size e) :
    e.tcp.eng.account.used = e.tcp.cached := by
  have flows : e.tcp.held = e.tcp.cached := by
    refine total_map fun entry member => ?_
    rw [TcpFlow.held, unread.flows entry member, Nat.zero_add]
  have sessions : e.udp.held = 0 := by
    have none : e.udp.held = total (fun _ => 0) e.udp.sessions := total_map unread.sessions
    rw [none]
    generalize e.udp.sessions = table
    induction table with
    | nil => rfl
    | cons entry rest ih => exact (Nat.zero_add _).trans ih
  rw [joint.flows.used, flows, sessions, Nat.add_zero]

/-- Segments of two bytes, and a budget for two of them. -/
def twoSegments : TunConfig := { mtu := 42, maxTotalBuffer := 4 }

/-- Two flows open, and for each one the segment behind a missing one comes. -/
def starveEvents : List EngineEvent :=
  opening 1 0 0 ++ opening 3 1 1 ++
    [peerPacket 1 10 1001 tcpAck [3, 4], peerPacket 3 10 1001 tcpAck [3, 4]]

def starved (events : List EngineEvent) : Engines := (fresh twoSegments 0).run events

def missing : TcpHeader :=
  { srcPort := 1, dstPort := 2, seq := 8, ack := 1001, dataOffset := 0x50, flags := tcpAck
    window := 1000 }

end Engines

end Tunio
