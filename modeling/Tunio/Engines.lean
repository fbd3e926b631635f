import Tunio.Ledger
import Tunio.Projection
import Tunio.SessionTable

/-!
The two engines and the budget they share.  Whatever the two do and in which order, the budget
is what the flows of the one and the sessions of the other hold.
-/

namespace Tunio

open Directory Machines

/-- The counter of a session is the size of the datagrams that wait there. -/
def UdpSession.Tallied (session : UdpSession) : Prop :=
  session.rxBytes = (session.rxDatagrams.map fun datagram => datagram.data.length).sum

namespace UdpEngine

/-- What the sessions of the table hold together. -/
def held (e : UdpEngine) : Nat := total (fun id => (e.objects id).rxBytes) e.sessions

/-- The budget is what the sessions hold and what others use. -/
structure Balanced (size rest : Nat) (e : UdpEngine) : Prop where
  limit : e.account.limit = size
  bounded : e.account.used ≤ size
  used : e.account.used = e.held + rest
  tallied : ∀ id, (e.objects id).Tallied

namespace Balanced

variable {size rest : Nat} {e : UdpEngine}

theorem still (balanced : Balanced size rest e) {after : UdpEngine} (same : after.core = e.core) :
    Balanced size rest after := by
  have account := congrArg UdpEngine.account same
  have account : after.account = e.account := account
  have sessions := congrArg UdpEngine.sessions same
  have sessions : after.sessions = e.sessions := sessions
  have rxBytes : ∀ id, (after.objects id).rxBytes = (e.objects id).rxBytes := by
    intro id
    have core := congrArg UdpSession.rxBytes (object_core same id)
    exact core
  refine ⟨?_, ?_, ?_, fun id => ?_⟩
  · rw [account]
    exact balanced.limit
  · rw [account]
    exact balanced.bounded
  · unfold held
    rw [account, sessions]
    refine balanced.used.trans (congrArg (· + rest) ?_)
    exact (total_map fun entry _ => rxBytes entry.2).symm
  · have core := congrArg UdpSession.rxDatagrams (object_core same id)
    have datagrams : (after.objects id).rxDatagrams = (e.objects id).rxDatagrams := core
    have tallied := balanced.tallied id
    unfold UdpSession.Tallied at tallied ⊢
    rw [rxBytes, datagrams]
    exact tallied

/-- New contents of a session that hold as much. -/
theorem revise (balanced : Balanced size rest e) (id : SessionId) (session : UdpSession)
    (rxBytes : session.rxBytes = (e.objects id).rxBytes)
    (rxDatagrams : session.rxDatagrams = (e.objects id).rxDatagrams) :
    Balanced size rest (e.put id session) := by
  have same := e.put_field id session UdpSession.rxBytes rxBytes
  refine ⟨balanced.limit, balanced.bounded, ?_,
    put_all UdpSession.Tallied balanced.tallied id session ?_⟩
  · exact balanced.used.trans (congrArg (· + rest) (total_map fun entry _ => same entry.2).symm)
  · have tallied := balanced.tallied id
    unfold UdpSession.Tallied at tallied ⊢
    rw [rxBytes, rxDatagrams]
    exact tallied

/-- New contents of an open session, with as much more or less in the budget. -/
theorem settle (balanced : Balanced size rest e) (tabled : Tabled e) (id : SessionId)
    (session : UdpSession) (account : BufferAccountant) (isOpen : (e.objects id).closed = false)
    (tallied : session.Tallied) (limit : account.limit = size)
    (bounded : account.used ≤ size)
    (used : account.used + (e.objects id).rxBytes = e.account.used + session.rxBytes) :
    Balanced size rest ({ e with account := account }.put id session) := by
  have others : ∀ other ≠ id, ((e.put id session).objects other).rxBytes =
      (e.objects other).rxBytes := fun other elsewhere => by rw [e.put_other id session elsewhere]
  have change := tabled.indexed.total_change isOpen others
  have self : ((e.put id session).objects id).rxBytes = session.rxBytes := by rw [put_self]
  have before := balanced.used
  rw [self] at change
  refine ⟨limit, bounded, ?_, put_all UdpSession.Tallied balanced.tallied id session tallied⟩
  show account.used = total (fun other => ((e.put id session).objects other).rxBytes) e.sessions + rest
  unfold held at before
  omega

theorem buffer (balanced : Balanced size rest e) (tabled : Tabled e) (id : SessionId)
    (account : BufferAccountant) (datagram : Datagram) (isOpen : (e.objects id).closed = false)
    (made : e.account.reserve datagram.data.length = some account) :
    Balanced size rest (e.apply (.buffer id account datagram)) := by
  obtain ⟨placed, room⟩ := BufferAccountant.reserve_some made
  have limit := balanced.limit
  have tallied := balanced.tallied id
  refine balanced.settle tabled id _ account isOpen ?_ ?_ ?_ ?_
  · unfold UdpSession.Tallied at tallied ⊢
    simp [tallied]
  · rw [placed, ← limit]
  · rw [placed, ← limit]
    exact room
  · rw [placed]
    dsimp only
    omega

theorem take (balanced : Balanced size rest e) (tabled : Tabled e) (id : SessionId)
    (datagram : Datagram) (left : List Datagram) (isOpen : (e.objects id).closed = false)
    (queue : (e.objects id).rxDatagrams = datagram :: left) :
    Balanced size rest (e.apply (.take id datagram left)) := by
  have bounded := balanced.bounded
  have used := balanced.used
  have whole := tabled.indexed.total_remove isOpen fun id => (e.objects id).rxBytes
  have tallied := balanced.tallied id
  unfold UdpSession.Tallied at tallied
  rw [queue, List.map_cons, List.sum_cons] at tallied
  unfold held at used
  have fits : datagram.data.length ≤ e.account.used := by omega
  have rxBytes : sizeSub (e.objects id).rxBytes datagram.data.length =
      (e.objects id).rxBytes - datagram.data.length := by
    unfold sizeSub
    rw [if_pos (by omega)]
  refine balanced.settle tabled id _ _ isOpen ?_ ?_ ?_ ?_
  · unfold UdpSession.Tallied
    dsimp only
    rw [rxBytes]
    omega
  · exact balanced.limit
  · rw [BufferAccountant.release_eq fits]
    dsimp only
    omega
  · rw [BufferAccountant.release_eq fits]
    dsimp only
    rw [rxBytes]
    omega

theorem remove (balanced : Balanced size rest e) (tabled : Tabled e) (id : SessionId)
    (isOpen : (e.objects id).closed = false) : Balanced size rest (e.removeSession id) := by
  have bounded := balanced.bounded
  have used := balanced.used
  have whole := tabled.indexed.total_remove isOpen fun id => (e.objects id).rxBytes
  have others : ∀ other ≠ id, ((e.put id (e.objects id).shut).objects other).rxBytes =
      (e.objects other).rxBytes := fun other elsewhere => by rw [e.put_other id _ elsewhere]
  have elsewhere := tabled.indexed.total_elsewhere others
  unfold held at used
  have account : (if (e.objects id).rxBytes > 0 then e.account.release (e.objects id).rxBytes
      else e.account) = { e.account with used := e.account.used - (e.objects id).rxBytes } := by
    split
    · exact BufferAccountant.release_eq (by omega)
    · rw [show e.account.used - (e.objects id).rxBytes = e.account.used by omega]
  rw [removeSession_open e id isOpen, account]
  refine ⟨balanced.limit, ?_, ?_, put_all UdpSession.Tallied balanced.tallied id _ rfl⟩
  · dsimp only
    omega
  · show e.account.used - (e.objects id).rxBytes = total _ _ + rest
    rw [elsewhere]
    omega

theorem enter (balanced : Balanced size rest e) (tabled : Tabled e) (key : UdpSessionKey) :
    Balanced size rest (e.enterSession key) := by
  let session := e.newSession key
  have others : ∀ other, (e.objects other).closed = false →
      ((e.put e.created session).objects other).rxBytes = (e.objects other).rxBytes := by
    intro other otherOpen
    rw [e.put_other e.created session (Nat.ne_of_lt (tabled.created other otherOpen))]
  have self : ((e.put e.created session).objects e.created).rxBytes = 0 := by
    rw [put_self]
    rfl
  refine ⟨balanced.limit, balanced.bounded, ?_,
    put_all UdpSession.Tallied balanced.tallied e.created session rfl⟩
  show e.account.used = total _ ((key, e.created) :: e.sessions) + rest
  have same := tabled.indexed.total_congr others
  have used := balanced.used
  unfold held at used
  rw [total_cons]
  change e.account.used = ((e.put e.created session).objects e.created).rxBytes +
    total (fun id => ((e.put e.created session).objects id).rxBytes) e.sessions + rest
  omega

/-- The balance survives every effect of the engine itself. -/
theorem apply (balanced : Balanced size rest e) (tabled : Tabled e) (effect : Effect)
    (permits : e.Permits effect) (own : ∀ account, effect ≠ .share account) :
    Balanced size rest (e.apply effect) := by
  cases effect with
  | still after => exact balanced.still permits
  | reads id ops => exact balanced.revise id _ rfl rfl
  | buffer id account datagram => exact balanced.buffer tabled id account datagram permits.1 permits.2
  | take id datagram left => exact balanced.take tabled id datagram left permits.1 permits.2
  | remove id => exact balanced.remove tabled id permits
  | enter key => exact balanced.enter tabled key
  | hand handler waiting id =>
      exact ⟨balanced.limit, balanced.bounded, balanced.used, balanced.tallied⟩
  | enqueue id =>
      have revised := balanced.revise id { e.objects id with
        pendingAccept := true, pendingIt := e.nextNode } rfl rfl
      exact ⟨revised.limit, revised.bounded, revised.used, revised.tallied⟩
  | grant handler node waiting =>
      have revised := balanced.revise node.2 { e.objects node.2 with pendingAccept := false } rfl rfl
      exact ⟨revised.limit, revised.bounded, revised.used, revised.tallied⟩
  | wait handler => exact ⟨balanced.limit, balanced.bounded, balanced.used, balanced.tallied⟩
  | cancel => exact ⟨balanced.limit, balanced.bounded, balanced.used, balanced.tallied⟩
  | share account => exact absurd rfl (own account)

theorem walk {after : UdpEngine} (walk : Walks e after) (tabled : Tabled e)
    (balanced : Balanced size rest e) : Tabled after ∧ Balanced size rest after := by
  refine walk.invariant (fun e => Tabled e ∧ Balanced size rest e) ⟨tabled, balanced⟩ ?_
  intro e effect ⟨tabled, balanced⟩ permits inside
  refine ⟨tabled.apply effect permits, balanced.apply tabled effect permits ?_⟩
  rintro account rfl
  cases inside

theorem dealt {registered : Option HandlerId} {after : UdpEngine} (dealt : Dealt registered e after)
    (tabled : Tabled e) (balanced : Balanced size rest e) : Balanced size rest after := by
  cases dealt with
  | walk _ path => exact (walk path tabled balanced).2
  | final effect path permits deals _ =>
      obtain ⟨tabled, balanced⟩ := walk path tabled balanced
      refine balanced.apply tabled effect permits ?_
      rintro account rfl
      cases deals

/-- What the engine does keeps the balance. -/
theorem step (balanced : Balanced size rest e) (tabled : Tabled e) (event : UdpEvent)
    (own : ∀ account, event ≠ .elsewhere account) : Balanced size rest (e.step event) := by
  rcases step_dealt tabled event with ⟨account, rfl⟩ | made
  · exact absurd rfl (own account)
  · exact dealt made tabled balanced

end Balanced

end UdpEngine

/-! The pair. -/

structure Engines where
  tcp : World
  udp : UdpEngine

/-- What happens to one of the engines. -/
inductive EngineEvent
  | tcp (event : WorldEvent) (own : ∀ account, event ≠ .elsewhere account)
  | udp (event : UdpEvent) (own : ∀ account, event ≠ .elsewhere account)

namespace Engines

def step (e : Engines) : EngineEvent → Engines
  | .tcp event _ =>
      let tcp := e.tcp.step event
      { tcp := tcp, udp := e.udp.step (.elsewhere tcp.eng.account) }
  | .udp event _ =>
      let udp := e.udp.step event
      { tcp := e.tcp.step (.elsewhere udp.account), udp := udp }

def run (e : Engines) (events : List EngineEvent) : Engines := events.foldl step e

/-- The flow that a packet is for, with the segment. -/
def arrival (e : Engines) : EngineEvent → Option (FlowId × TcpHeader × List UInt8)
  | .tcp event _ => e.tcp.arrival event
  | .udp _ _ => none

/-- Both engines of a configuration, with the accountant they share. -/
def fresh (cfg : TunConfig) (now : Int) : Engines :=
  let account : BufferAccountant := { limit := cfg.maxTotalBuffer }
  { tcp := World.fresh cfg account now, udp := UdpEngine.fresh cfg account now }

/-- The tables are in order, and the budget is what flows and sessions hold. -/
structure Joint (size : Nat) (e : Engines) : Prop where
  kept : World.Kept e.tcp
  tabled : UdpEngine.Tabled e.udp
  flows : e.tcp.Balanced size e.udp.held
  sessions : e.udp.Balanced size e.tcp.held
  shared : e.udp.account = e.tcp.eng.account

theorem Joint.step {size : Nat} {e : Engines} (joint : Joint size e) (event : EngineEvent) :
    Joint size (e.step event) := by
  cases event with
  | tcp event own =>
      have flows := joint.flows.step joint.kept event own
      have used := flows.used
      refine ⟨joint.kept.step event, joint.tabled.share _, flows, ?_, rfl⟩
      refine ⟨flows.limit, flows.bounded, ?_, joint.sessions.tallied⟩
      show (e.tcp.step event).eng.account.used = e.udp.held + (e.tcp.step event).held
      omega
  | udp event own =>
      have sessions := joint.sessions.step joint.tabled event own
      have used := sessions.used
      refine ⟨joint.kept.act (.share _) trivial, joint.tabled.step event, ?_, sessions, rfl⟩
      refine ⟨sessions.limit, sessions.bounded, ?_, joint.flows.backed⟩
      show (e.udp.step event).account.used = e.tcp.held + (e.udp.step event).held
      omega

theorem Joint.fresh (cfg : TunConfig) (now : Int) : Joint cfg.maxTotalBuffer (fresh cfg now) := by
  have bare : ∀ id, Backed ((World.fresh cfg { limit := cfg.maxTotalBuffer } now).records id).flow :=
    fun _ => Backed.bare rfl
  exact ⟨World.Kept.fresh cfg _ now, UdpEngine.Tabled.fresh cfg _ now,
    ⟨rfl, Nat.zero_le _, rfl, bare⟩, ⟨rfl, Nat.zero_le _, rfl, fun _ => rfl⟩, rfl⟩

theorem Joint.run {size : Nat} {e : Engines} (joint : Joint size e) (events : List EngineEvent) :
    Joint size (e.run events) := by
  induction events generalizing e with
  | nil => exact joint
  | cons event rest ih => exact ih (joint.step event)

theorem Joint.arrival_open {size : Nat} {e : Engines} (joint : Joint size e) {event : EngineEvent}
    {id : FlowId} {th : TcpHeader} {data : List UInt8}
    (arrives : e.arrival event = some (id, th, data)) :
    (e.tcp.records id).flow.state ≠ .closed := by
  cases event with
  | tcp event own => exact World.arrival_open joint.kept arrives
  | udp event own => cases arrives

theorem arrival_small {e : Engines} {event : EngineEvent} {id : FlowId} {th : TcpHeader}
    {data : List UInt8} (arrives : e.arrival event = some (id, th, data)) :
    data.length ≤ World.maxPacket := by
  cases event with
  | tcp event own => exact World.arrival_small arrives
  | udp event own => cases arrives

theorem run_cfg (cfg : TunConfig) (now : Int) (events : List EngineEvent) :
    ((fresh cfg now).run events).tcp.eng.cfg = cfg := by
  have general (e : Engines) (kept : World.Kept e.tcp) : (e.run events).tcp.eng.cfg = e.tcp.eng.cfg := by
    induction events generalizing e with
    | nil => rfl
    | cons event rest ih =>
        cases event with
        | tcp event own => exact (ih _ (kept.step event)).trans (World.step_cfg kept event)
        | udp event own => exact ih (e.step (.udp event own)) (kept.act (.share _) trivial)
  exact general _ (Joint.fresh cfg now).kept

/-- What every flow keeps holds of every flow of the pair. -/
theorem run_persists {holds : Conn → Prop} (persists : World.Persists (fun _ _ => True) holds)
    (cfg : TunConfig) (now : Int) (events : List EngineEvent) :
    ∀ id < ((fresh cfg now).run events).tcp.created,
      holds (((fresh cfg now).run events).tcp.conn id) := by
  have general (e : Engines) (kept : World.Kept e.tcp)
      (all : ∀ id < e.tcp.created, holds (e.tcp.conn id)) :
      ∀ id < (e.run events).tcp.created, holds ((e.run events).tcp.conn id) := by
    induction events generalizing e with
    | nil => exact all
    | cons event rest ih =>
        cases event with
        | tcp event own =>
            exact ih (e.step (.tcp event own)) (kept.step event) (persists.step kept event
              (fun _ _ _ => trivial) (fun _ _ _ _ => trivial) all)
        | udp event own =>
            exact ih (e.step (.udp event own)) (kept.act (.share _) trivial) fun id old =>
              persists.aside (e.tcp.conn id) _ rfl (Int.le_refl _) (all id old)
  exact general _ (Joint.fresh cfg now).kept fun id old => absurd old (Nat.not_lt_zero id)

end Engines

end Tunio
