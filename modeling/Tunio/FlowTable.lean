import Tunio.Books
import Tunio.Directory

/-!
The flow table and the connection counter over whole runs of the TCP engine.
-/

namespace Tunio

open Directory Machines

/-- A new flow is in the table, and handed out or queued. -/
structure Enters (eng : TcpEngine) (id : FlowId) (key : FiveTuple) (c : Conn) : Prop where
  named : c.flow.id = id
  keyed : c.flow.key = key
  state : c.flow.state = .synRcvd
  waits : c.flow.accepted = false → Waits c.toFlowRecord
  cfg : c.eng.cfg = eng.cfg
  flows : c.eng.flows = (key, id) :: eng.flows
  tcpConnections : c.eng.stats.tcpConnections = eng.stats.tcpConnections
  dealt : (∃ handler rest, eng.pendingAccepts = handler :: rest ∧ c.flow.accepted = true ∧
      c.eng.pendingAccepts = rest ∧ c.eng.pendingFlows = eng.pendingFlows ∧
      c.eng.accepts = eng.accepts ++ [{ handler := handler, ec := .success, flow := some id }]) ∨
    (eng.pendingAccepts = [] ∧ c.flow.accepted = false ∧ c.eng.pendingAccepts = [] ∧
      c.eng.pendingFlows = eng.pendingFlows ++ [id] ∧ c.eng.accepts = eng.accepts)

theorem openFlow_enters (eng : TcpEngine) (id : FlowId) (key : FiveTuple) (th : TcpHeader)
    (payload data : List UInt8) (iss : UInt32) :
    Enters eng id key (openFlow eng id key th payload data iss) := by
  have taken (c : Conn) : ∃ account dropped rxData rxBytes rcvNxt, takeSynData c th data =
      { c with
        eng.account := account
        eng.stats.rxDropped := dropped
        flow.rxData := rxData
        flow.rxBytes := rxBytes
        flow.rcvNxt := rcvNxt } := by
    unfold takeSynData
    split
    · split
      · exact ⟨_, c.eng.stats.rxDropped, _, _, _, rfl⟩
      · exact ⟨c.eng.account, _, c.flow.rxData, c.flow.rxBytes, c.flow.rcvNxt, rfl⟩
    · exact ⟨c.eng.account, c.eng.stats.rxDropped, c.flow.rxData, c.flow.rxBytes, c.flow.rcvNxt, rfl⟩
  unfold openFlow
  dsimp only
  obtain ⟨account, dropped, rxData, rxBytes, rcvNxt, same⟩ := taken
    { flow := synFlow eng id key th payload iss, eng := { eng with flows := (key, id) :: eng.flows } }
  rw [same]
  unfold notifyAccept
  dsimp only
  split
  · rename_i handler rest waiting
    refine ⟨rfl, rfl, rfl, fun unaccepted => ?_, rfl, rfl, rfl, Or.inl ?_⟩
    · cases unaccepted
    · exact ⟨handler, rest, waiting, rfl, rfl, rfl, rfl⟩
  · rename_i nobody
    exact ⟨rfl, rfl, rfl, fun _ => ⟨rfl, rfl, rfl, rfl, rfl, rfl⟩, rfl, rfl, rfl,
      Or.inr ⟨nobody, rfl, nobody, rfl, rfl⟩⟩

namespace World

@[simp] theorem set_self (w : World) (id : FlowId) (c : Conn) :
    (w.set id c).records id = c.toFlowRecord := by simp [set]

theorem set_other (w : World) (id : FlowId) (c : Conn) {other : FlowId} (elsewhere : other ≠ id) :
    (w.set id c).records other = w.records other := by simp [set, elsewhere]

/-- A field that the new record shares with the old one is the same everywhere. -/
theorem set_field {β : Type} (w : World) (id : FlowId) (c : Conn) (field : FlowRecord → β)
    (same : field c.toFlowRecord = field (w.records id)) (other : FlowId) :
    field ((w.set id c).records other) = field (w.records other) := by
  by_cases here : other = id
  · rw [here, set_self, same]
  · rw [w.set_other id c here]

/-- What holds of every record holds still when it holds of the new one. -/
theorem set_all {w : World} (holds : FlowRecord → Prop) (all : ∀ id, holds (w.records id))
    (id : FlowId) (c : Conn) (here : holds c.toFlowRecord) (other : FlowId) :
    holds ((w.set id c).records other) := by
  by_cases same : other = id
  · rw [same, set_self]
    exact here
  · rw [w.set_other id c same]
    exact all other

/-- The flow in front of the queue goes to a handler. -/
def grant (w : World) (id : FlowId) (rest : List FlowId) (handler : HandlerId) : World :=
  { w.set id { w.conn id with flow.pendingAccept := false, flow.accepted := true } with
    eng.pendingFlows := rest
    eng.accepts := w.eng.accepts ++ [{ handler := handler, ec := .success, flow := some id }] }

theorem asyncAccept_nil {w : World} {handler : HandlerId} (queue : w.eng.pendingFlows = []) :
    w.asyncAccept handler =
      { w with eng.pendingAccepts := w.eng.pendingAccepts ++ [handler] } := by
  unfold asyncAccept
  rw [queue]
  unfold acceptFrom
  rw [← queue]

theorem asyncAccept_cons {w : World} {handler : HandlerId} {id : FlowId} {rest : List FlowId}
    (queue : w.eng.pendingFlows = id :: rest) (isOpen : (w.records id).flow.state ≠ .closed) :
    w.asyncAccept handler = w.grant id rest handler := by
  unfold asyncAccept
  rw [queue]
  unfold acceptFrom
  rw [if_neg (by simpa [on, conn] using isOpen)]
  simp [on, set, conn, grant, postAccept]

/-- The largest IP packet. -/
def maxPacket : Nat := 65535

inductive Move
  | aside (eng : TcpEngine)
  | share (account : BufferAccountant)
  | operate (id : FlowId) (after : Conn)
  | enter (key : FiveTuple) (th : TcpHeader) (payload data : List UInt8) (iss : UInt32)
  | grant (handler : HandlerId) (id : FlowId) (rest : List FlowId)
  | wait (handler : HandlerId)
  | cancel

def act (w : World) : Move → World
  | .aside eng => { w with eng := eng }
  | .share account => { w with eng.account := account }
  | .operate id after => w.set id after
  | .enter key th payload data iss => w.enterFlow key th payload data iss
  | .grant handler id rest => w.grant id rest handler
  | .wait handler => { w with eng.pendingAccepts := w.eng.pendingAccepts ++ [handler] }
  | .cancel => w.cancelAccepts

def Permits (w : World) : Move → Prop
  | .aside eng => eng = { w.eng with stats.rxDropped := eng.stats.rxDropped, now := eng.now }
  | .operate id after => Operates maxPacket (w.conn id) after
  | .enter key _ _ _ _ =>
      w.eng.flows.length < w.eng.cfg.maxTcpFlows ∧ ∀ entry ∈ w.eng.flows, entry.1 ≠ key
  | .grant _ id rest => w.eng.pendingFlows = id :: rest
  | .wait _ => w.eng.pendingFlows = []
  | .share _ | .cancel => True

def machine : Machine World Move where
  enabled := Permits
  act := act

/-- Handlers and flows are matched. -/
def Move.deals : Move → Bool
  | .enter .. | .grant .. | .wait _ => true
  | _ => false

/-- The handler that comes to accept. -/
def Move.registers : Move → Option HandlerId
  | .grant handler _ _ => some handler
  | .wait handler => some handler
  | _ => none

/-- The budget is changed from outside only. -/
def Move.inside : Move → Bool
  | .share _ => false
  | move => !move.deals

/-- A path of moves that deal nothing. -/
abbrev Walks (before after : World) : Prop :=
  Steps machine (fun _ move => move.inside = true) before after

/-- A path that may end with a deal. -/
abbrev Dealt (registered : Option HandlerId) (before after : World) : Prop :=
  Labelled machine (fun move => move.inside = true) (fun move => move.deals = true)
    Move.registers registered before after

theorem Walks.act {w : World} (move : Move) (permits : w.Permits move)
    (inside : move.inside = true) : Walks w (w.act move) :=
  Steps.step move permits inside (Steps.refl _)

theorem Dealt.deal {registered : Option HandlerId} {w : World} (move : Move)
    (permits : w.Permits move) (deals : move.deals = true)
    (registers : move.registers = registered) : Dealt registered w (w.act move) :=
  Labelled.final move (Steps.refl w) permits deals registers

/-- The table holds the open flows under their keys, the queue of `async_accept` those that
no application has, and the counter those behind the handshake. -/
structure Kept (w : World) : Prop where
  indexed : Indexed (fun id => (w.records id).flow.key)
    (fun id => (w.records id).flow.state ≠ .closed) w.eng.flows
  ids : ∀ id, (w.records id).flow.state ≠ .closed → (w.records id).flow.id = id
  created : ∀ id, (w.records id).flow.state ≠ .closed → id < w.created
  capped : w.eng.flows.length ≤ w.eng.cfg.maxTcpFlows
  counted : w.eng.stats.tcpConnections =
    total (fun id => seat (w.records id).flow.state) w.eng.flows
  queue : ∀ id, id ∈ w.eng.pendingFlows ↔
    (w.records id).flow.state ≠ .closed ∧ (w.records id).flow.accepted = false
  once : w.eng.pendingFlows.Nodup
  waits : ∀ id, (w.records id).flow.state ≠ .closed → (w.records id).flow.accepted = false →
    Waits (w.records id)
  settled : ∀ id, (w.records id).flow.state = .closed → Settled (w.records id).flow
  announced : ∀ completion ∈ w.eng.accepts, ∀ id ∈ completion.flow, id < w.created

namespace Kept

variable {w : World}

theorem seated (kept : Kept w) {id : FlowId} (isOpen : (w.records id).flow.state ≠ .closed) :
    Counted (w.conn id) := by
  have whole := kept.indexed.total_remove isOpen fun id => seat (w.records id).flow.state
  have counted := kept.counted
  show seat (w.records id).flow.state ≤ w.eng.stats.tcpConnections
  omega

theorem absent (kept : Kept w) {id : FlowId} (accepted : (w.records id).flow.accepted = true) :
    id ∉ w.eng.pendingFlows := by
  intro member
  exact absurd ((kept.queue id).mp member).2 (ne_false_of_eq_true accepted)

theorem handles (kept : Kept w) {id : FlowId} {after : Conn} {len : Nat}
    (operates : Operates len (w.conn id) after) (isOpen : (w.records id).flow.state ≠ .closed) :
    Handled (w.conn id) after := by
  cases accepted : (w.records id).flow.accepted with
  | false => exact operates.waits (kept.waits id isOpen accepted)
  | true =>
      refine Handled.path (Modest.inside operates.path) isOpen (kept.seated isOpen) accepted ?_
      rw [show (w.conn id).flow.id = id from kept.ids id isOpen]
      exact kept.absent accepted

/-- An operation on an open flow. -/
theorem handled (kept : Kept w) {id : FlowId} (isOpen : (w.records id).flow.state ≠ .closed)
    {after : Conn} (handled : Handled (w.conn id) after) : Kept (w.set id after) := by
  obtain ⟨books, waits⟩ := handled
  have keys := w.set_field id after (fun record => record.flow.key) books.key
  have accepts := w.set_field id after (fun record => record.flow.accepted) books.accepted
  have self := w.set_self id after
  have others : ∀ other ≠ id, (w.set id after).records other = w.records other :=
    fun other elsewhere => w.set_other id after elsewhere
  have seats : ∀ other ≠ id, seat ((w.set id after).records other).flow.state =
      seat (w.records other).flow.state := fun other elsewhere => by rw [others other elsewhere]
  have here : (w.records id).flow.id = id := kept.ids id isOpen
  have stillWaits : ∀ other, ((w.set id after).records other).flow.state ≠ .closed →
      ((w.set id after).records other).flow.accepted = false →
      Waits ((w.set id after).records other) :=
    set_all (fun record => record.flow.state ≠ .closed → record.flow.accepted = false → Waits record)
      kept.waits id after waits
  have wasOpen : ∀ other, ((w.set id after).records other).flow.state ≠ .closed →
      (w.records other).flow.state ≠ .closed := by
    intro other otherOpen
    by_cases same : other = id
    · rw [same]
      exact isOpen
    · rwa [others other same] at otherOpen
  have ids : ∀ other, ((w.set id after).records other).flow.state ≠ .closed →
      ((w.set id after).records other).flow.id = other := by
    intro other otherOpen
    have same := w.set_field id after (fun record => record.flow.id) books.id other
    exact same.trans (kept.ids other (wasOpen other otherOpen))
  have created : ∀ other, ((w.set id after).records other).flow.state ≠ .closed →
      other < w.created := fun other otherOpen => kept.created other (wasOpen other otherOpen)
  have announced : ∀ completion ∈ after.eng.accepts, ∀ other ∈ completion.flow,
      other < w.created := by
    rw [books.accepts]
    exact kept.announced
  have whole := kept.counted
  by_cases closed : after.flow.state = .closed
  · obtain ⟨settled, flows, withdrawn, balance⟩ := books.leaves closed
    have pendingFlows : after.eng.pendingFlows = w.eng.pendingFlows.erase id := by
      rw [withdrawn, show (w.conn id).flow.id = id from here]
      rfl
    have gone : ¬((w.set id after).records id).flow.state ≠ .closed := by
      rw [self]
      exact not_not_intro closed
    have settles := set_all (fun record => record.flow.state = .closed → Settled record.flow)
      kept.settled id after fun _ => settled
    refine ⟨?_, ids, created, ?_, ?_, ?_, ?_, stillWaits, settles, announced⟩
    · show Indexed _ _ after.eng.flows
      rw [flows]
      exact kept.indexed.remove isOpen keys gone fun other elsewhere => by rw [others other elsewhere]
    · show after.eng.flows.length ≤ after.eng.cfg.maxTcpFlows
      rw [flows, books.cfg]
      exact (List.length_filter_le _ _).trans kept.capped
    · show after.eng.stats.tcpConnections = total _ after.eng.flows
      rw [flows]
      have removed := kept.indexed.total_remove isOpen fun id => seat (w.records id).flow.state
      have elsewhere := kept.indexed.total_elsewhere seats
      have change : after.eng.stats.tcpConnections + seat (w.records id).flow.state =
        w.eng.stats.tcpConnections := balance
      have same : total (fun other => seat ((w.set id after).records other).flow.state)
          (w.eng.flows.filter fun entry => entry.1 ≠ (w.records id).flow.key) =
          after.eng.stats.tcpConnections := by
        rw [elsewhere]
        omega
      exact same.symm
    · intro other
      show other ∈ after.eng.pendingFlows ↔ _
      rw [pendingFlows, kept.once.mem_erase_iff, kept.queue other, accepts other]
      by_cases same : other = id
      · subst same
        exact ⟨fun both => absurd rfl both.1, fun both => absurd both.1 gone⟩
      · rw [others other same]
        exact and_iff_right same
    · show after.eng.pendingFlows.Nodup
      rw [pendingFlows]
      exact kept.once.erase _
  · obtain ⟨flows, pendingFlows, balance⟩ := books.stays closed
    have flows : after.eng.flows = w.eng.flows := flows
    have balance : after.eng.stats.tcpConnections + seat (w.records id).flow.state =
      w.eng.stats.tcpConnections + seat after.flow.state := balance
    have lives : ∀ other, ((w.set id after).records other).flow.state ≠ .closed ↔
        (w.records other).flow.state ≠ .closed := by
      intro other
      by_cases same : other = id
      · subst same
        rw [self]
        exact iff_of_true closed isOpen
      · rw [others other same]
    have settles := set_all (fun record => record.flow.state = .closed → Settled record.flow)
      kept.settled id after fun shut => absurd shut closed
    refine ⟨?_, ids, created, ?_, ?_, ?_, ?_, stillWaits, settles, announced⟩
    · show Indexed _ _ after.eng.flows
      rw [flows]
      exact kept.indexed.congr (fun other _ => keys other) lives
    · show after.eng.flows.length ≤ after.eng.cfg.maxTcpFlows
      rw [flows, books.cfg]
      exact kept.capped
    · show after.eng.stats.tcpConnections = total _ after.eng.flows
      rw [flows]
      have change := kept.indexed.total_change isOpen seats
      rw [self] at change
      omega
    · intro other
      show other ∈ after.eng.pendingFlows ↔ _
      rw [pendingFlows, lives other, accepts other]
      exact kept.queue other
    · show after.eng.pendingFlows.Nodup
      rw [pendingFlows]
      exact kept.once

/-- An operation on a settled flow. -/
theorem inert (kept : Kept w) {id : FlowId} (closed : (w.records id).flow.state = .closed)
    {after : Conn} (inert : Inert (w.conn id) after) : Kept (w.set id after) := by
  obtain ⟨settled, _, eng⟩ := inert
  have self := w.set_self id after
  have others : ∀ other ≠ id, (w.set id after).records other = w.records other :=
    fun other elsewhere => w.set_other id after elsewhere
  have elsewhere : ∀ other, ((w.set id after).records other).flow.state ≠ .closed → other ≠ id := by
    rintro other otherOpen rfl
    rw [self] at otherOpen
    exact otherOpen settled.closed
  have lives : ∀ other, ((w.set id after).records other).flow.state ≠ .closed ↔
      (w.records other).flow.state ≠ .closed := by
    intro other
    by_cases same : other = id
    · subst same
      rw [self]
      exact iff_of_false (not_not_intro settled.closed) (not_not_intro closed)
    · rw [others other same]
  have same : ∀ other, (w.records other).flow.state ≠ .closed →
      (w.set id after).records other = w.records other :=
    fun other otherOpen => others other (elsewhere other ((lives other).mpr otherOpen))
  have settles := set_all (fun record => record.flow.state = .closed → Settled record.flow)
    kept.settled id after fun _ => settled
  have engine : after.eng = w.eng := eng
  refine ⟨?_, ?_, ?_, ?_, ?_, ?_, ?_, ?_, settles, ?_⟩
  · show Indexed _ _ after.eng.flows
    rw [engine]
    exact kept.indexed.congr (fun other otherOpen => by rw [same other otherOpen]) lives
  · intro other otherOpen
    have before := (lives other).mp otherOpen
    rw [same other before]
    exact kept.ids other before
  · exact fun other otherOpen => kept.created other ((lives other).mp otherOpen)
  · show after.eng.flows.length ≤ after.eng.cfg.maxTcpFlows
    rw [engine]
    exact kept.capped
  · show after.eng.stats.tcpConnections = total _ after.eng.flows
    rw [engine, kept.counted]
    exact (kept.indexed.total_congr fun other otherOpen => by rw [same other otherOpen]).symm
  · intro other
    show other ∈ after.eng.pendingFlows ↔ _
    rw [engine, lives other, kept.queue other]
    exact and_congr_right fun otherOpen => by rw [same other otherOpen]
  · show after.eng.pendingFlows.Nodup
    rw [engine]
    exact kept.once
  · intro other otherOpen
    have before := (lives other).mp otherOpen
    rw [same other before]
    exact kept.waits other before
  · show ∀ completion ∈ after.eng.accepts, _
    rw [engine]
    exact kept.announced

/-- An operation on any flow: settled ones are left alone, open ones are accounted for. -/
theorem operate (kept : Kept w) {id : FlowId} {after : Conn} {len : Nat}
    (operates : Operates len (w.conn id) after) : Kept (w.set id after) := by
  have path := Modest.inside operates.path
  by_cases closed : (w.records id).flow.state = .closed
  · exact kept.inert closed (Settled.path path (kept.settled id closed))
  · exact kept.handled closed (kept.handles operates closed)

/-- What does not concern the tables. -/
theorem aside (kept : Kept w) {eng : TcpEngine} (cfg : eng.cfg = w.eng.cfg)
    (flows : eng.flows = w.eng.flows) (pendingFlows : eng.pendingFlows = w.eng.pendingFlows)
    (tcpConnections : eng.stats.tcpConnections = w.eng.stats.tcpConnections)
    (announced : ∀ completion ∈ eng.accepts, ∀ id ∈ completion.flow, id < w.created) :
    Kept { w with eng := eng } := by
  refine ⟨?_, kept.ids, kept.created, ?_, ?_, ?_, ?_, kept.waits, kept.settled, announced⟩
  · show Indexed _ _ eng.flows
    rw [flows]
    exact kept.indexed
  · show eng.flows.length ≤ eng.cfg.maxTcpFlows
    rw [flows, cfg]
    exact kept.capped
  · show eng.stats.tcpConnections = total _ eng.flows
    rw [flows, tcpConnections]
    exact kept.counted
  · show ∀ id, id ∈ eng.pendingFlows ↔ _
    rw [pendingFlows]
    exact kept.queue
  · show eng.pendingFlows.Nodup
    rw [pendingFlows]
    exact kept.once

theorem drop (kept : Kept w) : Kept w.drop := kept.aside rfl rfl rfl rfl kept.announced

theorem cancelAccepts (kept : Kept w) : Kept w.cancelAccepts := by
  refine kept.aside rfl rfl rfl rfl fun completion member id announced => ?_
  rcases List.mem_append.mp member with member | member
  · exact kept.announced completion member id announced
  · obtain ⟨handler, _, rfl⟩ := List.mem_map.mp member
    cases announced

/-- The flow of a SYN enters the table. -/
theorem enterFlow (kept : Kept w) (key : FiveTuple) (th : TcpHeader) (payload data : List UInt8)
    (iss : UInt32) (room : w.eng.flows.length < w.eng.cfg.maxTcpFlows)
    (fresh : ∀ entry ∈ w.eng.flows, entry.1 ≠ key) :
    Kept (w.enterFlow key th payload data iss) := by
  unfold World.enterFlow
  have idle : ¬(w.records w.created).flow.state ≠ .closed := by
    intro isOpen
    exact absurd (kept.created _ isOpen) (lt_irrefl _)
  have entered := openFlow_enters w.eng w.created key th payload data iss
  generalize Tunio.openFlow w.eng w.created key th payload data iss = c at entered
  have isOpen : c.flow.state ≠ .closed := by
    rw [entered.state]
    decide
  have self := w.set_self w.created c
  have others : ∀ other ≠ w.created, (w.set w.created c).records other = w.records other :=
    fun other elsewhere => w.set_other w.created c elsewhere
  have older : ∀ other, (w.records other).flow.state ≠ .closed → other ≠ w.created := by
    rintro other otherOpen rfl
    exact idle otherOpen
  have indexed : Indexed (fun other => ((w.set w.created c).records other).flow.key)
      (fun other => ((w.set w.created c).records other).flow.state ≠ .closed)
      ((key, w.created) :: w.eng.flows) :=
    kept.indexed.insert idle fresh (by rw [self]; exact entered.keyed)
      (by rw [self]; exact isOpen) (fun other elsewhere => by rw [others other elsewhere])
      (fun other elsewhere => by rw [others other elsewhere])
  have settles := set_all (fun record => record.flow.state = .closed → Settled record.flow)
    kept.settled w.created c fun closed => absurd closed isOpen
  have waits := set_all
    (fun record => record.flow.state ≠ .closed → record.flow.accepted = false → Waits record)
    kept.waits w.created c fun _ => entered.waits
  have unqueued : w.created ∉ w.eng.pendingFlows :=
    fun member => idle ((kept.queue w.created).mp member).1
  have queue : (∀ other, other ∈ c.eng.pendingFlows ↔
      ((w.set w.created c).records other).flow.state ≠ .closed ∧
        ((w.set w.created c).records other).flow.accepted = false) ∧
      c.eng.pendingFlows.Nodup := by
    have before : ∀ other ≠ w.created, (other ∈ w.eng.pendingFlows ↔
        ((w.set w.created c).records other).flow.state ≠ .closed ∧
          ((w.set w.created c).records other).flow.accepted = false) := by
      intro other elsewhere
      rw [others other elsewhere]
      exact kept.queue other
    rcases entered.dealt with ⟨handler, rest, _, accepted, _, same, _⟩ | ⟨_, unaccepted, _, grown, _⟩
    · rw [same]
      refine ⟨fun other => ?_, kept.once⟩
      by_cases here : other = w.created
      · rw [here, self]
        exact iff_of_false unqueued fun both => absurd (accepted.symm.trans both.2) Bool.noConfusion
      · exact before other here
    · rw [grown]
      refine ⟨fun other => ?_, List.nodup_append.mpr ⟨kept.once, List.nodup_singleton _, ?_⟩⟩
      · rw [List.mem_append, List.mem_singleton]
        by_cases here : other = w.created
        · rw [here, self]
          exact iff_of_true (Or.inr rfl) ⟨isOpen, unaccepted⟩
        · rw [or_iff_left here]
          exact before other here
      · rintro other member _ same rfl
        exact unqueued (List.mem_singleton.mp same ▸ member)
  have announced : ∀ completion ∈ c.eng.accepts, ∀ other ∈ completion.flow,
      other < w.created + 1 := by
    have before : ∀ completion ∈ w.eng.accepts, ∀ other ∈ completion.flow, other < w.created + 1 :=
      fun completion member other announced =>
        Nat.lt_succ_of_lt (kept.announced completion member other announced)
    rcases entered.dealt with ⟨handler, rest, _, _, _, _, posted⟩ | ⟨_, _, _, _, same⟩
    · rw [posted]
      intro completion member other announced
      rcases List.mem_append.mp member with member | member
      · exact before completion member other announced
      · obtain rfl := List.mem_singleton.mp member
        obtain rfl := Option.mem_some.mp announced
        exact Nat.lt_succ_self _
    · rw [same]
      exact before
  refine ⟨?_, ?_, ?_, ?_, ?_, queue.1, queue.2, waits, settles, announced⟩
  · show Indexed _ _ c.eng.flows
    rw [entered.flows]
    exact indexed
  · intro other otherOpen
    by_cases here : other = w.created
    · subst here
      exact (congrArg (fun record => record.flow.id) self).trans entered.named
    · have same := others other here
      have before : (w.records other).flow.state ≠ .closed := by rwa [← same]
      exact (congrArg (fun record => record.flow.id) same).trans (kept.ids other before)
  · intro other otherOpen
    by_cases here : other = w.created
    · rw [here]
      exact Nat.lt_succ_self _
    · have before : (w.records other).flow.state ≠ .closed := by rwa [← others other here]
      exact Nat.lt_succ_of_lt (kept.created other before)
  · show c.eng.flows.length ≤ c.eng.cfg.maxTcpFlows
    rw [entered.flows, entered.cfg]
    exact room
  · show c.eng.stats.tcpConnections = total _ c.eng.flows
    rw [entered.flows, entered.tcpConnections, kept.counted, total_cons]
    have unseated : seat ((w.set w.created c).records w.created).flow.state = 0 := by
      rw [self, entered.state]
      rfl
    have rest : total (fun other => seat ((w.set w.created c).records other).flow.state)
        w.eng.flows = total (fun other => seat (w.records other).flow.state) w.eng.flows :=
      kept.indexed.total_congr fun other otherOpen => by rw [others other (older other otherOpen)]
    exact ((congrArg₂ (· + ·) unseated rest).trans (Nat.zero_add _)).symm

/-- With every flow closed nothing waits any more. -/
theorem deserted (kept : Kept w) (shut : ∀ id, (w.records id).flow.state = .closed) :
    w.eng.pendingFlows = [] :=
  List.eq_nil_iff_forall_not_mem.mpr fun id member => ((kept.queue id).mp member).1 (shut id)

theorem grant (kept : Kept w) {id : FlowId} {rest : List FlowId}
    (front : w.eng.pendingFlows = id :: rest) (handler : HandlerId) :
    Kept (w.grant id rest handler) := by
  have member : id ∈ w.eng.pendingFlows := front ▸ List.mem_cons_self
  obtain ⟨isOpen, _⟩ := (kept.queue id).mp member
  let c : Conn := { w.conn id with flow.pendingAccept := false, flow.accepted := true }
  have self := w.set_self id c
  have others : ∀ other ≠ id, (w.set id c).records other = w.records other :=
    fun other elsewhere => w.set_other id c elsewhere
  have keys := w.set_field id c (fun record => record.flow.key) rfl
  have ids := w.set_field id c (fun record => record.flow.id) rfl
  have states := w.set_field id c (fun record => record.flow.state) rfl
  have lives : ∀ other, ((w.set id c).records other).flow.state ≠ .closed ↔
      (w.records other).flow.state ≠ .closed := fun other => by rw [states other]
  have once := kept.once
  rw [front, List.nodup_cons] at once
  refine ⟨?_, ?_, ?_, kept.capped, ?_, ?_, once.2, ?_, ?_, ?_⟩
  · exact kept.indexed.congr (fun other _ => keys other) lives
  · intro other otherOpen
    exact (ids other).trans (kept.ids other ((lives other).mp otherOpen))
  · exact fun other otherOpen => kept.created other ((lives other).mp otherOpen)
  · refine kept.counted.trans (kept.indexed.total_congr fun other _ => ?_).symm
    exact congrArg seat (states other)
  · intro other
    show other ∈ rest ↔ ((w.set id c).records other).flow.state ≠ .closed ∧
      ((w.set id c).records other).flow.accepted = false
    by_cases here : other = id
    · rw [here, self]
      exact iff_of_false once.1 fun both => Bool.noConfusion both.2
    · rw [others other here, ← kept.queue other, front, List.mem_cons, or_iff_right here]
  · exact set_all
      (fun record => record.flow.state ≠ .closed → record.flow.accepted = false → Waits record)
      kept.waits id c fun _ unaccepted => Bool.noConfusion unaccepted
  · exact set_all (fun record => record.flow.state = .closed → Settled record.flow)
      kept.settled id c fun closed => absurd closed isOpen
  · intro completion member other announced
    rcases List.mem_append.mp member with member | member
    · exact kept.announced completion member other announced
    · obtain rfl := List.mem_singleton.mp member
      obtain rfl := Option.mem_some.mp announced
      exact kept.created _ isOpen

/-- The invariant survives every move. -/
theorem act (kept : Kept w) (move : Move) (permits : w.Permits move) : Kept (w.act move) := by
  cases move with
  | aside eng =>
      have same : eng = { w.eng with stats.rxDropped := eng.stats.rxDropped, now := eng.now } :=
        permits
      show Kept { w with eng := eng }
      rw [same]
      exact kept.aside rfl rfl rfl rfl kept.announced
  | share account => exact kept.aside rfl rfl rfl rfl kept.announced
  | operate id after => exact kept.operate permits
  | enter key th payload data iss => exact kept.enterFlow key th payload data iss permits.1 permits.2
  | grant handler id rest => exact kept.grant permits handler
  | wait handler => exact kept.aside rfl rfl rfl rfl kept.announced
  | cancel => exact kept.cancelAccepts

end Kept

theorem Walks.kept {before after : World} (walk : Walks before after) (kept : Kept before) :
    Kept after :=
  walk.invariant Kept kept fun _ move kept permits _ => kept.act move permits

theorem Dealt.kept {registered : Option HandlerId} {before after : World}
    (dealt : Dealt registered before after) (kept : Kept before) : Kept after :=
  dealt.invariant Kept kept fun _ move kept permits => kept.act move permits

/-! Every step is a path of moves. -/

theorem Walks.drop (w : World) : Walks w w.drop := Walks.act (.aside w.drop.eng) rfl rfl

theorem Walks.operate {w : World} {id : FlowId} {after : Conn}
    (operates : Operates maxPacket (w.conn id) after) : Walks w (w.set id after) :=
  Walks.act (.operate id after) operates rfl

theorem Dealt.openFlow (w : World) (key : FiveTuple) (th : TcpHeader) (payload data : List UInt8)
    (iss : UInt32) (fresh : ∀ entry ∈ w.eng.flows, entry.1 ≠ key) :
    Dealt none w (w.openFlow key th payload data iss) := by
  unfold World.openFlow
  split
  · exact Labelled.walk rfl (Walks.drop w)
  · rename_i room
    exact Dealt.deal (.enter key th payload data iss) ⟨Nat.lt_of_not_ge room, fresh⟩ rfl rfl

theorem Dealt.receiveSegment {w : World} (kept : Kept w) (key : FiveTuple) (th : TcpHeader)
    (payload data : List UInt8) (iss : UInt32) (small : data.length ≤ maxPacket) :
    Dealt none w (w.receiveSegment key th payload data iss) := by
  unfold World.receiveSegment findFlow
  cases found : w.eng.flows.find? fun entry => entry.1 = key with
  | none =>
      dsimp only [Option.map_none]
      split
      · refine Dealt.openFlow w key th payload data iss fun entry member same => ?_
        exact absurd (decide_eq_true same) (List.find?_eq_none.mp found entry member)
      · exact Labelled.walk rfl (Steps.refl w)
  | some entry =>
      dsimp only [Option.map_some]
      split
      · -- the entry of the old flow goes before the new one comes
        obtain ⟨same, isOpen⟩ := kept.indexed.listed entry (List.mem_of_find?_eq_some found)
        have flows : (w.on entry.2 fun c => closeFlow c .success).eng.flows =
            w.eng.flows.filter fun other => other.1 ≠ (w.records entry.2).flow.key :=
          congrArg TableView.flows (closeFlow_tables (w.conn entry.2) .success isOpen)
        refine Labelled.after (Walks.operate (Operates.closeFlow (w.conn entry.2) .success nofun)) ?_
        refine Dealt.openFlow _ key th payload data iss fun other member => ?_
        have remains : other ∈ w.eng.flows.filter fun other =>
            other.1 ≠ (w.records entry.2).flow.key := by
          rw [← flows]
          exact member
        have different := of_decide_eq_true (List.mem_filter.mp remains).2
        have here := List.find?_some found
        rwa [same, of_decide_eq_true here] at different
      · exact Labelled.walk rfl (Walks.operate (Operates.handleSegment (w.conn entry.2) th data small))

/-- Every flow of a list, one after the other. -/
theorem Walks.fold (operation : Conn → Conn) (operates : ∀ c, Operates maxPacket c (operation c))
    (ids : List FlowId) (w : World) : Walks w (ids.foldl (fun w id => w.on id operation) w) := by
  induction ids generalizing w with
  | nil => exact Steps.refl w
  | cons id rest ih => exact (Walks.operate (operates (w.conn id))).trans (ih _)

theorem closeFlow_closes (w : World) (id : FlowId) (err : ErrorCode) (other : FlowId) :
    ((w.on id fun c => closeFlow c err).records other).flow.state = .closed ↔
      other = id ∨ (w.records other).flow.state = .closed := by
  by_cases here : other = id
  · have closed := closeFlow_state (w.conn id) err
    rw [here, on, set_self]
    exact iff_of_true closed (Or.inl rfl)
  · rw [on, w.set_other id _ here, or_iff_right here]

theorem closeFlows_close (ids : List FlowId) (w : World) (err : ErrorCode) (other : FlowId) :
    ((ids.foldl (fun w id => w.on id fun c => closeFlow c err) w).records
      other).flow.state = .closed ↔ other ∈ ids ∨ (w.records other).flow.state = .closed := by
  induction ids generalizing w with
  | nil => simp
  | cons id rest ih =>
      rw [List.foldl_cons, ih, closeFlow_closes, List.mem_cons]
      tauto

theorem Walks.closeAll {w : World} (kept : Kept w) : Walks w w.closeAll := by
  have closed : Walks w (w.forFlows fun c => closeFlow c .operationAborted) :=
    Walks.fold _ (fun c => Operates.closeFlow c .operationAborted nofun) _ w
  have deserted := (Walks.kept closed kept).deserted fun id => by
    refine (closeFlows_close _ w _ id).mpr (or_iff_not_imp_right.mpr fun isOpen => ?_)
    exact List.mem_map_of_mem (kept.indexed.stored id isOpen)
  unfold World.closeAll
  dsimp only
  generalize (w.forFlows fun c => closeFlow c .operationAborted) = after at closed deserted
  have same : ({ after with eng.pendingFlows := [] } : World) = after := by rw [← deserted]
  rw [same]
  exact closed.trans (Walks.act .cancel trivial rfl)

/-- Nothing that waits is closed, so the handler gets the flow in front. -/
theorem Dealt.asyncAccept {w : World} (kept : Kept w) (handler : HandlerId) :
    Dealt (some handler) w (w.asyncAccept handler) := by
  cases queue : w.eng.pendingFlows with
  | nil =>
      rw [asyncAccept_nil queue]
      exact Dealt.deal (.wait handler) queue rfl rfl
  | cons id rest =>
      have isOpen := ((kept.queue id).mp (queue ▸ List.mem_cons_self)).1
      rw [asyncAccept_cons queue isOpen]
      exact Dealt.deal (.grant handler id rest) queue rfl rfl

/-- Every step of the engine itself is a path of moves with at most one deal. -/
theorem step_dealt {w : World} (kept : Kept w) (event : WorldEvent) :
    (∃ account, event = .elsewhere account) ∨ Dealt event.registers w (w.step event) := by
  cases event with
  | elsewhere account => exact Or.inl ⟨account, rfl⟩
  | packet ip th verified payload iss =>
      refine Or.inr ?_
      show Dealt none w (w.onPacket ip th verified payload.bytes iss)
      unfold onPacket
      dsimp only
      split
      · exact Labelled.walk rfl (Walks.drop w)
      · split
        · exact Labelled.walk rfl (Walks.drop w)
        · refine Dealt.receiveSegment kept _ th _ _ iss ?_
          rw [List.length_drop]
          exact (Nat.sub_le _ _).trans payload.small
  | asyncAccept handler => exact Or.inr (Dealt.asyncAccept kept handler)
  | cancelAccepts => exact Or.inr (Labelled.walk rfl (Walks.act .cancel trivial rfl))
  | closeAll => exact Or.inr (Labelled.walk rfl (Walks.closeAll kept))
  | sweep => exact Or.inr (Labelled.walk rfl (Walks.fold _ Operates.sweepFlow _ w))
  | call id call =>
      refine Or.inr (Labelled.walk rfl ?_)
      unfold World.step
      dsimp only
      split
      · rename_i accepted
        exact Walks.operate (Operates.call accepted call)
      · exact Steps.refl w
  | task id task => exact Or.inr (Labelled.walk rfl (Walks.operate (Operates.task (w.conn id) task)))
  | tick millis =>
      exact Or.inr (Labelled.walk rfl (Walks.act (.aside (w.step (.tick millis)).eng) rfl rfl))

theorem Kept.step {w : World} (kept : Kept w) (event : WorldEvent) : Kept (w.step event) := by
  rcases step_dealt kept event with ⟨account, rfl⟩ | dealt
  · exact kept.act (.share account) trivial
  · exact Dealt.kept dealt kept

theorem Kept.run {w : World} (kept : Kept w) (events : List WorldEvent) : Kept (w.run events) := by
  induction events generalizing w with
  | nil => exact kept
  | cons event rest ih => exact ih (kept.step event)

theorem Kept.fresh (cfg : TunConfig) (account : BufferAccountant) (now : Int) :
    Kept (fresh cfg account now) := by
  have closed : ∀ id, ((World.fresh cfg account now).records id).flow.state = .closed :=
    fun _ => rfl
  refine ⟨Indexed.empty _ fun id isOpen => isOpen (closed id), ?_, ?_, Nat.zero_le _, rfl, ?_,
    List.nodup_nil, ?_, ?_, ?_⟩
  · exact fun id isOpen => absurd (closed id) isOpen
  · exact fun id isOpen => absurd (closed id) isOpen
  · exact fun id => iff_of_false List.not_mem_nil fun both => both.1 (closed id)
  · exact fun id isOpen => absurd (closed id) isOpen
  · exact fun _ _ => ⟨rfl, rfl, rfl, rfl, rfl, rfl, rfl, rfl, rfl⟩
  · intro completion member
    cases member

/-- What the table and the counter say about the flows. -/
structure FlowTable (w : World) : Prop where
  stored : ∀ key id, (key, id) ∈ w.eng.flows ↔
    key = (w.records id).flow.key ∧ (w.records id).flow.state ≠ .closed
  keys : (w.eng.flows.map Prod.fst).Nodup
  capped : w.eng.flows.length ≤ w.eng.cfg.maxTcpFlows
  counted : w.eng.stats.tcpConnections = w.eng.flows.countP fun entry =>
    (w.records entry.2).flow.state ≠ .synRcvd ∧ (w.records entry.2).flow.state ≠ .synAckSent
  stale : ∀ id event, (w.records id).flow.state = .closed →
    (∃ call, event = .call id call) ∨ (∃ task, event = .task id task) →
    ((w.step event).records id).flow.state = .closed ∧ (w.step event).eng = w.eng ∧
      ∀ other ≠ id, (w.step event).records other = w.records other

theorem Kept.table {w : World} (kept : Kept w) : FlowTable w := by
  have untouched : ∀ id event, (w.records id).flow.state = .closed → event.isElsewhere = false →
      ((w.on id fun c => Tunio.step c event).records id).flow.state = .closed ∧
        (w.on id fun c => Tunio.step c event).eng = w.eng ∧
        ∀ other ≠ id, (w.on id fun c => Tunio.step c event).records other = w.records other := by
    intro id event closed own
    have settled : Settled (w.conn id).flow := kept.settled id closed
    have inert := Settled.path (step_inside (w.conn id) event own) settled
    refine ⟨?_, inert.eng, fun other elsewhere => w.set_other id _ elsewhere⟩
    rw [on, set_self]
    exact inert.settled.closed
  refine ⟨kept.indexed.mem_iff, kept.indexed.keys, kept.capped, ?_, ?_⟩
  · rw [kept.counted, kept.indexed.total_congr fun id isOpen => seat_open isOpen]
    exact total_countP (fun id => (w.records id).flow.state ≠ .synRcvd ∧
      (w.records id).flow.state ≠ .synAckSent) w.eng.flows
  · rintro id event closed (⟨call, rfl⟩ | ⟨task, rfl⟩)
    · unfold World.step
      dsimp only
      split
      · exact untouched id call.event closed (by cases call <;> rfl)
      · exact ⟨closed, rfl, fun _ _ => rfl⟩
    · exact untouched id task.event closed (by cases task <;> rfl)

/-- The flow table of every reachable state. -/
theorem run_flowTable (cfg : TunConfig) (account : BufferAccountant) (now : Int)
    (events : List WorldEvent) : FlowTable ((fresh cfg account now).run events) :=
  ((Kept.fresh cfg account now).run events).table

end World

end Tunio
