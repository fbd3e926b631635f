import Tunio.Directory
import Tunio.Machine
import Tunio.Udp

/-!
What the operations of the UDP engine are made of, and the invariant of its session table.
Timers, the heap and the completions of reads and sends stand aside: the core of an engine
leaves them out.
-/

namespace Tunio

open Directory Machines

/-- A session without its expiry. -/
def UdpSession.core (session : UdpSession) : UdpSession :=
  { session with timeout := 0, expiry := 0, expiryGen := 0, lastHeapPush := 0, heapLive := false }

/-- Only open sessions wait, and closed ones hold nothing. -/
structure UdpSession.Sound (session : UdpSession) : Prop where
  waiting : session.pendingAccept = true → session.closed = false
  emptied : session.closed = true →
    session.rxDatagrams = [] ∧ session.pendingReads = [] ∧ session.rxBytes = 0

def UdpSession.shut (session : UdpSession) : UdpSession :=
  { session with
    closed := true
    pendingAccept := false
    rxBytes := 0
    rxDatagrams := []
    pendingReads := [] }

namespace UdpEngine

def core (e : UdpEngine) : UdpEngine :=
  { e with
    objects := fun id => (e.objects id).core
    stats.rxDropped := 0
    expiryHeap := []
    timerWaiting := false
    armedTarget := 0
    waitGen := 0
    receives := []
    sendFailures := []
    sent := []
    now := 0 }

theorem object_core {e e' : UdpEngine} (same : e'.core = e.core) (id : SessionId) :
    (e'.objects id).core = (e.objects id).core := congrFun (congrArg UdpEngine.objects same) id

theorem object_closed {e e' : UdpEngine} (same : e'.core = e.core) (id : SessionId) :
    (e'.objects id).closed = (e.objects id).closed := by
  have closed := congrArg UdpSession.closed (object_core same id)
  exact closed

@[simp] theorem put_self (e : UdpEngine) (id : SessionId) (session : UdpSession) :
    (e.put id session).objects id = session := by simp [put]

theorem put_other (e : UdpEngine) (id : SessionId) (session : UdpSession) {other : SessionId}
    (elsewhere : other ≠ id) : (e.put id session).objects other = e.objects other := by
  unfold put
  exact Function.update_of_ne elsewhere session e.objects

theorem put_core (e : UdpEngine) (id : SessionId) (session : UdpSession)
    (same : session.core = (e.objects id).core) : (e.put id session).core = e.core := by
  have objects : (fun other => (Function.update e.objects id session other).core) =
      fun other => (e.objects other).core := by
    funext other
    by_cases here : other = id
    · rw [here, Function.update_self, same]
    · rw [Function.update_of_ne here]
  unfold core put
  rw [objects]

/-- A field that the new session shares with the old one is the same everywhere. -/
theorem put_field {β : Type} (e : UdpEngine) (id : SessionId) (session : UdpSession)
    (field : UdpSession → β) (same : field session = field (e.objects id)) (other : SessionId) :
    field ((e.put id session).objects other) = field (e.objects other) := by
  by_cases here : other = id
  · rw [here, put_self, same]
  · rw [e.put_other id session here]

/-- What holds of every session holds still when it holds of the new one. -/
theorem put_all {e : UdpEngine} (holds : UdpSession → Prop) (all : ∀ id, holds (e.objects id))
    (id : SessionId) (session : UdpSession) (here : holds session) (other : SessionId) :
    holds ((e.put id session).objects other) := by
  by_cases same : other = id
  · rw [same, put_self]
    exact here
  · rw [e.put_other id session same]
    exact all other

theorem armExpiryTimer_core (e : UdpEngine) : (armExpiryTimer e).core = e.core := by
  unfold armExpiryTimer
  dsimp only
  split
  · rfl
  · split <;> rfl

theorem refreshExpiry_core (e : UdpEngine) (id : SessionId) :
    (e.refreshExpiry id).core = e.core := by
  unfold refreshExpiry
  dsimp only
  split
  · rfl
  · split
    · exact put_core e id _ rfl
    · exact (armExpiryTimer_core _).trans (put_core e id _ rfl)

/-- Reads that are given up are completed one after the other. -/
theorem abandon_reads (e : UdpEngine) (ops : List ReceiveOp) :
    ops.foldl (fun e op => e.postReceive op.handler .operationAborted 0 [] none) e =
      { e with receives := e.receives ++ ops.map fun op =>
          { handler := op.handler, ec := .operationAborted, n := 0, data := [], sender := none } } := by
  induction ops generalizing e with
  | nil => simp
  | cons op rest ih =>
      rw [List.foldl_cons, ih]
      simp [postReceive]

/-- What removing an open session does. -/
theorem removeSession_open (e : UdpEngine) (id : SessionId) (isOpen : (e.objects id).closed = false) :
    e.removeSession id =
      { e.put id (e.objects id).shut with
        sessions := e.sessions.filter fun entry => entry.1 ≠ (e.objects id).key
        stats.udpSessions := sizeSub e.stats.udpSessions 1
        pendingNewSessions := e.withdraw (e.objects id)
        account :=
          if (e.objects id).rxBytes > 0 then e.account.release (e.objects id).rxBytes else e.account
        receives := e.receives ++ (e.objects id).pendingReads.map fun op =>
          { handler := op.handler, ec := .operationAborted, n := 0, data := [], sender := none } } := by
  unfold removeSession
  dsimp only
  rw [if_neg (by simp [isOpen]), abandon_reads]
  rfl

/-- The changes of the core. -/
inductive Effect
  | still (after : UdpEngine)
  | reads (id : SessionId) (ops : List ReceiveOp)
  | buffer (id : SessionId) (account : BufferAccountant) (datagram : Datagram)
  | take (id : SessionId) (datagram : Datagram) (rest : List Datagram)
  | remove (id : SessionId)
  | enter (key : UdpSessionKey)
  | hand (handler : HandlerId) (rest : List HandlerId) (id : SessionId)
  | enqueue (id : SessionId)
  | grant (handler : HandlerId) (node : NodeId × SessionId) (rest : List (NodeId × SessionId))
  | wait (handler : HandlerId)
  | cancel
  | share (account : BufferAccountant)

def apply (e : UdpEngine) : Effect → UdpEngine
  | .still after => after
  | .reads id ops => e.put id { e.objects id with pendingReads := ops }
  | .buffer id account datagram =>
      let session := { e.objects id with
        rxDatagrams := (e.objects id).rxDatagrams ++ [datagram]
        rxBytes := (e.objects id).rxBytes + datagram.data.length }
      { e with account := account }.put id session
  | .take id datagram rest =>
      let session := { e.objects id with
        rxDatagrams := rest
        rxBytes := sizeSub (e.objects id).rxBytes datagram.data.length }
      { e with account := e.account.release datagram.data.length }.put id session
  | .remove id => e.removeSession id
  | .enter key => e.enterSession key
  | .hand handler rest id => { e with pendingAccepts := rest }.postAccept handler .success (some id)
  | .enqueue id =>
      { e.put id { e.objects id with pendingAccept := true, pendingIt := e.nextNode } with
        pendingNewSessions := e.pendingNewSessions ++ [(e.nextNode, id)]
        nextNode := e.nextNode + 1 }
  | .grant handler node rest =>
      { e.put node.2 { e.objects node.2 with pendingAccept := false } with
        pendingNewSessions := rest }.postAccept handler .success (some node.2)
  | .wait handler => { e with pendingAccepts := e.pendingAccepts ++ [handler] }
  | .cancel => e.cancelAccepts
  | .share account => { e with account := account }

/-- No session before `id` that was announced comes after it. -/
def Newest (e : UdpEngine) (id : SessionId) : Prop :=
  (∀ node ∈ e.pendingNewSessions, node.2 < id) ∧
    ∀ completion ∈ e.accepts, ∀ other ∈ completion.session, other < id

def Permits (e : UdpEngine) : Effect → Prop
  | .still after => after.core = e.core
  | .reads id _ => (e.objects id).closed = false
  | .buffer id account datagram =>
      (e.objects id).closed = false ∧ e.account.reserve datagram.data.length = some account
  | .take id datagram rest =>
      (e.objects id).closed = false ∧ (e.objects id).rxDatagrams = datagram :: rest
  | .remove id => (e.objects id).closed = false
  | .enter key => e.sessions.length < e.cfg.maxUdpFlows ∧ ∀ entry ∈ e.sessions, entry.1 ≠ key
  | .hand handler rest id =>
      e.pendingAccepts = handler :: rest ∧ (e.objects id).closed = false ∧ e.Newest id
  | .enqueue id =>
      e.pendingAccepts = [] ∧ e.pendingNewSessions.length < maxPendingNewSessions ∧
        (e.objects id).closed = false ∧ e.Newest id
  | .grant _ node rest => e.pendingNewSessions = node :: rest ∧ (e.objects node.2).closed = false
  | .wait _ => e.pendingNewSessions = []
  | .cancel => True
  | .share _ => True

def machine : Machine UdpEngine Effect where
  enabled := Permits
  act := apply

/-- Handlers and sessions are matched. -/
def Effect.deals : Effect → Bool
  | .hand .. | .enqueue _ | .grant .. | .wait _ => true
  | _ => false

/-- The handler that comes to accept. -/
def Effect.registers : Effect → Option HandlerId
  | .grant handler _ _ => some handler
  | .wait handler => some handler
  | _ => none

/-- The budget is changed from outside only. -/
def Effect.inside : Effect → Bool
  | .share _ => false
  | effect => !effect.deals

/-- A path of effects that deal nothing. -/
abbrev Walks (before after : UdpEngine) : Prop :=
  Steps machine (fun _ effect => effect.inside = true) before after

/-- A path that may end with a deal. -/
abbrev Dealt (registered : Option HandlerId) (before after : UdpEngine) : Prop :=
  Labelled machine (fun effect => effect.inside = true) (fun effect => effect.deals = true)
    Effect.registers registered before after

theorem Dealt.deal {registered : Option HandlerId} {e : UdpEngine} (effect : Effect)
    (permits : e.Permits effect) (deals : effect.deals = true)
    (registers : effect.registers = registered) : Dealt registered e (e.apply effect) :=
  Labelled.final effect (Steps.refl e) permits deals registers

theorem Walks.act {e : UdpEngine} (effect : Effect) (permits : e.Permits effect)
    (inside : effect.inside = true) : Walks e (e.apply effect) :=
  Steps.step effect permits inside (Steps.refl _)

theorem Walks.still {before after : UdpEngine} (same : after.core = before.core) :
    Walks before after := Walks.act (.still after) same rfl

/-- Sessions are listed under their keys, waiting ones under their nodes. -/
structure Tabled (e : UdpEngine) : Prop where
  indexed : Indexed (fun id => (e.objects id).key) (fun id => (e.objects id).closed = false)
    e.sessions
  counted : e.stats.udpSessions = e.sessions.length
  capped : e.sessions.length ≤ e.cfg.maxUdpFlows
  created : ∀ id, (e.objects id).closed = false → id < e.created
  announced : ∀ completion ∈ e.accepts, ∀ id ∈ completion.session, id < e.created
  queued : Indexed (fun id => (e.objects id).pendingIt) (fun id => (e.objects id).pendingAccept = true)
    e.pendingNewSessions
  numbered : ∀ node ∈ e.pendingNewSessions, node.1 < e.nextNode
  crowd : e.pendingNewSessions.length ≤ maxPendingNewSessions
  sound : ∀ id, (e.objects id).Sound

namespace Tabled

theorem core_iff (e : UdpEngine) : Tabled e.core ↔ Tabled e := by
  constructor <;> intro tabled <;>
    exact ⟨tabled.indexed, tabled.counted, tabled.capped, tabled.created, tabled.announced,
      tabled.queued, tabled.numbered, tabled.crowd, fun id => ⟨(tabled.sound id).1, (tabled.sound id).2⟩⟩

theorem still {e after : UdpEngine} (tabled : Tabled e) (same : after.core = e.core) :
    Tabled after := (core_iff after).mp (same ▸ (core_iff e).mpr tabled)

theorem share {e : UdpEngine} (tabled : Tabled e) (account : BufferAccountant) :
    Tabled { e with account := account } :=
  ⟨tabled.indexed, tabled.counted, tabled.capped, tabled.created, tabled.announced,
    tabled.queued, tabled.numbered, tabled.crowd, tabled.sound⟩

/-- New contents of an open session. -/
theorem revise {e : UdpEngine} (tabled : Tabled e) (id : SessionId) (session : UdpSession)
    (isOpen : (e.objects id).closed = false)
    (same : session.key = (e.objects id).key ∧ session.closed = (e.objects id).closed ∧
      session.pendingAccept = (e.objects id).pendingAccept ∧
      session.pendingIt = (e.objects id).pendingIt) :
    Tabled (e.put id session) := by
  obtain ⟨key, closed, pendingAccept, pendingIt⟩ := same
  have keys := e.put_field id session UdpSession.key key
  have closes := e.put_field id session UdpSession.closed closed
  have accepts := e.put_field id session UdpSession.pendingAccept pendingAccept
  have nodes := e.put_field id session UdpSession.pendingIt pendingIt
  refine ⟨?_, tabled.counted, tabled.capped, ?_, tabled.announced, ?_, tabled.numbered,
    tabled.crowd, ?_⟩
  · exact tabled.indexed.congr (fun other _ => keys other) fun other => by rw [closes other]
  · intro other otherOpen
    exact tabled.created other ((closes other).symm.trans otherOpen)
  · exact tabled.queued.congr (fun other _ => nodes other) fun other => by rw [accepts other]
  · refine put_all _ tabled.sound id session ⟨fun _ => closed.trans isOpen, fun shut => ?_⟩
    rw [closed, isOpen] at shut
    cases shut

theorem remove {e : UdpEngine} (tabled : Tabled e) (id : SessionId)
    (isOpen : (e.objects id).closed = false) : Tabled (e.removeSession id) := by
  rw [removeSession_open e id isOpen]
  have shorter := tabled.indexed.remove_length isOpen
  have self := e.put_self id (e.objects id).shut
  have others : ∀ other ≠ id, (e.put id (e.objects id).shut).objects other = e.objects other :=
    fun other elsewhere => e.put_other id _ elsewhere
  have gone : ¬((e.put id (e.objects id).shut).objects id).closed = false := by
    rw [self]
    exact Bool.noConfusion
  have withdrawn : ¬((e.put id (e.objects id).shut).objects id).pendingAccept = true := by
    rw [self]
    exact Bool.noConfusion
  have indexed : Indexed (fun other => ((e.put id (e.objects id).shut).objects other).key)
      (fun other => ((e.put id (e.objects id).shut).objects other).closed = false)
      (e.sessions.filter fun entry => entry.1 ≠ (e.objects id).key) :=
    tabled.indexed.remove isOpen (e.put_field id _ UdpSession.key rfl) gone
      (fun other elsewhere => by rw [others other elsewhere])
  have counted : sizeSub e.stats.udpSessions 1 =
      (e.sessions.filter fun entry => entry.1 ≠ (e.objects id).key).length := by
    rw [tabled.counted, sizeSub, if_pos (by omega)]
    omega
  have queued : Indexed (fun other => ((e.put id (e.objects id).shut).objects other).pendingIt)
      (fun other => ((e.put id (e.objects id).shut).objects other).pendingAccept = true)
      (e.withdraw (e.objects id)) := by
    have nodes := e.put_field id (e.objects id).shut UdpSession.pendingIt rfl
    unfold withdraw
    split
    · rename_i pending
      exact tabled.queued.remove pending nodes withdrawn
        (fun other elsewhere => by rw [others other elsewhere])
    · rename_i alone
      refine tabled.queued.congr (fun other _ => nodes other) fun other => ?_
      by_cases here : other = id
      · subst here
        exact ⟨fun pending => absurd pending withdrawn, fun pending => absurd pending alone⟩
      · rw [others other here]
  have sublist : (e.withdraw (e.objects id)).Sublist e.pendingNewSessions := by
    unfold withdraw
    split
    · exact List.filter_sublist
    · exact List.Sublist.refl _
  refine ⟨indexed, counted, ?_, ?_, tabled.announced, queued, ?_, ?_, ?_⟩
  · exact (Nat.le_of_lt (Nat.lt_of_succ_le shorter.le)).trans tabled.capped
  · intro other otherOpen
    by_cases here : other = id
    · subst here
      exact absurd otherOpen gone
    · exact tabled.created other ((congrArg UdpSession.closed (others other here)).symm.trans otherOpen)
  · exact fun node member => tabled.numbered node (sublist.subset member)
  · exact sublist.length_le.trans tabled.crowd
  · exact put_all _ tabled.sound id _ ⟨Bool.noConfusion, fun _ => ⟨rfl, rfl, rfl⟩⟩

theorem enter {e : UdpEngine} (tabled : Tabled e) (key : UdpSessionKey)
    (permits : e.Permits (.enter key)) : Tabled (e.enterSession key) := by
  obtain ⟨room, fresh⟩ := permits
  let session := e.newSession key
  have idle : ¬(e.objects e.created).closed = false := by
    intro isOpen
    exact absurd (tabled.created e.created isOpen) (lt_irrefl _)
  have self := e.put_self e.created session
  have others : ∀ other ≠ e.created, (e.put e.created session).objects other = e.objects other :=
    fun other elsewhere => e.put_other e.created session elsewhere
  have indexed : Indexed (fun other => ((e.put e.created session).objects other).key)
      (fun other => ((e.put e.created session).objects other).closed = false)
      ((key, e.created) :: e.sessions) :=
    tabled.indexed.insert idle fresh (congrArg UdpSession.key self)
      (congrArg UdpSession.closed self)
      (fun other elsewhere => congrArg UdpSession.key (others other elsewhere))
      (fun other elsewhere => by rw [others other elsewhere])
  have queued : Indexed (fun other => ((e.put e.created session).objects other).pendingIt)
      (fun other => ((e.put e.created session).objects other).pendingAccept = true)
      e.pendingNewSessions := by
    have elsewhere : ∀ other, (e.objects other).pendingAccept = true → other ≠ e.created := by
      rintro other pending rfl
      exact idle ((tabled.sound _).waiting pending)
    refine tabled.queued.congr (fun other pending => ?_) fun other => ?_
    · rw [others other (elsewhere other pending)]
    · by_cases here : other = e.created
      · rw [here, self]
        exact ⟨Bool.noConfusion, fun pending => absurd rfl (elsewhere _ pending)⟩
      · rw [others other here]
  refine ⟨indexed, ?_, room, ?_, ?_, queued, tabled.numbered, tabled.crowd, ?_⟩
  · exact congrArg (· + 1) tabled.counted
  · intro other otherOpen
    by_cases here : other = e.created
    · rw [here]
      exact Nat.lt_succ_self _
    · have before := (congrArg UdpSession.closed (others other here)).symm.trans otherOpen
      exact Nat.lt_succ_of_lt (tabled.created other before)
  · intro completion member other announced
    exact Nat.lt_succ_of_lt (tabled.announced completion member other announced)
  · exact put_all _ tabled.sound e.created session ⟨fun _ => rfl, Bool.noConfusion⟩

theorem hand {e : UdpEngine} (tabled : Tabled e) (handler : HandlerId) (rest : List HandlerId)
    (id : SessionId) (permits : e.Permits (.hand handler rest id)) :
    Tabled (e.apply (.hand handler rest id)) := by
  obtain ⟨_, isOpen, _⟩ := permits
  refine ⟨tabled.indexed, tabled.counted, tabled.capped, tabled.created, ?_, tabled.queued,
    tabled.numbered, tabled.crowd, tabled.sound⟩
  intro completion member other announced
  rcases List.mem_append.mp member with member | member
  · exact tabled.announced completion member other announced
  · obtain rfl := List.mem_singleton.mp member
    obtain rfl := Option.mem_some.mp announced
    exact tabled.created _ isOpen

theorem enqueue {e : UdpEngine} (tabled : Tabled e) (id : SessionId)
    (permits : e.Permits (.enqueue id)) : Tabled (e.apply (.enqueue id)) := by
  obtain ⟨_, room, isOpen, newest, _⟩ := permits
  have idle : ¬(e.objects id).pendingAccept = true := by
    intro pending
    exact absurd (newest _ (tabled.queued.stored id pending)) (lt_irrefl _)
  have fresh : ∀ node ∈ e.pendingNewSessions, node.1 ≠ e.nextNode :=
    fun node member => (tabled.numbered node member).ne
  let session := { e.objects id with pendingAccept := true, pendingIt := e.nextNode }
  have self := e.put_self id session
  have others : ∀ other ≠ id, (e.put id session).objects other = e.objects other :=
    fun other elsewhere => e.put_other id session elsewhere
  have closes := e.put_field id session UdpSession.closed rfl
  have keys := e.put_field id session UdpSession.key rfl
  have queued : Indexed (fun other => ((e.put id session).objects other).pendingIt)
      (fun other => ((e.put id session).objects other).pendingAccept = true)
      (e.pendingNewSessions ++ [(e.nextNode, id)]) :=
    (tabled.queued.insert idle fresh (congrArg UdpSession.pendingIt self)
      (congrArg UdpSession.pendingAccept self)
      (fun other elsewhere => congrArg UdpSession.pendingIt (others other elsewhere))
      (fun other elsewhere => by rw [others other elsewhere])).of_perm
        (List.perm_append_singleton _ _).symm
  refine ⟨?_, tabled.counted, tabled.capped, ?_, tabled.announced, queued, ?_, ?_, ?_⟩
  · exact tabled.indexed.congr (fun other _ => keys other)
      fun other => Iff.of_eq (congrArg (· = false) (closes other))
  · intro other otherOpen
    exact tabled.created other ((closes other).symm.trans otherOpen)
  · intro node member
    rcases List.mem_append.mp member with member | member
    · exact Nat.lt_succ_of_lt (tabled.numbered node member)
    · obtain rfl := List.mem_singleton.mp member
      exact Nat.lt_succ_self _
  · show (e.pendingNewSessions ++ [(e.nextNode, id)]).length ≤ maxPendingNewSessions
    rw [List.length_append]
    exact room
  · refine put_all _ tabled.sound id session ⟨fun _ => isOpen, fun shut => ?_⟩
    exact absurd (shut.symm.trans isOpen) Bool.noConfusion

theorem grant {e : UdpEngine} (tabled : Tabled e) (handler : HandlerId) (node : NodeId × SessionId)
    (rest : List (NodeId × SessionId)) (permits : e.Permits (.grant handler node rest)) :
    Tabled (e.apply (.grant handler node rest)) := by
  obtain ⟨front, isOpen⟩ := permits
  let session := { e.objects node.2 with pendingAccept := false }
  have self := e.put_self node.2 session
  have closes := e.put_field node.2 session UdpSession.closed rfl
  have keys := e.put_field node.2 session UdpSession.key rfl
  have nodes := e.put_field node.2 session UdpSession.pendingIt rfl
  have served : ¬((e.put node.2 session).objects node.2).pendingAccept = true := by
    rw [self]
    exact Bool.noConfusion
  have queued : Indexed (fun other => ((e.put node.2 session).objects other).pendingIt)
      (fun other => ((e.put node.2 session).objects other).pendingAccept = true) rest :=
    tabled.queued.tail front nodes served
      (fun other elsewhere => by rw [e.put_other node.2 session elsewhere])
  have sublist : rest.Sublist e.pendingNewSessions := front ▸ List.sublist_cons_self node rest
  refine ⟨?_, tabled.counted, tabled.capped, ?_, ?_, queued, ?_, ?_, ?_⟩
  · exact tabled.indexed.congr (fun other _ => keys other)
      fun other => Iff.of_eq (congrArg (· = false) (closes other))
  · intro other otherOpen
    exact tabled.created other ((closes other).symm.trans otherOpen)
  · intro completion member other announced
    rcases List.mem_append.mp member with member | member
    · exact tabled.announced completion member other announced
    · obtain rfl := List.mem_singleton.mp member
      obtain rfl := Option.mem_some.mp announced
      exact tabled.created _ isOpen
  · exact fun other member => tabled.numbered other (sublist.subset member)
  · exact sublist.length_le.trans tabled.crowd
  · exact put_all _ tabled.sound node.2 session
      ⟨Bool.noConfusion, (tabled.sound node.2).emptied⟩

theorem cancel {e : UdpEngine} (tabled : Tabled e) : Tabled e.cancelAccepts := by
  refine ⟨tabled.indexed, tabled.counted, tabled.capped, tabled.created, ?_, tabled.queued,
    tabled.numbered, tabled.crowd, tabled.sound⟩
  intro completion member other announced
  rcases List.mem_append.mp member with member | member
  · exact tabled.announced completion member other announced
  · obtain ⟨handler, _, rfl⟩ := List.mem_map.mp member
    cases announced

/-- The invariant survives every effect. -/
theorem apply {e : UdpEngine} (tabled : Tabled e) (effect : UdpEngine.Effect)
    (permits : e.Permits effect) : Tabled (e.apply effect) := by
  cases effect with
  | still after => exact tabled.still permits
  | reads id ops => exact tabled.revise id _ permits ⟨rfl, rfl, rfl, rfl⟩
  | buffer id account datagram =>
      exact (tabled.share account).revise id _ permits.1 ⟨rfl, rfl, rfl, rfl⟩
  | take id datagram rest => exact (tabled.share _).revise id _ permits.1 ⟨rfl, rfl, rfl, rfl⟩
  | remove id => exact tabled.remove id permits
  | enter key => exact tabled.enter key permits
  | hand handler rest id => exact tabled.hand handler rest id permits
  | enqueue id => exact tabled.enqueue id permits
  | grant handler node rest => exact tabled.grant handler node rest permits
  | wait handler =>
      exact ⟨tabled.indexed, tabled.counted, tabled.capped, tabled.created, tabled.announced,
        tabled.queued, tabled.numbered, tabled.crowd, tabled.sound⟩
  | cancel => exact tabled.cancel
  | share account => exact tabled.share account

end Tabled

theorem Walks.tabled {before after : UdpEngine} (walk : Walks before after) (tabled : Tabled before) :
    Tabled after :=
  walk.invariant Tabled tabled fun _ effect tabled permits _ => tabled.apply effect permits

theorem Dealt.tabled {registered : Option HandlerId} {before after : UdpEngine}
    (dealt : Dealt registered before after) (tabled : Tabled before) : Tabled after :=
  dealt.invariant Tabled tabled fun _ effect tabled permits => tabled.apply effect permits

end UdpEngine

end Tunio
