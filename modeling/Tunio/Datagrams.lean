import Tunio.Course
import Tunio.Desk
import Tunio.SessionTable
import Tunio.Stored

/-!
Datagrams and the receives of a session.  A session is a desk: the first datagram that it takes
goes to the first receive, the second one to the second, and what is left when the session is
closed is discarded.
-/

namespace Tunio

open Courses Desks Directory

namespace UdpEngine

/-! The session that a packet is for. -/

/-- The datagram of a packet that passes the tests, with the key of its session. -/
def datagramOf (ip : IpPacketInfo) (uh : UdpHeader) (verified : Bool) (body : List UInt8) :
    Option (UdpSessionKey × Datagram) :=
  let udpLen := uh.length.toNat
  if udpLen < udpHeaderSize ∨ udpLen > udpHeaderSize + body.length then none
  else if (ip.family = 6 ∧ uh.checksum = 0) ∨ (uh.checksum ≠ 0 ∧ ¬verified) then none
  else
    some ({ srcIp := addressOf ip.family ip.srcIp, srcPort := uh.srcPort, family := ip.family },
      { data := body.take (udpLen - udpHeaderSize)
        sender := {
          isV6 := ip.family = 6
          address := addressOf ip.family ip.dstIp
          port := uh.dstPort } })

/-- No session can be opened. -/
def Crowded (e : UdpEngine) : Prop :=
  e.sessions.length ≥ e.cfg.maxUdpFlows ∨
    (e.pendingAccepts.isEmpty ∧ e.pendingNewSessions.length ≥ maxPendingNewSessions)

instance (e : UdpEngine) : Decidable e.Crowded := inferInstanceAs (Decidable (_ ∨ _))

/-- The session of a key, or the one that is opened for it. -/
def addressee (e : UdpEngine) (key : UdpSessionKey) : Option SessionId :=
  match e.findSession key with
  | some id => some id
  | none => if e.Crowded then none else some e.created

def arrival (e : UdpEngine) : UdpEvent → Option (SessionId × Datagram)
  | .packet ip uh verified body =>
      match datagramOf ip uh verified body with
      | none => none
      | some (key, datagram) => (e.addressee key).map fun id => (id, datagram)
  | _ => none

/-- A session is opened for a datagram. -/
def welcome (e : UdpEngine) (key : UdpSessionKey) (datagram : Datagram) : UdpEngine :=
  announceSession (((e.enterSession key).deliverDatagram e.created datagram.data
    datagram.sender).refreshExpiry e.created) e.created

theorem onPacket_eq (e : UdpEngine) (ip : IpPacketInfo) (uh : UdpHeader) (verified : Bool)
    (body : List UInt8) : e.onPacket ip uh verified body =
      match datagramOf ip uh verified body with
      | none => e.drop
      | some (key, datagram) => e.receiveDatagram key datagram.data datagram.sender := by
  unfold onPacket datagramOf
  dsimp only
  split
  · rfl
  · split <;> rfl

theorem openSession_eq (e : UdpEngine) (key : UdpSessionKey) (datagram : Datagram) :
    e.openSession key datagram.data datagram.sender =
      if e.Crowded then e.drop else e.welcome key datagram := by
  unfold openSession
  by_cases full : e.sessions.length ≥ e.cfg.maxUdpFlows
  · have crowded : e.Crowded := Or.inl full
    rw [if_pos full, if_pos crowded]
  · rw [if_neg full]
    by_cases waiting : e.pendingAccepts.isEmpty ∧ e.pendingNewSessions.length ≥ maxPendingNewSessions
    · have crowded : e.Crowded := Or.inr waiting
      rw [if_pos waiting, if_pos crowded]
    · have room : ¬e.Crowded := not_or.mpr ⟨full, waiting⟩
      rw [if_neg waiting, if_neg room]
      rfl

/-- A datagram is dropped, or it is delivered to an open session, or one is opened for it. -/
theorem step_packet {e : UdpEngine} (tabled : Tabled e) (ip : IpPacketInfo) (uh : UdpHeader)
    (verified : Bool) (body : List UInt8) :
    (e.arrival (.packet ip uh verified body) = none ∧
        e.step (.packet ip uh verified body) = e.drop) ∨
      (∃ id datagram, e.arrival (.packet ip uh verified body) = some (id, datagram) ∧
        (e.objects id).closed = false ∧
        e.step (.packet ip uh verified body) =
          e.deliverDatagram id datagram.data datagram.sender) ∨
      ∃ key datagram, e.arrival (.packet ip uh verified body) = some (e.created, datagram) ∧
        ¬e.Crowded ∧ (∀ entry ∈ e.sessions, entry.1 ≠ key) ∧
        e.step (.packet ip uh verified body) = e.welcome key datagram := by
  have made : e.step (.packet ip uh verified body) = e.onPacket ip uh verified body := rfl
  rw [made, onPacket_eq]
  simp only [arrival]
  cases datagramOf ip uh verified body with
  | none => exact Or.inl ⟨rfl, rfl⟩
  | some parsed =>
      obtain ⟨key, datagram⟩ := parsed
      dsimp only
      unfold receiveDatagram addressee findSession
      cases found : e.sessions.find? fun entry => entry.1 = key with
      | some entry =>
          have isOpen := (tabled.indexed.listed entry (List.mem_of_find?_eq_some found)).2
          refine Or.inr (Or.inl ⟨entry.2, datagram, rfl, isOpen, ?_⟩)
          simp [isOpen]
      | none =>
          have fresh : ∀ entry ∈ e.sessions, entry.1 ≠ key := by
            intro entry member same
            exact absurd (decide_eq_true same) (List.find?_eq_none.mp found entry member)
          dsimp only [Option.map_none]
          rw [openSession_eq]
          by_cases crowded : e.Crowded
          · simp [crowded]
          · refine Or.inr (Or.inr ⟨key, datagram, ?_, crowded, fresh, ?_⟩)
            · simp [crowded]
            · simp [crowded]

/-! What a session is asked for, and what comes for it. -/

/-- A datagram that has to wait has no room in the queue of the session or in the budget. -/
def Refuses (e : UdpEngine) (id : SessionId) (size : Nat) : Prop :=
  (e.objects id).pendingReads = [] ∧
    ((e.objects id).rxBytes + size > e.cfg.maxRxQueuePerFlow ∨ e.account.reserve size = none)

instance (e : UdpEngine) (id : SessionId) (size : Nat) : Decidable (e.Refuses id size) :=
  inferInstanceAs (Decidable (_ ∧ _))

@[simp] theorem enterSession_self (e : UdpEngine) (key : UdpSessionKey) :
    (e.enterSession key).objects e.created = e.newSession key := Function.update_self _ _ _

/-- Nothing waits at a session that does not exist yet. -/
theorem Tabled.unborn {e : UdpEngine} (tabled : Tabled e) :
    (e.objects e.created).pendingReads = [] ∧ (e.objects e.created).rxBytes = 0 := by
  have closed : (e.objects e.created).closed = true := by
    by_contra isOpen
    exact Nat.lt_irrefl _ (tabled.created e.created (Bool.eq_false_of_not_eq_true isOpen))
  exact ((tabled.sound e.created).emptied closed).2

theorem refuses_new {e : UdpEngine} (tabled : Tabled e) (key : UdpSessionKey) (size : Nat) :
    e.Refuses e.created size ↔ (e.enterSession key).Refuses e.created size := by
  obtain ⟨reads, rxBytes⟩ := tabled.unborn
  unfold Refuses
  rw [enterSession_self, reads, rxBytes]
  exact Iff.rfl

/-- The datagram that arrives for a session and is not refused. -/
def comes (id : SessionId) (e : UdpEngine) (event : UdpEvent) : List Datagram :=
  match e.arrival event with
  | none => []
  | some (other, datagram) =>
      if other = id ∧ ¬e.Refuses id datagram.data.length then [datagram] else []

/-- The receive that is started on a session that is open. -/
def asks (id : SessionId) (e : UdpEngine) : UdpEvent → List ReceiveOp
  | .receive other buffers handler =>
      if other = id ∧ (e.objects id).closed = false then
        [{ buffers := buffers, total := buffers.sum, handler := handler }]
      else []
  | _ => []

/-- A receive that gets a datagram. -/
def answer (op : ReceiveOp) (datagram : Datagram) : ReceiveCompletion :=
  let copied := copyOut op.buffers (min datagram.data.length op.total) datagram.data
  { handler := op.handler
    ec := .success
    n := copied.flatten.length
    data := copied
    sender := some datagram.sender }

/-- A receive that is given up. -/
def abandon (op : ReceiveOp) : ReceiveCompletion :=
  { handler := op.handler, ec := .operationAborted, n := 0, data := [], sender := none }

/-- How the receives of a session complete, in their order. -/
def outcome (closed : Bool) (asked : List ReceiveOp) (came : List Datagram) :
    List ReceiveCompletion :=
  ((asked.zip came).map fun pair => answer pair.1 pair.2) ++
    if closed then (asked.drop came.length).map abandon else []

/-- The completions that belong to a session. -/
def owned (id : SessionId) (posted : List (Option SessionId × ReceiveCompletion)) :
    List ReceiveCompletion :=
  (posted.filter fun entry => entry.1 = some id).map Prod.snd

/-- What was asked for and what came are matched up so far, and the rest waits. -/
structure Matched (session : UdpSession) (asked : List ReceiveOp) (came : List Datagram)
    (done : List ReceiveCompletion) : Prop where
  done : done = outcome session.closed asked came
  waits : session.closed = false →
    session.pendingReads = asked.drop came.length ∧ session.rxDatagrams = came.drop asked.length

/-- Each completion belongs to a session, but for those of receives that were not started. -/
structure Tally (asked : SessionId → List ReceiveOp) (came : SessionId → List Datagram)
    (posted : List (Option SessionId × ReceiveCompletion)) (e : UdpEngine) : Prop where
  receives : posted.map Prod.snd = e.receives
  refused : ∀ entry ∈ posted, entry.1 = none → entry.2.ec = .badDescriptor ∧ entry.2.data = []
  sessions : ∀ id, Matched (e.objects id) (asked id) (came id) (owned id posted)
  unborn : ∀ id, e.created ≤ id → asked id = [] ∧ came id = []

theorem owned_append (id : SessionId)
    (posted more : List (Option SessionId × ReceiveCompletion)) :
    owned id (posted ++ more) = owned id posted ++ owned id more := by
  simp [owned]

theorem owned_self (id : SessionId) (more : List ReceiveCompletion) :
    owned id (more.map fun completion => (some id, completion)) = more := by
  induction more with
  | nil => rfl
  | cons completion rest ih => simpa [owned] using ih

theorem owned_other {id other : SessionId} (apart : other ≠ id) (more : List ReceiveCompletion) :
    owned other (more.map fun completion => (some id, completion)) = [] := by
  simp [owned, apart.symm]

theorem core_fields {session after : UdpSession} (same : after.core = session.core) :
    after.closed = session.closed ∧ after.pendingReads = session.pendingReads ∧
      after.rxDatagrams = session.rxDatagrams ∧ after.rxBytes = session.rxBytes := by
  cases session
  cases after
  simp_all [UdpSession.core]

/-- What the receives of a session depend on. -/
def letters (session : UdpSession) : Bool × List ReceiveOp × List Datagram :=
  (session.closed, session.pendingReads, session.rxDatagrams)

theorem core_letters {session after : UdpSession} (same : after.core = session.core) :
    letters after = letters session := by
  obtain ⟨closed, reads, datagrams, _⟩ := core_fields same
  simp [letters, closed, reads, datagrams]

theorem core_account {e after : UdpEngine} (same : after.core = e.core) :
    after.created = e.created ∧ after.account = e.account ∧ after.cfg = e.cfg := by
  cases e
  cases after
  simp_all [core]

theorem Matched.congr {session after : UdpSession} {asked : List ReceiveOp} {came : List Datagram}
    {done : List ReceiveCompletion} (matched : Matched session asked came done)
    (same : letters after = letters session) : Matched after asked came done := by
  simp only [letters, Prod.mk.injEq] at same
  obtain ⟨closed, reads, datagrams⟩ := same
  constructor
  · rw [closed]
    exact matched.done
  · rw [closed, reads, datagrams]
    exact matched.waits

/-! An open session as a desk. -/

def complete : ReceiveOp × Option Datagram → ReceiveCompletion
  | (op, some datagram) => answer op datagram
  | (op, none) => abandon op

def sessionDesk (session : UdpSession) (asked : List ReceiveOp) (came : List Datagram) :
    Desk ReceiveOp Datagram :=
  { waiting := session.pendingReads
    items := session.rxDatagrams
    served := (asked.zip came).map fun pair => (pair.1, some pair.2) }

theorem Matched.paired {session : UdpSession} {asked : List ReceiveOp} {came : List Datagram}
    {done : List ReceiveCompletion} (matched : Matched session asked came done)
    (isOpen : session.closed = false) : Desk.Paired asked came (sessionDesk session asked came) :=
  ⟨rfl, (matched.waits isOpen).1, (matched.waits isOpen).2⟩

theorem Matched.of_paired {session : UdpSession} {asked : List ReceiveOp} {came : List Datagram}
    {served : List (ReceiveOp × Option Datagram)} {done : List ReceiveCompletion}
    (paired : Desk.Paired asked came
      { waiting := session.pendingReads, items := session.rxDatagrams, served := served })
    (isOpen : session.closed = false) (completed : done = served.map complete) :
    Matched session asked came done := by
  have dealt : served = (asked.zip came).map fun pair => (pair.1, some pair.2) := paired.served
  constructor
  · simp [completed, dealt, outcome, isOpen, complete]
  · exact fun _ => ⟨paired.waiting, paired.items⟩

section

variable {session : UdpSession} {asked : List ReceiveOp} {came : List Datagram}
  {done : List ReceiveCompletion}

theorem Matched.completed (matched : Matched session asked came done)
    (isOpen : session.closed = false) : done = (sessionDesk session asked came).served.map complete := by
  simp [matched.done, outcome, isOpen, sessionDesk, complete]

theorem Matched.fill (matched : Matched session asked came done) (isOpen : session.closed = false)
    {op : ReceiveOp} {rest : List ReceiveOp} (front : session.pendingReads = op :: rest)
    (datagram : Datagram) :
    Matched { session with pendingReads := rest } asked (came ++ [datagram])
      (done ++ [answer op datagram]) := by
  have paired := (matched.paired isOpen).arrive datagram
  have completed := matched.completed isOpen
  rw [Desk.arrive_some front] at paired
  exact Matched.of_paired paired isOpen (by simp [completed, sessionDesk, complete])

theorem Matched.store (matched : Matched session asked came done) (isOpen : session.closed = false)
    (idle : session.pendingReads = []) (datagram : Datagram) (rxBytes : Nat) :
    Matched { session with
        rxDatagrams := session.rxDatagrams ++ [datagram], rxBytes := rxBytes }
      asked (came ++ [datagram]) done := by
  have paired := (matched.paired isOpen).arrive datagram
  have completed := matched.completed isOpen
  rw [Desk.arrive_none idle] at paired
  exact Matched.of_paired paired isOpen completed

theorem Matched.take (matched : Matched session asked came done) (isOpen : session.closed = false)
    {datagram : Datagram} {rest : List Datagram} (front : session.rxDatagrams = datagram :: rest)
    (op : ReceiveOp) (rxBytes : Nat) :
    Matched { session with rxDatagrams := rest, rxBytes := rxBytes } (asked ++ [op]) came
      (done ++ [answer op datagram]) := by
  have paired := (matched.paired isOpen).register op
  have completed := matched.completed isOpen
  rw [Desk.register_some front] at paired
  exact Matched.of_paired paired isOpen (by simp [completed, sessionDesk, complete])

theorem Matched.wait (matched : Matched session asked came done) (isOpen : session.closed = false)
    (empty : session.rxDatagrams = []) (op : ReceiveOp) :
    Matched { session with pendingReads := session.pendingReads ++ [op] } (asked ++ [op]) came
      done := by
  have paired := (matched.paired isOpen).register op
  have completed := matched.completed isOpen
  rw [Desk.register_none empty] at paired
  exact Matched.of_paired paired isOpen completed

theorem Matched.shut (matched : Matched session asked came done) (isOpen : session.closed = false) :
    Matched session.shut asked came (done ++ session.pendingReads.map abandon) := by
  constructor
  · rw [(matched.waits isOpen).1, matched.done]
    simp [outcome, isOpen, UdpSession.shut]
  · intro still
    cases still

end

section

variable {asked asked' : SessionId → List ReceiveOp} {came came' : SessionId → List Datagram}
  {posted : List (Option SessionId × ReceiveCompletion)} {e after : UdpEngine}

theorem Tally.congr (tally : Tally asked came posted e)
    (objects : ∀ id, letters (after.objects id) = letters (e.objects id))
    (receives : after.receives = e.receives) (created : after.created = e.created) :
    Tally asked came posted after := by
  constructor
  · rw [receives]
    exact tally.receives
  · exact tally.refused
  · exact fun id => (tally.sessions id).congr (objects id)
  · rw [created]
    exact tally.unborn

/-- What happens to one session leaves the others as they are. -/
theorem Tally.revise (tally : Tally asked came posted e) (id : SessionId)
    (more : List ReceiveCompletion) (receives : after.receives = e.receives ++ more)
    (created : after.created = e.created) (born : id < e.created)
    (others : ∀ other ≠ id, letters (after.objects other) = letters (e.objects other) ∧
      asked' other = asked other ∧ came' other = came other)
    (matched : Matched (after.objects id) (asked' id) (came' id) (owned id posted ++ more)) :
    Tally asked' came' (posted ++ more.map fun completion => (some id, completion)) after := by
  constructor
  · rw [receives, List.map_append, tally.receives]
    simp
  · intro entry member none
    rcases List.mem_append.mp member with before | later
    · exact tally.refused entry before none
    · obtain ⟨completion, _, rfl⟩ := List.mem_map.mp later
      cases none
  · intro other
    rw [owned_append]
    by_cases here : other = id
    · subst here
      rwa [owned_self]
    · obtain ⟨same, asks, comes⟩ := others other here
      rw [owned_other here, List.append_nil, asks, comes]
      exact (tally.sessions other).congr same
  · intro other unborn
    rw [created] at unborn
    obtain ⟨_, asks, comes⟩ := others other (Nat.ne_of_gt (Nat.lt_of_lt_of_le born unborn))
    rw [asks, comes]
    exact tally.unborn other unborn

/-- The completions so far can be told apart by session. -/
def Answered (asked : SessionId → List ReceiveOp) (came : SessionId → List Datagram)
    (e : UdpEngine) : Prop := ∃ posted, Tally asked came posted e

namespace Answered

theorem still (answered : Answered asked came e) (same : after.core = e.core)
    (receives : after.receives = e.receives) : Answered asked came after := by
  obtain ⟨posted, tally⟩ := answered
  have created := congrArg UdpEngine.created same
  exact ⟨posted, tally.congr (fun id => core_letters (object_core same id)) receives created⟩

theorem refreshExpiry_receives (e : UdpEngine) (id : SessionId) :
    (e.refreshExpiry id).receives = e.receives := by
  simp only [refreshExpiry, armExpiryTimer]
  split
  · rfl
  · split
    · rfl
    · split
      · rfl
      · split <;> rfl

theorem armExpiryTimer_receives (e : UdpEngine) : e.armExpiryTimer.receives = e.receives := by
  simp only [armExpiryTimer]
  split
  · rfl
  · split <;> rfl

theorem refresh (answered : Answered asked came e) (id : SessionId) :
    Answered asked came (e.refreshExpiry id) :=
  answered.still (refreshExpiry_core e id) (refreshExpiry_receives e id)

theorem remove (answered : Answered asked came e) (tabled : Tabled e) (id : SessionId) :
    Answered asked came (e.removeSession id) := by
  cases closed : (e.objects id).closed with
  | true =>
      have same : e.removeSession id = e := by
        unfold removeSession
        exact if_pos closed
      rwa [same]
  | false =>
      obtain ⟨posted, tally⟩ := answered
      rw [removeSession_open e id closed]
      refine ⟨_, tally.revise id ((e.objects id).pendingReads.map abandon) rfl rfl
        (tabled.created id closed) ?_ ?_⟩
      · intro other apart
        exact ⟨congrArg letters (e.put_other id _ apart), rfl, rfl⟩
      · have object : ((e.put id (e.objects id).shut).objects id) = (e.objects id).shut :=
          e.put_self id _
        change Matched ((e.put id (e.objects id).shut).objects id) _ _ _
        rw [object]
        exact (tally.sessions id).shut closed

/-- A datagram for an open session: it is taken unless it is refused. -/
theorem deliver (answered : Answered asked came e) (id : SessionId) (datagram : Datagram)
    (isOpen : (e.objects id).closed = false) (born : id < e.created)
    (others : ∀ other ≠ id, came' other = came other)
    (here : came' id = came id ++ if e.Refuses id datagram.data.length then [] else [datagram]) :
    Answered asked came' (e.deliverDatagram id datagram.data datagram.sender) := by
  have same := refreshExpiry_core e id
  obtain ⟨created, account, cfg⟩ := core_account same
  obtain ⟨_, reads, _, queued⟩ := core_fields (object_core same id)
  have refuses : e.Refuses id datagram.data.length ↔
      (e.refreshExpiry id).Refuses id datagram.data.length := by
    unfold Refuses
    rw [account, cfg, queued, reads]
  rw [← created] at born
  have stillOpen := (object_closed same id).trans isOpen
  obtain ⟨posted, tally⟩ := answered.refresh id
  have matched := tally.sessions id
  simp only [refuses] at here
  unfold deliverDatagram
  rw [if_neg (by simp [isOpen])]
  dsimp only
  generalize e.refreshExpiry id = e at tally matched stillOpen here born ⊢
  split
  · rename_i op rest front
    have taken : ¬e.Refuses id datagram.data.length := by
      intro refused
      rw [refused.1] at front
      cases front
    rw [if_neg taken] at here
    refine ⟨_, tally.revise id [answer op datagram] rfl rfl born ?_ ?_⟩
    · intro other apart
      exact ⟨congrArg letters (e.put_other id _ apart), rfl, others other apart⟩
    · rw [here]
      change Matched ((e.put id _).objects id) _ _ _
      rw [put_self]
      exact matched.fill stillOpen front datagram
  · rename_i idle
    have unchanged (refused : e.Refuses id datagram.data.length) : came' = came := by
      funext other
      by_cases apart : other = id
      · rw [apart, here, if_pos refused, List.append_nil]
      · exact others other apart
    split
    · rename_i full
      rw [unchanged ⟨idle, Or.inl full⟩]
      exact Answered.still ⟨posted, tally⟩ rfl rfl
    · rename_i room
      split
      · rename_i none
        rw [unchanged ⟨idle, Or.inr none⟩]
        exact Answered.still ⟨posted, tally⟩ rfl rfl
      · rename_i account made
        have taken : ¬e.Refuses id datagram.data.length := by
          simp [Refuses, room, made]
        rw [if_neg taken] at here
        refine ⟨_, tally.revise id [] (List.append_nil _).symm rfl born ?_ ?_⟩
        · intro other apart
          exact ⟨congrArg letters (e.put_other id _ apart), rfl, others other apart⟩
        · rw [here, List.append_nil]
          change Matched ((e.put id _).objects id) _ _ _
          rw [put_self]
          exact matched.store stillOpen idle datagram _

theorem enter (answered : Answered asked came e) (key : UdpSessionKey) :
    Answered asked came (e.enterSession key) := by
  obtain ⟨posted, tally⟩ := answered
  obtain ⟨noneAsked, noneCame⟩ := tally.unborn e.created (Nat.le_refl _)
  have object := e.enterSession_self key
  refine ⟨posted, tally.receives, tally.refused, fun id => ?_, fun id unborn => ?_⟩
  · by_cases here : id = e.created
    · subst here
      have done := (tally.sessions e.created).done
      rw [noneAsked, noneCame] at done ⊢
      rw [object]
      constructor
      · simp [done, outcome]
      · simp [newSession]
    · have same : (e.enterSession key).objects id = e.objects id := Function.update_of_ne here _ _
      rw [same]
      exact tally.sessions id
  · exact tally.unborn id (Nat.le_of_succ_le unborn)

theorem announce (answered : Answered asked came e) (id : SessionId) :
    Answered asked came (e.announceSession id) := by
  obtain ⟨posted, tally⟩ := answered
  unfold announceSession
  split
  · exact ⟨posted, tally.congr (fun _ => rfl) rfl rfl⟩
  · exact ⟨posted, tally.congr (fun other => e.put_field id { e.objects id with
      pendingAccept := true, pendingIt := e.nextNode } letters rfl other) rfl rfl⟩

/-- A session is opened for a datagram, which is taken unless it is refused. -/
theorem welcome (answered : Answered asked came e) (tabled : Tabled e) (key : UdpSessionKey)
    (datagram : Datagram) (others : ∀ other ≠ e.created, came' other = came other)
    (here : came' e.created =
      came e.created ++ if e.Refuses e.created datagram.data.length then [] else [datagram]) :
    Answered asked came' (e.welcome key datagram) := by
  simp only [refuses_new tabled key] at here
  have isOpen : ((e.enterSession key).objects e.created).closed = false := by
    rw [enterSession_self]
    rfl
  have delivered := (answered.enter key).deliver e.created datagram isOpen (Nat.lt_succ_self _)
    others here
  exact (delivered.refresh e.created).announce e.created

/-- A receive gets the datagram in front, or it waits, unless the session is closed. -/
theorem receive (answered : Answered asked came e) (tabled : Tabled e) (id : SessionId)
    (buffers : List Nat) (handler : HandlerId) :
    Answered (fun other => asked other ++ asks other e (.receive id buffers handler)) came
      (e.startReceive id buffers handler) := by
  obtain ⟨posted, tally⟩ := answered
  unfold startReceive
  dsimp only
  by_cases closed : (e.objects id).closed = true
  · have none : (fun other => asked other ++ asks other e (.receive id buffers handler)) = asked := by
      funext other
      by_cases here : id = other
      · subst here
        simp [asks, closed]
      · simp [asks, here]
    rw [none, if_pos closed]
    let failed : ReceiveCompletion :=
      { handler := handler, ec := .badDescriptor, n := 0, data := [], sender := .none }
    refine ⟨posted ++ [(.none, failed)], ?_, ?_, ?_, tally.unborn⟩
    · rw [List.map_append, tally.receives]
      rfl
    · intro entry member unowned
      rcases List.mem_append.mp member with before | last
      · exact tally.refused entry before unowned
      · rw [List.mem_singleton.mp last]
        exact ⟨rfl, rfl⟩
    · intro other
      have same : owned other (posted ++ [(.none, failed)]) = owned other posted := by
        simp [owned]
      rw [same]
      exact tally.sessions other
  · have isOpen := Bool.eq_false_of_not_eq_true closed
    have matched := tally.sessions id
    have born := tabled.created id isOpen
    have others : ∀ other ≠ id,
        asked other ++ asks other e (.receive id buffers handler) = asked other := by
      intro other apart
      simp [asks, apart.symm]
    have here : asked id ++ asks id e (.receive id buffers handler) =
        asked id ++ [{ buffers := buffers, total := buffers.sum, handler := handler }] := by
      simp [asks, isOpen]
    rw [if_neg closed]
    split
    · rename_i datagram rest front
      refine ⟨_, tally.revise id [answer
        { buffers := buffers, total := buffers.sum, handler := handler } datagram] rfl rfl
        born ?_ ?_⟩
      · intro other apart
        exact ⟨congrArg letters (e.put_other id _ apart), others other apart, rfl⟩
      · rw [here]
        change Matched ((e.put id _).objects id) _ _ _
        rw [put_self]
        exact matched.take isOpen front _ _
    · rename_i empty
      refine ⟨_, tally.revise id [] (List.append_nil _).symm rfl born ?_ ?_⟩
      · intro other apart
        exact ⟨congrArg letters (e.put_other id _ apart), others other apart, rfl⟩
      · rw [here, List.append_nil]
        rw [put_self]
        exact matched.wait isOpen empty _

theorem expire (answered : Answered asked came e) (tabled : Tabled e) (failed : Bool) :
    Answered asked came (e.onExpiryTimer failed) := by
  have entries (heap : List ExpiryEntry) (extended : List SessionId) (e : UdpEngine)
      (tabled : Tabled e) (answered : Answered asked came e) :
      Answered asked came (expireEntries heap e extended).1 := by
    induction heap generalizing e extended with
    | nil => exact answered
    | cons top rest ih =>
        unfold expireEntries
        split
        · exact answered
        · dsimp only
          split
          · exact ih _ _ (tabled.still rfl) (answered.still rfl rfl)
          · split
            · have removed := Walks.tabled (Walks.removeSession e top.session) tabled
              exact ih _ _ (removed.still rfl) ((answered.remove tabled top.session).still rfl rfl)
            · have same := put_core e top.session { e.objects top.session with heapLive := false } rfl
              exact ih _ _ (tabled.still same) (answered.still same rfl)
  have refreshes (ids : List SessionId) (e : UdpEngine) (answered : Answered asked came e) :
      Answered asked came (ids.foldl refreshExpiry e) := by
    induction ids generalizing e with
    | nil => exact answered
    | cons id rest ih => exact ih _ (answered.refresh id)
  have stopped : Answered asked came { e with timerWaiting := false } := answered.still rfl rfl
  unfold onExpiryTimer
  dsimp only
  split
  · exact stopped.still (armExpiryTimer_core _) (armExpiryTimer_receives _)
  · have examined := entries e.expiryHeap [] { e with timerWaiting := false } (tabled.still rfl) stopped
    exact (refreshes _ _ examined).still (armExpiryTimer_core _) (armExpiryTimer_receives _)

theorem closeAll (answered : Answered asked came e) (tabled : Tabled e) :
    Answered asked came e.closeAll := by
  have removes (ids : List SessionId) (e : UdpEngine) (tabled : Tabled e)
      (answered : Answered asked came e) : Answered asked came (ids.foldl removeSession e) := by
    induction ids generalizing e with
    | nil => exact answered
    | cons id rest ih =>
        exact ih _ (Walks.tabled (Walks.removeSession e id) tabled) (answered.remove tabled id)
  have stopped : Answered asked came { e with timerWaiting := false } := answered.still rfl rfl
  have calm : Tabled { e with timerWaiting := false } := tabled.still rfl
  obtain ⟨posted, tally⟩ := removes (e.sessions.map Prod.snd) _ calm stopped
  exact ⟨posted, tally.congr (fun _ => rfl) rfl rfl⟩

theorem accept (answered : Answered asked came e) (handler : HandlerId) :
    Answered asked came (e.asyncAccept handler) := by
  have accepts (queue : List (NodeId × SessionId)) (e : UdpEngine)
      (answered : Answered asked came e) : Answered asked came (acceptFrom queue e handler) := by
    induction queue generalizing e with
    | nil =>
        obtain ⟨posted, tally⟩ := answered
        exact ⟨posted, tally.congr (fun _ => rfl) rfl rfl⟩
    | cons node rest ih =>
        obtain ⟨posted, tally⟩ := answered
        have popped : Answered asked came { e.put node.2 { e.objects node.2 with
            pendingAccept := false } with pendingNewSessions := rest } :=
          ⟨posted, tally.congr (fun other => e.put_field node.2 { e.objects node.2 with
            pendingAccept := false } letters rfl other) rfl rfl⟩
        unfold acceptFrom
        dsimp only
        split
        · exact ih _ popped
        · obtain ⟨posted, tally⟩ := popped
          exact ⟨posted, tally.congr (fun _ => rfl) rfl rfl⟩
  exact accepts e.pendingNewSessions e answered

theorem send (answered : Answered asked came e) (id : SessionId) (remote : Endpoint)
    (payload : List UInt8) (handler : HandlerId) :
    Answered asked came (e.startSend id remote payload handler) := by
  unfold startSend
  dsimp only
  split
  · exact answered.still rfl rfl
  · split
    · exact answered.still rfl rfl
    · split
      · exact answered.still rfl rfl
      · split
        · exact answered.still rfl rfl
        · exact (answered.refresh id).still rfl rfl

theorem setTimeout (answered : Answered asked came e) (id : SessionId) (timeout : Int) :
    Answered asked came (e.setTimeout id timeout) := by
  unfold UdpEngine.setTimeout
  split
  · exact answered
  · have changed := put_core e id { e.objects id with timeout := timeout } rfl
    exact (answered.still changed rfl).refresh id

theorem packet (answered : Answered asked came e) (tabled : Tabled e) (ip : IpPacketInfo)
    (uh : UdpHeader) (verified : Bool) (body : List UInt8) :
    Answered asked (fun id => came id ++ comes id e (.packet ip uh verified body))
      (e.step (.packet ip uh verified body)) := by
  rcases step_packet tabled ip uh verified body with ⟨none, same⟩ |
    ⟨id, datagram, some, isOpen, same⟩ | ⟨key, datagram, some, _, _, same⟩
  · rw [same]
    have nothing : (fun id => came id ++ comes id e (.packet ip uh verified body)) = came := by
      funext id
      simp [comes, none]
    rw [nothing]
    exact answered.still rfl rfl
  · rw [same]
    refine answered.deliver id datagram isOpen (tabled.created id isOpen) (fun other apart => ?_) ?_
    · simp [comes, some, apart.symm]
    · by_cases refused : e.Refuses id datagram.data.length <;> simp [comes, some, refused]
  · rw [same]
    refine answered.welcome tabled key datagram (fun other apart => ?_) ?_
    · simp [comes, some, apart.symm]
    · by_cases refused : e.Refuses e.created datagram.data.length <;> simp [comes, some, refused]

/-- Whatever happens, what was asked for and what came are matched up. -/
theorem step (answered : Answered asked came e) (tabled : Tabled e) (event : UdpEvent) :
    Answered (fun id => asked id ++ asks id e event) (fun id => came id ++ comes id e event)
      (e.step event) := by
  cases event with
  | packet ip uh verified body =>
      simp only [asks, List.append_nil]
      exact answered.packet tabled ip uh verified body
  | receive id buffers handler =>
      simp only [comes, arrival, List.append_nil]
      exact answered.receive tabled id buffers handler
  | runt | cancelAccepts | tick millis | elsewhere account =>
      simp only [asks, comes, arrival, List.append_nil]
      obtain ⟨posted, tally⟩ := answered
      exact ⟨posted, tally.congr (fun _ => rfl) rfl rfl⟩
  | asyncAccept handler =>
      simp only [asks, comes, arrival, List.append_nil]
      exact answered.accept handler
  | closeAll =>
      simp only [asks, comes, arrival, List.append_nil]
      exact answered.closeAll tabled
  | send id remote payload handler =>
      simp only [asks, comes, arrival, List.append_nil]
      exact answered.send id remote payload handler
  | setTimeout id timeout =>
      simp only [asks, comes, arrival, List.append_nil]
      exact answered.setTimeout id timeout
  | close id =>
      simp only [asks, comes, arrival, List.append_nil]
      exact answered.remove tabled id
  | expiryTimer gen failed =>
      simp only [asks, comes, arrival, List.append_nil]
      unfold UdpEngine.step
      dsimp only
      split
      · exact answered.expire tabled failed
      · exact answered

theorem run (answered : Answered asked came e) (tabled : Tabled e) (events : List UdpEvent) :
    Answered (fun id => asked id ++ collected UdpEngine.step (asks id) e events)
      (fun id => came id ++ collected UdpEngine.step (comes id) e events) (e.run events) := by
  induction events generalizing e asked came with
  | nil => simpa [collected, UdpEngine.run] using answered
  | cons event rest ih =>
      have next := ih (answered.step tabled event) (tabled.step event)
      simpa [collected, UdpEngine.run] using next

theorem fresh (cfg : TunConfig) (account : BufferAccountant) (now : Int) :
    Answered (fun _ => []) (fun _ => []) (fresh cfg account now) := by
  refine ⟨[], rfl, by simp, fun _ => ⟨rfl, fun isOpen => ?_⟩, fun _ _ => ⟨rfl, rfl⟩⟩
  cases isOpen

end Answered

end

/-- A receive that was started gets the first bytes of its datagram, as far as there is room. -/
theorem asks_answer {id : SessionId} {e : UdpEngine} {events : List UdpEvent} {op : ReceiveOp}
    (asked : op ∈ collected step (asks id) e events) (datagram : Datagram) :
    (answer op datagram).data.flatten = datagram.data.take (min datagram.data.length op.total) ∧
      (answer op datagram).n = min datagram.data.length op.total := by
  have sized : op.total = op.buffers.sum := by
    induction events generalizing e with
    | nil => cases asked
    | cons event rest ih =>
        rcases List.mem_append.mp asked with here | later
        · unfold asks at here
          split at here
          · split at here
            · rw [List.mem_singleton.mp here]
            · cases here
          · cases here
        · exact ih later
  have copied := copyOut_flatten op.buffers (min datagram.data.length op.total) datagram.data
    (by omega) (by omega)
  constructor
  · exact copied
  · simp [answer, copied]

/-- Every completion belongs to one session, but for the receives that found theirs closed.  Of
the receives started on a session the first got the first of the datagrams taken for it, the
second got the second, and so on.  While the session is open the others wait on the one side
only; once it is closed they have been given up, and the datagrams that are left are discarded. -/
theorem run_datagrams (cfg : TunConfig) (account : BufferAccountant) (now : Int)
    (events : List UdpEvent) :
    let start := fresh cfg account now
    let e := start.run events
    let asked := fun id => collected step (asks id) start events
    let came := fun id => collected step (comes id) start events
    ∃ posted : List (Option SessionId × ReceiveCompletion),
      posted.map Prod.snd = e.receives ∧
      (∀ entry ∈ posted, entry.1 = none → entry.2.ec = .badDescriptor ∧ entry.2.data = []) ∧
      ∀ id,
        owned id posted = outcome (e.objects id).closed (asked id) (came id) ∧
        (∀ op ∈ asked id, ∀ datagram,
          (answer op datagram).data.flatten =
              datagram.data.take (min datagram.data.length op.total) ∧
            (answer op datagram).n = min datagram.data.length op.total) ∧
        ((e.objects id).closed = false →
          (e.objects id).pendingReads = (asked id).drop (came id).length ∧
            (e.objects id).rxDatagrams = (came id).drop (asked id).length) ∧
        ((e.objects id).closed = true →
          (e.objects id).pendingReads = [] ∧ (e.objects id).rxDatagrams = []) ∧
        ((e.objects id).pendingReads = [] ∨ (e.objects id).rxDatagrams = []) := by
  intro start e asked came
  have tabled := Tabled.fresh cfg account now
  obtain ⟨posted, tally⟩ := (Answered.fresh cfg account now).run tabled events
  simp only [List.nil_append] at tally
  refine ⟨posted, tally.receives, tally.refused, fun id => ?_⟩
  have matched := tally.sessions id
  have emptied := ((tabled.run events).sound id).emptied
  have discarded (closed : (e.objects id).closed = true) :
      (e.objects id).pendingReads = [] ∧ (e.objects id).rxDatagrams = [] :=
    ⟨(emptied closed).2.1, (emptied closed).1⟩
  refine ⟨matched.done, fun op member => asks_answer member, matched.waits, discarded, ?_⟩
  by_cases closed : (e.objects id).closed = true
  · exact Or.inl (discarded closed).1
  · exact (matched.paired (Bool.eq_false_of_not_eq_true closed)).idle

end UdpEngine

end Tunio
