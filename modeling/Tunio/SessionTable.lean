import Tunio.Sessions

/-!
The UDP session table over whole runs: every operation of the engine is a path of effects.
-/

namespace Tunio

open Directory Machines

namespace UdpEngine

/-- What a datagram does not touch when it is delivered. -/
structure Calm (e after : UdpEngine) : Prop where
  pendingAccepts : after.pendingAccepts = e.pendingAccepts
  pendingNewSessions : after.pendingNewSessions = e.pendingNewSessions
  accepts : after.accepts = e.accepts
  closes : ∀ id, (after.objects id).closed = (e.objects id).closed

namespace Calm

theorem trans {first second third : UdpEngine} (one : Calm first second) (two : Calm second third) :
    Calm first third :=
  ⟨two.pendingAccepts.trans one.pendingAccepts, two.pendingNewSessions.trans one.pendingNewSessions,
    two.accepts.trans one.accepts, fun id => (two.closes id).trans (one.closes id)⟩

theorem still {e after : UdpEngine} (same : after.core = e.core) : Calm e after := by
  have pendingAccepts := congrArg UdpEngine.pendingAccepts same
  have pendingNewSessions := congrArg UdpEngine.pendingNewSessions same
  have accepts := congrArg UdpEngine.accepts same
  exact ⟨pendingAccepts, pendingNewSessions, accepts, object_closed same⟩

end Calm

theorem deliverDatagram_calm (e : UdpEngine) (id : SessionId) (data : List UInt8)
    (sender : Endpoint) : Calm e (e.deliverDatagram id data sender) := by
  have refreshed := Calm.still (e.refreshExpiry_core id)
  unfold deliverDatagram
  split
  · exact Calm.still rfl
  · dsimp only
    generalize e.refreshExpiry id = after at refreshed ⊢
    refine refreshed.trans ?_
    split
    · rename_i rest _
      exact ⟨rfl, rfl, rfl,
        after.put_field id { after.objects id with pendingReads := rest } UdpSession.closed rfl⟩
    · split
      · exact Calm.still rfl
      · split
        · exact Calm.still rfl
        · refine ⟨rfl, rfl, rfl, ?_⟩
          exact put_field _ id { after.objects id with
            rxDatagrams := (after.objects id).rxDatagrams ++ [{ data := data, sender := sender }]
            rxBytes := (after.objects id).rxBytes + data.length } UdpSession.closed rfl

theorem Walks.refreshExpiry (e : UdpEngine) (id : SessionId) : Walks e (e.refreshExpiry id) :=
  Walks.still (e.refreshExpiry_core id)

theorem Walks.deliverDatagram (e : UdpEngine) (id : SessionId) (data : List UInt8)
    (sender : Endpoint) : Walks e (e.deliverDatagram id data sender) := by
  unfold UdpEngine.deliverDatagram
  split
  · exact Steps.refl e
  · rename_i alive
    have isOpen : ((e.refreshExpiry id).objects id).closed = false := by
      rw [object_closed (e.refreshExpiry_core id)]
      exact Bool.eq_false_of_not_eq_true alive
    refine (Walks.refreshExpiry e id).trans ?_
    dsimp only
    generalize e.refreshExpiry id = e at isOpen
    split
    · rename_i op rest _
      exact (Walks.act (.reads id rest) isOpen rfl).trans (Walks.still rfl)
    · split
      · exact Walks.still rfl
      · split
        · exact Walks.still rfl
        · rename_i account reserved
          exact Walks.act (.buffer id account { data := data, sender := sender })
            ⟨isOpen, reserved⟩ rfl

/-- Every session announced so far is older than the next one. -/
theorem Tabled.newest {e after : UdpEngine} (tabled : Tabled e)
    (queue : after.pendingNewSessions = e.pendingNewSessions) (accepts : after.accepts = e.accepts) :
    after.Newest e.created := by
  constructor
  · intro node member
    rw [queue] at member
    have pending := (tabled.queued.listed node member).2
    exact tabled.created node.2 ((tabled.sound node.2).waiting pending)
  · intro completion member id announced
    rw [accepts] at member
    exact tabled.announced completion member id announced

theorem Dealt.announceSession {e : UdpEngine} (id : SessionId)
    (isOpen : (e.objects id).closed = false) (newest : e.Newest id)
    (room : e.pendingAccepts = [] → e.pendingNewSessions.length < maxPendingNewSessions) :
    Dealt none e (e.announceSession id) := by
  unfold UdpEngine.announceSession
  split
  · rename_i handler rest waiting
    exact Dealt.deal (.hand handler rest id) ⟨waiting, isOpen, newest⟩ rfl rfl
  · rename_i waiting
    exact Dealt.deal (.enqueue id) ⟨waiting, room waiting, isOpen, newest⟩ rfl rfl

theorem Dealt.openSession {e : UdpEngine} (tabled : Tabled e) (key : UdpSessionKey)
    (data : List UInt8) (sender : Endpoint) (fresh : ∀ entry ∈ e.sessions, entry.1 ≠ key) :
    Dealt none e (e.openSession key data sender) := by
  unfold UdpEngine.openSession
  split
  · exact Labelled.walk rfl (Walks.still rfl)
  · rename_i room
    split
    · exact Labelled.walk rfl (Walks.still rfl)
    · rename_i place
      have entered : Walks e (e.enterSession key) :=
        Walks.act (.enter key) ⟨Nat.lt_of_not_ge room, fresh⟩ rfl
      have isOpen : ((e.enterSession key).objects e.created).closed = false :=
        congrArg UdpSession.closed (put_self _ e.created (e.newSession key))
      have calm := ((e.enterSession key).deliverDatagram_calm e.created data sender).trans
        (Calm.still (refreshExpiry_core _ e.created))
      have delivered := (entered.trans (Walks.deliverDatagram _ e.created data sender)).trans
        (Walks.refreshExpiry _ e.created)
      refine Labelled.after delivered (Dealt.announceSession e.created ?_ ?_ ?_)
      · exact (calm.closes e.created).trans isOpen
      · exact tabled.newest calm.pendingNewSessions calm.accepts
      · intro waiting
        have idle : e.pendingAccepts = [] := calm.pendingAccepts.symm.trans waiting
        rw [calm.pendingNewSessions]
        exact Nat.lt_of_not_ge fun full => place ⟨List.isEmpty_iff.mpr idle, full⟩

theorem Dealt.receiveDatagram {e : UdpEngine} (tabled : Tabled e) (key : UdpSessionKey)
    (data : List UInt8) (sender : Endpoint) : Dealt none e (e.receiveDatagram key data sender) := by
  unfold UdpEngine.receiveDatagram findSession
  cases found : e.sessions.find? fun entry => entry.1 = key with
  | none =>
      refine Dealt.openSession tabled key data sender fun entry member same => ?_
      exact absurd (decide_eq_true same) (List.find?_eq_none.mp found entry member)
  | some entry =>
      -- a listed session is open
      have isOpen := (tabled.indexed.listed entry (List.mem_of_find?_eq_some found)).2
      dsimp only [Option.map_some]
      rw [if_pos (by rw [isOpen]; exact Bool.false_ne_true)]
      exact Labelled.walk rfl (Walks.deliverDatagram e entry.2 data sender)

theorem Dealt.onPacket {e : UdpEngine} (tabled : Tabled e) (ip : IpPacketInfo) (uh : UdpHeader)
    (verified : Bool) (body : List UInt8) : Dealt none e (e.onPacket ip uh verified body) := by
  unfold UdpEngine.onPacket
  dsimp only
  split
  · exact Labelled.walk rfl (Walks.still rfl)
  · split
    · exact Labelled.walk rfl (Walks.still rfl)
    · exact Dealt.receiveDatagram tabled _ _ _

theorem Walks.removeSession (e : UdpEngine) (id : SessionId) : Walks e (e.removeSession id) := by
  cases closed : (e.objects id).closed with
  | true =>
      have same : e.removeSession id = e := by
        unfold UdpEngine.removeSession
        exact if_pos closed
      exact Walks.still (congrArg core same)
  | false => exact Walks.act (.remove id) closed rfl

theorem Walks.expireEntries (entries : List ExpiryEntry) (e : UdpEngine)
    (extended : List SessionId) : Walks e (UdpEngine.expireEntries entries e extended).1 := by
  induction entries generalizing e extended with
  | nil => exact Steps.refl e
  | cons top rest ih =>
      unfold UdpEngine.expireEntries
      split
      · exact Steps.refl e
      · dsimp only
        split
        · have popped : Walks e { e with expiryHeap := rest } := Walks.still rfl
          exact popped.trans (ih _ _)
        · split
          · refine (Walks.removeSession e top.session).trans (Steps.trans ?_ (ih _ _))
            exact Walks.still rfl
          · refine Steps.trans ?_ (ih _ _)
            exact Walks.still (put_core e top.session _ rfl)

theorem Walks.onExpiryTimer (e : UdpEngine) (failed : Bool) : Walks e (e.onExpiryTimer failed) := by
  have refreshes : ∀ (ids : List SessionId) (e : UdpEngine),
      Walks e (ids.foldl UdpEngine.refreshExpiry e) := by
    intro ids
    induction ids with
    | nil => exact fun e => Steps.refl e
    | cons id rest ih => exact fun e => (Walks.refreshExpiry e id).trans (ih _)
  unfold UdpEngine.onExpiryTimer
  dsimp only
  split
  · exact Walks.still (armExpiryTimer_core _)
  · have stopped : Walks e { e with timerWaiting := false } := Walks.still rfl
    exact ((stopped.trans (Walks.expireEntries _ _ _)).trans (refreshes _ _)).trans
      (Walks.still (armExpiryTimer_core _))

/-- Nothing that waits is closed, so the handler gets the session in front. -/
theorem Dealt.asyncAccept {e : UdpEngine} (tabled : Tabled e) (handler : HandlerId) :
    Dealt (some handler) e (e.asyncAccept handler) := by
  unfold UdpEngine.asyncAccept
  cases queue : e.pendingNewSessions with
  | nil =>
      have parked : Dealt (some handler) e (e.apply (.wait handler)) :=
        Dealt.deal (.wait handler) queue rfl rfl
      have same : ({ e with
          pendingNewSessions := [], pendingAccepts := e.pendingAccepts ++ [handler] } : UdpEngine) =
          e.apply (.wait handler) := by
        rw [← queue]
        rfl
      unfold acceptFrom
      rwa [same]
  | cons node rest =>
      have pending := (tabled.queued.listed node (queue ▸ List.mem_cons_self)).2
      have isOpen := (tabled.sound node.2).waiting pending
      have stillOpen : ¬((e.put node.2 { e.objects node.2 with
          pendingAccept := false }).objects node.2).closed = true := by
        rw [put_self]
        exact ne_true_of_eq_false isOpen
      unfold acceptFrom
      exact (if_neg stillOpen).symm ▸
        Dealt.deal (.grant handler node rest) ⟨queue, isOpen⟩ rfl rfl

/-- Sessions that are removed one after the other. -/
theorem Walks.removeSessions (ids : List SessionId) (e : UdpEngine) :
    Walks e (ids.foldl UdpEngine.removeSession e) := by
  induction ids generalizing e with
  | nil => exact Steps.refl e
  | cons id rest ih => exact (Walks.removeSession e id).trans (ih _)

theorem removeSession_closed (e : UdpEngine) (id other : SessionId) :
    ((e.removeSession id).objects other).closed =
      (decide (other = id) || (e.objects other).closed) := by
  cases closed : (e.objects id).closed with
  | true =>
      have same : e.removeSession id = e := by
        unfold UdpEngine.removeSession
        exact if_pos closed
      rw [same]
      by_cases here : other = id <;> simp [here, closed]
  | false =>
      have objects : (e.removeSession id).objects = (e.put id (e.objects id).shut).objects := by
        rw [removeSession_open e id closed]
      rw [objects]
      by_cases here : other = id
      · subst here
        rw [put_self, decide_eq_true rfl, Bool.true_or]
        rfl
      · rw [e.put_other id _ here, decide_eq_false here, Bool.false_or]

theorem removeSessions_closed (ids : List SessionId) (e : UdpEngine) (other : SessionId) :
    ((ids.foldl UdpEngine.removeSession e).objects other).closed =
      (decide (other ∈ ids) || (e.objects other).closed) := by
  induction ids generalizing e with
  | nil => simp
  | cons id rest ih =>
      rw [List.foldl_cons, ih, removeSession_closed]
      by_cases here : other = id <;> simp [here]

/-- With every session closed nothing waits any more. -/
theorem Tabled.deserted {e : UdpEngine} (tabled : Tabled e)
    (shut : ∀ id, (e.objects id).closed = true) : e.pendingNewSessions = [] := by
  refine List.eq_nil_iff_forall_not_mem.mpr fun node member => ?_
  have isOpen := (tabled.sound node.2).waiting (tabled.queued.listed node member).2
  exact absurd (isOpen.symm.trans (shut node.2)) Bool.noConfusion

theorem Walks.closeAll {e : UdpEngine} (tabled : Tabled e) : Walks e e.closeAll := by
  have stopped : Walks e { e with timerWaiting := false } := Walks.still rfl
  have removed := stopped.trans (Walks.removeSessions (e.sessions.map Prod.snd) _)
  have deserted := (Walks.tabled removed tabled).deserted fun id => by
    rw [removeSessions_closed, Bool.or_eq_true, decide_eq_true_iff, or_iff_not_imp_right]
    intro isOpen
    exact List.mem_map_of_mem (tabled.indexed.stored id (Bool.eq_false_of_not_eq_true isOpen))
  unfold UdpEngine.closeAll
  dsimp only
  generalize (e.sessions.map Prod.snd).foldl UdpEngine.removeSession
    { e with timerWaiting := false } = after at removed deserted ⊢
  have cleared : ({ after with pendingNewSessions := [] } : UdpEngine) = after := by
    rw [← deserted]
  rw [cleared]
  exact (removed.trans (Walks.act .cancel trivial rfl)).trans (Walks.still rfl)

theorem Walks.setTimeout (e : UdpEngine) (id : SessionId) (timeout : Int) :
    Walks e (e.setTimeout id timeout) := by
  unfold UdpEngine.setTimeout
  split
  · exact Steps.refl e
  · have changed : Walks e (e.put id { e.objects id with timeout := timeout }) :=
      Walks.still (put_core e id _ rfl)
    exact changed.trans (Walks.refreshExpiry _ id)

theorem Walks.startReceive (e : UdpEngine) (id : SessionId) (buffers : List Nat)
    (handler : HandlerId) : Walks e (e.startReceive id buffers handler) := by
  unfold UdpEngine.startReceive
  dsimp only
  split
  · exact Walks.still rfl
  · rename_i alive
    have isOpen := Bool.eq_false_of_not_eq_true alive
    split
    · rename_i datagram rest queue
      exact (Walks.act (.take id datagram rest) ⟨isOpen, queue⟩ rfl).trans (Walks.still rfl)
    · exact Walks.act (.reads id _) isOpen rfl

theorem Walks.startSend (e : UdpEngine) (id : SessionId) (remote : Endpoint)
    (payload : List UInt8) (handler : HandlerId) :
    Walks e (e.startSend id remote payload handler) := by
  unfold UdpEngine.startSend
  dsimp only
  split
  · exact Walks.still rfl
  · split
    · exact Walks.still rfl
    · split
      · exact Walks.still rfl
      · split
        · exact Walks.still rfl
        · exact (Walks.refreshExpiry e id).trans (Walks.still rfl)

/-- Every step of the engine itself is a path of effects with at most one deal. -/
theorem step_dealt {e : UdpEngine} (tabled : Tabled e) (event : UdpEvent) :
    (∃ account, event = .elsewhere account) ∨ Dealt event.registers e (e.step event) := by
  cases event with
  | elsewhere account => exact Or.inl ⟨account, rfl⟩
  | packet ip uh verified body => exact Or.inr (Dealt.onPacket tabled ip uh verified body)
  | runt => exact Or.inr (Labelled.walk rfl (Walks.still rfl))
  | asyncAccept handler => exact Or.inr (Dealt.asyncAccept tabled handler)
  | cancelAccepts => exact Or.inr (Labelled.walk rfl (Walks.act .cancel trivial rfl))
  | closeAll => exact Or.inr (Labelled.walk rfl (Walks.closeAll tabled))
  | receive id buffers handler =>
      exact Or.inr (Labelled.walk rfl (Walks.startReceive e id buffers handler))
  | send id remote payload handler =>
      exact Or.inr (Labelled.walk rfl (Walks.startSend e id remote payload handler))
  | setTimeout id timeout => exact Or.inr (Labelled.walk rfl (Walks.setTimeout e id timeout))
  | close id => exact Or.inr (Labelled.walk rfl (Walks.removeSession e id))
  | expiryTimer gen failed =>
      refine Or.inr (Labelled.walk rfl ?_)
      unfold UdpEngine.step
      dsimp only
      split
      · exact Walks.onExpiryTimer e failed
      · exact Steps.refl e
  | tick millis => exact Or.inr (Labelled.walk rfl (Walks.still rfl))

theorem Tabled.step {e : UdpEngine} (tabled : Tabled e) (event : UdpEvent) :
    Tabled (e.step event) := by
  rcases step_dealt tabled event with ⟨account, rfl⟩ | dealt
  · exact tabled.share account
  · exact Dealt.tabled dealt tabled

theorem Tabled.run {e : UdpEngine} (tabled : Tabled e) (events : List UdpEvent) :
    Tabled (e.run events) := by
  induction events generalizing e with
  | nil => exact tabled
  | cons event rest ih => exact ih (tabled.step event)

/-- An engine nothing has happened to. -/
def fresh (cfg : TunConfig) (account : BufferAccountant) (now : Int) : UdpEngine :=
  { cfg := cfg, account := account, now := now }

theorem Tabled.fresh (cfg : TunConfig) (account : BufferAccountant) (now : Int) :
    Tabled (fresh cfg account now) := by
  refine ⟨Indexed.empty _ ?_, rfl, Nat.zero_le _, ?_, ?_, Indexed.empty _ ?_, ?_, Nat.zero_le _, ?_⟩
  · exact fun _ => Bool.noConfusion
  · exact fun _ => Bool.noConfusion
  · intro completion member
    cases member
  · exact fun _ => Bool.noConfusion
  · intro node member
    cases member
  · exact fun _ => ⟨Bool.noConfusion, fun _ => ⟨rfl, rfl, rfl⟩⟩

/-- What the tables say about the sessions. -/
structure SessionTable (e : UdpEngine) : Prop where
  stored : ∀ key id, (key, id) ∈ e.sessions ↔ key = (e.objects id).key ∧ (e.objects id).closed = false
  keys : (e.sessions.map Prod.fst).Nodup
  counted : e.stats.udpSessions = e.sessions.length
  capped : e.sessions.length ≤ e.cfg.maxUdpFlows
  crowd : e.pendingNewSessions.length ≤ maxPendingNewSessions
  waiting : ∀ id, (e.objects id).pendingAccept = true ↔
    id ∈ e.pendingNewSessions.map Prod.snd ∧ (e.objects id).closed = false
  placed : ∀ node id, (node, id) ∈ e.pendingNewSessions → node = (e.objects id).pendingIt ∧
    (e.pendingNewSessions.map Prod.snd).count id = 1 ∧ (e.objects id).closed = false
  nodes : (e.pendingNewSessions.map Prod.fst).Nodup
  emptied : ∀ id, (e.objects id).closed = true → (e.objects id).rxDatagrams = [] ∧
    (e.objects id).pendingReads = [] ∧ (e.objects id).rxBytes = 0

theorem Tabled.table {e : UdpEngine} (tabled : Tabled e) : SessionTable e := by
  refine ⟨tabled.indexed.mem_iff, tabled.indexed.keys, tabled.counted, tabled.capped,
    tabled.crowd, ?_, ?_, tabled.queued.keys, fun id => (tabled.sound id).emptied⟩
  · intro id
    constructor
    · intro pending
      exact ⟨List.mem_map_of_mem (tabled.queued.stored id pending),
        (tabled.sound id).waiting pending⟩
    · rintro ⟨member, _⟩
      obtain ⟨node, nodeMember, rfl⟩ := List.mem_map.mp member
      exact (tabled.queued.listed node nodeMember).2
  · intro node id member
    obtain ⟨place, pending⟩ := (tabled.queued.mem_iff node id).mp member
    exact ⟨place, List.count_eq_one_of_mem tabled.queued.nodup (List.mem_map_of_mem member),
      (tabled.sound id).waiting pending⟩

/-- The session table of every reachable state. -/
theorem run_sessionTable (cfg : TunConfig) (account : BufferAccountant) (now : Int)
    (events : List UdpEvent) : SessionTable ((fresh cfg account now).run events) :=
  ((Tabled.fresh cfg account now).run events).table

end UdpEngine

end Tunio
