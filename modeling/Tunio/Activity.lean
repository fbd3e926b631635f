import Tunio.Backlog
import Tunio.Expiry

/-!
What the expiry of a session means: the time of its last activity plus its timeout, as long as
the timer never comes upon a session that has been refreshed since its entry was pushed.
-/

namespace Tunio

open Courses

namespace UdpEngine

/-- A send that is not refused. -/
def Sends (e : UdpEngine) (id : SessionId) (remote : Endpoint) (payload : List UInt8) : Prop :=
  (e.objects id).closed = false ∧ (e.objects id).key.family = Endpoint.family remote ∧
    udpHeaderSize + payload.length ≤ 65535 ∧
      (payload.length ≤ e.maxUdpPayload (e.objects id).key.family ∨ (e.objects id).key.family = 4)

instance (e : UdpEngine) (id : SessionId) (remote : Endpoint) (payload : List UInt8) :
    Decidable (e.Sends id remote payload) := inferInstanceAs (Decidable (_ ∧ _ ∧ _ ∧ _))

/-- The session that an event is activity of. -/
def touches (e : UdpEngine) : UdpEvent → Option SessionId
  | .packet ip uh verified body => (e.arrival (.packet ip uh verified body)).map Prod.fst
  | .send id remote payload _ => if e.Sends id remote payload then some id else none
  | .setTimeout id _ => if (e.objects id).closed = false then some id else none
  | _ => none

/-- The times at which a session was active. -/
def activity (id : SessionId) (e : UdpEngine) (event : UdpEvent) : List Int :=
  if e.touches event = some id then [e.now] else []

/-- The timer comes upon an entry that is due, of a session that expires later. -/
def Extends (e : UdpEngine) : UdpEvent → Prop
  | .expiryTimer gen failed =>
      gen = e.waitGen ∧ failed = false ∧ ∃ entry ∈ e.expiryHeap,
        (entry.deadline ≤ e.now ∧ e.stale entry = false) ∧
          e.now < (e.objects entry.session).expiry ∧
            (e.objects entry.session).expiry ≠ e.now + (e.objects entry.session).timeout * 1000
  | _ => False

instance (e : UdpEngine) (event : UdpEvent) : Decidable (Extends e event) :=
  match event with
  | .expiryTimer _ _ => inferInstanceAs (Decidable (_ ∧ _ ∧ _))
  | .packet .. | .runt | .asyncAccept _ | .cancelAccepts | .closeAll | .receive .. | .send ..
  | .setTimeout .. | .close _ | .tick _ | .elsewhere _ => isFalse id

/-! What each step does to the expiry of a session. -/

/-- What decides when a session is removed. -/
structure Dues where
  closed : Bool
  timeout : Int
  expiry : Int

def dues (e : UdpEngine) (id : SessionId) : Dues :=
  { closed := (e.objects id).closed
    timeout := (e.objects id).timeout
    expiry := (e.objects id).expiry }

/-- The session of the id has become active, if there is one, and the others are as before or
closed. -/
def Touched (active : Option SessionId) (e after : UdpEngine) : Prop :=
  ∀ id, (after.objects id).closed = false →
    if active = some id then
      (after.objects id).expiry = e.now + (after.objects id).timeout * 1000
    else after.dues id = e.dues id

variable {e after : UdpEngine}

theorem put_dues (e : UdpEngine) (id : SessionId) (session : UdpSession)
    (closed : session.closed = (e.objects id).closed)
    (timeout : session.timeout = (e.objects id).timeout)
    (expiry : session.expiry = (e.objects id).expiry) (other : SessionId) :
    (e.put id session).dues other = e.dues other := by
  unfold dues
  rw [e.put_field id session UdpSession.closed closed,
    e.put_field id session UdpSession.timeout timeout,
    e.put_field id session UdpSession.expiry expiry]

theorem Touched.none_of (same : ∀ id, (after.objects id).closed = false → after.dues id = e.dues id) :
    Touched none e after := by
  intro id isOpen
  rw [if_neg (by simp)]
  exact same id isOpen

/-- A session that is refreshed is active. -/
theorem refresh_touches (id : SessionId) :
    Touched (some id) e (e.refreshExpiry id) ∧ ∀ other ≠ id, (e.refreshExpiry id).dues other = e.dues other := by
  have elsewhere (other : SessionId) (apart : other ≠ id) :
      (e.refreshExpiry id).dues other = e.dues other := by
    unfold dues
    rw [refresh_object e apart]
  refine ⟨fun other isOpen => ?_, elsewhere⟩
  by_cases here : other = id
  · subst here
    rw [if_pos rfl]
    rcases refreshExpiry_cases e other with ⟨closed, same⟩ | ⟨_, _, same⟩ | ⟨_, _, same⟩
    · rw [same, closed] at isOpen
      cases isOpen
    · rw [same, put_self]
      rfl
    · rw [same, arm_objects]
      have object := e.put_self other { e.renewed other with
        expiryGen := (e.objects other).expiryGen + 1, heapLive := true, lastHeapPush := e.now }
      change ((e.put other _).objects other).expiry = e.now + ((e.put other _).objects other).timeout * 1000
      rw [object]
      rfl
  · rw [if_neg (by simp [Ne.symm here])]
    exact elsewhere other here

theorem Touched.still {active : Option SessionId} {middle : UdpEngine}
    (touched : Touched active e middle) (same : ∀ id, after.dues id = middle.dues id) :
    Touched active e after := by
  intro id isOpen
  have closed : (after.objects id).closed = (middle.objects id).closed :=
    congrArg Dues.closed (same id)
  have timeout : (after.objects id).timeout = (middle.objects id).timeout :=
    congrArg Dues.timeout (same id)
  have expiry : (after.objects id).expiry = (middle.objects id).expiry :=
    congrArg Dues.expiry (same id)
  rw [closed] at isOpen
  rw [expiry, timeout, same id]
  exact touched id isOpen

theorem Touched.refresh (e : UdpEngine) (id : SessionId) :
    Touched (some id) e (e.refreshExpiry id) := (refresh_touches id).1

theorem remove_dues (id other : SessionId) :
    ((e.removeSession id).objects other).closed = false →
      (e.removeSession id).dues other = e.dues other := by
  intro isOpen
  unfold dues
  rw [(removeSession_object isOpen).1]

theorem deliver_touches (id : SessionId) (isOpen : (e.objects id).closed = false)
    (data : List UInt8) (sender : Endpoint) :
    Touched (some id) e (e.deliverDatagram id data sender) := by
  have touched := Touched.refresh e id
  unfold deliverDatagram
  rw [if_neg (by simp [isOpen])]
  dsimp only
  generalize e.refreshExpiry id = middle at touched ⊢
  split
  · rename_i op rest _
    exact touched.still fun other =>
      put_dues middle id { middle.objects id with pendingReads := rest } rfl rfl rfl other
  · split
    · exact touched.still fun _ => rfl
    · split
      · exact touched.still fun _ => rfl
      · exact touched.still fun other => put_dues middle id { middle.objects id with
          rxDatagrams := (middle.objects id).rxDatagrams ++ [{ data := data, sender := sender }]
          rxBytes := (middle.objects id).rxBytes + data.length } rfl rfl rfl other

theorem now_refresh (e : UdpEngine) (id : SessionId) : (e.refreshExpiry id).now = e.now := by
  rcases refreshExpiry_cases e id with ⟨_, same⟩ | ⟨_, _, same⟩ | ⟨_, _, same⟩
  · rw [same]
  · rw [same]
    rfl
  · rw [same, arm_now]
    rfl

theorem now_deliver (e : UdpEngine) (id : SessionId) (data : List UInt8) (sender : Endpoint) :
    (e.deliverDatagram id data sender).now = e.now := by
  unfold deliverDatagram
  split
  · rfl
  · dsimp only
    split
    · exact now_refresh e id
    · split
      · exact now_refresh e id
      · split <;> exact now_refresh e id

theorem welcome_touches (key : UdpSessionKey) (datagram : Datagram) :
    Touched (some e.created) e (e.welcome key datagram) := by
  have entered (other : SessionId) (apart : other ≠ e.created) :
      (e.enterSession key).objects other = e.objects other := Function.update_of_ne apart _ _
  have isOpen : ((e.enterSession key).objects e.created).closed = false := by
    rw [enterSession_self]
    rfl
  have delivered := deliver_touches e.created isOpen datagram.data datagram.sender
  have at_ := now_deliver (e.enterSession key) e.created datagram.data datagram.sender
  have touched : Touched (some e.created) e (((e.enterSession key).deliverDatagram e.created
      datagram.data datagram.sender).refreshExpiry e.created) := by
    intro other stillOpen
    by_cases here : other = e.created
    · have refreshed := (refresh_touches e.created).1 other stillOpen
      rw [if_pos (congrArg some here.symm)] at refreshed ⊢
      rw [refreshed, at_]
      rfl
    · have before := (refresh_touches (e := (e.enterSession key).deliverDatagram e.created
        datagram.data datagram.sender) e.created).2 other here
      rw [if_neg (by simp [Ne.symm here])]
      rw [before]
      have closed := congrArg Dues.closed before
      have left := delivered other (closed.symm.trans stillOpen)
      rw [if_neg (by simp [Ne.symm here])] at left
      rw [left]
      unfold dues
      rw [entered other here]
  unfold welcome
  generalize ((e.enterSession key).deliverDatagram e.created datagram.data
    datagram.sender).refreshExpiry e.created = middle at touched ⊢
  unfold announceSession
  split
  · exact touched.still fun _ => rfl
  · exact touched.still fun other => put_dues middle e.created { middle.objects e.created with
      pendingAccept := true, pendingIt := middle.nextNode } rfl rfl rfl other

theorem packet_touches (tabled : Tabled e) (ip : IpPacketInfo) (uh : UdpHeader) (verified : Bool)
    (body : List UInt8) :
    Touched (e.touches (.packet ip uh verified body)) e (e.step (.packet ip uh verified body)) := by
  have active : e.touches (.packet ip uh verified body) =
      (e.arrival (.packet ip uh verified body)).map Prod.fst := rfl
  rw [active]
  rcases step_packet tabled ip uh verified body with ⟨none, same⟩ |
    ⟨id, datagram, some, isOpen, same⟩ | ⟨key, datagram, some, _, _, same⟩
  · rw [same, none]
    exact Touched.none_of fun _ _ => rfl
  · rw [same, some]
    exact deliver_touches id isOpen datagram.data datagram.sender
  · rw [same, some]
    exact welcome_touches key datagram

theorem send_touches (id : SessionId) (remote : Endpoint) (payload : List UInt8)
    (handler : HandlerId) :
    Touched (e.touches (.send id remote payload handler)) e
      (e.startSend id remote payload handler) := by
  have refused (fails : ¬e.Sends id remote payload) :
      e.touches (.send id remote payload handler) = none := if_neg fails
  unfold startSend
  dsimp only
  split
  · rename_i closed
    rw [refused fun sends => absurd (sends.1.symm.trans closed) Bool.noConfusion]
    exact Touched.none_of fun _ _ => rfl
  · rename_i alive
    split
    · rename_i family
      rw [refused fun sends => family sends.2.1]
      exact Touched.none_of fun _ _ => rfl
    · rename_i family
      split
      · rename_i long
        rw [refused fun sends => absurd sends.2.2.1 (Nat.not_le.mpr long)]
        exact Touched.none_of fun _ _ => rfl
      · rename_i short
        split
        · rename_i oversized
          simp only [decide_eq_true_eq] at oversized
          rw [refused fun sends => sends.2.2.2.elim (fun fits => by omega) oversized.2]
          exact Touched.none_of fun _ _ => rfl
        · rename_i fits
          simp only [decide_eq_true_eq, not_and_or, not_not, Nat.not_lt] at fits
          have sends : e.Sends id remote payload :=
            ⟨Bool.eq_false_of_not_eq_true alive, not_not.mp family, Nat.not_lt.mp short, fits⟩
          rw [show e.touches (.send id remote payload handler) = some id from if_pos sends]
          exact (Touched.refresh e id).still fun _ => rfl

theorem setTimeout_touches (id : SessionId) (timeout : Int) :
    Touched (e.touches (.setTimeout id timeout)) e (e.setTimeout id timeout) := by
  have active : e.touches (.setTimeout id timeout) =
      if (e.objects id).closed = false then some id else none := rfl
  rw [active]
  unfold UdpEngine.setTimeout
  by_cases closed : (e.objects id).closed = true
  · rw [if_pos closed, if_neg (by simp [closed])]
    exact Touched.none_of fun _ _ => rfl
  · rw [if_neg closed, if_pos (Bool.eq_false_of_not_eq_true closed)]
    intro other isOpen
    have touched := Touched.refresh (e.put id { e.objects id with timeout := timeout }) id other isOpen
    by_cases here : other = id
    · rw [if_pos (congrArg some here.symm)] at touched ⊢
      exact touched
    · rw [if_neg (by simp [Ne.symm here])] at touched ⊢
      rw [touched]
      unfold dues
      rw [e.put_other id _ here]

/-! The timer has gone off. -/

/-- What the loop of `on_expiry_timer` does to the sessions: each is as it was, but for those that
are closed since they have expired. -/
def Examined (e after : UdpEngine) : Prop :=
  after.now = e.now ∧ ∀ id,
    (after.dues id = e.dues id ∧ (after.objects id).expiryGen = (e.objects id).expiryGen) ∨
      ((after.objects id).closed = true ∧ (e.objects id).expiry ≤ e.now)

/-- The session has an entry in the list that is due, but expires later. -/
def Outlives (e : UdpEngine) (entries : List ExpiryEntry) (id : SessionId) : Prop :=
  ∃ entry ∈ entries, entry.session = id ∧ (entry.deadline ≤ e.now ∧ e.stale entry = false) ∧
    e.now < (e.objects id).expiry

theorem Examined.refl (e : UdpEngine) : Examined e e := ⟨rfl, fun _ => Or.inl ⟨rfl, rfl⟩⟩

theorem Examined.trans {middle : UdpEngine} (first : Examined e middle)
    (second : Examined middle after) : Examined e after := by
  refine ⟨second.1.trans first.1, fun id => ?_⟩
  rcases first.2 id with ⟨dues, gen⟩ | ⟨closed, expired⟩
  · rcases second.2 id with ⟨dues', gen'⟩ | ⟨closed', expired'⟩
    · exact Or.inl ⟨dues'.trans dues, gen'.trans gen⟩
    · have expiry : (middle.objects id).expiry = (e.objects id).expiry := congrArg Dues.expiry dues
      rw [expiry, first.1] at expired'
      exact Or.inr ⟨closed', expired'⟩
  · rcases second.2 id with ⟨dues', _⟩ | ⟨closed', _⟩
    · have same : (after.objects id).closed = (middle.objects id).closed :=
        congrArg Dues.closed dues'
      exact Or.inr ⟨same.trans closed, expired⟩
    · exact Or.inr ⟨closed', expired⟩

/-- What is live later was live before. -/
theorem Outlives.before {middle : UdpEngine} {entries : List ExpiryEntry} {id : SessionId}
    (examined : Examined e middle) (outlives : Outlives middle entries id) :
    Outlives e entries id := by
  obtain ⟨entry, member, named, ⟨due, live⟩, early⟩ := outlives
  obtain ⟨now, kept⟩ := examined
  subst named
  unfold stale at live
  rcases kept entry.session with ⟨dues, gen⟩ | ⟨closed, _⟩
  · have closed : (middle.objects entry.session).closed = (e.objects entry.session).closed :=
      congrArg Dues.closed dues
    have expiry : (middle.objects entry.session).expiry = (e.objects entry.session).expiry :=
      congrArg Dues.expiry dues
    rw [closed, gen] at live
    rw [expiry, now] at early
    rw [now] at due
    exact ⟨entry, member, rfl, ⟨due, live⟩, early⟩
  · rw [closed] at live
    cases live

theorem expireEntries_examined (entries : List ExpiryEntry) (e : UdpEngine)
    (extended : List SessionId) :
    let result := expireEntries entries e extended
    Examined e result.1 ∧ ∀ id ∈ result.2, id ∈ extended ∨ Outlives e entries id := by
  induction entries generalizing e extended with
  | nil => exact ⟨Examined.refl e, fun id member => Or.inl member⟩
  | cons top rest ih =>
      have outlives {middle : UdpEngine} (examined : Examined e middle) {id : SessionId}
          (later : Outlives middle rest id) : Outlives e (top :: rest) id := by
        obtain ⟨entry, member, due⟩ := later.before examined
        exact ⟨entry, List.mem_cons_of_mem _ member, due⟩
      unfold expireEntries
      split
      · exact ⟨Examined.refl e, fun id member => Or.inl member⟩
      · rename_i due
        dsimp only
        split
        · have popped : Examined e { e with expiryHeap := rest } := Examined.refl e
          obtain ⟨examined, extends_⟩ := ih { e with expiryHeap := rest } extended
          exact ⟨popped.trans examined, fun id member =>
            (extends_ id member).imp_right (outlives popped)⟩
        · rename_i live
          split
          · rename_i expired
            have popped : Examined e { e.removeSession top.session with expiryHeap := rest } := by
              refine ⟨(removeSession_heap e top.session).2.2.2, fun id => ?_⟩
              by_cases closed : ((e.removeSession top.session).objects id).closed = true
              · by_cases here : id = top.session
                · subst here
                  exact Or.inr ⟨closed, expired⟩
                · left
                  have object : (e.removeSession top.session).objects id = e.objects id := by
                    rw [removeSession_open e top.session
                      (Bool.or_eq_false_iff.mp (Bool.eq_false_of_not_eq_true live)).1]
                    exact e.put_other top.session _ here
                  exact ⟨by simp only [dues]; rw [object], congrArg UdpSession.expiryGen object⟩
              · have object :=
                  (removeSession_object (Bool.eq_false_of_not_eq_true closed)).1
                left
                exact ⟨by simp only [dues]; rw [object], congrArg UdpSession.expiryGen object⟩
            obtain ⟨examined, extends_⟩ := ih _ extended
            exact ⟨popped.trans examined, fun id member =>
              (extends_ id member).imp_right (outlives popped)⟩
          · rename_i unexpired
            have popped : Examined e { e.put top.session { e.objects top.session with
                heapLive := false } with expiryHeap := rest } :=
              ⟨rfl, fun id => Or.inl ⟨put_dues e top.session
                { e.objects top.session with heapLive := false } rfl rfl rfl id,
                e.put_field top.session { e.objects top.session with heapLive := false }
                  UdpSession.expiryGen rfl id⟩⟩
            obtain ⟨examined, extends_⟩ := ih _ (extended ++ [top.session])
            refine ⟨popped.trans examined, fun id member => ?_⟩
            rcases extends_ id member with old | later
            · rcases List.mem_append.mp old with old | new
              · exact Or.inl old
              · obtain rfl := List.mem_singleton.mp new
                exact Or.inr ⟨top, List.mem_cons_self, rfl,
                  ⟨Int.not_lt.mp due, Bool.eq_false_of_not_eq_true live⟩, Int.not_le.mp unexpired⟩
            · exact Or.inr (outlives popped later)

/-- A refresh at the time of the last activity changes nothing that matters. -/
theorem refreshes_dues (ids : List SessionId) (e : UdpEngine)
    (punctual : ∀ id ∈ ids, (e.objects id).closed = false →
      (e.objects id).expiry = e.now + (e.objects id).timeout * 1000) (id : SessionId) :
    (ids.foldl refreshExpiry e).dues id = e.dues id := by
  induction ids generalizing e with
  | nil => rfl
  | cons first rest ih =>
      have same (other : SessionId) : (e.refreshExpiry first).dues other = e.dues other := by
        by_cases here : other = first
        · subst here
          rcases refreshExpiry_cases e other with ⟨_, same⟩ | ⟨isOpen, _, same⟩ | ⟨isOpen, _, same⟩
          · rw [same]
          · have expiry := punctual other List.mem_cons_self isOpen
            rw [same]
            exact put_dues e other (e.renewed other) rfl rfl expiry.symm other
          · have expiry := punctual other List.mem_cons_self isOpen
            rw [same]
            unfold dues
            rw [arm_objects]
            exact put_dues e other { e.renewed other with
              expiryGen := (e.objects other).expiryGen + 1, heapLive := true, lastHeapPush := e.now }
              rfl rfl expiry.symm other
        · exact (refresh_touches first).2 other here
      refine (ih (e.refreshExpiry first) fun other member isOpen => ?_).trans (same id)
      have closed : ((e.refreshExpiry first).objects other).closed = (e.objects other).closed :=
        congrArg Dues.closed (same other)
      have timeout : ((e.refreshExpiry first).objects other).timeout = (e.objects other).timeout :=
        congrArg Dues.timeout (same other)
      have expiry : ((e.refreshExpiry first).objects other).expiry = (e.objects other).expiry :=
        congrArg Dues.expiry (same other)
      rw [closed] at isOpen
      rw [expiry, timeout, now_refresh]
      exact punctual other (List.mem_cons_of_mem _ member) isOpen

/-- As long as it extends nothing, the timer leaves the sessions as they are or closes them when
they have expired. -/
theorem onExpiryTimer_dues (spared : ¬Extends e (.expiryTimer e.waitGen false)) (id : SessionId) :
    (e.onExpiryTimer false).dues id = e.dues id ∨
      ((e.onExpiryTimer false).objects id).closed = true ∧ (e.objects id).expiry ≤ e.now := by
  obtain ⟨examined, extends_⟩ := expireEntries_examined e.expiryHeap
    { e with timerWaiting := false } []
  unfold onExpiryTimer
  dsimp only
  rw [if_neg Bool.false_ne_true]
  generalize expireEntries e.expiryHeap { e with timerWaiting := false } [] = result
    at examined extends_ ⊢
  have punctual : ∀ other ∈ result.2, (result.1.objects other).closed = false →
      (result.1.objects other).expiry =
        result.1.now + (result.1.objects other).timeout * 1000 := by
    intro other member isOpen
    obtain ⟨entry, listed, named, due, early⟩ :=
      (extends_ other member).resolve_left List.not_mem_nil
    subst named
    have expiry : (e.objects entry.session).expiry =
        e.now + (e.objects entry.session).timeout * 1000 := by
      by_contra moved
      exact spared ⟨rfl, rfl, entry, listed, due, early, moved⟩
    rcases examined.2 entry.session with ⟨dues, _⟩ | ⟨closed, _⟩
    · have same : (result.1.objects entry.session).expiry = (e.objects entry.session).expiry :=
        congrArg Dues.expiry dues
      have timeout : (result.1.objects entry.session).timeout = (e.objects entry.session).timeout :=
        congrArg Dues.timeout dues
      rw [same, timeout, examined.1]
      exact expiry
    · rw [closed] at isOpen
      cases isOpen
  have refreshed := refreshes_dues result.2 result.1 punctual id
  have armed : (result.2.foldl refreshExpiry result.1).armExpiryTimer.dues id = result.1.dues id := by
    rw [← refreshed]
    unfold dues
    rw [arm_objects]
  rcases examined.2 id with ⟨dues, _⟩ | ⟨closed, expired⟩
  · exact Or.inl (armed.trans dues)
  · have same : ((result.2.foldl refreshExpiry result.1).armExpiryTimer.objects id).closed =
        (result.1.objects id).closed := congrArg Dues.closed armed
    exact Or.inr ⟨same.trans closed, expired⟩

/-- What a step does to the expiry of the sessions. -/
theorem step_touches (tabled : Tabled e) (event : UdpEvent) (spared : ¬Extends e event) :
    Touched (e.touches event) e (e.step event) := by
  have unmoved {after : UdpEngine} (same : ∀ id, after.dues id = e.dues id) :
      Touched none e after := Touched.none_of fun id _ => same id
  cases event with
  | packet ip uh verified body => exact packet_touches tabled ip uh verified body
  | send id remote payload handler => exact send_touches id remote payload handler
  | setTimeout id timeout => exact setTimeout_touches id timeout
  | runt | cancelAccepts | tick millis | elsewhere account => exact unmoved fun _ => rfl
  | receive id buffers handler =>
      change Touched none e (e.startReceive id buffers handler)
      unfold startReceive
      dsimp only
      split
      · exact unmoved fun _ => rfl
      · split
        · rename_i datagram rest _
          exact unmoved (put_dues e id { e.objects id with
            rxDatagrams := rest
            rxBytes := sizeSub (e.objects id).rxBytes datagram.data.length } rfl rfl rfl)
        · exact unmoved (put_dues e id { e.objects id with
            pendingReads := (e.objects id).pendingReads ++
              [{ buffers := buffers, total := buffers.sum, handler := handler }] } rfl rfl rfl)
  | asyncAccept handler =>
      have accepts (queue : List (NodeId × SessionId)) (e : UdpEngine) (id : SessionId) :
          (acceptFrom queue e handler).dues id = e.dues id := by
        induction queue generalizing e with
        | nil => rfl
        | cons node rest ih =>
            have popped := put_dues e node.2 { e.objects node.2 with pendingAccept := false }
              rfl rfl rfl id
            unfold acceptFrom
            dsimp only
            split
            · exact (ih _).trans popped
            · exact popped
      exact unmoved (accepts e.pendingNewSessions e)
  | closeAll =>
      have removes (ids : List SessionId) (e : UdpEngine) (id : SessionId)
          (isOpen : ((ids.foldl removeSession e).objects id).closed = false) :
          (ids.foldl removeSession e).dues id = e.dues id := by
        induction ids generalizing e with
        | nil => rfl
        | cons first rest ih =>
            have later := ih (e.removeSession first) isOpen
            have closed := congrArg Dues.closed later
            exact later.trans (remove_dues first id (closed.symm.trans isOpen))
      exact Touched.none_of fun id isOpen => removes _ { e with timerWaiting := false } id isOpen
  | close id => exact Touched.none_of fun other => remove_dues id other
  | expiryTimer gen failed =>
      change Touched none e (if gen = e.waitGen then e.onExpiryTimer failed else e)
      split
      · rename_i current
        subst current
        cases failed with
        | true =>
            refine unmoved fun id => ?_
            simp only [dues, onExpiryTimer, if_pos, arm_objects]
        | false =>
            refine Touched.none_of fun id isOpen => ?_
            rcases onExpiryTimer_dues spared id with same | ⟨closed, _⟩
            · exact same
            · rw [closed] at isOpen
              cases isOpen
      · exact unmoved fun _ => rfl

/-- Every open session expires one timeout after it was active for the last time. -/
def Punctual (active : SessionId → List Int) (e : UdpEngine) : Prop :=
  ∀ id, (e.objects id).closed = false → ∃ last, (active id).getLast? = some last ∧
    (e.objects id).expiry = last + (e.objects id).timeout * 1000

theorem Punctual.step {active : SessionId → List Int} (punctual : Punctual active e)
    (tabled : Tabled e) (event : UdpEvent) (spared : ¬Extends e event) :
    Punctual (fun id => active id ++ activity id e event) (e.step event) := by
  intro id isOpen
  have touched := step_touches tabled event spared id isOpen
  by_cases touches : e.touches event = some id
  · rw [if_pos touches] at touched
    exact ⟨e.now, by simp [activity, touches], touched⟩
  · rw [if_neg touches] at touched
    have closed : ((e.step event).objects id).closed = (e.objects id).closed :=
      congrArg Dues.closed touched
    have timeout : ((e.step event).objects id).timeout = (e.objects id).timeout :=
      congrArg Dues.timeout touched
    have expiry : ((e.step event).objects id).expiry = (e.objects id).expiry :=
      congrArg Dues.expiry touched
    obtain ⟨last, active, due⟩ := punctual id (closed.symm.trans isOpen)
    refine ⟨last, by simpa [activity, touches] using active, ?_⟩
    rw [expiry, timeout]
    exact due

theorem Punctual.run {active : SessionId → List Int} (punctual : Punctual active e)
    (tabled : Tabled e) (events : List UdpEvent)
    (spared : Throughout UdpEngine.step (fun e event => ¬Extends e event) e events) :
    Punctual (fun id => active id ++ collected UdpEngine.step (activity id) e events)
      (e.run events) := by
  induction events generalizing e active with
  | nil => simpa [collected, UdpEngine.run] using punctual
  | cons event rest ih =>
      have next := ih (punctual.step tabled event spared.1) (tabled.step event) spared.2
      simpa [collected, UdpEngine.run] using next

/-- The timer removes no session that has not expired. -/
theorem onExpiryTimer_spares (e : UdpEngine) (id : SessionId) (isOpen : (e.objects id).closed = false)
    (closed : ((e.onExpiryTimer false).objects id).closed = true) :
    (e.objects id).expiry ≤ e.now := by
  obtain ⟨examined, _⟩ := expireEntries_examined e.expiryHeap { e with timerWaiting := false } []
  unfold onExpiryTimer at closed
  dsimp only at closed
  rw [if_neg Bool.false_ne_true, arm_objects, refreshes_closed] at closed
  rcases examined.2 id with ⟨dues, _⟩ | ⟨_, expired⟩
  · have same := congrArg Dues.closed dues
    exact absurd ((same.symm.trans closed).symm.trans isOpen) Bool.noConfusion
  · exact expired

/-- A session gets datagrams at 0 and at 300, and the timer goes off at 30000. -/
def extendEvents : List UdpEvent :=
  [peerDatagram [5], .tick 300, peerDatagram [6], .tick 29700, .expiryTimer 1 false]

end UdpEngine

end Tunio
