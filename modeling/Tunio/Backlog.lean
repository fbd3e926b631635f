import Tunio.Datagrams

/-!
What waits at a session.  Its size in bytes is bounded, but an empty datagram takes no bytes: only
while none of these is queued does the bound on the bytes bound the number of datagrams.
-/

namespace Tunio

open Courses

namespace UdpEngine

/-- The datagrams that wait are not empty, and their bytes are within the limit. -/
structure Stocked (cap : Nat) (session : UdpSession) : Prop where
  tallied : session.rxBytes = (session.rxDatagrams.map fun datagram => datagram.data.length).sum
  capped : session.rxBytes ≤ cap
  filled : ∀ datagram ∈ session.rxDatagrams, datagram.data ≠ []

/-- An empty datagram arrives and has to wait. -/
def Hoards (e : UdpEngine) (event : UdpEvent) : Prop :=
  match e.arrival event with
  | none => False
  | some (id, datagram) =>
      datagram.data = [] ∧ (e.objects id).pendingReads = [] ∧ ¬e.Refuses id 0

instance (e : UdpEngine) (event : UdpEvent) : Decidable (e.Hoards event) := by
  unfold Hoards
  split <;> infer_instance

/-- Each datagram takes a byte at least. -/
theorem Stocked.bounded {cap : Nat} {session : UdpSession} (stocked : Stocked cap session) :
    session.rxDatagrams.length ≤ cap := by
  have each (queue : List Datagram) (filled : ∀ datagram ∈ queue, datagram.data ≠ []) :
      queue.length ≤ (queue.map fun datagram => datagram.data.length).sum := by
    induction queue with
    | nil => simp
    | cons datagram rest ih =>
        have some := List.length_pos_of_ne_nil (filled datagram List.mem_cons_self)
        have others := ih fun other member => filled other (List.mem_cons_of_mem _ member)
        simp only [List.length_cons, List.map_cons, List.sum_cons]
        omega
  have tallied := stocked.tallied
  have capped := stocked.capped
  have counted := each session.rxDatagrams stocked.filled
  omega

section

variable {cap : Nat} {e : UdpEngine}

/-- The sessions of an engine, whose configuration has the limit. -/
structure Stored (cap : Nat) (e : UdpEngine) : Prop where
  limit : e.cfg.maxRxQueuePerFlow = cap
  sessions : ∀ id, Stocked cap (e.objects id)

theorem Stored.still (stored : Stored cap e) {after : UdpEngine} (same : after.core = e.core) :
    Stored cap after := by
  obtain ⟨_, _, cfg⟩ := core_account same
  refine ⟨by rw [cfg]; exact stored.limit, fun id => ?_⟩
  obtain ⟨_, _, datagrams, rxBytes⟩ := core_fields (object_core same id)
  have stocked := stored.sessions id
  constructor
  · rw [rxBytes, datagrams]
    exact stocked.tallied
  · rw [rxBytes]
    exact stocked.capped
  · rw [datagrams]
    exact stocked.filled

namespace Stored

/-- New contents of a session that has nothing more waiting. -/
theorem revise (stored : Stored cap e) (id : SessionId) (session : UdpSession)
    (here : Stocked cap session) : Stored cap (e.put id session) :=
  ⟨stored.limit, put_all (Stocked cap) stored.sessions id session here⟩

theorem refresh (stored : Stored cap e) (id : SessionId) : Stored cap (e.refreshExpiry id) :=
  stored.still (refreshExpiry_core e id)

theorem remove (stored : Stored cap e) (id : SessionId) : Stored cap (e.removeSession id) := by
  by_cases closed : (e.objects id).closed = true
  · have same : e.removeSession id = e := by
      unfold removeSession
      exact if_pos closed
    rwa [same]
  · rw [removeSession_open e id (Bool.eq_false_of_not_eq_true closed)]
    have emptied := stored.revise id (e.objects id).shut ⟨rfl, Nat.zero_le _, by simp [UdpSession.shut]⟩
    exact ⟨emptied.limit, emptied.sessions⟩

/-- A datagram that has to wait is queued within the limit. -/
theorem deliver (stored : Stored cap e) (id : SessionId) (datagram : Datagram)
    (isOpen : (e.objects id).closed = false)
    (filled : (e.objects id).pendingReads = [] → ¬e.Refuses id datagram.data.length →
      datagram.data ≠ []) :
    Stored cap (e.deliverDatagram id datagram.data datagram.sender) := by
  have same := refreshExpiry_core e id
  obtain ⟨_, account, cfg⟩ := core_account same
  obtain ⟨_, reads, _, queued⟩ := core_fields (object_core same id)
  have filled : ((e.refreshExpiry id).objects id).pendingReads = [] →
      ¬(e.refreshExpiry id).Refuses id datagram.data.length → datagram.data ≠ [] := by
    unfold Refuses at filled ⊢
    rwa [account, cfg, queued, reads]
  have stored := stored.refresh id
  unfold deliverDatagram
  rw [if_neg (by simp [isOpen])]
  dsimp only
  generalize e.refreshExpiry id = e at stored filled ⊢
  have stocked := stored.sessions id
  have tallied := stocked.tallied
  split
  · rename_i op rest _
    have revised := stored.revise id { e.objects id with pendingReads := rest }
      ⟨stocked.tallied, stocked.capped, stocked.filled⟩
    exact ⟨revised.limit, revised.sessions⟩
  · rename_i idle
    split
    · exact ⟨stored.limit, stored.sessions⟩
    · rename_i room
      split
      · exact ⟨stored.limit, stored.sessions⟩
      · rename_i account made
        have some := filled idle (by simp [Refuses, room, made])
        have revised := stored.revise id { e.objects id with
          rxDatagrams := (e.objects id).rxDatagrams ++ [datagram]
          rxBytes := (e.objects id).rxBytes + datagram.data.length } ⟨?_, ?_, ?_⟩
        · exact ⟨revised.limit, revised.sessions⟩
        · simp [tallied]
        · rw [← stored.limit]
          exact Nat.not_lt.mp room
        · intro other member
          rcases List.mem_append.mp member with before | last
          · exact stocked.filled other before
          · rwa [List.mem_singleton.mp last]

theorem welcome (stored : Stored cap e) (key : UdpSessionKey) (datagram : Datagram)
    (filled : ¬(e.enterSession key).Refuses e.created datagram.data.length → datagram.data ≠ []) :
    Stored cap (e.welcome key datagram) := by
  have entered : Stored cap (e.enterSession key) := by
    have revised := stored.revise e.created (e.newSession key) ⟨rfl, Nat.zero_le _, by simp [newSession]⟩
    exact ⟨revised.limit, revised.sessions⟩
  have isOpen : ((e.enterSession key).objects e.created).closed = false := by
    rw [enterSession_self]
    rfl
  have delivered := entered.deliver e.created datagram isOpen fun _ => filled
  have refreshed := delivered.refresh e.created
  unfold UdpEngine.welcome
  generalize ((e.enterSession key).deliverDatagram e.created datagram.data
    datagram.sender).refreshExpiry e.created = after at refreshed ⊢
  unfold announceSession
  split
  · exact ⟨refreshed.limit, refreshed.sessions⟩
  · have stocked := refreshed.sessions e.created
    have revised := refreshed.revise e.created { after.objects e.created with
      pendingAccept := true, pendingIt := after.nextNode }
      ⟨stocked.tallied, stocked.capped, stocked.filled⟩
    exact ⟨revised.limit, revised.sessions⟩

theorem receive (stored : Stored cap e) (id : SessionId) (buffers : List Nat)
    (handler : HandlerId) : Stored cap (e.startReceive id buffers handler) := by
  have stocked := stored.sessions id
  have tallied := stocked.tallied
  have capped := stocked.capped
  unfold startReceive
  dsimp only
  split
  · exact ⟨stored.limit, stored.sessions⟩
  · split
    · rename_i datagram rest front
      rw [front, List.map_cons, List.sum_cons] at tallied
      have shrunk : sizeSub (e.objects id).rxBytes datagram.data.length =
          (rest.map fun datagram => datagram.data.length).sum := by
        unfold sizeSub
        rw [if_pos (by omega)]
        omega
      have revised := stored.revise id { e.objects id with
        rxDatagrams := rest
        rxBytes := sizeSub (e.objects id).rxBytes datagram.data.length } ⟨?_, ?_, ?_⟩
      · exact ⟨revised.limit, revised.sessions⟩
      · exact shrunk
      · dsimp only
        omega
      · exact fun other member => stocked.filled other (front ▸ List.mem_cons_of_mem _ member)
    · have revised := stored.revise id { e.objects id with
        pendingReads := (e.objects id).pendingReads ++
          [{ buffers := buffers, total := buffers.sum, handler := handler }] }
        ⟨stocked.tallied, stocked.capped, stocked.filled⟩
      exact ⟨revised.limit, revised.sessions⟩

theorem expire (stored : Stored cap e) (failed : Bool) : Stored cap (e.onExpiryTimer failed) := by
  have entries (heap : List ExpiryEntry) (extended : List SessionId) (e : UdpEngine)
      (stored : Stored cap e) : Stored cap (expireEntries heap e extended).1 := by
    induction heap generalizing e extended with
    | nil => exact stored
    | cons top rest ih =>
        unfold expireEntries
        split
        · exact stored
        · dsimp only
          split
          · exact ih _ _ (stored.still rfl)
          · split
            · exact ih _ _ ((stored.remove top.session).still rfl)
            · exact ih _ _ (stored.still (put_core e top.session
                { e.objects top.session with heapLive := false } rfl))
  have refreshes (ids : List SessionId) (e : UdpEngine) (stored : Stored cap e) :
      Stored cap (ids.foldl refreshExpiry e) := by
    induction ids generalizing e with
    | nil => exact stored
    | cons id rest ih => exact ih _ (stored.refresh id)
  have stopped : Stored cap { e with timerWaiting := false } := stored.still rfl
  unfold onExpiryTimer
  dsimp only
  split
  · exact stopped.still (armExpiryTimer_core _)
  · exact (refreshes _ _ (entries e.expiryHeap [] { e with timerWaiting := false } stopped)).still
      (armExpiryTimer_core _)

theorem closeAll (stored : Stored cap e) : Stored cap e.closeAll := by
  have removes (ids : List SessionId) (e : UdpEngine) (stored : Stored cap e) :
      Stored cap (ids.foldl removeSession e) := by
    induction ids generalizing e with
    | nil => exact stored
    | cons id rest ih => exact ih _ (stored.remove id)
  have stopped : Stored cap { e with timerWaiting := false } := stored.still rfl
  have removed := removes (e.sessions.map Prod.snd) { e with timerWaiting := false } stopped
  exact ⟨removed.limit, removed.sessions⟩

theorem accept (stored : Stored cap e) (handler : HandlerId) :
    Stored cap (e.asyncAccept handler) := by
  have accepts (queue : List (NodeId × SessionId)) (e : UdpEngine) (stored : Stored cap e) :
      Stored cap (acceptFrom queue e handler) := by
    induction queue generalizing e with
    | nil => exact ⟨stored.limit, stored.sessions⟩
    | cons node rest ih =>
        have stocked := stored.sessions node.2
        have popped := stored.revise node.2 { e.objects node.2 with pendingAccept := false }
          ⟨stocked.tallied, stocked.capped, stocked.filled⟩
        unfold acceptFrom
        dsimp only
        split
        · exact ih _ ⟨popped.limit, popped.sessions⟩
        · exact ⟨popped.limit, popped.sessions⟩
  exact accepts e.pendingNewSessions e stored

theorem send (stored : Stored cap e) (id : SessionId) (remote : Endpoint) (payload : List UInt8)
    (handler : HandlerId) : Stored cap (e.startSend id remote payload handler) := by
  unfold startSend
  dsimp only
  split
  · exact stored.still rfl
  · split
    · exact stored.still rfl
    · split
      · exact stored.still rfl
      · split
        · exact stored.still rfl
        · exact (stored.refresh id).still rfl

theorem setTimeout (stored : Stored cap e) (id : SessionId) (timeout : Int) :
    Stored cap (e.setTimeout id timeout) := by
  unfold UdpEngine.setTimeout
  split
  · exact stored
  · exact (stored.still (put_core e id { e.objects id with timeout := timeout } rfl)).refresh id

theorem packet (stored : Stored cap e) (tabled : Tabled e) (ip : IpPacketInfo) (uh : UdpHeader)
    (verified : Bool) (body : List UInt8) (spared : ¬e.Hoards (.packet ip uh verified body)) :
    Stored cap (e.step (.packet ip uh verified body)) := by
  unfold Hoards at spared
  rcases step_packet tabled ip uh verified body with ⟨none, same⟩ |
    ⟨id, datagram, some, isOpen, same⟩ | ⟨key, datagram, some, _, _, same⟩
  · rw [same]
    exact stored.still rfl
  · rw [same]
    rw [some] at spared
    refine stored.deliver id datagram isOpen fun idle taken empty => spared ⟨empty, idle, ?_⟩
    rwa [empty] at taken
  · rw [same]
    rw [some] at spared
    refine stored.welcome key datagram fun taken empty => spared ⟨empty, tabled.unborn.1, ?_⟩
    rw [← refuses_new tabled key] at taken
    rwa [empty] at taken

/-- A step at which no empty datagram is queued keeps what waits within bounds. -/
theorem step (stored : Stored cap e) (tabled : Tabled e) (event : UdpEvent)
    (spared : ¬e.Hoards event) : Stored cap (e.step event) := by
  cases event with
  | packet ip uh verified body => exact stored.packet tabled ip uh verified body spared
  | receive id buffers handler => exact stored.receive id buffers handler
  | runt | cancelAccepts | tick millis | elsewhere account => exact ⟨stored.limit, stored.sessions⟩
  | asyncAccept handler => exact stored.accept handler
  | closeAll => exact stored.closeAll
  | send id remote payload handler => exact stored.send id remote payload handler
  | setTimeout id timeout => exact stored.setTimeout id timeout
  | close id => exact stored.remove id
  | expiryTimer gen failed =>
      unfold UdpEngine.step
      dsimp only
      split
      · exact stored.expire failed
      · exact stored

theorem fresh (cfg : TunConfig) (account : BufferAccountant) (now : Int) :
    Stored cfg.maxRxQueuePerFlow (fresh cfg account now) :=
  ⟨rfl, fun _ => ⟨rfl, Nat.zero_le _, nofun⟩⟩

theorem run (cfg : TunConfig) (account : BufferAccountant) (now : Int) (events : List UdpEvent)
    (spared : Throughout UdpEngine.step (fun e event => ¬e.Hoards event)
      (UdpEngine.fresh cfg account now) events) :
    Stored cfg.maxRxQueuePerFlow ((UdpEngine.fresh cfg account now).run events) :=
  (spared.invariant (fun e => Tabled e ∧ Stored cfg.maxRxQueuePerFlow e)
    (fun _ event both spared => ⟨both.1.step event, both.2.step both.1 event spared⟩)
    ⟨Tabled.fresh cfg account now, fresh cfg account now⟩).2

end Stored

end

/-- As long as no empty datagram is queued, the limit on the bytes of a session is one on the
number of its datagrams. -/
theorem run_backlog (cfg : TunConfig) (account : BufferAccountant) (now : Int)
    (events : List UdpEvent)
    (spared : Throughout step (fun e event => ¬e.Hoards event) (fresh cfg account now) events)
    (id : SessionId) :
    (((fresh cfg account now).run events).objects id).rxDatagrams.length ≤
      cfg.maxRxQueuePerFlow :=
  ((Stored.run cfg account now events spared).sessions id).bounded

def peerInfo : IpPacketInfo :=
  { family := 4, srcIp := Vector.replicate 16 1, dstIp := Vector.replicate 16 2 }

def peerKey : UdpSessionKey :=
  { srcIp := addressOf 4 (Vector.replicate 16 1), srcPort := 1, family := 4 }

def peerTarget : Endpoint :=
  { isV6 := false, address := addressOf 4 (Vector.replicate 16 2), port := 2 }

/-- A packet of the peer with the given payload, for one and the same session. -/
def peerDatagram (data : List UInt8) : UdpEvent :=
  .packet peerInfo
    { srcPort := 1, dstPort := 2, length := UInt16.ofNat (udpHeaderSize + data.length), checksum := 0 }
    true data

/-- Two datagrams wait where there is room for two bytes. -/
theorem backlog_two :
    (((fresh { maxRxQueuePerFlow := 2 } { limit := 100 } 0).run
      [peerDatagram [1], peerDatagram [2], peerDatagram [3]]).objects 0).rxDatagrams.length ≤ 2 :=
  run_backlog { maxRxQueuePerFlow := 2 } { limit := 100 } 0
    [peerDatagram [1], peerDatagram [2], peerDatagram [3]] (by decide) 0

/-- A session at which `n` empty datagrams wait. -/
structure Hoard (n : Nat) (e : UdpEngine) : Prop where
  listed : e.findSession peerKey = some 0
  isOpen : (e.objects 0).closed = false
  idle : (e.objects 0).pendingReads = []
  weightless : (e.objects 0).rxBytes = 0
  room : e.account.used ≤ e.account.limit
  queue : (e.objects 0).rxDatagrams.length = n

theorem Hoard.step {n : Nat} {e : UdpEngine} (hoard : Hoard n e) :
    Hoard (n + 1) (e.step (peerDatagram [])) := by
  obtain ⟨listed, isOpen, idle, weightless, room, queue⟩ := hoard
  have same := refreshExpiry_core e 0
  obtain ⟨_, account, cfg⟩ := core_account same
  obtain ⟨closed, reads, datagrams, rxBytes⟩ := core_fields (object_core same 0)
  have sessions := congrArg UdpEngine.sessions same
  have sessions : (e.refreshExpiry 0).sessions = e.sessions := sessions
  have delivered : e.step (peerDatagram []) = e.deliverDatagram 0 [] peerTarget := by
    have parsed : datagramOf peerInfo
        { srcPort := 1, dstPort := 2, length := UInt16.ofNat (udpHeaderSize + 0), checksum := 0 }
        true [] = some (peerKey, { data := [], sender := peerTarget }) := by decide
    unfold peerDatagram UdpEngine.step
    dsimp only [List.length_nil]
    rw [onPacket_eq, parsed]
    dsimp only
    unfold receiveDatagram
    rw [listed]
    exact if_pos (by simp [isOpen])
  have made : e.account.reserve 0 = some e.account := by
    unfold BufferAccountant.reserve
    rw [if_neg (by omega)]
    rfl
  rw [delivered]
  unfold deliverDatagram
  rw [if_neg (by simp [isOpen])]
  simp only [reads, idle, rxBytes, weightless, List.length_nil, Nat.add_zero, account, made]
  rw [if_neg (by omega)]
  constructor
  · unfold findSession at listed ⊢
    rw [← sessions] at listed
    exact listed
  · rw [put_self]
    exact closed.trans isOpen
  · rw [put_self]
  · simp
  · exact room
  · rw [put_self, ← queue, ← datagrams]
    simp

/-- No bound holds for every run. -/
theorem backlog_unbounded :
    ¬∃ bound : TunConfig → Nat, ∀ cfg events id,
      (((fresh cfg { limit := cfg.maxTotalBuffer } 0).run events).objects id).rxDatagrams.length ≤
        bound cfg := by
  rintro ⟨bound, bounded⟩
  have hoards (n : Nat) :
      Hoard (n + 1) ((fresh {} { limit := ({} : TunConfig).maxTotalBuffer } 0).run
        (List.replicate (n + 1) (peerDatagram []))) := by
    induction n with
    | zero => exact ⟨by decide, by decide, by decide, by decide, by decide, by decide⟩
    | succ n ih =>
        have next := ih.step
        rw [List.replicate_succ']
        unfold UdpEngine.run at next ⊢
        rwa [List.foldl_append]
  have queue := (hoards (bound {})).queue
  have limit := bounded {} (List.replicate (bound {} + 1) (peerDatagram [])) 0
  omega

end UdpEngine

end Tunio
