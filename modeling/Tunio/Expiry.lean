import Tunio.Course
import Tunio.SessionTable

/-!
Idle sessions are looked at in time: every open session has a live entry in the heap that is
due no later than the session expires, and the timer waits for no later time than that of the
earliest live entry.
-/

namespace Tunio

open Courses

/-- What the expiry of a session depends on. -/
structure Watch where
  closed : Bool
  timeout : Int
  expiry : Int
  expiryGen : Nat
  heapLive : Bool
  lastHeapPush : Int

def UdpSession.watch (session : UdpSession) : Watch :=
  { closed := session.closed
    timeout := session.timeout
    expiry := session.expiry
    expiryGen := session.expiryGen
    heapLive := session.heapLive
    lastHeapPush := session.lastHeapPush }

namespace UdpEngine

/-- The session has a live entry in the heap that is due no later than the session expires. -/
def Covers (e : UdpEngine) (id : SessionId) : Prop :=
  ∃ entry ∈ e.expiryHeap, entry.session = id ∧ entry.gen = (e.objects id).expiryGen ∧
    entry.deadline ≤ (e.objects id).expiry

/-- The timer waits, and no longer than the earliest live entry of the heap allows. -/
def Waits (e : UdpEngine) : Prop :=
  ∀ entry ∈ e.expiryHeap, e.stale entry = false →
    e.timerWaiting = true ∧ e.armedTarget ≤ entry.deadline

/-- The heap is sorted and covers the open sessions, but for those in the gap; these do not
expire later than their timeout has it. -/
structure Watching (gap : SessionId → Prop) (e : UdpEngine) : Prop where
  sorted : e.expiryHeap.Pairwise fun first second => first.deadline ≤ second.deadline
  covered : ∀ id, (e.objects id).closed = false → ¬gap id → e.Covers id
  near : ∀ id, (e.objects id).closed = false → ¬gap id →
    (e.objects id).expiry ≤ e.now + (e.objects id).timeout * 1000

structure Watched (e : UdpEngine) : Prop where
  watching : Watching (fun _ => False) e
  waits : Waits e

/-! Operations that concern neither the expiry of a session nor the timer. -/

structure Vigil where
  heap : List ExpiryEntry
  waiting : Bool
  target : Int
  now : Int
  watch : SessionId → Watch

def vigil (e : UdpEngine) : Vigil :=
  { heap := e.expiryHeap
    waiting := e.timerWaiting
    target := e.armedTarget
    now := e.now
    watch := fun id => (e.objects id).watch }

variable {e after : UdpEngine}

theorem stale_vigil (same : after.vigil = e.vigil) (entry : ExpiryEntry) :
    after.stale entry = e.stale entry := by
  have watch := congrFun (congrArg Vigil.watch same) entry.session
  have closed : (after.objects entry.session).closed = (e.objects entry.session).closed :=
    congrArg Watch.closed watch
  have gen : (after.objects entry.session).expiryGen = (e.objects entry.session).expiryGen :=
    congrArg Watch.expiryGen watch
  unfold stale
  rw [closed, gen]

theorem Watched.congr (watched : Watched e) (same : after.vigil = e.vigil) : Watched after := by
  have heap : after.expiryHeap = e.expiryHeap := congrArg Vigil.heap same
  have waiting : after.timerWaiting = e.timerWaiting := congrArg Vigil.waiting same
  have target : after.armedTarget = e.armedTarget := congrArg Vigil.target same
  have now : after.now = e.now := congrArg Vigil.now same
  have watch (id : SessionId) : (after.objects id).watch = (e.objects id).watch :=
    congrFun (congrArg Vigil.watch same) id
  have closed (id : SessionId) : (after.objects id).closed = (e.objects id).closed :=
    congrArg Watch.closed (watch id)
  have gen (id : SessionId) : (after.objects id).expiryGen = (e.objects id).expiryGen :=
    congrArg Watch.expiryGen (watch id)
  have expiry (id : SessionId) : (after.objects id).expiry = (e.objects id).expiry :=
    congrArg Watch.expiry (watch id)
  have timeout (id : SessionId) : (after.objects id).timeout = (e.objects id).timeout :=
    congrArg Watch.timeout (watch id)
  refine ⟨⟨?_, ?_, ?_⟩, ?_⟩
  · rw [heap]
    exact watched.watching.sorted
  · intro id isOpen inGap
    unfold Covers
    rw [heap, gen, expiry]
    exact watched.watching.covered id ((closed id).symm.trans isOpen) inGap
  · intro id isOpen inGap
    rw [expiry, timeout, now]
    exact watched.watching.near id ((closed id).symm.trans isOpen) inGap
  · intro entry member live
    rw [heap] at member
    rw [stale_vigil same] at live
    rw [waiting, target]
    exact watched.waits entry member live

theorem put_vigil (e : UdpEngine) (id : SessionId) (session : UdpSession)
    (same : session.watch = (e.objects id).watch) : (e.put id session).vigil = e.vigil := by
  have watch : (fun other => ((e.put id session).objects other).watch) =
      fun other => (e.objects other).watch :=
    funext fun other => e.put_field id session UdpSession.watch same other
  unfold vigil
  rw [watch]
  rfl

/-! The timer. -/

theorem mem_dropWhile {entries : List ExpiryEntry} {entry : ExpiryEntry} (member : entry ∈ entries)
    (live : e.stale entry = false) : entry ∈ entries.dropWhile e.stale := by
  induction entries with
  | nil => cases member
  | cons top rest ih =>
      rw [List.dropWhile_cons]
      split
      · rename_i gone
        rcases List.mem_cons.mp member with rfl | later
        · exact absurd gone (ne_true_of_eq_false live)
        · exact ih later
      · exact member

theorem arm_heap (e : UdpEngine) :
    e.armExpiryTimer.expiryHeap = e.expiryHeap.dropWhile e.stale := by
  unfold armExpiryTimer
  dsimp only
  split
  · rfl
  · split <;> rfl

theorem arm_objects (e : UdpEngine) : e.armExpiryTimer.objects = e.objects := by
  unfold armExpiryTimer
  dsimp only
  split
  · rfl
  · split <;> rfl

theorem arm_now (e : UdpEngine) : e.armExpiryTimer.now = e.now := by
  unfold armExpiryTimer
  dsimp only
  split
  · rfl
  · split <;> rfl

theorem arm_waits (sorted : e.expiryHeap.Pairwise fun first second => first.deadline ≤ second.deadline) :
    Waits e.armExpiryTimer := by
  have earliest {top : ExpiryEntry} {rest : List ExpiryEntry}
      (heap : e.expiryHeap.dropWhile e.stale = top :: rest) {entry : ExpiryEntry}
      (member : entry ∈ top :: rest) : top.deadline ≤ entry.deadline := by
    have kept := sorted.sublist (List.dropWhile_sublist e.stale)
    rw [heap] at kept
    rcases List.mem_cons.mp member with rfl | later
    · exact Int.le_refl _
    · exact (List.pairwise_cons.mp kept).1 entry later
  intro entry member _
  rw [arm_heap] at member
  unfold armExpiryTimer
  dsimp only
  split
  · rename_i empty
    rw [empty] at member
    cases member
  · rename_i top rest heap
    rw [heap] at member
    have bound := earliest heap member
    split
    · rename_i early
      exact ⟨early.1, Int.le_trans early.2 bound⟩
    · exact ⟨rfl, bound⟩

theorem arm_watching {gap : SessionId → Prop} (watching : Watching gap e) :
    Watching gap e.armExpiryTimer := by
  refine ⟨?_, ?_, ?_⟩
  · rw [arm_heap]
    exact watching.sorted.sublist (List.dropWhile_sublist e.stale)
  · intro id isOpen inGap
    rw [arm_objects] at isOpen
    obtain ⟨entry, member, named, gen, due⟩ := watching.covered id isOpen inGap
    refine ⟨entry, ?_, named, ?_, ?_⟩
    · rw [arm_heap]
      refine mem_dropWhile member ?_
      unfold stale
      rw [named, isOpen, gen]
      simp
    · rwa [arm_objects]
    · rwa [arm_objects]
  · intro id isOpen inGap
    rw [arm_objects] at isOpen ⊢
    rw [arm_now]
    exact watching.near id isOpen inGap

/-! Refreshing the expiry of a session. -/

/-- The session has an entry that was pushed a short while ago. -/
def throttled (e : UdpEngine) (id : SessionId) : Prop :=
  (e.objects id).heapLive = true ∧ e.now - (e.objects id).lastHeapPush < kExpiryPushInterval

instance (e : UdpEngine) (id : SessionId) : Decidable (e.throttled id) :=
  inferInstanceAs (Decidable (_ ∧ _))

def renewed (e : UdpEngine) (id : SessionId) : UdpSession :=
  { e.objects id with expiry := e.now + (e.objects id).timeout * 1000 }

/-- The session with the entry that `refresh_expiry` pushes for it. -/
def repush (e : UdpEngine) (id : SessionId) : UdpEngine :=
  { e.put id { e.renewed id with
      expiryGen := (e.objects id).expiryGen + 1
      heapLive := true
      lastHeapPush := e.now } with
    expiryHeap := pushHeap
      { deadline := e.now + (e.objects id).timeout * 1000
        gen := (e.objects id).expiryGen + 1
        session := id } e.expiryHeap }

theorem refreshExpiry_cases (e : UdpEngine) (id : SessionId) :
    ((e.objects id).closed = true ∧ e.refreshExpiry id = e) ∨
      ((e.objects id).closed = false ∧ e.throttled id ∧
        e.refreshExpiry id = e.put id (e.renewed id)) ∨
      ((e.objects id).closed = false ∧ ¬e.throttled id ∧
        e.refreshExpiry id = (e.repush id).armExpiryTimer) := by
  cases closed : (e.objects id).closed with
  | true => exact Or.inl ⟨rfl, if_pos closed⟩
  | false =>
      have entered : ¬(e.objects id).closed = true := ne_true_of_eq_false closed
      refine Or.inr ?_
      by_cases recent : e.throttled id
      · refine Or.inl ⟨rfl, recent, ?_⟩
        unfold refreshExpiry
        dsimp only
        rw [if_neg entered]
        exact if_pos recent
      · refine Or.inr ⟨rfl, recent, ?_⟩
        unfold refreshExpiry
        dsimp only
        rw [if_neg entered]
        exact if_neg recent

theorem mem_pushHeap {entry other : ExpiryEntry} {heap : List ExpiryEntry} :
    other ∈ pushHeap entry heap ↔ other = entry ∨ other ∈ heap := by
  induction heap with
  | nil => simp [pushHeap]
  | cons top rest ih =>
      unfold pushHeap
      split
      · simp
      · simp only [List.mem_cons, ih]
        exact or_left_comm

theorem pushHeap_sorted {entry : ExpiryEntry} {heap : List ExpiryEntry}
    (sorted : heap.Pairwise fun first second => first.deadline ≤ second.deadline) :
    (pushHeap entry heap).Pairwise fun first second => first.deadline ≤ second.deadline := by
  induction heap with
  | nil => exact List.pairwise_singleton _ _
  | cons top rest ih =>
      obtain ⟨least, sortedRest⟩ := List.pairwise_cons.mp sorted
      unfold pushHeap
      split
      · rename_i before
        refine List.pairwise_cons.mpr ⟨fun other member => ?_, sorted⟩
        rcases List.mem_cons.mp member with rfl | later
        · exact Int.le_of_lt before
        · exact Int.le_trans (Int.le_of_lt before) (least other later)
      · rename_i behind
        refine List.pairwise_cons.mpr ⟨fun other member => ?_, ih sortedRest⟩
        rcases mem_pushHeap.mp member with rfl | later
        · exact Int.not_lt.mp behind
        · exact least other later

/-- A push closes the gap at its session. -/
theorem repush_watching {gap : SessionId → Prop} (watching : Watching gap e) (id : SessionId) :
    Watching (fun other => gap other ∧ other ≠ id) (e.repush id) := by
  have elsewhere {other : SessionId} (apart : other ≠ id) :
      (e.repush id).objects other = e.objects other := e.put_other id _ apart
  have here : (e.repush id).objects id = { e.renewed id with
      expiryGen := (e.objects id).expiryGen + 1, heapLive := true, lastHeapPush := e.now } :=
    e.put_self id _
  refine ⟨pushHeap_sorted watching.sorted, ?_, ?_⟩
  · intro other isOpen inGap
    by_cases same : other = id
    · subst same
      refine ⟨_, mem_pushHeap.mpr (Or.inl rfl), rfl, ?_, ?_⟩
      · rw [here]
      · rw [here]
        exact Int.le_refl _
    · rw [elsewhere same] at isOpen
      obtain ⟨entry, member, named, gen, due⟩ :=
        watching.covered other isOpen fun gapped => inGap ⟨gapped, same⟩
      refine ⟨entry, mem_pushHeap.mpr (Or.inr member), named, ?_, ?_⟩
      · rwa [elsewhere same]
      · rwa [elsewhere same]
  · intro other isOpen inGap
    by_cases same : other = id
    · subst same
      rw [here]
      exact Int.le_refl _
    · rw [elsewhere same] at isOpen ⊢
      exact watching.near other isOpen fun gapped => inGap ⟨gapped, same⟩

theorem put_stale (id : SessionId) (session : UdpSession) (closed : session.closed = (e.objects id).closed)
    (gen : session.expiryGen = (e.objects id).expiryGen) (entry : ExpiryEntry) :
    (e.put id session).stale entry = e.stale entry := by
  unfold stale
  rw [e.put_field id session UdpSession.closed closed, e.put_field id session UdpSession.expiryGen gen]

/-- Without a push the old entry has to do. -/
theorem renewed_watching {gap : SessionId → Prop} (watching : Watching gap e) {id : SessionId}
    (covered : ∃ entry ∈ e.expiryHeap, entry.session = id ∧
      entry.gen = (e.objects id).expiryGen ∧
        entry.deadline ≤ e.now + (e.objects id).timeout * 1000) :
    Watching (fun other => gap other ∧ other ≠ id) (e.put id (e.renewed id)) := by
  have elsewhere {other : SessionId} (apart : other ≠ id) :
      (e.put id (e.renewed id)).objects other = e.objects other := e.put_other id _ apart
  have here : (e.put id (e.renewed id)).objects id = e.renewed id := e.put_self id _
  refine ⟨watching.sorted, ?_, ?_⟩
  · intro other isOpen inGap
    by_cases same : other = id
    · subst same
      obtain ⟨entry, member, named, gen, due⟩ := covered
      refine ⟨entry, member, named, ?_, ?_⟩
      · rwa [here]
      · rwa [here]
    · rw [elsewhere same] at isOpen
      obtain ⟨entry, member, named, gen, due⟩ :=
        watching.covered other isOpen fun gapped => inGap ⟨gapped, same⟩
      refine ⟨entry, member, named, ?_, ?_⟩
      · rwa [elsewhere same]
      · rwa [elsewhere same]
  · intro other isOpen inGap
    by_cases same : other = id
    · subst same
      rw [here]
      exact Int.le_refl _
    · rw [elsewhere same] at isOpen ⊢
      exact watching.near other isOpen fun gapped => inGap ⟨gapped, same⟩

theorem Watching.widen {gap gap' : SessionId → Prop} (watching : Watching gap e)
    (wider : ∀ id, gap id → gap' id) : Watching gap' e :=
  ⟨watching.sorted, fun id isOpen inGap => watching.covered id isOpen fun gapped =>
      inGap (wider id gapped),
    fun id isOpen inGap => watching.near id isOpen fun gapped => inGap (wider id gapped)⟩

/-- A refresh closes the gap at its session, if there is one, by a push. -/
theorem refresh_watching {gap : SessionId → Prop} (watching : Watching gap e) (id : SessionId)
    (idle : gap id → (e.objects id).closed = false → (e.objects id).heapLive = false) :
    Watching (fun other => gap other ∧ other ≠ id) (e.refreshExpiry id) := by
  rcases refreshExpiry_cases e id with ⟨closed, same⟩ | ⟨isOpen, recent, same⟩ | ⟨_, _, same⟩
  · rw [same]
    refine ⟨watching.sorted, ?_, ?_⟩
    · intro other isOpen inGap
      refine watching.covered other isOpen fun gapped => inGap ⟨gapped, ?_⟩
      rintro rfl
      exact absurd (closed.symm.trans isOpen) (by decide)
    · intro other isOpen inGap
      refine watching.near other isOpen fun gapped => inGap ⟨gapped, ?_⟩
      rintro rfl
      exact absurd (closed.symm.trans isOpen) (by decide)
  · rw [same]
    have inside : ¬gap id := fun gapped =>
      absurd ((idle gapped isOpen).symm.trans recent.1) (by decide)
    obtain ⟨entry, member, named, gen, due⟩ := watching.covered id isOpen inside
    exact renewed_watching watching
      ⟨entry, member, named, gen, Int.le_trans due (watching.near id isOpen inside)⟩
  · rw [same]
    exact arm_watching (repush_watching watching id)

theorem refresh_waits (watching : (e.expiryHeap).Pairwise fun first second =>
    first.deadline ≤ second.deadline) (id : SessionId)
    (waits : Waits e ∨ ((e.objects id).closed = false ∧ ¬e.throttled id)) :
    Waits (e.refreshExpiry id) := by
  rcases refreshExpiry_cases e id with ⟨closed, same⟩ | ⟨isOpen, recent, same⟩ | ⟨_, _, same⟩
  · rw [same]
    exact waits.resolve_right fun pushes => absurd (closed.symm.trans pushes.1) (by decide)
  · rw [same]
    have waits := waits.resolve_right fun pushes => pushes.2 recent
    intro entry member live
    have live : e.stale entry = false := (put_stale id (e.renewed id) rfl rfl entry).symm.trans live
    exact waits entry member live
  · rw [same]
    exact arm_waits (pushHeap_sorted watching)

theorem Watched.refresh (watched : Watched e) (id : SessionId) : Watched (e.refreshExpiry id) :=
  ⟨(refresh_watching watched.watching id False.elim).widen fun _ gapped => gapped.1,
    refresh_waits watched.watching.sorted id (Or.inl watched.waits)⟩

/-! Sessions that are removed. -/

theorem removeSession_heap (e : UdpEngine) (id : SessionId) :
    (e.removeSession id).expiryHeap = e.expiryHeap ∧
      (e.removeSession id).timerWaiting = e.timerWaiting ∧
      (e.removeSession id).armedTarget = e.armedTarget ∧ (e.removeSession id).now = e.now := by
  cases closed : (e.objects id).closed with
  | true =>
      have same : e.removeSession id = e := by
        unfold removeSession
        exact if_pos closed
      rw [same]
      exact ⟨rfl, rfl, rfl, rfl⟩
  | false =>
      rw [removeSession_open e id closed]
      exact ⟨rfl, rfl, rfl, rfl⟩

/-- A session that is open afterwards was not touched. -/
theorem removeSession_object {id other : SessionId}
    (isOpen : ((e.removeSession id).objects other).closed = false) :
    (e.removeSession id).objects other = e.objects other ∧
      ((e.objects id).closed = false → other ≠ id) := by
  cases closed : (e.objects id).closed with
  | true =>
      have same : e.removeSession id = e := by
        unfold removeSession
        exact if_pos closed
      rw [same]
      exact ⟨rfl, fun impossible => absurd impossible (by decide)⟩
  | false =>
      have objects : (e.removeSession id).objects = (e.put id (e.objects id).shut).objects := by
        rw [removeSession_open e id closed]
      rw [objects] at isOpen ⊢
      have apart : other ≠ id := by
        rintro rfl
        rw [put_self] at isOpen
        exact absurd (show true = false from isOpen) (by decide)
      exact ⟨e.put_other id _ apart, fun _ => apart⟩

theorem remove_watching {gap : SessionId → Prop} (watching : Watching gap e) (id : SessionId) :
    Watching gap (e.removeSession id) := by
  obtain ⟨heap, _, _, now⟩ := removeSession_heap e id
  refine ⟨?_, ?_, ?_⟩
  · rw [heap]
    exact watching.sorted
  · intro other isOpen inGap
    obtain ⟨same, _⟩ := removeSession_object isOpen
    unfold Covers
    rw [heap, same]
    rw [same] at isOpen
    exact watching.covered other isOpen inGap
  · intro other isOpen inGap
    obtain ⟨same, _⟩ := removeSession_object isOpen
    rw [same] at isOpen ⊢
    rw [now]
    exact watching.near other isOpen inGap

theorem remove_waits (waits : Waits e) (id : SessionId) : Waits (e.removeSession id) := by
  obtain ⟨heap, waiting, target, _⟩ := removeSession_heap e id
  intro entry member live
  rw [heap] at member
  rw [waiting, target]
  refine waits entry member ?_
  unfold stale at live ⊢
  have isOpen : ((e.removeSession id).objects entry.session).closed = false :=
    (Bool.or_eq_false_iff.mp live).1
  rwa [(removeSession_object isOpen).1] at live

theorem Watched.remove (watched : Watched e) (id : SessionId) : Watched (e.removeSession id) :=
  ⟨remove_watching watched.watching id, remove_waits watched.waits id⟩

/-! The timer has gone off. -/

/-- Once its only live entry is gone, a session is closed or in the gap. -/
theorem pop_watching {gap gap' : SessionId → Prop} {top : ExpiryEntry} {rest : List ExpiryEntry}
    (watching : Watching gap e) (heap : e.expiryHeap = top :: rest)
    (wider : ∀ id, gap id → gap' id)
    (gone : (e.objects top.session).closed = false → top.gen = (e.objects top.session).expiryGen →
      gap' top.session) :
    Watching gap' { e with expiryHeap := rest } := by
  have sorted := watching.sorted
  rw [heap] at sorted
  refine ⟨(List.pairwise_cons.mp sorted).2, ?_, ?_⟩
  · intro id isOpen inGap
    obtain ⟨entry, member, named, gen, due⟩ :=
      watching.covered id isOpen fun gapped => inGap (wider id gapped)
    rw [heap] at member
    rcases List.mem_cons.mp member with rfl | later
    · subst named
      exact absurd (gone isOpen gen) inGap
    · exact ⟨entry, later, named, gen, due⟩
  · intro id isOpen inGap
    exact watching.near id isOpen fun gapped => inGap (wider id gapped)

/-- The loop of `on_expiry_timer` on a heap it has not looked at yet: the sessions that it
extends have no entry any more, and none of them has expired. -/
structure Extending (extended : List SessionId) (e : UdpEngine) : Prop where
  watching : Watching (fun id => id ∈ extended) e
  idle : ∀ id ∈ extended, (e.objects id).closed = false → (e.objects id).heapLive = false
  early : ∀ id ∈ extended, (e.objects id).closed = false → e.now < (e.objects id).expiry

theorem expireEntries_extending (entries : List ExpiryEntry) (e : UdpEngine)
    (extended : List SessionId) (heap : e.expiryHeap = entries) (extending : Extending extended e) :
    let result := expireEntries entries e extended
    Extending result.2 result.1 ∧ result.1.now = e.now ∧
      (∀ entry ∈ result.1.expiryHeap, e.now < entry.deadline) ∧
        ∀ id, (result.1.objects id).closed = false → (e.objects id).closed = false ∧
          (result.1.objects id).expiry = (e.objects id).expiry := by
  induction entries generalizing e extended with
  | nil =>
      refine ⟨extending, rfl, fun entry member => ?_, fun id isOpen => ⟨isOpen, rfl⟩⟩
      rw [show (expireEntries [] e extended).1.expiryHeap = [] from heap] at member
      cases member
  | cons top rest ih =>
      unfold expireEntries
      split
      · rename_i later
        refine ⟨extending, rfl, fun entry member => ?_, fun id isOpen => ⟨isOpen, rfl⟩⟩
        have sorted := extending.watching.sorted
        rw [heap] at sorted
        rw [show e.expiryHeap = top :: rest from heap] at member
        rcases List.mem_cons.mp member with rfl | behind
        · exact later
        · exact Int.lt_of_lt_of_le later ((List.pairwise_cons.mp sorted).1 entry behind)
      · dsimp only
        split
        · rename_i gone
          refine ih { e with expiryHeap := rest } extended rfl ⟨?_, extending.idle, extending.early⟩
          refine pop_watching extending.watching heap (fun _ member => member) fun isOpen gen => ?_
          have live : e.stale top = false := by
            unfold stale
            rw [isOpen, gen]
            simp
          exact absurd (gone.symm.trans live) (by decide)
        · rename_i live
          split
          · obtain ⟨kept, _, _, now⟩ := removeSession_heap e top.session
            have removed := remove_watching extending.watching top.session
            have closed : ((e.removeSession top.session).objects top.session).closed = true := by
              rw [removeSession_closed]
              simp
            have next := ih { e.removeSession top.session with expiryHeap := rest } extended rfl
              ⟨pop_watching removed (kept.trans heap) (fun _ member => member) fun isOpen _ =>
                  absurd (closed.symm.trans isOpen) (by decide), ?_, ?_⟩
            · obtain ⟨extends_, sameNow, due, from_⟩ := next
              refine ⟨extends_, sameNow.trans now, ?_, ?_⟩
              · rw [← now]
                exact due
              · intro id isOpen
                obtain ⟨isOpen', same⟩ := from_ id isOpen
                have object := (removeSession_object isOpen').1
                have before : ((e.removeSession top.session).objects id).closed = false := isOpen'
                rw [object] at before
                refine ⟨before, same.trans ?_⟩
                exact congrArg UdpSession.expiry object
            · intro id member isOpen
              have object := (removeSession_object isOpen).1
              have before : ((e.removeSession top.session).objects id).closed = false := isOpen
              rw [object] at before
              exact (congrArg UdpSession.heapLive object).trans (extending.idle id member before)
            · intro id member isOpen
              have object := (removeSession_object isOpen).1
              have before : ((e.removeSession top.session).objects id).closed = false := isOpen
              rw [object] at before
              have early := extending.early id member before
              rw [← congrArg UdpSession.expiry object, ← now] at early
              exact early
          · rename_i unexpired
            have later : e.now < (e.objects top.session).expiry := Int.not_le.mp unexpired
            have elsewhere {id : SessionId} (apart : id ≠ top.session) :
                (e.put top.session { e.objects top.session with heapLive := false }).objects id =
                  e.objects id := e.put_other top.session _ apart
            have closed (id : SessionId) :=
              e.put_field top.session { e.objects top.session with heapLive := false }
                UdpSession.closed rfl id
            have expiry (id : SessionId) :=
              e.put_field top.session { e.objects top.session with heapLive := false }
                UdpSession.expiry rfl id
            have marked : Watching (fun id => id ∈ extended)
                (e.put top.session { e.objects top.session with heapLive := false }) := by
              have gen (id : SessionId) :=
                e.put_field top.session { e.objects top.session with heapLive := false }
                  UdpSession.expiryGen rfl id
              have timeout (id : SessionId) :=
                e.put_field top.session { e.objects top.session with heapLive := false }
                  UdpSession.timeout rfl id
              refine ⟨extending.watching.sorted, fun id isOpen inGap => ?_, fun id isOpen inGap => ?_⟩
              · unfold Covers
                rw [gen, expiry]
                exact extending.watching.covered id ((closed id).symm.trans isOpen) inGap
              · rw [expiry, timeout]
                exact extending.watching.near id ((closed id).symm.trans isOpen) inGap
            have next := ih
              { e.put top.session { e.objects top.session with heapLive := false } with
                expiryHeap := rest } (extended ++ [top.session]) rfl
              ⟨pop_watching marked heap (fun id member => List.mem_append_left _ member)
                fun _ _ => List.mem_append_right _ List.mem_cons_self, ?_, ?_⟩
            · obtain ⟨extends_, sameNow, due, from_⟩ := next
              refine ⟨extends_, sameNow, due, fun id isOpen => ?_⟩
              obtain ⟨isOpen', same⟩ := from_ id isOpen
              exact ⟨(closed id).symm.trans isOpen', same.trans (expiry id)⟩
            · intro id member isOpen
              by_cases here : id = top.session
              · subst here
                exact congrArg UdpSession.heapLive (e.put_self top.session _)
              · have old : id ∈ extended := by
                  rcases List.mem_append.mp member with old | new
                  · exact old
                  · exact absurd (List.mem_singleton.mp new) here
                exact (congrArg UdpSession.heapLive (elsewhere here)).trans
                  (extending.idle id old ((closed id).symm.trans isOpen))
            · intro id member isOpen
              refine (expiry id).symm ▸ ?_
              by_cases here : id = top.session
              · rw [here]
                exact later
              · have old : id ∈ extended := by
                  rcases List.mem_append.mp member with old | new
                  · exact old
                  · exact absurd (List.mem_singleton.mp new) here
                exact extending.early id old ((closed id).symm.trans isOpen)

theorem refresh_object (e : UdpEngine) {id other : SessionId} (apart : other ≠ id) :
    (e.refreshExpiry id).objects other = e.objects other := by
  rcases refreshExpiry_cases e id with ⟨_, same⟩ | ⟨_, _, same⟩ | ⟨_, _, same⟩
  · rw [same]
  · rw [same]
    exact e.put_other id _ apart
  · rw [same, arm_objects]
    exact e.put_other id _ apart

/-- The refreshes of `on_expiry_timer` close the gap. -/
theorem refreshes_watching (ids : List SessionId) (e : UdpEngine) {gap : SessionId → Prop}
    (watching : Watching gap e) (listed : ∀ id, gap id → id ∈ ids)
    (idle : ∀ id, gap id → (e.objects id).closed = false → (e.objects id).heapLive = false) :
    Watching (fun _ => False) (ids.foldl refreshExpiry e) := by
  induction ids generalizing e gap with
  | nil => exact watching.widen fun id gapped => List.not_mem_nil (listed id gapped)
  | cons id rest ih =>
      refine ih (e.refreshExpiry id) (refresh_watching watching id (idle id)) ?_ ?_
      · rintro other ⟨gapped, apart⟩
        exact (List.mem_cons.mp (listed other gapped)).resolve_left apart
      · rintro other ⟨gapped, apart⟩ isOpen
        rw [refresh_object e apart] at isOpen ⊢
        exact idle other gapped isOpen

theorem refreshes_closed (ids : List SessionId) (e : UdpEngine) (id : SessionId) :
    ((ids.foldl refreshExpiry e).objects id).closed = (e.objects id).closed := by
  induction ids generalizing e with
  | nil => rfl
  | cons first rest ih => exact (ih _).trans (object_closed (e.refreshExpiry_core first) id)

theorem expire_extending (watching : Watching (fun _ => False) e) :
    Extending [] { e with timerWaiting := false } :=
  ⟨⟨watching.sorted, fun id isOpen _ => watching.covered id isOpen not_false,
      fun id isOpen _ => watching.near id isOpen not_false⟩,
    fun _ member => absurd member List.not_mem_nil,
    fun _ member => absurd member List.not_mem_nil⟩

theorem Watched.onExpiryTimer (watched : Watched e) (failed : Bool) :
    Watched (e.onExpiryTimer failed) := by
  have stopped : Watching (fun _ => False) { e with timerWaiting := false } :=
    ⟨watched.watching.sorted, watched.watching.covered, watched.watching.near⟩
  unfold UdpEngine.onExpiryTimer
  dsimp only
  split
  · exact ⟨arm_watching stopped, arm_waits stopped.sorted⟩
  · obtain ⟨extending, _⟩ := expireEntries_extending e.expiryHeap { e with timerWaiting := false } []
      rfl (expire_extending watched.watching)
    have refreshed := refreshes_watching _ _ extending.watching (fun _ member => member)
      extending.idle
    exact ⟨arm_watching refreshed, arm_waits refreshed.sorted⟩

/-- When the timer has gone off, every session that has expired is gone. -/
theorem onExpiryTimer_examines (watched : Watched e) (id : SessionId)
    (expired : (e.objects id).expiry ≤ e.now) :
    ((e.onExpiryTimer false).objects id).closed = true := by
  obtain ⟨extending, now, due, kept⟩ := expireEntries_extending e.expiryHeap
    { e with timerWaiting := false } [] rfl (expire_extending watched.watching)
  unfold UdpEngine.onExpiryTimer
  dsimp only
  rw [if_neg (by decide), arm_objects, refreshes_closed]
  generalize expireEntries e.expiryHeap { e with timerWaiting := false } [] = result at *
  by_contra left
  have isOpen : (result.1.objects id).closed = false := Bool.eq_false_of_not_eq_true left
  obtain ⟨_, same⟩ := kept id isOpen
  have expired : (result.1.objects id).expiry ≤ e.now := same ▸ expired
  by_cases extended : id ∈ result.2
  · have early := extending.early id extended isOpen
    rw [now] at early
    exact absurd early (Int.not_lt.mpr expired)
  · obtain ⟨entry, member, _, _, before⟩ := extending.watching.covered id isOpen extended
    exact absurd (due entry member) (Int.not_lt.mpr (Int.le_trans before expired))

/-! Steps of the engine. -/

/-- A datagram is delivered once the session is refreshed. -/
theorem deliverDatagram_watched (id : SessionId) (isOpen : (e.objects id).closed = false)
    (refreshed : Watched (e.refreshExpiry id)) (data : List UInt8) (sender : Endpoint) :
    Watched (e.deliverDatagram id data sender) := by
  unfold UdpEngine.deliverDatagram
  rw [if_neg (ne_true_of_eq_false isOpen)]
  dsimp only
  generalize e.refreshExpiry id = e at refreshed ⊢
  split
  · rename_i op rest _
    exact refreshed.congr (put_vigil e id { e.objects id with pendingReads := rest } rfl)
  · split
    · exact refreshed.congr rfl
    · split
      · exact refreshed.congr rfl
      · exact refreshed.congr (put_vigil e id { e.objects id with
          rxDatagrams := (e.objects id).rxDatagrams ++ [{ data := data, sender := sender }]
          rxBytes := (e.objects id).rxBytes + data.length } rfl)

theorem Watched.deliverDatagram (watched : Watched e) (id : SessionId) (data : List UInt8)
    (sender : Endpoint) : Watched (e.deliverDatagram id data sender) := by
  cases closed : (e.objects id).closed with
  | true =>
      have same : e.deliverDatagram id data sender = e := if_pos closed
      rwa [same]
  | false => exact deliverDatagram_watched id closed (watched.refresh id) data sender

/-- The new session is in the gap until it is refreshed. -/
theorem enterSession_watching (watching : Watching (fun _ => False) e) (key : UdpSessionKey) :
    Watching (fun id => id = e.created) (e.enterSession key) := by
  have elsewhere {id : SessionId} (apart : ¬id = e.created) :
      (e.enterSession key).objects id = e.objects id := Function.update_of_ne apart _ _
  refine ⟨watching.sorted, fun id isOpen apart => ?_, fun id isOpen apart => ?_⟩
  · rw [elsewhere apart] at isOpen
    obtain ⟨entry, member, named, gen, due⟩ := watching.covered id isOpen not_false
    refine ⟨entry, member, named, ?_, ?_⟩
    · rwa [elsewhere apart]
    · rwa [elsewhere apart]
  · rw [elsewhere apart] at isOpen ⊢
    exact watching.near id isOpen not_false

theorem Watched.openSession (watched : Watched e) (key : UdpSessionKey) (data : List UInt8)
    (sender : Endpoint) : Watched (e.openSession key data sender) := by
  have entered := enterSession_watching watched.watching key
  have object : (e.enterSession key).objects e.created = e.newSession key :=
    Function.update_self _ _ _
  have isOpen : ((e.enterSession key).objects e.created).closed = false := by
    rw [object]
    rfl
  have fresh : ((e.enterSession key).objects e.created).heapLive = false := by
    rw [object]
    rfl
  have refreshed : Watched ((e.enterSession key).refreshExpiry e.created) :=
    ⟨(refresh_watching entered e.created fun _ _ => fresh).widen fun _ gapped =>
        gapped.2 gapped.1,
      refresh_waits entered.sorted e.created (Or.inr ⟨isOpen, fun recent =>
        absurd (fresh.symm.trans recent.1) (by decide)⟩)⟩
  unfold UdpEngine.openSession
  split
  · exact watched.congr rfl
  · split
    · exact watched.congr rfl
    · dsimp only
      have delivered :=
        (deliverDatagram_watched e.created isOpen refreshed data sender).refresh e.created
      generalize ((e.enterSession key).deliverDatagram e.created data sender).refreshExpiry
        e.created = after at delivered ⊢
      unfold announceSession
      split
      · exact delivered.congr rfl
      · exact delivered.congr (put_vigil after e.created { after.objects e.created with
          pendingAccept := true, pendingIt := after.nextNode } rfl)

theorem Watched.onPacket (watched : Watched e) (ip : IpPacketInfo) (uh : UdpHeader)
    (verified : Bool) (body : List UInt8) : Watched (e.onPacket ip uh verified body) := by
  unfold UdpEngine.onPacket
  dsimp only
  split
  · exact watched.congr rfl
  · split
    · exact watched.congr rfl
    · unfold receiveDatagram
      split
      · split
        · exact watched.deliverDatagram _ _ _
        · rename_i key _ _ _
          have erased : Watched { e with sessions := e.sessions.filter fun entry =>
              entry.1 ≠ { srcIp := addressOf ip.family ip.srcIp, srcPort := uh.srcPort,
                          family := ip.family } } := watched.congr rfl
          exact erased.openSession _ _ _
      · exact watched.openSession _ _ _

theorem Watched.asyncAccept (watched : Watched e) (handler : HandlerId) :
    Watched (e.asyncAccept handler) := by
  have accepts (queue : List (NodeId × SessionId)) (e : UdpEngine) (watched : Watched e) :
      Watched (UdpEngine.acceptFrom queue e handler) := by
    induction queue generalizing e with
    | nil => exact watched.congr rfl
    | cons node rest ih =>
        have popped : Watched { e.put node.2 { e.objects node.2 with pendingAccept := false } with
            pendingNewSessions := rest } :=
          watched.congr (put_vigil e node.2 { e.objects node.2 with pendingAccept := false } rfl)
        unfold UdpEngine.acceptFrom
        dsimp only
        split
        · exact ih _ popped
        · exact popped.congr rfl
  exact accepts e.pendingNewSessions e watched

/-- Nothing is left to be watched once every session is closed. -/
theorem Watched.closeAll (tabled : Tabled e) : Watched e.closeAll := by
  have shut : ∀ id, (e.closeAll.objects id).closed = true := by
    intro id
    have closed : (((e.sessions.map Prod.snd).foldl removeSession
        { e with timerWaiting := false }).objects id).closed = true := by
      rw [removeSessions_closed, Bool.or_eq_true, decide_eq_true_iff, or_iff_not_imp_right]
      intro isOpen
      exact List.mem_map_of_mem (tabled.indexed.stored id (Bool.eq_false_of_not_eq_true isOpen))
    exact closed
  refine ⟨⟨List.Pairwise.nil, fun id isOpen => ?_, fun id isOpen => ?_⟩, fun entry member => ?_⟩
  · exact absurd ((shut id).symm.trans isOpen) (by decide)
  · exact absurd ((shut id).symm.trans isOpen) (by decide)
  · cases member

/-- A new timeout within the throttle that has the session expire before its entry is due. -/
def Shortens (e : UdpEngine) : UdpEvent → Prop
  | .setTimeout id timeout =>
      (e.objects id).closed = false ∧ e.throttled id ∧
        ∃ entry ∈ e.expiryHeap, (entry.session = id ∧ entry.gen = (e.objects id).expiryGen) ∧
          e.now + timeout * 1000 < entry.deadline
  | _ => False

instance (e : UdpEngine) (event : UdpEvent) : Decidable (Shortens e event) :=
  match event with
  | .setTimeout _ _ => inferInstanceAs (Decidable (_ ∧ _ ∧ _))
  | .packet .. | .runt | .asyncAccept _ | .cancelAccepts | .closeAll | .receive .. | .send ..
  | .close _ | .expiryTimer .. | .tick _ | .elsewhere _ => isFalse id

theorem Watched.setTimeout (watched : Watched e) (id : SessionId) (timeout : Int)
    (late : ¬Shortens e (.setTimeout id timeout)) : Watched (e.setTimeout id timeout) := by
  cases closed : (e.objects id).closed with
  | true =>
      have same : e.setTimeout id timeout = e := if_pos closed
      rwa [same]
  | false =>
      have object := e.put_self id { e.objects id with timeout := timeout }
      have elsewhere {other : SessionId} (apart : ¬other = id) :=
        e.put_other id { e.objects id with timeout := timeout } apart
      have changed : Watching (fun other => other = id)
          (e.put id { e.objects id with timeout := timeout }) := by
        refine ⟨watched.watching.sorted, fun other isOpen apart => ?_, fun other isOpen apart => ?_⟩
        · rw [elsewhere apart] at isOpen
          obtain ⟨entry, member, named, gen, due⟩ :=
            watched.watching.covered other isOpen not_false
          refine ⟨entry, member, named, ?_, ?_⟩
          · rwa [elsewhere apart]
          · rwa [elsewhere apart]
        · rw [elsewhere apart] at isOpen ⊢
          exact watched.watching.near other isOpen not_false
      have waits : Waits (e.put id { e.objects id with timeout := timeout }) := by
        intro entry member live
        have live : e.stale entry = false :=
          (put_stale id { e.objects id with timeout := timeout } rfl rfl entry).symm.trans live
        exact watched.waits entry member live
      have isOpen : ((e.put id { e.objects id with timeout := timeout }).objects id).closed = false := by
        rw [object]
        exact closed
      have same : e.setTimeout id timeout =
          (e.put id { e.objects id with timeout := timeout }).refreshExpiry id :=
        if_neg (ne_true_of_eq_false closed)
      rw [same]
      refine ⟨?_, refresh_waits changed.sorted id (Or.inl waits)⟩
      rcases refreshExpiry_cases (e.put id { e.objects id with timeout := timeout }) id with
        ⟨shut, _⟩ | ⟨_, recent, same⟩ | ⟨_, _, same⟩
      · exact absurd (shut.symm.trans isOpen) (by decide)
      · rw [same]
        refine (renewed_watching changed ?_).widen fun _ gapped => gapped.2 gapped.1
        obtain ⟨entry, member, named, gen, _⟩ := watched.watching.covered id closed not_false
        unfold throttled at recent
        rw [object] at recent ⊢
        exact ⟨entry, member, named, gen, Int.not_lt.mp fun before =>
          late ⟨closed, recent, entry, member, ⟨named, gen⟩, before⟩⟩
      · rw [same]
        exact (arm_watching (repush_watching changed id)).widen fun _ gapped => gapped.2 gapped.1

theorem Watched.step (watched : Watched e) (tabled : Tabled e) (event : UdpEvent)
    (late : ¬Shortens e event) : Watched (e.step event) := by
  cases event with
  | packet ip uh verified body => exact watched.onPacket ip uh verified body
  | runt => exact watched.congr rfl
  | asyncAccept handler => exact watched.asyncAccept handler
  | cancelAccepts => exact watched.congr rfl
  | closeAll => exact Watched.closeAll tabled
  | receive id buffers handler =>
      change Watched (e.startReceive id buffers handler)
      unfold startReceive
      dsimp only
      split
      · exact watched.congr rfl
      · split
        · rename_i datagram rest _
          exact watched.congr (put_vigil e id { e.objects id with
            rxDatagrams := rest
            rxBytes := sizeSub (e.objects id).rxBytes datagram.data.length } rfl)
        · exact watched.congr (put_vigil e id { e.objects id with
            pendingReads := (e.objects id).pendingReads ++
              [{ buffers := buffers, total := buffers.sum, handler := handler }] } rfl)
  | send id remote payload handler =>
      change Watched (e.startSend id remote payload handler)
      unfold startSend
      dsimp only
      split
      · exact watched.congr rfl
      · split
        · exact watched.congr rfl
        · split
          · exact watched.congr rfl
          · split
            · exact watched.congr rfl
            · exact (watched.refresh id).congr rfl
  | setTimeout id timeout => exact watched.setTimeout id timeout late
  | close id => exact watched.remove id
  | expiryTimer gen failed =>
      change Watched (if gen = e.waitGen then e.onExpiryTimer failed else e)
      split
      · exact watched.onExpiryTimer failed
      · exact watched
  | tick millis =>
      refine ⟨⟨watched.watching.sorted, watched.watching.covered, fun id isOpen inGap => ?_⟩,
        watched.waits⟩
      have near := watched.watching.near id isOpen inGap
      change (e.objects id).expiry ≤ (e.now + millis) + (e.objects id).timeout * 1000
      omega
  | elsewhere account => exact watched.congr rfl

theorem Watched.fresh (cfg : TunConfig) (account : BufferAccountant) (now : Int) :
    Watched (fresh cfg account now) := by
  refine ⟨⟨List.Pairwise.nil, fun id isOpen => ?_, fun id isOpen => ?_⟩, fun entry member => ?_⟩
  · exact absurd (show true = false from isOpen) (by decide)
  · exact absurd (show true = false from isOpen) (by decide)
  · cases member

theorem run_watch (cfg : TunConfig) (account : BufferAccountant) (now : Int)
    (events : List UdpEvent)
    (late : Throughout step (fun e event => ¬Shortens e event) (fresh cfg account now) events) :
    Watched ((fresh cfg account now).run events) :=
  (late.invariant (fun e => Tabled e ∧ Watched e)
    (fun _ event both late => ⟨both.1.step event, both.2.step both.1 event late⟩)
    ⟨Tabled.fresh cfg account now, Watched.fresh cfg account now⟩).2

/-- A datagram opens a session with a timeout of 30 seconds, then gets a new timeout. -/
def expiryEvents (millis : Nat) : List UdpEvent :=
  [.packet { family := 4, srcIp := Vector.replicate 16 1, dstIp := Vector.replicate 16 2 }
      { srcPort := 1, dstPort := 2, length := 9, checksum := 0 } true [5],
    .tick millis, .setTimeout 0 1]

end UdpEngine

end Tunio
