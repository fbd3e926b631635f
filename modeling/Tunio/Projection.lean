import Tunio.FlowTable
import Tunio.Times

/-!
One flow of the engine.  Seen from a flow that exists, a step of the engine is a few steps
of the flow itself; what the other flows do to the members they share is `elsewhere`.
-/

namespace Tunio

/-- What steps of a flow, and of others while the clock stands still, lead along. -/
structure Carries (along : Conn → Conn → Prop) : Prop where
  refl : ∀ c, along c c
  trans : ∀ {first second third}, along first second → along second third → along first third
  own : ∀ c event, event.isElsewhere = false → event.size ≤ World.maxPacket → along c (step c event)
  aside : ∀ (c : Conn) (eng : TcpEngine), eng.cfg = c.eng.cfg → eng.now = c.eng.now →
    along c { c with eng := eng }

/-- The same for steps that meet a condition. -/
structure Conveys (meets : Conn → Event → Prop) (along : Conn → Conn → Prop) : Prop where
  refl : ∀ c, along c c
  trans : ∀ {first second third}, along first second → along second third → along first third
  own : ∀ c event, event.isElsewhere = false → event.size ≤ World.maxPacket → meets c event →
    along c (step c event)
  aside : ∀ (c : Conn) (eng : TcpEngine), eng.cfg = c.eng.cfg → eng.now = c.eng.now →
    along c { c with eng := eng }

theorem Carries.conveys {along : Conn → Conn → Prop} (carries : Carries along) :
    Conveys (fun _ _ => True) along :=
  ⟨carries.refl, carries.trans, fun c event own small _ => carries.own c event own small,
    carries.aside⟩

namespace World

/-- The flow that a packet is for, with the segment. -/
def arrival (w : World) : WorldEvent → Option (FlowId × TcpHeader × List UInt8)
  | .packet ip th verified payload _ =>
      let hlen := th.headerLen
      if payload.bytes.length < 20 ∨ ¬verified then none
      else if hlen < 20 ∨ hlen > payload.bytes.length then none
      else (w.findFlow (makeFiveTuple ip th)).map fun id => (id, th, payload.bytes.drop hlen)
  | _ => none

variable {meets : Conn → Event → Prop} {along : Conn → Conn → Prop}

/-- One flow is operated on; for the others only the engine has changed. -/
theorem set_along (conveys : Conveys meets along) (w : World) {id : FlowId} {after : Conn}
    (here : along (w.conn id) after) (cfg : after.eng.cfg = w.eng.cfg)
    (now : after.eng.now = w.eng.now) (other : FlowId) :
    along (w.conn other) ((w.set id after).conn other) := by
  by_cases same : other = id
  · subst same
    have self : (w.set other after).conn other = after := by
      unfold conn
      rw [set_self]
      rfl
    rw [self]
    exact here
  · have elsewhere : (w.set id after).conn other = { w.conn other with eng := after.eng } := by
      unfold conn
      rw [w.set_other id after same]
      rfl
    rw [elsewhere]
    exact conveys.aside (w.conn other) after.eng cfg now

theorem on_along (conveys : Conveys meets along) (w : World) (id : FlowId) (operation : Conn → Conn)
    (event : Event) (same : operation (w.conn id) = Tunio.step (w.conn id) event)
    (own : event.isElsewhere = false) (small : event.size ≤ maxPacket)
    (met : meets (w.conn id) event) (other : FlowId) :
    along (w.conn other) ((w.on id operation).conn other) := by
  have ages := step_ages (w.conn id) event own
  rw [on, same]
  exact w.set_along conveys (conveys.own _ event own small met) ages.cfg ages.now other

theorem drop_along (conveys : Conveys meets along) (w : World) (id : FlowId) :
    along (w.conn id) (w.drop.conn id) := conveys.aside (w.conn id) w.drop.eng rfl rfl

theorem openFlow_along (conveys : Conveys meets along) (w : World) (key : FiveTuple)
    (th : TcpHeader) (payload data : List UInt8) (iss : UInt32) {id : FlowId}
    (old : id < w.created) :
    along (w.conn id) ((w.openFlow key th payload data iss).conn id) := by
  unfold World.openFlow
  split
  · exact w.drop_along conveys id
  · have times := openFlow_times w.eng w.created key th payload data iss
    have elsewhere : (w.enterFlow key th payload data iss).conn id =
        { w.conn id with eng := (Tunio.openFlow w.eng w.created key th payload data iss).eng } := by
      have same := w.set_other w.created (Tunio.openFlow w.eng w.created key th payload data iss)
        (Nat.ne_of_lt old)
      unfold conn
      show ({ (w.set w.created _).records id with eng := _ } : Conn) = _
      rw [same]
      rfl
    rw [elsewhere]
    exact conveys.aside (w.conn id) _ (congrArg Times.cfg times) (congrArg Times.now times)

/-- A segment that finds an open flow of the table. -/
theorem receiveSegment_found {c : Conn} (isOpen : c.flow.state ≠ .closed) (th : TcpHeader)
    (data : List UInt8) :
    Tunio.step c (.segment th data) =
      if c.flow.state = .timeWait ∧ isSyn th then closeFlow c .success else handleSegment c th data := by
  show Tunio.receiveSegment c th data = _
  unfold Tunio.receiveSegment
  rw [if_neg isOpen]

theorem receiveSegment_along (conveys : Conveys meets along) {w : World} (kept : Kept w)
    (key : FiveTuple) (th : TcpHeader) (payload data : List UInt8) (iss : UInt32)
    (small : data.length ≤ maxPacket)
    (met : ∀ id, w.findFlow key = some id → meets (w.conn id) (.segment th data))
    {id : FlowId} (old : id < w.created) :
    along (w.conn id) ((w.receiveSegment key th payload data iss).conn id) := by
  unfold World.receiveSegment
  unfold findFlow at met ⊢
  cases found : w.eng.flows.find? fun entry => entry.1 = key with
  | none =>
      dsimp only [Option.map_none]
      split
      · exact w.openFlow_along conveys key th payload data iss old
      · exact conveys.refl _
  | some entry =>
      have isOpen := (kept.indexed.listed entry (List.mem_of_find?_eq_some found)).2
      have event := receiveSegment_found (c := w.conn entry.2) isOpen th data
      have met := met entry.2 (by rw [found]; rfl)
      dsimp only [Option.map_some]
      split
      · rename_i reused
        have same : closeFlow (w.conn entry.2) .success =
            Tunio.step (w.conn entry.2) (.segment th data) := by rw [event]; exact (if_pos reused).symm
        refine conveys.trans (w.on_along conveys entry.2 (fun c => closeFlow c .success)
          (.segment th data) same rfl small met id) ?_
        exact openFlow_along conveys _ key th payload data iss old
      · rename_i kept
        have same : handleSegment (w.conn entry.2) th data =
            Tunio.step (w.conn entry.2) (.segment th data) := by rw [event]; exact (if_neg kept).symm
        exact w.on_along conveys entry.2 (fun c => handleSegment c th data)
          (.segment th data) same rfl small met id

/-- The flows of a list take a step, one after the other. -/
theorem fold_conveys (conveys : Conveys meets along) (event : Event)
    (own : event.isElsewhere = false) (small : event.size ≤ maxPacket)
    (met : ∀ c, meets c event) (ids : List FlowId) (w : World) (id : FlowId) :
    along (w.conn id)
      ((ids.foldl (fun w id => w.on id fun c => Tunio.step c event) w).conn id) := by
  induction ids generalizing w with
  | nil => exact conveys.refl _
  | cons first rest ih =>
      exact conveys.trans (w.on_along conveys first _ event rfl own small (met _) id) (ih _)

theorem fold_along (carries : Carries along) (event : Event) (own : event.isElsewhere = false)
    (small : event.size ≤ maxPacket) (ids : List FlowId) (w : World) (id : FlowId) :
    along (w.conn id)
      ((ids.foldl (fun w id => w.on id fun c => Tunio.step c event) w).conn id) :=
  fold_conveys carries.conveys event own small (fun _ => trivial) ids w id

theorem asyncAccept_along (conveys : Conveys meets along) {w : World} (kept : Kept w)
    (handler : HandlerId) (met : ∀ c, meets c .handOut) (id : FlowId) :
    along (w.conn id) ((w.asyncAccept handler).conn id) := by
  cases queue : w.eng.pendingFlows with
  | nil =>
      rw [asyncAccept_nil queue]
      exact conveys.aside (w.conn id) _ rfl rfl
  | cons first rest =>
      have waiting := (kept.queue first).mp (queue ▸ List.mem_cons_self)
      have pending : (w.records first).flow.pendingAccept = true :=
        (kept.waits first waiting.1 waiting.2).pendingAccept
      rw [asyncAccept_cons queue waiting.1]
      -- the flow in front is handed out, then the completion is posted
      have given : Tunio.step (w.conn first) .handOut =
          { w.conn first with flow.pendingAccept := false, flow.accepted := true } := by
        show handOut (w.conn first) = _
        have pending : (w.conn first).flow.pendingAccept = true := pending
        have isOpen : (w.conn first).flow.state ≠ .closed := waiting.1
        unfold handOut
        dsimp only
        rw [if_pos pending, if_neg isOpen]
      have own := conveys.own (w.conn first) .handOut rfl (Nat.zero_le _) (met _)
      have first := w.set_along conveys (given ▸ own) rfl rfl id
      exact conveys.trans first (conveys.aside _ _ rfl rfl)

theorem closeAll_along (conveys : Conveys meets along) (w : World) (met : ∀ c, meets c .closeAll)
    (id : FlowId) : along (w.conn id) (w.closeAll.conn id) := by
  have closed := fold_conveys conveys .closeAll rfl (Nat.zero_le _) met (w.eng.flows.map Prod.snd) w id
  exact conveys.trans closed (conveys.aside _ _ rfl rfl)

/-- What steps of flows lead along, a step of the engine carries every flow along; the segment
that it brings must meet the condition, and everything else always does. -/
theorem step_conveys (conveys : Conveys meets along) {w : World} (kept : Kept w)
    (event : WorldEvent) (still : ∀ millis, event ≠ .tick millis)
    (others : ∀ c event, (∀ th data, event ≠ .segment th data) → meets c event)
    (met : ∀ id th data, w.arrival event = some (id, th, data) →
      meets (w.conn id) (.segment th data))
    {id : FlowId} (old : id < w.created) : along (w.conn id) ((w.step event).conn id) := by
  cases event with
  | packet ip th verified payload iss =>
      show along _ ((w.onPacket ip th verified payload.bytes iss).conn id)
      unfold arrival at met
      unfold onPacket
      dsimp only at met ⊢
      split
      · exact w.drop_along conveys id
      · rename_i whole
        rw [if_neg whole] at met
        split
        · exact w.drop_along conveys id
        · rename_i sound
          rw [if_neg sound] at met
          refine receiveSegment_along conveys kept _ th _ _ iss ?_ (fun other found => ?_) old
          · rw [List.length_drop]
            exact (Nat.sub_le _ _).trans payload.small
          · refine met other th _ ?_
            rw [found]
            rfl
  | asyncAccept handler =>
      exact asyncAccept_along conveys kept handler (fun c => others c _ nofun) id
  | cancelAccepts => exact conveys.aside (w.conn id) w.cancelAccepts.eng rfl rfl
  | closeAll => exact w.closeAll_along conveys (fun c => others c _ nofun) id
  | sweep =>
      exact fold_conveys conveys .sweep rfl (Nat.zero_le _) (fun c => others c _ nofun) _ w id
  | call other call =>
      have own : call.event.isElsewhere = false := by cases call <;> rfl
      have small : call.event.size ≤ maxPacket := by cases call <;> exact Nat.zero_le _
      unfold World.step
      dsimp only
      split
      · exact w.on_along conveys other (fun c => Tunio.step c call.event) call.event rfl
          own small (others _ _ (by cases call <;> nofun)) id
      · exact conveys.refl _
  | task other task =>
      have own : task.event.isElsewhere = false := by cases task <;> rfl
      have small : task.event.size ≤ maxPacket := by cases task <;> exact Nat.zero_le _
      exact w.on_along conveys other (fun c => Tunio.step c task.event) task.event rfl
        own small (others _ _ (by cases task <;> nofun)) id
  | tick millis => exact absurd rfl (still millis)
  | elsewhere account => exact conveys.aside (w.conn id) { w.eng with account := account } rfl rfl

theorem step_along (carries : Carries along) {w : World} (kept : Kept w) (event : WorldEvent)
    (still : ∀ millis, event ≠ .tick millis) {id : FlowId} (old : id < w.created) :
    along (w.conn id) ((w.step event).conn id) :=
  step_conveys carries.conveys kept event still (fun _ _ _ => trivial) (fun _ _ _ _ => trivial) old

/-! The flows that a step creates. -/

/-- The configuration and the number of flows are as before. -/
def Even (before after : World) : Prop :=
  after.eng.cfg = before.eng.cfg ∧ after.created = before.created

theorem on_even (w : World) (id : FlowId) (event : Event) (own : event.isElsewhere = false) :
    Even w (w.on id fun c => Tunio.step c event) :=
  ⟨(step_ages (w.conn id) event own).cfg, rfl⟩

theorem fold_even (event : Event) (own : event.isElsewhere = false) (ids : List FlowId) (w : World) :
    Even w (ids.foldl (fun w id => w.on id fun c => Tunio.step c event) w) := by
  induction ids generalizing w with
  | nil => exact ⟨rfl, rfl⟩
  | cons id rest ih =>
      have first := w.on_even id event own
      have later := ih (w.on id fun c => Tunio.step c event)
      exact ⟨later.1.trans first.1, later.2.trans first.2⟩

/-- A step creates no flow, or the next one, as `on_packet` opens it. -/
inductive Creates (before after : World) : Prop
  | none : Even before after → Creates before after
  | one (eng : TcpEngine) (key : FiveTuple) (th : TcpHeader) (payload data : List UInt8)
      (iss : UInt32) : eng.cfg = before.eng.cfg → eng.now = before.eng.now →
      after.eng.cfg = before.eng.cfg → after.created = before.created + 1 →
      after.conn before.created = Tunio.openFlow eng before.created key th payload data iss →
      Creates before after

theorem openFlow_creates {before w : World} (even : Even before w)
    (now : w.eng.now = before.eng.now) (key : FiveTuple) (th : TcpHeader)
    (payload data : List UInt8) (iss : UInt32) :
    Creates before (w.openFlow key th payload data iss) := by
  unfold World.openFlow
  split
  · exact Creates.none even
  · have times := openFlow_times w.eng w.created key th payload data iss
    refine Creates.one w.eng key th payload data iss even.1 now
      ((congrArg Times.cfg times).trans even.1) (congrArg (· + 1) even.2) ?_
    rw [← even.2]
    unfold conn enterFlow
    dsimp only
    rw [set_self]
    rfl

theorem receiveSegment_creates (w : World) (key : FiveTuple) (th : TcpHeader)
    (payload data : List UInt8) (iss : UInt32) :
    Creates w (w.receiveSegment key th payload data iss) := by
  unfold World.receiveSegment
  split
  · rename_i id _
    split
    · have times := closeFlow_times (w.conn id) .success
      have even : Even w (w.on id fun c => closeFlow c .success) := ⟨congrArg Times.cfg times, rfl⟩
      exact openFlow_creates even (congrArg Times.now times) key th payload data iss
    · have path : Unfolds data.length .operation (w.conn id) (handleSegment (w.conn id) th data) :=
        Unfolds.handleSegment (w.conn id) th data (Nat.le_refl _)
      exact Creates.none ⟨(Ages.path path.inside).cfg, rfl⟩
  · split
    · exact openFlow_creates ⟨rfl, rfl⟩ rfl key th payload data iss
    · exact Creates.none ⟨rfl, rfl⟩

theorem step_creates {w : World} (kept : Kept w) (event : WorldEvent) : Creates w (w.step event) := by
  cases event with
  | packet ip th verified payload iss =>
      show Creates w (w.onPacket ip th verified payload.bytes iss)
      unfold onPacket
      dsimp only
      split
      · exact Creates.none ⟨rfl, rfl⟩
      · split
        · exact Creates.none ⟨rfl, rfl⟩
        · exact w.receiveSegment_creates _ th _ _ iss
  | asyncAccept handler =>
      refine Creates.none ?_
      show Even w (w.asyncAccept handler)
      cases queue : w.eng.pendingFlows with
      | nil =>
          rw [asyncAccept_nil queue]
          exact ⟨rfl, rfl⟩
      | cons first rest =>
          rw [asyncAccept_cons queue ((kept.queue first).mp (queue ▸ List.mem_cons_self)).1]
          exact ⟨rfl, rfl⟩
  | closeAll => exact Creates.none (fold_even .closeAll rfl _ w)
  | sweep => exact Creates.none (fold_even .sweep rfl _ w)
  | call id call =>
      refine Creates.none ?_
      unfold World.step
      dsimp only
      split
      · exact w.on_even id call.event (by cases call <;> rfl)
      · exact ⟨rfl, rfl⟩
  | task id task => exact Creates.none (w.on_even id task.event (by cases task <;> rfl))
  | cancelAccepts | tick | elsewhere => exact Creates.none ⟨rfl, rfl⟩

/-- What a flow starts with and keeps, whatever happens to it and around it. -/
structure Persists (meets : Conn → Event → Prop) (holds : Conn → Prop) : Prop where
  own : ∀ c event, event.isElsewhere = false → event.size ≤ maxPacket → meets c event → holds c →
    holds (Tunio.step c event)
  aside : ∀ (c : Conn) (eng : TcpEngine), eng.cfg = c.eng.cfg → c.eng.now ≤ eng.now → holds c →
    holds { c with eng := eng }
  opened : ∀ eng id key th payload data iss, holds (Tunio.openFlow eng id key th payload data iss)

theorem Persists.step {meets : Conn → Event → Prop} {holds : Conn → Prop}
    (persists : Persists meets holds) {w : World} (kept : Kept w) (event : WorldEvent)
    (others : ∀ c event, (∀ th data, event ≠ .segment th data) → meets c event)
    (met : ∀ id th data, w.arrival event = some (id, th, data) →
      meets (w.conn id) (.segment th data))
    (all : ∀ id < w.created, holds (w.conn id)) :
    ∀ id < (w.step event).created, holds ((w.step event).conn id) := by
  have conveys : Conveys meets fun before after => holds before → holds after := {
    refl := fun _ => id
    trans := fun one two => two ∘ one
    own := fun c event own small met => persists.own c event own small met
    aside := fun c eng cfg now => persists.aside c eng cfg now.ge }
  have later : ∀ id < w.created, holds ((w.step event).conn id) := by
    intro id old
    by_cases ticks : ∃ millis, event = .tick millis
    · obtain ⟨millis, rfl⟩ := ticks
      exact persists.aside (w.conn id) (w.step (.tick millis)).eng rfl
        (show w.eng.now ≤ w.eng.now + millis by omega) (all id old)
    · exact step_conveys conveys kept event (not_exists.mp ticks) others met old (all id old)
  intro id old
  cases step_creates kept event with
  | none even => exact later id (even.2 ▸ old)
  | one eng key th payload data iss _ _ _ created opened =>
      rw [created] at old
      rcases Nat.lt_succ_iff_lt_or_eq.mp old with earlier | rfl
      · exact later id earlier
      · rw [opened]
        exact persists.opened eng _ key th payload data iss

theorem step_cfg {w : World} (kept : Kept w) (event : WorldEvent) :
    (w.step event).eng.cfg = w.eng.cfg := by
  cases step_creates kept event with
  | none even => exact even.1
  | one _ _ _ _ _ _ _ _ cfg => exact cfg

/-- A segment arrives at an open flow. -/
theorem arrival_open {w : World} (kept : Kept w) {event : WorldEvent} {id : FlowId} {th : TcpHeader}
    {data : List UInt8} (arrives : w.arrival event = some (id, th, data)) :
    (w.records id).flow.state ≠ .closed := by
  unfold arrival at arrives
  split at arrives
  · dsimp only at arrives
    split at arrives
    · cases arrives
    · split at arrives
      · cases arrives
      · unfold findFlow at arrives
        obtain ⟨found, member, same⟩ := Option.map_eq_some_iff.mp arrives
        obtain ⟨entry, entryFound, rfl⟩ := Option.map_eq_some_iff.mp member
        obtain ⟨rfl, _⟩ := Prod.mk.inj same
        exact (kept.indexed.listed entry (List.mem_of_find?_eq_some entryFound)).2
  · cases arrives

theorem arrival_small {w : World} {event : WorldEvent} {id : FlowId} {th : TcpHeader}
    {data : List UInt8} (arrives : w.arrival event = some (id, th, data)) :
    data.length ≤ maxPacket := by
  unfold arrival at arrives
  split at arrives
  · rename_i payload _
    dsimp only at arrives
    split at arrives
    · cases arrives
    · split at arrives
      · cases arrives
      · obtain ⟨found, _, same⟩ := Option.map_eq_some_iff.mp arrives
        obtain ⟨_, same⟩ := Prod.mk.inj same
        obtain ⟨_, rfl⟩ := Prod.mk.inj same
        rw [List.length_drop]
        exact (Nat.sub_le _ _).trans payload.small
  · cases arrives

/-! Every flow of the engine makes a run. -/

/-- The flow gets there by events of its own and of others. -/
def Follows (before after : Conn) : Prop :=
  ∃ events : List Event, (∀ event ∈ events, event.size ≤ maxPacket) ∧
    after = Tunio.run before events

theorem Follows.trans {first second third : Conn} (one : Follows first second)
    (two : Follows second third) : Follows first third := by
  obtain ⟨early, small, rfl⟩ := one
  obtain ⟨late, small', rfl⟩ := two
  refine ⟨early ++ late, fun event member => ?_, (run_append first early late).symm⟩
  exact (List.mem_append.mp member).elim (small event) (small' event)

theorem Follows.aside (c : Conn) (eng : TcpEngine) (cfg : eng.cfg = c.eng.cfg)
    (now : c.eng.now ≤ eng.now) : Follows c { c with eng := eng } := by
  refine ⟨[.elsewhere eng], ?_, ?_⟩
  · intro event member
    rw [List.mem_singleton.mp member]
    exact Nat.zero_le _
  · show _ = ({ c with eng := { eng with cfg := c.eng.cfg, now := max c.eng.now eng.now } } : Conn)
    rw [max_eq_right now, ← cfg]

theorem Follows.carries : Carries Follows where
  refl c := ⟨[], fun _ member => absurd member List.not_mem_nil, rfl⟩
  trans := Follows.trans
  own c event _ small := by
    refine ⟨[event], fun other member => ?_, rfl⟩
    rwa [List.mem_singleton.mp member]
  aside c eng cfg now := Follows.aside c eng cfg now.ge

theorem step_follows {w : World} (kept : Kept w) (event : WorldEvent) {id : FlowId}
    (old : id < w.created) : Follows (w.conn id) ((w.step event).conn id) := by
  by_cases ticks : ∃ millis, event = .tick millis
  · obtain ⟨millis, rfl⟩ := ticks
    exact Follows.aside (w.conn id) (w.step (.tick millis)).eng rfl
      (show w.eng.now ≤ w.eng.now + millis by omega)
  · exact step_along Follows.carries kept event (not_exists.mp ticks) old

/-- The flow with this number starts with a SYN. -/
def Begun (cfg : TunConfig) (id : FlowId) (c : Conn) : Prop :=
  ∃ (eng : TcpEngine) (key : FiveTuple) (th : TcpHeader) (payload data : List UInt8) (iss : UInt32),
    eng.cfg = cfg ∧ Follows (Tunio.openFlow eng id key th payload data iss) c

theorem step_begun {cfg : TunConfig} {w : World} (kept : Kept w) (same : w.eng.cfg = cfg)
    (begun : ∀ id < w.created, Begun cfg id (w.conn id)) (event : WorldEvent) :
    (w.step event).eng.cfg = cfg ∧
      ∀ id < (w.step event).created, Begun cfg id ((w.step event).conn id) := by
  have later : ∀ id < w.created, Begun cfg id ((w.step event).conn id) := by
    intro id old
    obtain ⟨eng, key, th, payload, data, iss, same, follows⟩ := begun id old
    exact ⟨eng, key, th, payload, data, iss, same, follows.trans (step_follows kept event old)⟩
  cases step_creates kept event with
  | none even => exact ⟨even.1.trans same, fun id old => later id (even.2 ▸ old)⟩
  | one eng key th payload data iss cfg now sameCfg created opened =>
      refine ⟨sameCfg.trans same, fun id old => ?_⟩
      rw [created] at old
      rcases Nat.lt_succ_iff_lt_or_eq.mp old with earlier | rfl
      · exact later id earlier
      · rw [opened]
        exact ⟨eng, key, th, payload, data, iss, cfg.trans same, Follows.carries.refl _⟩

/-- Every flow that the engine has created got where it is by a run that starts with its
SYN. -/
theorem run_follows (cfg : TunConfig) (account : BufferAccountant) (now : Int)
    (events : List WorldEvent) (id : FlowId)
    (old : id < ((fresh cfg account now).run events).created) :
    Begun cfg id (((fresh cfg account now).run events).conn id) := by
  have general (w : World) (kept : Kept w) (same : w.eng.cfg = cfg)
      (begun : ∀ id < w.created, Begun cfg id (w.conn id)) :
      ∀ id < (w.run events).created, Begun cfg id ((w.run events).conn id) := by
    clear old
    induction events generalizing w with
    | nil => exact begun
    | cons event rest ih =>
        have next := step_begun kept same begun event
        exact ih (w.step event) (kept.step event) next.1 next.2
  exact general _ (Kept.fresh cfg account now) rfl
    (fun id early => absurd early (Nat.not_lt_zero id)) id old

end World

end Tunio
