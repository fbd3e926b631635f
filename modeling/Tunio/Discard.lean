import Tunio.Emission
import Tunio.Feeding
import Tunio.Reclaim

/-!
Data that nobody can read any more.  After `shutdown(receive)` in-order data is acknowledged
and discarded, and the queue stays empty.  `close` empties the queue as well, but
`deliver_data` does not look at its mark: what arrives in order afterwards is queued.
-/

namespace Tunio

open Machines Inbox

def Drained (flow : TcpFlow) : Prop :=
  flow.rxShutdown = true ∨ flow.appClosed = true → flow.rxBytes = 0 ∧ flow.rxData = []

/-- In-order data for a flow that is not read any more is acknowledged at once. -/
def Discards (c : Conn) : Event → Prop
  | .segment th data =>
      c.flow.rxShutdown = true ∨ c.flow.appClosed = true → (Event.segment th data).Feeds c →
        ∃ ack ∈ (step c (.segment th data)).out.drop c.out.length,
          hasFlag ack.flags tcpAck = true ∧ ack.ack = th.seq + UInt32.ofNat data.length
  | _ => True

/-- No data in order arrives for a flow that is closed but not shut down for receiving. -/
def Heeds (c : Conn) (event : Event) : Prop :=
  ¬(c.flow.appClosed = true ∧ c.flow.rxShutdown = false ∧ event.Feeds c)

instance (c : Conn) (event : Event) : Decidable (Heeds c event) :=
  inferInstanceAs (Decidable (¬(_ ∧ _ ∧ _)))

namespace Inbox

def Empty (box : Inbox) : Prop := box.rxBytes = 0 ∧ box.rxData = []

theorem Turns.empty {box next : Inbox} (turns : Turns box next) (empty : box.Empty) :
    next.Empty := by
  cases turns with
  | serve op queued => exact absurd empty.1 (Nat.ne_of_gt queued)
  | compact =>
      unfold Inbox.compact
      split
      · exact ⟨empty.1, by simp [empty.2]⟩
      · exact empty
  | fin =>
      unfold takeFin
      split <;> exact empty
  | drop => exact ⟨rfl, rfl⟩
  | close ec =>
      unfold closed complete
      split <;> exact ⟨rfl, rfl⟩
  | _ => exact empty

/-- A flow that is shut down for receiving, with nothing queued. -/
def Shunned (box : Inbox) : Prop := box.rxShutdown = true ∧ box.Empty

theorem Turns.shunned {box next : Inbox} (turns : Turns box next) (shunned : box.Shunned) :
    next.Shunned := by
  refine ⟨?_, turns.empty shunned.2⟩
  have shut := shunned.1
  cases turns with
  | shut => rfl
  | compact =>
      unfold Inbox.compact
      split <;> exact shut
  | fin =>
      unfold takeFin
      split <;> exact shut
  | close ec =>
      unfold closed complete
      split <;> exact shut
  | _ => exact shut

end Inbox

theorem Starves.empty {before after : Conn} (path : Starves before after)
    (empty : before.inbox.Empty) : after.inbox.Empty :=
  path.turns Empty (fun _ _ here turns => turns.empty here) empty

theorem Starves.shunned {before after : Conn} (path : Starves before after)
    (shunned : before.inbox.Shunned) : after.inbox.Shunned :=
  path.turns Shunned (fun _ _ here turns => turns.shunned here) shunned

/-! Delivering to a flow that is shut down. -/

theorem deliverData_shunned (c : Conn) (data : List UInt8) (shunned : c.inbox.Shunned) :
    (deliverData c data).inbox.Shunned := by
  have shut : c.flow.rxShutdown = true := shunned.1
  unfold deliverData
  split
  · exact shunned
  · rw [sendAck_inbox]
    exact shunned

theorem shunned_keeps : Inbox.Keeps Shunned :=
  .of_turns (fun _ _ here turns => turns.shunned here)
    fun c data _ shunned => deliverData_shunned c data shunned

/-! One step. -/

theorem tcpFlowShutdownReceive_empty (c : Conn) (isOpen : c.flow.state ≠ .closed) :
    (tcpFlowShutdownReceive c).inbox.Empty := by
  unfold tcpFlowShutdownReceive
  rw [if_neg isOpen]
  dsimp only
  rw [completeRead_inbox, dropReceived_inbox]
  unfold complete
  split <;> exact ⟨rfl, rfl⟩

theorem tcpFlowClose_empty (c : Conn) (usable : ¬(c.flow.state = .closed ∨ c.flow.appClosed = true)) :
    (tcpFlowClose c).inbox.Empty := by
  have begun : (beginClose c).inbox.Empty := by
    unfold beginClose
    rw [dropReceived_inbox]
    exact ⟨rfl, rfl⟩
  have left : (if c.flow.sndUna ≠ c.flow.sndNxt then abortFlow (beginClose c)
      else sendFin (beginClose c)).inbox.Empty := by
    split
    · exact (Starves.of (Unfolds.abortFlow _)).empty begun
    · exact (Starves.of (Unfolds.sendFin _)).empty begun
  rw [tcpFlowClose_eq c usable, completeWrite_inbox, completeRead_inbox]
  unfold complete
  split <;> exact left

theorem step_drained (c : Conn) (event : Event) (drained : Drained c.flow) (heeds : Heeds c event) :
    Drained (step c event).flow := by
  cases marks : event.marks with
  | true =>
      cases event with
      | shutdownReceive =>
          by_cases closed : c.flow.state = .closed
          · have same : step c .shutdownReceive = c := if_pos closed
            rwa [same]
          · exact fun _ => tcpFlowShutdownReceive_empty c closed
      | close =>
          by_cases unusable : c.flow.state = .closed ∨ c.flow.appClosed = true
          · have same : step c .close = c := if_pos unusable
            rwa [same]
          · exact fun _ => tcpFlowClose_empty c unusable
      | _ => cases marks
  | false =>
      have kept := step_marks c event marks
      intro marked
      have before : c.flow.rxShutdown = true ∨ c.flow.appClosed = true := by
        rwa [← show (step c event).flow.rxShutdown = c.flow.rxShutdown from
          congrArg Marks.rxShutdown kept, ← show (step c event).flow.appClosed = c.flow.appClosed from
          congrArg Marks.appClosed kept]
      have empty : c.inbox.Empty := drained before
      by_cases feeds : event.Feeds c
      · have shut : c.flow.rxShutdown = true := by
          by_contra reading
          exact heeds ⟨before.resolve_left reading, Bool.eq_false_of_not_eq_true reading, feeds⟩
        cases event with
        | segment th data =>
            obtain ⟨path, past, _, same⟩ := receiveSegment_takes c th data feeds.2.2
            generalize c.stage th = d at *
            change (receiveSegment c th data).inbox.Empty
            rw [same]
            exact (shunned_keeps.handlePayload past (path.starves.shunned ⟨shut, empty⟩) th data).2
        | _ => exact feeds.elim
      · exact (step_starves c event feeds).empty empty

/-! The acknowledgement of discarded data. -/

/-- Submitted on the way: an ACK of everything up to `ack`. -/
def Acks (before after : Conn) (ack : UInt32) : Prop :=
  ∃ segment ∈ after.out.drop before.out.length,
    hasFlag segment.flags tcpAck = true ∧ segment.ack = ack

theorem Steps.extends {allow : Conn → Effect → Prop} {before after : Conn}
    (path : Steps flowMachine allow before after) : before.out <+: after.out := by
  refine path.invariant (fun c => before.out <+: c.out) (List.prefix_refl _) ?_
  intro c effect here _ _
  obtain ⟨added, out, _⟩ := apply_grows c effect
  exact here.trans ⟨added, out.symm⟩

theorem Acks.later {before after last : Conn} {ack : UInt32} (acks : Acks before after ack)
    (extended : after.out <+: last.out) : Acks before last ack := by
  obtain ⟨segment, member, found⟩ := acks
  obtain ⟨added, out⟩ := extended
  refine ⟨segment, ?_, found⟩
  rw [← out, List.drop_append]
  exact List.mem_append_left _ member

theorem Acks.earlier {first before after : Conn} {ack : UInt32} (acks : Acks before after ack)
    (extended : first.out <+: before.out) : Acks first after ack := by
  obtain ⟨segment, member, found⟩ := acks
  refine ⟨segment, ?_, found⟩
  exact (List.drop_sublist_drop_left after.out extended.length_le).mem member

theorem sendAck_acks (c : Conn) (isOpen : c.flow.state ≠ .closed) :
    Acks c (sendAck c) c.flow.rcvNxt := by
  refine ⟨(buildSegment { c with flow.ackPending := false } c.flow.sndNxt tcpAck [] false).1, ?_,
    (by decide : hasFlag tcpAck tcpAck = true), rfl⟩
  unfold sendAck sendSegment
  rw [if_neg isOpen]
  dsimp only
  rw [List.drop_left]
  exact List.mem_singleton_self _

theorem deliverData_acks (c : Conn) (data : List UInt8) (isOpen : c.flow.state ≠ .closed)
    (shut : c.flow.rxShutdown = true) (filled : data ≠ []) :
    Acks c (deliverData c data) (c.flow.rcvNxt + UInt32.ofNat data.length) := by
  unfold deliverData
  rw [if_neg (by simpa using filled), if_pos shut]
  exact sendAck_acks { c with flow.rcvNxt := c.flow.rcvNxt + UInt32.ofNat data.length } isOpen

theorem handlePayload_acks (c : Conn) (th : TcpHeader) (data : List UInt8)
    (past : Past c.flow.state) (shut : c.flow.rxShutdown = true) (filled : data ≠ [])
    (inOrder : InOrder c.flow.rcvNxt th.seq data.length) :
    Acks c (handlePayload c th data) (th.seq + UInt32.ofNat data.length) := by
  obtain ⟨fresh, nonempty, next, same⟩ := handleData_inOrder c th.seq data th.flags inOrder
  have delivered := deliverData_acks c fresh past.1 shut (nonempty filled)
  have pastDelivered := (Quiet.deliverData c fresh).past past
  have flushed : Unfolds 1 .operation (deliverData c fresh) (flushOoo (deliverData c fresh)) :=
    Unfolds.flushOoo _ pastDelivered Nat.one_pos
  have acks := delivered.later (Steps.extends flushed)
  have pastFlushed := (Quiet.flushOoo _).past pastDelivered
  rw [next] at acks
  unfold handlePayload
  dsimp only
  rw [if_pos (List.length_pos_iff.mpr filled), same]
  generalize flushOoo (deliverData c fresh) = c₁ at acks pastFlushed ⊢
  refine acks.later (Steps.extends (Steps.trans ?_ (Starves.of (Unfolds.signalWrite _))))
  split
  · exact Starves.of (Unfolds.segmentFin c₁ _ _ pastFlushed)
  · exact Steps.refl c₁

theorem step_discards (c : Conn) (event : Event) (drained : Drained c.flow)
    (heeds : Heeds c event) : Discards c event := by
  cases event with
  | segment th data =>
      intro marked feeds
      have shut : c.flow.rxShutdown = true := by
        by_contra reading
        exact heeds ⟨marked.resolve_left reading, Bool.eq_false_of_not_eq_true reading, feeds⟩
      obtain ⟨filled, inOrder, takes⟩ := feeds
      obtain ⟨path, past, inbox, same⟩ := receiveSegment_takes c th data takes
      generalize c.stage th = d at *
      have shunned := path.starves.shunned ⟨shut, drained marked⟩
      have next : d.flow.rcvNxt = c.flow.rcvNxt := by
        rcases inbox with kept | flushed
        · exact congrArg Inbox.rcvNxt kept
        · exact (congrArg Inbox.rcvNxt flushed).trans (Inbox.flush_rcvNxt _)
      have acks := handlePayload_acks d th data past shunned.1 filled (next ▸ inOrder)
      change Acks c (receiveSegment c th data) _
      rw [same]
      exact acks.earlier (Steps.extends path)
  | _ => trivial

/-! Runs. -/

/-- As long as no data in order arrives between `close` and `shutdown(receive)`, nothing is
ever queued for a flow whose receive direction the application has ended, and all in-order
data for it is acknowledged. -/
theorem run_discards (eng : TcpEngine) (id : FlowId) (key : FiveTuple) (th : TcpHeader)
    (payload data : List UInt8) (iss : UInt32) (events : List Event)
    (heeds : Always Heeds (openFlow eng id key th payload data iss) events) :
    Drained (run (openFlow eng id key th payload data iss) events).flow ∧
      Always Discards (openFlow eng id key th payload data iss) events := by
  have start : Drained (openFlow eng id key th payload data iss).flow := by
    have marks := openFlow_marks eng id key th payload data iss
    intro marked
    have shut := congrArg Marks.rxShutdown marks
    have closed := congrArg Marks.appClosed marks
    rcases marked with isShut | isClosed
    · exact absurd (shut.symm.trans isShut) Bool.false_ne_true
    · exact absurd (closed.symm.trans isClosed) Bool.false_ne_true
  generalize openFlow eng id key th payload data iss = c at heeds start ⊢
  induction events generalizing c with
  | nil => exact ⟨start, trivial⟩
  | cons event events ih =>
      obtain ⟨drained, discards⟩ := ih _ heeds.2 (step_drained c event start heeds.1)
      exact ⟨drained, step_discards c event start heeds.1, discards⟩

/-- After `shutdown(receive)` three bytes in order are acknowledged and discarded. -/
theorem discards_shutDown :
    let events : List Event := [.accept, .segment (peerSegment 8 1001 tcpAck 1000) [],
      .shutdownReceive, .segment (peerSegment 8 1001 tcpAck 1000) [1, 2, 3]]
    (run (opened {} 1000) events).out.map Segment.ack = [8, 11] ∧
      Drained (run (opened {} 1000) events).flow ∧ Always Discards (opened {} 1000) events :=
  ⟨by decide, run_discards _ _ _ _ _ _ _ _ (by decide)⟩

/-- After `close` the same bytes are queued, and nobody can read them. -/
theorem discards_fails :
    let c := run (opened {} 1000) [.accept, .segment (peerSegment 8 1001 tcpAck 1000) [],
      .close, .segment (peerSegment 8 1001 tcpAck 1000) [1, 2, 3]]
    c.flow.appClosed = true ∧ c.flow.rxBytes = 3 ∧ ¬Drained c.flow := by
  refine ⟨by decide, by decide, fun drained => ?_⟩
  have empty := drained (Or.inr (by decide))
  exact absurd empty.1 (by decide)

end Tunio
