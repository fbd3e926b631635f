import Tunio.Desk
import Tunio.FlowTable
import Tunio.SessionTable

/-!
How accept handlers and new connections are matched: both engines work like a desk.  Flows
and sessions are numbered in the order in which they came.
-/

namespace Tunio

open Desks Machines

/-! The UDP engine. -/

namespace UdpEngine

def desk (e : UdpEngine) : Desk HandlerId SessionId where
  waiting := e.pendingAccepts
  items := e.pendingNewSessions.map Prod.snd
  served := e.accepts.map fun completion => (completion.handler, completion.session)

def IsOpen (e : UdpEngine) (id : SessionId) : Prop := (e.objects id).closed = false

theorem Newest.earlier {e : UdpEngine} {id : SessionId} (newest : e.Newest id) :
    ∀ other ∈ e.desk.handed ++ e.desk.items, other < id := by
  intro other member
  rcases List.mem_append.mp member with handed | waiting
  · obtain ⟨entry, served, announced⟩ := List.mem_filterMap.mp handed
    obtain ⟨completion, completed, rfl⟩ := List.mem_map.mp served
    exact newest.2 completion completed other announced
  · obtain ⟨node, queued, rfl⟩ := List.mem_map.mp waiting
    exact newest.1 node queued

theorem withdraw_sublist (e : UdpEngine) (session : UdpSession) :
    (e.withdraw session).Sublist e.pendingNewSessions := by
  unfold withdraw
  split
  · exact List.filter_sublist
  · exact List.Sublist.refl _

theorem still_desk {e after : UdpEngine} (same : after.core = e.core) : after.desk = e.desk := by
  have cores := congrArg desk same
  exact cores

theorem removeSession_desk (e : UdpEngine) (id : SessionId)
    (isOpen : (e.objects id).closed = false) :
    (e.removeSession id).desk =
      e.desk.withdraw ((e.withdraw (e.objects id)).map Prod.snd) := by
  rw [removeSession_open e id isOpen]
  rfl

theorem hand_desk {e : UdpEngine} {handler : HandlerId} {rest : List HandlerId}
    (waiting : e.pendingAccepts = handler :: rest) (id : SessionId) :
    (e.apply (.hand handler rest id)).desk = e.desk.arrive id := by
  unfold Desk.arrive
  rw [show e.desk.waiting = handler :: rest from waiting]
  simp [desk, apply, postAccept]

theorem enqueue_desk {e : UdpEngine} (waiting : e.pendingAccepts = []) (id : SessionId) :
    (e.apply (.enqueue id)).desk = e.desk.arrive id := by
  unfold Desk.arrive
  rw [show e.desk.waiting = [] from waiting]
  simp [desk, apply, put, waiting]

theorem grant_desk {e : UdpEngine} (handler : HandlerId) {node : NodeId × SessionId}
    {rest : List (NodeId × SessionId)} (queue : e.pendingNewSessions = node :: rest) :
    (e.apply (.grant handler node rest)).desk = e.desk.register handler := by
  unfold Desk.register
  rw [show e.desk.items = node.2 :: rest.map Prod.snd from congrArg (List.map Prod.snd) queue]
  simp [desk, apply, postAccept, put]

theorem wait_desk {e : UdpEngine} (handler : HandlerId) (queue : e.pendingNewSessions = []) :
    (e.apply (.wait handler)).desk = e.desk.register handler := by
  unfold Desk.register
  rw [show e.desk.items = [] from congrArg (List.map Prod.snd) queue]
  simp [desk, apply, queue]

theorem cancelAccepts_desk (e : UdpEngine) : e.cancelAccepts.desk = e.desk.cancel := by
  simp [desk, cancelAccepts, Desk.cancel]

/-- Every effect is a move of the desk. -/
theorem apply_fair {e : UdpEngine} (effect : Effect) (permits : e.Permits effect)
    {registered : List HandlerId} (fair : e.desk.Fair (· < ·) registered) :
    (e.apply effect).desk.Fair (· < ·) (registered ++ effect.registers.toList) := by
  have silent (after : UdpEngine) (same : after.desk = e.desk) :
      after.desk.Fair (· < ·) (registered ++ []) := by
    rwa [List.append_nil, same]
  cases effect with
  | still after => exact silent after (still_desk permits)
  | reads | buffer | take | enter | share => exact silent _ rfl
  | remove id =>
      show (e.removeSession id).desk.Fair _ (registered ++ [])
      rw [List.append_nil, removeSession_desk e id permits]
      exact fair.withdraw ((e.withdraw_sublist _).map Prod.snd)
  | hand handler rest id =>
      rw [hand_desk permits.1]
      exact (List.append_nil registered).symm ▸ fair.arrive id permits.2.2.earlier
  | enqueue id =>
      rw [enqueue_desk permits.1]
      exact (List.append_nil registered).symm ▸ fair.arrive id permits.2.2.2.earlier
  | grant handler node rest =>
      rw [grant_desk handler permits.1]
      exact fair.register handler
  | wait handler =>
      rw [wait_desk handler permits]
      exact fair.register handler
  | cancel =>
      show e.cancelAccepts.desk.Fair _ (registered ++ [])
      rw [List.append_nil, cancelAccepts_desk]
      exact fair.cancel

/-- Only a deal hands out a session, and the session is open. -/
theorem apply_serves {e : UdpEngine} (effect : Effect) (permits : e.Permits effect) :
    (effect.inside = true → Desk.Serves (fun _ => False) e.desk (e.apply effect).desk) ∧
      (effect.deals = true →
        Desk.Serves (e.apply effect).IsOpen e.desk (e.apply effect).desk) := by
  cases effect with
  | still after =>
      exact ⟨fun _ => Desk.Serves.quiet (congrArg Desk.served (still_desk permits)),
        Bool.noConfusion⟩
  | reads | buffer | take | enter => exact ⟨fun _ => Desk.Serves.quiet rfl, Bool.noConfusion⟩
  | share => exact ⟨Bool.noConfusion, Bool.noConfusion⟩
  | remove id =>
      have same : (e.removeSession id).desk.served = e.desk.served := by
        rw [removeSession_desk e id permits]
        rfl
      exact ⟨fun _ => Desk.Serves.quiet same, Bool.noConfusion⟩
  | hand handler rest id =>
      have same : (e.apply (.hand handler rest id)).desk.served =
          e.desk.served ++ [(handler, some id)] := List.map_append
      exact ⟨Bool.noConfusion, fun _ => Desk.Serves.one same permits.2.1⟩
  | enqueue id => exact ⟨Bool.noConfusion, fun _ => Desk.Serves.quiet rfl⟩
  | grant handler node rest =>
      refine ⟨Bool.noConfusion, fun _ => Desk.Serves.one (List.map_append) ?_⟩
      exact (e.put_field node.2 { e.objects node.2 with pendingAccept := false }
        UdpSession.closed rfl node.2).trans permits.2
  | wait handler => exact ⟨Bool.noConfusion, fun _ => Desk.Serves.quiet rfl⟩
  | cancel =>
      refine ⟨fun _ => ?_, Bool.noConfusion⟩
      show Desk.Serves _ e.desk e.cancelAccepts.desk
      rw [cancelAccepts_desk]
      exact Desk.Serves.cancel e.desk

theorem inside_unlabelled (effect : Effect) (inside : effect.inside = true) :
    effect.registers = none := by
  cases effect <;> first | rfl | cases inside

theorem step_fair {e : UdpEngine} (tabled : Tabled e) (event : UdpEvent)
    {registered : List HandlerId} (fair : e.desk.Fair (· < ·) registered) :
    (e.step event).desk.Fair (· < ·) (registered ++ event.registers.toList) := by
  rcases step_dealt tabled event with ⟨account, rfl⟩ | dealt
  · exact (List.append_nil registered).symm ▸ fair
  · exact Desk.Fair.labelled dealt tabled
      (fun _ effect tabled permits => tabled.apply effect permits) inside_unlabelled
      (fun _ effect _ _ permits fair => apply_fair effect permits fair) fair

theorem step_serves {e : UdpEngine} (tabled : Tabled e) (event : UdpEvent) :
    Desk.Serves (e.step event).IsOpen e.desk (e.step event).desk := by
  rcases step_dealt tabled event with ⟨account, rfl⟩ | dealt
  · exact Desk.Serves.quiet rfl
  · exact Desk.Serves.labelled dealt tabled
      (fun _ effect tabled permits => tabled.apply effect permits) (fun _ effect _ permits => (apply_serves effect permits).1)
      (fun _ effect _ permits => (apply_serves effect permits).2)

theorem run_fair (cfg : TunConfig) (account : BufferAccountant) (now : Int)
    (events : List UdpEvent) :
    ((fresh cfg account now).run events).desk.Fair (· < ·)
      (events.filterMap UdpEvent.registers) :=
  Desk.Fair.foldl (fun _ event tabled => Tabled.step tabled event)
    (fun _ event _ tabled fair => step_fair tabled event fair) events _
    (Tabled.fresh cfg account now) Desk.Fair.empty

end UdpEngine

/-! The TCP engine. -/

namespace World

def desk (w : World) : Desk HandlerId FlowId where
  waiting := w.eng.pendingAccepts
  items := w.eng.pendingFlows
  served := w.eng.accepts.map fun completion => (completion.handler, completion.flow)

def IsOpen (w : World) (id : FlowId) : Prop := (w.records id).flow.state ≠ .closed

theorem Kept.earlier {w : World} (kept : Kept w) :
    ∀ other ∈ w.desk.handed ++ w.desk.items, other < w.created := by
  intro other member
  rcases List.mem_append.mp member with handed | waiting
  · obtain ⟨entry, served, announced⟩ := List.mem_filterMap.mp handed
    obtain ⟨completion, completed, rfl⟩ := List.mem_map.mp served
    exact kept.announced completion completed other announced
  · exact kept.created other ((kept.queue other).mp waiting).1

/-- An operation withdraws at most the flow it closes. -/
theorem operate_desk {w : World} (kept : Kept w) {id : FlowId} {after : Conn} {len : Nat}
    (operates : Operates len (w.conn id) after) :
    ∃ items : List FlowId, items.Sublist w.desk.items ∧
      (w.set id after).desk = w.desk.withdraw items := by
  by_cases closed : (w.records id).flow.state = .closed
  · have inert := Settled.path (Modest.inside operates.path) (kept.settled id closed)
    refine ⟨w.eng.pendingFlows, List.Sublist.refl _, ?_⟩
    have engine : after.eng = w.eng := inert.eng
    unfold desk set Desk.withdraw
    rw [engine]
  · obtain ⟨books, _⟩ := kept.handles operates closed
    have accepts : after.eng.accepts = w.eng.accepts := books.accepts
    have pendingAccepts : after.eng.pendingAccepts = w.eng.pendingAccepts := books.pendingAccepts
    refine ⟨after.eng.pendingFlows, ?_, ?_⟩
    · by_cases shut : after.flow.state = .closed
      · rw [(books.leaves shut).2.2.1]
        exact List.erase_sublist
      · rw [(books.stays shut).2.1]
        exact List.Sublist.refl _
    · unfold desk set Desk.withdraw
      rw [accepts, pendingAccepts]

theorem enterFlow_desk (w : World) (key : FiveTuple) (th : TcpHeader) (payload data : List UInt8)
    (iss : UInt32) : (w.enterFlow key th payload data iss).desk = w.desk.arrive w.created := by
  have entered := openFlow_enters w.eng w.created key th payload data iss
  unfold enterFlow
  generalize Tunio.openFlow w.eng w.created key th payload data iss = c at entered
  unfold Desk.arrive
  rcases entered.dealt with ⟨handler, rest, waiting, _, gone, same, posted⟩ |
    ⟨waiting, _, idle, grown, same⟩
  · rw [show w.desk.waiting = handler :: rest from waiting]
    simp [desk, set, gone, same, posted]
  · rw [show w.desk.waiting = [] from waiting]
    simp [desk, set, idle, grown, same, waiting]

theorem grant_desk {w : World} (handler : HandlerId) {id : FlowId} {rest : List FlowId}
    (queue : w.eng.pendingFlows = id :: rest) :
    (w.grant id rest handler).desk = w.desk.register handler := by
  unfold Desk.register
  rw [show w.desk.items = id :: rest from queue]
  simp [desk, grant, set, conn]

theorem wait_desk {w : World} (handler : HandlerId) (queue : w.eng.pendingFlows = []) :
    (w.act (.wait handler)).desk = w.desk.register handler := by
  unfold Desk.register
  rw [show w.desk.items = [] from queue]
  simp [desk, act, queue]

theorem cancelAccepts_desk (w : World) : w.cancelAccepts.desk = w.desk.cancel := by
  simp [desk, cancelAccepts, Desk.cancel]

theorem aside_desk {w : World} {eng : TcpEngine} (permits : w.Permits (.aside eng)) :
    (w.act (.aside eng)).desk = w.desk := by
  have same : eng = { w.eng with stats.rxDropped := eng.stats.rxDropped, now := eng.now } := permits
  unfold desk act
  rw [same]

/-- Every move is a move of the desk. -/
theorem act_fair {w : World} (kept : Kept w) (move : Move) (permits : w.Permits move)
    {registered : List HandlerId} (fair : w.desk.Fair (· < ·) registered) :
    (w.act move).desk.Fair (· < ·) (registered ++ move.registers.toList) := by
  cases move with
  | aside eng =>
      rw [aside_desk permits]
      exact (List.append_nil registered).symm ▸ fair
  | share account => exact (List.append_nil registered).symm ▸ fair
  | operate id after =>
      obtain ⟨items, sublist, same⟩ := operate_desk kept permits
      show (w.set id after).desk.Fair _ (registered ++ [])
      rw [List.append_nil, same]
      exact fair.withdraw sublist
  | enter key th payload data iss =>
      show (w.enterFlow key th payload data iss).desk.Fair _ (registered ++ [])
      rw [List.append_nil, enterFlow_desk]
      exact fair.arrive w.created kept.earlier
  | grant handler id rest =>
      show (w.grant id rest handler).desk.Fair _ _
      rw [grant_desk handler permits]
      exact fair.register handler
  | wait handler =>
      rw [wait_desk handler permits]
      exact fair.register handler
  | cancel =>
      show w.cancelAccepts.desk.Fair _ (registered ++ [])
      rw [List.append_nil, cancelAccepts_desk]
      exact fair.cancel

/-- Only a deal hands out a flow, and the flow is open. -/
theorem act_serves {w : World} (kept : Kept w) (move : Move) (permits : w.Permits move) :
    (move.inside = true → Desk.Serves (fun _ => False) w.desk (w.act move).desk) ∧
      (move.deals = true → Desk.Serves (w.act move).IsOpen w.desk (w.act move).desk) := by
  cases move with
  | aside eng =>
      exact ⟨fun _ => Desk.Serves.quiet (congrArg Desk.served (aside_desk permits)),
        Bool.noConfusion⟩
  | share account => exact ⟨Bool.noConfusion, Bool.noConfusion⟩
  | operate id after =>
      obtain ⟨items, _, same⟩ := operate_desk kept permits
      have served : (w.set id after).desk.served = w.desk.served := by
        rw [same]
        rfl
      exact ⟨fun _ => Desk.Serves.quiet served, Bool.noConfusion⟩
  | enter key th payload data iss =>
      refine ⟨Bool.noConfusion, fun _ => ?_⟩
      have entered := openFlow_enters w.eng w.created key th payload data iss
      have isOpen : (w.enterFlow key th payload data iss).IsOpen w.created := by
        show ((w.set w.created _).records w.created).flow.state ≠ .closed
        rw [set_self, entered.state]
        decide
      rcases entered.dealt with ⟨handler, rest, _, _, _, _, posted⟩ | ⟨_, _, _, _, same⟩
      · have same : (w.enterFlow key th payload data iss).desk.served =
            w.desk.served ++ [(handler, some w.created)] :=
          (congrArg (List.map _) posted).trans List.map_append
        exact Desk.Serves.one same isOpen
      · exact Desk.Serves.quiet (congrArg (List.map _) same)
  | grant handler id rest =>
      refine ⟨Bool.noConfusion, fun _ => Desk.Serves.one List.map_append ?_⟩
      have isOpen := ((kept.queue id).mp (by
        rw [show w.eng.pendingFlows = id :: rest from permits]
        exact List.mem_cons_self)).1
      show ((w.set id _).records id).flow.state ≠ .closed
      rw [set_self]
      exact isOpen
  | wait handler => exact ⟨Bool.noConfusion, fun _ => Desk.Serves.quiet rfl⟩
  | cancel =>
      refine ⟨fun _ => ?_, Bool.noConfusion⟩
      show Desk.Serves _ w.desk w.cancelAccepts.desk
      rw [cancelAccepts_desk]
      exact Desk.Serves.cancel w.desk

theorem inside_unlabelled (move : Move) (inside : move.inside = true) : move.registers = none := by
  cases move <;> first | rfl | cases inside

theorem step_fair {w : World} (kept : Kept w) (event : WorldEvent)
    {registered : List HandlerId} (fair : w.desk.Fair (· < ·) registered) :
    (w.step event).desk.Fair (· < ·) (registered ++ event.registers.toList) := by
  rcases step_dealt kept event with ⟨account, rfl⟩ | dealt
  · exact (List.append_nil registered).symm ▸ fair
  · exact Desk.Fair.labelled dealt kept (fun _ move kept permits => kept.act move permits)
      inside_unlabelled (fun _ move _ kept permits fair => act_fair kept move permits fair) fair

theorem step_serves {w : World} (kept : Kept w) (event : WorldEvent) :
    Desk.Serves (w.step event).IsOpen w.desk (w.step event).desk := by
  rcases step_dealt kept event with ⟨account, rfl⟩ | dealt
  · exact Desk.Serves.quiet rfl
  · exact Desk.Serves.labelled dealt kept (fun _ move kept permits => kept.act move permits)
      (fun _ move kept permits => (act_serves kept move permits).1)
      (fun _ move kept permits => (act_serves kept move permits).2)

theorem run_fair (cfg : TunConfig) (account : BufferAccountant) (now : Int)
    (events : List WorldEvent) :
    ((fresh cfg account now).run events).desk.Fair (· < ·)
      (events.filterMap WorldEvent.registers) :=
  Desk.Fair.foldl (fun _ event kept => Kept.step kept event)
    (fun _ event _ kept fair => step_fair kept event fair) events _
    (Kept.fresh cfg account now) Desk.Fair.empty

end World

/-- Every handler is served once, in its turn, or waits; connections go in the order of their
numbers; nobody waits for what is there. -/
structure Matching (registered : List HandlerId) (desk : Desk HandlerId ℕ) : Prop where
  handlers : desk.served.map Prod.fst ++ desk.waiting = registered
  ordered : (desk.handed ++ desk.items).Pairwise (· < ·)
  once : (desk.handed ++ desk.items).Nodup
  idle : desk.waiting = [] ∨ desk.items = []

theorem Matching.of_fair {registered : List HandlerId} {desk : Desk HandlerId ℕ}
    (fair : desk.Fair (· < ·) registered) : Matching registered desk :=
  ⟨fair.handlers, fair.ordered, fair.nodup lt_irrefl, fair.idle⟩

/-- Both engines match handlers and connections fairly in every run, and hand out open
connections only. -/
theorem run_matching (cfg : TunConfig) (account : BufferAccountant) (now : Int)
    (events : List WorldEvent) (event : WorldEvent) (udpEvents : List UdpEvent)
    (udpEvent : UdpEvent) :
    (let w := (World.fresh cfg account now).run events
     Matching (events.filterMap WorldEvent.registers) w.desk ∧
       Desk.Serves (w.step event).IsOpen w.desk (w.step event).desk) ∧
    (let e := (UdpEngine.fresh cfg account now).run udpEvents
     Matching (udpEvents.filterMap UdpEvent.registers) e.desk ∧
       Desk.Serves (e.step udpEvent).IsOpen e.desk (e.step udpEvent).desk) := by
  refine ⟨⟨Matching.of_fair (World.run_fair cfg account now events), ?_⟩,
    Matching.of_fair (UdpEngine.run_fair cfg account now udpEvents), ?_⟩
  · exact World.step_serves ((World.Kept.fresh cfg account now).run events) event
  · exact UdpEngine.step_serves ((UdpEngine.Tabled.fresh cfg account now).run udpEvents) udpEvent

end Tunio
