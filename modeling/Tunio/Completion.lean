import Tunio.Closed

/-!
Every read and every write completes exactly once: its handler waits in the flow or has
been posted, and no coroutine outlives its write while another one can start.
-/

namespace Tunio

open Machines

/-- The handlers that were posted or wait for their operation. -/
structure Handlers where
  reads : List HandlerId
  writes : List HandlerId

def Conn.handlers (c : Conn) : Handlers := {
  reads := c.reads.map ReadCompletion.handler ++ (c.flow.activeRead.map ReadOp.handler).toList
  writes := c.writes.map WriteCompletion.handler ++ (c.flow.activeWrite.map WriteOp.handler).toList
}

/-- The handlers of the reads that a run starts. -/
def readsOf : List Event → List HandlerId
  | [] => []
  | .read _ handler :: events => handler :: readsOf events
  | _ :: events => readsOf events

def writesOf : List Event → List HandlerId
  | [] => []
  | .write _ handler :: events => handler :: writesOf events
  | _ :: events => writesOf events

/-! Closing posts what is waiting. -/

theorem sendSegment_handlers (c : Conn) (seq : UInt32) (flags : UInt8) (payload : List UInt8)
    (withMss : Bool) : (sendSegment c seq flags payload withMss).handlers = c.handlers := by
  unfold sendSegment
  split <;> rfl

theorem withdrawn_handlers (c : Conn) :
    (withdrawAccept (cancelAckTimer c)).reads = c.reads ∧
      (withdrawAccept (cancelAckTimer c)).writes = c.writes ∧
      (withdrawAccept (cancelAckTimer c)).flow.activeRead = c.flow.activeRead ∧
      (withdrawAccept (cancelAckTimer c)).flow.activeWrite = c.flow.activeWrite := by
  unfold withdrawAccept cancelAckTimer
  split <;> split <;> exact ⟨rfl, rfl, rfl, rfl⟩

theorem detached_handlers (c : Conn) :
    (closeWriteCh (detachFlow (uncountFlow (dropReceived c)))).reads = c.reads ∧
      (closeWriteCh (detachFlow (uncountFlow (dropReceived c)))).writes = c.writes ∧
      (closeWriteCh (detachFlow (uncountFlow (dropReceived c)))).flow.activeRead =
        c.flow.activeRead ∧
      (closeWriteCh (detachFlow (uncountFlow (dropReceived c)))).flow.activeWrite =
        c.flow.activeWrite := by
  have closed (c : Conn) : (closeWriteCh c).reads = c.reads ∧ (closeWriteCh c).writes = c.writes ∧
      (closeWriteCh c).flow.activeRead = c.flow.activeRead ∧
      (closeWriteCh c).flow.activeWrite = c.flow.activeWrite := by
    unfold closeWriteCh
    split <;> exact ⟨rfl, rfl, rfl, rfl⟩
  have uncounted (c : Conn) : (uncountFlow c).reads = c.reads ∧ (uncountFlow c).writes = c.writes ∧
      (uncountFlow c).flow = c.flow := by
    unfold uncountFlow
    split <;> exact ⟨rfl, rfl, rfl⟩
  have dropped : (dropReceived c).reads = c.reads ∧ (dropReceived c).writes = c.writes ∧
      (dropReceived c).flow.activeRead = c.flow.activeRead ∧
      (dropReceived c).flow.activeWrite = c.flow.activeWrite := by
    unfold dropReceived
    dsimp only
    split <;> split <;> exact ⟨rfl, rfl, rfl, rfl⟩
  have detached (c : Conn) : (detachFlow c).reads = c.reads ∧ (detachFlow c).writes = c.writes ∧
      (detachFlow c).flow.activeRead = c.flow.activeRead ∧
      (detachFlow c).flow.activeWrite = c.flow.activeWrite := ⟨rfl, rfl, rfl, rfl⟩
  refine ⟨?_, ?_, ?_, ?_⟩
  · rw [(closed _).1, (detached _).1, (uncounted _).1, dropped.1]
  · rw [(closed _).2.1, (detached _).2.1, (uncounted _).2.1, dropped.2.1]
  · rw [(closed _).2.2.1, (detached _).2.2.1, (uncounted _).2.2, dropped.2.2.1]
  · rw [(closed _).2.2.2, (detached _).2.2.2, (uncounted _).2.2, dropped.2.2.2]

theorem closeFlow_handlers (c : Conn) (err : ErrorCode) :
    (closeFlow c err).handlers = c.handlers := by
  unfold closeFlow
  split
  · rfl
  · dsimp only
    have withdrawn := withdrawn_handlers c
    rw [withdrawn.2.2.1, withdrawn.2.2.2]
    generalize withdrawAccept (cancelAckTimer c) = c₁ at withdrawn ⊢
    have detached := detached_handlers
      { c₁ with flow.activeRead := none, flow.activeWrite := none }
    generalize closeWriteCh (detachFlow (uncountFlow (dropReceived
      { c₁ with flow.activeRead := none, flow.activeWrite := none }))) = c₂ at detached ⊢
    have reads : c₂.reads = c.reads := detached.1.trans withdrawn.1
    have writes : c₂.writes = c.writes := detached.2.1.trans withdrawn.2.1
    unfold Conn.handlers
    rw [completeWrite_flow, completeRead_flow, detached.2.2.1, detached.2.2.2]
    cases c.flow.activeRead <;> cases c.flow.activeWrite <;>
      simp [completeRead, completeWrite, postRead, postWrite, reads, writes]

theorem abortFlow_handlers (c : Conn) : (abortFlow c).handlers = c.handlers := by
  unfold abortFlow
  split
  · rfl
  · dsimp only
    rw [closeFlow_handlers]
    exact sendSegment_handlers c _ _ _ _

/-! One effect. -/

theorem buildNextSegment_handlers (c : Conn) (op : WriteOp) (inFlight : UInt32)
    (active : c.flow.activeWrite = some op) :
    (buildNextSegment c op inFlight).1.handlers = c.handlers := by
  unfold buildNextSegment
  dsimp only
  split
  · simp [Conn.handlers, active, normalize]
  · split
    · simp [Conn.handlers, active, normalize]
    · simp [Conn.handlers, active, normalize, buildSegment]

theorem deliverDirect_handlers (c : Conn) (op : ReadOp) (data : List UInt8)
    (active : c.flow.activeRead = some op) : (deliverDirect c op data).handlers = c.handlers := by
  have filled : (fillRead c op data).handlers = c.handlers := by
    unfold fillRead
    dsimp only
    split <;> simp [Conn.handlers, postRead, releaseBytes, active]
  have idle : (fillRead c op data).flow.activeRead = none := by
    unfold fillRead
    dsimp only
    split <;> rfl
  have compacted : (compactRx (fillRead c op data)).handlers = c.handlers := by
    rw [← filled]
    unfold compactRx
    split <;> rfl
  unfold deliverDirect
  dsimp only
  split
  · exact filled
  · rw [sendAck, sendSegment_handlers]
    split
    · rw [flushReads_idle _ idle]
      exact compacted
    · exact filled

/-- No effect but the beginning of an operation changes the handlers. -/
theorem apply_handlers (c : Conn) (effect : Effect) (permits : c.Permits effect)
    (reads : ∀ handler, ¬effect.beginsRead handler)
    (writes : ∀ handler, ¬effect.beginsWrite handler) :
    (c.apply effect).handlers = c.handlers := by
  cases effect with
  | submit seq flags payload withMss => exact sendSegment_handlers c _ _ _ _
  | next inFlight =>
      cases active : c.flow.activeWrite with
      | none => simp [Conn.apply, active]
      | some op =>
          simp only [Conn.apply, active]
          exact buildNextSegment_handlers c op inFlight active
  | accept =>
      change (acceptFlow c).handlers = _
      unfold acceptFlow
      split
      · rfl
      · exact sendSegment_handlers c _ _ _ _
  | notify =>
      change (notifyAccept c).handlers = _
      unfold notifyAccept
      split <;> rfl
  | handOut =>
      change (handOut c).handlers = _
      unfold handOut
      dsimp only
      split
      · split <;> rfl
      · rfl
  | fin => exact sendSegment_handlers _ _ _ _ _
  | giveUp => exact abortFlow_handlers _
  | abort => exact abortFlow_handlers c
  | resetBy => exact closeFlow_handlers _ _
  | close err => exact closeFlow_handlers c err
  | finAcked =>
      unfold Conn.apply
      dsimp only
      split <;> rfl
  | probeAck ack =>
      change (acceptProbe c ack).handlers = _
      unfold acceptProbe
      dsimp only
      split
      · rename_i op active
        split <;> simp [Conn.handlers, active]
      · rfl
  | direct op account data =>
      exact deliverDirect_handlers { c with eng.account := account } op data permits.2.1
  | buffer account data =>
      change (noteDataAck _).handlers = _
      unfold noteDataAck
      split
      · exact sendSegment_handlers _ _ _ _ _
      · rfl
  | skip len => exact sendSegment_handlers _ _ _ _ _
  | takeFin =>
      have finished (c : Conn) : (finState c).handlers = c.handlers := by
        unfold finState
        split <;> rfl
      have taken : (takeFin c).handlers = c.handlers := by
        unfold takeFin
        split <;> rfl
      change (finState (sendAck (takeFin c))).handlers = _
      rw [finished, sendAck, sendSegment_handlers, taken]
  | serve op =>
      simp [Conn.apply, Conn.handlers, takeQueued, postRead, releaseBytes, permits.1]
  | compact =>
      change (compactRx c).handlers = _
      unfold compactRx
      split <;> rfl
  | eof op => simp [Conn.apply, Conn.handlers, postRead, permits.1]
  | append seq data fin =>
      change (oooAppend c seq data fin).1.handlers = _
      unfold oooAppend appendFin appendData
      dsimp only
      repeat' split
      all_goals rfl
  | discard key seg =>
      change (discardOoo c key seg).handlers = _
      unfold discardOoo
      dsimp only
      split <;> rfl
  | startRead op => exact absurd rfl (reads op.handler)
  | refuseRead handler ec => exact absurd rfl (reads handler)
  | cancelRead op =>
      have active : c.flow.activeRead = some op := permits
      simp [Conn.apply, Conn.handlers, postRead, active]
  | startWrite op => exact absurd rfl (writes op.handler)
  | refuseWrite handler ec => exact absurd rfl (writes handler)
  | endWrite op ec n =>
      have active : c.flow.activeWrite = some op := permits
      simp [Conn.apply, Conn.handlers, postWrite, active]
  | cancelWrite op => simp [Conn.apply, Conn.handlers, postWrite, permits.1]
  | locate => cases active : c.flow.activeWrite <;> simp [Conn.apply, Conn.handlers, active, normalize]
  | drop =>
      change (dropReceived c).handlers = _
      unfold dropReceived
      dsimp only
      split <;> split <;> rfl
  | closeChannel =>
      change (closeWriteCh c).handlers = _
      unfold closeWriteCh
      split <;> rfl
  | begin_ =>
      cases active : c.flow.activeWrite <;>
        simp [Conn.apply, Conn.beginWrite, Conn.handlers, active]
  | ackTimerExpires =>
      change (ackTimerExpires c).handlers = _
      unfold ackTimerExpires
      split
      · split <;> rfl
      · rfl
  | ackTimerRuns =>
      change (ackTimerRuns c).handlers = _
      unfold ackTimerRuns
      split
      · split
        · dsimp only
          split
          · rfl
          · exact sendSegment_handlers _ _ _ _ _
        · rfl
      · rfl
  | _ => rfl

/-! Runs. -/

theorem Unfolds.handlers {len : Nat} {scope : Scope} {before after : Conn}
    (path : Unfolds len scope before after) : after.handlers = before.handlers := by
  refine path.invariant (fun c => c.handlers = before.handlers) rfl ?_
  intro c effect same permits ⟨plain, _⟩
  refine (apply_handlers c effect permits (fun handler begun => ?_) fun handler begun => ?_).trans
    same
  · cases effect <;> first | exact begun | cases plain
  · cases effect <;> first | exact begun | cases plain

theorem Begins.readHandlers {len : Nat} {scope : Scope} {handler : HandlerId} {before after : Conn}
    (once : Begins len scope (Effect.beginsRead handler) before after) :
    after.handlers.reads.Perm (handler :: before.handlers.reads) ∧
      after.handlers.writes = before.handlers.writes := by
  obtain ⟨middle, effect, first, permits, begun, rest⟩ := once
  rw [rest.handlers, ← first.handlers]
  cases effect with
  | startRead op =>
      obtain rfl : op.handler = handler := begun
      have idle : middle.flow.activeRead = none := permits.2.2
      refine ⟨?_, rfl⟩
      simp only [Conn.apply, Conn.handlers, idle, Option.map_some, Option.map_none,
        Option.toList_some, Option.toList_none, List.append_nil]
      exact List.perm_append_singleton _ _
  | refuseRead refused ec =>
      obtain rfl : refused = handler := begun
      refine ⟨?_, rfl⟩
      simp only [Conn.apply, Conn.handlers, postRead, List.map_append, List.map_cons, List.map_nil]
      exact (List.perm_append_singleton _ _).append_right _
  | _ => exact absurd begun id

theorem Begins.writeHandlers {len : Nat} {scope : Scope} {handler : HandlerId} {before after : Conn}
    (once : Begins len scope (Effect.beginsWrite handler) before after) :
    after.handlers.writes.Perm (handler :: before.handlers.writes) ∧
      after.handlers.reads = before.handlers.reads := by
  obtain ⟨middle, effect, first, permits, begun, rest⟩ := once
  rw [rest.handlers, ← first.handlers]
  cases effect with
  | startWrite op =>
      obtain rfl : op.handler = handler := begun
      have idle : middle.flow.activeWrite = none := permits.2.2.2.2
      refine ⟨?_, rfl⟩
      simp only [Conn.apply, Conn.handlers, idle, Option.map_some, Option.map_none,
        Option.toList_some, Option.toList_none, List.append_nil]
      exact List.perm_append_singleton _ _
  | refuseWrite refused ec =>
      obtain rfl : refused = handler := begun
      refine ⟨?_, rfl⟩
      simp only [Conn.apply, Conn.handlers, postWrite, List.map_append, List.map_cons,
        List.map_nil]
      exact (List.perm_append_singleton _ _).append_right _
  | _ => exact absurd begun id

/-- A run posts or keeps exactly the handlers it was given. -/
theorem run_handlers (c : Conn) (events : List Event) :
    (run c events).handlers.reads.Perm (readsOf events ++ c.handlers.reads) ∧
      (run c events).handlers.writes.Perm (writesOf events ++ c.handlers.writes) := by
  induction events generalizing c with
  | nil => exact ⟨List.Perm.refl _, List.Perm.refl _⟩
  | cons event events ih =>
      have rest := ih (step c event)
      have evolves := step_evolves c event (Nat.le_refl event.size)
      have quiet {scope : Scope} (unfolds : Unfolds event.size scope c (step c event)) :
          (run (step c event) events).handlers.reads.Perm (readsOf events ++ c.handlers.reads) ∧
            (run (step c event) events).handlers.writes.Perm
              (writesOf events ++ c.handlers.writes) := by
        rw [unfolds.handlers] at rest
        exact rest
      rw [run_cons]
      cases event with
      | read buffers handler =>
          obtain ⟨reads, writes⟩ := Begins.readHandlers evolves
          rw [writes] at rest
          exact ⟨rest.1.trans ((reads.append_left _).trans List.perm_middle), rest.2⟩
      | write buffers handler =>
          obtain ⟨writes, reads⟩ := Begins.writeHandlers evolves
          rw [reads] at rest
          exact ⟨rest.1, rest.2.trans ((writes.append_left _).trans List.perm_middle)⟩
      | elsewhere eng => exact rest
      | _ => exact quiet evolves

/-! The coroutine of a write. -/

/-- No write can start any more. -/
def Left (c : Conn) : Prop := c.flow.state = .closed ∨ c.flow.appClosed = true

/-- Until then a write in progress has one coroutine, and there is no other one. -/
def Attended (c : Conn) : Prop :=
  Left c ∨ c.loops.length = if c.flow.activeWrite.isSome then 1 else 0

/-- The effects that close the flow. -/
def Effect.ends : Effect → Bool
  | .giveUp | .abort | .resetBy | .close _ => true
  | _ => false

theorem apply_ends (c : Conn) (effect : Effect) (ends : effect.ends = true) :
    (c.apply effect).flow.state = .closed := by
  cases effect with
  | giveUp | abort => exact abortFlow_state _
  | resetBy | close => exact closeFlow_state _ _
  | _ => cases ends

theorem apply_left {c : Conn} {effect : Effect} (permits : c.Permits effect) (left : Left c) :
    Left (c.apply effect) := by
  rcases left with closed | gone
  · exact Or.inl (apply_closed permits closed)
  cases sends : effect.sends with
  | false => exact Or.inr ((congrArg SendView.appClosed (apply_send c effect sends)).trans gone)
  | true =>
      cases ends : effect.ends with
      | true => exact Or.inl (apply_ends c effect ends)
      | false =>
          refine Or.inr ?_
          cases effect with
          | next inFlight =>
              unfold Conn.apply buildNextSegment
              dsimp only
              split
              · split
                · exact gone
                · split <;> exact gone
              · exact gone
          | accept =>
              change (acceptFlow c).flow.appClosed = true
              unfold acceptFlow
              split
              · exact gone
              · exact (congrArg SendView.appClosed (sendSegment_send c _ _ _ _)).trans gone
          | fin => exact (congrArg SendView.appClosed (sendSegment_send _ _ _ _ _)).trans gone
          | probeAck ack =>
              change (acceptProbe c ack).flow.appClosed = true
              unfold acceptProbe
              dsimp only
              split
              · split <;> exact gone
              · exact gone
          | appClose => rfl
          | sealed | una | probing | pend | window | startWrite | endWrite | cancelWrite | locate
          | begin_ => exact gone
          | giveUp | abort | resetBy | close => cases ends
          | _ => cases sends

/-- How many coroutines there are, and whether one used a write that was gone. -/
structure Tasks where
  count : Nat
  fault : Bool

def Conn.tasks (c : Conn) : Tasks := { count := c.loops.length, fault := c.fault }

section

variable (c : Conn)

theorem sendSegment_tasks (seq : UInt32) (flags : UInt8) (payload : List UInt8) (withMss : Bool) :
    (sendSegment c seq flags payload withMss).tasks = c.tasks := by
  unfold sendSegment
  split <;> rfl

theorem closeWriteCh_tasks : (closeWriteCh c).tasks = c.tasks := by
  unfold closeWriteCh
  split
  · simp [Conn.tasks, wakeAll]
  · rfl

theorem compactRx_tasks : (compactRx c).tasks = c.tasks := by
  unfold compactRx
  split <;> rfl

theorem dropReceived_tasks : (dropReceived c).tasks = c.tasks := by
  unfold dropReceived
  dsimp only
  split <;> split <;> rfl

theorem closeFlow_tasks (err : ErrorCode) : (closeFlow c err).tasks = c.tasks := by
  refine closeFlow_keeps Conn.tasks err ?_ ?_ ?_ closeWriteCh_tasks ?_ c
  · intro c
    unfold withdrawAccept cancelAckTimer
    split <;> split <;> rfl
  · exact fun c => dropReceived_tasks _
  · intro c
    unfold detachFlow uncountFlow
    split <;> rfl
  · intro c read write
    cases read <;> cases write <;> rfl

theorem abortFlow_tasks : (abortFlow c).tasks = c.tasks := by
  unfold abortFlow
  split
  · rfl
  · exact (closeFlow_tasks _ _).trans (sendSegment_tasks c _ _ _ _)

theorem deliverDirect_tasks (op : ReadOp) (data : List UInt8) :
    (deliverDirect c op data).tasks = c.tasks := by
  have filled : (fillRead c op data).tasks = c.tasks := by
    unfold fillRead
    dsimp only
    split <;> rfl
  have idle : (fillRead c op data).flow.activeRead = none := by
    unfold fillRead
    dsimp only
    split <;> rfl
  unfold deliverDirect
  dsimp only
  split
  · exact filled
  · rw [sendAck, sendSegment_tasks]
    split
    · rw [flushReads_idle _ idle, compactRx_tasks]
      exact filled
    · exact filled

end

/-- What the scheduler changes and a coroutine that loses its write. -/
def Effect.schedules : Effect → Bool
  | .spawn _ | .finish _ | .fault => true
  | _ => false

theorem apply_tasks {c : Conn} {effect : Effect} (permits : c.Permits effect)
    (still : effect.schedules = false) : (c.apply effect).tasks = c.tasks := by
  cases effect with
  | submit seq flags payload withMss => exact sendSegment_tasks c _ _ _ _
  | next inFlight =>
      unfold Conn.apply buildNextSegment
      dsimp only
      split
      · split
        · rfl
        · split <;> rfl
      · rfl
  | accept =>
      change (acceptFlow c).tasks = _
      unfold acceptFlow
      split
      · rfl
      · exact sendSegment_tasks c _ _ _ _
  | notify =>
      change (notifyAccept c).tasks = _
      unfold notifyAccept
      split <;> rfl
  | handOut =>
      change (handOut c).tasks = _
      unfold handOut
      dsimp only
      split
      · split <;> rfl
      · rfl
  | fin => exact sendSegment_tasks _ _ _ _ _
  | giveUp => exact abortFlow_tasks { c with flow.finSent := true }
  | abort => exact abortFlow_tasks c
  | resetBy => exact closeFlow_tasks { c with flow.rst := true } _
  | close err => exact closeFlow_tasks c err
  | finAcked =>
      unfold Conn.apply
      dsimp only
      split <;> rfl
  | probeAck ack =>
      change (acceptProbe c ack).tasks = _
      unfold acceptProbe
      dsimp only
      split
      · split <;> rfl
      · rfl
  | direct op account data => exact deliverDirect_tasks { c with eng.account := account } op data
  | buffer account data =>
      change (noteDataAck _).tasks = _
      unfold noteDataAck
      split
      · exact sendSegment_tasks _ _ _ _ _
      · rfl
  | skip len => exact sendSegment_tasks _ _ _ _ _
  | takeFin =>
      have finished (c : Conn) : (finState c).tasks = c.tasks := by
        unfold finState
        split <;> rfl
      have taken : (takeFin c).tasks = c.tasks := by
        unfold takeFin
        split <;> rfl
      change (finState (sendAck (takeFin c))).tasks = _
      rw [finished, sendAck, sendSegment_tasks, taken]
  | compact => exact compactRx_tasks c
  | append seq data fin =>
      change (oooAppend c seq data fin).1.tasks = _
      unfold oooAppend appendFin appendData
      dsimp only
      repeat' split
      all_goals rfl
  | discard key seg =>
      change (discardOoo c key seg).tasks = _
      unfold discardOoo
      dsimp only
      split <;> rfl
  | drop => exact dropReceived_tasks c
  | closeChannel => exact closeWriteCh_tasks c
  | loops loops =>
      have same : loops.length = c.loops.length := permits
      exact congrArg (fun count => Tasks.mk count c.fault) same
  | ackTimerExpires =>
      change (ackTimerExpires c).tasks = _
      unfold ackTimerExpires
      split
      · split <;> rfl
      · rfl
  | ackTimerRuns =>
      change (ackTimerRuns c).tasks = _
      unfold ackTimerRuns
      split
      · split
        · dsimp only
          split
          · rfl
          · exact sendSegment_tasks _ _ _ _ _
        · rfl
      · rfl
  | spawn | finish | fault => cases still
  | _ => rfl

/-- Only the scheduler changes how many coroutines there are. -/
theorem apply_loops {len : Nat} {scope : Scope} {c : Conn} {effect : Effect}
    (permits : c.Permits effect) (plain : effect.within len scope = true)
    (steady : scope ≠ .scheduler) : (c.apply effect).loops.length = c.loops.length := by
  cases schedules : effect.schedules with
  | false => exact congrArg Tasks.count (apply_tasks permits schedules)
  | true =>
      cases effect with
      | fault => rfl
      | spawn | finish => exact absurd (of_decide_eq_true plain) steady
      | _ => cases schedules

/-- An operation does not end a write before the application has closed the flow. -/
theorem apply_writing {len : Nat} {c : Conn} {effect : Effect} (permits : c.Permits effect)
    (plain : effect.within len .operation = true) (stays : effect.ends = false) :
    Left c ∨ (c.apply effect).flow.activeWrite.isSome = c.flow.activeWrite.isSome := by
  cases sends : effect.sends with
  | false =>
      exact Or.inr (congrArg (Option.isSome ∘ SendView.activeWrite) (apply_send c effect sends))
  | true =>
      cases effect with
      | next inFlight =>
          refine Or.inr ?_
          cases active : c.flow.activeWrite with
          | none => simp [Conn.apply, active]
          | some op =>
              simp only [Conn.apply, active]
              unfold buildNextSegment
              dsimp only
              split
              · rfl
              · split <;> rfl
      | accept =>
          refine Or.inr ?_
          change (acceptFlow c).flow.activeWrite.isSome = _
          unfold acceptFlow
          split
          · rfl
          · exact congrArg (Option.isSome ∘ SendView.activeWrite) (sendSegment_send c _ _ _ _)
      | fin =>
          exact Or.inr (congrArg (Option.isSome ∘ SendView.activeWrite) (sendSegment_send _ _ _ _ _))
      | probeAck ack =>
          refine Or.inr ?_
          change (acceptProbe c ack).flow.activeWrite.isSome = _
          unfold acceptProbe
          dsimp only
          split
          · rename_i op active
            split <;> simp [active]
          · rfl
      | cancelWrite op => exact Or.inl (Or.inr permits.2)
      | locate => exact Or.inr (Option.isSome_map ..)
      | begin_ => exact Or.inr (Option.isSome_map ..)
      | sealed | una | probing | pend | window | appClose => exact Or.inr rfl
      | giveUp | abort | resetBy | close => cases stays
      | startWrite | endWrite => cases plain
      | _ => cases sends

theorem Unfolds.left {len : Nat} {scope : Scope} {before after : Conn}
    (path : Unfolds len scope before after) (left : Left before) : Left after :=
  path.invariant Left left fun _ _ left permits _ => apply_left permits left

theorem Unfolds.attended {len : Nat} {before after : Conn}
    (path : Unfolds len .operation before after) (attended : Attended before) : Attended after := by
  refine path.invariant Attended attended fun c effect attended permits ⟨plain, _⟩ => ?_
  cases ends : effect.ends with
  | true => exact Or.inl (Or.inl (apply_ends c effect ends))
  | false =>
      have loops : (c.apply effect).loops.length = c.loops.length :=
        apply_loops permits plain (by decide)
      rcases apply_writing permits plain ends with left | writing
      · exact Or.inl (apply_left permits left)
      · refine attended.imp (apply_left permits) fun one => ?_
        change (c.apply effect).loops.length =
          if (c.apply effect).flow.activeWrite.isSome then 1 else 0
        rw [loops, writing]
        exact one

/-- The code of a coroutine starts and ends no coroutine. -/
theorem Unfolds.loops {len : Nat} {before after : Conn} (path : Unfolds len .coroutine before after) :
    after.loops.length = before.loops.length :=
  path.invariant (fun c => c.loops.length = before.loops.length) rfl
    fun _ _ same permits plain => (apply_loops permits plain.1 (by decide)).trans same

/-- A coroutine goes on as long as its write is in progress. -/
def Turn.Attends : Turn → Prop
  | .again c _ => c.flow.activeWrite.isSome = true
  | .suspend c _ => c.flow.activeWrite.isSome = true
  | .done c => c.flow.activeWrite = none

theorem exitLoop_idle (c : Conn) : (exitLoop c).flow.activeWrite = none := by
  unfold exitLoop
  split
  · rfl
  · assumption

theorem turn_attends (c : Conn) (loop : WriteLoop) : (turn c loop).Attends := by
  unfold turn
  split
  · assumption
  · rename_i op active
    have present : c.flow.activeWrite.isSome = true := by
      rw [active]
      rfl
    dsimp only
    split
    · exact exitLoop_idle c
    · split
      · exact rfl
      · split
        · exact present
        · split
          · exact present
          · split
            · split
              · exact exitLoop_idle _
              · rename_i result
                have built := congrArg (fun result : Conn × Bool => result.1.flow.activeWrite.isSome)
                  result
                refine built.symm.trans ?_
                unfold buildNextSegment
                dsimp only
                split
                · rfl
                · split <;> rfl
            · split
              · exact present
              · exact present

theorem loopHead_attends (c : Conn) (loop : WriteLoop) : (loopHead c loop).Attends := by
  unfold loopHead
  split
  · exact turn_attends _ _
  · exact turn_attends c loop

theorem afterWindow_attends (c : Conn) (loop : WriteLoop) (winner : Winner) :
    (continueLoop (afterWindow c loop winner)).Attends := by
  unfold afterWindow
  split
  · exact loopHead_attends _ _
  · dsimp only
    split
    · exact exitLoop_idle _
    · split
      · assumption
      · exact loopHead_attends _ _

theorem afterAck_attends (c : Conn) (loop : WriteLoop) (winner : Winner) :
    (continueLoop (afterAck c loop winner)).Attends := by
  unfold afterAck
  dsimp only
  split
  · split <;> exact loopHead_attends _ _
  · split
    · split
      · exact exitLoop_idle _
      · exact loopHead_attends _ _
    · exact loopHead_attends _ _

theorem afterDevice_attends (c : Conn) (loop : WriteLoop) (failed : Bool) :
    (continueLoop (afterDevice c loop failed)).Attends := by
  unfold afterDevice
  split
  · exact exitLoop_idle c
  · split
    · rename_i idle
      exact Option.isNone_iff_eq_none.mp idle
    · exact loopHead_attends c loop

theorem Attended.setLoop {len : Nat} {c : Conn} (attended : Attended c) {index : Nat}
    (present : index < c.loops.length) {next : Turn} (path : Unfolds len .coroutine c next.conn)
    (attends : next.Attends) : Attended (Tunio.setLoop index next) := by
  have same : (Tunio.setLoop index next).flow = next.conn.flow := by cases next <;> rfl
  have gone (left : Left next.conn) : Attended (Tunio.setLoop index next) := by
    unfold Attended Left
    rw [same]
    exact Or.inl left
  rcases attended with left | one
  · exact gone (path.left left)
  · have loops := path.loops
    have single : next.conn.loops.length = 1 ∧ index = 0 := by
      split at one <;> omega
    refine Or.inr ?_
    cases next with
    | again c loop =>
        rw [same]
        exact (List.length_set.trans single.1).trans (if_pos attends).symm
    | suspend c loop =>
        rw [same]
        exact (List.length_set.trans single.1).trans (if_pos attends).symm
    | done c =>
        have idle : c.flow.activeWrite = none := attends
        have last : c.loops.length = 1 := single.1
        have ended : (c.loops.eraseIdx index).length = 0 := by
          rw [List.length_eraseIdx, if_pos (by omega)]
          omega
        rw [same]
        refine ended.trans ?_
        simp [Turn.conn, idle]

theorem resumeLoop_attended {c : Conn} (attended : Attended c) (index : Nat) :
    Attended (resumeLoop c index) := by
  unfold resumeLoop
  split
  · rename_i loop found
    obtain ⟨present, -⟩ := List.getElem?_eq_some_iff.mp found
    split
    · rename_i winner won
      have path : Unfolds 0 .coroutine c (continueLoop (afterRace c loop winner)).conn :=
        (Unfolds.afterRace c loop winner).trans (Unfolds.continueLoop _)
      cases await : loop.await with
      | device =>
          have still : continueLoop (afterRace c loop winner) = .suspend c loop := by
            simp only [afterRace, await, continueLoop]
          rw [still]
          refine attended.imp_right fun one => ?_
          exact List.length_set.trans one
      | handshake =>
          refine attended.setLoop present path ?_
          simp only [afterRace, await]
          exact loopHead_attends c loop
      | window =>
          refine attended.setLoop present path ?_
          simp only [afterRace, await]
          exact afterWindow_attends c loop winner
      | ack =>
          refine attended.setLoop present path ?_
          simp only [afterRace, await]
          exact afterAck_attends c loop winner
    · exact attended
  · exact attended

theorem deviceDone_attended {c : Conn} (attended : Attended c) (index : Nat) (failed : Bool) :
    Attended (deviceDone c index failed) := by
  unfold deviceDone
  split
  · rename_i loop found
    obtain ⟨present, -⟩ := List.getElem?_eq_some_iff.mp found
    split
    · have path : Unfolds 0 .coroutine c (continueLoop (afterDevice c loop failed)).conn :=
        (Unfolds.afterDevice c loop failed).trans (Unfolds.continueLoop _)
      exact attended.setLoop present path (afterDevice_attends c loop failed)
    · exact attended
  · exact attended

theorem spawnLoop_attended (c : Conn) (present : c.flow.activeWrite.isSome = true)
    (alone : Left c ∨ c.loops.length = 0) : Attended (spawnLoop c) := by
  have path : Unfolds 0 .coroutine c (startLoop c).conn := Unfolds.startLoop c
  have attends : (startLoop c).Attends := by
    unfold startLoop
    split
    · rename_i idle
      simp [idle] at present
    · exact loopHead_attends _ _
  have loops : Left (startLoop c).conn ∨ (startLoop c).conn.loops.length = 0 := by
    rcases alone with left | alone
    · exact Or.inl (path.left left)
    · exact Or.inr (path.loops.trans alone)
  unfold spawnLoop
  cases result : startLoop c with
  | again c' loop =>
      rw [result] at attends loops
      refine loops.imp id fun alone => ?_
      have alone : c'.loops.length = 0 := alone
      have present : c'.flow.activeWrite.isSome = true := attends
      simp [alone, present]
  | suspend c' loop =>
      rw [result] at attends loops
      refine loops.imp id fun alone => ?_
      have alone : c'.loops.length = 0 := alone
      have present : c'.flow.activeWrite.isSome = true := attends
      simp [alone, present]
  | done c' =>
      rw [result] at attends loops
      refine loops.imp id fun alone => ?_
      have alone : c'.loops.length = 0 := alone
      have idle : c'.flow.activeWrite = none := attends
      simp [alone, idle]

/-- The new write was answered at once and touched neither the write in progress nor its
coroutine. -/
structure Refused (before after : Conn) (handler : HandlerId) : Prop where
  posted : ∃ ec, after.writes = before.writes ++ [{ handler := handler, ec := ec, n := 0 }]
  active : after.flow.activeWrite = before.flow.activeWrite
  loops : after.loops = before.loops

theorem accepted_kept (c : Conn) (accepting : Bool) :
    (if accepting = true then acceptFlow c else c).writes = c.writes ∧
      (if accepting = true then acceptFlow c else c).flow.activeWrite = c.flow.activeWrite ∧
      (if accepting = true then acceptFlow c else c).loops = c.loops := by
  split
  · unfold acceptFlow sendSegment
    split
    · exact ⟨rfl, rfl, rfl⟩
    · split <;> exact ⟨rfl, rfl, rfl⟩
  · exact ⟨rfl, rfl, rfl⟩

/-- While a coroutine is left over, no other write starts. -/
theorem Attended.refuses {c : Conn} (attended : Attended c) (remains : c.loops ≠ [])
    (buffers : List (List UInt8)) (handler : HandlerId) :
    Refused c (doWriteSome c buffers handler) handler := by
  unfold doWriteSome tcpFlowStartWrite
  split
  · exact ⟨⟨_, rfl⟩, rfl, rfl⟩
  · rename_i usable
    split
    · exact ⟨⟨_, rfl⟩, rfl, rfl⟩
    · have writing : c.flow.activeWrite.isSome = true := by
        rcases attended with left | one
        · exact absurd (left.imp id Or.inl) usable
        · have : c.loops.length ≠ 0 := fun none => remains (List.length_eq_zero_iff.mp none)
          split at one
          · assumption
          · exact absurd one this
      have kept := accepted_kept c (decide (c.flow.state = .synRcvd))
      dsimp only
      generalize (if decide (c.flow.state = .synRcvd) = true then acceptFlow c else c) = c₁ at kept ⊢
      have answered (ec : ErrorCode) : Refused c (postWrite c₁ handler ec 0) handler :=
        ⟨⟨ec, congrArg (· ++ _) kept.1⟩, kept.2.1, kept.2.2⟩
      split
      · exact answered .success
      · rw [if_pos (by rw [kept.2.1]; exact writing)]
        exact answered .noBufferSpace

theorem doWriteSome_attended {c : Conn} (attended : Attended c) (buffers : List (List UInt8))
    (handler : HandlerId) : Attended (doWriteSome c buffers handler) := by
  have accepted : Attended (if decide (c.flow.state = .synRcvd) = true then acceptFlow c else c) := by
    split
    · have path : Unfolds 0 .operation c (acceptFlow c) := Unfolds.acceptFlow c
      exact path.attended attended
    · exact attended
  unfold doWriteSome tcpFlowStartWrite
  split
  · exact attended
  · split
    · exact attended
    · dsimp only
      generalize (if decide (c.flow.state = .synRcvd) = true then acceptFlow c else c) = c₁
        at accepted ⊢
      split
      · exact accepted
      · split
        · exact accepted
        · rename_i idle
          exact spawnLoop_attended _ rfl (accepted.imp_right fun one => one.trans (if_neg idle))

theorem step_attended {c : Conn} (attended : Attended c) (event : Event) :
    Attended (step c event) := by
  have evolves := step_evolves c event (Nat.le_refl event.size)
  cases event with
  | read buffers handler =>
      obtain ⟨middle, effect, first, permits, begun, rest⟩ := evolves
      refine rest.attended ?_
      cases effect with
      | startRead | refuseRead => exact first.attended attended
      | _ => exact absurd begun id
  | write buffers handler => exact doWriteSome_attended attended buffers handler
  | resume index => exact resumeLoop_attended attended index
  | device index failed => exact deviceDone_attended attended index failed
  | elsewhere eng => exact attended
  | _ => exact Unfolds.attended evolves attended

end Tunio
