import Tunio.Completion

/-!
The uses of the active write in the send coroutine.  One of them is not guarded: behind
the zero-window wait, when the persist timer has won and the flow was closed before the
coroutine ran again.
-/

namespace Tunio

open Machines

theorem Unfolds.fault {len : Nat} {before after : Conn}
    (path : Unfolds len .operation before after) : after.fault = before.fault := by
  refine path.invariant (fun c => c.fault = before.fault) rfl fun c effect same permits ⟨plain, _⟩ => ?_
  cases schedules : effect.schedules with
  | false => exact (congrArg Tasks.fault (apply_tasks permits schedules)).trans same
  | true =>
      cases effect with
      | spawn | finish | fault => cases plain
      | _ => cases schedules

theorem exitLoop_fault (c : Conn) : (exitLoop c).fault = c.fault := by
  unfold exitLoop
  split <;> rfl

theorem turn_fault (c : Conn) (loop : WriteLoop) : (turn c loop).conn.fault = c.fault := by
  unfold turn
  split
  · rfl
  · rename_i op active
    dsimp only
    split
    · exact exitLoop_fault c
    · rename_i alive
      have built : Unfolds 0 .operation c
          (buildNextSegment c op (c.flow.sndNxt - c.flow.sndUna)).1 :=
        Unfolds.buildNextSegment _ (fun closed => alive (Or.inl closed)) active
      split
      · rfl
      · split
        · rfl
        · split
          · rfl
          · split
            · split
              · rename_i result
                rw [result] at built
                exact (exitLoop_fault _).trans built.fault
              · rename_i result
                rw [result] at built
                exact built.fault
            · split <;> rfl

theorem loopHead_fault (c : Conn) (loop : WriteLoop) : (loopHead c loop).conn.fault = c.fault := by
  have first := turn_fault c loop
  unfold loopHead
  split
  · rename_i result
    rw [result] at first
    exact (turn_fault _ _).trans first
  · exact first

theorem continueLoop_fault (next : Turn) : (continueLoop next).conn.fault = next.conn.fault := by
  cases next with
  | again c loop => exact loopHead_fault c loop
  | suspend c loop => rfl
  | done c => rfl

theorem setLoop_fault (index : Nat) (next : Turn) :
    (setLoop index next).fault = next.conn.fault := by
  cases next <;> rfl

/-- The persist timer of the coroutine has won, and its probes are not used up. -/
def Probing (cfg : TunConfig) (loop : WriteLoop) : Prop :=
  loop.await = .window ∧ loop.winner = some .timer ∧
    loop.persistProbes + 1 ≤ cfg.tcpPersistMaxProbes

instance (cfg : TunConfig) (loop : WriteLoop) : Decidable (Probing cfg loop) :=
  inferInstanceAs (Decidable (_ ∧ _ ∧ _))

/-- A coroutine that is about to probe finds its write. -/
def Engaged (c : Conn) : Event → Prop
  | .resume index =>
      ∀ loop ∈ c.loops[index]?, Probing c.eng.cfg loop → c.flow.activeWrite.isSome = true
  | _ => True

instance (c : Conn) (event : Event) : Decidable (Engaged c event) := by
  unfold Engaged
  cases event <;> infer_instance

theorem abortFlow_fault (c : Conn) : (abortFlow c).fault = c.fault :=
  congrArg Tasks.fault (abortFlow_tasks c)

theorem retransmitUnacked_fault (c : Conn) (maxBytes : Nat) :
    (retransmitUnacked c maxBytes).fault = c.fault := by
  have path : Unfolds 0 .operation c (retransmitUnacked c maxBytes) :=
    Unfolds.retransmitUnacked c maxBytes
  exact path.fault

theorem afterWindow_fault (c : Conn) (loop : WriteLoop) (winner : Winner) :
    (afterWindow c loop winner).conn.fault = false ↔ c.fault = false ∧
      (winner = .timer → loop.persistProbes + 1 ≤ c.eng.cfg.tcpPersistMaxProbes →
        c.flow.activeWrite.isSome = true) := by
  unfold afterWindow
  cases winner with
  | signal => simp [Turn.conn]
  | timer =>
      dsimp only
      split
      · rename_i exhausted
        have aborted : (exitLoop (abortFlow c)).fault = c.fault :=
          (exitLoop_fault _).trans (abortFlow_fault c)
        refine (Iff.of_eq (congrArg (· = false) aborted)).trans ?_
        refine (and_iff_left fun _ within => ?_).symm
        omega
      · rename_i remaining
        split
        · rename_i gone
          simp only [Turn.conn, gone]
          constructor
          · intro impossible
            cases impossible
          · intro engaged
            have present := engaged.2 trivial (by omega)
            cases present
        · rename_i op active
          have probed : Unfolds 0 .operation c (sendWindowProbe c op) :=
            Unfolds.sendWindowProbe active
          refine (Iff.of_eq (congrArg (· = false) ?_)).trans
            (and_iff_left fun _ _ => by rw [active]; rfl).symm
          change (if _ then _ else _ : Conn).fault = _
          split
          · exact probed.fault
          · split
            · exact retransmitUnacked_fault c _
            · rfl

theorem afterAck_fault (c : Conn) (loop : WriteLoop) (winner : Winner) :
    (afterAck c loop winner).conn.fault = c.fault := by
  unfold afterAck
  dsimp only
  split
  · split <;> rfl
  · split
    · split
      · exact (exitLoop_fault _).trans (abortFlow_fault c)
      · change (if _ then _ else _ : Conn).fault = _
        split
        · exact retransmitUnacked_fault c _
        · rfl
    · rfl

theorem afterDevice_fault (c : Conn) (loop : WriteLoop) (failed : Bool) :
    (afterDevice c loop failed).conn.fault = c.fault := by
  unfold afterDevice
  split
  · exact exitLoop_fault c
  · split <;> rfl

theorem startLoop_fault (c : Conn) : (startLoop c).conn.fault = c.fault := by
  unfold startLoop
  split
  · rfl
  · exact loopHead_fault _ _

theorem resumeLoop_fault (c : Conn) (index : Nat) :
    (resumeLoop c index).fault = false ↔ c.fault = false ∧ Engaged c (.resume index) := by
  have quiet {after : Conn} (same : after.fault = c.fault)
      (idle : ∀ loop ∈ c.loops[index]?, ¬Probing c.eng.cfg loop) :
      after.fault = false ↔ c.fault = false ∧ Engaged c (.resume index) := by
    rw [same]
    exact (and_iff_left fun loop found probing => absurd probing (idle loop found)).symm
  unfold resumeLoop
  split
  · rename_i loop found
    have idle (fails : ¬Probing c.eng.cfg loop) :
        ∀ loop ∈ c.loops[index]?, ¬Probing c.eng.cfg loop := by
      intro other member
      rw [found] at member
      rwa [← Option.some.inj member]
    split
    · rename_i winner won
      have resumed : (setLoop index (continueLoop (afterRace c loop winner))).fault =
          (afterRace c loop winner).conn.fault :=
        (setLoop_fault _ _).trans (continueLoop_fault _)
      cases await : loop.await with
      | window =>
          have window := afterWindow_fault c loop winner
          have race : afterRace c loop winner = afterWindow c loop winner := by
            simp only [afterRace, await]
          rw [resumed, race, window]
          refine and_congr_right fun _ => ⟨?_, ?_⟩
          · intro present other member probing
            rw [found] at member
            obtain rfl := Option.some.inj member
            exact present (Option.some.inj (won.symm.trans probing.2.1)) probing.2.2
          · rintro engaged rfl within
            exact engaged loop found ⟨await, won, within⟩
      | handshake | device =>
          refine quiet ?_ (idle fun probing => by simp [Probing, await] at probing)
          rw [resumed]
          simp only [afterRace, await, Turn.conn]
      | ack =>
          refine quiet ?_ (idle fun probing => by simp [Probing, await] at probing)
          rw [resumed]
          simp only [afterRace, await]
          exact afterAck_fault c loop winner
    · rename_i waiting
      exact quiet rfl (idle fun probing => by simp [Probing, waiting] at probing)
  · rename_i missing
    exact quiet rfl (by simp [missing])

theorem deviceDone_fault (c : Conn) (index : Nat) (failed : Bool) :
    (deviceDone c index failed).fault = c.fault := by
  unfold deviceDone
  split
  · split
    · exact (setLoop_fault _ _).trans ((continueLoop_fault _).trans (afterDevice_fault c _ failed))
    · rfl
  · rfl

theorem spawnLoop_fault (c : Conn) : (spawnLoop c).fault = c.fault := by
  have started := startLoop_fault c
  unfold spawnLoop
  split
  · rename_i result
    rw [result] at started
    exact started
  · rename_i result
    rw [result] at started
    exact started
  · rename_i result
    rw [result] at started
    exact started

theorem doWriteSome_fault (c : Conn) (buffers : List (List UInt8)) (handler : HandlerId) :
    (doWriteSome c buffers handler).fault = c.fault := by
  have accepted : (if decide (c.flow.state = .synRcvd) = true then acceptFlow c else c).fault =
      c.fault := by
    split
    · have path : Unfolds 0 .operation c (acceptFlow c) := Unfolds.acceptFlow c
      exact path.fault
    · rfl
  unfold doWriteSome tcpFlowStartWrite
  split
  · rfl
  · split
    · rfl
    · dsimp only
      generalize (if decide (c.flow.state = .synRcvd) = true then acceptFlow c else c) = c₁
        at accepted ⊢
      split
      · exact accepted
      · split
        · exact accepted
        · exact (spawnLoop_fault _).trans accepted

theorem step_fault (c : Conn) (event : Event) :
    (step c event).fault = false ↔ c.fault = false ∧ Engaged c event := by
  have quiet (same : (step c event).fault = c.fault) (engaged : Engaged c event) :
      (step c event).fault = false ↔ c.fault = false ∧ Engaged c event := by
    rw [same]
    exact (and_iff_left engaged).symm
  have evolves := step_evolves c event (Nat.le_refl event.size)
  cases event with
  | read buffers handler =>
      obtain ⟨middle, effect, first, permits, begun, rest⟩ := evolves
      refine quiet (rest.fault.trans ?_) trivial
      rw [← first.fault]
      cases effect with
      | startRead | refuseRead => rfl
      | _ => exact absurd begun id
  | write buffers handler => exact quiet (doWriteSome_fault c buffers handler) trivial
  | resume index => exact resumeLoop_fault c index
  | device index failed => exact quiet (deviceDone_fault c index failed) trivial
  | elsewhere eng => exact quiet rfl trivial
  | _ => exact quiet (Unfolds.fault evolves) trivial

theorem run_fault (c : Conn) (events : List Event) :
    (run c events).fault = false ↔ c.fault = false ∧ Always Engaged c events := by
  induction events generalizing c with
  | nil => exact (and_iff_left trivial).symm
  | cons event events ih =>
      rw [run_cons, ih, step_fault, and_assoc]
      rfl

/-- No write that is gone is used in a run exactly if every coroutine that is about to
probe finds its write. -/
theorem run_engaged (eng : TcpEngine) (id : FlowId) (key : FiveTuple) (th : TcpHeader)
    (payload data : List UInt8) (iss : UInt32) (events : List Event) :
    (run (openFlow eng id key th payload data iss) events).fault = false ↔
      Always Engaged (openFlow eng id key th payload data iss) events := by
  refine (run_fault _ events).trans (and_iff_right ?_)
  unfold openFlow notifyAccept takeSynData
  dsimp only
  repeat' split
  all_goals rfl

/-- `close()` runs between the expiry of the persist timer and the resumption. -/
theorem closedWrite_used :
    (run (opened {} 0) [.accept, .segment (peerSegment 8 1001 tcpAck 0) [], .write [[1]] 5, .timer 0,
      .close, .resume 0]).fault = true := by
  decide

end Tunio
