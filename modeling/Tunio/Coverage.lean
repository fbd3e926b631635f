import Tunio.Closed

/-!
Acknowledging what was received.  Either the last segment the flow submitted carries
`rcv_nxt`, or an acknowledgement is pending with its timer running.
-/

namespace Tunio

/-- The last segment that was submitted acknowledges everything. -/
def LastAck (c : Conn) : Prop :=
  ∃ segment, c.out.getLast? = some segment ∧ segment.ack = c.flow.rcvNxt

/-- A wait of at most 40 ms is outstanding, or has just expired and its handler is queued. -/
def AckWait (c : Conn) : Prop :=
  ∃ timer, c.flow.ackTimer = some timer ∧
    ((timer.waiting = true ∧ timer.expiry ≤ c.eng.now + kDelayedAckTimeout) ∨ 0 < timer.expired)

def Covered (c : Conn) : Prop := LastAck c ∨ (c.flow.ackPending = true ∧ AckWait c)

theorem sendSegment_lastAck (c : Conn) (seq : UInt32) (flags : UInt8) (payload : List UInt8)
    (withMss : Bool) (isOpen : c.flow.state ≠ .closed) :
    LastAck (sendSegment c seq flags payload withMss) := by
  unfold sendSegment
  rw [if_neg isOpen]
  exact ⟨_, List.getLast?_concat, rfl⟩

theorem sendAck_lastAck (c : Conn) (isOpen : c.flow.state ≠ .closed) : LastAck (sendAck c) :=
  sendSegment_lastAck c _ _ _ _ isOpen

theorem LastAck.congr {before after : Conn} (lastAck : LastAck before)
    (out : after.out = before.out) (rcvNxt : after.flow.rcvNxt = before.flow.rcvNxt) :
    LastAck after := by
  obtain ⟨segment, last, ack⟩ := lastAck
  exact ⟨segment, by rw [out, last], by rw [ack, rcvNxt]⟩

theorem noteDataAck_covered (c : Conn) (isOpen : c.flow.state ≠ .closed) :
    Covered (noteDataAck c) := by
  unfold noteDataAck
  split
  · exact Or.inl (sendAck_lastAck c isOpen)
  · exact Or.inr ⟨rfl, _, rfl, Or.inl ⟨rfl, Int.le_refl _⟩⟩

/-! What the acknowledgements depend on. -/

structure AckView where
  out : List Segment
  rcvNxt : UInt32
  ackPending : Bool
  ackTimer : Option AckTimer
  now : Int

def Conn.acking (c : Conn) : AckView := {
  out := c.out
  rcvNxt := c.flow.rcvNxt
  ackPending := c.flow.ackPending
  ackTimer := c.flow.ackTimer
  now := c.eng.now
}

theorem Covered.congr {before after : Conn} (covered : Covered before)
    (same : after.acking = before.acking) : Covered after := by
  have rcvNxt : after.flow.rcvNxt = before.flow.rcvNxt := congrArg AckView.rcvNxt same
  rcases covered with lastAck | ⟨pending, timer, armed, wait⟩
  · exact Or.inl (lastAck.congr (congrArg AckView.out same) rcvNxt)
  · refine Or.inr ⟨(congrArg AckView.ackPending same).trans pending, timer,
      (congrArg AckView.ackTimer same).trans armed, ?_⟩
    have now : after.eng.now = before.eng.now := congrArg AckView.now same
    rw [now]
    exact wait

/-- The effects that do not concern acknowledgements. -/
def Effect.unacking : Effect → Bool
  | .submit _ _ _ _ | .next _ | .accept | .fin | .giveUp | .abort | .resetBy | .close _ => false
  | .direct _ _ _ | .buffer _ _ | .skip _ | .takeFin => false
  | .ackTimerExpires | .ackTimerRuns | .elsewhere _ => false
  | _ => true

theorem apply_acking (c : Conn) (effect : Effect) (still : effect.unacking = true) :
    (c.apply effect).acking = c.acking := by
  cases effect with
  | notify =>
      change (notifyAccept c).acking = _
      unfold notifyAccept
      split <;> rfl
  | handOut =>
      change (handOut c).acking = _
      unfold handOut
      dsimp only
      split
      · split <;> rfl
      · rfl
  | finAcked =>
      unfold Conn.apply
      dsimp only
      split <;> rfl
  | probeAck ack =>
      change (acceptProbe c ack).acking = _
      unfold acceptProbe
      dsimp only
      split
      · split <;> rfl
      · rfl
  | compact =>
      change (compactRx c).acking = _
      unfold compactRx
      split <;> rfl
  | append seq data fin =>
      change (oooAppend c seq data fin).1.acking = _
      unfold oooAppend appendFin appendData
      dsimp only
      repeat' split
      all_goals rfl
  | discard key seg =>
      change (discardOoo c key seg).acking = _
      unfold discardOoo
      dsimp only
      split <;> rfl
  | drop =>
      change (dropReceived c).acking = _
      unfold dropReceived
      dsimp only
      split <;> split <;> rfl
  | closeChannel =>
      change (closeWriteCh c).acking = _
      unfold closeWriteCh
      split <;> rfl
  | submit | next | accept | fin | giveUp | abort | resetBy | close | direct | buffer | skip
  | takeFin | ackTimerExpires | ackTimerRuns | elsewhere => cases still
  | _ => rfl

/-! One effect. -/

theorem Covered.next {c : Conn} (covered : Covered c) (inFlight : UInt32) :
    Covered (c.apply (.next inFlight)) := by
  cases active : c.flow.activeWrite with
  | none =>
      simp only [Conn.apply, active]
      exact covered
  | some op =>
      simp only [Conn.apply, active]
      unfold buildNextSegment
      dsimp only
      split
      · exact covered.congr rfl
      · split
        · exact covered.congr rfl
        · exact Or.inl ⟨_, List.getLast?_concat, rfl⟩

theorem acceptFlow_covered (c : Conn) (waiting : c.flow.state = .synRcvd) :
    Covered (acceptFlow c) := by
  have isOpen : c.flow.state ≠ .closed := by simp [waiting]
  have sent := sendSegment_lastAck c c.flow.iss (tcpSyn ||| tcpAck) [] true isOpen
  unfold acceptFlow
  rw [if_neg (not_not.mpr waiting)]
  exact Or.inl (sent.congr rfl rfl)

theorem emitFin_covered (c : Conn) (state : TcpState) (left : state ≠ .closed) :
    Covered (emitFin c state) := by
  have sent := sendSegment_lastAck
    { c with flow.state := state, flow.closeStartedAt := c.eng.now } c.flow.sndNxt
    (tcpAck ||| tcpFin) [] false left
  exact Or.inl (sent.congr rfl rfl)

theorem deliverDirect_covered (c : Conn) (op : ReadOp) (data : List UInt8)
    (isOpen : c.flow.state ≠ .closed) : Covered (deliverDirect c op data) := by
  have stays : (fillRead c op data).flow.state ≠ .closed := by
    rw [fillRead_state]
    exact isOpen
  unfold deliverDirect
  dsimp only
  rw [if_neg stays]
  refine Or.inl (sendAck_lastAck _ ?_)
  split
  · rw [flushReads_state]
    exact stays
  · exact stays

theorem takeFin_covered (c : Conn) (isOpen : c.flow.state ≠ .closed) :
    Covered (c.apply .takeFin) := by
  have stays : (takeFin c).flow.state ≠ .closed := by
    unfold takeFin
    split <;> exact isOpen
  have sent := sendAck_lastAck (takeFin c) stays
  change Covered (finState (sendAck (takeFin c)))
  unfold finState
  split
  · exact Or.inl (sent.congr rfl rfl)
  · exact Or.inl (sent.congr rfl rfl)
  · exact Or.inl sent

theorem ackTimerExpires_covered {c : Conn} (covered : Covered c) : Covered (ackTimerExpires c) := by
  unfold ackTimerExpires
  split
  · split
    · rcases covered with lastAck | ⟨pending, _⟩
      · exact Or.inl (lastAck.congr rfl rfl)
      · exact Or.inr ⟨pending, _, rfl, Or.inr (Nat.succ_pos _)⟩
    · exact covered
  · exact covered

/-- The handler of the timer acknowledges what is pending. -/
theorem ackTimerRuns_covered {c : Conn} (covered : Covered c) (isOpen : c.flow.state ≠ .closed) :
    Covered (ackTimerRuns c) := by
  unfold ackTimerRuns
  split
  · split
    · dsimp only
      split
      · rename_i idle
        have notPending := idle.resolve_left isOpen
        rcases covered with lastAck | ⟨pending, _⟩
        · exact Or.inl (lastAck.congr rfl rfl)
        · exact absurd pending notPending
      · exact Or.inl (sendAck_lastAck _ isOpen)
    · exact covered
  · exact covered

/-- A flow that has sent its SYN-ACK is covered until it is closed. -/
def Acknowledging (c : Conn) : Prop :=
  c.flow.state = .closed ∨ c.flow.state = .synRcvd ∨ Covered c

theorem elsewhere_covered {c : Conn} (covered : Covered c) (eng : TcpEngine) :
    Covered (c.apply (.elsewhere eng)) := by
  rcases covered with lastAck | ⟨pending, timer, armed, wait⟩
  · exact Or.inl (lastAck.congr rfl rfl)
  · refine Or.inr ⟨pending, timer, armed, wait.imp_left fun ⟨waiting, expiry⟩ => ⟨waiting, ?_⟩⟩
    change timer.expiry ≤ max c.eng.now eng.now + kDelayedAckTimeout
    omega

theorem Acknowledging.apply {c : Conn} (holds : Acknowledging c) (effect : Effect)
    (permits : c.Permits effect) : Acknowledging (c.apply effect) := by
  by_cases closed : (c.apply effect).flow.state = .closed
  · exact Or.inl closed
  by_cases waiting : (c.apply effect).flow.state = .synRcvd
  · exact Or.inr (Or.inl waiting)
  refine Or.inr (Or.inr ?_)
  have isOpen : c.flow.state ≠ .closed := fun before => closed (apply_closed permits before)
  have covered (left : c.flow.state ≠ .synRcvd) : Covered c :=
    (holds.resolve_left isOpen).resolve_left left
  have still (still : effect.moves = false) : Covered c :=
    covered fun before => waiting ((apply_state c effect still).trans before)
  cases effect with
  | submit seq flags payload withMss => exact Or.inl (sendSegment_lastAck c _ _ _ _ isOpen)
  | next inFlight => exact (still rfl).next inFlight
  | accept => exact acceptFlow_covered c permits
  | establish =>
      have before : c.flow.state ≠ .synRcvd := by
        rw [show c.flow.state = .synAckSent from permits]
        decide
      exact (covered before).congr rfl
  | fin =>
      refine emitFin_covered { c with flow.finSent := true } c.flow.state.finished ?_
      rcases permits.1 with here | here <;> rw [here] <;> decide
  | finAcked =>
      have before : c.flow.state ≠ .synRcvd := by
        rw [permits.1]
        decide
      exact (covered before).congr (apply_acking c .finAcked rfl)
  | giveUp => exact absurd (abortFlow_state _) closed
  | abort => exact absurd (abortFlow_state _) closed
  | resetBy => exact absurd (closeFlow_state _ _) closed
  | close err => exact absurd (closeFlow_state _ _) closed
  | direct op account data =>
      exact deliverDirect_covered { c with eng.account := account } op data isOpen
  | buffer account data => exact noteDataAck_covered _ isOpen
  | skip len => exact Or.inl (sendAck_lastAck _ isOpen)
  | takeFin => exact takeFin_covered c isOpen
  | ackTimerExpires => exact ackTimerExpires_covered (still rfl)
  | ackTimerRuns => exact ackTimerRuns_covered (still rfl) isOpen
  | elsewhere eng => exact elsewhere_covered (still rfl) eng
  | _ => exact (still rfl).congr (apply_acking c _ rfl)

/-! Runs. -/

theorem run_acknowledging (eng : TcpEngine) (id : FlowId) (key : FiveTuple) (th : TcpHeader)
    (payload data : List UInt8) (iss : UInt32) (events : List Event) :
    Acknowledging (run (openFlow eng id key th payload data iss) events) :=
  run_keeps Acknowledging (fun _ effect holds permits => holds.apply effect permits) _ events
    (Or.inr (Or.inl (openFlow_coordinated eng id key th payload data iss).1))

theorem ackTimerRuns_lastAck {c : Conn} (lastAck : LastAck c) (isOpen : c.flow.state ≠ .closed) :
    LastAck (ackTimerRuns c) := by
  unfold ackTimerRuns
  split
  · split
    · dsimp only
      split
      · exact lastAck.congr rfl rfl
      · exact sendAck_lastAck _ isOpen
    · exact lastAck
  · exact lastAck

theorem ackTimerRuns_pays {c : Conn} (timer : AckTimer) (armed : c.flow.ackTimer = some timer)
    (queued : 0 < timer.expired) (pending : c.flow.ackPending = true)
    (isOpen : c.flow.state ≠ .closed) : LastAck (ackTimerRuns c) := by
  have owes : ¬(c.flow.state = .closed ∨ ¬c.flow.ackPending = true) := by simp [isOpen, pending]
  unfold ackTimerRuns
  simp only [armed]
  rw [if_pos queued, if_neg owes]
  exact sendAck_lastAck _ isOpen

/-- However an acknowledgement is owed, it is sent when the timer has run. -/
theorem Covered.settles {c : Conn} (covered : Covered c) (isOpen : c.flow.state ≠ .closed) :
    LastAck (run c [.ackTimerExpires, .ackTimerRuns]) := by
  rcases covered with lastAck | ⟨pending, timer, armed, wait⟩
  · have expired : LastAck (ackTimerExpires c) := by
      unfold ackTimerExpires
      split
      · split
        · exact lastAck.congr rfl rfl
        · exact lastAck
      · exact lastAck
    exact ackTimerRuns_lastAck expired
      (fun closed => isOpen ((apply_state c .ackTimerExpires rfl).symm.trans closed))
  · change LastAck (ackTimerRuns (ackTimerExpires c))
    unfold ackTimerExpires
    simp only [armed]
    split
    · exact ackTimerRuns_pays _ rfl (Nat.succ_pos _) pending isOpen
    · rename_i notWaiting
      have queued : 0 < timer.expired := wait.resolve_left fun waits => notWaiting waits.1
      exact ackTimerRuns_pays timer armed queued pending isOpen

/-- A flow behind the handshake has acknowledged everything it received, or owes an
acknowledgement for which the timer is running; and the timer pays it. -/
theorem run_covered (eng : TcpEngine) (id : FlowId) (key : FiveTuple) (th : TcpHeader)
    (payload data : List UInt8) (iss : UInt32) (events : List Event)
    (past : Past (run (openFlow eng id key th payload data iss) events).flow.state) :
    Covered (run (openFlow eng id key th payload data iss) events) ∧
      LastAck (run (openFlow eng id key th payload data iss)
        (events ++ [.ackTimerExpires, .ackTimerRuns])) := by
  have covered := ((run_acknowledging eng id key th payload data iss events).resolve_left
    past.1).resolve_left past.2.1
  refine ⟨covered, ?_⟩
  rw [run_append]
  exact covered.settles past.1

/-- Data that is waiting for its reader is acknowledged by the timer. -/
theorem delayed_covered :
    let events : List Event := [
      .handOut, .accept, .segment (peerSegment 8 1001 tcpAck 1000) [],
      .segment (peerSegment 8 1001 tcpAck 1000) [1, 2, 3]]
    Covered (run (opened {} 1000) events) ∧
      LastAck (run (opened {} 1000) (events ++ [.ackTimerExpires, .ackTimerRuns])) :=
  run_covered _ _ _ _ _ _ _ _ ⟨by decide, by decide, by decide⟩

end Tunio
