import Tunio.Closed
import Tunio.Marks

/-!
The clock and the stamps of a flow.  Its phases follow each other, and the stamp that the
sweep compares with the clock is the time at which the phase began.
-/

namespace Tunio

open Machines

structure Times where
  cfg : TunConfig
  now : Int
  createdAt : Int
  closeStartedAt : Int
  destroyAt : Int

def Conn.times (c : Conn) : Times := {
  cfg := c.eng.cfg
  now := c.eng.now
  createdAt := c.flow.createdAt
  closeStartedAt := c.flow.closeStartedAt
  destroyAt := c.flow.destroyAt
}

section

variable (c : Conn)

theorem sendSegment_times (seq : UInt32) (flags : UInt8) (payload : List UInt8) (withMss : Bool) :
    (sendSegment c seq flags payload withMss).times = c.times := by
  unfold sendSegment
  split <;> rfl

theorem compactRx_times : (compactRx c).times = c.times := by
  unfold compactRx
  split <;> rfl

theorem dropReceived_times : (dropReceived c).times = c.times := by
  unfold dropReceived
  dsimp only
  split <;> split <;> rfl

theorem notifyAccept_times : (notifyAccept c).times = c.times := by
  unfold notifyAccept
  split <;> rfl

theorem closeWriteCh_times : (closeWriteCh c).times = c.times := by
  unfold closeWriteCh
  split <;> rfl

theorem closeFlow_times (err : ErrorCode) : (closeFlow c err).times = c.times := by
  refine closeFlow_keeps Conn.times err ?_ ?_ ?_ closeWriteCh_times ?_ c
  · intro c
    unfold withdrawAccept cancelAckTimer
    split <;> split <;> rfl
  · exact fun c => dropReceived_times _
  · intro c
    unfold detachFlow uncountFlow
    split <;> rfl
  · intro c read write
    cases read <;> cases write <;> rfl

theorem abortFlow_times : (abortFlow c).times = c.times := by
  unfold abortFlow
  split
  · rfl
  · exact (closeFlow_times _ _).trans (sendSegment_times c _ _ _ _)

theorem acceptFlow_times : (acceptFlow c).times = c.times := by
  unfold acceptFlow
  split
  · rfl
  · exact sendSegment_times c _ _ _ _

theorem emitFin_times (state : TcpState) :
    (emitFin c state).times = { c.times with closeStartedAt := c.eng.now } :=
  sendSegment_times { c with flow.state := state, flow.closeStartedAt := c.eng.now } _ _ _ _

theorem deliverDirect_times (op : ReadOp) (data : List UInt8) :
    (deliverDirect c op data).times = c.times := by
  have filled : (fillRead c op data).times = c.times := by
    unfold fillRead
    dsimp only
    split <;> rfl
  have idle : (fillRead c op data).flow.activeRead = none := by
    unfold fillRead
    dsimp only
    split <;> rfl
  unfold deliverDirect
  dsimp only
  split
  · exact filled
  · refine (sendSegment_times _ _ _ _ _).trans ?_
    split
    · rw [flushReads_idle _ idle]
      exact (compactRx_times _).trans filled
    · exact filled

theorem openFlow_times (eng : TcpEngine) (id : FlowId) (key : FiveTuple) (th : TcpHeader)
    (payload data : List UInt8) (iss : UInt32) :
    (openFlow eng id key th payload data iss).times =
      { cfg := eng.cfg, now := eng.now, createdAt := eng.now, closeStartedAt := 0, destroyAt := 0 } := by
  have taken (c : Conn) : (takeSynData c th data).times = c.times := by
    unfold takeSynData
    split
    · split <;> rfl
    · rfl
  exact (notifyAccept_times _).trans (taken _)

end

/-- The effects that set a stamp or the clock. -/
def Effect.stamps : Effect → Bool
  | .fin | .finAcked | .takeFin | .elsewhere _ => true
  | _ => false

theorem apply_times (c : Conn) (effect : Effect) (still : effect.stamps = false) :
    (c.apply effect).times = c.times := by
  cases effect with
  | submit seq flags payload withMss => exact sendSegment_times c _ _ _ _
  | next inFlight =>
      unfold Conn.apply
      dsimp only
      split
      · unfold buildNextSegment
        dsimp only
        split
        · rfl
        · split <;> rfl
      · rfl
  | accept => exact acceptFlow_times c
  | notify => exact notifyAccept_times c
  | handOut =>
      change (handOut c).times = c.times
      unfold handOut
      dsimp only
      split
      · split <;> rfl
      · rfl
  | giveUp => exact abortFlow_times _
  | abort => exact abortFlow_times c
  | resetBy => exact closeFlow_times { c with flow.rst := true } _
  | close err => exact closeFlow_times c err
  | probeAck ack =>
      change (acceptProbe c ack).times = c.times
      unfold acceptProbe
      dsimp only
      split
      · split <;> rfl
      · rfl
  | direct op account data => exact deliverDirect_times _ op data
  | buffer account data =>
      change (noteDataAck _).times = _
      unfold noteDataAck
      split
      · exact sendSegment_times _ _ _ _ _
      · rfl
  | skip len => exact sendSegment_times _ _ _ _ _
  | compact => exact compactRx_times c
  | append seq data fin =>
      change (oooAppend c seq data fin).1.times = c.times
      unfold oooAppend appendFin appendData
      dsimp only
      repeat' split
      all_goals rfl
  | discard key seg =>
      change (discardOoo c key seg).times = c.times
      unfold discardOoo
      dsimp only
      split <;> rfl
  | drop => exact dropReceived_times c
  | closeChannel => exact closeWriteCh_times c
  | ackTimerExpires =>
      change (ackTimerExpires c).times = c.times
      unfold ackTimerExpires
      split
      · split <;> rfl
      · rfl
  | ackTimerRuns =>
      change (ackTimerRuns c).times = c.times
      unfold ackTimerRuns
      split
      · split
        · dsimp only
          split
          · rfl
          · exact sendSegment_times _ _ _ _ _
        · rfl
      · rfl
  | fin | finAcked | takeFin | elsewhere => cases still
  | _ => rfl

/-! The phases of a flow. -/

inductive Phase
  | opening
  | steady
  | closing
  | waiting
  | ended
  deriving DecidableEq, Repr

def TcpState.phase : TcpState → Phase
  | .synRcvd | .synAckSent => .opening
  | .established | .closeWait => .steady
  | .finWait1 | .finWait2 | .lastAck => .closing
  | .timeWait => .waiting
  | .closed => .ended

def Phase.rank : Phase → Nat
  | .opening => 0
  | .steady => 1
  | .closing => 2
  | .waiting => 3
  | .ended => 4

theorem Phase.rank_inj {first second : Phase} (same : first.rank = second.rank) : first = second := by
  cases first <;> cases second <;> first | rfl | cases same

/-- The stamp of the phase is the time at which it began. -/
structure Stamped (began : Int) (c : Conn) : Prop where
  opening : c.flow.state.phase = .opening → c.flow.createdAt = began
  closing : c.flow.state.phase = .closing → c.flow.closeStartedAt = began
  waiting : c.flow.state.phase = .waiting →
    c.flow.destroyAt = began + c.eng.cfg.tcpTimeWaitTimeout * 1000

/-- When the phase of a flow began: at `began` unless it has changed. -/
def Conn.began (before after : Conn) (began : Int) : Int :=
  if after.flow.state.phase = before.flow.state.phase then began else before.eng.now

/-- The flow ages while the clock stands still. -/
structure Ages (before after : Conn) : Prop where
  cfg : after.eng.cfg = before.eng.cfg
  now : after.eng.now = before.eng.now
  rank : before.flow.state.phase.rank ≤ after.flow.state.phase.rank
  stamped : ∀ began, Stamped began before → Stamped (before.began after began) after

theorem Ages.refl (c : Conn) : Ages c c := by
  refine ⟨rfl, rfl, Nat.le_refl _, fun began stamped => ?_⟩
  unfold Conn.began
  rw [if_pos rfl]
  exact stamped

theorem Ages.trans {first second third : Conn} (one : Ages first second)
    (two : Ages second third) : Ages first third := by
  refine ⟨two.cfg.trans one.cfg, two.now.trans one.now, one.rank.trans two.rank, fun began stamped => ?_⟩
  have later := two.stamped _ (one.stamped began stamped)
  suffices same : second.began third (first.began second began) = first.began third began by
    rwa [same] at later
  have ranks := one.rank
  have ranks' := two.rank
  unfold Conn.began
  by_cases early : second.flow.state.phase = first.flow.state.phase
  · rw [if_pos early, early, one.now]
  · by_cases late : third.flow.state.phase = second.flow.state.phase
    · rw [if_pos late, if_neg early, late, if_neg early]
    · -- the phase has changed twice, so it is not the first one again
      have apart : third.flow.state.phase ≠ first.flow.state.phase := by
        intro same
        rw [same] at ranks'
        exact early (Phase.rank_inj (ranks'.antisymm ranks))
      rw [if_neg late, if_neg apart, one.now]

/-- What leaves the stamps alone and takes the flow to another phase only to end it or to
make it steady. -/
theorem Ages.of_times {before after : Conn} (times : after.times = before.times)
    (rank : before.flow.state.phase.rank ≤ after.flow.state.phase.rank)
    (unstamped : after.flow.state.phase = before.flow.state.phase ∨
      after.flow.state.phase = .steady ∨ after.flow.state.phase = .ended) : Ages before after := by
  have cfg : after.eng.cfg = before.eng.cfg := congrArg Times.cfg times
  have created : after.flow.createdAt = before.flow.createdAt := congrArg Times.createdAt times
  have started : after.flow.closeStartedAt = before.flow.closeStartedAt :=
    congrArg Times.closeStartedAt times
  have destroyed : after.flow.destroyAt = before.flow.destroyAt := congrArg Times.destroyAt times
  refine ⟨cfg, congrArg Times.now times, rank, fun began stamped => ?_⟩
  rcases unstamped with same | steady | ended
  · unfold Conn.began
    rw [if_pos same]
    refine ⟨fun phase => ?_, fun phase => ?_, fun phase => ?_⟩
    · rw [created]
      exact stamped.opening (same ▸ phase)
    · rw [started]
      exact stamped.closing (same ▸ phase)
    · rw [destroyed, cfg]
      exact stamped.waiting (same ▸ phase)
  · exact ⟨fun phase => absurd (steady.symm.trans phase) (by decide),
      fun phase => absurd (steady.symm.trans phase) (by decide),
      fun phase => absurd (steady.symm.trans phase) (by decide)⟩
  · exact ⟨fun phase => absurd (ended.symm.trans phase) (by decide),
      fun phase => absurd (ended.symm.trans phase) (by decide),
      fun phase => absurd (ended.symm.trans phase) (by decide)⟩

/-- A flow whose phase begins here, with the stamp of the phase set to the clock. -/
theorem Ages.of_begins {before after : Conn} (cfg : after.eng.cfg = before.eng.cfg)
    (now : after.eng.now = before.eng.now)
    (rank : before.flow.state.phase.rank < after.flow.state.phase.rank)
    (stamped : Stamped before.eng.now after) : Ages before after := by
  refine ⟨cfg, now, rank.le, fun began _ => ?_⟩
  unfold Conn.began
  rw [if_neg fun same => absurd (same ▸ rank) (Nat.lt_irrefl _)]
  exact stamped

theorem Ages.ended {before after : Conn} (times : after.times = before.times)
    (closed : after.flow.state = .closed) : Ages before after := by
  refine Ages.of_times times ?_ (Or.inr (Or.inr (by rw [closed]; rfl)))
  rw [closed]
  cases before.flow.state <;> decide

/-- The effects of the flow itself let it age. -/
theorem Ages.apply (c : Conn) (effect : Effect) (permits : c.Permits effect)
    (own : ∀ eng, effect ≠ .elsewhere eng) : Ages c (c.apply effect) := by
  by_cases moves : effect.moves = true
  · cases effect with
    | accept =>
        have waiting : c.flow.state = .synRcvd := permits
        have accepted : (acceptFlow c).flow.state = .synAckSent := by simp [acceptFlow, waiting]
        have same : (acceptFlow c).flow.state.phase = c.flow.state.phase := by
          rw [accepted, waiting]
          rfl
        exact Ages.of_times (acceptFlow_times c) (congrArg Phase.rank same).ge (Or.inl same)
    | establish =>
        have waiting : c.flow.state = .synAckSent := permits
        have early : c.flow.state.phase.rank ≤ 1 := by
          rw [waiting]
          decide
        exact Ages.of_times rfl early (Or.inr (Or.inl rfl))
    | fin =>
        have times : (c.apply .fin).times = { c.times with closeStartedAt := c.eng.now } :=
          emitFin_times _ _
        have state : (c.apply .fin).flow.state = c.flow.state.finished := emitFin_state _ _
        have closing : c.flow.state.phase = .steady ∧
            (c.apply .fin).flow.state.phase = .closing := by
          rw [state]
          rcases permits.1 with steady | steady <;> rw [steady] <;> exact ⟨rfl, rfl⟩
        refine Ages.of_begins (congrArg Times.cfg times) (congrArg Times.now times) ?_ ?_
        · rw [closing.1, closing.2]
          decide
        · refine ⟨fun phase => ?_, fun _ => congrArg Times.closeStartedAt times, fun phase => ?_⟩
          · exact absurd (closing.2.symm.trans phase) (by decide)
          · exact absurd (closing.2.symm.trans phase) (by decide)
    | giveUp => exact Ages.ended (abortFlow_times _) (abortFlow_state _)
    | abort => exact Ages.ended (abortFlow_times c) (abortFlow_state c)
    | resetBy =>
        exact Ages.ended (closeFlow_times { c with flow.rst := true } _) (closeFlow_state _ _)
    | close err => exact Ages.ended (closeFlow_times c err) (closeFlow_state c err)
    | finAcked =>
        have waiting : c.flow.state = .finWait1 := permits.1
        have early : c.flow.state.phase.rank < 3 := by
          rw [waiting]
          decide
        unfold Conn.apply
        dsimp only
        split
        · refine Ages.of_begins rfl rfl early ?_
          exact ⟨Phase.noConfusion, Phase.noConfusion, fun _ => rfl⟩
        · have same : TcpState.finWait2.phase = c.flow.state.phase := by
            rw [waiting]
            rfl
          exact Ages.of_times rfl (congrArg Phase.rank same).ge (Or.inl same)
    | takeFin =>
        have times : (sendAck (takeFin c)).times = c.times := by
          refine (sendSegment_times _ _ _ _ _).trans ?_
          unfold takeFin
          split <;> rfl
        have state : (sendAck (takeFin c)).flow.state = c.flow.state := by
          rw [sendAck_state]
          unfold takeFin
          split <;> rfl
        have same := congrArg TcpState.phase state
        refine (Ages.of_times times (congrArg Phase.rank same).ge (Or.inl same)).trans ?_
        show Ages _ (finState (sendAck (takeFin c)))
        generalize sendAck (takeFin c) = c₁
        unfold finState
        split
        · rename_i established
          have early : c₁.flow.state.phase.rank ≤ 1 := by
            rw [established]
            decide
          exact Ages.of_times rfl early (Or.inr (Or.inl rfl))
        · rename_i waiting
          have early : c₁.flow.state.phase.rank < 3 := by
            rw [waiting]
            decide
          refine Ages.of_begins rfl rfl early ?_
          exact ⟨Phase.noConfusion, Phase.noConfusion, fun _ => rfl⟩
        · exact Ages.refl c₁
    | _ => cases moves
  · have same := congrArg TcpState.phase (apply_state c effect (by simpa using moves))
    refine Ages.of_times (apply_times c effect ?_) (congrArg Phase.rank same).ge (Or.inl same)
    cases effect with
    | fin | finAcked | takeFin => exact absurd rfl moves
    | elsewhere eng => exact absurd rfl (own eng)
    | _ => rfl

theorem Ages.path {before after : Conn} (path : Steps flowMachine Inside before after) :
    Ages before after := by
  refine path.invariant (Ages before) (Ages.refl before) fun s effect aged permits inside => ?_
  refine aged.trans (Ages.apply s effect permits fun eng same => ?_)
  subst same
  exact inside

theorem step_ages (c : Conn) (event : Event) (own : event.isElsewhere = false) :
    Ages c (step c event) := Ages.path (step_inside c event own)

end Tunio
