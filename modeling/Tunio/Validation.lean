import Tunio.Diagram
import Tunio.PeerWindow

/-!
The acknowledgement number of a segment.  `handle_ack` moves `snd_una` inside
`(snd_una, snd_nxt]` only.  The FIN of this side however counts as acknowledged by every
number from `snd_nxt` on, and a FIN that is due goes out with any acknowledgement.
-/

namespace Tunio

open Serial Machines

/-- The number lies in `(snd_una, snd_nxt]`. -/
def Unacked (flow : TcpFlow) (ack : UInt32) : Prop :=
  0 < (ack - flow.sndUna).toNat ∧ (ack - flow.sndUna).toNat ≤ (flow.sndNxt - flow.sndUna).toNat

def AnswersProbe (flow : TcpFlow) (ack : UInt32) : Prop :=
  flow.probeInFlight = true ∧ ack = flow.sndNxt + 1

instance (flow : TcpFlow) (ack : UInt32) : Decidable (Unacked flow ack) :=
  inferInstanceAs (Decidable (_ ∧ _))

instance (flow : TcpFlow) (ack : UInt32) : Decidable (AnswersProbe flow ack) :=
  inferInstanceAs (Decidable (_ ∧ _))

/-- `snd_una` does not move backwards and does not pass `snd_nxt`. -/
structure Forward (before after : TcpFlow) : Prop where
  una : seqGe after.sndUna before.sndUna = true
  nxt : seqGe after.sndNxt after.sndUna = true

/-- The states that the acknowledgement of the FIN leads to. -/
def FinConfirmed (state : TcpState) : Prop :=
  state = .finWait2 ∨ state = .timeWait ∨ state = .closed

structure Validated (c : Conn) (ack : UInt32) : Prop where
  outside : ¬Unacked c.flow ack → ¬AnswersProbe c.flow ack →
    (handleAck c ack).1.flow.sndUna = c.flow.sndUna ∧
      (handleAck c ack).1.flow.sndNxt = c.flow.sndNxt ∧
      (c.flow.state = .finWait1 ∨ c.flow.state = .lastAck →
        (handleAck c ack).1.flow.state = c.flow.state)
  confirmed : (handleAck c ack).1.flow.state ≠ c.flow.state →
    FinConfirmed (handleAck c ack).1.flow.state →
      (handleAck c ack).1.flow.sndUna = (handleAck c ack).1.flow.sndNxt

/-- A deferred FIN that nothing holds back any more. -/
def Overdue (flow : TcpFlow) : Prop :=
  (flow.state = .established ∨ flow.state = .closeWait) ∧ flow.finPending = true ∧
    flow.sndUna = flow.sndNxt ∧ ∀ op ∈ flow.activeWrite, op.offset = op.total

/-- The acknowledgement is for nothing in flight, but taken for one of the FIN, or it lets
a deferred FIN go out. -/
def Misread (flow : TcpFlow) (ack : UInt32) : Prop :=
  ¬Unacked flow ack ∧ ¬AnswersProbe flow ack ∧
    ((flow.state = .finWait1 ∨ flow.state = .lastAck) ∧ seqGe ack flow.sndNxt = true ∨
      Overdue flow)

/-! Acceptable acknowledgements. -/

theorem seqGt_toNat (a b : UInt32) :
    seqGt a b = true ↔ 0 < (a - b).toNat ∧ (a - b).toNat < 2 ^ 31 := by
  rw [seqGt, decide_eq_true_eq, toInt32_pos]

theorem seqGe_toNat (a b : UInt32) : seqGe a b = true ↔ (a - b).toNat < 2 ^ 31 := by
  have same : a = b ↔ (a - b).toNat = 0 := by
    rw [← UInt32.toNat_inj, UInt32.toNat_sub]
    have left := a.toNat_lt
    have right := b.toNat_lt
    omega
  rw [seqGe, Bool.or_eq_true, beq_iff_eq, seqGt_toNat, same]
  omega

theorem accepted_iff (una nxt ack : UInt32) (near : (nxt - una).toNat < 2 ^ 31) :
    (seqGt ack una && seqGe nxt ack) = true ↔
      0 < (ack - una).toNat ∧ (ack - una).toNat ≤ (nxt - una).toNat := by
  rw [Bool.and_eq_true, seqGt_toNat, seqGe_toNat]
  rw [UInt32.toNat_sub] at *
  rw [UInt32.toNat_sub, UInt32.toNat_sub]
  have bounds := una.toNat_lt
  have nxtBound := nxt.toNat_lt
  have ackBound := ack.toNat_lt
  omega

/-- Nothing but the last number in flight confirms everything in flight. -/
theorem Unacked.last {flow : TcpFlow} {ack : UInt32} (unacked : Unacked flow ack)
    (near : (flow.sndNxt - flow.sndUna).toNat < 2 ^ 31) (confirms : seqGe ack flow.sndNxt = true) :
    ack = flow.sndNxt := by
  obtain ⟨first, last⟩ := unacked
  rw [seqGe_toNat] at confirms
  rw [← UInt32.toNat_inj]
  rw [UInt32.toNat_sub] at *
  rw [UInt32.toNat_sub] at *
  have una := flow.sndUna.toNat_lt
  have nxt := flow.sndNxt.toNat_lt
  have bound := ack.toNat_lt
  omega

/-- What the three tests of `handle_ack` make of the numbers. -/
inductive Advance (c : Conn) (ack : UInt32) : Conn → Prop
  | inside : Unacked c.flow ack → Advance c ack { c with flow.sndUna := ack }
  | probe : ¬Unacked c.flow ack → AnswersProbe c.flow ack → Advance c ack (acceptProbe c ack)
  | ignored : ¬Unacked c.flow ack → ¬AnswersProbe c.flow ack → Advance c ack c

theorem advanceUna_advance (c : Conn) (ack : UInt32)
    (near : (c.flow.sndNxt - c.flow.sndUna).toNat < 2 ^ 31 - 1) :
    Advance c ack (advanceUna c ack) := by
  have accepted := accepted_iff c.flow.sndUna c.flow.sndNxt ack (by omega)
  unfold advanceUna
  split
  · rename_i inside
    exact .inside (accepted.mp inside)
  · rename_i outside
    rw [accepted] at outside
    split
    · rename_i probed
      simp only [Bool.and_eq_true, beq_iff_eq] at probed
      exact .probe outside probed.1
    · rename_i refused
      refine .ignored outside fun ⟨probing, next⟩ => refused ?_
      simp only [Bool.and_eq_true, beq_iff_eq, seqGt_toNat]
      refine ⟨⟨probing, next⟩, ?_⟩
      subst next
      have one : (1 : UInt32).toNat = 1 := rfl
      have una := c.flow.sndUna.toNat_lt
      have nxt := c.flow.sndNxt.toNat_lt
      rw [UInt32.toNat_sub] at near
      rw [UInt32.toNat_sub, UInt32.toNat_add, one]
      omega

/-! The FIN that was deferred. -/

/-- What `send_deferred_fin` makes of the numbers and the state. -/
inductive Deferral (c : Conn) : Conn → Prop
  | kept (after : Conn) : ¬(Overdue c.flow ∧ c.flow.finSent = false) →
      after.flow.sndUna = c.flow.sndUna → after.flow.sndNxt = c.flow.sndNxt →
      after.flow.state = c.flow.state →
      (c.flow.finSent = true → after.flow.finSent = true) → Deferral c after
  | sent (after : Conn) : Overdue c.flow → after.flow.sndUna = c.flow.sndUna →
      after.flow.sndNxt = c.flow.sndNxt + 1 → after.flow.state = c.flow.state.finished →
      Deferral c after
  | reset (after : Conn) : c.flow.sndUna = c.flow.sndNxt → after.flow.sndUna = c.flow.sndUna →
      after.flow.sndNxt = c.flow.sndNxt →
      (c.flow.state = .synRcvd ∨ c.flow.state = .synAckSent) → after.flow.state = .closed →
      Deferral c after

theorem closeFlow_send (c : Conn) (err : ErrorCode) :
    (closeFlow c err).flow.sndUna = c.flow.sndUna ∧
      (closeFlow c err).flow.sndNxt = c.flow.sndNxt := by
  by_cases closed : c.flow.state = .closed
  · simp [closeFlow, closed]
  · have send := (closeFlow_effect c err closed).1
    exact ⟨congrArg SendView.sndUna send, congrArg SendView.sndNxt send⟩

theorem abortFlow_send (c : Conn) :
    (abortFlow c).flow.sndUna = c.flow.sndUna ∧ (abortFlow c).flow.sndNxt = c.flow.sndNxt := by
  unfold abortFlow
  split
  · exact ⟨rfl, rfl⟩
  · have reset := sendSegment_send c c.flow.sndNxt (tcpRst ||| tcpAck) [] false
    have closed := closeFlow_send
      { sendSegment c c.flow.sndNxt (tcpRst ||| tcpAck) [] false with flow.rst := true }
      .connectionReset
    exact ⟨closed.1.trans (congrArg SendView.sndUna reset),
      closed.2.trans (congrArg SendView.sndNxt reset)⟩

theorem emitFin_send (c : Conn) (state : TcpState) :
    (emitFin c state).flow.sndUna = c.flow.sndUna ∧
      (emitFin c state).flow.sndNxt = c.flow.sndNxt + 1 := by
  have sent := sendSegment_send
    { c with flow.state := state, flow.closeStartedAt := c.eng.now } c.flow.sndNxt
    (tcpAck ||| tcpFin) [] false
  unfold emitFin
  exact ⟨congrArg SendView.sndUna sent, congrArg (fun view => view.sndNxt + 1) sent⟩

theorem sendDeferredFin_deferral (c : Conn) : Deferral c (sendDeferredFin c) := by
  unfold sendDeferredFin
  split
  · rename_i due
    obtain ⟨pending, acked, emitted⟩ := due
    rcases sendFin_cases { c with flow.finPending := false } with
      ⟨stopped, same⟩ | ⟨_, _, ⟨waits, _⟩ | ⟨_, ⟨sends, same⟩ | ⟨early, same⟩ | ⟨late, same⟩⟩⟩
    · rw [same]
      refine .kept _ (fun unsent => ?_) rfl rfl rfl (fun sent => ?_)
      · rcases stopped with sent | closed
        · exact absurd (unsent.2.symm.trans sent) (by simp)
        · have here := unsent.1.1
          rw [show c.flow.state = .closed from closed] at here
          simp at here
      · exact sent
    · exfalso
      rcases waits with unsent | unacked
      · refine absurd (unsentWrite_false.mpr ?_) (by rw [unsent]; simp)
        exact fun op active => (emitted op active).ge
      · exact unacked acked
    · rw [same]
      have numbers := emitFin_send { c with flow.finPending := false, flow.finSent := true }
        c.flow.state.finished
      exact .sent _ ⟨sends, pending, acked, emitted⟩ numbers.1 numbers.2 (emitFin_state _ _)
    · rw [same]
      have numbers := abortFlow_send { c with flow.finPending := false, flow.finSent := true }
      exact .reset _ acked numbers.1 numbers.2 early (abortFlow_state _)
    · rw [same]
      refine .kept _ (fun unsent => ?_) rfl rfl rfl (fun sent => ?_)
      · have here := unsent.1.1
        rcases late with state | state | state | state <;>
          simp [show c.flow.state = _ from state] at here
      · rfl
  · rename_i notDue
    exact .kept _ (fun unsent => notDue unsent.1.2) rfl rfl rfl id

/-! The end of `handle_ack`. -/

theorem confirmFin_numbers (c : Conn) (ack : UInt32) :
    (confirmFin c ack).1.flow.sndUna = c.flow.sndUna ∧
      (confirmFin c ack).1.flow.sndNxt = c.flow.sndNxt := by
  unfold confirmFin
  split
  · split <;> exact ⟨rfl, rfl⟩
  · split
    · exact closeFlow_send c _
    · exact ⟨rfl, rfl⟩

/-- The state changes exactly if the FIN has been sent and the number is taken for its
acknowledgement. -/
theorem confirmFin_state (c : Conn) (ack : UInt32) :
    (confirmFin c ack).1.flow.state ≠ c.flow.state ↔
      (c.flow.state = .finWait1 ∨ c.flow.state = .lastAck) ∧ c.flow.finSent = true ∧
        seqGe ack c.flow.sndNxt = true := by
  unfold confirmFin
  split
  · rename_i first
    split <;> simp [first]
  · rename_i notFirst
    split
    · rename_i last
      simp [last]
    · rename_i notLast
      simp only [ne_eq, not_true_eq_false, false_iff]
      rintro ⟨first | last, rest⟩
      · exact notFirst ⟨first, rest⟩
      · exact notLast ⟨last, rest⟩

/-! The whole of `handle_ack`. -/

/-- What an acknowledgement meets behind the first two tests of `handle_ack`. -/
structure Advanced (before after : Conn) : Prop where
  state : after.flow.state = before.flow.state
  finSent : after.flow.finSent = before.flow.finSent

theorem acceptProbe_advanced (c : Conn) (ack : UInt32) : Advanced c (acceptProbe c ack) := by
  unfold acceptProbe
  dsimp only
  split
  · split <;> exact ⟨rfl, rfl⟩
  · exact ⟨rfl, rfl⟩

theorem acceptProbe_settles (c : Conn) (ack : UInt32) :
    (acceptProbe c ack).flow.sndUna = ack ∧ (acceptProbe c ack).flow.sndNxt = ack := by
  unfold acceptProbe
  dsimp only
  split
  · split <;> exact ⟨rfl, rfl⟩
  · exact ⟨rfl, rfl⟩

theorem Advance.advanced {c after : Conn} {ack : UInt32} (advance : Advance c ack after) :
    Advanced c after := by
  cases advance with
  | inside => exact ⟨rfl, rfl⟩
  | probe => exact acceptProbe_advanced c ack
  | ignored => exact ⟨rfl, rfl⟩

/-- The FIN flag goes with the state. -/
structure FinAgrees (flow : TcpFlow) : Prop where
  sent : flow.state = .finWait1 ∨ flow.state = .lastAck → flow.finSent = true
  unsent : flow.state = .established ∨ flow.state = .closeWait → flow.finSent = false

theorem finished_unconfirmed {state : TcpState}
    (sends : state = .established ∨ state = .closeWait) : ¬FinConfirmed state.finished := by
  rcases sends with rfl | rfl <;> simp [FinConfirmed, TcpState.finished]

/-- A number outside the flight moves nothing, unless it is misread. -/
theorem handleAck_outside (c : Conn) (ack : UInt32) (notDue : ¬Overdue c.flow)
    (ignored : clearProbe (advanceUna c ack) = clearProbe c) :
    (handleAck c ack).1.flow.sndUna = c.flow.sndUna ∧
      (handleAck c ack).1.flow.sndNxt = c.flow.sndNxt := by
  have numbers := confirmFin_numbers (sendDeferredFin (clearProbe (advanceUna c ack))) ack
  have deferral := sendDeferredFin_deferral (clearProbe (advanceUna c ack))
  unfold handleAck
  rw [ignored] at *
  generalize sendDeferredFin (clearProbe c) = after at numbers deferral ⊢
  rw [numbers.1, numbers.2]
  cases deferral with
  | kept _ una nxt => exact ⟨una, nxt⟩
  | sent due => exact absurd due notDue
  | reset _ una nxt => exact ⟨una, nxt⟩

/-- A state that `confirm_fin` enters belongs to an acknowledgement of everything. -/
theorem confirmFin_confirmed {c : Conn} {ack : UInt32}
    (last : c.flow.finSent = true → seqGe ack c.flow.sndNxt = true → c.flow.sndUna = c.flow.sndNxt)
    (changes : (confirmFin c ack).1.flow.state ≠ c.flow.state) :
    (confirmFin c ack).1.flow.sndUna = (confirmFin c ack).1.flow.sndNxt := by
  have numbers := confirmFin_numbers c ack
  obtain ⟨_, sent, confirms⟩ := (confirmFin_state c ack).mp changes
  rw [numbers.1, numbers.2]
  exact last sent confirms

theorem handleAck_confirmed (c : Conn) (ack : UInt32)
    (near : (c.flow.sndNxt - c.flow.sndUna).toNat < 2 ^ 31 - 1) (read : ¬Misread c.flow ack)
    (changes : (handleAck c ack).1.flow.state ≠ c.flow.state)
    (confirmed : FinConfirmed (handleAck c ack).1.flow.state) :
    (handleAck c ack).1.flow.sndUna = (handleAck c ack).1.flow.sndNxt := by
  have advance := advanceUna_advance c ack near
  have deferral := sendDeferredFin_deferral (clearProbe (advanceUna c ack))
  unfold handleAck at changes confirmed ⊢
  generalize advanceUna c ack = c₁ at advance deferral changes confirmed ⊢
  have advanced := advance.advanced
  generalize sendDeferredFin (clearProbe c₁) = c₂ at deferral changes confirmed ⊢
  have numbers := confirmFin_numbers c₂ ack
  by_cases same : (confirmFin c₂ ack).1.flow.state = c₂.flow.state
  · cases deferral with
    | kept _ _ _ state =>
        exact absurd (same.trans (state.trans advanced.state)) changes
    | sent due _ _ state =>
        rw [same, state] at confirmed
        exact absurd confirmed (finished_unconfirmed due.1)
    | reset acked una nxt =>
        rw [numbers.1, numbers.2, una, nxt]
        exact acked
  · refine confirmFin_confirmed (fun _ confirms => ?_) same
    obtain ⟨waiting, _, _⟩ := (confirmFin_state c₂ ack).mp same
    cases deferral with
    | kept _ una nxt state =>
        change c₂.flow.sndUna = c₁.flow.sndUna at una
        change c₂.flow.sndNxt = c₁.flow.sndNxt at nxt
        change c₂.flow.state = c₁.flow.state at state
        rw [nxt] at confirms
        rw [una, nxt]
        rw [state] at waiting
        cases advance with
        | inside unacked => exact unacked.last (by omega) confirms
        | probe =>
            have settled := acceptProbe_settles c ack
            exact settled.1.trans settled.2.symm
        | ignored outside unasked =>
            exact absurd ⟨outside, unasked, Or.inl ⟨waiting, confirms⟩⟩ read
    | sent due una nxt _ =>
        exfalso
        change c₂.flow.sndNxt = c₁.flow.sndNxt + 1 at nxt
        have settled : c₁.flow.sndUna = c₁.flow.sndNxt := due.2.2.1
        rw [nxt] at confirms
        have number : ack = c₁.flow.sndNxt := by
          cases advance with
          | inside => exact settled
          | probe => exact (acceptProbe_settles c ack).2.symm
          | ignored outside unasked => exact absurd ⟨outside, unasked, Or.inr due⟩ read
        rw [number, seqGe_succ] at confirms
        cases confirms
    | reset _ _ _ _ closed =>
        rw [closed] at waiting
        simp at waiting

theorem validated_iff (c : Conn) (ack : UInt32) (agrees : FinAgrees c.flow)
    (near : (c.flow.sndNxt - c.flow.sndUna).toNat < 2 ^ 31 - 1) :
    Validated c ack ↔ ¬Misread c.flow ack := by
  have advance := advanceUna_advance c ack near
  constructor
  · rintro validated ⟨outside, unasked, misread⟩
    obtain ⟨una, nxt, stays⟩ := validated.outside outside unasked
    have deferral := sendDeferredFin_deferral (clearProbe (advanceUna c ack))
    unfold handleAck at una nxt stays
    generalize advanceUna c ack = c₁ at advance deferral una nxt stays
    cases advance with
    | inside unacked => exact outside unacked
    | probe _ asked => exact unasked asked
    | ignored =>
        generalize sendDeferredFin (clearProbe c) = c₂ at deferral una nxt stays
        have numbers := confirmFin_numbers c₂ ack
        rcases misread with ⟨waiting, confirms⟩ | due
        · have notDue : ¬Overdue c.flow := by
            rintro ⟨sends, _⟩
            rcases sends with state | state <;> rw [state] at waiting <;> simp at waiting
          cases deferral with
          | kept _ _ next state finSent =>
              change c₂.flow.sndNxt = c.flow.sndNxt at next
              change c₂.flow.state = c.flow.state at state
              refine absurd ((stays waiting).trans state.symm) ((confirmFin_state c₂ ack).mpr ?_)
              rw [state, next]
              exact ⟨waiting, finSent (agrees.sent waiting), confirms⟩
          | sent due => exact notDue due
          | reset _ _ _ early =>
              rcases early with state | state <;>
                rw [show c.flow.state = _ from state] at waiting <;> simp at waiting
        · cases deferral with
          | kept idle => exact idle ⟨due, agrees.unsent due.1⟩
          | sent _ _ next =>
              rw [numbers.2, next] at nxt
              have word : c.flow.sndNxt + 1 = c.flow.sndNxt := nxt
              simp at word
          | reset _ _ _ early =>
              have sends := due.1
              rcases early with state | state <;>
                rw [show c.flow.state = _ from state] at sends <;> simp at sends
  · intro read
    refine ⟨fun outside unasked => ?_, handleAck_confirmed c ack near read⟩
    have notDue : ¬Overdue c.flow := fun due => read ⟨outside, unasked, Or.inr due⟩
    have ignored : clearProbe (advanceUna c ack) = clearProbe c := by
      generalize advanceUna c ack = c₁ at advance
      cases advance with
      | inside unacked => exact absurd unacked outside
      | probe _ asked => exact absurd asked unasked
      | ignored => rfl
    obtain ⟨una, nxt⟩ := handleAck_outside c ack notDue ignored
    refine ⟨una, nxt, fun waiting => ?_⟩
    have deferral := sendDeferredFin_deferral (clearProbe c)
    unfold handleAck
    rw [ignored]
    generalize sendDeferredFin (clearProbe c) = c₂ at deferral ⊢
    cases deferral with
    | kept _ _ next state =>
        change c₂.flow.sndNxt = c.flow.sndNxt at next
        change c₂.flow.state = c.flow.state at state
        rw [← state]
        by_contra changes
        obtain ⟨_, _, confirms⟩ := (confirmFin_state c₂ ack).mp changes
        rw [next] at confirms
        exact read ⟨outside, unasked, Or.inl ⟨waiting, confirms⟩⟩
    | sent due => exact absurd due notDue
    | reset _ _ _ early =>
        rcases early with state | state <;>
          rw [show c.flow.state = _ from state] at waiting <;> simp at waiting

/-! Runs. -/

theorem Mirrors.finAgrees {iss : UInt32} {c : Conn} {s : Sender} (mirrors : Mirrors iss c s) :
    FinAgrees c.flow := by
  have phases := mirrors.good.phases
  rw [← mirrors.sim.state, ← mirrors.sim.finSent] at phases
  refine ⟨fun waiting => ?_, fun sends => ?_⟩
  · by_contra unsent
    have early := phases.unfinished (by simpa using unsent)
    rcases waiting with state | state <;> simp [state] at early
  · by_contra sent
    have late := phases.finished (by simpa using sent)
    rcases sends with state | state <;> simp [state] at late

theorem seqGe_of_le (iss : UInt32) {low high : Nat} (order : low ≤ high)
    (near : high < low + 2 ^ 31) : seqGe (num iss high) (num iss low) = true := by
  rw [seqGe_num iss high low (by omega) near]
  simpa using order

/-- An event moves `snd_una` forward, at most to where the acknowledgement of a probe ends. -/
theorem Mirrors.una_moves {iss : UInt32} {c : Conn} {s last : Sender} {event : Event}
    (mirrors : Mirrors iss c s) (path : Steps senderMachine (Because c s event) s last) :
    s.una ≤ last.una ∧ last.una ≤ s.nxt + 1 := by
  have earlier := mirrors.good.positions.order
  cases other : event.isSegment with
  | false =>
      have same := (Windowed.path mirrors other path).una
      omega
  | true =>
      cases event with
      | segment th data =>
          rcases (Answered.path mirrors path).una with same | ⟨_, above, inside | ⟨next, _⟩⟩ <;> omega
      | _ => cases other

theorem Mirrors.forward {iss : UInt32} {c : Conn} {s : Sender} (mirrors : Mirrors iss c s)
    (event : Event) : Forward c.flow (step c event).flow := by
  obtain ⟨last, path, there⟩ := step_leads mirrors event
  have order := there.good.positions.order
  have flight := there.good.positions.flight
  have within := mirrors.good.positions.flight
  obtain ⟨ahead, near⟩ := mirrors.una_moves path
  refine ⟨?_, ?_⟩
  · rw [there.sim.una, mirrors.sim.una]
    exact seqGe_of_le iss ahead (by omega)
  · rw [there.sim.nxt, there.sim.una]
    exact seqGe_of_le iss order (by omega)

theorem run_mirrors (eng : TcpEngine) (id : FlowId) (key : FiveTuple) (th : TcpHeader)
    (payload data : List UInt8) (iss : UInt32) (events : List Event) :
    ∃ s, Mirrors iss (run (openFlow eng id key th payload data iss) events) s := by
  induction events using List.reverseRecOn with
  | nil => exact ⟨_, openFlow_mirrors eng id key th payload data iss⟩
  | append_singleton before event ih =>
      obtain ⟨s, mirrors⟩ := ih
      obtain ⟨last, _, there⟩ := step_leads mirrors event
      rw [run_append]
      exact ⟨last, there⟩

/-- Along every run `snd_una` moves forward and stays at or below `snd_nxt`; an
acknowledgement is validated exactly if it is not misread. -/
theorem run_validated (eng : TcpEngine) (id : FlowId) (key : FiveTuple) (th : TcpHeader)
    (payload data : List UInt8) (iss : UInt32) (events : List Event) :
    (∀ event, Forward (run (openFlow eng id key th payload data iss) events).flow
      (step (run (openFlow eng id key th payload data iss) events) event).flow) ∧
    ∀ ack, Validated (run (openFlow eng id key th payload data iss) events) ack ↔
      ¬Misread (run (openFlow eng id key th payload data iss) events).flow ack := by
  obtain ⟨s, mirrors⟩ := run_mirrors eng id key th payload data iss events
  refine ⟨mirrors.forward, fun ack => validated_iff _ ack (Mirrors.finAgrees mirrors) ?_⟩
  rw [mirrors.inFlight]
  have flight := mirrors.good.positions.flight
  omega

/-- The FIN is sent and not acknowledged; the peer sends a number that was never sent. -/
theorem eagerAck_misread :
    let c := run (opened {} 1000) [.accept, .segment (peerSegment 8 1001 tcpAck 1000) [],
      .shutdownSend]
    c.flow.state = .finWait1 ∧ ¬Unacked c.flow 5000 ∧ ¬AnswersProbe c.flow 5000 ∧
      (handleAck c 5000).1.flow.state = .finWait2 ∧
      (handleAck c 5000).1.flow.sndUna ≠ (handleAck c 5000).1.flow.sndNxt ∧
      ¬Validated c 5000 := by
  refine ⟨by decide, by decide, by decide, by decide, by decide, fun validated => ?_⟩
  have stays := (validated.outside (by decide) (by decide)).2.2 (by decide)
  revert stays
  decide

end Tunio
