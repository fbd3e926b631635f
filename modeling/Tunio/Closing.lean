import Tunio.Emission
import Tunio.Reclaim
import Tunio.Validation

/-!
What `close` does to a flow behind the handshake.  It looks at `snd_una` and `snd_nxt`
only, and the FIN has a number between them like a byte of data.
-/

namespace Tunio

/-- A FIN with this number has been submitted. -/
def FinAt (c : Conn) (seq : UInt32) : Prop :=
  ∃ segment ∈ c.out, hasFlag segment.flags tcpFin = true ∧ segment.seq = seq

/-- A number between `snd_una` and `snd_nxt` that is not that of a FIN. -/
def DataInFlight (c : Conn) : Prop :=
  ∃ seq : UInt32, seq - c.flow.sndUna < c.flow.sndNxt - c.flow.sndUna ∧ ¬FinAt c seq

/-- What an open flow has submitted fits its FIN flag. -/
structure Concluded (c : Conn) : Prop where
  without : c.flow.finSent = false → ∀ segment ∈ c.out, hasFlag segment.flags tcpFin = false
  submitted : c.flow.finSent = true → ∃ seq, FinAt c seq
  spent : c.flow.finSent = true → unsentWrite c.flow = false
  last : c.flow.finSent = true → c.flow.sndUna = c.flow.sndNxt ∨
    (c.flow.sndNxt = c.flow.sndUna + 1 ∧ FinAt c c.flow.sndUna)

theorem FinAt.grows {makes : Segment → Prop} {before after : Conn} (grows : Grows makes before after)
    {seq : UInt32} (fin : FinAt before seq) : FinAt after seq := by
  obtain ⟨added, out, _⟩ := grows
  obtain ⟨segment, member, flag⟩ := fin
  exact ⟨segment, out ▸ List.mem_append_left added member, flag⟩

/-- Only the effect that sends the FIN makes a segment with the FIN flag. -/
theorem apply_finless {c : Conn} (effect : Effect) (permits : c.Permits effect)
    (other : effect ≠ .fin) :
    Grows (fun segment => hasFlag segment.flags tcpFin = false) c (c.apply effect) := by
  obtain ⟨added, out, made⟩ := apply_grows c effect
  refine ⟨added, out, fun segment member => ?_⟩
  have kind := made segment member
  have clear {flags : UInt8} (same : segment.flags = flags) (clear : hasFlag flags tcpFin = false) :
      hasFlag segment.flags tcpFin = false := by rw [same, clear]
  cases effect with
  | fin => exact absurd rfl other
  | submit seq flags payload withMss =>
      rcases permits with ⟨rfl | rfl, _⟩ | ⟨rfl, _⟩ <;> exact clear kind.2.1 (by decide)
  | next inFlight => exact clear kind (by decide)
  | _ => exact clear kind.1 (by decide)

/-- The effects that do not touch what the sending half has left to do. -/
theorem Concluded.still {before after : Conn} (concluded : Concluded before)
    (finSent : after.flow.finSent = before.flow.finSent)
    (sndNxt : after.flow.sndNxt = before.flow.sndNxt)
    (sndUna : after.flow.sndUna = before.flow.sndUna)
    (spent : unsentWrite before.flow = false → unsentWrite after.flow = false)
    (grows : Grows (fun segment => hasFlag segment.flags tcpFin = false) before after) :
    Concluded after := by
  refine ⟨fun unsent segment member => ?_, fun sent => ?_, fun sent => ?_, fun sent => ?_⟩
  · obtain ⟨added, out, made⟩ := grows
    rw [out] at member
    rcases List.mem_append.mp member with old | new
    · exact concluded.without (finSent.symm.trans unsent) segment old
    · exact made segment new
  · obtain ⟨seq, fin⟩ := concluded.submitted (finSent.symm.trans sent)
    exact ⟨seq, fin.grows grows⟩
  · exact spent (concluded.spent (finSent.symm.trans sent))
  · rw [sndNxt, sndUna]
    exact (concluded.last (finSent.symm.trans sent)).imp_right fun ⟨next, fin⟩ =>
      ⟨next, fin.grows grows⟩

/-- Before the FIN is sent only the segments matter. -/
theorem Concluded.unsent {before after : Conn} (concluded : Concluded before)
    (same : after.flow.finSent = before.flow.finSent) (unsent : before.flow.finSent ≠ true)
    (grows : Grows (fun segment => hasFlag segment.flags tcpFin = false) before after) :
    Concluded after := by
  have still : after.flow.finSent ≠ true := fun sent => unsent (same.symm.trans sent)
  refine ⟨fun _ segment member => ?_, fun sent => absurd sent still, fun sent => absurd sent still,
    fun sent => absurd sent still⟩
  obtain ⟨added, out, made⟩ := grows
  rw [out] at member
  rcases List.mem_append.mp member with old | new
  · exact concluded.without (Bool.not_eq_true _ ▸ unsent) segment old
  · exact made segment new

/-- A write that is emitted completely makes no further segment. -/
theorem buildNextSegment_spent (c : Conn) (op : WriteOp) (inFlight : UInt32)
    (spent : op.total ≤ op.offset) :
    (buildNextSegment c op inFlight).1 = { c with flow.activeWrite := some (normalize op) } := by
  have nothing : (normalize op).total - (normalize op).offset = 0 := Nat.sub_eq_zero_of_le spent
  unfold buildNextSegment
  dsimp only
  split
  · rfl
  · rw [nothing, Nat.zero_min, Nat.zero_min, if_pos rfl]

/-- An acceptable ACK confirms all that is in flight when that is one number. -/
theorem accepted_last {una nxt ack : UInt32} (last : una = nxt ∨ nxt = una + 1)
    (after : seqGt ack una = true) (within : seqGe nxt ack = true) : ack = nxt := by
  have flight : (nxt - una).toNat ≤ 1 := by
    rcases last with rfl | rfl
    · simp
    · rw [UInt32.add_comm, UInt32.add_sub_cancel]
      decide
  have accepted := (accepted_iff una nxt ack (by omega)).mp (by rw [after, within]; rfl)
  have same : (ack - una).toNat = (nxt - una).toNat := by omega
  have equal : ack - una = nxt - una := UInt32.toNat_inj.mp same
  rw [← UInt32.sub_add_cancel ack una, equal, UInt32.sub_add_cancel]

/-- The FIN takes the number `snd_nxt`. -/
theorem emitFin_out (c : Conn) (state : TcpState) (left : state ≠ .closed) :
    ∃ segment : Segment, (emitFin c state).out = c.out ++ [segment] ∧
      segment.seq = c.flow.sndNxt ∧ segment.flags = tcpAck ||| tcpFin := by
  unfold emitFin sendSegment
  dsimp only
  rw [if_neg left]
  exact ⟨_, rfl, rfl, rfl⟩

theorem emitFin_view (c : Conn) (state : TcpState) :
    (emitFin c state).flow.send = { c.flow.send with sndNxt := c.flow.sndNxt + 1 } := by
  have sent := sendSegment_send { c with flow.state := state, flow.closeStartedAt := c.eng.now }
    c.flow.sndNxt (tcpAck ||| tcpFin) [] false
  have next := (emitFin_flow c state).2
  unfold emitFin at next ⊢
  dsimp only at next ⊢
  rw [TcpFlow.send, next]
  have fields := sent
  simp only [TcpFlow.send, SendView.mk.injEq] at fields ⊢
  exact ⟨fields.1, trivial, fields.2.2⟩

theorem Concluded.fin {c : Conn} (permits : c.Permits .fin) : Concluded (c.apply .fin) := by
  obtain ⟨sends, _, spent, settled⟩ := permits
  have left : c.flow.state.finished ≠ .closed := by
    rcases sends with state | state <;> rw [state] <;> decide
  obtain ⟨segment, out, seq, flags⟩ :=
    emitFin_out { c with flow.finSent := true } c.flow.state.finished left
  have send : (c.apply .fin).flow.send = _ :=
    emitFin_view { c with flow.finSent := true } c.flow.state.finished
  have finSent : (c.apply .fin).flow.finSent = true := congrArg SendView.finSent send
  have sndUna : (c.apply .fin).flow.sndUna = c.flow.sndUna := congrArg SendView.sndUna send
  have sndNxt : (c.apply .fin).flow.sndNxt = c.flow.sndNxt + 1 := congrArg SendView.sndNxt send
  have write : (c.apply .fin).flow.activeWrite = c.flow.activeWrite :=
    congrArg SendView.activeWrite send
  have here : FinAt (c.apply .fin) c.flow.sndUna := by
    refine ⟨segment, ?_, by rw [flags]; decide, seq.trans settled.symm⟩
    show segment ∈ (emitFin _ _).out
    rw [out]
    exact List.mem_append_right _ (List.mem_singleton_self segment)
  refine ⟨fun unsent => ?_, fun _ => ⟨_, here⟩, fun _ => ?_, fun _ => Or.inr ⟨?_, ?_⟩⟩
  · rw [finSent] at unsent
    cases unsent
  · unfold unsentWrite at spent ⊢
    rwa [write]
  · rw [sndNxt, sndUna, settled]
  · rwa [sndUna]

theorem acceptProbe_spent {c : Conn} (ack : UInt32) (spent : unsentWrite c.flow = false) :
    unsentWrite (acceptProbe c ack).flow = false := by
  rw [unsentWrite_false] at spent ⊢
  intro op here
  unfold acceptProbe at here
  dsimp only at here
  cases active : c.flow.activeWrite with
  | none => simp [active] at here
  | some old =>
      have whole := spent old active
      simp only [active, if_neg (Nat.not_lt.mpr whole)] at here
      exact spent op (active ▸ here)

/-- Behind the handshake every state but two stands for a FIN that was sent. -/
theorem Agrees.late {flow : TcpFlow} (agrees : Agrees flow) (past : Past flow.state)
    (opened : flow.state ≠ .established) (answered : flow.state ≠ .closeWait) :
    flow.finSent = true := by
  obtain ⟨isOpen, left, accepted⟩ := past
  unfold Agrees at agrees
  generalize flow.state = state at agrees isOpen left accepted opened answered
  cases state with
  | finWait1 => exact agrees
  | finWait2 | lastAck | timeWait => exact agrees.1
  | _ => simp at isOpen left accepted opened answered

theorem Concluded.apply {c : Conn} (concluded : Concluded c) (agrees : Agrees c.flow)
    (effect : Effect) (permits : c.Permits effect) (isOpen : (c.apply effect).flow.state ≠ .closed) :
    Concluded (c.apply effect) := by
  have before : c.flow.state ≠ .closed := fun closed => isOpen (apply_closed permits closed)
  by_cases other : effect = .fin
  · subst other
    exact Concluded.fin permits
  have grows := apply_finless effect permits other
  cases sends : effect.sends with
  | false =>
      have send := apply_send c effect sends
      refine concluded.still (congrArg SendView.finSent send) (congrArg SendView.sndNxt send)
        (congrArg SendView.sndUna send) (fun spent => ?_) grows
      have write : (c.apply effect).flow.activeWrite = c.flow.activeWrite :=
        congrArg SendView.activeWrite send
      unfold unsentWrite at spent ⊢
      rwa [write]
  | true =>
      cases effect with
      | fin => exact absurd rfl other
      | next inFlight =>
          by_cases sent : c.flow.finSent = true
          · -- nothing is left to emit after the FIN
            obtain ⟨op, active⟩ := Option.isSome_iff_exists.mp permits.2
            have spent := unsentWrite_false.mp (concluded.spent sent) op active
            have same : c.apply (.next inFlight) =
                { c with flow.activeWrite := some (normalize op) } := by
              simp only [Conn.apply, active]
              exact buildNextSegment_spent c op inFlight spent
            rw [same] at grows ⊢
            refine concluded.still rfl rfl rfl (fun _ => unsentWrite_false.mpr ?_) grows
            intro other here
            obtain rfl := Option.mem_some.mp here
            exact spent
          · exact concluded.unsent (congrArg Numbers.finSent (next_numbers c inFlight)) sent grows
      | accept =>
          have waiting : c.flow.state = .synRcvd := permits
          have unsent : c.flow.finSent ≠ true := by
            unfold Agrees at agrees
            rw [waiting] at agrees
            exact ne_true_of_eq_false agrees.1
          refine concluded.unsent ?_ unsent grows
          exact congrArg Numbers.finSent (acceptFlow_numbers c waiting)
      | sealed =>
          have late := agrees.late permits.1 permits.2.1 permits.2.2.1
          exact absurd permits.2.2.2 (ne_false_of_eq_true late)
      | giveUp => exact absurd (abortFlow_state _) isOpen
      | abort => exact absurd (abortFlow_state _) isOpen
      | resetBy => exact absurd (closeFlow_state _ _) isOpen
      | close err => exact absurd (closeFlow_state _ _) isOpen
      | una ack =>
          refine ⟨concluded.without, concluded.submitted, concluded.spent, fun sent => Or.inl ?_⟩
          exact accepted_last ((concluded.last sent).imp_right And.left) permits.1 permits.2
      | probeAck ack =>
          have settled := acceptProbe_settles c ack
          have finSent : (c.apply (.probeAck ack)).flow.finSent = c.flow.finSent :=
            congrArg Numbers.finSent (acceptProbe_numbers c ack)
          by_cases sent : c.flow.finSent = true
          · have spent := acceptProbe_spent ack (concluded.spent sent)
            obtain ⟨seq, fin⟩ := concluded.submitted sent
            exact ⟨fun unsent => absurd (finSent.symm.trans unsent) (by simp [sent]),
              fun _ => ⟨seq, fin.grows grows⟩, fun _ => spent,
              fun _ => Or.inl (settled.1.trans settled.2.symm)⟩
          · exact concluded.unsent finSent sent grows
      | probing | pend | window | appClose => exact concluded.still rfl rfl rfl id grows
      | startWrite op =>
          exact concluded.unsent rfl (ne_true_of_eq_false permits.2.2.2.1) grows
      | endWrite op ec n => exact concluded.still rfl rfl rfl (fun _ => rfl) grows
      | cancelWrite op => exact concluded.still rfl rfl rfl (fun _ => rfl) grows
      | locate =>
          refine concluded.still rfl rfl rfl (fun spent => ?_) grows
          unfold unsentWrite at spent ⊢
          cases active : c.flow.activeWrite <;> simp_all [Conn.apply, normalize]
      | begin_ =>
          refine concluded.still rfl rfl rfl (fun spent => ?_) grows
          unfold unsentWrite at spent ⊢
          cases active : c.flow.activeWrite <;> simp_all [Conn.apply, Conn.beginWrite]
      | _ => cases sends

theorem run_concluded (eng : TcpEngine) (id : FlowId) (key : FiveTuple) (th : TcpHeader)
    (payload data : List UInt8) (iss : UInt32) (events : List Event)
    (isOpen : (run (openFlow eng id key th payload data iss) events).flow.state ≠ .closed) :
    Concluded (run (openFlow eng id key th payload data iss) events) := by
  have coordinated := openFlow_coordinated eng id key th payload data iss
  refine (run_keeps (fun c => Agrees c.flow ∧ (c.flow.state ≠ .closed → Concluded c)) ?_ _ events
    ⟨coordinated.2.agrees, fun _ => ?_⟩).2 isOpen
  · intro c effect holds permits
    refine ⟨holds.1.apply effect permits, fun isOpen => ?_⟩
    exact (holds.2 fun closed => isOpen (apply_closed permits closed)).apply holds.1 effect permits isOpen
  · have nothing : (openFlow eng id key th payload data iss).out = [] := by
      unfold openFlow notifyAccept takeSynData
      dsimp only
      repeat' split
      all_goals rfl
    have agrees := coordinated.2.agrees
    unfold Agrees at agrees
    rw [coordinated.1] at agrees
    refine ⟨fun _ segment member => ?_, fun sent => ?_, fun sent => ?_, fun sent => ?_⟩
    · rw [nothing] at member
      cases member
    · exact absurd agrees.1 (ne_false_of_eq_true sent)
    · exact absurd agrees.1 (ne_false_of_eq_true sent)
    · exact absurd agrees.1 (ne_false_of_eq_true sent)

/-! `close`. -/

/-- What `close` does is announced by what is in flight. -/
structure ClosesGently (c : Conn) : Prop where
  resets : (∃ segment ∈ (tcpFlowClose c).out.drop c.out.length,
    hasFlag segment.flags tcpRst = true) ↔ DataInFlight c
  finishes : ¬DataInFlight c → (∀ seq, ¬FinAt c seq) →
    (tcpFlowClose c).flow.state = c.flow.state.finished ∧
      ∃ segment : Segment, (tcpFlowClose c).out = c.out ++ [segment] ∧
        segment.flags = tcpAck ||| tcpFin ∧ segment.seq = c.flow.sndNxt
  continues : ¬DataInFlight c → (∃ seq, FinAt c seq) →
    (tcpFlowClose c).out = c.out ∧ (tcpFlowClose c).flow.state = c.flow.state ∧
      (tcpFlowClose c).flow.numbers = c.flow.numbers ∧
      (tcpFlowClose c).flow.sndUna = c.flow.sndUna

/-- Everything `close` can do to a flow behind the handshake. -/
inductive Closes (c after : Conn) : Prop
  | ignored : c.flow.appClosed = true → after = c → Closes c after
  | reset (segment : Segment) : c.flow.appClosed = false → c.flow.sndUna ≠ c.flow.sndNxt →
      after.out = c.out ++ [segment] → segment.flags = tcpRst ||| tcpAck → Closes c after
  | kept : c.flow.sndUna = c.flow.sndNxt → c.flow.finSent = true → after.out = c.out →
      after.flow.state = c.flow.state → after.flow.numbers = c.flow.numbers →
      after.flow.sndUna = c.flow.sndUna → Closes c after
  | finished (segment : Segment) : c.flow.sndUna = c.flow.sndNxt → c.flow.finSent = false →
      after.flow.state = c.flow.state.finished → after.out = c.out ++ [segment] →
      segment.flags = tcpAck ||| tcpFin → segment.seq = c.flow.sndNxt → Closes c after

theorem beginClose_out (c : Conn) : (beginClose c).out = c.out := by
  have dropped (c : Conn) : (dropReceived c).out = c.out :=
    congrArg AckView.out (apply_acking c .drop rfl)
  have shut (c : Conn) : (closeWriteCh c).out = c.out :=
    congrArg AckView.out (apply_acking c .closeChannel rfl)
  unfold beginClose
  rw [dropped, shut]

theorem abortFlow_out (c : Conn) (isOpen : c.flow.state ≠ .closed) : ∃ segment : Segment,
    (abortFlow c).out = c.out ++ [segment] ∧ segment.flags = tcpRst ||| tcpAck := by
  have sent : ∃ segment : Segment, (sendSegment c c.flow.sndNxt (tcpRst ||| tcpAck) [] false).out =
      c.out ++ [segment] ∧ segment.flags = tcpRst ||| tcpAck := by
    unfold sendSegment
    rw [if_neg isOpen]
    exact ⟨_, rfl, rfl⟩
  obtain ⟨segment, grown, flags⟩ := sent
  have output := congrArg SubmitView.out (closeFlow_submitted
    { sendSegment c c.flow.sndNxt (tcpRst ||| tcpAck) [] false with flow.rst := true } .connectionReset)
  unfold abortFlow
  rw [if_neg isOpen]
  exact ⟨segment, output.trans grown, flags⟩

theorem tcpFlowClose_closes (c : Conn) (past : Past c.flow.state) (agrees : Agrees c.flow) :
    Closes c (tcpFlowClose c) := by
  by_cases done : c.flow.appClosed = true
  · exact Closes.ignored done (if_pos (Or.inr done))
  have posted (c : Conn) (read : Option ReadOp) (write : Option WriteOp) :
      (completeWrite (completeRead c read .operationAborted) write .operationAborted).out = c.out := by
    cases read <;> cases write <;> rfl
  have state := beginClose_state c
  have numbers := beginClose_numbers c
  have send := beginClose_send c
  have finSent : (beginClose c).flow.finSent = c.flow.finSent := congrArg Numbers.finSent numbers
  have out := beginClose_out c
  rw [tcpFlowClose_eq c (not_or.mpr ⟨past.1, done⟩)]
  by_cases settled : c.flow.sndUna = c.flow.sndNxt
  · rw [if_neg (not_not.mpr settled)]
    have level : (beginClose c).flow.sndUna = (beginClose c).flow.sndNxt :=
      (congrArg SendView.sndUna send).trans (settled.trans (congrArg SendView.sndNxt send).symm)
    rcases sendFin_cases (beginClose c) with
      ⟨finished, same⟩ | ⟨unsent, _, ⟨busy, _⟩ | ⟨_, ⟨sends, same⟩ | ⟨early, _⟩ | ⟨late, _⟩⟩⟩
    · rw [same]
      have sent : c.flow.finSent = true :=
        finSent.symm.trans (finished.resolve_right fun closed => past.1 (state.symm.trans closed))
      exact Closes.kept settled sent ((posted _ _ _).trans out)
        (by rw [completeWrite_flow, completeRead_flow, state])
        (by rw [completeWrite_flow, completeRead_flow, numbers])
        (by rw [completeWrite_flow, completeRead_flow]; exact congrArg SendView.sndUna send)
    · rcases busy with unsentData | outstanding
      · unfold Tunio.unsentWrite at unsentData
        rw [show (beginClose c).flow.activeWrite = none from congrArg SendView.activeWrite send]
          at unsentData
        cases unsentData
      · exact absurd level outstanding
    · rw [same]
      have left : (beginClose c).flow.state.finished ≠ .closed := by
        rcases sends with here | here <;> rw [here] <;> decide
      obtain ⟨segment, grown, seq, flags⟩ := emitFin_out
        { beginClose c with flow.finSent := true } (beginClose c).flow.state.finished left
      refine Closes.finished segment settled (finSent.symm.trans unsent) ?_ ?_ flags ?_
      · rw [completeWrite_flow, completeRead_flow, emitFin_state, state]
      · rw [posted, grown]
        exact congrArg (· ++ [segment]) out
      · exact seq.trans (congrArg SendView.sndNxt send)
    · rw [state] at early
      rcases early with here | here
      · exact absurd here past.2.1
      · exact absurd here past.2.2
    · rw [state] at late
      have sent := agrees.late past (fun here => by simp [here] at late)
        (fun here => by simp [here] at late)
      exact absurd (finSent.symm.trans unsent) (ne_false_of_eq_true sent)
  · rw [if_pos settled]
    obtain ⟨segment, grown, flags⟩ := abortFlow_out (beginClose c) (state ▸ past.1)
    refine Closes.reset segment (by simpa using done) settled ?_ flags
    rw [posted, grown, out]

/-- What is in flight while no FIN is sent is data. -/
theorem Concluded.inFlight {c : Conn} (concluded : Concluded c) (unsent : c.flow.finSent = false) :
    DataInFlight c ↔ c.flow.sndUna ≠ c.flow.sndNxt := by
  constructor
  · rintro ⟨seq, within, _⟩ same
    rw [same, UInt32.sub_self] at within
    exact absurd within (UInt32.not_lt.mpr (UInt32.zero_le))
  · intro outstanding
    refine ⟨c.flow.sndUna, ?_, ?_⟩
    · rw [UInt32.sub_self, UInt32.lt_iff_toNat_lt]
      have apart : (c.flow.sndNxt - c.flow.sndUna).toNat ≠ 0 := by
        intro none
        refine outstanding ?_
        rw [← UInt32.toNat_inj]
        rw [UInt32.toNat_sub] at none
        have una := c.flow.sndUna.toNat_lt
        have nxt := c.flow.sndNxt.toNat_lt
        omega
      exact Nat.pos_of_ne_zero apart
    · rintro ⟨segment, member, flag, _⟩
      rw [concluded.without unsent segment member] at flag
      cases flag

/-- Once the FIN is sent no data is in flight. -/
theorem Concluded.noData {c : Conn} (concluded : Concluded c) (sent : c.flow.finSent = true) :
    ¬DataInFlight c := by
  rintro ⟨seq, within, notFin⟩
  rcases concluded.last sent with level | ⟨next, fin⟩
  · rw [level, UInt32.sub_self] at within
    exact absurd within (UInt32.not_lt.mpr (UInt32.zero_le))
  · refine notFin ?_
    have same : seq = c.flow.sndUna := by
      rw [next, UInt32.add_comm, UInt32.add_sub_cancel, UInt32.lt_iff_toNat_lt] at within
      have zero : seq - c.flow.sndUna = 0 := UInt32.toNat_inj.mp (Nat.lt_one_iff.mp within)
      rw [← UInt32.sub_add_cancel seq c.flow.sndUna, zero, UInt32.zero_add]
    rwa [same]

theorem Concluded.noFin {c : Conn} (concluded : Concluded c) (unsent : c.flow.finSent = false) :
    ¬∃ seq, FinAt c seq := by
  rintro ⟨seq, segment, member, flag, _⟩
  rw [concluded.without unsent segment member] at flag
  cases flag

theorem noReset {c after : Conn} (same : after.out = c.out) :
    ¬∃ segment ∈ after.out.drop c.out.length, hasFlag segment.flags tcpRst = true := by
  rw [same, List.drop_length]
  rintro ⟨segment, member, _⟩
  cases member

theorem closesGently_iff {c : Conn} (past : Past c.flow.state) (retires : Retires c)
    (concluded : Concluded c) :
    ClosesGently c ↔
      c.flow.appClosed = true ∨ c.flow.finSent = false ∨ c.flow.sndUna = c.flow.sndNxt := by
  have closes := tcpFlowClose_closes c past retires.agrees
  constructor
  · intro gently
    by_contra rest
    simp only [not_or, Bool.not_eq_true, Bool.not_eq_false] at rest
    obtain ⟨_, sent, outstanding⟩ := rest
    cases closes with
    | ignored done => simp_all
    | reset segment _ _ out flags =>
        refine concluded.noData sent (gently.resets.mp ⟨segment, ?_, by rw [flags]; decide⟩)
        rw [out, List.drop_left]
        exact List.mem_singleton_self segment
    | kept settled => exact outstanding settled
    | finished _ settled => exact outstanding settled
  · intro condition
    cases closes with
    | ignored done same =>
        -- the FIN went out when the application closed the flow
        have sent : c.flow.finSent = true := by
          have late := retires.retired done
          refine retires.agrees.late past (fun here => ?_) fun here => ?_ <;>
            rw [here] at late <;> exact absurd late (by decide)
        refine ⟨iff_of_false (noReset (congrArg (·.out) same)) (concluded.noData sent),
          fun _ none => ?_, fun _ _ => ?_⟩
        · obtain ⟨seq, fin⟩ := concluded.submitted sent
          exact absurd fin (none seq)
        · rw [same]
          exact ⟨rfl, rfl, rfl, rfl⟩
    | reset segment usable outstanding out flags =>
        have unsent : c.flow.finSent = false := by
          rcases condition with done | unsent | settled
          · rw [usable] at done
            cases done
          · exact unsent
          · exact absurd settled outstanding
        have data := (concluded.inFlight unsent).mpr outstanding
        refine ⟨iff_of_true ⟨segment, ?_, by rw [flags]; decide⟩ data, fun none => absurd data none,
          fun none => absurd data none⟩
        rw [out, List.drop_left]
        exact List.mem_singleton_self segment
    | kept settled sent out state numbers una =>
        refine ⟨iff_of_false (noReset out) (concluded.noData sent), fun _ none => ?_,
          fun _ _ => ⟨out, state, numbers, una⟩⟩
        obtain ⟨seq, fin⟩ := concluded.submitted sent
        exact absurd fin (none seq)
    | finished segment settled unsent state out flags seq =>
        have idle : ¬DataInFlight c := fun data => (concluded.inFlight unsent).mp data settled
        refine ⟨iff_of_false ?_ idle, fun _ _ => ⟨state, segment, out, flags, seq⟩,
          fun _ fin => absurd fin (concluded.noFin unsent)⟩
        rw [out, List.drop_left]
        rintro ⟨other, member, flag⟩
        rw [List.mem_singleton.mp member, flags] at flag
        exact absurd flag (by decide)

/-- In every reachable state behind the handshake `close` resets the flow just for data in
flight unless a FIN is outstanding that the application has not sent by `close` itself. -/
theorem run_closesGently_iff (eng : TcpEngine) (id : FlowId) (key : FiveTuple) (th : TcpHeader)
    (payload data : List UInt8) (iss : UInt32) (events : List Event)
    (past : Past (run (openFlow eng id key th payload data iss) events).flow.state) :
    let c := run (openFlow eng id key th payload data iss) events
    ClosesGently c ↔
      c.flow.appClosed = true ∨ c.flow.finSent = false ∨ c.flow.sndUna = c.flow.sndNxt :=
  closesGently_iff past (run_retires eng id key th payload data iss events)
    (run_concluded eng id key th payload data iss events past.1)

/-- After `shutdown(send)` and the ACK of its FIN, `close` leaves the peer to finish. -/
theorem closesGently_acknowledged :
    ClosesGently (run (opened {} 1000) [.accept, .segment (peerSegment 8 1001 tcpAck 1000) [],
      .shutdownSend, .segment (peerSegment 8 1002 tcpAck 1000) []]) :=
  (run_closesGently_iff _ _ _ _ _ _ _ _ (by decide)).mpr (by decide)

/-- A `close` before the ACK of the FIN resets the flow: no byte of data is in flight. -/
theorem closesGently_fails :
    let c := run (opened {} 1000) [.accept, .segment (peerSegment 8 1001 tcpAck 1000) [],
      .shutdownSend]
    (tcpFlowClose c).out.map Segment.flags =
        [tcpSyn ||| tcpAck, tcpAck ||| tcpFin, tcpRst ||| tcpAck] ∧ ¬ClosesGently c := by
  refine ⟨by decide, fun gently => ?_⟩
  have condition := (closesGently_iff (by decide) (run_retires _ _ _ _ _ _ _ _)
    (run_concluded _ _ _ _ _ _ _ _ (by decide))).mp gently
  revert condition
  decide

end Tunio
