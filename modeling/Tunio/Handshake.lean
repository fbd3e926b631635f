import Tunio.Frame
import Tunio.Inbox

/-!
The end of the handshake: which acknowledgements take a flow out of SYN_ACK_SENT.
-/

namespace Tunio

/-! Without a FIN, in the segment or in the cache, receiving keeps the state. -/

def NoFin (cache : OooCache) : Prop :=
  ∀ (key : UInt32) (seg : OooSegment), cache[key]? = some seg → seg.fin = false

theorem NoFin.erase {cache : OooCache} (noFin : NoFin cache) (gone : UInt32) :
    NoFin (cache.erase gone) := by
  intro key seg found
  rw [Std.TreeMap.getElem?_erase] at found
  split at found
  · cases found
  · exact noFin key seg found

theorem finOoo_id (c : Conn) (key : UInt32) (seg : OooSegment) (noFin : seg.fin = false) :
    finOoo c key seg = c := by
  simp [finOoo, noFin]

theorem pruneOoo_noFin (entries : List (UInt32 × OooSegment)) (c : Conn) (pruned : Bool)
    (entriesNoFin : ∀ entry ∈ entries, entry.2.fin = false) (cacheNoFin : NoFin c.flow.oooCache) :
    (pruneOoo entries c pruned).1.flow.state = c.flow.state ∧
      NoFin (pruneOoo entries c pruned).1.flow.oooCache := by
  induction entries generalizing c pruned with
  | nil => exact ⟨rfl, cacheNoFin⟩
  | cons entry rest ih =>
      have headNoFin := entriesNoFin entry List.mem_cons_self
      have restNoFin : ∀ later ∈ rest, later.2.fin = false :=
        fun later member => entriesNoFin later (List.mem_cons_of_mem _ member)
      simp only [pruneOoo, finOoo_id c entry.1 entry.2 headNoFin]
      split
      · exact ih c pruned restNoFin cacheNoFin
      · split
        · exact ⟨rfl, cacheNoFin⟩
        · have erased : NoFin (discardOoo c entry.1 entry.2).flow.oooCache := by
            rw [discardOoo_oooCache]
            exact cacheNoFin.erase entry.1
          have tail := ih (discardOoo c entry.1 entry.2) true restNoFin erased
          rw [discardOoo_state] at tail
          exact tail

theorem deliverOoo_noFin (fuel : Nat) (c : Conn) (delivered : Bool)
    (cacheNoFin : NoFin c.flow.oooCache) :
    (deliverOoo fuel c delivered).1.flow.state = c.flow.state := by
  induction fuel generalizing c delivered with
  | zero => rfl
  | succ fuel ih =>
      unfold deliverOoo
      split
      · rfl
      · rename_i key seg ready
        have segNoFin : seg.fin = false :=
          cacheNoFin key seg (readyOoo_cached c.flow key seg ready)
        simp only [finOoo_id _ key seg segNoFin]
        have roundState : (deliverFresh (takeOoo c key seg) key seg).flow.state = c.flow.state := by
          simp
        have roundNoFin : NoFin (deliverFresh (takeOoo c key seg) key seg).flow.oooCache := by
          simp only [deliverFresh_oooCache, takeOoo_oooCache]
          exact cacheNoFin.erase key
        split
        · exact roundState
        · rw [ih _ _ roundNoFin, roundState]

theorem flushOoo_noFin (c : Conn) (cacheNoFin : NoFin c.flow.oooCache) :
    (flushOoo c).flow.state = c.flow.state := by
  have pruning := pruneOoo_noFin c.flow.oooCache.toList c false
    (fun entry member => cacheNoFin entry.1 entry.2
      (Std.TreeMap.mem_toList_iff_getElem?_eq_some.mp member)) cacheNoFin
  unfold flushOoo
  split
  · rename_i prunedEq
    rw [prunedEq] at pruning
    exact pruning.1
  · rename_i pruned c₁ isPruned prunedEq
    rw [prunedEq] at pruning
    have delivery := deliverOoo_noFin (c₁.flow.oooCache.size + 1) (countCached c₁) false pruning.2
    split
    · rename_i deliveredEq
      rw [deliveredEq] at delivery
      exact delivery.trans pruning.1
    · rename_i deliveredEq
      rw [deliveredEq] at delivery
      rw [announceOoo_state]
      exact delivery.trans pruning.1

theorem handleData_noFin (c : Conn) (seq : UInt32) (data : List UInt8) (flags : UInt8)
    (cacheNoFin : NoFin c.flow.oooCache) :
    (handleData c seq data flags).flow.state = c.flow.state := by
  have delivered (rest : List UInt8) :
      (flushOoo (deliverData c rest)).flow.state = c.flow.state := by
    rw [flushOoo_noFin _ (by rwa [deliverData_oooCache]), deliverData_state]
  unfold handleData
  split
  · exact delivered data
  · split
    · dsimp only
      split <;> simp
    · dsimp only
      split
      · exact delivered _
      · simp

theorem handlePayload_noFin (c : Conn) (th : TcpHeader) (data : List UInt8)
    (flagNoFin : hasFlag th.flags tcpFin = false) (cacheNoFin : NoFin c.flow.oooCache) :
    (handlePayload c th data).flow.state = c.flow.state := by
  unfold handlePayload
  dsimp only
  rw [signalWrite_state, flagNoFin]
  simp only [Bool.false_eq_true, if_false]
  split
  · exact handleData_noFin c th.seq data th.flags cacheNoFin
  · rfl

namespace Quiet

theorem signalWrite (c : Conn) : Quiet c (signalWrite c) := by
  unfold Tunio.signalWrite
  split
  · split
    · exact of_eq rfl rfl rfl rfl rfl
    · exact refl c
  · exact refl c

theorem segmentFin (c : Conn) (finSeq : UInt32) (len : Nat) :
    Quiet c (segmentFin c finSeq len) := by
  unfold Tunio.segmentFin
  dsimp only
  split
  · split
    · exact (oooAppend c _ [] true).trans (countOoo _)
    · exact (oooAppend c _ [] true).trans (sendAck _)
  · exact handleFin c _

theorem handlePayload (c : Conn) (th : TcpHeader) (data : List UInt8) :
    Quiet c (handlePayload c th data) := by
  have payload : Quiet c (if data.length > 0 then
      Tunio.handleData c th.seq data th.flags else c) := by
    split
    · exact handleData c th.seq data th.flags
    · exact refl c
  unfold Tunio.handlePayload
  dsimp only
  generalize (if data.length > 0 then Tunio.handleData c th.seq data th.flags else c) = c₁
    at payload ⊢
  refine trans payload (trans ?_ (signalWrite _))
  split
  · exact segmentFin c₁ _ _
  · exact refl c₁

end Quiet

/-! The acknowledgement. -/

/-- An acknowledgement of the SYN and of nothing that was not sent. -/
def Acceptable (flow : TcpFlow) (th : TcpHeader) : Prop :=
  hasFlag th.flags tcpAck = true ∧ hasFlag th.flags tcpRst = false ∧
    hasFlag th.flags tcpSyn = false ∧ seqGt th.ack flow.iss = true ∧ seqGe flow.sndNxt th.ack = true

/-- `snd_una` after an acceptable acknowledgement. -/
def newestAck (flow : TcpFlow) (ack : UInt32) : UInt32 :=
  if seqGt ack flow.sndUna then ack else flow.sndUna

/-- The acknowledgement leaves nothing outstanding, so that a deferred FIN goes out. -/
def FinDue (flow : TcpFlow) (ack : UInt32) : Prop :=
  flow.finPending = true ∧ flow.finSent = false ∧ newestAck flow ack = flow.sndNxt ∧
    ∀ op ∈ flow.activeWrite, op.offset = op.total

/-- The handshake has ended, and the flow is further than that only by a FIN. -/
structure HandshakeEnds (before after : Conn) (th : TcpHeader) : Prop where
  ended : after.flow.state = .established ∨ after.flow.state = .closeWait
  finOnly : after.flow.state = .closeWait →
    hasFlag th.flags tcpFin = true ∨ ¬NoFin before.flow.oooCache

theorem seqGe_succ (word : UInt32) : seqGe word (word + 1) = false := by
  have bound := word.toNat_lt
  have one : (1 : UInt32).toNat = 1 := rfl
  have next := UInt32.toNat_add word 1
  have behind := UInt32.toNat_sub word (word + 1)
  simp only [seqGe, seqGt, Bool.or_eq_false_iff, beq_eq_false_iff_ne, decide_eq_false_iff_not,
    Serial.toInt32_pos]
  refine ⟨?_, by omega⟩
  intro same
  have words := congrArg UInt32.toNat same
  omega

theorem advanceUna_acceptable (c : Conn) (ack : UInt32) (sent : seqGe c.flow.sndNxt ack = true) :
    advanceUna c ack = { c with flow.sndUna := newestAck c.flow ack } := by
  have noProbe : (ack == c.flow.sndNxt + 1) = false := by
    rw [beq_eq_false_iff_ne]
    rintro rfl
    have ahead := seqGe_succ c.flow.sndNxt
    rw [sent] at ahead
    exact absurd ahead (by decide)
  unfold advanceUna newestAck
  rw [sent, noProbe]
  cases seqGt ack c.flow.sndUna <;> simp

theorem completeHandshake_quiet (c : Conn) :
    (completeHandshake c).flow.state = .established ∧
      (completeHandshake c).flow.oooCache = c.flow.oooCache := by
  unfold completeHandshake
  rw [flushReads_state, flushReads_oooCache]
  dsimp only
  split
  · exact ⟨rfl, rfl⟩
  · unfold notifyAccept
    split <;> exact ⟨rfl, rfl⟩

/-- A FIN that is sent in SYN_ACK_SENT resets the flow instead. -/
theorem sendFin_synAckSent (c : Conn) (handshake : c.flow.state = .synAckSent)
    (unsent : c.flow.finSent = false) (acked : c.flow.sndUna = c.flow.sndNxt)
    (emitted : ∀ op ∈ c.flow.activeWrite, op.offset = op.total) :
    (sendFin c).flow.state = .closed := by
  have nothing : unsentWrite c.flow = false := by
    unfold unsentWrite
    split
    · rename_i op write
      simp [emitted op write]
    · rfl
  unfold sendFin
  rw [if_neg (by simp [unsent, handshake]), if_neg (by simp [nothing, acked])]
  simp [handshake]

theorem confirmFin_other (c : Conn) (ack : UInt32) (notFinWait1 : c.flow.state ≠ .finWait1)
    (notLastAck : c.flow.state ≠ .lastAck) : confirmFin c ack = (c, true) := by
  unfold confirmFin
  rw [if_neg (by simp [notFinWait1]), if_neg (by simp [notLastAck])]

theorem handleAckField_due (c : Conn) (th : TcpHeader) (handshake : c.flow.state = .synAckSent)
    (acceptable : Acceptable c.flow th) (due : FinDue c.flow th.ack) :
    (handleAckField c th).1.flow.state = .closed ∧ (handleAckField c th).2 = true := by
  obtain ⟨isAck, _, _, _, sent⟩ := acceptable
  obtain ⟨pending, unsent, acked, emitted⟩ := due
  have closed : (sendDeferredFin (clearProbe (advanceUna c th.ack))).flow.state = .closed := by
    rw [advanceUna_acceptable c th.ack sent]
    unfold sendDeferredFin
    rw [if_pos ⟨pending, acked, emitted⟩]
    exact sendFin_synAckSent _ handshake unsent acked emitted
  unfold handleAckField handleAck
  rw [if_pos isAck, confirmFin_other _ _ (by simp [closed]) (by simp [closed])]
  exact ⟨closed, rfl⟩

/-- What the acknowledgement leaves as it was. -/
structure AckKept (before after : Conn) : Prop where
  state : after.flow.state = before.flow.state
  iss : after.flow.iss = before.flow.iss
  cache : after.flow.oooCache = before.flow.oooCache

theorem handleAckField_notDue (c : Conn) (th : TcpHeader) (handshake : c.flow.state = .synAckSent)
    (acceptable : Acceptable c.flow th) (notDue : ¬FinDue c.flow th.ack) :
    AckKept c (handleAckField c th).1 ∧ (handleAckField c th).2 = true := by
  obtain ⟨isAck, _, _, _, sent⟩ := acceptable
  have kept : AckKept c (sendDeferredFin (clearProbe (advanceUna c th.ack))) := by
    rw [advanceUna_acceptable c th.ack sent]
    unfold sendDeferredFin
    split
    · rename_i fires
      obtain ⟨pending, acked, emitted⟩ := fires
      have finSent : c.flow.finSent = true := by
        by_contra unsent
        exact notDue ⟨pending, by simpa using unsent, acked, emitted⟩
      rw [sendFin_finSent]
      · exact ⟨rfl, rfl, rfl⟩
      · exact finSent
    · exact ⟨rfl, rfl, rfl⟩
  have state := kept.state.trans handshake
  unfold handleAckField handleAck
  rw [if_pos isAck, confirmFin_other _ _ (by simp [state]) (by simp [state])]
  exact ⟨⟨kept.state, kept.iss, kept.cache⟩, rfl⟩

theorem handleByState_closed (c : Conn) (th : TcpHeader) (data : List UInt8)
    (closed : c.flow.state = .closed) : handleByState c th data = c := by
  unfold handleByState
  rw [closed]

theorem handleByState_synAckSent (c : Conn) (th : TcpHeader) (data : List UInt8)
    (handshake : c.flow.state = .synAckSent) (isAck : hasFlag th.flags tcpAck = true)
    (notSyn : hasFlag th.flags tcpSyn = false) :
    handleByState c th data =
      if th.ack = c.flow.iss + 1 then handlePayload (completeHandshake c) th data else c := by
  unfold handleByState
  rw [handshake]
  by_cases first : th.ack = c.flow.iss + 1 <;> simp [isAck, notSyn, first]

/-- Behind the handshake the rest of the segment can only add an in-order FIN. -/
theorem payload_handshakeEnds (before c : Conn) (th : TcpHeader) (data : List UInt8)
    (cache : c.flow.oooCache = before.flow.oooCache) :
    HandshakeEnds before (handlePayload (completeHandshake c) th data) th := by
  have completed := completeHandshake_quiet c
  have payload := Quiet.handlePayload (completeHandshake c) th data
  refine ⟨?_, ?_⟩
  · rcases payload.drift with same | ⟨_, after⟩ | ⟨waiting, _⟩
    · exact Or.inl (same.trans completed.1)
    · exact Or.inr after
    · simp [completed.1] at waiting
  · intro further
    by_contra neither
    rw [not_or, Bool.not_eq_true, not_not] at neither
    have kept := handlePayload_noFin (completeHandshake c) th data neither.1
      (by rw [completed.2, cache]; exact neither.2)
    simp [further, completed.1] at kept

theorem handshakeEnds_state {before after : Conn} {th : TcpHeader}
    (ends : HandshakeEnds before after th) :
    after.flow.state ≠ .closed ∧ after.flow.state ≠ .synAckSent := by
  rcases ends.ended with state | state <;> simp [state]

/-- The handshake ends exactly when the acknowledgement is `iss + 1` and releases no FIN. -/
theorem handshakeEnds_iff (c : Conn) (th : TcpHeader) (data : List UInt8)
    (handshake : c.flow.state = .synAckSent) (acceptable : Acceptable c.flow th) :
    HandshakeEnds c (receiveSegment c th data) th ↔
      th.ack = c.flow.iss + 1 ∧ ¬FinDue c.flow th.ack := by
  have entered : receiveSegment c th data = handleSegment c th data := by
    unfold receiveSegment
    rw [if_neg (by simp [handshake]), if_neg (by simp [handshake])]
  have continued (c₁ : Conn) (field : handleAckField c th = (c₁, true)) :
      handleSegment c th data = handleByState c₁ th data := by
    unfold handleSegment
    rw [field]
    simp [acceptable.2.1]
  rw [entered]
  by_cases due : FinDue c.flow th.ack
  · obtain ⟨closed, continues⟩ := handleAckField_due c th handshake acceptable due
    rw [continued _ (Prod.ext rfl continues), handleByState_closed _ th data closed]
    simp only [due, not_true_eq_false, and_false, iff_false]
    exact fun ends => (handshakeEnds_state ends).1 closed
  · obtain ⟨kept, continues⟩ := handleAckField_notDue c th handshake acceptable due
    have state := kept.state.trans handshake
    rw [continued _ (Prod.ext rfl continues),
      handleByState_synAckSent _ th data state acceptable.1 acceptable.2.2.1, kept.iss]
    simp only [due, not_false_eq_true, and_true]
    split
    · rename_i first
      simp only [first, iff_true]
      exact payload_handshakeEnds c _ th data kept.cache
    · rename_i later
      simp only [later, iff_false]
      exact fun ends => (handshakeEnds_state ends).2 state

/-- A write that accepts the flow sends its bytes with the handshake still open. -/
def eagerWrite : Conn :=
  run (opened {} 1000) [.write [[1, 2, 3]] 0, .device 0 false]

/-- The acknowledgement of the SYN and of the data. -/
def dataAck : TcpHeader := peerSegment 8 1004 tcpAck 1000

/-- The acknowledgement of the SYN alone, which may arrive later or be lost. -/
def synAckAck : TcpHeader := peerSegment 8 1001 tcpAck 1000

instance (flow : TcpFlow) (th : TcpHeader) : Decidable (Acceptable flow th) :=
  inferInstanceAs (Decidable (_ ∧ _ ∧ _ ∧ _ ∧ _))

/-- An acknowledgement of the data leaves the flow in SYN_ACK_SENT. -/
theorem handshakeEnds_fails :
    eagerWrite.flow.state = .synAckSent ∧ Acceptable eagerWrite.flow dataAck ∧
      ¬HandshakeEnds eagerWrite (receiveSegment eagerWrite dataAck []) dataAck :=
  ⟨by decide, by decide, fun ends => (handshakeEnds_state ends).2 (by decide)⟩

theorem eagerWrite_handshakeEnds :
    HandshakeEnds eagerWrite (receiveSegment eagerWrite synAckAck []) synAckAck :=
  (handshakeEnds_iff eagerWrite synAckAck [] (by decide) (by decide)).mpr
    ⟨by decide, fun due => absurd due.1 (by decide)⟩

end Tunio
