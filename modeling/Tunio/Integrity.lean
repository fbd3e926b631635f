import Tunio.Reassembly
import Tunio.Aside

/-!
Integrity of the received stream.  Whatever order, overlap and loss the segments of a
stream arrive with, the bytes handed to the application and the bytes still queued are
the prefix of the stream that `rcv_nxt` counts.
-/

namespace Tunio

open Serial Slices

section

variable {stream : List UInt8} {ends : Bool} {base : UInt32} {taken : Nat}

theorem passed_inbox (taken : Nat) {before after : Conn} (inbox : after.inbox = before.inbox) :
    passed taken after = passed taken before :=
  congrArg (fun fin => taken + Bool.toNat fin) (congrArg Inbox.finReceived inbox)

/-- The FIN of the stream, in order, early or repeated. -/
theorem handleFin_resting (c : Conn) (resting : Resting stream ends base taken c)
    (finished : ends = true) (near : stream.length < taken + 2 ^ 31) :
    Resting stream ends base taken (handleFin c (num base stream.length)) ∧
      passed taken c ≤ passed taken (handleFin c (num base stream.length)) := by
  have quiet := Quiet.handleFin c (num base stream.length)
  have isOpen : (handleFin c (num base stream.length)).flow.state ≠ .closed :=
    fun closed => resting.isOpen (quiet.drift.closed_iff.mp closed)
  have next : c.inbox.rcvNxt = num base (passed taken c) := resting.stored.next
  have inside := resting.stored.inside
  have width := c.flow.finReceived.toNat_le
  unfold passed at next
  have inbox := handleFin_inbox c (num base stream.length)
  unfold Inbox.fin at inbox
  split at inbox
  · rename_i inOrder
    rw [next] at inOrder
    have position := num_inj base inOrder (by omega) (by omega)
    have all : taken = stream.length := by
      cases fin : c.flow.finReceived with
      | true => exact (resting.stored.fin fin).2
      | false =>
          rw [fin] at position
          exact position.symm
    have received : (handleFin c (num base stream.length)).flow.finReceived = true := by
      have flag := congrArg Inbox.finReceived inbox
      rw [Inbox.flush_finReceived] at flag
      refine flag.trans ?_
      unfold Inbox.takeFin
      split
      · assumption
      · rfl
    refine ⟨⟨?_, fun unfinished => by simp [received] at unfinished, isOpen⟩, ?_⟩
    · rw [inbox]
      exact resting.stored.takeFin finished all
    · rw [passed, passed, received, Bool.toNat_true]
      omega
  · exact ⟨resting.of_inbox inbox isOpen, Nat.le_of_eq (passed_inbox taken inbox).symm⟩

theorem segmentFin_resting (c : Conn) (len : Nat) (resting : Resting stream ends base taken c)
    (finished : ends = true) (near : stream.length < taken + 2 ^ 31) :
    Resting stream ends base taken (segmentFin c (num base stream.length) len) ∧
      passed taken c ≤ passed taken (segmentFin c (num base stream.length) len) := by
  have next : c.flow.rcvNxt = num base (passed taken c) := resting.stored.next
  have inside := resting.stored.inside
  have width := c.flow.finReceived.toNat_le
  unfold segmentFin
  split
  · rename_i bare
    have early := bare.2
    rw [next, seqGt_num base _ _ (by unfold passed; omega) (by unfold passed; omega),
      decide_eq_true_eq] at early
    have unfinished : c.flow.finReceived = false := by
      cases fin : c.flow.finReceived with
      | true =>
          have all := (resting.stored.fin fin).2
          simp only [passed, fin, Bool.toNat_true] at early
          omega
      | false => rfl
    rw [passed, unfinished, Bool.toNat_false] at early
    have cache := oooAppend_ok c stream.length [] true (resting.cache unfinished) early
      (by simpa using near) (Slice.nil _ (Nat.le_refl _)) fun _ => ⟨finished, rfl⟩
    have inbox := oooAppend_inbox c (num base stream.length) [] true
    have state := oooAppend_state c (num base stream.length) [] true
    have appended : Resting stream ends base taken
        (oooAppend c (num base stream.length) [] true).1 :=
      ⟨by rw [inbox]; exact resting.stored.cache _, fun _ => cache,
        by rw [state]; exact resting.isOpen⟩
    have same : passed taken (oooAppend c (num base stream.length) [] true).1 = passed taken c :=
      congrArg (fun box : Inbox => taken + box.finReceived.toNat) inbox
    dsimp only
    split
    · exact ⟨appended.of_inbox (countOoo_inbox _) appended.isOpen, Nat.le_of_eq same.symm⟩
    · refine ⟨appended.of_inbox (sendAck_inbox _) (by rw [sendAck_state]; exact appended.isOpen), ?_⟩
      rw [passed_inbox taken (sendAck_inbox _)]
      exact Nat.le_of_eq same.symm
  · exact handleFin_resting c resting finished near

/-- The data and the FIN of a segment. -/
theorem handlePayload_resting (c : Conn) (th : TcpHeader) (data : List UInt8) (start : Nat)
    (resting : Resting stream ends base taken c) (seq : th.seq = num base start)
    (fits : Fits stream ends (passed taken c) start data (hasFlag th.flags tcpFin)) :
    ∃ taken', passed taken c ≤ passed taken' (handlePayload c th data) ∧ taken' < taken + 2 ^ 31 ∧
      Resting stream ends base taken' (handlePayload c th data) := by
  have ahead := fits.ahead
  have width := c.flow.finReceived.toNat_le
  have payload : ∃ taken', passed taken c ≤ passed taken' (if data.length > 0 then
        handleData c (num base start) data th.flags else c) ∧ taken' < taken + 2 ^ 31 ∧
      Resting stream ends base taken' (if data.length > 0 then
        handleData c (num base start) data th.flags else c) := by
    split
    · exact handleData_resting c start data th.flags resting fits
    · exact ⟨taken, Nat.le_refl _, by omega, resting⟩
  unfold handlePayload
  dsimp only
  rw [seq]
  generalize (if data.length > 0 then handleData c (num base start) data th.flags else c) = c₁
    at payload ⊢
  obtain ⟨taken', forward, close, rest⟩ := payload
  have widthNow := c₁.flow.finReceived.toNat_le
  have finished : Resting stream ends base taken' (if hasFlag th.flags tcpFin = true then
        segmentFin c₁ (num base start + UInt32.ofNat data.length) data.length else c₁) ∧
      passed taken' c₁ ≤ passed taken' (if hasFlag th.flags tcpFin = true then
        segmentFin c₁ (num base start + UInt32.ofNat data.length) data.length else c₁) := by
    split
    · rename_i isFin
      obtain ⟨isEnd, last⟩ := fits.last isFin
      rw [isFin, Bool.toNat_true] at ahead
      rw [← num_add, last]
      refine segmentFin_resting c₁ _ rest isEnd ?_
      have inside := rest.stored.inside
      unfold passed at ahead forward
      omega
    · exact ⟨rest, Nat.le_refl _⟩
  refine ⟨taken', ?_, close, finished.1.of_inbox (signalWrite_inbox _)
    (by rw [signalWrite_state]; exact finished.1.isOpen)⟩
  rw [passed_inbox taken' (signalWrite_inbox _)]
  exact Nat.le_trans forward finished.2

/-! One event. -/

/-- The flow is closed, or the stream has been taken in further. -/
def Proceeds (stream : List UInt8) (ends : Bool) (base : UInt32) (taken : Nat)
    (before after : Conn) : Prop :=
  after.flow.state = .closed ∨ ∃ taken', passed taken before ≤ passed taken' after ∧
    taken' < taken + 2 ^ 31 ∧ Resting stream ends base taken' after

theorem Proceeds.same {before after : Conn} (resting : Resting stream ends base taken after)
    (same : passed taken after = passed taken before) :
    Proceeds stream ends base taken before after :=
  Or.inr ⟨taken, Nat.le_of_eq same.symm, by omega, resting⟩

theorem Resting.aside {before after : Conn} (resting : Resting stream ends base taken before)
    (aside : Aside before after) : after.flow.state = .closed ∨
      (Resting stream ends base taken after ∧ passed taken after = passed taken before) := by
  by_cases closed : after.flow.state = .closed
  · exact Or.inl closed
  · have inbox := aside.inbox.resolve_left closed
    exact Or.inr ⟨resting.of_inbox inbox closed, passed_inbox taken inbox⟩

/-- A segment of the stream; without data and FIN its sequence number does not matter. -/
structure SegmentOf (stream : List UInt8) (ends : Bool) (base : UInt32) (count : Nat)
    (th : TcpHeader) (data : List UInt8) : Prop where
  notSyn : hasFlag th.flags tcpSyn = false
  carries : data.length > 0 ∨ hasFlag th.flags tcpFin = true →
    ∃ start, th.seq = num base start ∧
      Fits stream ends count start data (hasFlag th.flags tcpFin)

theorem payload_proceeds (c : Conn) (th : TcpHeader) (data : List UInt8)
    (resting : Resting stream ends base taken c)
    (segment : SegmentOf stream ends base (passed taken c) th data) :
    Proceeds stream ends base taken c (handlePayload c th data) := by
  by_cases carries : data.length > 0 ∨ hasFlag th.flags tcpFin = true
  · obtain ⟨start, seq, fits⟩ := segment.carries carries
    exact Or.inr (handlePayload_resting c th data start resting seq fits)
  · rw [not_or] at carries
    have nothing : handlePayload c th data = signalWrite c := by
      unfold handlePayload
      dsimp only
      rw [if_neg carries.1, if_neg carries.2]
    rw [nothing]
    exact Proceeds.same (resting.of_inbox (signalWrite_inbox c)
      (by rw [signalWrite_state]; exact resting.isOpen)) (passed_inbox taken (signalWrite_inbox c))

theorem flushReads_resting (c : Conn) (resting : Resting stream ends base taken c) :
    Resting stream ends base taken (flushReads c) ∧
      passed taken (flushReads c) = passed taken c := by
  have inbox := flushReads_inbox c
  have received : (flushReads c).flow.finReceived = c.flow.finReceived :=
    (congrArg Inbox.finReceived inbox).trans (Inbox.flush_finReceived _)
  refine ⟨⟨?_, fun unfinished => ?_, by rw [flushReads_state]; exact resting.isOpen⟩, ?_⟩
  · rw [inbox]
    exact resting.stored.flush
  · rw [flushReads_oooCache]
    exact resting.cache (received.symm.trans unfinished)
  · rw [passed, passed, received]

theorem completeHandshake_resting (c : Conn) (resting : Resting stream ends base taken c) :
    Resting stream ends base taken (completeHandshake c) ∧
      passed taken (completeHandshake c) = passed taken c := by
  unfold completeHandshake
  dsimp only
  split
  · exact flushReads_resting _ ⟨resting.stored, resting.cache, by simp⟩
  · unfold notifyAccept
    split
    · exact flushReads_resting _ ⟨resting.stored, resting.cache, by simp⟩
    · exact flushReads_resting _ ⟨resting.stored, resting.cache, by simp⟩

theorem handleByState_proceeds (c : Conn) (th : TcpHeader) (data : List UInt8)
    (resting : Resting stream ends base taken c)
    (segment : SegmentOf stream ends base (passed taken c) th data) :
    Proceeds stream ends base taken c (handleByState c th data) := by
  have stays : Proceeds stream ends base taken c c := Proceeds.same resting rfl
  unfold handleByState
  split
  · exact stays
  · exact stays
  · rw [segment.notSyn]
    simp only [Bool.false_eq_true, false_and, if_false]
    split
    · exact stays
    · obtain ⟨completed, same⟩ := completeHandshake_resting c resting
      have proceeds := payload_proceeds (completeHandshake c) th data completed (by rwa [same])
      unfold Proceeds at proceeds
      rwa [same] at proceeds
  · exact payload_proceeds c th data resting segment

theorem receiveSegment_proceeds (c : Conn) (th : TcpHeader) (data : List UInt8)
    (resting : Resting stream ends base taken c)
    (segment : SegmentOf stream ends base (passed taken c) th data) :
    Proceeds stream ends base taken c (receiveSegment c th data) := by
  have notSyn : isSyn th = false := by simp [isSyn, segment.notSyn]
  unfold receiveSegment handleSegment
  rw [if_neg resting.isOpen, if_neg (by simp [notSyn])]
  rcases resting.aside (Aside.handleAckField c th) with closed | ⟨acked, same⟩
  · -- the acknowledgement has closed the flow, and the rest of the segment is ignored
    split
    · rename_i result
      rw [result] at closed
      exact Or.inl closed
    · rename_i result
      rw [result] at closed
      split
      · exact Or.inl (closeFlow_state _ _)
      · refine Or.inl ?_
        unfold handleByState
        rw [show _ = TcpState.closed from closed]
        exact closed
  · split
    · rename_i result
      rw [result] at acked same
      exact Proceeds.same acked same
    · rename_i result
      rw [result] at acked same
      split
      · exact Or.inl (closeFlow_state _ _)
      · have proceeds := handleByState_proceeds _ th data acked (same ▸ segment)
        unfold Proceeds at proceeds
        rwa [same] at proceeds

theorem postRead_resting (c : Conn) (handler : HandlerId) (ec : ErrorCode) (notEof : ec ≠ .eof)
    (resting : Resting stream ends base taken c) :
    Resting stream ends base taken (postRead c handler ec 0 []) := by
  have stored := resting.stored
  refine ⟨⟨stored.next, stored.inside, stored.fin, stored.reading, stored.bytes, ?_, ?_,
    stored.fits⟩, resting.cache, resting.isOpen⟩
  · have content := stored.content
    simpa [Conn.inbox, postRead, handed_append] using content
  · exact stored.eofs.append _ fun isEof => absurd isEof notEof

theorem doReadSome_proceeds (c : Conn) (buffers : List Nat) (handler : HandlerId)
    (resting : Resting stream ends base taken c) :
    Proceeds stream ends base taken c (doReadSome c buffers handler) := by
  unfold doReadSome tcpFlowStartRead
  split
  · exact Proceeds.same (postRead_resting c handler _ (by simp) resting) rfl
  · split
    · exact Proceeds.same (postRead_resting c handler _ (by simp) resting) rfl
    · have accepting : Aside c (if c.flow.state = .synRcvd then acceptFlow c else c) := by
        split
        · exact Aside.acceptFlow c
        · exact Aside.refl c
      dsimp only
      generalize (if c.flow.state = .synRcvd then acceptFlow c else c) = c₁ at accepting ⊢
      rcases resting.aside accepting with closed | ⟨accepted, same⟩
      · refine Or.inl ?_
        split
        · exact closed
        · split
          · exact closed
          · rwa [flushReads_state]
      · split
        · exact Proceeds.same (postRead_resting c₁ handler _ (by simp) accepted) same
        · split
          · exact Proceeds.same (postRead_resting c₁ handler _ (by simp) accepted) same
          · have stored := accepted.stored
            have waiting : Resting stream ends base taken
                { c₁ with flow.activeRead := some (ReadOp.mk buffers buffers.sum handler) } := by
              refine ⟨⟨stored.next, stored.inside, stored.fin, stored.reading, stored.bytes,
                stored.content, stored.eofs, ?_⟩, accepted.cache, accepted.isOpen⟩
              intro op read
              obtain rfl := Option.some.inj read
              exact Nat.le_refl _
            obtain ⟨flushed, kept⟩ := flushReads_resting _ waiting
            exact Proceeds.same flushed (kept.trans same)

/-- What the peer and the application may do: segments of the stream, and anything
but closing the receive side. -/
def Admissible (stream : List UInt8) (ends : Bool) (base : UInt32) (count : Nat) : Event → Prop
  | .segment th data => SegmentOf stream ends base count th data
  | .close => False
  | .shutdownReceive => False
  | _ => True

theorem step_proceeds (c : Conn) (event : Event) (resting : Resting stream ends base taken c)
    (admissible : Admissible stream ends base (passed taken c) event) :
    Proceeds stream ends base taken c (step c event) := by
  have others (other : event.receives = false) :
      Proceeds stream ends base taken c (step c event) := by
    rcases resting.aside (step_aside c event other) with closed | ⟨rest, same⟩
    · exact Or.inl closed
    · exact Proceeds.same rest same
  cases event with
  | segment th data => exact receiveSegment_proceeds c th data resting admissible
  | read buffers handler => exact doReadSome_proceeds c buffers handler resting
  | close => exact admissible.elim
  | shutdownReceive => exact admissible.elim
  | _ => exact others rfl

theorem step_closed (c : Conn) (event : Event) (closed : c.flow.state = .closed) :
    (step c event).flow.state = .closed := by
  cases event with
  | segment th data => simp [step, receiveSegment, closed]
  | read buffers handler => simp [step, doReadSome, tcpFlowStartRead, closed, postRead]
  | close => simp [step, tcpFlowClose, closed]
  | shutdownReceive => simp [step, tcpFlowShutdownReceive, closed]
  | _ => exact (step_aside c _ rfl).stays closed

theorem run_closed (c : Conn) (events : List Event) (closed : c.flow.state = .closed) :
    (run c events).flow.state = .closed :=
  run_invariant (fun c => c.flow.state = .closed) step_closed c events closed

/-! Runs.  `rcv_nxt` is followed beyond 32 bits by adding up its advances. -/

def advance (before after : Conn) : Nat := (after.flow.rcvNxt - before.flow.rcvNxt).toNat

def countFrom (c : Conn) (count : Nat) : List Event → Nat
  | [] => count
  | event :: events => countFrom (step c event) (count + advance c (step c event)) events

/-- Every event of the run is admissible where it happens. -/
def AdmissibleRun (stream : List UInt8) (ends : Bool) (base : UInt32) (c : Conn) (count : Nat) :
    List Event → Prop
  | [] => True
  | event :: events => Admissible stream ends base count event ∧
      AdmissibleRun stream ends base (step c event) (count + advance c (step c event)) events

theorem run_resting (c : Conn) (events : List Event) (resting : Resting stream ends base taken c)
    (admissible : AdmissibleRun stream ends base c (passed taken c) events) :
    (run c events).flow.state = .closed ∨ ∃ taken',
      Resting stream ends base taken' (run c events) ∧
        countFrom c (passed taken c) events = passed taken' (run c events) := by
  induction events generalizing c taken with
  | nil => exact Or.inr ⟨taken, resting, rfl⟩
  | cons event events ih =>
      obtain ⟨now, later⟩ := admissible
      rcases step_proceeds c event resting now with closed | ⟨taken', forward, close, rest⟩
      · exact Or.inl (run_closed _ events closed)
      · have width := (step c event).flow.finReceived.toNat_le
        have advanced : passed taken c + advance c (step c event) = passed taken' (step c event) := by
          have before : c.flow.rcvNxt = num base (passed taken c) := resting.stored.next
          have after : (step c event).flow.rcvNxt = num base (passed taken' (step c event)) :=
            rest.stored.next
          rw [advance, before, after, num_sub_toNat base _ _ forward (by unfold passed; omega)]
          omega
        rw [advanced] at later
        have tail := ih (step c event) rest later
        rw [run_cons, countFrom, advanced]
        exact tail

end

/-- The bytes handed out and the bytes queued are the stream up to `rcv_nxt`, and no read
has ended with `eof` before everything was handed out. -/
structure Intact (stream : List UInt8) (count : Nat) (c : Conn) : Prop where
  content : handed c.reads ++ c.flow.rxData.drop c.flow.rxHead =
    stream.take (count - c.flow.finReceived.toNat)
  reached : count - c.flow.finReceived.toNat ≤ stream.length
  eofs : EofLast stream c.reads

/-- How many bytes of the SYN segment itself were taken in. -/
def openCount (th : TcpHeader) (c : Conn) : Nat := (c.flow.rcvNxt - (th.seq + 1)).toNat

theorem takeSynData_inbox (c : Conn) (th : TcpHeader) (data : List UInt8) :
    (takeSynData c th data).inbox = c.inbox ∨
      (takeSynData c th data).inbox = c.inbox.queue data := by
  unfold takeSynData
  split
  · split
    · exact Or.inr rfl
    · exact Or.inl rfl
  · exact Or.inl rfl

theorem takeSynData_state (c : Conn) (th : TcpHeader) (data : List UInt8) :
    (takeSynData c th data).flow.state = c.flow.state := by
  unfold takeSynData
  split
  · split <;> rfl
  · rfl

theorem notifyAccept_inbox (c : Conn) : (notifyAccept c).inbox = c.inbox := by
  unfold notifyAccept
  split <;> rfl

theorem notifyAccept_state (c : Conn) : (notifyAccept c).flow.state = c.flow.state := by
  unfold notifyAccept
  split <;> rfl

theorem openFlow_resting (eng : TcpEngine) (id : FlowId) (key : FiveTuple) (th : TcpHeader)
    (payload data : List UInt8) (iss : UInt32) (stream : List UInt8) (ends : Bool)
    (early : data <+: stream) (short : data.length < 2 ^ 32) :
    ∃ taken, Resting stream ends (th.seq + 1) taken (openFlow eng id key th payload data iss) ∧
      openCount th (openFlow eng id key th payload data iss) =
        passed taken (openFlow eng id key th payload data iss) := by
  let c : Conn := {
    flow := synFlow eng id key th payload iss
    eng := { eng with flows := (key, id) :: eng.flows } }
  have fresh : Stored stream ends (th.seq + 1) 0 c.inbox := by
    refine ⟨?_, Nat.zero_le _, ?_, rfl, rfl, rfl, ?_, ?_⟩
    · exact (num_zero _).symm
    · exact fun received => by cases received
    · exact fun index read lookup => by cases lookup
    · exact fun op read => by cases read
  have state : (openFlow eng id key th payload data iss).flow.state = .synRcvd := by
    unfold openFlow
    rw [notifyAccept_state, takeSynData_state]
    rfl
  have inbox : (openFlow eng id key th payload data iss).inbox = (takeSynData c th data).inbox := by
    unfold openFlow
    exact notifyAccept_inbox _
  have resting (taken : Nat)
      (stored : Stored stream ends (th.seq + 1) taken (takeSynData c th data).inbox)
      (cache : (takeSynData c th data).inbox.oooCache = ∅)
      (unfinished : (takeSynData c th data).inbox.finReceived = false) (reach : taken < 2 ^ 32) :
      Resting stream ends (th.seq + 1) taken (openFlow eng id key th payload data iss) ∧
        openCount th (openFlow eng id key th payload data iss) =
          passed taken (openFlow eng id key th payload data iss) := by
    have noFin : (openFlow eng id key th payload data iss).flow.finReceived = false :=
      (congrArg Inbox.finReceived inbox).trans unfinished
    have empty : (openFlow eng id key th payload data iss).flow.oooCache = ∅ :=
      (congrArg Inbox.oooCache inbox).trans cache
    have here : Resting stream ends (th.seq + 1) taken
        (openFlow eng id key th payload data iss) := by
      refine ⟨by rwa [inbox], fun _ => ?_, by simp [state]⟩
      rw [empty]
      exact CacheOk.empty
    have next : (openFlow eng id key th payload data iss).flow.rcvNxt =
        num (th.seq + 1) (passed taken (openFlow eng id key th payload data iss)) :=
      here.stored.next
    refine ⟨here, ?_⟩
    have counted := num_sub_toNat (th.seq + 1)
      (passed taken (openFlow eng id key th payload data iss)) 0 (Nat.zero_le _)
      (by rw [passed, noFin]; simpa using reach)
    rw [num_zero] at counted
    rw [openCount, next, counted, Nat.sub_zero]
  rcases takeSynData_inbox c th data with refused | queued
  · exact ⟨0, resting 0 (by rw [refused]; exact fresh) (by rw [refused]; rfl)
      (by rw [refused]; rfl) (by omega)⟩
  · refine ⟨0 + data.length, resting _ ?_ (by rw [queued]; rfl) (by rw [queued]; rfl) (by omega)⟩
    rw [queued]
    exact fresh.queue data (Slice.of_prefix early) rfl

/-- Whatever way the segments of the stream come in, the flow keeps the stream intact. -/
theorem receivedStream_intact (eng : TcpEngine) (id : FlowId) (key : FiveTuple) (th : TcpHeader)
    (payload data : List UInt8) (iss : UInt32) (stream : List UInt8) (ends : Bool)
    (early : data <+: stream) (short : data.length < 2 ^ 32) (events : List Event)
    (admissible : AdmissibleRun stream ends (th.seq + 1) (openFlow eng id key th payload data iss)
      (openCount th (openFlow eng id key th payload data iss)) events)
    (isOpen : (run (openFlow eng id key th payload data iss) events).flow.state ≠ .closed) :
    Intact stream (countFrom (openFlow eng id key th payload data iss)
        (openCount th (openFlow eng id key th payload data iss)) events)
      (run (openFlow eng id key th payload data iss) events) := by
  obtain ⟨taken, resting, count⟩ :=
    openFlow_resting eng id key th payload data iss stream ends early short
  rw [count] at admissible ⊢
  rcases run_resting _ events resting admissible with closed | ⟨taken', rest, total⟩
  · exact absurd closed isOpen
  · have exact_ : passed taken' (run (openFlow eng id key th payload data iss) events) -
        (run (openFlow eng id key th payload data iss) events).flow.finReceived.toNat = taken' := by
      unfold passed
      omega
    rw [total]
    refine ⟨?_, ?_, rest.stored.eofs⟩
    · rw [exact_]
      exact rest.stored.content
    · rw [exact_]
      exact rest.stored.inside

/-- The flow of a SYN that carries two bytes. -/
def earlyOpen : Conn :=
  openFlow { account := { limit := 1000000 } } 0
    { srcIp := Vector.replicate 16 1, dstIp := Vector.replicate 16 2, srcPort := 1, dstPort := 2
      protocol := 6, family := 4 }
    (peerSegment 7 0 tcpSyn 1000) [] [1, 2] 1000

/-- The end of the stream, with its FIN, arrives before the byte in the middle. -/
def reordered : List Event :=
  [.accept, .segment (peerSegment 11 1001 (tcpAck ||| tcpFin) 1000) [4, 5],
    .segment (peerSegment 10 1001 tcpAck 1000) [3], .read [10] 1, .read [1] 2]

theorem reordered_intact :
    Intact [1, 2, 3, 4, 5] (countFrom earlyOpen
      (openCount (peerSegment 7 0 tcpSyn 1000) earlyOpen) reordered) (run earlyOpen reordered) := by
  refine receivedStream_intact _ _ _ _ _ _ _ _ true (by decide) (by decide) reordered ?_ (by decide)
  refine And.intro trivial (And.intro ?_ (And.intro ?_ (And.intro trivial (And.intro trivial trivial))))
  · exact ⟨by decide, fun _ => ⟨3, by decide, ⟨by decide, by decide⟩, by decide, by decide,
      by decide⟩⟩
  · exact ⟨by decide, fun _ => ⟨2, by decide, ⟨by decide, by decide⟩, by decide, by decide,
      by decide⟩⟩

end Tunio
