import Tunio.Closed
import Tunio.Integrity
import Tunio.Marks

/-!
Where data comes in.  Only a segment with data at `rcv_nxt` feeds the receive side; every
other step is a path of effects that deliver nothing, and each of these effects turns the
inbox in one of a few ways.
-/

namespace Tunio

open Machines

/-- Data that `handle_data` delivers: it starts at `rcv_nxt`, or before it and ends beyond. -/
def InOrder (rcvNxt seq : UInt32) (len : Nat) : Prop :=
  seq = rcvNxt ∨ (seqGt seq rcvNxt = false ∧ seqGt (seq + UInt32.ofNat len) rcvNxt = true)

instance (rcvNxt seq : UInt32) (len : Nat) : Decidable (InOrder rcvNxt seq len) :=
  inferInstanceAs (Decidable (_ ∨ _))

theorem seqGt_asymm {a b : UInt32} (after : seqGt a b = true) : seqGt b a = false := by
  have first := a.toNat_lt
  have second := b.toNat_lt
  rw [seqGt, decide_eq_true_eq, Serial.toInt32_pos, UInt32.toNat_sub] at after
  rw [seqGt, decide_eq_false_iff_not, Serial.toInt32_pos, UInt32.toNat_sub]
  omega

theorem inOrder_skip {rcvNxt seq : UInt32} {len : Nat} (apart : seq ≠ rcvNxt)
    (late : seqGt seq rcvNxt = false) (reaches : seqGt (seq + UInt32.ofNat len) rcvNxt = true) :
    (rcvNxt - seq).toNat < len ∧
      rcvNxt + UInt32.ofNat (len - (rcvNxt - seq).toNat) = seq + UInt32.ofNat len := by
  have here := seq.toNat_lt
  have next := rcvNxt.toNat_lt
  have differ : seq.toNat ≠ rcvNxt.toNat := fun same => apart (UInt32.toNat_inj.mp same)
  rw [seqGt, decide_eq_false_iff_not, Serial.toInt32_pos, UInt32.toNat_sub] at late
  rw [seqGt, decide_eq_true_eq, Serial.toInt32_pos, UInt32.toNat_sub, UInt32.toNat_add,
    UInt32.toNat_ofNat'] at reaches
  have inside : (rcvNxt - seq).toNat < len := by
    rw [UInt32.toNat_sub]
    omega
  refine ⟨inside, ?_⟩
  rw [UInt32.toNat_sub] at inside
  rw [← UInt32.toNat_inj, UInt32.toNat_add, UInt32.toNat_add, UInt32.toNat_ofNat',
    UInt32.toNat_ofNat', UInt32.toNat_sub]
  omega
/-- The state in which `handle_segment` goes on to the data and the FIN of the segment. -/
def Conn.hears (c : Conn) (th : TcpHeader) : Bool :=
  match c.flow.state with
  | .closed | .synRcvd => false
  | .synAckSent =>
      !(hasFlag th.flags tcpSyn && th.seq == c.flow.irs) && hasFlag th.flags tcpAck &&
        th.ack == c.flow.iss + 1
  | _ => true

/-- Nothing before the data of the segment ends its processing: no SYN in TIME_WAIT, no ACK
that closes the flow, no RST. -/
def Conn.takes (c : Conn) (th : TcpHeader) : Bool :=
  c.flow.state != .closed && !(c.flow.state == .timeWait && isSyn th) &&
    (handleAckField c th).2 && !hasFlag th.flags tcpRst && (handleAckField c th).1.hears th

/-- A segment whose data is delivered. -/
def Event.Feeds (c : Conn) : Event → Prop
  | .segment th data =>
      data ≠ [] ∧ InOrder c.flow.rcvNxt th.seq data.length ∧ c.takes th = true
  | _ => False

instance (c : Conn) (event : Event) : Decidable (event.Feeds c) :=
  match event with
  | .segment _ _ => inferInstanceAs (Decidable (_ ∧ _ ∧ _))
  | .read _ _ | .write _ _ | .shutdownSend | .shutdownReceive | .close | .reset | .accept
  | .reject | .handOut | .timer _ | .resume _ | .device _ _ | .ackTimerExpires | .ackTimerRuns
  | .sweep | .closeAll | .elsewhere _ => isFalse id

/-- Effects that deliver nothing and do not end the stream for the application by themselves. -/
def Effect.starves : Effect → Bool
  | .direct _ _ _ | .buffer _ _ | .skip _ => false
  | .close ec | .refuseRead _ ec => decide (ec ≠ .eof)
  | _ => true

/-- A path on which nothing is delivered. -/
abbrev Starves (before after : Conn) : Prop :=
  Steps flowMachine (fun _ effect => effect.starves = true) before after

theorem Unfolds.starves {scope : Scope} {before after : Conn}
    (path : Unfolds 0 scope before after) : Starves before after := by
  refine path.weaken fun c effect ⟨plain, _⟩ => ?_
  cases effect with
  | direct | buffer | skip | refuseRead => cases plain
  | close ec => exact plain
  | _ => rfl

theorem Starves.of {before after : Conn} (path : Unfolds 0 .operation before after) :
    Starves before after := path.starves

theorem Begins.starves {scope : Scope} {begins : Effect → Prop} {before after : Conn}
    (once : Begins 0 scope begins before after)
    (plain : ∀ effect, begins effect → effect.starves = true) : Starves before after := by
  obtain ⟨middle, effect, first, permits, begun, rest⟩ := once
  exact (first.starves.snoc effect permits (plain effect begun)).trans rest.starves

/-! A segment that is not in order. -/

theorem oooAppend_starves (c : Conn) (seq : UInt32) (data : List UInt8) (fin : Bool)
    (past : Past c.flow.state) (early : seqGt seq c.flow.rcvNxt = true) :
    Starves c (oooAppend c seq data fin).1 := by
  have permits : c.Permits (.append seq data fin) := ⟨past, early⟩
  exact Steps.single (Effect.append seq data fin) permits rfl

theorem handleData_starves (c : Conn) (seq : UInt32) (data : List UInt8) (flags : UInt8)
    (past : Past c.flow.state) (aside : ¬InOrder c.flow.rcvNxt seq data.length) :
    Starves c (handleData c seq data flags) := by
  unfold handleData
  rw [if_neg fun same => aside (Or.inl same)]
  split
  · rename_i early
    have appended := oooAppend_starves c seq data (hasFlag flags tcpFin) past early
    have pastAppended := (Quiet.oooAppend c seq data (hasFlag flags tcpFin)).past past
    dsimp only
    split
    · exact appended.trans (Starves.of (Unfolds.countOoo _ pastAppended))
    · exact appended.trans (Starves.of (Unfolds.sendAck _))
  · rename_i late
    dsimp only
    rw [if_neg fun reaches => aside (Or.inr ⟨Bool.eq_false_of_not_eq_true late, reaches⟩)]
    have counted : Starves c (countDropped c) := Starves.of (Unfolds.countDropped c past)
    exact counted.trans (Starves.of (Unfolds.sendAck _))

/-- In-order data is delivered from `rcv_nxt` on, and the cache is flushed. -/
theorem handleData_inOrder (c : Conn) (seq : UInt32) (data : List UInt8) (flags : UInt8)
    (inOrder : InOrder c.flow.rcvNxt seq data.length) :
    ∃ fresh, (data ≠ [] → fresh ≠ []) ∧
      c.flow.rcvNxt + UInt32.ofNat fresh.length = seq + UInt32.ofNat data.length ∧
      handleData c seq data flags = flushOoo (deliverData c fresh) := by
  unfold handleData
  by_cases same : seq = c.flow.rcvNxt
  · exact ⟨data, id, by rw [same], if_pos same⟩
  · obtain ⟨late, reaches⟩ := inOrder.resolve_left same
    obtain ⟨inside, next⟩ := inOrder_skip same late reaches
    refine ⟨data.drop (c.flow.rcvNxt - seq).toNat, fun _ => ?_, ?_, ?_⟩
    · exact List.ne_nil_of_length_pos (by rw [List.length_drop]; omega)
    · rw [List.length_drop]
      exact next
    · dsimp only
      rw [if_neg same, late, if_neg (by decide), if_pos reaches]

theorem handlePayload_starves (c : Conn) (th : TcpHeader) (data : List UInt8)
    (past : Past c.flow.state) (aside : data = [] ∨ ¬InOrder c.flow.rcvNxt th.seq data.length) :
    Starves c (handlePayload c th data) := by
  have taken : Starves c (if data.length > 0 then handleData c th.seq data th.flags else c) := by
    split
    · rename_i filled
      refine handleData_starves c th.seq data th.flags past (aside.resolve_left ?_)
      exact List.length_pos_iff.mp filled
    · exact Steps.refl c
  have pastTaken : Past (if data.length > 0 then handleData c th.seq data th.flags
      else c).flow.state := by
    split
    · exact (Quiet.handleData c th.seq data th.flags).past past
    · exact past
  unfold handlePayload
  dsimp only
  generalize (if data.length > 0 then handleData c th.seq data th.flags else c) = c₁
    at taken pastTaken ⊢
  refine taken.trans (Steps.trans ?_ (Starves.of (Unfolds.signalWrite _)))
  split
  · exact Starves.of (Unfolds.segmentFin c₁ _ _ pastTaken)
  · exact Steps.refl c₁

@[simp] theorem Inbox.flush_rcvNxt (box : Inbox) : box.flush.rcvNxt = box.rcvNxt := by
  unfold Inbox.flush Inbox.eof Inbox.compact
  dsimp only
  repeat' split
  all_goals rfl

theorem completeHandshake_inbox (c : Conn) : (completeHandshake c).inbox = c.inbox.flush := by
  unfold completeHandshake
  rw [flushReads_inbox]
  congr 1
  dsimp only
  split
  · rfl
  · exact notifyAccept_inbox _

theorem completeHandshake_rcvNxt (c : Conn) :
    (completeHandshake c).flow.rcvNxt = c.flow.rcvNxt :=
  (congrArg Inbox.rcvNxt (completeHandshake_inbox c)).trans (Inbox.flush_rcvNxt _)

theorem handleByState_starves (c : Conn) (th : TcpHeader) (data : List UInt8)
    (aside : data = [] ∨ ¬InOrder c.flow.rcvNxt th.seq data.length ∨ c.hears th = false) :
    Starves c (handleByState c th data) := by
  unfold handleByState
  unfold Conn.hears at aside
  split
  · exact Steps.refl c
  · exact Steps.refl c
  · rename_i waiting
    rw [waiting] at aside
    split
    · have permits : c.Permits (.submit c.flow.iss (tcpSyn ||| tcpAck) [] true) :=
        Or.inr ⟨rfl, rfl, rfl, rfl, waiting⟩
      exact Steps.single (Effect.submit c.flow.iss (tcpSyn ||| tcpAck) [] true) permits rfl
    · rename_i first
      split
      · exact Steps.refl c
      · rename_i answers
        have completed : Starves c (completeHandshake c) :=
          Starves.of (Unfolds.completeHandshake c waiting)
        refine completed.trans (handlePayload_starves _ th data (past_completeHandshake c) ?_)
        rw [completeHandshake_rcvNxt]
        refine aside.imp_right fun either => either.resolve_right ?_
        have handshake := not_or.mp answers
        simpa [not_not.mp handshake.1, not_not.mp handshake.2, not_and_or] using first
  · rename_i notClosed notRcvd notSent
    refine handlePayload_starves c th data ⟨notClosed, notRcvd, notSent⟩ ?_
    refine aside.imp_right fun either => either.resolve_right ?_
    simp

theorem receiveSegment_starves (c : Conn) (th : TcpHeader) (data : List UInt8)
    (aside : ¬(Event.segment th data).Feeds c) : Starves c (receiveSegment c th data) := by
  have field : Starves c (handleAckField c th).1 := Starves.of (Unfolds.handleAckField c th)
  have kept := (Aside.handleAckField c th).inbox
  unfold receiveSegment
  split
  · exact Steps.refl c
  · rename_i isOpen
    split
    · exact Starves.of (Unfolds.closeFlow c _ nofun)
    · rename_i stays
      unfold handleSegment
      split
      · rename_i result
        rw [result] at field
        exact field
      · rename_i c₁ result
        rw [result] at field kept
        split
        · have permits : c₁.Permits .resetBy := trivial
          exact field.snoc Effect.resetBy permits rfl
        · rename_i noRst
          refine field.trans (handleByState_starves c₁ th data ?_)
          by_contra all
          push Not at all
          obtain ⟨filled, inOrder, hears⟩ := all
          have hearing : c₁.hears th = true := Bool.eq_true_of_not_eq_false hears
          have open₁ : c₁.flow.state ≠ .closed := by
            intro closed
            unfold Conn.hears at hearing
            rw [closed] at hearing
            cases hearing
          have next : c₁.flow.rcvNxt = c.flow.rcvNxt :=
            congrArg Inbox.rcvNxt (kept.resolve_left open₁)
          refine aside ⟨filled, next ▸ inOrder, ?_⟩
          have late : (c.flow.state == .timeWait && isSyn th) = false := by
            simpa using stays
          simp only [Conn.takes, late, result, hearing, noRst]
          simpa using isOpen

/-- The flow at the data and the FIN of a segment, once its ACK and the handshake are done. -/
def Conn.stage (c : Conn) (th : TcpHeader) : Conn :=
  if (handleAckField c th).1.flow.state = .synAckSent then completeHandshake (handleAckField c th).1
  else (handleAckField c th).1

theorem handleByState_hears (c : Conn) (th : TcpHeader) (data : List UInt8)
    (hears : c.hears th = true) :
    let d := if c.flow.state = .synAckSent then completeHandshake c else c
    Unfolds 0 .operation c d ∧ Past d.flow.state ∧
      (d.inbox = c.inbox ∨ d.inbox = c.inbox.flush) ∧
        handleByState c th data = handlePayload d th data := by
  unfold Conn.hears at hears
  dsimp only
  by_cases waiting : c.flow.state = .synAckSent
  · rw [waiting] at hears
    simp only [Bool.and_eq_true, Bool.not_eq_true', beq_iff_eq, Bool.and_eq_false_iff] at hears
    obtain ⟨⟨first, acked⟩, answers⟩ := hears
    rw [if_pos waiting]
    have completed : Unfolds 0 .operation c (completeHandshake c) :=
      Unfolds.completeHandshake c waiting
    refine ⟨completed, past_completeHandshake c, Or.inr (completeHandshake_inbox c), ?_⟩
    unfold handleByState
    rw [waiting]
    dsimp only
    rw [if_neg, if_neg]
    · simp [acked, answers]
    · rintro ⟨syn, same⟩
      rcases first with noSyn | other
      · exact absurd (noSyn.symm.trans syn) (by decide)
      · exact absurd same (by simpa using other)
  · rw [if_neg waiting]
    have past : Past c.flow.state := by
      refine ⟨fun closed => ?_, fun fresh => ?_, waiting⟩
      · rw [closed] at hears
        cases hears
      · rw [fresh] at hears
        cases hears
    refine ⟨Steps.refl c, past, Or.inl rfl, ?_⟩
    unfold handleByState
    split
    · exact absurd ‹_› past.1
    · exact absurd ‹_› past.2.1
    · exact absurd ‹_› past.2.2
    · rfl

/-- What comes before the data and the FIN of a segment whose data is taken. -/
theorem receiveSegment_takes (c : Conn) (th : TcpHeader) (data : List UInt8)
    (takes : c.takes th = true) :
    Unfolds 0 .operation c (c.stage th) ∧ Past (c.stage th).flow.state ∧
      ((c.stage th).inbox = c.inbox ∨ (c.stage th).inbox = c.inbox.flush) ∧
        receiveSegment c th data = handlePayload (c.stage th) th data := by
  have field : Unfolds 0 .operation c (handleAckField c th).1 := Unfolds.handleAckField c th
  have kept := (Aside.handleAckField c th).inbox
  simp only [Conn.takes, Bool.and_eq_true, Bool.not_eq_true', bne_iff_ne] at takes
  obtain ⟨⟨⟨⟨isOpen, stays⟩, continues⟩, noRst⟩, hears⟩ := takes
  have late : ¬(c.flow.state = .timeWait ∧ isSyn th = true) := by
    rintro ⟨waiting, syn⟩
    rw [waiting, syn] at stays
    cases stays
  obtain ⟨path, past, inbox, same⟩ := handleByState_hears (handleAckField c th).1 th data hears
  change Unfolds 0 .operation _ (c.stage th) at path
  change Past (c.stage th).flow.state at past
  change _ = handlePayload (c.stage th) th data at same
  change (c.stage th).inbox = _ ∨ (c.stage th).inbox = _ at inbox
  have open₁ : (handleAckField c th).1.flow.state ≠ .closed := by
    intro closed
    unfold Conn.hears at hears
    rw [closed] at hears
    cases hears
  rw [kept.resolve_left open₁] at inbox
  refine ⟨field.trans path, past, inbox, ?_⟩
  unfold receiveSegment
  rw [if_neg isOpen, if_neg late]
  unfold handleSegment
  split
  · rename_i result
    rw [result] at continues
    cases continues
  · rename_i result
    rw [result] at same
    rw [noRst, if_neg (by decide)]
    exact same

theorem handleAckField_closes (c : Conn) (th : TcpHeader) (ended : (handleAckField c th).2 = false) :
    (handleAckField c th).1.flow.state = .closed := by
  have confirmed (c : Conn) (ack : UInt32) (ended : (confirmFin c ack).2 = false) :
      (confirmFin c ack).1.flow.state = .closed := by
    unfold confirmFin at ended ⊢
    split at ended
    · split at ended <;> cases ended
    · rename_i first
      rw [if_neg first]
      split at ended
      · rename_i last
        rw [if_pos last]
        exact closeFlow_state c _
      · cases ended
  unfold handleAckField at ended ⊢
  split at ended
  · rename_i acked
    rw [if_pos acked]
    split at ended
    · rename_i result
      have closes := confirmed _ th.ack (congrArg Prod.snd result)
      change (handleAck c th.ack).1.flow.state = _ at closes
      rw [result] at closes
      exact closes
    · cases ended
  · cases ended

/-- A segment whose data and FIN are not looked at closes the flow or leaves its inbox alone. -/
theorem receiveSegment_untaken (c : Conn) (th : TcpHeader) (data : List UInt8)
    (untaken : c.takes th = false) :
    (receiveSegment c th data).flow.state = .closed ∨ (receiveSegment c th data).inbox = c.inbox := by
  have kept := Aside.handleAckField c th
  have closes := handleAckField_closes c th
  unfold receiveSegment
  split
  · exact Or.inr rfl
  · rename_i isOpen
    split
    · exact Or.inl (closeFlow_state c _)
    · rename_i stays
      unfold handleSegment
      split
      · rename_i result
        rw [result] at closes
        exact Or.inl (closes rfl)
      · rename_i c₁ result
        rw [result] at kept
        split
        · exact Or.inl (closeFlow_state _ _)
        · rename_i noRst
          have deaf : c₁.hears th = false := by
            by_contra hears
            have late : (c.flow.state == .timeWait && isSyn th) = false := by simpa using stays
            simp only [Conn.takes, late, result, noRst, Bool.eq_true_of_not_eq_false hears] at untaken
            simp [isOpen] at untaken
          rcases kept.inbox with closed | same
          · rw [handleByState_closed c₁ th data closed]
            exact Or.inl closed
          · rw [← same]
            unfold Conn.hears at deaf
            unfold handleByState
            split
            · exact Or.inr rfl
            · exact Or.inr rfl
            · rename_i waiting
              rw [waiting] at deaf
              split
              · exact Or.inr (sendSegment_inbox c₁ _ _ _ _)
              · rename_i first
                rw [if_pos]
                · exact Or.inr rfl
                · by_contra answers
                  have handshake := not_or.mp answers
                  simp [not_not.mp handshake.1, not_not.mp handshake.2] at deaf
                  exact first ⟨deaf.1, deaf.2⟩
            · rename_i notClosed notRcvd notSent
              simp at deaf

theorem handleByState_deaf (c : Conn) (th : TcpHeader) (data : List UInt8)
    (deaf : c.hears th = false) : handleByState c th data = handleByState c th [] := by
  unfold Conn.hears at deaf
  unfold handleByState
  split
  · rfl
  · rfl
  · rename_i waiting
    rw [waiting] at deaf
    split
    · rfl
    · rename_i first
      have unanswered : ¬hasFlag th.flags tcpAck = true ∨ th.ack ≠ c.flow.iss + 1 := by
        by_contra answers
        have handshake := not_or.mp answers
        simp [not_not.mp handshake.1, not_not.mp handshake.2] at deaf
        exact first ⟨deaf.1, deaf.2⟩
      rw [if_pos unanswered, if_pos unanswered]
  · simp at deaf

/-- What such a segment does does not depend on its data. -/
theorem receiveSegment_deaf (c : Conn) (th : TcpHeader) (data : List UInt8)
    (untaken : c.takes th = false) : receiveSegment c th data = receiveSegment c th [] := by
  unfold receiveSegment
  split
  · rfl
  · rename_i isOpen
    split
    · rfl
    · rename_i stays
      unfold handleSegment
      split
      · rfl
      · rename_i c₁ result
        split
        · rfl
        · rename_i noRst
          refine handleByState_deaf c₁ th data ?_
          by_contra hears
          have late : (c.flow.state == .timeWait && isSyn th) = false := by simpa using stays
          simp only [Conn.takes, late, result, noRst, Bool.eq_true_of_not_eq_false hears] at untaken
          simp [isOpen] at untaken

theorem receiveSegment_unfolds (c : Conn) (th : TcpHeader) (data : List UInt8)
    (untaken : c.takes th = false) : Unfolds 0 .operation c (receiveSegment c th data) := by
  rw [receiveSegment_deaf c th data untaken]
  exact Unfolds.receiveSegment c th [] (Nat.le_refl 0)

theorem step_starves (c : Conn) (event : Event) (aside : ¬event.Feeds c) :
    Starves c (step c event) := by
  cases size : event.size with
  | zero =>
      have evolves : Evolves 0 c (step c event) event := step_evolves c event (Nat.le_of_eq size)
      cases event with
      | read buffers handler =>
          have opens : Begins 0 .operation (Effect.opensRead handler) c
              (doReadSome c buffers handler) := tcpFlowStartRead_opens c buffers _ handler
          refine opens.starves fun effect begun => ?_
          cases effect with
          | startRead => rfl
          | refuseRead => exact decide_eq_true begun.2
          | _ => exact begun.elim
      | write buffers handler =>
          refine Begins.starves evolves fun effect begun => ?_
          cases effect <;> first | rfl | exact begun.elim
      | elsewhere eng =>
          have permits : c.Permits (.elsewhere eng) := trivial
          exact Steps.single (Effect.elsewhere eng) permits rfl
      | _ => exact Unfolds.starves evolves
  | succ =>
      cases event with
      | segment th data => exact receiveSegment_starves c th data aside
      | _ => cases size

/-! What an effect does to the inbox. -/

namespace Inbox

def emptied (box : Inbox) : Inbox :=
  { box with rxData := [], rxHead := 0, rxBytes := 0, oooCache := ∅ }

def refuse (box : Inbox) (handler : HandlerId) (ec : ErrorCode) : Inbox :=
  { box with reads := box.reads ++ [{ handler := handler, ec := ec, n := 0, data := [] }] }

def complete (box : Inbox) (op : Option ReadOp) (ec : ErrorCode) : Inbox :=
  match op with
  | some op => box.refuse op.handler ec
  | none => box

/-- Closing: the read in progress ends with `ec`, and everything queued is dropped. -/
def closed (box : Inbox) (ec : ErrorCode) : Inbox :=
  { box.emptied with activeRead := none }.complete box.activeRead ec

/-- One change of the inbox that brings nothing in. -/
inductive Turns (box : Inbox) : Inbox → Prop
  | same : Turns box box
  | cache (cache : OooCache) : Turns box { box with oooCache := cache }
  | start (op : ReadOp) : Turns box { box with activeRead := some op }
  | refuse (handler : HandlerId) (ec : ErrorCode) : ec ≠ .eof → Turns box (box.refuse handler ec)
  | cancel (op : ReadOp) : Turns box (box.post op .operationAborted 0 [])
  | serve (op : ReadOp) : box.rxBytes > 0 → Turns box (box.serve op)
  | compact : Turns box box.compact
  | eof (op : ReadOp) : box.rxBytes = 0 → box.finReceived = true → Turns box (box.post op .eof 0 [])
  | fin : Turns box box.takeFin
  | shut : Turns box { box with rxShutdown := true }
  | drop : Turns box box.emptied
  | close (ec : ErrorCode) : ec ≠ .eof → Turns box (box.closed ec)

end Inbox

theorem dropReceived_inbox (c : Conn) : (dropReceived c).inbox = c.inbox.emptied := by
  unfold dropReceived
  dsimp only
  split <;> split <;> rfl

theorem completeRead_inbox (c : Conn) (op : Option ReadOp) (ec : ErrorCode) :
    (completeRead c op ec).inbox = c.inbox.complete op ec := by
  cases op <;> rfl

theorem completeWrite_inbox (c : Conn) (op : Option WriteOp) (ec : ErrorCode) :
    (completeWrite c op ec).inbox = c.inbox := by
  cases op <;> rfl

theorem closeWriteCh_inbox (c : Conn) : (closeWriteCh c).inbox = c.inbox := by
  unfold closeWriteCh
  split <;> rfl

theorem closeFlow_inbox (c : Conn) (err : ErrorCode) (isOpen : c.flow.state ≠ .closed) :
    (closeFlow c err).inbox = c.inbox.closed err := by
  have withdrawn : (withdrawAccept (cancelAckTimer c)).inbox = c.inbox := by
    unfold withdrawAccept cancelAckTimer
    split <;> split <;> rfl
  have detached (c : Conn) : (detachFlow (uncountFlow c)).inbox = c.inbox := by
    unfold detachFlow uncountFlow
    split <;> rfl
  unfold closeFlow
  rw [if_neg isOpen]
  dsimp only
  rw [completeWrite_inbox, completeRead_inbox, closeWriteCh_inbox]
  generalize withdrawAccept (cancelAckTimer c) = c₁ at withdrawn ⊢
  rw [detached, dropReceived_inbox, ← withdrawn]
  rfl

theorem abortFlow_inbox (c : Conn) (isOpen : c.flow.state ≠ .closed) :
    (abortFlow c).inbox = c.inbox.closed .connectionReset := by
  have sent := sendSegment_inbox c c.flow.sndNxt (tcpRst ||| tcpAck) [] false
  have stillOpen := sendSegment_state c c.flow.sndNxt (tcpRst ||| tcpAck) [] false
  unfold abortFlow
  rw [if_neg isOpen, ← sent]
  exact closeFlow_inbox { sendSegment c c.flow.sndNxt (tcpRst ||| tcpAck) [] false with
    flow.rst := true } .connectionReset (by rwa [stillOpen])

open Inbox

theorem closeFlow_turns (c : Conn) (err : ErrorCode) (proper : err ≠ .eof) :
    Turns c.inbox (closeFlow c err).inbox := by
  by_cases closed : c.flow.state = .closed
  · rw [closeFlow_closed c err closed]
    exact .same
  · rw [closeFlow_inbox c err closed]
    exact .close err proper

theorem abortFlow_turns (c : Conn) : Turns c.inbox (abortFlow c).inbox := by
  by_cases closed : c.flow.state = .closed
  · rw [abortFlow_closed c closed]
    exact .same
  · rw [abortFlow_inbox c closed]
    exact .close _ nofun

theorem Inbox.Turns.of_eq {before after : Inbox} (same : after = before) : Turns before after := by
  rw [same]
  exact .same

/-- An effect that delivers nothing turns the inbox. -/
theorem apply_turns (c : Conn) (effect : Effect) (permits : c.Permits effect)
    (starves : effect.starves = true) : Turns c.inbox (c.apply effect).inbox := by
  cases effect with
  | direct | buffer | skip => cases starves
  | submit seq flags payload withMss => exact Turns.of_eq (sendSegment_inbox c _ _ _ _)
  | next inFlight =>
      refine Turns.of_eq ?_
      unfold Conn.apply
      dsimp only
      split
      · unfold buildNextSegment
        dsimp only
        split
        · rfl
        · split <;> rfl
      · rfl
  | accept =>
      refine Turns.of_eq ?_
      change (acceptFlow c).inbox = c.inbox
      unfold acceptFlow
      split
      · rfl
      · exact sendSegment_inbox c _ _ _ _
  | notify => exact Turns.of_eq (notifyAccept_inbox c)
  | handOut =>
      refine Turns.of_eq ?_
      change (handOut c).inbox = c.inbox
      unfold handOut
      dsimp only
      split
      · split <;> rfl
      · rfl
  | fin =>
      exact Turns.of_eq (sendSegment_inbox { c with
        flow.finSent := true
        flow.state := c.flow.state.finished
        flow.closeStartedAt := c.eng.now } _ _ _ _)
  | giveUp => exact abortFlow_turns { c with flow.finSent := true }
  | abort => exact abortFlow_turns c
  | resetBy => exact closeFlow_turns { c with flow.rst := true } _ nofun
  | close err => exact closeFlow_turns c err (of_decide_eq_true starves)
  | finAcked =>
      refine Turns.of_eq ?_
      unfold Conn.apply
      dsimp only
      split <;> rfl
  | probeAck ack =>
      refine Turns.of_eq ?_
      change (acceptProbe c ack).inbox = c.inbox
      unfold acceptProbe
      dsimp only
      split
      · split <;> rfl
      · rfl
  | takeFin =>
      change Turns c.inbox (finState (sendAck (takeFin c))).inbox
      rw [finState_inbox, sendAck_inbox, takeFin_inbox]
      exact .fin
  | serve op => exact .serve op permits.2
  | compact =>
      change Turns c.inbox (compactRx c).inbox
      rw [compactRx_inbox]
      exact .compact
  | eof op => exact .eof op permits.2.1 permits.2.2
  | append seq data fin =>
      change Turns c.inbox (oooAppend c seq data fin).1.inbox
      rw [oooAppend_inbox]
      exact .cache _
  | discard key seg =>
      change Turns c.inbox (discardOoo c key seg).inbox
      rw [discardOoo_inbox]
      exact .cache _
  | remove key seg => exact .cache _
  | startRead op => exact .start op
  | refuseRead handler ec => exact .refuse handler ec (of_decide_eq_true starves)
  | cancelRead op => exact .cancel op
  | shutReceive => exact .shut
  | drop =>
      change Turns c.inbox (dropReceived c).inbox
      rw [dropReceived_inbox]
      exact .drop
  | closeChannel => exact Turns.of_eq (closeWriteCh_inbox c)
  | ackTimerExpires =>
      refine Turns.of_eq ?_
      change (ackTimerExpires c).inbox = c.inbox
      unfold ackTimerExpires
      split
      · split <;> rfl
      · rfl
  | ackTimerRuns =>
      refine Turns.of_eq ?_
      change (ackTimerRuns c).inbox = c.inbox
      unfold ackTimerRuns
      split
      · split
        · dsimp only
          split
          · rfl
          · exact sendAck_inbox _
        · rfl
      · rfl
  | _ => exact .same

/-- What every turn of the inbox keeps, a path that delivers nothing keeps. -/
theorem Starves.turns {before after : Conn} (path : Starves before after) (holds : Inbox → Prop)
    (keeps : ∀ box next, holds box → Turns box next → holds next) (start : holds before.inbox) :
    holds after.inbox :=
  path.invariant (fun c => holds c.inbox) start fun c effect here permits starves =>
    keeps c.inbox _ here (apply_turns c effect permits starves)

/-! What a segment keeps. -/

/-- A property of the inbox that deliveries, FINs and flushes keep. -/
structure Inbox.Keeps (holds : Inbox → Prop) : Prop where
  cache : ∀ box cache, holds box → holds { box with oooCache := cache }
  flush : ∀ box, holds box → holds box.flush
  fin : ∀ box, holds box → holds box.takeFin.flush
  deliver : ∀ c data, c.flow.state ≠ .closed → holds c.inbox → holds (deliverData c data).inbox

theorem Inbox.flush_of_turns {holds : Inbox → Prop}
    (keeps : ∀ box next, holds box → Turns box next → holds next) (box : Inbox) (here : holds box) :
    holds box.flush := by
  have ended (box : Inbox) (here : holds box) : holds box.eof := by
    unfold Inbox.eof
    split
    · split
      · rename_i drained
        exact keeps _ _ here (.eof _ drained.1 drained.2)
      · exact here
    · exact here
  unfold Inbox.flush
  refine ended _ (keeps _ _ ?_ .compact)
  split
  · split
    · rename_i queued
      exact keeps _ _ here (.serve _ queued)
    · exact here
  · exact here

theorem Inbox.Keeps.of_turns {holds : Inbox → Prop}
    (keeps : ∀ box next, holds box → Turns box next → holds next)
    (deliver : ∀ c data, c.flow.state ≠ .closed → holds c.inbox → holds (deliverData c data).inbox) :
    Inbox.Keeps holds where
  cache _ cache here := keeps _ _ here (.cache cache)
  flush box here := Inbox.flush_of_turns keeps box here
  fin box here := Inbox.flush_of_turns keeps _ (keeps box _ here .fin)
  deliver := deliver

namespace Inbox.Keeps

variable {holds : Inbox → Prop} (keeps : Inbox.Keeps holds) {c : Conn}

include keeps

theorem handleFin (here : holds c.inbox) (finSeq : UInt32) : holds (handleFin c finSeq).inbox := by
  rw [handleFin_inbox]
  unfold Inbox.fin
  split
  · exact keeps.fin _ here
  · exact here

theorem finOoo (here : holds c.inbox) (key : UInt32) (seg : OooSegment) :
    holds (finOoo c key seg).inbox := by
  unfold Tunio.finOoo
  split
  · exact keeps.handleFin here _
  · exact here

theorem pruneOoo (here : holds c.inbox) (entries : List (UInt32 × OooSegment)) (pruned : Bool) :
    holds (pruneOoo entries c pruned).1.inbox := by
  induction entries generalizing c pruned with
  | nil => exact here
  | cons entry rest ih =>
      unfold Tunio.pruneOoo
      split
      · exact ih here pruned
      · have finished := keeps.finOoo here entry.1 entry.2
        dsimp only
        split
        · exact finished
        · refine ih ?_ true
          rw [discardOoo_inbox]
          exact keeps.cache _ _ finished

theorem deliverOoo (fuel : Nat) (past : Past c.flow.state) (here : holds c.inbox) (delivered : Bool) :
    holds (deliverOoo fuel c delivered).1.inbox := by
  induction fuel generalizing c delivered with
  | zero => exact here
  | succ fuel ih =>
      unfold Tunio.deliverOoo
      split
      · exact here
      · rename_i key seg ready
        have taken : holds (takeOoo c key seg).inbox := by
          rw [takeOoo_inbox]
          exact keeps.cache _ _ here
        have pastTaken := (Quiet.takeOoo c key seg).past past
        have fresh : holds (deliverFresh (takeOoo c key seg) key seg).inbox := by
          unfold deliverFresh
          dsimp only
          split
          · exact keeps.deliver _ _ pastTaken.1 taken
          · exact taken
        have finished := keeps.finOoo fresh key seg
        have pastFresh := (Quiet.deliverFresh (takeOoo c key seg) key seg).past pastTaken
        dsimp only
        split
        · exact finished
        · exact ih ((Quiet.finOoo _ key seg).past pastFresh) finished true

theorem flushOoo (past : Past c.flow.state) (here : holds c.inbox) : holds (flushOoo c).inbox := by
  have pruned := keeps.pruneOoo here c.flow.oooCache.toList false
  have pastPruned := (Quiet.pruneOoo c.flow.oooCache.toList c false).past past
  unfold Tunio.flushOoo
  split
  · rename_i result
    rw [result] at pruned
    exact pruned
  · rename_i c₁ _ result
    rw [result] at pruned pastPruned
    have counted : holds (countCached c₁).inbox := pruned
    have pastCounted : Past (countCached c₁).flow.state := pastPruned
    have delivered := keeps.deliverOoo (c₁.flow.oooCache.size + 1) pastCounted counted false
    split
    · rename_i result
      rw [result] at delivered
      exact delivered
    · rename_i result
      rw [result] at delivered
      rw [announceOoo_inbox]
      exact delivered

theorem handleData (past : Past c.flow.state) (here : holds c.inbox) (seq : UInt32)
    (data : List UInt8) (flags : UInt8) : holds (handleData c seq data flags).inbox := by
  have appended : holds (oooAppend c seq data (hasFlag flags tcpFin)).1.inbox := by
    rw [oooAppend_inbox]
    exact keeps.cache _ _ here
  by_cases inOrder : InOrder c.flow.rcvNxt seq data.length
  · obtain ⟨fresh, _, _, same⟩ := handleData_inOrder c seq data flags inOrder
    rw [same]
    exact keeps.flushOoo ((Quiet.deliverData c fresh).past past) (keeps.deliver c fresh past.1 here)
  · unfold Tunio.handleData
    rw [if_neg fun start => inOrder (Or.inl start)]
    split
    · dsimp only
      split
      · exact appended
      · rw [sendAck_inbox]
        exact appended
    · rename_i late
      dsimp only
      rw [if_neg fun reaches => inOrder (Or.inr ⟨Bool.eq_false_of_not_eq_true late, reaches⟩),
        sendAck_inbox]
      exact here

theorem segmentFin (here : holds c.inbox) (finSeq : UInt32) (len : Nat) :
    holds (segmentFin c finSeq len).inbox := by
  have appended : holds (oooAppend c finSeq [] true).1.inbox := by
    rw [oooAppend_inbox]
    exact keeps.cache _ _ here
  unfold Tunio.segmentFin
  split
  · dsimp only
    split
    · exact appended
    · rw [sendAck_inbox]
      exact appended
  · exact keeps.handleFin here _

theorem handlePayload (past : Past c.flow.state) (here : holds c.inbox) (th : TcpHeader)
    (data : List UInt8) : holds (handlePayload c th data).inbox := by
  have taken : holds (if data.length > 0 then Tunio.handleData c th.seq data th.flags else c).inbox := by
    split
    · exact keeps.handleData past here th.seq data th.flags
    · exact here
  unfold Tunio.handlePayload
  dsimp only
  rw [signalWrite_inbox]
  split
  · exact keeps.segmentFin taken _ _
  · exact taken

/-- A segment keeps the property if it is processed at all and does not close the flow. -/
theorem receiveSegment (here : holds c.inbox) (th : TcpHeader) (data : List UInt8) :
    (receiveSegment c th data).flow.state = .closed ∨ holds (receiveSegment c th data).inbox := by
  cases takes : c.takes th with
  | false =>
      refine (receiveSegment_untaken c th data takes).imp_right fun same => ?_
      rwa [same]
  | true =>
      obtain ⟨_, past, inbox, same⟩ := receiveSegment_takes c th data takes
      generalize c.stage th = d at *
      rw [same]
      refine Or.inr (keeps.handlePayload past ?_ th data)
      rcases inbox with kept | flushed
      · rwa [kept]
      · rw [flushed]
        exact keeps.flush _ here

end Inbox.Keeps

end Tunio
