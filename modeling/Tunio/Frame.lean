import Tunio.Run

/-!
Receiving is quiet for the sender: it submits bare acknowledgements and at most
records that the peer has finished.
-/

namespace Tunio

/-- The fields of a flow that only the sending half and its control operations change. -/
structure SendView where
  key : FiveTuple
  sndNxt : UInt32
  sndUna : UInt32
  iss : UInt32
  peerWnd : UInt32
  sndWndScale : UInt8
  finSent : Bool
  finPending : Bool
  rst : Bool
  appClosed : Bool
  probeInFlight : Bool
  activeWrite : Option WriteOp

def TcpFlow.send (flow : TcpFlow) : SendView := {
  key := flow.key
  sndNxt := flow.sndNxt
  sndUna := flow.sndUna
  iss := flow.iss
  peerWnd := flow.peerWnd
  sndWndScale := flow.sndWndScale
  finSent := flow.finSent
  finPending := flow.finPending
  rst := flow.rst
  appClosed := flow.appClosed
  probeInFlight := flow.probeInFlight
  activeWrite := flow.activeWrite
}

@[simp] theorem sendSegment_send (c : Conn) (seq : UInt32) (flags : UInt8)
    (payload : List UInt8) (withMss : Bool) :
    (sendSegment c seq flags payload withMss).flow.send = c.flow.send := by
  unfold sendSegment
  split <;> rfl

/-- The changes of state that receiving a FIN makes. -/
def Drift (before after : TcpState) : Prop :=
  after = before ∨ (before = .established ∧ after = .closeWait) ∨
    (before = .finWait2 ∧ after = .timeWait)

theorem Drift.trans {first second third : TcpState} (one : Drift first second)
    (two : Drift second third) : Drift first third := by
  unfold Drift at *
  rcases one with rfl | ⟨rfl, rfl⟩ | ⟨rfl, rfl⟩
  · exact two
  · simp_all
  · simp_all

theorem Drift.closed_iff {before after : TcpState} (drift : Drift before after) :
    after = .closed ↔ before = .closed := by
  rcases drift with rfl | ⟨rfl, rfl⟩ | ⟨rfl, rfl⟩ <;> simp

def PureAck (sndNxt : UInt32) (segment : Segment) : Prop :=
  segment.seq = sndNxt ∧ segment.flags = tcpAck ∧ segment.payload = []

structure Quiet (before after : Conn) : Prop where
  send : after.flow.send = before.flow.send
  drift : Drift before.flow.state after.flow.state
  out : ∃ acks, after.out = before.out ++ acks ∧ ∀ ack ∈ acks, PureAck before.flow.sndNxt ack
  writes : after.writes = before.writes
  cfg : after.eng.cfg = before.eng.cfg

namespace Quiet

theorem of_eq {before after : Conn} (send : after.flow.send = before.flow.send)
    (state : after.flow.state = before.flow.state) (out : after.out = before.out)
    (writes : after.writes = before.writes) (cfg : after.eng.cfg = before.eng.cfg) :
    Quiet before after :=
  ⟨send, Or.inl state, ⟨[], by simp [out]⟩, writes, cfg⟩

theorem refl (c : Conn) : Quiet c c := of_eq rfl rfl rfl rfl rfl

theorem sndNxt {before after : Conn} (quiet : Quiet before after) :
    after.flow.sndNxt = before.flow.sndNxt := congrArg SendView.sndNxt quiet.send

theorem trans {first second third : Conn} (one : Quiet first second) (two : Quiet second third) :
    Quiet first third := by
  obtain ⟨acks, outOne, pureOne⟩ := one.out
  obtain ⟨more, outTwo, pureTwo⟩ := two.out
  refine ⟨two.send.trans one.send, one.drift.trans two.drift, ⟨acks ++ more, ?_, ?_⟩,
    two.writes.trans one.writes, two.cfg.trans one.cfg⟩
  · rw [outTwo, outOne, List.append_assoc]
  intro ack member
  rcases List.mem_append.mp member with inFirst | inSecond
  · exact pureOne ack inFirst
  · rw [← one.sndNxt]
    exact pureTwo ack inSecond

theorem sendAck (c : Conn) : Quiet c (sendAck c) := by
  unfold Tunio.sendAck sendSegment
  split
  · exact refl c
  · exact ⟨rfl, Or.inl rfl, ⟨[_], rfl, by simp [PureAck, buildSegment]⟩, rfl, rfl⟩

theorem noteDataAck (c : Conn) : Quiet c (noteDataAck c) := by
  unfold Tunio.noteDataAck
  split
  · exact sendAck c
  · exact of_eq rfl rfl rfl rfl rfl

theorem flushPendingAck (c : Conn) : Quiet c (flushPendingAck c) := by
  unfold Tunio.flushPendingAck
  split
  · exact sendAck c
  · exact refl c

theorem notifyWindowUpdated (c : Conn) : Quiet c (notifyWindowUpdated c) := by
  unfold Tunio.notifyWindowUpdated
  split
  · exact refl c
  · dsimp only
    split
    · exact (sendAck c).trans (of_eq rfl rfl rfl rfl rfl)
    · exact of_eq rfl rfl rfl rfl rfl

theorem countDropped (c : Conn) : Quiet c (countDropped c) := of_eq rfl rfl rfl rfl rfl

theorem countOoo (c : Conn) : Quiet c (countOoo c) := of_eq rfl rfl rfl rfl rfl

theorem releaseBytes (c : Conn) (n : Nat) : Quiet c (releaseBytes c n) :=
  of_eq rfl rfl rfl rfl rfl

theorem postRead (c : Conn) (handler : HandlerId) (ec : ErrorCode) (n : Nat)
    (data : List (List UInt8)) : Quiet c (postRead c handler ec n data) :=
  of_eq rfl rfl rfl rfl rfl

theorem completeRead (c : Conn) (op : Option ReadOp) (ec : ErrorCode) :
    Quiet c (completeRead c op ec) := by
  cases op with
  | none => exact refl c
  | some op => exact postRead c op.handler ec 0 []

theorem serveRead (c : Conn) (op : ReadOp) : Quiet c (serveRead c op) := by
  unfold Tunio.serveRead
  refine trans ?_ (flushPendingAck _)
  refine trans ?_ (notifyWindowUpdated _)
  exact of_eq rfl rfl rfl rfl rfl

theorem compactRx (c : Conn) : Quiet c (compactRx c) := by
  unfold Tunio.compactRx
  split
  · exact of_eq rfl rfl rfl rfl rfl
  · exact refl c

theorem deliverEof (c : Conn) : Quiet c (deliverEof c) := by
  unfold Tunio.deliverEof
  split
  · split
    · exact of_eq rfl rfl rfl rfl rfl
    · exact refl c
  · exact refl c

theorem flushReads (c : Conn) : Quiet c (flushReads c) := by
  unfold Tunio.flushReads
  refine trans ?_ ((compactRx _).trans (deliverEof _))
  split
  · split
    · exact serveRead c _
    · exact refl c
  · exact refl c

theorem takeFin (c : Conn) : Quiet c (takeFin c) := by
  unfold Tunio.takeFin
  split
  · exact refl c
  · exact of_eq rfl rfl rfl rfl rfl

theorem finState (c : Conn) : Quiet c (finState c) := by
  unfold Tunio.finState
  split
  · rename_i state
    exact ⟨rfl, Or.inr (Or.inl ⟨state, rfl⟩), ⟨[], by simp⟩, rfl, rfl⟩
  · rename_i state
    exact ⟨rfl, Or.inr (Or.inr ⟨state, rfl⟩), ⟨[], by simp⟩, rfl, rfl⟩
  · exact refl c

theorem handleFin (c : Conn) (finSeq : UInt32) : Quiet c (handleFin c finSeq) := by
  unfold Tunio.handleFin
  split
  · exact (takeFin c).trans ((sendAck _).trans ((finState _).trans (flushReads _)))
  · split
    · exact sendAck c
    · exact refl c

theorem fillRead (c : Conn) (op : ReadOp) (data : List UInt8) :
    Quiet c (fillRead c op data) := by
  unfold Tunio.fillRead
  dsimp only
  split
  · exact of_eq rfl rfl rfl rfl rfl
  · exact of_eq rfl rfl rfl rfl rfl

theorem deliverDirect (c : Conn) (op : ReadOp) (data : List UInt8) :
    Quiet c (deliverDirect c op data) := by
  have filled := fillRead c op data
  unfold Tunio.deliverDirect
  dsimp only
  split
  · exact filled
  · split
    · exact (filled.trans (flushReads _)).trans (sendAck _)
    · exact filled.trans (sendAck _)

theorem deliverBuffered (c : Conn) (data : List UInt8) : Quiet c (deliverBuffered c data) := by
  unfold Tunio.deliverBuffered
  refine trans ?_ (flushReads _)
  refine trans ?_ (noteDataAck _)
  exact of_eq rfl rfl rfl rfl rfl

theorem placeData (c : Conn) (data : List UInt8) : Quiet c (placeData c data) := by
  unfold Tunio.placeData
  split
  · exact deliverDirect c _ data
  · exact deliverBuffered c data

theorem deliverData (c : Conn) (data : List UInt8) : Quiet c (deliverData c data) := by
  unfold Tunio.deliverData
  split
  · exact refl c
  · split
    · refine trans ?_ (sendAck _)
      exact of_eq rfl rfl rfl rfl rfl
    · split
      · exact countDropped c
      · refine trans ?_ (placeData _ data)
        exact of_eq rfl rfl rfl rfl rfl

theorem appendFin (c : Conn) (seq : UInt32) : Quiet c (appendFin c seq).1 := by
  unfold Tunio.appendFin
  split
  · exact refl c
  · exact of_eq rfl rfl rfl rfl rfl
  · split
    · exact countDropped c
    · exact of_eq rfl rfl rfl rfl rfl

theorem appendData (c : Conn) (seq : UInt32) (data : List UInt8) (fin : Bool) :
    Quiet c (appendData c seq data fin).1 := by
  unfold Tunio.appendData
  dsimp only
  split
  · split
    · exact refl c
    · split
      · exact refl c
      · exact of_eq rfl rfl rfl rfl rfl
  · split
    · exact countDropped c
    · exact of_eq rfl rfl rfl rfl rfl

theorem oooAppend (c : Conn) (seq : UInt32) (data : List UInt8) (fin : Bool) :
    Quiet c (oooAppend c seq data fin).1 := by
  unfold Tunio.oooAppend
  split
  · split
    · exact appendFin c seq
    · exact refl c
  · exact appendData c seq data fin

theorem finOoo (c : Conn) (key : UInt32) (seg : OooSegment) : Quiet c (finOoo c key seg) := by
  unfold Tunio.finOoo
  split
  · exact handleFin c _
  · exact refl c

theorem discardOoo (c : Conn) (key : UInt32) (seg : OooSegment) :
    Quiet c (discardOoo c key seg) := by
  unfold Tunio.discardOoo
  dsimp only
  split
  · exact of_eq rfl rfl rfl rfl rfl
  · exact of_eq rfl rfl rfl rfl rfl

theorem pruneOoo (entries : List (UInt32 × OooSegment)) (c : Conn) (pruned : Bool) :
    Quiet c (pruneOoo entries c pruned).1 := by
  induction entries generalizing c pruned with
  | nil => exact refl c
  | cons entry rest ih =>
      unfold Tunio.pruneOoo
      split
      · exact ih c pruned
      · dsimp only
        split
        · exact finOoo c _ _
        · exact (finOoo c _ _).trans ((discardOoo _ _ _).trans (ih _ _))

theorem takeOoo (c : Conn) (key : UInt32) (seg : OooSegment) : Quiet c (takeOoo c key seg) := by
  unfold Tunio.takeOoo
  refine trans ?_ (notifyWindowUpdated _)
  exact of_eq rfl rfl rfl rfl rfl

theorem deliverFresh (c : Conn) (key : UInt32) (seg : OooSegment) :
    Quiet c (deliverFresh c key seg) := by
  unfold Tunio.deliverFresh
  dsimp only
  split
  · exact deliverData c _
  · exact refl c

theorem deliverOoo (fuel : Nat) (c : Conn) (delivered : Bool) :
    Quiet c (deliverOoo fuel c delivered).1 := by
  induction fuel generalizing c delivered with
  | zero => exact refl c
  | succ fuel ih =>
      unfold Tunio.deliverOoo
      split
      · exact refl c
      · rename_i key seg _
        have round := (takeOoo c key seg).trans ((deliverFresh _ key seg).trans (finOoo _ key seg))
        dsimp only
        split
        · exact round
        · exact round.trans (ih _ _)

theorem countCached (c : Conn) : Quiet c (countCached c) := of_eq rfl rfl rfl rfl rfl

theorem announceOoo (c : Conn) (pruned delivered : Bool) :
    Quiet c (announceOoo c pruned delivered) := by
  unfold Tunio.announceOoo
  split
  · exact sendAck c
  · split
    · exact notifyWindowUpdated c
    · exact refl c

theorem flushOoo (c : Conn) : Quiet c (flushOoo c) := by
  unfold Tunio.flushOoo
  have pruning := pruneOoo c.flow.oooCache.toList c false
  split
  · rename_i prunedEq
    rw [prunedEq] at pruning
    exact pruning
  · rename_i pruned c₁ isPruned prunedEq
    rw [prunedEq] at pruning
    have delivery := deliverOoo (c₁.flow.oooCache.size + 1) (Tunio.countCached c₁) false
    split
    · rename_i deliveredEq
      rw [deliveredEq] at delivery
      exact pruning.trans ((countCached c₁).trans delivery)
    · rename_i deliveredEq
      rw [deliveredEq] at delivery
      exact pruning.trans ((countCached c₁).trans (delivery.trans (announceOoo _ _ _)))

theorem handleData (c : Conn) (seq : UInt32) (data : List UInt8) (flags : UInt8) :
    Quiet c (handleData c seq data flags) := by
  unfold Tunio.handleData
  split
  · exact (deliverData c data).trans (flushOoo _)
  · split
    · have appended := oooAppend c seq data (hasFlag flags tcpFin)
      dsimp only
      split
      · exact appended.trans (countOoo _)
      · exact appended.trans (sendAck _)
    · dsimp only
      split
      · exact (deliverData c _).trans (flushOoo _)
      · exact (countDropped c).trans (sendAck _)

end Quiet

end Tunio
