import Tunio.Effect

/-!
What a flow submits.  An effect builds at most one segment, for the flow as it is then.
-/

namespace Tunio

/-- The arguments of `build_segment`. -/
structure BuildArgs where
  seq : UInt32
  flags : UInt8
  payload : List UInt8
  withMss : Bool

def BuildArgs.segment (args : BuildArgs) (c : Conn) : Segment :=
  (buildSegment c args.seq args.flags args.payload args.withMss).1

/-- The segments of a flow, how they were built, and what stays the same in all of them. -/
structure SubmitView where
  out : List Segment
  builds : List BuildPoint
  key : FiveTuple
  cfg : TunConfig
  wscaleOk : Bool
  rcvWndScale : UInt8

def Conn.submitted (c : Conn) : SubmitView := {
  out := c.out
  builds := c.builds
  key := c.flow.key
  cfg := c.eng.cfg
  wscaleOk := c.flow.wscaleOk
  rcvWndScale := c.flow.rcvWndScale
}

/-- What an effect may call `build_segment` with. -/
def Effect.Calls (c : Conn) : Effect → BuildArgs → Prop
  | .submit seq flags payload withMss, args => args = ⟨seq, flags, payload, withMss⟩
  | .next _, args =>
      args.flags = tcpAck ||| tcpPsh ∧ args.withMss = false ∧
        args.payload.length ≤ mss c.eng.cfg c.flow.key.family
  | .accept, args => args.flags = tcpSyn ||| tcpAck ∧ args.payload = [] ∧ args.withMss = true
  | .fin, args => args.flags = tcpAck ||| tcpFin ∧ args.payload = [] ∧ args.withMss = false
  | .giveUp, args => args.flags = tcpRst ||| tcpAck ∧ args.payload = [] ∧ args.withMss = false
  | .abort, args => args.flags = tcpRst ||| tcpAck ∧ args.payload = [] ∧ args.withMss = false
  | _, args => args.flags = tcpAck ∧ args.payload = [] ∧ args.withMss = false

/-- Nothing is built, or one segment for a flow like the one before. -/
inductive Builds (calls : BuildArgs → Prop) (before after : Conn) : Prop
  | still : after.submitted = before.submitted → Builds calls before after
  | one (c : Conn) (args : BuildArgs) : c.submitted = before.submitted → calls args →
      after.submitted = { before.submitted with
        out := before.out ++ [args.segment c]
        builds := before.builds ++ [buildPoint c] } → Builds calls before after

namespace Builds

variable {calls : BuildArgs → Prop} {before after : Conn}

theorem congr {last : Conn} (builds : Builds calls before after)
    (same : last.submitted = after.submitted) : Builds calls before last := by
  cases builds with
  | still kept => exact .still (same.trans kept)
  | one c args alike called built => exact .one c args alike called (same.trans built)

theorem start {first : Conn} (builds : Builds calls before after)
    (same : before.submitted = first.submitted) : Builds calls first after := by
  cases builds with
  | still kept => exact .still (kept.trans same)
  | one c args alike called built =>
      refine .one c args (alike.trans same) called (built.trans ?_)
      have out : before.out = first.out := congrArg SubmitView.out same
      have builds : before.builds = first.builds := congrArg SubmitView.builds same
      rw [same, out, builds]

theorem sendSegment (c : Conn) {seq : UInt32} {flags : UInt8} {payload : List UInt8} {withMss : Bool}
    (called : calls ⟨seq, flags, payload, withMss⟩) :
    Builds calls c (sendSegment c seq flags payload withMss) := by
  unfold Tunio.sendSegment
  split
  · exact .still rfl
  · exact .one { c with flow.ackPending := false } _ rfl called rfl

theorem sendAck (c : Conn) (called : ∀ seq, calls ⟨seq, tcpAck, [], false⟩) :
    Builds calls c (sendAck c) := sendSegment c (called _)

end Builds

theorem closeFlow_submitted (c : Conn) (err : ErrorCode) :
    (closeFlow c err).submitted = c.submitted := by
  refine closeFlow_keeps Conn.submitted err ?_ ?_ ?_ ?_ ?_ c
  · intro c
    unfold withdrawAccept cancelAckTimer
    split <;> split <;> rfl
  · intro c
    unfold dropReceived
    dsimp only
    split <;> split <;> rfl
  · intro c
    unfold detachFlow uncountFlow
    split <;> rfl
  · intro c
    unfold closeWriteCh
    split <;> rfl
  · intro c read write
    cases read <;> cases write <;> rfl

theorem abortFlow_builds {calls : BuildArgs → Prop} (c : Conn)
    (called : ∀ seq, calls ⟨seq, tcpRst ||| tcpAck, [], false⟩) : Builds calls c (abortFlow c) := by
  unfold abortFlow
  split
  · exact .still rfl
  · have sent : Builds calls c (sendSegment c c.flow.sndNxt (tcpRst ||| tcpAck) [] false) :=
      Builds.sendSegment c (called _)
    exact sent.congr (closeFlow_submitted { sendSegment c c.flow.sndNxt (tcpRst ||| tcpAck) [] false
      with flow.rst := true } _)

theorem emitFin_builds {calls : BuildArgs → Prop} (c : Conn) (state : TcpState)
    (called : ∀ seq, calls ⟨seq, tcpAck ||| tcpFin, [], false⟩) :
    Builds calls c (emitFin c state) := by
  unfold emitFin
  have sent := Builds.sendSegment { c with flow.state := state, flow.closeStartedAt := c.eng.now }
    (called c.flow.sndNxt)
  refine (sent.start ?_).congr ?_ <;> rfl

theorem buildNextSegment_builds (c : Conn) (op : WriteOp) (inFlight : UInt32) :
    Builds ((Effect.next inFlight).Calls c) c (buildNextSegment c op inFlight).1 := by
  unfold buildNextSegment
  dsimp only
  split
  · exact .still rfl
  · split
    · exact .still rfl
    · refine .one { c with flow.activeWrite := some (normalize op) } ⟨_, _, _, _⟩ rfl
        ⟨rfl, rfl, ?_⟩ rfl
      refine (List.length_take_le _ _).trans ?_
      exact (Nat.min_le_right _ _).trans (Nat.min_le_left _ _)

theorem fillRead_submitted (c : Conn) (op : ReadOp) (data : List UInt8) :
    (fillRead c op data).submitted = c.submitted := by
  unfold fillRead
  dsimp only
  split <;> rfl

theorem compactRx_submitted (c : Conn) : (compactRx c).submitted = c.submitted := by
  unfold compactRx
  split <;> rfl

theorem deliverDirect_builds {calls : BuildArgs → Prop} (c : Conn) (op : ReadOp) (data : List UInt8)
    (called : ∀ seq, calls ⟨seq, tcpAck, [], false⟩) : Builds calls c (deliverDirect c op data) := by
  have filled := fillRead_submitted c op data
  have idle : (fillRead c op data).flow.activeRead = none := by
    unfold fillRead
    dsimp only
    split <;> rfl
  unfold deliverDirect
  dsimp only
  split
  · exact .still filled
  · refine (Builds.sendAck _ called).start ?_
    split
    · rw [flushReads_idle _ idle, compactRx_submitted]
      exact filled
    · exact filled

theorem apply_builds (c : Conn) (effect : Effect) :
    Builds (effect.Calls c) c (c.apply effect) := by
  cases effect with
  | submit seq flags payload withMss => exact Builds.sendSegment c rfl
  | next inFlight =>
      unfold Conn.apply
      dsimp only
      split
      · exact buildNextSegment_builds c _ inFlight
      · exact .still rfl
  | accept =>
      change Builds _ c (acceptFlow c)
      unfold acceptFlow
      split
      · exact .still rfl
      · have sent : Builds (Effect.accept.Calls c) c
            (sendSegment c c.flow.iss (tcpSyn ||| tcpAck) [] true) :=
          Builds.sendSegment c ⟨rfl, rfl, rfl⟩
        exact sent.congr rfl
  | notify =>
      refine .still ?_
      change (notifyAccept c).submitted = _
      unfold notifyAccept
      split <;> rfl
  | handOut =>
      refine .still ?_
      change (handOut c).submitted = _
      unfold handOut
      dsimp only
      split
      · split <;> rfl
      · rfl
  | fin =>
      have emitted : Builds (Effect.fin.Calls c) { c with flow.finSent := true }
          (emitFin { c with flow.finSent := true } c.flow.state.finished) :=
        emitFin_builds _ _ fun _ => ⟨rfl, rfl, rfl⟩
      exact emitted.start rfl
  | giveUp =>
      have aborted : Builds (Effect.giveUp.Calls c) { c with flow.finSent := true }
          (abortFlow { c with flow.finSent := true }) :=
        abortFlow_builds _ fun _ => ⟨rfl, rfl, rfl⟩
      exact aborted.start rfl
  | abort => exact abortFlow_builds c fun _ => ⟨rfl, rfl, rfl⟩
  | resetBy => exact .still (closeFlow_submitted { c with flow.rst := true } _)
  | close err => exact .still (closeFlow_submitted c err)
  | finAcked =>
      refine .still ?_
      unfold Conn.apply
      dsimp only
      split <;> rfl
  | probeAck ack =>
      refine .still ?_
      change (acceptProbe c ack).submitted = _
      unfold acceptProbe
      dsimp only
      split
      · split <;> rfl
      · rfl
  | direct op account data =>
      have delivered : Builds ((Effect.direct op account data).Calls c)
          { c with eng.account := account } (deliverDirect { c with eng.account := account } op data) :=
        deliverDirect_builds _ op data fun _ => ⟨rfl, rfl, rfl⟩
      exact delivered.start rfl
  | buffer account data =>
      change Builds _ c (noteDataAck _)
      unfold noteDataAck
      split
      · exact (Builds.sendAck _ fun _ => ⟨rfl, rfl, rfl⟩).start rfl
      · exact .still rfl
  | skip len => exact (Builds.sendAck _ fun _ => ⟨rfl, rfl, rfl⟩).start rfl
  | takeFin =>
      have taken : (takeFin c).submitted = c.submitted := by
        unfold takeFin
        split <;> rfl
      have sent : Builds (Effect.takeFin.Calls c) c (sendAck (takeFin c)) :=
        (Builds.sendAck (takeFin c) fun _ => ⟨rfl, rfl, rfl⟩).start taken
      change Builds _ c (finState (sendAck (takeFin c)))
      unfold finState
      split <;> exact sent.congr rfl
  | compact => exact .still (compactRx_submitted c)
  | append seq data fin =>
      refine .still ?_
      change (oooAppend c seq data fin).1.submitted = _
      unfold oooAppend appendFin appendData
      dsimp only
      repeat' split
      all_goals rfl
  | discard key seg =>
      refine .still ?_
      change (discardOoo c key seg).submitted = _
      unfold discardOoo
      dsimp only
      split <;> rfl
  | drop =>
      refine .still ?_
      change (dropReceived c).submitted = _
      unfold dropReceived
      dsimp only
      split <;> split <;> rfl
  | closeChannel =>
      refine .still ?_
      change (closeWriteCh c).submitted = _
      unfold closeWriteCh
      split <;> rfl
  | ackTimerExpires =>
      refine .still ?_
      change (ackTimerExpires c).submitted = _
      unfold ackTimerExpires
      split
      · split <;> rfl
      · rfl
  | ackTimerRuns =>
      change Builds _ c (ackTimerRuns c)
      unfold ackTimerRuns
      split
      · split
        · dsimp only
          split
          · exact .still rfl
          · exact (Builds.sendAck _ fun _ => ⟨rfl, rfl, rfl⟩).start rfl
        · exact .still rfl
      · exact .still rfl
  | _ => exact .still rfl

end Tunio
