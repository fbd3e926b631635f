import Mathlib.Data.List.Forall2
import Tunio.Submission
import Tunio.Window

/-!
The window field against what a peer reads from it.  A peer never scales the window of a
SYN; `build_segment` chooses the scale by the state of the flow instead, and the SYN-ACK
is built before the state changes.
-/

namespace Tunio

open Machines

/-- The factor between the field and the window in the eyes of the peer. -/
def peerUnit (wscaleOk : Bool) (segment : Segment) : Nat :=
  if hasFlag segment.flags tcpSyn then 1 else if wscaleOk then 2 ^ 7 else 1

def decodedWnd (wscaleOk : Bool) (segment : Segment) : Nat :=
  segment.window.toNat * peerUnit wscaleOk segment

/-- The window of a segment as far as 16 bits can hold it. -/
def announcedWnd (wscaleOk : Bool) (segment : Segment) (wnd : UInt32) : Nat :=
  min wnd.toNat (65535 * peerUnit wscaleOk segment)

/-- The peer reads at most the window, and less than one unit below it. -/
structure ReadsRight (wscaleOk : Bool) (segment : Segment) (wnd : UInt32) : Prop where
  safe : decodedWnd wscaleOk segment ≤ announcedWnd wscaleOk segment wnd
  close : announcedWnd wscaleOk segment wnd < decodedWnd wscaleOk segment + peerUnit wscaleOk segment

theorem readsRight_def (wscaleOk : Bool) (segment : Segment) (wnd : UInt32) :
    ReadsRight wscaleOk segment wnd ↔
      decodedWnd wscaleOk segment ≤ announcedWnd wscaleOk segment wnd ∧
        announcedWnd wscaleOk segment wnd <
          decodedWnd wscaleOk segment + peerUnit wscaleOk segment :=
  ⟨fun ⟨safe, close⟩ => ⟨safe, close⟩, fun ⟨safe, close⟩ => ⟨safe, close⟩⟩

instance (wscaleOk : Bool) (segment : Segment) (wnd : UInt32) :
    Decidable (ReadsRight wscaleOk segment wnd) :=
  decidable_of_iff _ (readsRight_def wscaleOk segment wnd).symm

/-- The state chooses the scale that the peer goes by. -/
@[reducible] def ScaledRight (wscaleOk : Bool) (segment : Segment) (point : BuildPoint) : Prop :=
  wscaleOk = false ∨ point.wnd = 0 ∨
    (hasFlag segment.flags tcpSyn = true ↔ point.state = .synAckSent)

/-- What `build_segment` writes into the field, and how large its window can be. -/
structure Announces (wscaleOk : Bool) (segment : Segment) (point : BuildPoint) : Prop where
  field : segment.window.toNat = min 65535
    (point.wnd.toNat / if point.state = .synAckSent ∨ wscaleOk = false then 1 else 2 ^ 7)
  bound : point.wnd.toNat ≤ 2 ^ 20

theorem Announces.readsRight_iff {wscaleOk : Bool} {segment : Segment} {point : BuildPoint}
    (announces : Announces wscaleOk segment point) :
    ReadsRight wscaleOk segment point.wnd ↔ ScaledRight wscaleOk segment point := by
  obtain ⟨field, bound⟩ := announces
  have zero : point.wnd = 0 ↔ point.wnd.toNat = 0 := by
    rw [← UInt32.toNat_inj]
    rfl
  rw [readsRight_def]
  unfold decodedWnd announcedWnd peerUnit ScaledRight
  rw [zero, field]
  clear field
  cases wscaleOk with
  | false =>
      simp only [Bool.false_eq_true, or_true, if_true, if_false, ite_self, Nat.div_one, Nat.mul_one,
        true_or, iff_true]
      omega
  | true =>
      cases hasFlag segment.flags tcpSyn <;> by_cases waiting : point.state = .synAckSent <;>
        simp only [waiting, Bool.false_eq_true, reduceIte, or_false, false_or, or_true, iff_self,
          iff_true, iff_false, not_true_eq_false, reduceCtorEq, Nat.reducePow, Nat.reduceMul,
          Nat.div_one, Nat.mul_one] <;>
        omega

theorem currentWnd_bound (c : Conn) : (currentWnd c).toNat ≤ 2 ^ 20 := by
  rw [currentWnd_toNat]
  unfold narrowRoom
  dsimp only
  split <;> split <;> omega

theorem fieldOf_toNat (scaled : UInt32) :
    (if scaled > 65535 then 65535 else scaled.toUInt16 : UInt16).toNat = min 65535 scaled.toNat := by
  have large : scaled > 65535 ↔ 65535 < scaled.toNat := UInt32.lt_iff_toNat_lt
  have narrow : scaled.toUInt16.toNat = scaled.toNat % 2 ^ 16 := UInt32.toNat_toUInt16 scaled
  have top : (65535 : UInt16).toNat = 65535 := rfl
  split
  · rename_i exceeds
    have exceeds := large.mp exceeds
    omega
  · rename_i within
    have within := mt large.mpr within
    omega

theorem buildSegment_announces (c : Conn) (seq : UInt32) (flags : UInt8) (payload : List UInt8)
    (withMss : Bool) (scaled : c.flow.rcvWndScale = if c.flow.wscaleOk then kRcvWndScale else 0) :
    Announces c.flow.wscaleOk (buildSegment c seq flags payload withMss).1 (buildPoint c) := by
  refine ⟨?_, currentWnd_bound c⟩
  unfold buildSegment buildPoint
  dsimp only
  rw [fieldOf_toNat, UInt32.toNat_shiftRight, scaled]
  by_cases waiting : c.flow.state = .synAckSent
  · simp [waiting]
  · cases c.flow.wscaleOk with
    | false => simp [waiting]
    | true =>
        rw [if_neg waiting, if_pos rfl, if_neg (by simp [waiting])]
        exact congrArg (min 65535) (Nat.shiftRight_eq_div_pow _ 7)

/-! Every segment of a run is built so. -/

/-- The segments of a flow, how they were built, and what the SYN negotiated. -/
structure OutputView where
  out : List Segment
  builds : List BuildPoint
  wscaleOk : Bool
  rcvWndScale : UInt8

def Conn.output (c : Conn) : OutputView := {
  out := c.out
  builds := c.builds
  wscaleOk := c.flow.wscaleOk
  rcvWndScale := c.flow.rcvWndScale
}

structure Announced (wscaleOk : Bool) (view : OutputView) : Prop where
  negotiated : view.wscaleOk = wscaleOk
  scale : view.rcvWndScale = if wscaleOk then kRcvWndScale else 0
  built : List.Forall₂ (Announces wscaleOk) view.out view.builds

theorem Announced.build {wscaleOk : Bool} {c : Conn} (announced : Announced wscaleOk c.output)
    (seq : UInt32) (flags : UInt8) (payload : List UInt8) (withMss : Bool) :
    List.Forall₂ (Announces wscaleOk) (c.out ++ [(buildSegment c seq flags payload withMss).1])
      (c.builds ++ [buildPoint c]) := by
  obtain ⟨rfl, scale, built⟩ := announced
  exact List.rel_append built
    (List.Forall₂.cons (buildSegment_announces c seq flags payload withMss scale) List.Forall₂.nil)

def SubmitView.output (view : SubmitView) : OutputView := {
  out := view.out
  builds := view.builds
  wscaleOk := view.wscaleOk
  rcvWndScale := view.rcvWndScale
}

theorem Announced.builds {wscaleOk : Bool} {calls : BuildArgs → Prop} {before after : Conn}
    (announced : Announced wscaleOk before.output) (builds : Builds calls before after) :
    Announced wscaleOk after.output := by
  cases builds with
  | still same =>
      have output : after.output = before.output := congrArg SubmitView.output same
      rw [output]
      exact announced
  | one c args alike _ built =>
      have here : c.output = before.output := congrArg SubmitView.output alike
      have output : after.output = { before.output with
          out := before.out ++ [args.segment c]
          builds := before.builds ++ [buildPoint c] } := congrArg SubmitView.output built
      have segments := Announced.build (here ▸ announced) args.seq args.flags args.payload args.withMss
      have out : c.out = before.out := congrArg SubmitView.out alike
      have builds : c.builds = before.builds := congrArg SubmitView.builds alike
      rw [out, builds] at segments
      rw [output]
      exact ⟨announced.negotiated, announced.scale, segments⟩

theorem Announced.apply {wscaleOk : Bool} {c : Conn} (announced : Announced wscaleOk c.output)
    (effect : Effect) : Announced wscaleOk (c.apply effect).output :=
  announced.builds (apply_builds c effect)

/-- Whether the SYN offered a valid Window Scale option. -/
def offersScale (th : TcpHeader) (payload : List UInt8) : Bool :=
  (parseSynWscale payload th.headerLen).2

theorem openFlow_announced (eng : TcpEngine) (id : FlowId) (key : FiveTuple) (th : TcpHeader)
    (payload data : List UInt8) (iss : UInt32) :
    Announced (offersScale th payload) (openFlow eng id key th payload data iss).output := by
  unfold openFlow notifyAccept takeSynData
  dsimp only
  repeat' split
  all_goals exact ⟨rfl, rfl, List.Forall₂.nil⟩

/-- The peer reads the window of a segment right exactly if the SYN offered no scale, the
window is empty, or the segment is a SYN just when it is built in SYN_ACK_SENT. -/
theorem run_readsRight_iff (eng : TcpEngine) (id : FlowId) (key : FiveTuple) (th : TcpHeader)
    (payload data : List UInt8) (iss : UInt32) (events : List Event) :
    let c := run (openFlow eng id key th payload data iss) events
    List.Forall₂ (fun segment point => ReadsRight (offersScale th payload) segment point.wnd ↔
      ScaledRight (offersScale th payload) segment point) c.out c.builds := by
  intro c
  have announced : Announced (offersScale th payload) c.output :=
    run_keeps (fun c => Announced (offersScale th payload) c.output)
      (fun _ effect announced _ => announced.apply effect) _ events
      (openFlow_announced eng id key th payload data iss)
  exact announced.built.imp fun _ _ announces => announces.readsRight_iff

/-- A SYN with a Window Scale option of 7. -/
def scalingSyn : TcpHeader :=
  { srcPort := 1, dstPort := 2, seq := 7, ack := 0, dataOffset := 0x60, flags := tcpSyn
    window := 1000 }

def scalingOptions : List UInt8 := List.replicate 20 0 ++ [3, 3, 7, 1]

/-- The first write accepts the handshake: the SYN-ACK carries a scaled window, which the
peer reads as 8192, and the data an unscaled one, which the peer reads as 8388480. -/
theorem readsRight_fails :
    let c := run (openFlow { account := { limit := 2 ^ 29 } } 0
      { srcIp := Vector.replicate 16 1, dstIp := Vector.replicate 16 2, srcPort := 1, dstPort := 2
        protocol := 6, family := 4 } scalingSyn scalingOptions [] 1000) [.write [[1]] 5]
    c.out.map (decodedWnd (offersScale scalingSyn scalingOptions)) = [8192, 8388480] ∧
      c.builds.map BuildPoint.wnd = [1048576, 1048576] ∧
      ¬List.Forall₂ (fun segment point =>
        ReadsRight (offersScale scalingSyn scalingOptions) segment point.wnd) c.out c.builds := by
  decide

end Tunio
