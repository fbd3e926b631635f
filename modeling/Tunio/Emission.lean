import Tunio.Coverage
import Tunio.Scaling

/-!
What the effects emit: the segments that a flow has submitted are never taken back, and
only a FIN makes a segment with the FIN flag.
-/

namespace Tunio

/-- The segments that an effect may make. -/
def Effect.Makes : Effect → Segment → Prop
  | .submit seq flags payload _, segment =>
      segment.seq = seq ∧ segment.flags = flags ∧ segment.payload = payload
  | .next _, segment => segment.flags = tcpAck ||| tcpPsh
  | .accept, segment => segment.flags = tcpSyn ||| tcpAck ∧ segment.payload = []
  | .fin, segment => segment.flags = tcpAck ||| tcpFin ∧ segment.payload = []
  | .giveUp, segment => segment.flags = tcpRst ||| tcpAck ∧ segment.payload = []
  | .abort, segment => segment.flags = tcpRst ||| tcpAck ∧ segment.payload = []
  | _, segment => segment.flags = tcpAck ∧ segment.payload = []

/-- Segments of a kind have been added. -/
def Grows (makes : Segment → Prop) (before after : Conn) : Prop :=
  ∃ added, after.out = before.out ++ added ∧ ∀ segment ∈ added, makes segment

namespace Grows

variable {makes : Segment → Prop} {before after : Conn}

theorem of_out (same : after.out = before.out) : Grows makes before after :=
  ⟨[], by rw [same, List.append_nil], fun _ member => absurd member List.not_mem_nil⟩

theorem of_builds {calls : BuildArgs → Prop} (builds : Builds calls before after)
    (made : ∀ args c, calls args → makes (args.segment c)) : Grows makes before after := by
  cases builds with
  | still same => exact of_out (congrArg SubmitView.out same)
  | one c args _ called built =>
      refine ⟨[args.segment c], congrArg SubmitView.out built, fun segment member => ?_⟩
      rw [List.mem_singleton.mp member]
      exact made args c called

end Grows

theorem apply_grows (c : Conn) (effect : Effect) : Grows effect.Makes c (c.apply effect) := by
  refine Grows.of_builds (apply_builds c effect) fun args at_ called => ?_
  cases effect with
  | submit seq flags payload withMss =>
      rw [called]
      exact ⟨rfl, rfl, rfl⟩
  | next inFlight => exact called.1
  | _ => exact ⟨called.1, called.2.1⟩

end Tunio
