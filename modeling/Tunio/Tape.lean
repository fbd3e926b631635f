import Mathlib.Data.List.Induction
import Tunio.Types

/-!
What a flow has emitted, by position.  Sequence numbers are unwrapped along the list of
submitted segments: a SYN stands at position 0, and every other segment at the position
closest to the highest one reached so far.
-/

namespace Tunio

open Serial

/-- What a segment occupies a sequence number with. -/
inductive Cell
  | syn
  | byte (value : UInt8)
  | fin
  deriving DecidableEq, Repr

structure Emission where
  pos : Nat
  flags : UInt8
  payload : List UInt8
  deriving DecidableEq, Repr

def Emission.cells (emission : Emission) : List Cell :=
  (if hasFlag emission.flags tcpSyn then [Cell.syn] else []) ++ emission.payload.map Cell.byte ++
    if hasFlag emission.flags tcpFin then [Cell.fin] else []

structure Tape where
  top : Nat := 0
  log : List Emission := []
  deriving DecidableEq, Repr

def Tape.put (tape : Tape) (emission : Emission) : Tape :=
  { top := max tape.top (emission.pos + emission.cells.length)
    log := tape.log ++ [emission] }

def Tape.emit (iss : UInt32) (tape : Tape) (segment : Segment) : Tape :=
  tape.put {
    pos := if hasFlag segment.flags tcpSyn then 0 else near iss tape.top segment.seq
    flags := segment.flags
    payload := segment.payload }

def tapeOf (iss : UInt32) (out : List Segment) : Tape := out.foldl (Tape.emit iss) {}

theorem tapeOf_append (iss : UInt32) (out : List Segment) (segment : Segment) :
    tapeOf iss (out ++ [segment]) = (tapeOf iss out).emit iss segment := by
  simp [tapeOf]

theorem tapeOf_log_length (iss : UInt32) (out : List Segment) :
    (tapeOf iss out).log.length = out.length := by
  induction out using List.reverseRecOn with
  | nil => rfl
  | append_singleton before segment ih =>
      rw [tapeOf_append]
      simp [Tape.emit, Tape.put, ih]

/-- The position of `snd_nxt`. -/
def nxtPos (c : Conn) : Nat :=
  near c.flow.iss (tapeOf c.flow.iss c.out).top c.flow.sndNxt

/-- The position closest to `snd_nxt` whose word is given. -/
def position (c : Conn) (word : UInt32) : Int := nxtPos c + signed (word - c.flow.sndNxt)

/-- The emissions that an event adds. -/
def emitted (before after : Conn) : List Emission :=
  (tapeOf after.flow.iss after.out).log.drop before.out.length

theorem Tape.emit_num (iss : UInt32) (tape : Tape) (segment : Segment) (pos : Nat)
    (seq : segment.seq = num iss pos) (notSyn : hasFlag segment.flags tcpSyn = false)
    (lower : tape.top ≤ pos + 2 ^ 31) (upper : pos < tape.top + 2 ^ 31) :
    tape.emit iss segment = tape.put ⟨pos, segment.flags, segment.payload⟩ := by
  unfold Tape.emit
  rw [if_neg (by simp [notSyn]), seq, near_num iss tape.top pos lower upper]

end Tunio
