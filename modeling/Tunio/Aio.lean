import Tunio.EngineCore

/-!
The asynchronous operations on a connection or session of the C interface (`c_api.cpp`): the
threads that start them, the handlers that the executor runs one at a time, and the flags that
both read.  A move is one access to a flag, and the moves fall in any order.
-/

namespace Tunio

inductive AioOp
  | recv
  | send
  | recvfrom
  | sendto
  deriving DecidableEq, Repr

/-- Only one at a time may be pending; there is no flag for `tunio_udp_async_sendto`. -/
def AioOp.exclusive : AioOp → Bool
  | .sendto => false
  | _ => true

/-- What a start returns, besides `TUNIO_OK`. -/
inductive StartError
  | closed
  | param
  | fail
  deriving DecidableEq, Repr

/-- Where an operation is: in the call that starts it up to `submitted`, then in its handler from
`handling` on. -/
inductive AioPlace
  | entered
  | present
  | served
  | allowed
  | claimed
  | thrown
  | submitted
  | posted
  | handling
  | cleared
  | kept
  | calling
  | inCallback
  | refused (error : StartError)
  | failed
  | dropped
  | called
  deriving DecidableEq, Repr

namespace AioPlace

/-- Has taken the flag and not given it back. -/
def holds : AioPlace → Bool
  | .claimed => true
  | .thrown => true
  | .submitted => true
  | .posted => true
  | .handling => true
  | _ => false

def onStrand : AioPlace → Bool
  | .handling => true
  | .cleared => true
  | .kept => true
  | .calling => true
  | .inCallback => true
  | _ => false

/-- The executor has not come to it, and perhaps never will. -/
def idle : AioPlace → Bool
  | .claimed => true
  | .thrown => true
  | .submitted => true
  | .posted => true
  | .failed => true
  | _ => false

def told : AioPlace → Bool
  | .inCallback => true
  | .called => true
  | _ => false

/-- Was accepted. -/
def taken (place : AioPlace) : Bool :=
  place.holds || place.onStrand || place.idle || place.told || decide (place = .dropped)

end AioPlace

/-- `ec` and `n` are what the engine completes the operation with. -/
structure AioCall where
  op : AioOp
  place : AioPlace := .entered
  ec : ErrorCode := .success
  n : Nat := 0
  deriving DecidableEq, Repr

def AioCall.to (call : AioCall) (place : AioPlace) : AioCall := { call with place := place }

/-- `gone` and `closed` are the engine's flags.  `accepted` and `told` are history, for each kind of
operation: which took the flag, and which callbacks began with what.  `late` counts the callbacks
that began after the handle was freed, `lost` those after the engine was. -/
structure Aio where
  alive : Bool := true
  gone : Bool := false
  closed : Bool := false
  pending : AioOp → Bool := fun _ => false
  busy : Bool := false
  calls : List AioCall := []
  accepted : AioOp → List Nat := fun _ => []
  told : AioOp → List (Nat × ApiCode × Nat) := fun _ => []
  late : Nat := 0
  lost : Nat := 0

/-- `outcome` says whether a start throws, or a remote address is unusable. -/
inductive AioMove
  | start (op : AioOp)
  | advance (row : Nat) (outcome : Bool)
  | complete (row : Nat) (ec : ErrorCode) (n : Nat)
  | free
  | freeEngine
  | close
  | open_

namespace Aio

def put (s : Aio) (row : Nat) (call : AioCall) : Aio := { s with calls := s.calls.set row call }

/-- A store to the flag of an operation, where there is one. -/
def mark (s : Aio) (op : AioOp) (value : Bool) : Aio :=
  { s with pending := if op.exclusive then Function.update s.pending op value else s.pending }

/-- The operation may go to the engine. -/
def claim (s : Aio) (row : Nat) (call : AioCall) : Aio :=
  { s.mark call.op true with
    accepted := Function.update s.accepted call.op (s.accepted call.op ++ [row])
  }.put row (call.to .claimed)

/-- The callback begins. -/
def tell (s : Aio) (row : Nat) (call : AioCall) : Aio :=
  { s with told := Function.update s.told call.op
             (s.told call.op ++ [(row, errorFromEc call.ec, call.n)])
           late := s.late + (!s.alive).toNat
           lost := s.lost + s.gone.toNat }.put row (call.to .inCallback)

/-- The handler returns. -/
def leave (s : Aio) (row : Nat) (call : AioCall) (place : AioPlace) : Aio :=
  { s with busy := false }.put row (call.to place)

def advance (s : Aio) (row : Nat) (call : AioCall) (outcome : Bool) : Aio :=
  match call.place with
  | .entered =>
      s.put row (call.to (if s.alive then .present else .refused .closed))
  | .present =>
      s.put row (call.to (if s.gone then .refused .closed else .served))
  | .served =>
      s.put row (call.to (if s.closed then .refused .closed else .allowed))
  | .allowed =>
      if call.op.exclusive then
        if s.pending call.op then s.put row (call.to (.refused .param))
        else s.claim row call
      else if outcome then s.put row (call.to (.refused .param))
      else s.claim row call
  | .claimed => s.put row (call.to (if outcome then .thrown else .submitted))
  | .thrown => (s.mark call.op false).put row (call.to .failed)
  | .posted =>
      if s.busy then s else { s with busy := true }.put row (call.to .handling)
  | .handling => (s.mark call.op false).put row (call.to .cleared)
  | .cleared =>
      if s.alive then s.put row (call.to .kept) else s.leave row call .dropped
  | .kept =>
      if s.gone then s.leave row call .dropped else s.put row (call.to .calling)
  | .calling => s.tell row call
  | .inCallback => s.leave row call .called
  | _ => s

def step (s : Aio) : AioMove → Aio
  | .start op => { s with calls := s.calls ++ [{ op := op }] }
  | .advance row outcome =>
      match s.calls[row]? with
      | some call => s.advance row call outcome
      | none => s
  | .complete row ec n =>
      match s.calls[row]? with
      | some call =>
          if call.place = .submitted then
            s.put row { call with place := .posted, ec := ec, n := n }
          else s
      | none => s
  | .free => { s with alive := false }
  | .freeEngine => { s with gone := true }
  | .close => { s with closed := true }
  | .open_ => { s with closed := false }

def run (moves : List AioMove) : Aio := moves.foldl step {}

/-- What a move of a call does. -/
inductive Moved (s : Aio) (row : Nat) (call : AioCall) : Aio → Prop
  | stay : Moved s row call s
  | ask {place : AioPlace} (asks : call.place.taken = false) (still : place.taken = false) :
      Moved s row call (s.put row (call.to place))
  | claim (asks : call.place.taken = false) (free : call.op.exclusive = true → s.pending call.op = false) :
      Moved s row call (s.claim row call)
  | proceed {next : AioCall} (same : next.op = call.op) (before : call.place.holds = true)
      (after : next.place.holds = true) (idle : call.place.idle = true) (idle' : next.place.idle = true) :
      Moved s row call (s.put row next)
  | fail (here : call.place = .thrown) :
      Moved s row call ((s.mark call.op false).put row (call.to .failed))
  | handle (here : call.place = .posted) (free : s.busy = false) :
      Moved s row call ({ s with busy := true }.put row (call.to .handling))
  | clear (here : call.place = .handling) :
      Moved s row call ((s.mark call.op false).put row (call.to .cleared))
  | keep (here : call.place = .cleared) (alive : s.alive = true) :
      Moved s row call (s.put row (call.to .kept))
  | decide_ (here : call.place = .kept) (kept : s.gone = false) :
      Moved s row call (s.put row (call.to .calling))
  | tell (here : call.place = .calling) : Moved s row call (s.tell row call)
  | leave {place : AioPlace} (from_ : call.place.onStrand = true) (quiet : call.place.holds = false)
      (off : place.onStrand = false) (taken : place.taken = true) (settled : place.idle = false)
      (same : place.told = call.place.told) : Moved s row call (s.leave row call place)

theorem advance_moved (s : Aio) (row : Nat) (call : AioCall) (outcome : Bool) :
    Moved s row call (s.advance row call outcome) := by
  unfold advance
  split
  · rename_i here
    exact .ask (by rw [here]; rfl) (by split <;> rfl)
  · rename_i here
    exact .ask (by rw [here]; rfl) (by split <;> rfl)
  · rename_i here
    exact .ask (by rw [here]; rfl) (by split <;> rfl)
  · rename_i here
    split
    · split
      · exact .ask (by rw [here]; rfl) rfl
      · rename_i free
        exact .claim (by rw [here]; rfl) fun _ => Bool.eq_false_iff.mpr free
    · rename_i shared
      split
      · exact .ask (by rw [here]; rfl) rfl
      · exact .claim (by rw [here]; rfl) fun exclusive => absurd exclusive shared
  · rename_i here
    exact .proceed rfl (by rw [here]; rfl) (by split <;> rfl) (by rw [here]; rfl) (by split <;> rfl)
  · rename_i here
    exact .fail here
  · rename_i here
    split
    · exact .stay
    · rename_i free
      exact .handle here (Bool.eq_false_iff.mpr free)
  · rename_i here
    exact .clear here
  · rename_i here
    split
    · rename_i alive
      exact .keep here alive
    · exact .leave (by rw [here]; rfl) (by rw [here]; rfl) rfl rfl rfl (by rw [here]; rfl)
  · rename_i here
    split
    · exact .leave (by rw [here]; rfl) (by rw [here]; rfl) rfl rfl rfl (by rw [here]; rfl)
    · rename_i kept
      exact .decide_ here (Bool.eq_false_iff.mpr kept)
  · rename_i here
    exact .tell here
  · rename_i here
    exact .leave (by rw [here]; rfl) (by rw [here]; rfl) rfl rfl rfl (by rw [here]; rfl)
  · exact .stay

end Aio

end Tunio
