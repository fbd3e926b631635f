import Mathlib.Logic.Function.Basic
import Tunio.Course
import Tunio.Desk
import Tunio.Types

/-!
The engine handle of the C interface (`c_api.cpp`): the host threads that call it, the executor
that runs the engine, and what they share.  A move is one access to the shared state, made under
the lock where the source takes one; the moves of the threads fall in any order.
-/

namespace Tunio

open Desks

inductive Traffic
  | tcp
  | udp
  deriving DecidableEq, Repr

abbrev ThreadId := Nat
abbrev AcceptorId := Nat

/-- A registered callback with its `user` pointer. -/
structure Callback where
  fn : Nat
  user : Nat
  deriving DecidableEq, Repr

inductive ApiCode
  | ok
  | fail
  | closed
  | connReset
  deriving DecidableEq, Repr

def errorFromEc : ErrorCode → ApiCode
  | .success => .ok
  | .eof => .ok
  | .operationAborted => .closed
  | .badDescriptor => .closed
  | .connectionReset => .connReset
  | _ => .fail

/-- Whose accept it is: the continuous one of a transport, or that of a blocked thread. -/
inductive Holder
  | listener
  | caller (thread : ThreadId)
  deriving DecidableEq, Repr

inductive AcceptResult
  | connection (id : FlowId)
  | failure (ec : ErrorCode)
  deriving DecidableEq, Repr

def AcceptResult.ec : AcceptResult → ErrorCode
  | .connection _ => .success
  | .failure ec => ec

def AcceptResult.flow : AcceptResult → Option FlowId
  | .connection id => some id
  | .failure _ => none

/-- What a blocking call starts at the engine; an accept holds a reference to the acceptor. -/
inductive BlockingOp
  | accept (transport : Traffic) (acceptor : AcceptorId)
  | transfer
  deriving DecidableEq, Repr

/-- Where a host thread is.  `admitted` keeps the acceptor that was in place when the thread was
let in; `free` tells `tunio_engine_free` from `tunio_engine_close`. -/
inductive HostThread
  | outside (last : ApiCode)
  | entered (transport : Traffic)
  | checked (op : BlockingOp)
  | admitted (op : BlockingOp) (acceptor : Option AcceptorId)
  | departing (initiated : Bool)
  | waiting
  | registering (transport : Traffic) (cb : Option Callback)
  | arming (transport : Traffic)
  | posting (transport : Traffic)
  | cancelling (transport : Traffic)
  | releasing
  | draining (free : Bool)
  | stopping (free : Bool)
  | closing (free : Bool)
  | joining
  | opening
  | built
  | replaced
  deriving DecidableEq, Repr

/-- What waits for the executor. -/
inductive CoreTask
  | body (thread : ThreadId) (op : BlockingOp) (epoch : Nat)
  | completed (transport : Traffic) (holder : Holder) (result : AcceptResult)
  | deliver (transport : Traffic) (holder : Holder) (result : AcceptResult)
  | finish (thread : ThreadId) (ec : ErrorCode)
  | arm (transport : Traffic)
  | cancel (transport : Traffic)
  | close (thread : ThreadId) (free : Bool)
  deriving DecidableEq, Repr

/-- Where the executor is between two accesses: in the posted body of `arm_tcp_accept` or in the
handler of its accept. -/
inductive AcceptPhase
  | accepting (transport : Traffic)
  | deciding (transport : Traffic) (flow : FlowId)
  | calling (transport : Traffic) (flow : FlowId) (cb : Callback)
  | rearming (transport : Traffic)
  | arming (transport : Traffic)
  | posting (transport : Traffic)
  deriving DecidableEq, Repr

/-- `engineOpen`, `epoch`, `desk` and `transfers` are the engine behind the handle: a desk matches
accepts and connections, `transfers` are the threads whose read or write is pending.  `handled`
and `granted` are the history of the connections. -/
structure EngineCore where
  closed : Bool := true
  aioGone : Bool := false
  active : Nat := 0
  acceptor : Option AcceptorId := none
  cb : Traffic → Option Callback := fun _ => none
  accepting : Traffic → Bool := fun _ => false
  threads : List HostThread := []
  slots : ThreadId → Option ErrorCode := fun _ => none
  tasks : List CoreTask := []
  running : Option AcceptPhase := none
  engineOpen : Bool := false
  epoch : Nat := 0
  desk : Traffic → Desk Holder FlowId := fun _ => { waiting := [], items := [], served := [] }
  transfers : List ThreadId := []
  created : Traffic → Nat := fun _ => 0
  handled : Traffic → List (FlowId × Option Callback) := fun _ => []
  granted : Traffic → List FlowId := fun _ => []

namespace EngineCore

def put (s : EngineCore) (t : ThreadId) (thread : HostThread) : EngineCore :=
  { s with threads := s.threads.set t thread }

def post (s : EngineCore) (task : CoreTask) : EngineCore := { s with tasks := s.tasks ++ [task] }

/-- What the engine posts for a handler its desk has served. -/
def served (transport : Traffic) : Holder × Option FlowId → CoreTask
  | (holder, some id) => .completed transport holder (.connection id)
  | (holder, none) => .completed transport holder (.failure .operationAborted)

/-- The desk of a transport goes on; who was served is told. -/
def attend (s : EngineCore) (transport : Traffic) (desk : Desk Holder FlowId) : EngineCore :=
  { s with
    desk := Function.update s.desk transport desk
    tasks := s.tasks ++
      (desk.served.drop (s.desk transport).served.length).map (served transport) }

def asyncAccept (s : EngineCore) (transport : Traffic) (holder : Holder) : EngineCore :=
  if s.engineOpen then s.attend transport ((s.desk transport).register holder)
  else s.post (.completed transport holder (.failure .badDescriptor))

/-- `close_all` of a transport's engine, as far as its accepts go. -/
def closeDesk (s : EngineCore) (transport : Traffic) : EngineCore :=
  s.attend transport ((s.desk transport).withdraw []).cancel

/-- `engine.close()` on the executor. -/
def engineClose (s : EngineCore) : EngineCore :=
  if s.engineOpen then
    let s := { s with
      engineOpen := false
      transfers := []
      tasks := s.tasks ++ s.transfers.map fun t => CoreTask.finish t .operationAborted }
    (s.closeDesk .tcp).closeDesk .udp
  else s

/-! The host threads. -/

inductive HostCall
  | accept (transport : Traffic)
  | transfer
  | register (transport : Traffic) (cb : Option Callback)
  | close
  | free
  | openEngine
  deriving DecidableEq, Repr

/-- A new call up to its first access. -/
def enter (s : EngineCore) (t : ThreadId) : HostCall → EngineCore
  | .accept transport =>
      if s.closed then s.put t (.outside .closed)
      else { s with slots := Function.update s.slots t none }.put t (.entered transport)
  | .transfer =>
      if s.closed then s.put t (.outside .closed)
      else { s with slots := Function.update s.slots t none }.put t (.checked .transfer)
  | .register transport cb =>
      if s.closed then s.put t (.outside .closed) else s.put t (.registering transport cb)
  | .close =>
      if s.closed then s.put t (.outside .ok)
      else { s with closed := true }.put t (.draining false)
  | .free => { s with aioGone := true }.put t .releasing
  | .openEngine => if s.engineOpen then s.put t (.outside .fail) else s.put t .opening

/-- The first lock of `begin_op`. -/
def letIn (s : EngineCore) (t : ThreadId) (op : BlockingOp) : EngineCore :=
  if s.closed then s.put t (.outside .closed)
  else { s with active := s.active + 1 }.put t (.admitted op s.acceptor)

/-- The lock of `tunio_tcp_async_accept`. -/
def enrol (s : EngineCore) (t : ThreadId) (transport : Traffic) (cb : Option Callback) :
    EngineCore :=
  let s := { s with cb := Function.update s.cb transport cb }
  if cb.isSome ∧ ¬s.accepting transport then
    { s with accepting := Function.update s.accepting transport true }.put t (.arming transport)
  else if cb = none ∧ s.accepting transport then s.put t (.cancelling transport)
  else s.put t (.outside .ok)

/-- A `close` that has nothing to stop, or has stopped it. -/
def left (free : Bool) : HostThread := if free then .joining else .outside .ok

/-- The callback of the continuous accept is being run. -/
def inCallback (s : EngineCore) : Bool :=
  match s.running with
  | some (.calling _ _ _) => true
  | _ => false

/-- A thread takes its next step, unless it has to wait.  `choice` decides what the source leaves
open: whether an initiation or an open succeeds, and whether a close is called by the callback that
runs, on the executor. -/
def advance (s : EngineCore) (t : ThreadId) (choice : Bool) : HostThread → EngineCore
  | .outside _ => s
  | .entered transport =>
      match s.acceptor with
      | none => s.put t (.outside .closed)
      | some acceptor => s.put t (.checked (.accept transport acceptor))
  | .checked op => s.letIn t op
  | .admitted op _ =>
      if choice then (s.post (.body t op s.epoch)).put t (.departing true)
      else s.put t (.departing false)
  | .departing initiated =>
      { s with active := s.active - 1 }.put t (if initiated then .waiting else .outside .fail)
  | .waiting =>
      match s.slots t with
      | none => s
      | some ec => s.put t (.outside (errorFromEc ec))
  | .registering transport cb => s.enrol t transport cb
  | .arming transport => if s.closed then s.put t (.outside .ok) else s.put t (.posting transport)
  | .posting transport => (s.post (.arm transport)).put t (.outside .ok)
  | .cancelling transport => (s.post (.cancel transport)).put t (.outside .ok)
  | .releasing =>
      if s.closed then s.put t .joining else { s with closed := true }.put t (.draining true)
  | .draining free => if s.active = 0 then s.put t (.stopping free) else s
  | .stopping free =>
      if s.engineOpen then
        if choice ∧ s.inCallback then s.engineClose.put t (left free)
        else (s.post (.close t free)).put t (.closing free)
      else s.put t (left free)
  | .closing _ => s
  | .joining =>
      if s.tasks = [] ∧ s.running = none ∧ ¬s.engineOpen then s.put t (.outside .ok) else s
  | .opening =>
      if choice then { s with engineOpen := true, epoch := s.epoch + 1 }.put t .built
      else s.put t (.outside .fail)
  | .built => { s with acceptor := some s.epoch }.put t .replaced
  | .replaced => { s with closed := false }.put t (.outside .ok)

/-! The executor. -/

/-- The handler of the continuous accept up to its second lock. -/
def listened (s : EngineCore) (transport : Traffic) (result : AcceptResult) : EngineCore :=
  let s := { s with accepting := Function.update s.accepting transport false }
  match result with
  | .failure _ => s
  | .connection id => { s with running := some (.deciding transport id) }

/-- The handler of a blocked accept. -/
def answered (s : EngineCore) (transport : Traffic) (t : ThreadId) (result : AcceptResult) :
    EngineCore :=
  { s with
    slots := Function.update s.slots t (some result.ec)
    granted := Function.update s.granted transport (s.granted transport ++ result.flow.toList) }

/-- A read or write is taken up: it is over at once with `outcome`, or pending. -/
def startTransfer (s : EngineCore) (t : ThreadId) (outcome : Option ErrorCode) : EngineCore :=
  match outcome with
  | some ec => s.post (.finish t ec)
  | none =>
      if s.engineOpen then { s with transfers := s.transfers ++ [t] }
      else s.post (.finish t .badDescriptor)

/-- The executor runs a task. -/
def perform (s : EngineCore) (outcome : Option ErrorCode) : CoreTask → EngineCore
  | .body t (.accept transport _) epoch =>
      if epoch = s.epoch then s.asyncAccept transport (.caller t)
      else s.post (.completed transport (.caller t) (.failure .badDescriptor))
  | .body t .transfer _ => s.startTransfer t outcome
  | .completed transport holder result => s.post (.deliver transport holder result)
  | .deliver transport .listener result => s.listened transport result
  | .deliver transport (.caller t) result => s.answered transport t result
  | .finish t ec => { s with slots := Function.update s.slots t (some ec) }
  | .arm transport =>
      if s.closed ∨ s.acceptor = none then
        { s with accepting := Function.update s.accepting transport false }
      else { s with running := some (.accepting transport) }
  | .cancel transport =>
      if ¬s.closed ∧ s.acceptor ≠ none then s.attend transport (s.desk transport).cancel else s
  | .close t free => s.engineClose.put t (left free)

/-- The executor goes on where it is. -/
def proceed (s : EngineCore) : AcceptPhase → EngineCore
  | .accepting transport => { s with running := none }.asyncAccept transport .listener
  | .deciding transport id =>
      match s.cb transport with
      | some cb =>
          if s.closed ∨ s.aioGone then
            { s with
              running := none
              handled := Function.update s.handled transport (s.handled transport ++ [(id, none)]) }
          else
            { s with
              running := some (.calling transport id cb)
              handled :=
                Function.update s.handled transport (s.handled transport ++ [(id, some cb)]) }
      | none =>
          { s with
            running := none
            handled := Function.update s.handled transport (s.handled transport ++ [(id, none)]) }
  | .calling transport _ _ => { s with running := some (.rearming transport) }
  | .rearming transport =>
      if ¬s.accepting transport ∧ ¬s.aioGone ∧ ¬s.closed ∧ (s.cb transport).isSome then
        { s with
          accepting := Function.update s.accepting transport true
          running := some (.arming transport) }
      else { s with running := none }
  | .arming transport =>
      if s.closed then { s with running := none }
      else { s with running := some (.posting transport) }
  | .posting transport => { s with running := none }.post (.arm transport)

def strand (s : EngineCore) (outcome : Option ErrorCode) : EngineCore :=
  match s.running with
  | some phase => s.proceed phase
  | none =>
      match s.tasks with
      | [] => s
      | task :: rest => { s with tasks := rest }.perform outcome task

/-! What the engine does on its own, between the tasks. -/

def idle (s : EngineCore) : Prop := s.engineOpen ∧ s.running = none

instance (s : EngineCore) : Decidable s.idle := inferInstanceAs (Decidable (_ ∧ _))

/-- The connections of a transport are numbered. -/
def number (s : EngineCore) (transport : Traffic) : EngineCore :=
  { s with created := Function.update s.created transport (s.created transport + 1) }

def arrives (s : EngineCore) (transport : Traffic) : EngineCore :=
  (s.number transport).attend transport ((s.desk transport).arrive (s.created transport))

/-- A connection that waits for an accept is over. -/
def withdraw (s : EngineCore) (transport : Traffic) (id : FlowId) : EngineCore :=
  s.attend transport ((s.desk transport).withdraw ((s.desk transport).items.erase id))

def completes (s : EngineCore) (t : ThreadId) (ec : ErrorCode) : EngineCore :=
  if t ∈ s.transfers then { s with transfers := s.transfers.erase t }.post (.finish t ec) else s

inductive Move
  | call (t : ThreadId) (call : HostCall)
  | advance (t : ThreadId) (choice : Bool)
  | strand (outcome : Option ErrorCode)
  | arrives (transport : Traffic)
  | withdraw (transport : Traffic) (id : FlowId)
  | completes (t : ThreadId) (ec : ErrorCode)
  | deviceFails
  deriving DecidableEq, Repr

def step (s : EngineCore) : Move → EngineCore
  | .call t call =>
      match s.threads[t]? with
      | some (.outside _) => s.enter t call
      | _ => s
  | .advance t choice =>
      match s.threads[t]? with
      | some thread => s.advance t choice thread
      | none => s
  | .strand outcome => s.strand outcome
  | .arrives transport => if s.idle then s.arrives transport else s
  | .withdraw transport id => if s.idle then s.withdraw transport id else s
  | .completes t ec => if s.idle then s.completes t ec else s
  | .deviceFails => if s.idle then s.engineClose else s

def run (s : EngineCore) (moves : List Move) : EngineCore := moves.foldl step s

/-- `tunio_engine_new`, and `count` threads that may use the handle. -/
def fresh (count : Nat) : EngineCore := { threads := List.replicate count (.outside .ok) }

end EngineCore

end Tunio
