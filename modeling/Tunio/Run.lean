import Tunio.Api

/-!
Runs of one flow.  An event is anything that can happen to the flow on the strand;
`elsewhere` is whatever the rest of the engine does to the members the flow shares; the
clock of the engine is a steady one.
-/

namespace Tunio

inductive Event
  | segment (th : TcpHeader) (data : List UInt8)
  | read (buffers : List Nat) (handler : HandlerId)
  | write (buffers : List (List UInt8)) (handler : HandlerId)
  | shutdownSend
  | shutdownReceive
  | close
  | reset
  | accept
  | reject
  | handOut
  | timer (index : Nat)
  | resume (index : Nat)
  | device (index : Nat) (failed : Bool)
  | ackTimerExpires
  | ackTimerRuns
  | sweep
  | closeAll
  | elsewhere (eng : TcpEngine)

/-- `on_packet` for a segment that finds this flow in the table. -/
def receiveSegment (c : Conn) (th : TcpHeader) (data : List UInt8) : Conn :=
  if c.flow.state = .closed then c
  else if c.flow.state = .timeWait ∧ isSyn th then closeFlow c .success
  else handleSegment c th data

/-- `async_accept` hands the flow to a handler. -/
def handOut (c : Conn) : Conn :=
  if c.flow.pendingAccept then
    let c := { c with flow.pendingAccept := false }
    if c.flow.state = .closed then c else { c with flow.accepted := true }
  else c

def step (c : Conn) : Event → Conn
  | .segment th data => receiveSegment c th data
  | .read buffers handler => doReadSome c buffers handler
  | .write buffers handler => doWriteSome c buffers handler
  | .shutdownSend => tcpFlowShutdownSend c
  | .shutdownReceive => tcpFlowShutdownReceive c
  | .close => tcpFlowClose c
  | .reset => tcpFlowReset c
  | .accept => tcpFlowAccept c
  | .reject => tcpFlowReject c
  | .handOut => handOut c
  | .timer index => timerFires c index
  | .resume index => resumeLoop c index
  | .device index failed => deviceDone c index failed
  | .ackTimerExpires => ackTimerExpires c
  | .ackTimerRuns => ackTimerRuns c
  | .sweep => sweepFlow c
  | .closeAll => closeFlow c .operationAborted
  | .elsewhere eng =>
      { c with eng := { eng with cfg := c.eng.cfg, now := max c.eng.now eng.now } }

def run (c : Conn) (events : List Event) : Conn := events.foldl step c

@[simp] theorem run_nil (c : Conn) : run c [] = c := rfl

@[simp] theorem run_cons (c : Conn) (event : Event) (events : List Event) :
    run c (event :: events) = run (step c event) events := rfl

theorem run_append (c : Conn) (first second : List Event) :
    run c (first ++ second) = run (run c first) second := by
  simp [run]

/-- A property of the start that every step keeps holds after every run. -/
theorem run_invariant (holds : Conn → Prop) (keeps : ∀ c event, holds c → holds (step c event))
    (c : Conn) (events : List Event) (start : holds c) : holds (run c events) := by
  induction events generalizing c with
  | nil => exact start
  | cons event events ih => exact ih (step c event) (keeps c event start)

/-- Every event of a run meets a condition on it and on the flow it happens to. -/
def Always (meets : Conn → Event → Prop) (c : Conn) : List Event → Prop
  | [] => True
  | event :: events => meets c event ∧ Always meets (step c event) events

theorem Always.split {meets : Conn → Event → Prop} {c : Conn} (before : List Event)
    (event : Event) (always : Always meets c (before ++ [event])) :
    Always meets c before ∧ meets (run c before) event := by
  induction before generalizing c with
  | nil => exact ⟨trivial, always.1⟩
  | cons first rest ih =>
      obtain ⟨kept, last⟩ := ih always.2
      exact ⟨⟨always.1, kept⟩, last⟩

theorem Always.imp {meets meets' : Conn → Event → Prop}
    (weaker : ∀ c event, meets c event → meets' c event) {c : Conn} {events : List Event}
    (always : Always meets c events) : Always meets' c events := by
  induction events generalizing c with
  | nil => trivial
  | cons event events ih => exact ⟨weaker c event always.1, ih always.2⟩

theorem Always.of_forall {meets : Conn → Event → Prop} (all : ∀ c event, meets c event) (c : Conn)
    (events : List Event) : Always meets c events := by
  induction events generalizing c with
  | nil => trivial
  | cons event events ih => exact ⟨all c event, ih (step c event)⟩

instance Always.decidable (meets : Conn → Event → Prop)
    [decides : ∀ c event, Decidable (meets c event)] (c : Conn) (events : List Event) :
    Decidable (Always meets c events) :=
  match events with
  | [] => isTrue trivial
  | event :: rest =>
      have := Always.decidable meets (step c event) rest
      inferInstanceAs (Decidable (meets c event ∧ Always meets (step c event) rest))

/-- The flow of a SYN with the given window, in an engine of its own. -/
def opened (cfg : TunConfig) (window : UInt16) : Conn :=
  openFlow { cfg := cfg, account := { limit := cfg.maxTotalBuffer } } 0
    { srcIp := Vector.replicate 16 1, dstIp := Vector.replicate 16 2, srcPort := 1, dstPort := 2
      protocol := 6, family := 4 }
    { srcPort := 1, dstPort := 2, seq := 7, ack := 0, dataOffset := 0x50, flags := tcpSyn
      window := window } [] [] 1000

/-- A segment of that peer. -/
def peerSegment (seq ack : UInt32) (flags : UInt8) (window : UInt16) : TcpHeader :=
  { srcPort := 1, dstPort := 2, seq := seq, ack := ack, dataOffset := 0x50, flags := flags
    window := window }

end Tunio
