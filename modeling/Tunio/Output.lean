import Tunio.Types

/-!
Building and submitting segments, and the receive window they announce
(`tcp_engine.cpp`: `current_wnd` to `notify_window_updated`).
-/

namespace Tunio

def mss (cfg : TunConfig) (family : UInt8) : Nat :=
  if family = 6 then if cfg.mtu > 60 then cfg.mtu - 60 else 1220
  else if cfg.mtu > 40 then cfg.mtu - 40 else 536

theorem mss_pos (cfg : TunConfig) (family : UInt8) : 0 < mss cfg family := by
  unfold mss
  split <;> split <;> omega

def currentWnd (c : Conn) : UInt32 :=
  let queued : UInt32 := UInt32.ofNat (c.flow.rxBytes + c.flow.oooBytes)
  let limit := c.eng.cfg.maxRxQueuePerFlow
  let wnd : UInt32 := fixedRcvWnd
  let wnd : UInt32 :=
    if limit > queued.toNat then min wnd (UInt32.ofNat (limit - queued.toNat)) else 0
  let wnd : UInt32 :=
    if c.eng.account.limit ≠ 0 then
      let globalAvail :=
        if c.eng.account.limit > c.eng.account.used then
          c.eng.account.limit - c.eng.account.used
        else 0
      min wnd (UInt32.ofNat globalAvail)
    else wnd
  if wnd.toNat < mss c.eng.cfg c.flow.key.family then 0 else wnd

def synOptions (cfg : TunConfig) (flow : TcpFlow) : List UInt8 :=
  let m := mss cfg flow.key.family
  [2, 4, UInt8.ofNat (m >>> 8), UInt8.ofNat (m &&& 0xff)] ++
    if flow.wscaleOk then [3, 3, kRcvWndScale, 1] else [1, 1, 1, 1]

/-- The segment `build_segment` writes, and the flow with the window it announced. -/
def buildSegment (c : Conn) (seq : UInt32) (flags : UInt8) (payload : List UInt8)
    (withMss : Bool) : Segment × Conn :=
  let scale := if c.flow.state = .synAckSent then 0 else c.flow.rcvWndScale
  let wnd := currentWnd c
  let scaled := wnd >>> scale.toUInt32
  ({ seq := seq
     ack := c.flow.rcvNxt
     dataOffset := (if withMss then (7 : UInt8) else 5) <<< 4
     flags := flags
     window := if scaled > 65535 then 65535 else scaled.toUInt16
     options := if withMss then synOptions c.eng.cfg c.flow else []
     payload := payload },
    { c with flow.lastWndAdvertised := wnd })

def buildPoint (c : Conn) : BuildPoint := { state := c.flow.state, wnd := currentWnd c }

def sendSegment (c : Conn) (seq : UInt32) (flags : UInt8) (payload : List UInt8)
    (withMss : Bool) : Conn :=
  if c.flow.state = .closed then c
  else
    let built := buildSegment { c with flow.ackPending := false } seq flags payload withMss
    { built.2 with out := c.out ++ [built.1], builds := c.builds ++ [buildPoint c] }

def sendAck (c : Conn) : Conn := sendSegment c c.flow.sndNxt tcpAck [] false

/-- In milliseconds. -/
def kDelayedAckTimeout : Int := 40

/-- Re-arming the timer cancels the outstanding wait; expired waits stay queued. -/
def noteDataAck (c : Conn) : Conn :=
  if c.flow.ackPending then sendAck c
  else
    let expired := match c.flow.ackTimer with
      | some timer => timer.expired
      | none => 0
    { c with
      flow.ackPending := true
      flow.ackTimer := some {
        expiry := c.eng.now + kDelayedAckTimeout
        waiting := true
        expired := expired } }

def flushPendingAck (c : Conn) : Conn :=
  if c.flow.ackPending then sendAck c else c

def notifyWindowUpdated (c : Conn) : Conn :=
  if c.flow.state = .closed then c
  else
    let wnd := currentWnd c
    let mssBytes := mss c.eng.cfg c.flow.key.family
    let last := c.flow.lastWndAdvertised
    let c :=
      if (last = 0 ∧ wnd.toNat ≥ mssBytes) ∨
          (last ≠ 0 ∧ wnd.toNat > last.toNat + mssBytes) then sendAck c
      else c
    { c with flow.lastWndAdvertised := wnd }

/-! The write channel: a signal or the closing of the channel completes the
pending receive of a suspended send coroutine. -/

def WriteLoop.receives (loop : WriteLoop) : Bool :=
  loop.await != .device && loop.winner == none

def wakeFirst : List WriteLoop → List WriteLoop
  | [] => []
  | loop :: rest =>
      if loop.receives then { loop with winner := some .signal } :: rest
      else loop :: wakeFirst rest

def wakeAll (loops : List WriteLoop) : List WriteLoop :=
  loops.map fun loop => if loop.receives then { loop with winner := some .signal } else loop

def signalWrite (c : Conn) : Conn :=
  match c.flow.writeCh with
  | some channel => if channel.isOpen then { c with loops := wakeFirst c.loops } else c
  | none => c

def closeWriteCh (c : Conn) : Conn :=
  match c.flow.writeCh with
  | some _ => { c with flow.writeCh := some { isOpen := false }, loops := wakeAll c.loops }
  | none => c

/-! Shared helpers for completions and for the accounting of the receive side. -/

def postRead (c : Conn) (handler : HandlerId) (ec : ErrorCode) (n : Nat)
    (data : List (List UInt8)) : Conn :=
  { c with reads := c.reads ++ [{ handler := handler, ec := ec, n := n, data := data }] }

def postWrite (c : Conn) (handler : HandlerId) (ec : ErrorCode) (n : Nat) : Conn :=
  { c with writes := c.writes ++ [{ handler := handler, ec := ec, n := n }] }

def countDropped (c : Conn) : Conn :=
  { c with eng.stats.rxDropped := c.eng.stats.rxDropped + 1 }

def countOoo (c : Conn) : Conn :=
  { c with eng.stats.rxOoo := c.eng.stats.rxOoo + 1 }

def releaseBytes (c : Conn) (n : Nat) : Conn :=
  { c with eng.account := c.eng.account.release n }

def completeRead (c : Conn) (op : Option ReadOp) (ec : ErrorCode) : Conn :=
  match op with
  | some op => postRead c op.handler ec 0 []
  | none => c

def completeWrite (c : Conn) (op : Option WriteOp) (ec : ErrorCode) : Conn :=
  match op with
  | some op => postWrite c op.handler ec 0
  | none => c

/-- Drops everything that is queued for the application and returns its budget. -/
def dropReceived (c : Conn) : Conn :=
  let c := if c.flow.rxBytes > 0 then releaseBytes c c.flow.rxBytes else c
  let c := { c with flow.rxBytes := 0, flow.rxData := [], flow.rxHead := 0 }
  let c := if c.flow.oooBytes > 0 then releaseBytes c c.flow.oooBytes else c
  { c with flow.oooBytes := 0, flow.oooCache := ∅, flow.oooCount := 0 }

end Tunio
