import Tunio.Input

/-!
The send coroutine (`build_next_segment`, `send_window_probe`, `write_loop`,
`retransmit_unacked`).  `turn` is one iteration of the loop from its head to the
next suspension, and `afterAwait` is the code behind each suspension.
-/

namespace Tunio

/-- The loop that moves the position over buffers it has used up. -/
def skipBuffers : List (List UInt8) → Nat → Nat → Nat × Nat
  | [], index, off => (index, off)
  | buffer :: rest, index, off =>
      if buffer.length ≤ off then skipBuffers rest (index + 1) (off - buffer.length)
      else (index, off)

def normalize (op : WriteOp) : WriteOp :=
  let at_ := skipBuffers (op.buffers.drop op.bufIndex) op.bufIndex op.bufOff
  { op with bufIndex := at_.1, bufOff := at_.2 }

def currentBuffer (op : WriteOp) : List UInt8 := op.buffers.getD op.bufIndex []

/-- Returns `false` when no segment could be built. -/
def buildNextSegment (c : Conn) (op : WriteOp) (inFlight : UInt32) : Conn × Bool :=
  let op := normalize op
  let c := { c with flow.activeWrite := some op }
  if op.bufIndex = op.buffers.length then (c, false)
  else
    let remaining := op.total - op.offset
    let avail := (currentBuffer op).length - op.bufOff
    let chunk := min (min remaining avail)
      (min (mss c.eng.cfg c.flow.key.family) (c.flow.peerWnd - inFlight).toNat)
    if chunk = 0 then (c, false)
    else
      let payload := ((currentBuffer op).drop op.bufOff).take chunk
      let built := buildSegment c c.flow.sndNxt (tcpAck ||| tcpPsh) payload false
      let builds := c.builds ++ [buildPoint c]
      let c := built.2
      let op := { op with offset := op.offset + chunk, bufOff := op.bufOff + chunk }
      ({ c with
         out := c.out ++ [built.1]
         builds := builds
         flow.sndNxt := c.flow.sndNxt + UInt32.ofNat chunk
         flow.activeWrite := some op }, true)

def sendWindowProbe (c : Conn) (op : WriteOp) : Conn :=
  let op := normalize op
  let c := { c with flow.activeWrite := some op }
  if op.bufIndex ≥ op.buffers.length ∨ op.offset ≥ op.total then c
  else
    let probe := ((currentBuffer op).drop op.bufOff).take 1
    let c := sendSegment c c.flow.sndNxt tcpAck probe false
    { c with flow.probeInFlight := true }

/-- The second loop of `retransmit_unacked`: offset and payload of each segment.
`buffers` starts with the current buffer, whose first byte has offset `base`. -/
def retransmitChunks (segMss stop : Nat) :
    Nat → List (List UInt8) → Nat → Nat → Nat → List (Nat × List UInt8)
  | 0, _, _, _, _ => []
  | _, [], _, _, _ => []
  | fuel + 1, buffer :: rest, base, off, budget =>
      if off < stop ∧ budget > 0 then
        let bo := off - base
        let avail := buffer.length - bo
        let want := min (min (stop - off) avail) (min budget segMss)
        if want = 0 then []
        else
          (off, (buffer.drop bo).take want) ::
            if off + want ≥ base + buffer.length then
              retransmitChunks segMss stop fuel rest (base + buffer.length) (off + want)
                (budget - want)
            else
              retransmitChunks segMss stop fuel (buffer :: rest) base (off + want) (budget - want)
      else []

/-- The first loop of `retransmit_unacked`: the buffers from the one that holds `off`. -/
def seekBuffers : List (List UInt8) → Nat → Nat → List (List UInt8) × Nat
  | [], base, _ => ([], base)
  | buffer :: rest, base, off =>
      if base + buffer.length ≤ off then seekBuffers rest (base + buffer.length) off
      else (buffer :: rest, base)

def retransmitPlan (c : Conn) (op : WriteOp) (maxBytes : Nat) : List (Nat × List UInt8) :=
  let begin_ := (c.flow.sndUna - op.startSeq).toNat
  let stop := min (c.flow.sndNxt - op.startSeq).toNat op.total
  let seek := seekBuffers op.buffers 0 begin_
  retransmitChunks (mss c.eng.cfg c.flow.key.family) stop (stop - begin_) seek.1 seek.2 begin_
    maxBytes

def retransmitUnacked (c : Conn) (maxBytes : Nat) : Conn :=
  match c.flow.activeWrite with
  | none => c
  | some op =>
      if c.flow.sndUna = c.flow.sndNxt then c
      else
        (retransmitPlan c op maxBytes).foldl (fun c chunk =>
          sendSegment c (op.startSeq + UInt32.ofNat chunk.1) (tcpAck ||| tcpPsh) chunk.2 false) c

/-- The end of the coroutine: a write that is still active fails. -/
def exitLoop (c : Conn) : Conn :=
  match c.flow.activeWrite with
  | some op =>
      let err := if c.flow.rst then ErrorCode.connectionReset else .badDescriptor
      postWrite { c with flow.activeWrite := none } op.handler err 0
  | none => c

inductive Turn
  | again (c : Conn) (loop : WriteLoop)
  | suspend (c : Conn) (loop : WriteLoop)
  | done (c : Conn)

/-- Waiting on `write_ch || timer`; a closed channel completes the wait at once. -/
def race (c : Conn) (loop : WriteLoop) (await : Await) : Turn :=
  let closed := match c.flow.writeCh with
    | some channel => !channel.isOpen
    | none => false
  .suspend c { loop with await := await, winner := if closed then some .signal else none }

def turn (c : Conn) (loop : WriteLoop) : Turn :=
  match c.flow.activeWrite with
  | none => .done c
  | some op =>
      if c.flow.state = .closed ∨ c.flow.rst then .done (exitLoop c)
      else
        let writeEnd := op.startSeq + UInt32.ofNat op.total
        let loop := { loop with writeEnd := writeEnd }
        if op.offset = op.total ∧ c.flow.sndUna = writeEnd then
          .done (postWrite { c with flow.activeWrite := none } op.handler .success op.total)
        else if c.flow.state ≠ .established ∧ ¬op.implicitAccept then race c loop .handshake
        else if c.flow.peerWnd = 0 then race c loop .window
        else
          let inFlight := c.flow.sndNxt - c.flow.sndUna
          if op.offset < op.total ∧ inFlight < c.flow.peerWnd then
            match buildNextSegment c op inFlight with
            | (c, false) => .done (exitLoop c)
            | (c, true) => .suspend c { loop with await := .device, winner := none }
          else if c.flow.sndUna ≠ loop.lastUna then
            .again c { loop with lastUna := c.flow.sndUna }
          else race c loop .ack

/-- Iterations without a suspension between them; the second one never asks for a third. -/
def loopHead (c : Conn) (loop : WriteLoop) : Turn :=
  match turn c loop with
  | .again c loop => turn c loop
  | other => other

def persistMax : Int := 60000
def rtoMax : Int := 60000

def afterWindow (c : Conn) (loop : WriteLoop) (winner : Winner) : Turn :=
  match winner with
  | .signal =>
      .again c { loop with persistProbes := 0, persistInterval := c.eng.cfg.tcpPersistTimeout }
  | .timer =>
      let loop := { loop with persistProbes := loop.persistProbes + 1 }
      if loop.persistProbes > c.eng.cfg.tcpPersistMaxProbes then .done (exitLoop (abortFlow c))
      else
        match c.flow.activeWrite with
        | none => .done { c with fault := true }
        | some op =>
            let c :=
              if op.offset < op.total then sendWindowProbe c op
              else if c.flow.sndUna ≠ loop.writeEnd then
                retransmitUnacked c (mss c.eng.cfg c.flow.key.family)
              else c
            let interval :=
              if loop.persistInterval < persistMax then min (loop.persistInterval * 2) persistMax
              else loop.persistInterval
            .again c { loop with persistInterval := interval }

def afterAck (c : Conn) (loop : WriteLoop) (winner : Winner) : Turn :=
  let settled := { loop with lastUna := c.flow.sndUna }
  match winner with
  | .signal =>
      if c.flow.sndUna ≠ loop.lastUna then
        .again c { settled with rto := c.eng.cfg.tcpRtoTimeout, retransmits := 0 }
      else .again c settled
  | .timer =>
      if c.flow.sndUna = loop.lastUna then
        let settled := { settled with retransmits := loop.retransmits + 1 }
        if settled.retransmits > c.eng.cfg.tcpRtoMaxRetransmits then
          .done (exitLoop (abortFlow c))
        else
          let c :=
            if c.flow.sndUna ≠ loop.writeEnd then retransmitUnacked c c.flow.peerWnd.toNat else c
          .again c { settled with rto := min (loop.rto * 2) rtoMax }
      else .again c { settled with rto := c.eng.cfg.tcpRtoTimeout, retransmits := 0 }

def afterDevice (c : Conn) (loop : WriteLoop) (failed : Bool) : Turn :=
  if failed then .done (exitLoop c)
  else if c.flow.activeWrite.isNone then .done c
  else .again c loop

def afterRace (c : Conn) (loop : WriteLoop) (winner : Winner) : Turn :=
  match loop.await with
  | .handshake => .again c loop
  | .window => afterWindow c loop winner
  | .ack => afterAck c loop winner
  | .device => .suspend c loop

def continueLoop : Turn → Turn
  | .again c loop => loopHead c loop
  | other => other

/-- The start of `write_loop`, up to its first suspension. -/
def startLoop (c : Conn) : Turn :=
  match c.flow.activeWrite with
  | none => .done c
  | some op =>
      let c := { c with
        flow.writeCh := some (c.flow.writeCh.getD { isOpen := true })
        flow.activeWrite := some { op with startSeq := c.flow.sndNxt } }
      loopHead c {
        persistInterval := c.eng.cfg.tcpPersistTimeout
        rto := c.eng.cfg.tcpRtoTimeout
        lastUna := c.flow.sndUna
      }

end Tunio
