import Tunio.Reorder

/-! Processing an inbound segment (`parse_syn_wscale`, `on_packet`, `handle_segment`,
`handle_ack`). -/

namespace Tunio

/-- The option walk of a SYN; `fuel` bounds it by the header length. -/
def parseSynWscaleFrom (payload : List UInt8) (hlen : Nat) : Nat → Nat → UInt8 × Bool → UInt8 × Bool
  | 0, _, found => found
  | fuel + 1, o, found =>
      if o + 2 ≤ hlen ∧ payload.getD o 0 ≠ 0 then
        let kind := payload.getD o 0
        if kind = 1 then parseSynWscaleFrom payload hlen fuel (o + 1) found
        else
          let olen := payload.getD (o + 1) 0
          if olen < 2 ∨ o + olen.toNat > hlen then found
          else
            let found :=
              if kind = 3 ∧ olen = 3 ∧ payload.getD (o + 2) 0 ≤ 14 then
                (payload.getD (o + 2) 0, true)
              else found
            parseSynWscaleFrom payload hlen fuel (o + olen.toNat) found
      else found

def parseSynWscale (payload : List UInt8) (hlen : Nat) : UInt8 × Bool :=
  parseSynWscaleFrom payload hlen hlen 20 (0, false)

def isSyn (th : TcpHeader) : Bool := hasFlag th.flags tcpSyn && !hasFlag th.flags tcpAck

def synFlow (eng : TcpEngine) (id : FlowId) (key : FiveTuple) (th : TcpHeader)
    (payload : List UInt8) (iss : UInt32) : TcpFlow :=
  let found := parseSynWscale payload th.headerLen
  { id := id
    key := key
    irs := th.seq
    iss := iss
    rcvNxt := th.seq + 1
    sndNxt := iss
    sndUna := iss
    state := .synRcvd
    wscaleOk := found.2
    sndWndScale := if found.2 then found.1 else 0
    rcvWndScale := if found.2 then kRcvWndScale else 0
    peerWnd := th.window.toUInt32
    createdAt := eng.now }

/-- The data that a SYN carries. -/
def takeSynData (c : Conn) (th : TcpHeader) (data : List UInt8) : Conn :=
  if data.length > 0 ∧ th.seq + 1 = c.flow.rcvNxt then
    match admitData c data.length with
    | some account =>
        { c with
          eng.account := account
          flow.rxData := c.flow.rxData ++ data
          flow.rxBytes := c.flow.rxBytes + data.length
          flow.rcvNxt := c.flow.rcvNxt + UInt32.ofNat data.length }
    | none => countDropped c
  else c

/-- The flow `on_packet` makes for a SYN, with the data the SYN carries. -/
def openFlow (eng : TcpEngine) (id : FlowId) (key : FiveTuple) (th : TcpHeader)
    (payload data : List UInt8) (iss : UInt32) : Conn :=
  let flow := synFlow eng id key th payload iss
  notifyAccept
    (takeSynData { flow := flow, eng := { eng with flows := (key, id) :: eng.flows } } th data)

/-- The ACK of a window probe: the probe byte was not counted in `snd_nxt`. -/
def acceptProbe (c : Conn) (ack : UInt32) : Conn :=
  let c := { c with flow.sndUna := ack, flow.sndNxt := ack }
  match c.flow.activeWrite with
  | some op =>
      if op.offset < op.total then
        let op := { op with offset := op.offset + 1, bufOff := op.bufOff + 1 }
        { c with flow.activeWrite := some op }
      else c
  | none => c

def advanceUna (c : Conn) (ack : UInt32) : Conn :=
  if seqGt ack c.flow.sndUna && seqGe c.flow.sndNxt ack then { c with flow.sndUna := ack }
  else if c.flow.probeInFlight && ack == c.flow.sndNxt + 1 && seqGt ack c.flow.sndUna then
    acceptProbe c ack
  else c

def sendDeferredFin (c : Conn) : Conn :=
  if c.flow.finPending ∧ c.flow.sndUna = c.flow.sndNxt ∧
      (∀ op ∈ c.flow.activeWrite, op.offset = op.total) then
    sendFin { c with flow.finPending := false }
  else c

def clearProbe (c : Conn) : Conn := { c with flow.probeInFlight := false }

/-- The end of `handle_ack`: the FIN of this side may be acknowledged.  `false` when the
flow was closed and nothing more is to be done. -/
def confirmFin (c : Conn) (ack : UInt32) : Conn × Bool :=
  if c.flow.state = .finWait1 ∧ c.flow.finSent ∧ seqGe ack c.flow.sndNxt then
    if c.flow.finReceived then
      ({ c with
         flow.state := .timeWait
         flow.destroyAt := c.eng.now + c.eng.cfg.tcpTimeWaitTimeout * 1000 }, true)
    else ({ c with flow.state := .finWait2 }, true)
  else if c.flow.state = .lastAck ∧ c.flow.finSent ∧ seqGe ack c.flow.sndNxt then
    (closeFlow c .success, false)
  else (c, true)

def handleAck (c : Conn) (ack : UInt32) : Conn × Bool :=
  confirmFin (sendDeferredFin (clearProbe (advanceUna c ack))) ack

def updatePeerWnd (c : Conn) (th : TcpHeader) : Conn :=
  { c with flow.peerWnd := th.window.toUInt32 <<< c.flow.sndWndScale.toUInt32 }

/-- The FIN of a segment with `len` bytes; one without data that is early is cached. -/
def segmentFin (c : Conn) (finSeq : UInt32) (len : Nat) : Conn :=
  if len = 0 ∧ seqGt finSeq c.flow.rcvNxt then
    let appended := oooAppend c finSeq [] true
    if appended.2 then countOoo appended.1 else sendAck appended.1
  else handleFin c finSeq

/-- The data and the FIN of a segment of an established flow. -/
def handlePayload (c : Conn) (th : TcpHeader) (data : List UInt8) : Conn :=
  let c := if data.length > 0 then handleData c th.seq data th.flags else c
  let c :=
    if hasFlag th.flags tcpFin then
      segmentFin c (th.seq + UInt32.ofNat data.length) data.length
    else c
  signalWrite c

def completeHandshake (c : Conn) : Conn :=
  let c := { c with
    flow.state := .established
    eng.stats.tcpConnections := c.eng.stats.tcpConnections + 1 }
  let c := if c.flow.accepted then c else notifyAccept c
  flushReads c

/-- `handle_segment` after its ACK and RST processing. -/
def handleByState (c : Conn) (th : TcpHeader) (data : List UInt8) : Conn :=
  match c.flow.state with
  | .closed => c
  | .synRcvd => c
  | .synAckSent =>
      if hasFlag th.flags tcpSyn ∧ th.seq = c.flow.irs then
        sendSegment c c.flow.iss (tcpSyn ||| tcpAck) [] true
      else if ¬hasFlag th.flags tcpAck ∨ th.ack ≠ c.flow.iss + 1 then c
      else handlePayload (completeHandshake c) th data
  | _ => handlePayload c th data

def handleAckField (c : Conn) (th : TcpHeader) : Conn × Bool :=
  if hasFlag th.flags tcpAck then
    match handleAck c th.ack with
    | (c, false) => (c, false)
    | (c, true) => (updatePeerWnd c th, true)
  else (c, true)

def handleSegment (c : Conn) (th : TcpHeader) (data : List UInt8) : Conn :=
  match handleAckField c th with
  | (c, false) => c
  | (c, true) =>
      if hasFlag th.flags tcpRst then
        closeFlow { c with flow.rst := true } .connectionReset
      else handleByState c th data

end Tunio
