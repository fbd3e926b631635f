import Tunio.Freeze
import Tunio.Window

/-!
Window updates.  After a read the new window is compared with `last_wnd_advertised`, which
then takes the new value whether a segment went out or not.  What reaches the peer depends on
the last window that was really submitted, so small reads can hide any growth from it.
-/

namespace Tunio

open Machines Inbox

/-- The window that went into the last segment submitted for the flow. -/
def announced (c : Conn) : Option UInt32 := c.builds.getLast?.map BuildPoint.wnd

/-- Growth that the peer has to hear of: more than a segment, or the end of a zero window. -/
def Grown (last now : UInt32) (mssBytes : Nat) : Prop :=
  (last = 0 ∧ mssBytes ≤ now.toNat) ∨ last.toNat + mssBytes < now.toNat

instance (last now : UInt32) (mssBytes : Nat) : Decidable (Grown last now mssBytes) :=
  inferInstanceAs (Decidable (_ ∨ _))

/-- The window has not grown notably since the last segment. -/
def Told (c : Conn) : Prop := ∀ wnd ∈ announced c, ¬Grown wnd (currentWnd c) (mssOf c)

instance (c : Conn) : Decidable (Told c) := Option.decidableForallMem (announced c)

def NoneCached (flow : TcpFlow) : Prop := flow.oooCache.isEmpty = true ∧ flow.oooBytes = 0

instance (flow : TcpFlow) : Decidable (NoneCached flow) := inferInstanceAs (Decidable (_ ∧ _))

/-- The flow without the first `n` queued bytes, as far as its window is concerned. -/
def freed (c : Conn) (n : Nat) : Conn :=
  releaseBytes { c with flow.rxBytes := c.flow.rxBytes - n } n

/-- A read of `n` bytes finds the growth that the peer has not heard of: an ACK is due anyway,
or the window has grown over `last_wnd_advertised` as well. -/
def Noticed (c : Conn) (n : Nat) : Prop :=
  c.flow.ackPending = true ∨ ∀ wnd ∈ announced c, Grown wnd (currentWnd (freed c n)) (mssOf c) →
    Grown c.flow.lastWndAdvertised (currentWnd (freed c n)) (mssOf c)

instance (c : Conn) (n : Nat) : Decidable (Noticed c n) :=
  have := Option.decidableForallMem (p := fun wnd =>
    Grown wnd (currentWnd (freed c n)) (mssOf c) →
      Grown c.flow.lastWndAdvertised (currentWnd (freed c n)) (mssOf c)) (announced c)
  inferInstanceAs (Decidable (_ ∨ _))

/-- `start_read` gets as far as the handshake. -/
def Readable (flow : TcpFlow) : Prop :=
  flow.appClosed = false ∧ flow.rxShutdown = false ∧ flow.rst = false

instance (flow : TcpFlow) : Decidable (Readable flow) := inferInstanceAs (Decidable (_ ∧ _ ∧ _))

/-- Queued bytes are handed out at once to a new read of up to `total` bytes. -/
def Serves (flow : TcpFlow) (total : Nat) : Prop :=
  Readable flow ∧ 0 < total ∧ flow.activeRead = none ∧ 0 < flow.rxBytes

instance (flow : TcpFlow) (total : Nat) : Decidable (Serves flow total) :=
  inferInstanceAs (Decidable (_ ∧ _ ∧ _ ∧ _))

/-- What an event that completes a read needs for the peer to know the window afterwards.  A
direct delivery is acknowledged; a read that frees bytes has to notice the growth; otherwise
the peer must know already, unless the handshake or the FIN brings the window along. -/
def Heard (c : Conn) : Event → Prop
  | .read buffers _ =>
      (Readable c.flow ∧ c.flow.state = .synRcvd) ∨
        if Serves c.flow buffers.sum then Noticed c (min buffers.sum c.flow.rxBytes) else Told c
  | .shutdownReceive => Told c
  | .close =>
      ((c.flow.state = .established ∨ c.flow.state = .closeWait) ∧ c.flow.finSent = false) ∨ Told c
  | _ => True

instance (c : Conn) (event : Event) : Decidable (Heard c event) :=
  match event with
  | .read _ _ => inferInstanceAs (Decidable (_ ∨ _))
  | .shutdownReceive => inferInstanceAs (Decidable (Told c))
  | .close => inferInstanceAs (Decidable (_ ∨ _))
  | .segment _ _ | .write _ _ | .shutdownSend | .reset | .accept
  | .reject | .handOut | .timer _ | .resume _ | .device _ _ | .ackTimerExpires | .ackTimerRuns
  | .sweep | .closeAll | .elsewhere _ => isTrue trivial

/-! A read waits only while nothing is queued. -/

namespace Inbox

def Counted (box : Inbox) : Prop := box.rxHead + box.rxBytes = box.rxData.length

/-- The queue adds up, and a waiting read has nothing to wait for any longer. -/
structure Rested (box : Inbox) : Prop where
  counted : box.Counted
  idle : box.activeRead ≠ none → box.rxData = [] ∧ box.finReceived = false

theorem Counted.serve {box : Inbox} (counted : box.Counted) (op : ReadOp) :
    (box.serve op).Counted := by
  have short := copyOut_length op.buffers (min op.total box.rxBytes) (box.rxData.drop box.rxHead)
  unfold Counted at counted ⊢
  dsimp only [Inbox.serve, Inbox.post]
  omega

theorem Counted.compact {box : Inbox} (counted : box.Counted) : box.compact.Counted := by
  unfold Counted at counted ⊢
  unfold Inbox.compact
  split
  · dsimp only
    rw [List.length_drop]
    omega
  · exact counted

theorem Counted.flush {box : Inbox} (counted : box.Counted) : box.flush.Rested := by
  have eof (box : Inbox) (counted : box.Counted)
      (drained : box.activeRead ≠ none → box.rxData = []) : box.eof.Rested := by
    have emptied : box.rxData = [] → box.rxBytes = 0 := by
      intro empty
      unfold Counted at counted
      rw [empty, List.length_nil] at counted
      omega
    unfold Inbox.eof
    split
    · rename_i op reading
      split
      · exact ⟨counted, fun waits => absurd rfl waits⟩
      · rename_i goesOn
        have empty := drained (by rw [reading]; exact nofun)
        refine ⟨counted, fun _ => ⟨empty, ?_⟩⟩
        exact Bool.eq_false_of_not_eq_true fun finished => goesOn ⟨emptied empty, finished⟩
    · rename_i idle
      exact ⟨counted, fun waits => absurd idle waits⟩
  unfold Inbox.flush
  split
  · rename_i op reading
    split
    · exact eof _ (counted.serve op).compact fun waits => absurd (by
        unfold Inbox.compact
        split <;> rfl) waits
    · rename_i nothing
      refine eof _ counted.compact fun _ => ?_
      unfold Counted at counted
      unfold Inbox.compact
      split
      · dsimp only
        exact List.drop_eq_nil_of_le (by omega)
      · rename_i kept
        refine List.length_eq_zero_iff.mp ?_
        omega
  · rename_i idle
    exact eof _ counted.compact fun waits => absurd (by
      unfold Inbox.compact
      split <;> exact idle) waits

theorem Rested.place {box : Inbox} (rested : box.Rested) (data : List UInt8) :
    (box.place data).Rested := by
  have counted := rested.counted
  unfold Counted at counted
  unfold Inbox.place
  split
  · rename_i op empty _
    rw [empty, List.length_nil] at counted
    have filled : (box.fill op data).Counted ∧ (box.fill op data).activeRead = none := by
      unfold Counted Inbox.fill
      dsimp only
      split
      · refine ⟨?_, rfl⟩
        simp only [Inbox.post, empty, List.nil_append, List.length_drop]
        omega
      · refine ⟨?_, rfl⟩
        simp only [Inbox.post, empty, List.length_nil]
        omega
    dsimp only
    split
    · exact filled.1.flush
    · exact ⟨filled.1, fun waits => absurd filled.2 waits⟩
  · have queued : (box.queue data).Counted := by
      simp only [Counted, Inbox.queue, List.length_append]
      omega
    exact queued.flush

end Inbox

theorem rested_keeps : Inbox.Keeps Rested where
  cache _ _ rested := ⟨rested.counted, rested.idle⟩
  flush _ rested := rested.counted.flush
  fin box rested := by
    have counted : box.takeFin.Counted := by
      unfold Inbox.takeFin
      split <;> exact rested.counted
    exact counted.flush
  deliver c data isOpen rested := by
    cases shut : c.flow.rxShutdown with
    | true =>
        unfold deliverData
        split
        · exact rested
        · rw [sendAck_inbox]
          exact ⟨rested.counted, rested.idle⟩
    | false =>
        rcases deliverData_inbox c data isOpen shut with refused | placed
        · rwa [refused]
        · rw [placed]
          exact rested.place data

/-- What a new read does to the inbox: it is refused, or it waits and the queue is flushed. -/
theorem doReadSome_inbox (c : Conn) (buffers : List Nat) (handler : HandlerId) :
    (∃ ec, (doReadSome c buffers handler).inbox = c.inbox.refuse handler ec) ∨
      ∃ op, (doReadSome c buffers handler).inbox = { c.inbox with activeRead := some op }.flush := by
  have accepted : (if c.flow.state = .synRcvd then acceptFlow c else c).inbox = c.inbox := by
    split
    · unfold acceptFlow
      split
      · rfl
      · exact sendSegment_inbox c _ _ _ _
    · rfl
  unfold doReadSome tcpFlowStartRead
  split
  · exact Or.inl ⟨_, rfl⟩
  · split
    · exact Or.inl ⟨_, rfl⟩
    · dsimp only
      generalize (if c.flow.state = .synRcvd then acceptFlow c else c) = c₁ at accepted ⊢
      split
      · refine Or.inl ⟨.success, ?_⟩
        rw [← accepted]
        rfl
      · split
        · refine Or.inl ⟨.noBufferSpace, ?_⟩
          rw [← accepted]
          rfl
        · refine Or.inr ⟨{ buffers := buffers, total := buffers.sum, handler := handler }, ?_⟩
          rw [flushReads_inbox, ← accepted]
          rfl

/-- `close` that leaves the flow open drops what is queued and cancels the read. -/
theorem tcpFlowClose_inbox (c : Conn) (usable : ¬(c.flow.state = .closed ∨ c.flow.appClosed = true))
    (stays : (tcpFlowClose c).flow.state ≠ .closed) :
    (tcpFlowClose c).inbox = c.inbox.closed .operationAborted := by
  have begun : (beginClose c).inbox = { c.inbox.emptied with activeRead := none } := by
    unfold beginClose
    rw [dropReceived_inbox, closeWriteCh_inbox]
    rfl
  rw [tcpFlowClose_eq c usable] at stays ⊢
  rw [completeWrite_flow, completeRead_flow] at stays
  rw [completeWrite_inbox, completeRead_inbox]
  split at stays
  · exact absurd (abortFlow_state _) stays
  · rename_i settled
    rw [if_neg settled, (Aside.sendFin (beginClose c)).inbox.resolve_left stays, begun]
    rfl

theorem step_rested (c : Conn) (event : Event) (rested : c.flow.state ≠ .closed → c.inbox.Rested)
    (stays : (step c event).flow.state ≠ .closed) : (step c event).inbox.Rested := by
  have isOpen : c.flow.state ≠ .closed := fun closed => stays (step_closed c event closed)
  have rested := rested isOpen
  have others (other : event.receives = false) : (step c event).inbox.Rested := by
    rwa [(step_aside c event other).inbox.resolve_left stays]
  cases event with
  | segment th data => exact (rested_keeps.receiveSegment rested th data).resolve_left stays
  | read buffers handler =>
      change (doReadSome c buffers handler).inbox.Rested
      rcases doReadSome_inbox c buffers handler with ⟨ec, refused⟩ | ⟨op, started⟩
      · rw [refused]
        exact ⟨rested.counted, rested.idle⟩
      · rw [started]
        have counted : { c.inbox with activeRead := some op }.Counted := rested.counted
        exact counted.flush
  | shutdownReceive =>
      change (tcpFlowShutdownReceive c).inbox.Rested
      unfold tcpFlowShutdownReceive
      rw [if_neg isOpen]
      dsimp only
      rw [completeRead_inbox, dropReceived_inbox]
      unfold complete
      split <;> exact ⟨rfl, fun waits => absurd rfl waits⟩
  | close =>
      by_cases unusable : c.flow.state = .closed ∨ c.flow.appClosed = true
      · have same : step c .close = c := if_pos unusable
        rwa [same]
      · change (tcpFlowClose c).inbox.Rested
        rw [tcpFlowClose_inbox c unusable stays]
        unfold closed complete
        split <;> exact ⟨rfl, fun waits => absurd rfl waits⟩
  | _ => exact others rfl

theorem openFlow_rested (eng : TcpEngine) (id : FlowId) (key : FiveTuple) (th : TcpHeader)
    (payload data : List UInt8) (iss : UInt32) :
    (openFlow eng id key th payload data iss).inbox.Rested := by
  unfold openFlow
  dsimp only
  rw [notifyAccept_inbox]
  unfold takeSynData
  split
  · split
    · refine ⟨?_, fun waits => absurd rfl waits⟩
      show 0 + (0 + data.length) = ([] ++ data).length
      rw [Nat.zero_add, Nat.zero_add, List.nil_append]
    · exact ⟨rfl, fun waits => absurd rfl waits⟩
  · exact ⟨rfl, fun waits => absurd rfl waits⟩

theorem run_rested (eng : TcpEngine) (id : FlowId) (key : FiveTuple) (th : TcpHeader)
    (payload data : List UInt8) (iss : UInt32) (events : List Event) :
    let c := run (openFlow eng id key th payload data iss) events
    c.flow.state ≠ .closed → c.inbox.Rested :=
  run_invariant (fun c => c.flow.state ≠ .closed → c.inbox.Rested) step_rested _ events
    fun _ => openFlow_rested eng id key th payload data iss

/-! A segment that goes out carries the current window. -/

/-- The last segment submitted carries the current window. -/
def Current (c : Conn) : Prop := announced c = some (currentWnd c)

/-- What the window of a flow and the last announcement depend on. -/
def Conn.window (c : Conn) : List BuildPoint × UInt32 × Nat := (c.builds, currentWnd c, mssOf c)

theorem Told.congr {c d : Conn} (same : d.window = c.window) : Told d ↔ Told c := by
  have builds : d.builds = c.builds := congrArg (·.1) same
  have wnd : currentWnd d = currentWnd c := congrArg (·.2.1) same
  have size : mssOf d = mssOf c := congrArg (·.2.2) same
  unfold Told announced
  rw [builds, wnd, size]

theorem Current.congr {c d : Conn} (same : d.window = c.window) (current : Current c) :
    Current d := by
  have builds : d.builds = c.builds := congrArg (·.1) same
  have wnd : currentWnd d = currentWnd c := congrArg (·.2.1) same
  unfold Current announced at current ⊢
  rwa [builds, wnd]

theorem not_grown_self (wnd : UInt32) {mssBytes : Nat} (positive : 0 < mssBytes) :
    ¬Grown wnd wnd mssBytes := by
  rintro (⟨zero, large⟩ | beyond)
  · rw [zero] at large
    exact absurd large (Nat.not_le.mpr positive)
  · omega

theorem Current.told {c : Conn} (current : Current c) : Told c := by
  intro wnd isLast
  rw [current] at isLast
  obtain rfl := Option.some.inj isLast
  exact not_grown_self _ (mss_pos _ _)

theorem sendSegment_current (c : Conn) (seq : UInt32) (flags : UInt8) (payload : List UInt8)
    (withMss : Bool) (isOpen : c.flow.state ≠ .closed) :
    Current (sendSegment c seq flags payload withMss) := by
  unfold sendSegment Current announced
  rw [if_neg isOpen]
  dsimp only
  rw [List.getLast?_append, List.getLast?_singleton]
  rfl

theorem sendAck_current (c : Conn) (isOpen : c.flow.state ≠ .closed) : Current (sendAck c) :=
  sendSegment_current c _ _ _ _ isOpen

theorem compactRx_window (c : Conn) : (compactRx c).window = c.window := by
  unfold compactRx
  split <;> rfl

theorem deliverEof_window (c : Conn) : (deliverEof c).window = c.window := by
  unfold deliverEof
  split
  · split <;> rfl
  · rfl

theorem flushReads_window (c : Conn) (rests : c.flow.activeRead = none ∨ c.flow.rxBytes = 0) :
    (flushReads c).window = c.window := by
  unfold flushReads
  rw [deliverEof_window, compactRx_window]
  split
  · rename_i reading
    rw [if_neg]
    rw [rests.resolve_left (by rw [reading]; exact nofun)]
    exact Nat.lt_irrefl 0
  · rfl

/-! A segment that completes a read has been acknowledged. -/

theorem Inbox.Rested.empty {c : Conn} (rested : c.inbox.Rested) :
    c.flow.activeRead = none ∨ c.flow.rxBytes = 0 := by
  by_cases idle : c.flow.activeRead = none
  · exact Or.inl idle
  · right
    have counted : c.flow.rxHead + c.flow.rxBytes = c.flow.rxData.length := rested.counted
    have empty : c.flow.rxData = [] := (rested.idle idle).1
    rw [empty, List.length_nil] at counted
    omega

theorem handleFin_current (c : Conn) (finSeq : UInt32) (isOpen : c.flow.state ≠ .closed)
    (rested : c.inbox.Rested) : handleFin c finSeq = c ∨ Current (handleFin c finSeq) := by
  have taken : (takeFin c).flow.state = c.flow.state ∧
      (takeFin c).flow.activeRead = c.flow.activeRead ∧
        (takeFin c).flow.rxBytes = c.flow.rxBytes := by
    unfold takeFin
    split <;> exact ⟨rfl, rfl, rfl⟩
  unfold handleFin
  split
  · right
    have sent := sendAck_current (takeFin c) (by rwa [taken.1])
    have inbox : (finState (sendAck (takeFin c))).inbox = (takeFin c).inbox := by
      rw [finState_inbox, sendAck_inbox]
    have rests : (finState (sendAck (takeFin c))).flow.activeRead = none ∨
        (finState (sendAck (takeFin c))).flow.rxBytes = 0 := by
      rw [show (finState (sendAck (takeFin c))).flow.activeRead = c.flow.activeRead from
          (congrArg Inbox.activeRead inbox).trans taken.2.1,
        show (finState (sendAck (takeFin c))).flow.rxBytes = c.flow.rxBytes from
          (congrArg Inbox.rxBytes inbox).trans taken.2.2]
      exact rested.empty
    refine sent.congr ((flushReads_window _ rests).trans ?_)
    unfold finState
    split <;> rfl
  · split
    · exact Or.inr (sendAck_current c isOpen)
    · exact Or.inl rfl

theorem Inbox.flush_reads {box : Inbox} (idle : box.activeRead = none) :
    box.flush.reads = box.reads := by
  have waits : box.compact.activeRead = none := by
    unfold Inbox.compact
    split <;> exact idle
  unfold Inbox.flush Inbox.eof
  rw [idle]
  dsimp only
  rw [waits]
  dsimp only
  unfold Inbox.compact
  split <;> rfl

/-- There is nothing to flush in an inbox that rests. -/
theorem Inbox.Rested.flush_compact {box : Inbox} (rested : box.Rested) :
    box.flush = box.compact := by
  have ended (nothing : box.activeRead ≠ none → box.finReceived = false) :
      box.compact.eof = box.compact := by
    have kept : box.compact.activeRead = box.activeRead ∧
        box.compact.finReceived = box.finReceived := by
      unfold Inbox.compact
      split <;> exact ⟨rfl, rfl⟩
    unfold Inbox.eof
    split
    · rename_i op active
      have waits : box.activeRead ≠ none := by
        rw [← kept.1, active]
        exact nofun
      rw [kept.2, nothing waits]
      exact if_neg fun both => Bool.noConfusion both.2
    · rfl
  have queued := rested.counted
  unfold Inbox.Counted at queued
  unfold Inbox.flush
  split
  · rename_i op active
    obtain ⟨empty, unfinished⟩ := rested.idle (by rw [active]; exact nofun)
    rw [empty, List.length_nil] at queued
    rw [if_neg (by omega)]
    exact ended fun _ => unfinished
  · rename_i idle
    exact ended fun waits => absurd idle waits

theorem Inbox.Rested.flush_reads {box : Inbox} (rested : box.Rested) : box.flush.reads = box.reads := by
  rw [rested.flush_compact]
  unfold Inbox.compact
  split <;> rfl

theorem deliverData_current (c : Conn) (data : List UInt8) (isOpen : c.flow.state ≠ .closed)
    (rested : c.inbox.Rested) :
    (deliverData c data).reads = c.reads ∨ Current (deliverData c data) := by
  unfold deliverData
  split
  · exact Or.inl rfl
  · split
    · exact Or.inl (congrArg Inbox.reads (sendAck_inbox _))
    · split
      · exact Or.inl rfl
      · rename_i account _
        unfold placeData
        split
        · right
          unfold deliverDirect
          dsimp only
          rw [if_neg (by rwa [fillRead_state])]
          refine sendAck_current _ ?_
          split
          · rw [flushReads_state, fillRead_state]
            exact isOpen
          · rw [fillRead_state]
            exact isOpen
        · rename_i buffered
          left
          have idle : c.flow.activeRead = none := by
            by_contra waits
            obtain ⟨op, reading⟩ := Option.ne_none_iff_exists'.mp waits
            exact buffered op (rested.idle waits).1 reading
          have queued : (c.inbox.queue data).activeRead = none := idle
          exact (congrArg Inbox.reads (deliverBuffered_inbox { c with eng.account := account }
            data)).trans (Inbox.flush_reads queued)

theorem flushOoo_none (c : Conn) (none : c.flow.oooCache.isEmpty = true) :
    flushOoo c = countCached c := by
  have list : c.flow.oooCache.toList = [] :=
    List.isEmpty_iff.mp (Std.TreeMap.isEmpty_toList.trans none)
  have ready : readyOoo (countCached c).flow = Option.none := by
    unfold readyOoo
    rw [show (countCached c).flow.oooCache = c.flow.oooCache from rfl, list]
    rfl
  unfold flushOoo
  rw [list]
  simp [pruneOoo, deliverOoo, ready, announceOoo]

theorem handleData_current (c : Conn) (seq : UInt32) (data : List UInt8) (flags : UInt8)
    (isOpen : c.flow.state ≠ .closed) (rested : c.inbox.Rested)
    (none : c.flow.oooCache.isEmpty = true) :
    (handleData c seq data flags).reads = c.reads ∨ Current (handleData c seq data flags) := by
  by_cases inOrder : InOrder c.flow.rcvNxt seq data.length
  · obtain ⟨fresh, _, _, same⟩ := handleData_inOrder c seq data flags inOrder
    rw [same, flushOoo_none _ (by rwa [deliverData_oooCache])]
    exact (deliverData_current c fresh isOpen rested).imp id fun current => current.congr rfl
  · left
    unfold handleData
    rw [if_neg fun start => inOrder (Or.inl start)]
    have appended : (oooAppend c seq data (hasFlag flags tcpFin)).1.reads = c.reads :=
      congrArg Inbox.reads (oooAppend_inbox c seq data _)
    split
    · dsimp only
      split
      · exact appended
      · exact (congrArg Inbox.reads (sendAck_inbox _)).trans appended
    · rename_i late
      dsimp only
      rw [if_neg fun reaches => inOrder (Or.inr ⟨Bool.eq_false_of_not_eq_true late, reaches⟩)]
      exact congrArg Inbox.reads (sendAck_inbox _)

theorem segmentFin_current (c : Conn) (finSeq : UInt32) (isOpen : c.flow.state ≠ .closed)
    (rested : c.inbox.Rested) :
    (segmentFin c finSeq 0).reads = c.reads ∨ Current (segmentFin c finSeq 0) := by
  unfold segmentFin
  split
  · left
    have appended : (oooAppend c finSeq [] true).1.reads = c.reads :=
      congrArg Inbox.reads (oooAppend_inbox c finSeq [] true)
    dsimp only
    split
    · exact appended
    · exact (congrArg Inbox.reads (sendAck_inbox _)).trans appended
  · refine (handleFin_current c finSeq isOpen rested).imp ?_ id
    intro same
    rw [same]

theorem signalWrite_window (c : Conn) : (signalWrite c).window = c.window := by
  unfold signalWrite
  split
  · split <;> rfl
  · rfl

theorem handlePayload_current (c : Conn) (th : TcpHeader) (data : List UInt8)
    (past : Past c.flow.state) (rested : c.inbox.Rested) (none : c.flow.oooCache.isEmpty = true) :
    (handlePayload c th data).reads = c.reads ∨ Current (handlePayload c th data) := by
  unfold handlePayload
  dsimp only
  have signalled (d : Conn) (told : d.reads = c.reads ∨ Current d) :
      (signalWrite d).reads = c.reads ∨ Current (signalWrite d) := by
    refine told.imp ?_ fun current => current.congr (signalWrite_window d)
    intro same
    exact (congrArg Inbox.reads (signalWrite_inbox d)).trans same
  refine signalled _ ?_
  by_cases filled : data.length > 0
  · rw [if_pos filled]
    have told := handleData_current c th.seq data th.flags past.1 rested none
    have rests := rested_keeps.handleData past rested th.seq data th.flags
    have after := (Quiet.handleData c th.seq data th.flags).past past
    generalize handleData c th.seq data th.flags = d at told rests after ⊢
    split
    · unfold segmentFin
      rw [if_neg fun bare => Nat.ne_of_gt filled bare.1]
      rcases handleFin_current d (th.seq + UInt32.ofNat data.length) after.1 rests with same | current
      · rwa [same]
      · exact Or.inr current
    · exact told
  · have bare : data.length = 0 := Nat.eq_zero_of_not_pos filled
    rw [if_neg filled, bare]
    split
    · exact segmentFin_current c _ past.1 rested
    · exact Or.inl rfl

/-- After a segment that completes a read, with nothing cached, the peer knows the window. -/
theorem receiveSegment_told (c : Conn) (th : TcpHeader) (data : List UInt8)
    (rested : c.inbox.Rested) (none : c.flow.oooCache.isEmpty = true)
    (stays : (receiveSegment c th data).flow.state ≠ .closed)
    (completes : (receiveSegment c th data).reads ≠ c.reads) : Told (receiveSegment c th data) := by
  cases takes : c.takes th with
  | false =>
      have same := (receiveSegment_untaken c th data takes).resolve_left stays
      exact absurd (congrArg Inbox.reads same) completes
  | true =>
      obtain ⟨_, past, inbox, same⟩ := receiveSegment_takes c th data takes
      generalize c.stage th = d at *
      have still : d.reads = c.reads ∧ d.flow.oooCache.isEmpty = true ∧ d.inbox.Rested := by
        rcases inbox with kept | flushed
        · refine ⟨congrArg Inbox.reads kept, ?_, by rwa [kept]⟩
          rwa [show d.flow.oooCache = c.flow.oooCache from congrArg Inbox.oooCache kept]
        · refine ⟨?_, ?_, by rw [flushed]; exact rested.counted.flush⟩
          · exact (congrArg Inbox.reads flushed).trans (rested.flush_reads)
          · rwa [show d.flow.oooCache = c.flow.oooCache from
              (congrArg Inbox.oooCache flushed).trans (Inbox.flush_oooCache _)]
      obtain ⟨reads, cached, rests⟩ := still
      rw [same] at completes ⊢
      rcases handlePayload_current d th data past rests cached with kept | current
      · exact absurd (kept.trans reads) completes
      · exact current.told

/-! A read that is served at once. -/

/-- The test in `notify_window_updated`. -/
theorem grown_iff (last now : UInt32) (mssBytes : Nat) :
    ((last = 0 ∧ now.toNat ≥ mssBytes) ∨ (last ≠ 0 ∧ now.toNat > last.toNat + mssBytes)) ↔
      Grown last now mssBytes := by
  unfold Grown
  by_cases zero : last = 0
  · simp only [zero, true_and, ne_eq, not_true_eq_false, false_and, or_false, UInt32.toNat_zero,
      Nat.zero_add, ge_iff_le]
    omega
  · simp only [zero, false_and, ne_eq, not_false_eq_true, true_and, false_or, gt_iff_lt]

/-- After `notify_window_updated` and `flush_pending_ack` the peer knows the window unless it
has grown over the last announcement only. -/
theorem notifyWindowUpdated_told (c : Conn) (isOpen : c.flow.state ≠ .closed) :
    Told (flushPendingAck (notifyWindowUpdated c)) ↔
      c.flow.ackPending = true ∨ ∀ wnd ∈ announced c, Grown wnd (currentWnd c) (mssOf c) →
        Grown c.flow.lastWndAdvertised (currentWnd c) (mssOf c) := by
  have flushed (d : Conn) (current : Current d) (stays : d.flow.state ≠ .closed) :
      Told (flushPendingAck d) := by
    unfold flushPendingAck
    split
    · exact (sendAck_current d stays).told
    · exact current.told
  unfold notifyWindowUpdated
  rw [if_neg isOpen]
  dsimp only
  by_cases grown : Grown c.flow.lastWndAdvertised (currentWnd c) (mssOf c)
  · rw [if_pos ((grown_iff _ _ (mss c.eng.cfg c.flow.key.family)).mpr grown)]
    refine iff_of_true ?_ (Or.inr fun _ _ _ => grown)
    exact flushed _ ((sendAck_current c isOpen).congr rfl) (by rwa [← sendAck_state c] at isOpen)
  · rw [if_neg fun test => grown ((grown_iff _ _ (mss c.eng.cfg c.flow.key.family)).mp test)]
    have kept : ({ c with flow.lastWndAdvertised := currentWnd c } : Conn).window = c.window := rfl
    unfold flushPendingAck
    by_cases pending : c.flow.ackPending = true
    · rw [if_pos pending]
      refine iff_of_true ?_ (Or.inl pending)
      exact (sendAck_current { c with flow.lastWndAdvertised := currentWnd c } isOpen).told
    · rw [if_neg pending, Told.congr kept]
      constructor
      · exact fun told => Or.inr fun wnd isLast large => absurd large (told wnd isLast)
      · intro noticed wnd isLast large
        exact grown (noticed.resolve_left pending wnd isLast large)

theorem flushReads_told (c : Conn) (op : ReadOp) (total : op.total = op.buffers.sum)
    (isOpen : c.flow.state ≠ .closed) (counted : c.inbox.Counted) :
    Told (flushReads { c with flow.activeRead := some op }) ↔
      if 0 < c.flow.rxBytes then Noticed c (min op.total c.flow.rxBytes) else Told c := by
  have counted : c.flow.rxHead + c.flow.rxBytes = c.flow.rxData.length := counted
  split
  · rename_i queued
    have taken : (copyOut op.buffers (min op.total c.flow.rxBytes)
        (c.flow.rxData.drop c.flow.rxHead)).flatten.length = min op.total c.flow.rxBytes := by
      rw [copyOut_flatten _ _ _ (by omega) (by rw [List.length_drop]; omega), List.length_take,
        List.length_drop]
      omega
    have served : flushReads { c with flow.activeRead := some op } =
        deliverEof (compactRx (serveRead { c with flow.activeRead := some op } op)) := by
      unfold flushReads
      dsimp only
      rw [if_pos queued]
    rw [served, Told.congr ((deliverEof_window _).trans (compactRx_window _))]
    unfold serveRead
    dsimp only
    rw [taken]
    exact notifyWindowUpdated_told _ isOpen
  · rename_i nothing
    refine Told.congr ?_
    exact flushReads_window _ (Or.inr (Nat.eq_zero_of_not_pos nothing))

theorem acceptFlow_current (c : Conn) (fresh : c.flow.state = .synRcvd) :
    Current (acceptFlow c) ∧ announced (acceptFlow c) = some (acceptFlow c).flow.lastWndAdvertised := by
  have isOpen : c.flow.state ≠ .closed := by
    rw [fresh]
    decide
  have sent := sendSegment_current c c.flow.iss (tcpSyn ||| tcpAck) [] true isOpen
  unfold acceptFlow
  rw [if_neg (not_not.mpr fresh)]
  refine ⟨sent.congr rfl, ?_⟩
  unfold sendSegment announced
  rw [if_neg isOpen]
  dsimp only
  rw [List.getLast?_append, List.getLast?_singleton]
  rfl

/-! One step. -/

theorem doReadSome_told (c : Conn) (buffers : List Nat) (handler : HandlerId)
    (isOpen : c.flow.state ≠ .closed) (rested : c.inbox.Rested) :
    Told (doReadSome c buffers handler) ↔ Heard c (.read buffers handler) := by
  have unread (refused : ¬Readable c.flow) : Told c ↔ Heard c (.read buffers handler) := by
    have unserved : ¬Serves c.flow buffers.sum := fun serves => refused serves.1
    simp only [Heard, refused, false_and, false_or, unserved, if_false]
  unfold doReadSome tcpFlowStartRead
  split
  · rename_i ended
    have refused : ¬Readable c.flow := by
      rintro ⟨notClosed, reading, _⟩
      rcases ended with closed | done | shut
      · exact isOpen closed
      · exact Bool.false_ne_true (notClosed.symm.trans done)
      · exact Bool.false_ne_true (reading.symm.trans shut)
    exact (Told.congr rfl).trans (unread refused)
  · rename_i usable
    split
    · rename_i reset
      have refused : ¬Readable c.flow := fun readable =>
        Bool.false_ne_true (readable.2.2.symm.trans reset)
      exact (Told.congr rfl).trans (unread refused)
    · rename_i noRst
      have readable : Readable c.flow := by
        simpa only [Readable, isOpen, false_or, not_or, Bool.not_eq_true, and_assoc] using
          And.intro usable noRst
      dsimp only
      by_cases fresh : c.flow.state = .synRcvd
      · -- the SYN-ACK that goes out first carries the window
        obtain ⟨current, last⟩ := acceptFlow_current c fresh
        rw [if_pos fresh]
        refine iff_of_true ?_ (Or.inl ⟨readable, fresh⟩)
        have inbox : (acceptFlow c).inbox = c.inbox :=
          (Aside.acceptFlow c).inbox.resolve_left (by
            unfold acceptFlow
            rw [if_neg (not_not.mpr fresh)]
            exact nofun)
        have waiting : (acceptFlow c).flow.state ≠ .closed := by
          unfold acceptFlow
          rw [if_neg (not_not.mpr fresh)]
          exact nofun
        split
        · exact (Told.congr rfl).mpr current.told
        · split
          · exact (Told.congr rfl).mpr current.told
          · rw [flushReads_told _ _ rfl waiting (inbox ▸ rested.counted)]
            split
            · refine Or.inr fun wnd isLast large => ?_
              rw [last] at isLast
              obtain rfl := Option.some.inj isLast
              exact large
            · exact current.told
      · rw [if_neg fresh]
        have heard : Heard c (.read buffers handler) ↔
            if Serves c.flow buffers.sum then Noticed c (min buffers.sum c.flow.rxBytes)
            else Told c := by
          simp only [Heard, fresh, and_false, false_or]
        rw [heard]
        split
        · rename_i none
          rw [if_neg fun serves => Nat.ne_of_gt serves.2.1 none]
          exact Told.congr rfl
        · rename_i some_
          split
          · rename_i busy
            rw [if_neg fun serves => by
              rw [serves.2.2.1] at busy
              cases busy]
            exact Told.congr rfl
          · rename_i idle
            rw [flushReads_told _ _ rfl isOpen rested.counted]
            have serves : Serves c.flow buffers.sum ↔ 0 < c.flow.rxBytes := by
              have waits : c.flow.activeRead = Option.none := by
                simpa using idle
              simp only [Serves, readable, Nat.pos_of_ne_zero some_, waits, true_and]
            simp only [serves]

/-- Dropping what is queued frees nothing while a read waits and nothing is cached. -/
theorem dropReceived_window (c : Conn) (empty : c.flow.rxBytes = 0) (none : c.flow.oooBytes = 0) :
    (dropReceived c).window = c.window := by
  have wnd : currentWnd { c with flow.rxBytes := 0, flow.oooBytes := 0 } = currentWnd c := by
    unfold currentWnd
    dsimp only
    rw [empty, none]
  unfold dropReceived
  rw [if_neg (by omega)]
  dsimp only
  rw [if_neg (by omega)]
  exact congrArg (fun wnd => (c.builds, wnd, mssOf c)) wnd

theorem completeRead_window (c : Conn) (op : Option ReadOp) (ec : ErrorCode) :
    (completeRead c op ec).window = c.window := by
  cases op <;> rfl

theorem completeWrite_window (c : Conn) (op : Option WriteOp) (ec : ErrorCode) :
    (completeWrite c op ec).window = c.window := by
  cases op <;> rfl

theorem closeWriteCh_window (c : Conn) : (closeWriteCh c).window = c.window := by
  unfold closeWriteCh
  split <;> rfl

theorem tcpFlowShutdownReceive_told (c : Conn) (isOpen : c.flow.state ≠ .closed)
    (empty : c.flow.rxBytes = 0) (none : c.flow.oooBytes = 0) :
    Told (tcpFlowShutdownReceive c) ↔ Told c := by
  refine Told.congr ?_
  unfold tcpFlowShutdownReceive
  rw [if_neg isOpen]
  dsimp only
  rw [completeRead_window]
  exact dropReceived_window { c with flow.rxShutdown := true, flow.activeRead := Option.none } empty none

theorem beginClose_window (c : Conn) (empty : c.flow.rxBytes = 0) (none : c.flow.oooBytes = 0) :
    (beginClose c).window = c.window := by
  have inbox := closeWriteCh_inbox { c with
    flow.appClosed := true, flow.activeRead := Option.none, flow.activeWrite := Option.none }
  have cached (d : Conn) : (closeWriteCh d).flow.oooBytes = d.flow.oooBytes := by
    unfold closeWriteCh
    split <;> rfl
  unfold beginClose
  rw [dropReceived_window _ ((congrArg Inbox.rxBytes inbox).trans empty) ((cached _).trans none),
    closeWriteCh_window]
  rfl

theorem tcpFlowClose_told (c : Conn) (usable : ¬(c.flow.state = .closed ∨ c.flow.appClosed = true))
    (empty : c.flow.rxBytes = 0) (none : c.flow.oooBytes = 0)
    (stays : (tcpFlowClose c).flow.state ≠ .closed) :
    Told (tcpFlowClose c) ↔ Heard c .close := by
  have begun := beginClose_window c empty none
  have state := beginClose_state c
  have finSent : (beginClose c).flow.finSent = c.flow.finSent :=
    congrArg Numbers.finSent (beginClose_numbers c)
  have send := beginClose_send c
  rw [tcpFlowClose_eq c usable] at stays ⊢
  rw [completeWrite_flow, completeRead_flow] at stays
  rw [Told.congr ((completeWrite_window _ _ _).trans (completeRead_window _ _ _))]
  split at stays
  · exact absurd (abortFlow_state _) stays
  · rename_i settled
    rw [if_neg settled]
    rcases sendFin_cases (beginClose c) with
      ⟨finished, same⟩ | ⟨unsent, _, ⟨busy, _⟩ | ⟨_, ⟨sends, same⟩ | ⟨_, same⟩ | ⟨late, same⟩⟩⟩
    · rw [same, Told.congr begun]
      have sent : c.flow.finSent = true :=
        finSent.symm.trans (finished.resolve_right fun closed =>
          not_or.mp usable |>.1 (state.symm.trans closed))
      simp only [Heard, sent, Bool.true_eq_false, and_false, false_or]
    · rcases busy with unsentData | outstanding
      · unfold Tunio.unsentWrite at unsentData
        rw [show (beginClose c).flow.activeWrite = Option.none from
          congrArg SendView.activeWrite send] at unsentData
        cases unsentData
      · exact absurd ((congrArg SendView.sndUna send).trans ((not_not.mp settled).trans
          (congrArg SendView.sndNxt send).symm)) outstanding
    · rw [same]
      rw [state] at sends
      refine iff_of_true ?_ (Or.inl ⟨sends, finSent.symm.trans unsent⟩)
      have left : c.flow.state.finished ≠ .closed := by
        rcases sends with here | here <;> rw [here] <;> decide
      unfold emitFin
      dsimp only
      rw [state]
      exact ((sendSegment_current { beginClose c with
        flow.finSent := true
        flow.state := c.flow.state.finished
        flow.closeStartedAt := (beginClose c).eng.now } _ _ _ _ left).congr rfl).told
    · exact absurd (by rw [same]; exact abortFlow_state _) stays
    · have kept : (sendFin (beginClose c)).window = (beginClose c).window := by
        rw [same]
        rfl
      rw [Told.congr (kept.trans begun)]
      rw [state] at late
      have neither : ¬(c.flow.state = .established ∨ c.flow.state = .closeWait) := by
        rcases late with here | here | here | here <;> rw [here] <;> decide
      simp only [Heard, neither, false_and, false_or]

theorem step_told (c : Conn) (event : Event) (rested : c.flow.state ≠ .closed → c.inbox.Rested)
    (none : NoneCached c.flow) (stays : (step c event).flow.state ≠ .closed)
    (completes : c.reads.length < (step c event).reads.length) :
    Told (step c event) ↔ Heard c event := by
  have isOpen : c.flow.state ≠ .closed := fun closed => stays (step_closed c event closed)
  have rested := rested isOpen
  have grows : (step c event).reads ≠ c.reads := by
    intro same
    rw [same] at completes
    exact Nat.lt_irrefl _ completes
  have others (other : event.receives = false) : Told (step c event) ↔ Heard c event := by
    have same := (step_aside c event other).inbox.resolve_left stays
    exact absurd (congrArg Inbox.reads same) grows
  -- a read that is cancelled was waiting, so nothing is queued
  have cancelled (same : c.inbox.activeRead = Option.none → (step c event).reads = c.reads) :
      c.flow.rxBytes = 0 := rested.empty.resolve_left fun idle => grows (same idle)
  cases event with
  | segment th data =>
      exact iff_of_true (receiveSegment_told c th data rested none.1 stays grows) trivial
  | read buffers handler => exact doReadSome_told c buffers handler isOpen rested
  | shutdownReceive =>
      refine tcpFlowShutdownReceive_told c isOpen (cancelled fun idle => ?_) none.2
      have dropped := dropReceived_inbox { c with
        flow.rxShutdown := true, flow.activeRead := Option.none }
      have idle : c.flow.activeRead = Option.none := idle
      change (tcpFlowShutdownReceive c).reads = c.reads
      unfold tcpFlowShutdownReceive
      rw [if_neg isOpen, idle]
      exact congrArg Inbox.reads dropped
  | close =>
      by_cases unusable : c.flow.state = .closed ∨ c.flow.appClosed = true
      · have same : step c .close = c := if_pos unusable
        exact absurd (congrArg (·.reads) same) grows
      · refine tcpFlowClose_told c unusable (cancelled fun idle => ?_) none.2 stays
        have inbox := tcpFlowClose_inbox c unusable stays
        unfold closed at inbox
        rw [idle] at inbox
        exact congrArg Inbox.reads inbox
  | _ => exact others rfl

/-! Runs. -/

/-- A flow with segments of one byte, a queue for ten, and two segments of two bytes each, the
second of which was acknowledged. -/
def updatesEvents : List Event :=
  [.accept, .segment (peerSegment 8 1001 tcpAck 1000) [],
    .segment (peerSegment 8 1001 tcpAck 1000) [1, 2],
    .segment (peerSegment 10 1001 tcpAck 1000) [3, 4]]

end Tunio
