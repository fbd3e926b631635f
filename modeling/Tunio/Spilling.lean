import Tunio.Course
import Tunio.Engines
import Tunio.Projection

/-!
The receive cap of a flow.  Data that is early is weighed against everything the flow holds,
data that is in order only against what is queued; between the two tests a flow can come to
hold more than its cap, and then the cache cannot be emptied any more.
-/

namespace Tunio

open Courses Machines

/-- The flow holds no more than its cap. -/
structure Stowed (c : Conn) : Prop where
  backed : Backed c.flow
  fits : c.flow.held ≤ c.eng.cfg.maxRxQueuePerFlow

namespace Stowed

variable {c after : Conn}

theorem congr (stowed : Stowed c) (same : after.budget = c.budget) (backed : Backed after.flow) :
    Stowed after := by
  have cfg : after.eng.cfg = c.eng.cfg := congrArg Budget.cfg same
  have rxBytes : after.flow.rxBytes = c.flow.rxBytes := congrArg Budget.rxBytes same
  have oooBytes : after.flow.oooBytes = c.flow.oooBytes := congrArg Budget.oooBytes same
  have fits := stowed.fits
  unfold TcpFlow.held at fits
  refine ⟨backed, ?_⟩
  rw [TcpFlow.held, cfg, rxBytes, oooBytes]
  exact fits

theorem less (stowed : Stowed c) (cfg : after.eng.cfg = c.eng.cfg)
    (held : after.flow.held ≤ c.flow.held) (backed : Backed after.flow) : Stowed after := by
  refine ⟨backed, held.trans ?_⟩
  rw [cfg]
  exact stowed.fits

/-- Nothing but a delivery brings the flow over its cap. -/
theorem apply (stowed : Stowed c) (effect : Effect) (permits : c.Permits effect)
    (starves : effect.starves = true) : Stowed (c.apply effect) := by
  have backed := apply_backed c effect stowed.backed permits
  have cfg := apply_cfg c effect permits
  have closing (d : Conn) (same : d.budget = c.budget) (kept : Backed d.flow) (err : ErrorCode) :
      (closeFlow d err).flow.held ≤ c.flow.held := by
    have rxBytes : d.flow.rxBytes = c.flow.rxBytes := congrArg Budget.rxBytes same
    have oooBytes : d.flow.oooBytes = c.flow.oooBytes := congrArg Budget.oooBytes same
    by_cases closed : d.flow.state = .closed
    · rw [closeFlow_closed d err closed, TcpFlow.held, TcpFlow.held, rxBytes, oooBytes]
    · have cleared := closeFlow_budget d err closed
      have empty : (closeFlow d err).flow.rxBytes = 0 := congrArg Budget.rxBytes cleared
      have bare : (closeFlow d err).flow.oooBytes = 0 := congrArg Budget.oooBytes cleared
      rw [TcpFlow.held, empty, bare]
      exact Nat.zero_le _
  have aborting (d : Conn) (same : d.budget = c.budget) (kept : Backed d.flow) :
      (abortFlow d).flow.held ≤ c.flow.held := by
    unfold abortFlow
    split
    · exact Nat.le_of_eq (congrArg (fun budget => budget.rxBytes + budget.oooBytes) same)
    · have sent := (sendSegment_budget d d.flow.sndNxt (tcpRst ||| tcpAck) [] false).trans same
      exact closing { sendSegment d d.flow.sndNxt (tcpRst ||| tcpAck) [] false with
        flow.rst := true } sent (kept.congr (sendSegment_shelf d _ _ _ _)) _
  cases settles : effect.settles with
  | false => exact stowed.congr (apply_budget c effect settles) backed
  | true =>
      cases effect with
      | direct | buffer => cases starves
      | serve op =>
          refine stowed.less cfg ?_ backed
          change c.flow.rxBytes - _ + c.flow.oooBytes ≤ c.flow.rxBytes + c.flow.oooBytes
          omega
      | append seq data fin =>
          rcases oooAppend_budget c seq data fin with same | ⟨n, account, _, room, same⟩
          · exact stowed.congr same backed
          · have queued : (oooAppend c seq data fin).1.flow.rxBytes = c.flow.rxBytes :=
              congrArg Budget.rxBytes same
            have cached : (oooAppend c seq data fin).1.flow.oooBytes = c.flow.oooBytes + n :=
              congrArg Budget.oooBytes same
            refine ⟨backed, ?_⟩
            rw [cfg]
            change (oooAppend c seq data fin).1.flow.rxBytes +
              (oooAppend c seq data fin).1.flow.oooBytes ≤ _
            rw [queued, cached]
            omega
      | discard key seg =>
          refine stowed.less cfg ?_ backed
          have held := stowed.backed.held permits
          change (discardOoo c key seg).flow.held ≤ _
          unfold discardOoo TcpFlow.held
          dsimp only
          split
          · change c.flow.rxBytes + sizeSub c.flow.oooBytes seg.data.length ≤ _
            unfold sizeSub
            rw [if_pos held]
            omega
          · exact Nat.le_refl _
      | remove key seg =>
          refine stowed.less cfg ?_ backed
          have held := stowed.backed.held permits
          change c.flow.rxBytes + sizeSub c.flow.oooBytes seg.data.length ≤
            c.flow.rxBytes + c.flow.oooBytes
          unfold sizeSub
          rw [if_pos held]
          omega
      | drop =>
          refine stowed.less cfg ?_ backed
          have cleared := dropReceived_budget c
          have empty : (dropReceived c).flow.rxBytes = 0 := congrArg Budget.rxBytes cleared
          have bare : (dropReceived c).flow.oooBytes = 0 := congrArg Budget.oooBytes cleared
          change (dropReceived c).flow.held ≤ _
          rw [TcpFlow.held, empty, bare]
          exact Nat.zero_le _
      | giveUp =>
          exact stowed.less cfg (aborting { c with flow.finSent := true } rfl stowed.backed) backed
      | abort => exact stowed.less cfg (aborting c rfl stowed.backed) backed
      | resetBy =>
          exact stowed.less cfg (closing { c with flow.rst := true } rfl stowed.backed _) backed
      | close err => exact stowed.less cfg (closing c rfl stowed.backed err) backed
      | elsewhere eng => exact stowed.less cfg (Nat.le_refl _) backed
      | _ => cases settles

theorem path (stowed : Stowed c) (path : Starves c after) : Stowed after :=
  path.invariant Stowed stowed fun _ effect here permits starves => here.apply effect permits starves

end Stowed

/-! One delivery. -/

/-- What a waiting read takes of new data directly. -/
def TcpFlow.direct (flow : TcpFlow) (len : Nat) : Nat :=
  match flow.rxData, flow.activeRead with
  | [], some op => min op.total len
  | _, _ => 0

theorem placeData_budget (c : Conn) (data : List UInt8) (rested : c.inbox.Rested) :
    (placeData c data).budget = { c.budget with
      account := c.eng.account.release (c.flow.direct data.length)
      rxBytes := c.flow.rxBytes + (data.length - c.flow.direct data.length) } := by
  unfold placeData
  split
  · rename_i op empty active
    have direct : c.flow.direct data.length = min op.total data.length := by
      unfold TcpFlow.direct
      rw [empty, active]
    rw [direct]
    exact deliverDirect_budget c op data
  · rename_i other
    have idle : c.flow.activeRead = none := by
      cases active : c.flow.activeRead with
      | none => rfl
      | some op =>
          have waits : c.inbox.activeRead ≠ none := by
            show c.flow.activeRead ≠ none
            rw [active]
            exact nofun
          exact absurd active (other op (rested.idle waits).1)
    have direct : c.flow.direct data.length = 0 := by
      unfold TcpFlow.direct
      rw [idle]
      split
      · contradiction
      · rfl
    have noted (d : Conn) : (noteDataAck d).flow.activeRead = d.flow.activeRead :=
      congrArg Inbox.activeRead (noteDataAck_inbox d)
    rw [direct, BufferAccountant.release_eq (Nat.zero_le _)]
    unfold deliverBuffered
    dsimp only
    rw [flushReads_budget, noteDataAck_budget]
    · rfl
    · left
      rw [noted]
      exact idle

/-- The budgets admit the data, and nobody has shut the flow for reading. -/
def Conn.Admits (c : Conn) (len : Nat) : Prop :=
  c.flow.rxShutdown = false ∧ (admitData c len).isSome = true

instance (c : Conn) (len : Nat) : Decidable (c.Admits len) := inferInstanceAs (Decidable (_ ∧ _))

theorem deliverData_held (c : Conn) (data : List UInt8) (rested : c.inbox.Rested) :
    (deliverData c data).eng.cfg = c.eng.cfg ∧
      (deliverData c data).flow.held = c.flow.held +
        if c.Admits data.length then data.length - c.flow.direct data.length else 0 := by
  have still {after : Conn} (same : after.budget = c.budget) :
      after.eng.cfg = c.eng.cfg ∧ after.flow.held = c.flow.held :=
    ⟨congrArg Budget.cfg same, congrArg (fun budget => budget.rxBytes + budget.oooBytes) same⟩
  unfold deliverData
  split
  · rename_i empty
    rw [empty, Nat.zero_sub, ite_self]
    exact ⟨rfl, rfl⟩
  · split
    · rename_i shut
      rw [if_neg fun admits => Bool.noConfusion (shut.symm.trans admits.1)]
      exact still (sendAck_budget _)
    · rename_i reading
      split
      · rename_i refused
        rw [if_neg fun admits => by simp [Conn.Admits, refused] at admits]
        exact ⟨rfl, rfl⟩
      · rename_i account admitted
        have admits : c.Admits data.length := by
          refine ⟨Bool.eq_false_of_not_eq_true reading, ?_⟩
          rw [admitted]
          rfl
        have placed := placeData_budget { c with eng.account := account } data rested
        have rxBytes : (placeData { c with eng.account := account } data).flow.rxBytes =
            c.flow.rxBytes + (data.length - c.flow.direct data.length) :=
          congrArg Budget.rxBytes placed
        have oooBytes : (placeData { c with eng.account := account } data).flow.oooBytes =
            c.flow.oooBytes := congrArg Budget.oooBytes placed
        rw [if_pos admits]
        refine ⟨congrArg Budget.cfg placed, ?_⟩
        rw [TcpFlow.held, TcpFlow.held, rxBytes, oooBytes]
        omega

/-- Data that is admitted, or not asked for any longer, moves `rcv_nxt` to its end. -/
theorem deliverData_rcvNxt (c : Conn) (data : List UInt8) (isOpen : c.flow.state ≠ .closed)
    (taken : c.flow.rxShutdown = true ∨ (admitData c data.length).isSome = true) :
    (deliverData c data).flow.rcvNxt = c.flow.rcvNxt + UInt32.ofNat data.length := by
  unfold deliverData
  split
  · rename_i empty
    rw [empty]
    exact (UInt32.add_zero _).symm
  · split
    · exact congrArg Inbox.rcvNxt (sendAck_inbox _)
    · rename_i reading
      obtain ⟨account, admitted⟩ := Option.isSome_iff_exists.mp (taken.resolve_left reading)
      rw [admitted]
      have placed := placeData_inbox { c with eng.account := account } data isOpen
      exact (congrArg Inbox.rcvNxt placed).trans (Inbox.place_rcvNxt _ _)

/-- A flow that is about to deliver: its books are in order and it holds no more than its cap. -/
structure Poised (size rest : Nat) (c : Conn) : Prop where
  past : Past c.flow.state
  rested : c.inbox.Rested
  stowed : Stowed c
  owed : Owed size rest c

namespace Poised

variable {size rest : Nat} {c after : Conn}

theorem deliver (poised : Poised size rest c) (data : List UInt8)
    (room : c.Admits data.length →
      c.flow.held + (data.length - c.flow.direct data.length) ≤ c.eng.cfg.maxRxQueuePerFlow) :
    Poised size rest (deliverData c data) := by
  have path : Unfolds 1 .operation c (deliverData c data) :=
    Unfolds.deliverData c data poised.past Nat.zero_lt_one
  obtain ⟨cfg, held⟩ := deliverData_held c data poised.rested
  have owed := poised.owed.path path.inside
  refine ⟨(Quiet.deliverData c data).past poised.past,
    rested_keeps.deliver c data poised.past.1 poised.rested, ⟨owed.backed, ?_⟩, owed⟩
  rw [cfg, held]
  split
  · exact room ‹_›
  · exact poised.stowed.fits

theorem finOoo (poised : Poised size rest c) (key : UInt32) (seg : OooSegment) :
    Poised size rest (finOoo c key seg) := by
  have path : Unfolds 0 .operation c (Tunio.finOoo c key seg) :=
    Unfolds.finOoo c key seg poised.past
  exact ⟨(Quiet.finOoo c key seg).past poised.past, rested_keeps.finOoo poised.rested key seg,
    poised.stowed.path path.starves, poised.owed.path path.inside⟩

theorem discardOoo (poised : Poised size rest c) {key : UInt32} {seg : OooSegment}
    (present : c.flow.oooCache[key]? = some seg) : Poised size rest (discardOoo c key seg) := by
  refine ⟨?_, ?_, poised.stowed.apply (.discard key seg) present rfl,
    poised.owed.apply (.discard key seg) present trivial⟩
  · rw [discardOoo_state]
    exact poised.past
  · rw [discardOoo_inbox]
    exact rested_keeps.cache _ _ poised.rested

/-- A segment that is taken out leaves room for itself, under the cap and in the budget. -/
theorem takeOoo (poised : Poised size rest c) {key : UInt32} {seg : OooSegment}
    (present : c.flow.oooCache[key]? = some seg) :
    Poised size rest (takeOoo c key seg) ∧
      (takeOoo c key seg).flow.held + seg.data.length ≤
        (takeOoo c key seg).eng.cfg.maxRxQueuePerFlow ∧
      (takeOoo c key seg).eng.account.used + seg.data.length ≤
        (takeOoo c key seg).eng.account.limit := by
  have removed : Owed size rest (removeOoo c key seg) :=
    poised.owed.apply (.remove key seg) present trivial
  have stowed : Stowed (removeOoo c key seg) :=
    poised.stowed.apply (.remove key seg) present rfl
  have path : Unfolds 0 .operation (removeOoo c key seg) (Tunio.takeOoo c key seg) :=
    Unfolds.notifyWindowUpdated _
  have budget : (Tunio.takeOoo c key seg).budget = (removeOoo c key seg).budget :=
    notifyWindowUpdated_budget _
  have held := poised.owed.backed.held present
  have used := poised.owed.used
  have fits := poised.stowed.fits
  have bounded := poised.owed.bounded
  have limit := poised.owed.limit
  refine ⟨⟨?_, ?_, stowed.path path.starves, removed.path path.inside⟩, ?_, ?_⟩
  · rw [takeOoo_state]
    exact poised.past
  · rw [takeOoo_inbox]
    exact rested_keeps.cache _ _ poised.rested
  · have cfg : (Tunio.takeOoo c key seg).eng.cfg = c.eng.cfg := congrArg Budget.cfg budget
    have rxBytes : (Tunio.takeOoo c key seg).flow.rxBytes = c.flow.rxBytes :=
      congrArg Budget.rxBytes budget
    have oooBytes : (Tunio.takeOoo c key seg).flow.oooBytes =
        sizeSub c.flow.oooBytes seg.data.length := congrArg Budget.oooBytes budget
    unfold TcpFlow.held at fits
    rw [TcpFlow.held, cfg, rxBytes, oooBytes, sizeSub, if_pos held]
    omega
  · have account : (Tunio.takeOoo c key seg).eng.account =
        c.eng.account.release seg.data.length := congrArg Budget.account budget
    rw [account, BufferAccountant.release_eq (by omega)]
    dsimp only
    omega

/-- What is left of a segment that was taken out is delivered. -/
theorem deliverFresh (poised : Poised size rest c) (key : UInt32) (seg : OooSegment)
    (room : c.flow.held + seg.data.length ≤ c.eng.cfg.maxRxQueuePerFlow)
    (left : c.eng.account.used + seg.data.length ≤ c.eng.account.limit) :
    Poised size rest (deliverFresh c key seg) ∧
      (oooSkip c.flow key < seg.data.length → (deliverFresh c key seg).flow.rcvNxt =
        c.flow.rcvNxt + UInt32.ofNat (seg.data.length - oooSkip c.flow key)) := by
  unfold Tunio.deliverFresh
  dsimp only
  split
  · rename_i fresh
    have length : (seg.data.drop (oooSkip c.flow key)).length =
        seg.data.length - oooSkip c.flow key := List.length_drop
    refine ⟨poised.deliver _ fun _ => ?_, fun _ => ?_⟩
    · rw [length]
      omega
    · rw [deliverData_rcvNxt c _ poised.past.1, length]
      right
      unfold TcpFlow.held at room
      unfold admitData
      rw [if_neg (by omega), BufferAccountant.reserve_room (by omega)]
      rfl
  · rename_i covered
    exact ⟨poised, fun fresh => absurd fresh covered⟩

end Poised

/-! The flush. -/

/-- The first loop of `flush_ooo` takes out nothing that reaches beyond `rcv_nxt`. -/
def PrunesPassed : List (UInt32 × OooSegment) → Conn → Prop
  | [], _ => True
  | (key, seg) :: rest, c =>
      if !seqGe c.flow.rcvNxt (segmentEnd key seg) then PrunesPassed rest c
      else
        seqGt (segmentEnd key seg) c.flow.rcvNxt = false ∧
          ((finOoo c key seg).flow.state = .closed ∨
            PrunesPassed rest (discardOoo (finOoo c key seg) key seg))

/-- The second loop delivers in full what it takes out beyond `rcv_nxt`. -/
def DeliversReady : Nat → Conn → Prop
  | 0, _ => True
  | fuel + 1, c =>
      match readyOoo c.flow with
      | none => True
      | some (key, seg) =>
          let fresh := deliverFresh (takeOoo c key seg) key seg
          (seqGt (segmentEnd key seg) c.flow.rcvNxt = true →
            fresh.flow.rcvNxt = segmentEnd key seg) ∧
          ((finOoo fresh key seg).flow.state = .closed ∨ DeliversReady fuel (finOoo fresh key seg))

/-- Every entry that `flush_ooo` takes out and that reaches beyond `rcv_nxt` is delivered. -/
def FlushesWhole (c : Conn) : Prop :=
  PrunesPassed c.flow.oooCache.toList c ∧
    match pruneOoo c.flow.oooCache.toList c false with
    | (_, none) => True
    | (c, some _) => DeliversReady (c.flow.oooCache.size + 1) (countCached c)

theorem seqGt_self (a : UInt32) : seqGt a a = false := by
  rw [seqGt, decide_eq_false_iff_not, Serial.toInt32_pos, UInt32.sub_self]
  decide

theorem prunesPassed (entries : List (UInt32 × OooSegment)) (c : Conn) :
    PrunesPassed entries c := by
  induction entries generalizing c with
  | nil => trivial
  | cons entry rest ih =>
      unfold PrunesPassed
      split
      · exact ih c
      · rename_i passed
        refine ⟨?_, Or.inr (ih _)⟩
        rw [Bool.not_eq_true', Bool.not_eq_false, seqGe, Bool.or_eq_true, beq_iff_eq] at passed
        rcases passed with same | after
        · rw [same]
          exact seqGt_self _
        · exact seqGt_asymm after

/-- A ready segment that reaches beyond `rcv_nxt` goes on from there to its end. -/
theorem oooSkip_ready {flow : TcpFlow} {key : UInt32} {seg : OooSegment}
    (ready : readyOoo flow = some (key, seg))
    (beyond : seqGt (segmentEnd key seg) flow.rcvNxt = true) :
    oooSkip flow key < seg.data.length ∧
      flow.rcvNxt + UInt32.ofNat (seg.data.length - oooSkip flow key) = segmentEnd key seg := by
  have test := List.find?_some ready
  rw [Bool.or_eq_true, Bool.and_eq_true, beq_iff_eq] at test
  unfold oooSkip
  by_cases same : key = flow.rcvNxt
  · rw [if_pos same, Nat.sub_zero, segmentEnd, same]
    refine ⟨Nat.pos_of_ne_zero fun empty => ?_, rfl⟩
    rw [segmentEnd, same, empty] at beyond
    rw [show flow.rcvNxt + UInt32.ofNat 0 = flow.rcvNxt from UInt32.add_zero _, seqGt_self] at beyond
    cases beyond
  · rw [if_neg same]
    have behind : seqGt flow.rcvNxt key = true := (test.resolve_left same).1
    exact inOrder_skip same (seqGt_asymm behind) beyond

namespace Poised

variable {size rest : Nat} {c : Conn}

theorem pruneOoo (poised : Poised size rest c) (entries : List (UInt32 × OooSegment))
    (pruned : Bool) (distinct : entries.Pairwise fun first second => ¬compare first.1 second.1 = .eq)
    (present : ∀ entry ∈ entries, c.flow.oooCache[entry.1]? = some entry.2) :
    Poised size rest (pruneOoo entries c pruned).1 := by
  induction entries generalizing c pruned with
  | nil => exact poised
  | cons entry rest ih =>
      obtain ⟨apart, distinct⟩ := List.pairwise_cons.mp distinct
      have later : ∀ other ∈ rest, c.flow.oooCache[other.1]? = some other.2 :=
        fun other member => present other (List.mem_cons_of_mem _ member)
      unfold Tunio.pruneOoo
      split
      · exact ih poised pruned distinct later
      · have finished := poised.finOoo entry.1 entry.2
        have cache := finOoo_oooCache c entry.1 entry.2
        dsimp only
        split
        · exact finished
        · refine ih (finished.discardOoo ?_) true distinct fun other member => ?_
          · rw [cache]
            exact present entry List.mem_cons_self
          · rw [discardOoo_oooCache, cache, Std.TreeMap.getElem?_erase, if_neg (apart other member)]
            exact later other member

theorem deliverOoo (poised : Poised size rest c) (fuel : Nat) (delivered : Bool) :
    Poised size rest (deliverOoo fuel c delivered).1 ∧ DeliversReady fuel c := by
  induction fuel generalizing c delivered with
  | zero => exact ⟨poised, trivial⟩
  | succ fuel ih =>
      unfold Tunio.deliverOoo DeliversReady
      cases ready : readyOoo c.flow with
      | none => exact ⟨poised, trivial⟩
      | some entry =>
          obtain ⟨key, seg⟩ := entry
          obtain ⟨taken, room, left⟩ := poised.takeOoo (readyOoo_cached c.flow key seg ready)
          obtain ⟨fresh, moved⟩ := taken.deliverFresh key seg room left
          have next : (Tunio.takeOoo c key seg).flow.rcvNxt = c.flow.rcvNxt :=
            congrArg Inbox.rcvNxt (takeOoo_inbox c key seg)
          have skip : oooSkip (Tunio.takeOoo c key seg).flow key = oooSkip c.flow key := by
            unfold oooSkip
            rw [next]
          have finished := fresh.finOoo key seg
          have reaches : seqGt (segmentEnd key seg) c.flow.rcvNxt = true →
              (Tunio.deliverFresh (Tunio.takeOoo c key seg) key seg).flow.rcvNxt =
                segmentEnd key seg := by
            intro beyond
            obtain ⟨inside, ends⟩ := oooSkip_ready ready beyond
            rw [moved (skip ▸ inside), next, skip]
            exact ends
          dsimp only
          rw [if_neg finished.past.1]
          obtain ⟨kept, delivers⟩ := ih finished true
          exact ⟨kept, reaches, Or.inr delivers⟩

/-- The flush empties the cache as far as it gets, and what it takes out is delivered. -/
theorem flushOoo (poised : Poised size rest c) :
    Poised size rest (flushOoo c) ∧ FlushesWhole c := by
  have pruned := poised.pruneOoo c.flow.oooCache.toList false Std.TreeMap.distinct_keys_toList
    fun _ member => Std.TreeMap.mem_toList_iff_getElem?_eq_some.mp member
  have passed := prunesPassed c.flow.oooCache.toList c
  unfold Tunio.flushOoo FlushesWhole
  generalize Tunio.pruneOoo c.flow.oooCache.toList c false = result at pruned ⊢
  obtain ⟨c₁, done⟩ := result
  cases done with
  | none => exact ⟨pruned, passed, trivial⟩
  | some done =>
      have counted : Poised size rest (countCached c₁) :=
        ⟨pruned.past, pruned.rested, pruned.stowed.congr rfl pruned.stowed.backed,
          pruned.owed.congr rfl pruned.owed.backed⟩
      obtain ⟨delivered, delivers⟩ := counted.deliverOoo (c₁.flow.oooCache.size + 1) false
      dsimp only
      refine ⟨?_, passed, delivers⟩
      generalize Tunio.deliverOoo (c₁.flow.oooCache.size + 1) (countCached c₁) false = result
        at delivered ⊢
      obtain ⟨c₂, did⟩ := result
      cases did with
      | none => exact delivered
      | some did =>
          have path : Unfolds 0 .operation c₂ (announceOoo c₂ done did) :=
            Unfolds.announceOoo c₂ done did
          refine ⟨?_, ?_, delivered.stowed.path path.starves, delivered.owed.path path.inside⟩
          · dsimp only
            rw [announceOoo_state]
            exact delivered.past
          · dsimp only
            rw [announceOoo_inbox]
            exact delivered.rested

end Poised

/-! A segment with data that is in order. -/

/-- The part of a segment that the flow does not have. -/
def freshData (rcvNxt seq : UInt32) (data : List UInt8) : List UInt8 :=
  if seq = rcvNxt then data else data.drop (rcvNxt - seq).toNat

theorem handleData_fresh (c : Conn) (seq : UInt32) (data : List UInt8) (flags : UInt8)
    (inOrder : InOrder c.flow.rcvNxt seq data.length) :
    handleData c seq data flags = flushOoo (deliverData c (freshData c.flow.rcvNxt seq data)) := by
  unfold handleData freshData
  by_cases same : seq = c.flow.rcvNxt
  · rw [if_pos same, if_pos same]
  · obtain ⟨late, reaches⟩ := inOrder.resolve_left same
    dsimp only
    rw [if_neg same, if_neg same, late, if_neg (by decide), if_pos reaches]

namespace Conn

/-- The flow as a segment hands it to `flush_ooo`. -/
def beforeFlush (c : Conn) (th : TcpHeader) (data : List UInt8) : Option Conn :=
  if (Event.segment th data).Feeds c then
    some (deliverData (c.stage th) (freshData c.flow.rcvNxt th.seq data))
  else none

/-- The budgets admit data that is in order, although the flow has no room for it. -/
def Spills (c : Conn) (th : TcpHeader) (data : List UInt8) : Prop :=
  let len := (freshData c.flow.rcvNxt th.seq data).length
  (Event.segment th data).Feeds c ∧ c.Admits len ∧
    c.eng.cfg.maxRxQueuePerFlow < c.flow.held + (len - c.flow.direct len)

instance (c : Conn) (th : TcpHeader) (data : List UInt8) : Decidable (c.Spills th data) :=
  inferInstanceAs (Decidable (_ ∧ _ ∧ _))

end Conn

theorem direct_congr {flow flow' : TcpFlow} (active : flow'.activeRead = flow.activeRead)
    (drained : flow.activeRead ≠ none → flow.rxData = [] ∧ flow'.rxData = []) (len : Nat) :
    flow'.direct len = flow.direct len := by
  unfold TcpFlow.direct
  rw [active]
  cases waits : flow.activeRead with
  | none => split <;> split <;> first | rfl | contradiction
  | some op =>
      obtain ⟨empty, empty'⟩ := drained (by rw [waits]; exact nofun)
      rw [empty, empty']

/-- Up to the data of a segment the flow stays as it is in what a delivery asks for. -/
theorem stage_view (c : Conn) (th : TcpHeader) (rested : c.inbox.Rested)
    (takes : c.takes th = true) (len : Nat) :
    (c.stage th).budget = c.budget ∧ (c.stage th).flow.rcvNxt = c.flow.rcvNxt ∧
      (c.stage th).flow.rxShutdown = c.flow.rxShutdown ∧
      (c.stage th).flow.direct len = c.flow.direct len := by
  obtain ⟨_, past, inbox, _⟩ := receiveSegment_takes c th [] takes
  have budget := stage_budget c th rested past.1
  have view : (c.stage th).inbox.rcvNxt = c.inbox.rcvNxt ∧
      (c.stage th).inbox.rxShutdown = c.inbox.rxShutdown ∧
      (c.stage th).inbox.activeRead = c.inbox.activeRead ∧
      (c.inbox.activeRead ≠ none → (c.stage th).inbox.rxData = []) := by
    rcases inbox with same | flushed
    · rw [same]
      exact ⟨rfl, rfl, rfl, fun waits => (rested.idle waits).1⟩
    · rw [flushed, rested.flush_compact]
      unfold Inbox.compact
      split
      · refine ⟨rfl, rfl, rfl, fun waits => ?_⟩
        dsimp only
        rw [(rested.idle waits).1, List.drop_nil]
      · exact ⟨rfl, rfl, rfl, fun waits => (rested.idle waits).1⟩
  obtain ⟨next, shut, active, drained⟩ := view
  refine ⟨budget, next, shut, ?_⟩
  exact direct_congr active (fun waits => ⟨(rested.idle waits).1, drained waits⟩) len

theorem stage_admits (c : Conn) (th : TcpHeader) (rested : c.inbox.Rested)
    (takes : c.takes th = true) (len : Nat) : (c.stage th).Admits len ↔ c.Admits len := by
  obtain ⟨budget, _, shut, _⟩ := stage_view c th rested takes len
  have cfg : (c.stage th).eng.cfg = c.eng.cfg := congrArg Budget.cfg budget
  have account : (c.stage th).eng.account = c.eng.account := congrArg Budget.account budget
  have rxBytes : (c.stage th).flow.rxBytes = c.flow.rxBytes := congrArg Budget.rxBytes budget
  unfold Conn.Admits admitData
  rw [cfg, account, rxBytes, shut]

/-- What the flow holds when the flush begins. -/
theorem beforeFlush_held {c d : Conn} {th : TcpHeader} {data : List UInt8}
    (rested : c.inbox.Rested) (flushes : c.beforeFlush th data = some d) :
    d.flow.held ≤ c.eng.cfg.maxRxQueuePerFlow ∧ c.flow.held ≤ c.eng.cfg.maxRxQueuePerFlow ↔
      c.flow.held ≤ c.eng.cfg.maxRxQueuePerFlow ∧ ¬c.Spills th data := by
  unfold Conn.beforeFlush at flushes
  split at flushes
  · rename_i feeds
    have takes : c.takes th = true := feeds.2.2
    obtain ⟨_, past, inbox, _⟩ := receiveSegment_takes c th data takes
    obtain ⟨budget, _, _, direct⟩ := stage_view c th rested takes
      (freshData c.flow.rcvNxt th.seq data).length
    have admits := stage_admits c th rested takes (freshData c.flow.rcvNxt th.seq data).length
    have stillRested : (c.stage th).inbox.Rested := by
      rcases inbox with same | flushed
      · rwa [same]
      · rw [flushed]
        exact rested.counted.flush
    have held := (deliverData_held (c.stage th) (freshData c.flow.rcvNxt th.seq data) stillRested).2
    have before : (c.stage th).flow.held = c.flow.held :=
      congrArg (fun budget => budget.rxBytes + budget.oooBytes) budget
    rw [Option.some.inj flushes, before, direct, if_congr admits rfl rfl] at held
    unfold Conn.Spills
    rw [held]
    dsimp only
    by_cases admitted : c.Admits (freshData c.flow.rcvNxt th.seq data).length
    · rw [if_pos admitted]
      simp only [feeds, admitted, true_and]
      omega
    · rw [if_neg admitted]
      simp [admitted]
  · cases flushes

/-- A segment that does not spill is delivered, flushed and followed by its FIN. -/
theorem Poised.receive {size rest : Nat} {c d : Conn} {th : TcpHeader} {data : List UInt8}
    (rested : c.inbox.Rested) (stowed : Stowed c) (owed : Owed size rest c)
    (flushes : c.beforeFlush th data = some d) (calm : ¬c.Spills th data) :
    Poised size rest d ∧ FlushesWhole d ∧ Poised size rest (receiveSegment c th data) := by
  have room := (beforeFlush_held rested flushes).mpr ⟨stowed.fits, calm⟩
  unfold Conn.beforeFlush at flushes
  split at flushes
  · rename_i feeds
    obtain ⟨filled, inOrder, takes⟩ := feeds
    obtain ⟨path, past, inbox, same⟩ := receiveSegment_takes c th data takes
    obtain ⟨budget, next, _⟩ := stage_view c th rested takes 0
    obtain rfl := Option.some.inj flushes
    have staged : Poised size rest (c.stage th) := by
      refine ⟨past, ?_, stowed.path path.starves, owed.path path.inside⟩
      rcases inbox with kept | flushed
      · rwa [kept]
      · rw [flushed]
        exact rested.counted.flush
    have delivered : Poised size rest
        (deliverData (c.stage th) (freshData c.flow.rcvNxt th.seq data)) := by
      refine staged.deliver _ fun admits => ?_
      have held := (deliverData_held (c.stage th) (freshData c.flow.rcvNxt th.seq data)
        staged.rested).2
      have cfg : (c.stage th).eng.cfg = c.eng.cfg := congrArg Budget.cfg budget
      rw [if_pos admits] at held
      rw [cfg, ← held]
      exact room.1
    obtain ⟨flushed, whole⟩ := delivered.flushOoo
    refine ⟨delivered, whole, ?_⟩
    have handled : handleData (c.stage th) th.seq data th.flags =
        Tunio.flushOoo (deliverData (c.stage th) (freshData c.flow.rcvNxt th.seq data)) := by
      rw [handleData_fresh (c.stage th) th.seq data th.flags (next ▸ inOrder), next]
    rw [same]
    unfold handlePayload
    dsimp only
    rw [if_pos (List.length_pos_iff.mpr filled), handled]
    generalize Tunio.flushOoo (deliverData (c.stage th) (freshData c.flow.rcvNxt th.seq data)) = e
      at flushed ⊢
    have finished : Poised size rest (if hasFlag th.flags tcpFin = true then
        segmentFin e (th.seq + UInt32.ofNat data.length) data.length else e) := by
      split
      · have path : Unfolds 0 .operation e
            (segmentFin e (th.seq + UInt32.ofNat data.length) data.length) :=
          Unfolds.segmentFin e _ _ flushed.past
        exact ⟨(Quiet.segmentFin e _ _).past flushed.past,
          rested_keeps.segmentFin flushed.rested _ _, flushed.stowed.path path.starves,
          flushed.owed.path path.inside⟩
      · exact flushed
    generalize (if hasFlag th.flags tcpFin = true then
        segmentFin e (th.seq + UInt32.ofNat data.length) data.length else e) = f at finished ⊢
    have path : Unfolds 0 .operation f (signalWrite f) := Unfolds.signalWrite f
    refine ⟨?_, ?_, finished.stowed.path path.starves, finished.owed.path path.inside⟩
    · rw [signalWrite_state]
      exact finished.past
    · rw [signalWrite_inbox]
      exact finished.rested
  · cases flushes

/-! Every flow of the engines. -/

/-- A segment of which all is well known is delivered with room; anything else delivers nothing. -/
def Calm (c : Conn) (event : Event) : Prop :=
  ¬event.Feeds c ∨
    ∃ size rest, Owed size rest c ∧ ∀ th data, event = .segment th data → ¬c.Spills th data

/-- What an open or closed flow keeps. -/
structure Level (c : Conn) : Prop where
  rested : c.flow.state ≠ .closed → c.inbox.Rested
  stowed : Stowed c

theorem openFlow_stowed (eng : TcpEngine) (id : FlowId) (key : FiveTuple) (th : TcpHeader)
    (payload data : List UInt8) (iss : UInt32) :
    Stowed (openFlow eng id key th payload data iss) := by
  let c : Conn :=
    { flow := synFlow eng id key th payload iss, eng := { eng with flows := (key, id) :: eng.flows } }
  have backed : Backed (openFlow eng id key th payload data iss).flow :=
    Backed.bare (openFlow_shelf eng id key th payload data iss)
  have bare : Stowed c := ⟨Backed.bare rfl, Nat.zero_le _⟩
  have opened : (openFlow eng id key th payload data iss).budget = (takeSynData c th data).budget :=
    notifyAccept_budget _
  rcases takeSynData_budget c th data with same | ⟨account, admitted, same⟩
  · exact bare.congr (opened.trans same) backed
  · have taken := opened.trans same
    have cfg : (openFlow eng id key th payload data iss).eng.cfg = c.eng.cfg :=
      congrArg Budget.cfg taken
    have queued : (openFlow eng id key th payload data iss).flow.rxBytes =
        c.flow.rxBytes + data.length := congrArg Budget.rxBytes taken
    have cached : (openFlow eng id key th payload data iss).flow.oooBytes = 0 :=
      congrArg Budget.oooBytes taken
    refine ⟨backed, ?_⟩
    rw [TcpFlow.held, cfg, queued, cached]
    exact (admitData_some admitted).1

theorem Level.persists : World.Persists Calm Level where
  own c event own small calm level := by
    refine ⟨step_rested c event level.rested, ?_⟩
    by_cases feeds : event.Feeds c
    · cases event with
      | segment th data =>
          obtain ⟨size, rest, owed, calm⟩ := calm.resolve_left (not_not_intro feeds)
          have isOpen : c.flow.state ≠ .closed := by
            intro closed
            have takes := feeds.2.2
            simp [Conn.takes, closed] at takes
          have flushes : c.beforeFlush th data =
              some (deliverData (c.stage th) (freshData c.flow.rcvNxt th.seq data)) := if_pos feeds
          exact (Poised.receive (level.rested isOpen) level.stowed owed flushes
            (calm th data rfl)).2.2.stowed
      | _ => exact feeds.elim
    · exact level.stowed.path (step_starves c event feeds)
  aside c eng cfg _ level := by
    refine ⟨level.rested, level.stowed.backed, ?_⟩
    dsimp only
    rw [cfg]
    exact level.stowed.fits
  opened eng id key th payload data iss :=
    ⟨fun _ => openFlow_rested eng id key th payload data iss,
      openFlow_stowed eng id key th payload data iss⟩

namespace Engines

/-- A segment makes its flow hold more than the cap. -/
def Spills (e : Engines) (event : EngineEvent) : Prop :=
  ∃ id th data, e.arrival event = some (id, th, data) ∧ (e.tcp.conn id).Spills th data

/-- The flow that is handed to `flush_ooo` in a step. -/
def beforeFlush (e : Engines) (event : EngineEvent) : Option Conn :=
  (e.arrival event).bind fun (id, th, data) => (e.tcp.conn id).beforeFlush th data

/-- Behind the step no flow holds more than its cap.  Nor does the one that is flushed in it
when that begins, and the flush delivers what it takes out. -/
structure Caps (cap : Nat) (e : Engines) (event : EngineEvent) : Prop where
  after : ∀ id, ((e.step event).tcp.records id).flow.held ≤ cap
  flush : ∀ c ∈ e.beforeFlush event, c.flow.held ≤ cap ∧ FlushesWhole c

/-- What a run without spilling keeps. -/
structure Levels (cfg : TunConfig) (e : Engines) : Prop where
  joint : Joint cfg.maxTotalBuffer e
  same : e.tcp.eng.cfg = cfg
  level : ∀ id < e.tcp.created, Level (e.tcp.conn id)

theorem Levels.rested {cfg : TunConfig} {e : Engines} (levels : Levels cfg e) {id : FlowId}
    (isOpen : (e.tcp.records id).flow.state ≠ .closed) : (e.tcp.conn id).inbox.Rested :=
  (levels.level id (levels.joint.kept.created id isOpen)).rested isOpen

theorem Levels.held {cfg : TunConfig} {e : Engines} (levels : Levels cfg e) (id : FlowId) :
    (e.tcp.records id).flow.held ≤ cfg.maxRxQueuePerFlow := by
  by_cases closed : (e.tcp.records id).flow.state = .closed
  · have settled := levels.joint.kept.settled id closed
    rw [TcpFlow.held, settled.rxBytes, settled.oooBytes]
    exact Nat.zero_le _
  · have fits := (levels.level id (levels.joint.kept.created id closed)).stowed.fits
    rw [← levels.same]
    exact fits

theorem Levels.step {cfg : TunConfig} {e : Engines} (levels : Levels cfg e) (event : EngineEvent)
    (calm : ¬e.Spills event) : Levels cfg (e.step event) := by
  refine ⟨levels.joint.step event, ?_, ?_⟩
  · cases event with
    | tcp event own => exact (World.step_cfg levels.joint.kept event).trans levels.same
    | udp event own => exact levels.same
  · cases event with
    | tcp event own =>
        refine Level.persists.step levels.joint.kept event (fun c other apart => ?_) ?_ levels.level
        · refine Or.inl fun feeds => ?_
          cases other with
          | segment th data => exact apart th data rfl
          | _ => exact feeds
        · intro id th data arrives
          have isOpen := World.arrival_open levels.joint.kept arrives
          refine Or.inr ⟨_, _, levels.joint.flows.owed levels.joint.kept isOpen, ?_⟩
          rintro th' data' same spills
          cases same
          exact calm ⟨id, th, data, arrives, spills⟩
    | udp event own =>
        intro id old
        exact Level.persists.aside (e.tcp.conn id) _ rfl (Int.le_refl _) (levels.level id old)

/-- A step keeps to the cap exactly when it does not spill. -/
theorem Levels.caps {cfg : TunConfig} {e : Engines} (levels : Levels cfg e) (event : EngineEvent) :
    ¬e.Spills event ↔ Caps cfg.maxRxQueuePerFlow e event := by
  constructor
  · intro calm
    refine ⟨(levels.step event calm).held, fun c flushed => ?_⟩
    obtain ⟨⟨id, th, data⟩, arrives, flushes⟩ := Option.bind_eq_some_iff.mp flushed
    have isOpen := levels.joint.arrival_open arrives
    have spared : ¬(e.tcp.conn id).Spills th data :=
      fun spills => calm ⟨id, th, data, arrives, spills⟩
    have level := levels.level id (levels.joint.kept.created id isOpen)
    have room := (beforeFlush_held (levels.rested isOpen) flushes).mpr ⟨level.stowed.fits, spared⟩
    rw [show (e.tcp.conn id).eng.cfg = cfg from levels.same] at room
    exact ⟨room.1, (Poised.receive (levels.rested isOpen) level.stowed
      (levels.joint.flows.owed levels.joint.kept isOpen) flushes spared).2.1⟩
  · rintro caps ⟨id, th, data, arrives, spills⟩
    have isOpen := levels.joint.arrival_open arrives
    have flushes : (e.tcp.conn id).beforeFlush th data =
        some (deliverData ((e.tcp.conn id).stage th)
          (freshData (e.tcp.conn id).flow.rcvNxt th.seq data)) := if_pos spills.1
    have flushed : deliverData ((e.tcp.conn id).stage th)
        (freshData (e.tcp.conn id).flow.rcvNxt th.seq data) ∈ e.beforeFlush event :=
      Option.bind_eq_some_iff.mpr ⟨(id, th, data), arrives, flushes⟩
    have room := (caps.flush _ flushed).1
    rw [show cfg = (e.tcp.conn id).eng.cfg from levels.same.symm] at room
    have held : (e.tcp.conn id).flow.held ≤ (e.tcp.conn id).eng.cfg.maxRxQueuePerFlow := by
      rw [show (e.tcp.conn id).eng.cfg = cfg from levels.same]
      exact levels.held id
    exact ((beforeFlush_held (levels.rested isOpen) flushes).mp ⟨room, held⟩).2 spills

theorem Levels.fresh (cfg : TunConfig) (now : Int) : Levels cfg (fresh cfg now) :=
  ⟨Joint.fresh cfg now, rfl, fun id old => absurd old (Nat.not_lt_zero id)⟩

/-- No flow ever holds more than its cap, and every flush delivers what it takes out, exactly
when no segment spills. -/
theorem run_unspilled (cfg : TunConfig) (now : Int) (events : List EngineEvent) :
    Throughout step (fun e event => ¬e.Spills event) (fresh cfg now) events ↔
      Throughout step (Caps cfg.maxRxQueuePerFlow) (fresh cfg now) events := by
  have start := Levels.fresh cfg now
  generalize fresh cfg now = e at start
  induction events generalizing e with
  | nil => exact Iff.rfl
  | cons event rest ih =>
      constructor
      · rintro ⟨calm, later⟩
        exact ⟨(start.caps event).mp calm, (ih _ (start.step event calm)).mp later⟩
      · rintro ⟨caps, later⟩
        have calm := (start.caps event).mpr caps
        exact ⟨calm, (ih _ (start.step event calm)).mpr later⟩

/-- A segment of the peer with the given port. -/
def peerPacket (port : UInt16) (seq ack : UInt32) (flags : UInt8) (data : List UInt8) :
    EngineEvent :=
  have small : (List.replicate 20 (0 : UInt8) ++ data.take 1000).length ≤ World.maxPacket := by
    have short := List.length_take_le 1000 data
    rw [List.length_append, List.length_replicate]
    unfold World.maxPacket
    omega
  .tcp (.packet
    { family := 4, srcIp := Vector.replicate 16 1, dstIp := Vector.replicate 16 2 }
    { srcPort := port, dstPort := 2, seq := seq, ack := ack, dataOffset := 0x50, flags := flags
      window := 1000 } true ⟨List.replicate 20 0 ++ data.take 1000, small⟩ 1000) nofun

/-- A connection of the peer is accepted. -/
def opening (port : UInt16) (handler : HandlerId) (id : FlowId) : List EngineEvent :=
  [peerPacket port 7 0 tcpSyn [], .tcp (.asyncAccept handler) nofun,
    .tcp (.call id .accept) nofun, peerPacket port 8 1001 tcpAck []]

/-- Three bytes arrive early, then the first two. -/
def spillEvents (early : UInt32) : List EngineEvent :=
  opening 1 0 0 ++
    [peerPacket 1 early 1001 tcpAck [3, 4, 5], peerPacket 1 8 1001 tcpAck [1, 2]]

def spilled (early : UInt32) : Engines :=
  (fresh { maxRxQueuePerFlow := 4 } 0).run (spillEvents early)

/-- With room for four bytes the flow holds five.  Where the two lead up to the three, these are
thrown away. -/
theorem spill_exceeds :
    ¬Throughout step (Caps 4) (fresh { maxRxQueuePerFlow := 4 } 0) (spillEvents 11) ∧
      ((spilled 11).tcp.records 0).flow.held = 5 ∧
        ((spilled 10).tcp.records 0).flow.rxData = [1, 2] ∧
          ((spilled 10).tcp.records 0).flow.rcvNxt = 10 ∧
            ((spilled 10).tcp.records 0).flow.oooCache.size = 0 := by
  have held : ((spilled 11).tcp.records 0).flow.held = 5 := by decide +kernel
  refine ⟨fun caps => ?_, held, by decide +kernel, by decide +kernel, by decide +kernel⟩
  have bound : ((spilled 11).tcp.records 0).flow.held ≤ 4 := caps.2.2.2.2.2.1.after 0
  omega

end Engines

end Tunio
