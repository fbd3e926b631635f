import Tunio.Crew
import Tunio.EngineCore

/-!
The gate of the blocking calls: `begin_op` counts a call in and out, and who closes the engine
waits until nobody is counted.
-/

namespace Tunio

open Crews Courses Desks

namespace HostThread

/-- Counted in `active`. -/
def counted : HostThread → Bool
  | .admitted _ _ => true
  | .departing _ => true
  | _ => false

/-- Closes or opens the engine. -/
def owns : HostThread → Bool
  | .draining _ => true
  | .stopping _ => true
  | .closing _ => true
  | .opening => true
  | .built => true
  | .replaced => true
  | _ => false

def drains : HostThread → Bool
  | .draining _ => true
  | _ => false

def closes : HostThread → Bool
  | .closing _ => true
  | _ => false

/-- Past the wait for the calls that were let in. -/
def settled (thread : HostThread) : Bool := thread.owns && !thread.drains

end HostThread

/-- The thread that waits for `engine.close()`. -/
def CoreTask.closer : CoreTask → Option (ThreadId × Bool)
  | .close t free => some (t, free)
  | _ => none

structure GateView where
  closed : Bool
  active : Nat
  acceptor : Option AcceptorId
  threads : List HostThread
  closers : List (ThreadId × Bool)

structure Gated (v : GateView) : Prop where
  active : v.active = v.threads.countP HostThread.counted
  single : v.threads.countP HostThread.owns ≤ 1
  shut : 0 < v.threads.countP HostThread.owns → v.closed = true
  drained : 0 < v.active → v.closed = false ∨ 0 < v.threads.countP HostThread.drains
  kept : ∀ (t : ThreadId) (op : BlockingOp) (acceptor : Option AcceptorId),
    v.threads[t]? = some (HostThread.admitted op acceptor) → v.acceptor = acceptor
  awaited : ∀ (t : ThreadId) (free : Bool), (t, free) ∈ v.closers → v.threads[t]? = some (HostThread.closing free)
  once : v.closers.length = v.threads.countP HostThread.closes

namespace Gated

variable {v : GateView} {t : ThreadId} {old : HostThread}

/-- An owner that does not wait for the calls has nobody counted. -/
theorem settled_active (gated : Gated v) (here : v.threads[t]? = some old)
    (settled : old.settled = true) : v.active = 0 := by
  unfold HostThread.settled at settled
  rw [Bool.and_eq_true, Bool.not_eq_true'] at settled
  have owner := countP_pos here settled.1
  have closed := gated.shut owner
  by_contra counted
  rcases gated.drained (Nat.pos_of_ne_zero counted) with opened | draining
  · rw [closed] at opened
    cases opened
  · obtain ⟨other, member, drains⟩ := List.countP_pos_iff.mp draining
    obtain ⟨row, there⟩ := List.mem_iff_getElem?.mp member
    have otherOwns : other.owns = true := by
      cases other <;> first | rfl | cases drains
    obtain rfl := countP_alone gated.single here there settled.1 otherOwns
    rw [here] at there
    obtain rfl := Option.some.inj there
    rw [settled.2] at drains
    cases drains

/-- What a move of one thread has to meet. -/
theorem move (gated : Gated v) {w : GateView} {new : HostThread} (here : v.threads[t]? = some old)
    (threads : w.threads = v.threads.set t new)
    (active : w.active + old.counted.toNat = v.active + new.counted.toNat)
    (single : v.threads.countP HostThread.owns + new.owns.toNat ≤ 1 + old.owns.toNat)
    (shut : w.closed = true ∨ v.threads.countP HostThread.owns + new.owns.toNat = old.owns.toNat)
    (drained : 0 < w.active →
      w.closed = false ∨ old.drains.toNat < v.threads.countP HostThread.drains + new.drains.toNat)
    (kept : w.acceptor = v.acceptor ∨ w.active = 0)
    (admits : ∀ op acceptor, new = .admitted op acceptor → w.acceptor = acceptor)
    (awaited : ∀ u free, (u, free) ∈ w.closers →
      (u, free) ∈ v.closers ∧ u ≠ t ∨ u = t ∧ new = .closing free)
    (once : w.closers.length + old.closes.toNat = v.closers.length + new.closes.toNat) :
    Gated w := by
  have counted := countP_move here new HostThread.counted
  have owns := countP_move here new HostThread.owns
  have drains := countP_move here new HostThread.drains
  have closes := countP_move here new HostThread.closes
  rw [← threads] at counted owns drains closes
  have counts : w.active = w.threads.countP HostThread.counted := by
    have before := gated.active
    omega
  refine ⟨counts, by omega, ?_, ?_, ?_, ?_, ?_⟩
  · intro owner
    exact shut.resolve_right (by omega)
  · intro positive
    refine (drained positive).imp_right fun more => ?_
    omega
  · intro u op acceptor there
    rcases kept with same | nobody
    · rw [threads] at there
      rcases set_cases there with ⟨_, arrived⟩ | ⟨_, stayed⟩
      · exact admits op acceptor arrived.symm
      · rw [same]
        exact gated.kept u op acceptor stayed
    · have positive : 0 < w.threads.countP HostThread.counted := countP_pos there rfl
      omega
  · intro u free member
    rw [threads]
    rcases awaited u free member with ⟨waited, other⟩ | ⟨rfl, rfl⟩
    · rw [List.getElem?_set_ne (Ne.symm other)]
      exact gated.awaited u free waited
    · exact set_here here _
  · have before := gated.once
    omega

/-- A thread that is not counted and owns nothing goes on to such a place. -/
theorem plain (gated : Gated v) {new : HostThread} (here : v.threads[t]? = some old)
    (oldCounted : old.counted = false) (oldOwns : old.owns = false)
    (newCounted : new.counted = false) (newOwns : new.owns = false) :
    Gated { v with threads := v.threads.set t new } := by
  have oldDrains : old.drains = false := by
    cases old <;> first | rfl | cases oldOwns
  have newDrains : new.drains = false := by
    cases new <;> first | rfl | cases newOwns
  have oldCloses : old.closes = false := by
    cases old <;> first | rfl | cases oldOwns
  have newCloses : new.closes = false := by
    cases new <;> first | rfl | cases newOwns
  refine gated.move here rfl ?_ ?_ ?_ ?_ (Or.inl rfl) ?_ ?_ ?_
  · rw [oldCounted, newCounted]
  · have single := gated.single
    simp only [oldOwns, newOwns, Bool.toNat_false]
    omega
  · simp only [oldOwns, newOwns, Bool.toNat_false]
    rcases Nat.eq_zero_or_pos (v.threads.countP HostThread.owns) with none | some
    · exact Or.inr none
    · exact Or.inl (gated.shut some)
  · intro positive
    simp only [oldDrains, newDrains, Bool.toNat_false]
    exact gated.drained positive
  · rintro op acceptor rfl
    cases newCounted
  · intro u free member
    refine Or.inl ⟨member, ?_⟩
    rintro rfl
    have there := gated.awaited u free member
    rw [here] at there
    obtain rfl := Option.some.inj there
    cases oldOwns
  · rw [oldCloses, newCloses]

/-- `close` wins the exchange of `closed`. -/
theorem begins (gated : Gated v) (here : v.threads[t]? = some old) (counted : old.counted = false)
    (owns : old.owns = false) (opened : v.closed = false) (free : Bool) :
    Gated { v with closed := true, threads := v.threads.set t (.draining free) } := by
  have nobody : v.threads.countP HostThread.owns = 0 := by
    by_contra some
    rw [gated.shut (Nat.pos_of_ne_zero some)] at opened
    cases opened
  have oldDrains : old.drains = false := by
    cases old <;> first | rfl | cases owns
  have oldCloses : old.closes = false := by
    cases old <;> first | rfl | cases owns
  refine gated.move here rfl ?_ ?_ (Or.inl rfl) ?_ (Or.inl rfl) ?_ ?_ ?_
  · rw [counted]
    rfl
  · rw [nobody, owns]
    exact Nat.le_refl _
  · intro _
    rw [oldDrains]
    exact Or.inr (Nat.succ_pos _)
  · rintro op acceptor ⟨⟩
  · intro u free member
    refine Or.inl ⟨member, ?_⟩
    rintro rfl
    have there := gated.awaited u free member
    rw [here] at there
    obtain rfl := Option.some.inj there
    cases owns
  · rw [oldCloses]
    rfl

/-- `open` has seen that the engine is not open. -/
theorem opens (gated : Gated v) {last : ApiCode} (here : v.threads[t]? = some (.outside last))
    (closed : v.closed = true) (alone : ∀ thread ∈ v.threads, thread.owns = false) :
    Gated { v with threads := v.threads.set t .opening } := by
  have nobody : v.threads.countP HostThread.owns = 0 := by
    refine List.countP_eq_zero.mpr fun thread member owns => ?_
    rw [alone thread member] at owns
    cases owns
  refine gated.move here rfl rfl ?_ (Or.inl closed) ?_ (Or.inl rfl) ?_ ?_ rfl
  · rw [nobody]
    exact Nat.le_refl _
  · exact gated.drained
  · rintro op acceptor ⟨⟩
  · intro u free member
    refine Or.inl ⟨member, ?_⟩
    rintro rfl
    have there := gated.awaited u free member
    rw [here] at there
    cases there

/-- No `close` waits for the engine on behalf of a thread that is elsewhere. -/
theorem waits_elsewhere (gated : Gated v) (here : v.threads[t]? = some old)
    (elsewhere : old.closes = false) {new : HostThread} (u : ThreadId) (free : Bool)
    (member : (u, free) ∈ v.closers) :
    (u, free) ∈ v.closers ∧ u ≠ t ∨ u = t ∧ new = .closing free := by
  refine Or.inl ⟨member, ?_⟩
  rintro rfl
  have there := gated.awaited u free member
  rw [here] at there
  obtain rfl := Option.some.inj there
  cases elsewhere

theorem admits (gated : Gated v) {op : BlockingOp} (here : v.threads[t]? = some (.checked op))
    (opened : v.closed = false) :
    Gated { v with
      active := v.active + 1
      threads := v.threads.set t (.admitted op v.acceptor) } := by
  refine gated.move here rfl rfl ?_ (Or.inr ?_) (fun _ => Or.inl opened) (Or.inl rfl) ?_
    (gated.waits_elsewhere here rfl) rfl
  · exact gated.single
  · by_contra some
    have closed := gated.shut (Nat.pos_of_ne_zero some)
    rw [opened] at closed
    cases closed
  · rintro op acceptor ⟨⟩
    rfl

/-- A thread leaves its place for one that counts as much, and neither owns anything. -/
theorem departs (gated : Gated v) {new : HostThread} (here : v.threads[t]? = some old)
    (oldOwns : old.owns = false) (newOwns : new.owns = false) (active : Nat)
    (counts : active + old.counted.toNat = v.active + new.counted.toNat)
    (fewer : active ≤ v.active) (admits : ∀ op acceptor, new ≠ .admitted op acceptor) :
    Gated { v with active := active, threads := v.threads.set t new } := by
  have oldDrains : old.drains = false := by
    cases old <;> first | rfl | cases oldOwns
  have newDrains : new.drains = false := by
    cases new <;> first | rfl | cases newOwns
  have oldCloses : old.closes = false := by
    cases old <;> first | rfl | cases oldOwns
  have newCloses : new.closes = false := by
    cases new <;> first | rfl | cases newOwns
  refine gated.move here rfl counts ?_ ?_ ?_ (Or.inl rfl) ?_ (gated.waits_elsewhere here oldCloses) ?_
  · rw [oldOwns, newOwns]
    exact Nat.le_trans gated.single (Nat.le_refl _)
  · simp only [oldOwns, newOwns, Bool.toNat_false]
    rcases Nat.eq_zero_or_pos (v.threads.countP HostThread.owns) with none | some
    · exact Or.inr none
    · exact Or.inl (gated.shut some)
  · intro positive
    simp only [oldDrains, newDrains, Bool.toNat_false]
    exact gated.drained (Nat.lt_of_lt_of_le positive fewer)
  · intro op acceptor same
    exact absurd same (admits op acceptor)
  · rw [oldCloses, newCloses]

/-- An owner goes on while nobody is counted. -/
theorem goes (gated : Gated v) (here : v.threads[t]? = some old) (new : HostThread)
    (owns : old.owns = true) (idle : v.active = 0) (counted : new.counted = false)
    (closed : Bool) (acceptor : Option AcceptorId) (closers : List (ThreadId × Bool))
    (shut : closed = true ∨ new.owns = false)
    (awaited : ∀ u free, (u, free) ∈ closers →
      (u, free) ∈ v.closers ∧ u ≠ t ∨ u = t ∧ new = .closing free)
    (once : closers.length + old.closes.toNat = v.closers.length + new.closes.toNat) :
    Gated {
      closed := closed
      active := v.active
      acceptor := acceptor
      threads := v.threads.set t new
      closers := closers } := by
  have one : v.threads.countP HostThread.owns = 1 :=
    Nat.le_antisymm gated.single (countP_pos here owns)
  have oldCounted : old.counted = false := by
    cases old <;> first | rfl | cases owns
  refine gated.move here rfl ?_ ?_ ?_ ?_ (Or.inr idle) ?_ awaited once
  · rw [oldCounted, counted]
  · rw [one, owns]
    have bound := Bool.toNat_le new.owns
    exact Nat.add_le_add_left bound 1
  · refine shut.imp_right fun owns' => ?_
    rw [one, owns', owns]
    rfl
  · intro positive
    exact absurd idle (Nat.ne_of_gt positive)
  · rintro op acceptor rfl
    cases counted

end Gated

namespace EngineCore

def gate (s : EngineCore) : GateView where
  closed := s.closed
  active := s.active
  acceptor := s.acceptor
  threads := s.threads
  closers := s.tasks.filterMap CoreTask.closer

/-! What the engine does behind the handle. -/

theorem closers_append (tasks more : List CoreTask)
    (plain : ∀ task ∈ more, task.closer = none) :
    (tasks ++ more).filterMap CoreTask.closer = tasks.filterMap CoreTask.closer := by
  rw [List.filterMap_append, List.filterMap_eq_nil_iff.mpr plain, List.append_nil]

theorem served_closer (transport : Traffic) (entry : Holder × Option FlowId) :
    (served transport entry).closer = none := by
  obtain ⟨holder, _ | id⟩ := entry <;> rfl

@[simp] theorem gate_attend (s : EngineCore) (transport : Traffic) (desk : Desk Holder FlowId) :
    (s.attend transport desk).gate = s.gate := by
  have same := closers_append s.tasks ((desk.served.drop
    (s.desk transport).served.length).map (served transport)) (by
      intro task member
      obtain ⟨entry, _, rfl⟩ := List.mem_map.mp member
      exact served_closer transport entry)
  exact congrArg (GateView.mk s.closed s.active s.acceptor s.threads) same

theorem gate_post (s : EngineCore) (task : CoreTask) (plain : task.closer = none) :
    (s.post task).gate = s.gate := by
  have same := closers_append s.tasks [task] (by simpa using plain)
  exact congrArg (GateView.mk s.closed s.active s.acceptor s.threads) same

@[simp] theorem gate_asyncAccept (s : EngineCore) (transport : Traffic) (holder : Holder) :
    (s.asyncAccept transport holder).gate = s.gate := by
  unfold asyncAccept
  split
  · exact gate_attend s transport _
  · exact gate_post s _ rfl

@[simp] theorem gate_engineClose (s : EngineCore) : s.engineClose.gate = s.gate := by
  unfold engineClose
  split
  · have same := closers_append s.tasks
      (s.transfers.map fun t => CoreTask.finish t .operationAborted) (by
        intro task member
        obtain ⟨t, _, rfl⟩ := List.mem_map.mp member
        rfl)
    simp only [closeDesk, gate_attend]
    exact congrArg (GateView.mk s.closed s.active s.acceptor s.threads) same
  · rfl

/-! The host threads. -/

/-- An open that finds the engine not open begins once a close has finished, and alone. -/
def OpensAlone (s : EngineCore) : Move → Prop
  | .call _ .openEngine =>
      s.engineOpen = true ∨ s.closed = true ∧ ∀ thread ∈ s.threads, thread.owns = false
  | _ => True

instance (s : EngineCore) (move : Move) : Decidable (s.OpensAlone move) := by
  unfold OpensAlone
  split <;> infer_instance

variable {s : EngineCore} {t : ThreadId}

theorem left_counted (free : Bool) : (left free).counted = false := by cases free <;> rfl

theorem left_closes (free : Bool) : (left free).closes = false := by cases free <;> rfl

theorem enter_gated (gated : Gated s.gate) {last : ApiCode}
    (here : s.threads[t]? = some (.outside last)) (call : HostCall)
    (alone : s.OpensAlone (.call t call)) : Gated (s.enter t call).gate := by
  have plain (new : HostThread) (counted : new.counted = false) (owns : new.owns = false) :
      Gated { s.gate with threads := s.threads.set t new } :=
    gated.plain here rfl rfl counted owns
  cases call with
  | accept transport =>
      unfold enter
      dsimp only
      split
      · exact plain (.outside .closed) rfl rfl
      · exact plain (.entered transport) rfl rfl
  | transfer =>
      unfold enter
      dsimp only
      split
      · exact plain (.outside .closed) rfl rfl
      · exact plain (.checked .transfer) rfl rfl
  | register transport cb =>
      unfold enter
      dsimp only
      split
      · exact plain (.outside .closed) rfl rfl
      · exact plain (.registering transport cb) rfl rfl
  | free => exact plain .releasing rfl rfl
  | close =>
      unfold enter
      dsimp only
      split
      · exact plain (.outside .ok) rfl rfl
      · rename_i opened
        exact gated.begins here rfl rfl (Bool.eq_false_iff.mpr opened) false
  | openEngine =>
      unfold enter
      dsimp only
      split
      · exact plain (.outside .fail) rfl rfl
      · rename_i down
        obtain ⟨closed, alone⟩ := alone.resolve_left down
        exact gated.opens here closed alone

theorem advance_gated (gated : Gated s.gate) {thread : HostThread}
    (here : s.threads[t]? = some thread) (choice : Bool) :
    Gated (s.advance t choice thread).gate := by
  have plain (new : HostThread) (oldCounted : thread.counted = false) (oldOwns : thread.owns = false)
      (counted : new.counted = false) (owns : new.owns = false) :
      Gated { s.gate with threads := s.threads.set t new } :=
    gated.plain here oldCounted oldOwns counted owns
  have posted (task : CoreTask) (new : HostThread) (elsewhere : task.closer = none) :
      ((s.post task).put t new).gate = { s.gate with threads := s.threads.set t new } := by
    have same := gate_post s task elsewhere
    exact congrArg (fun v : GateView => { v with threads := s.threads.set t new }) same
  cases thread with
  | outside last => exact gated
  | entered transport =>
      unfold advance
      dsimp only
      split
      · exact plain (.outside .closed) rfl rfl rfl rfl
      · exact plain (.checked _) rfl rfl rfl rfl
  | checked op =>
      unfold advance letIn
      dsimp only
      split
      · exact plain (.outside .closed) rfl rfl rfl rfl
      · rename_i opened
        exact gated.admits here (Bool.eq_false_iff.mpr opened)
  | admitted op acceptor =>
      unfold advance
      dsimp only
      split
      · rw [posted _ _ rfl]
        exact gated.departs here rfl rfl s.active rfl (Nat.le_refl _) (by rintro _ _ ⟨⟩)
      · exact gated.departs here rfl rfl s.active rfl (Nat.le_refl _) (by rintro _ _ ⟨⟩)
  | departing initiated =>
      have positive : 0 < s.active := by
        rw [show s.active = _ from gated.active]
        exact countP_pos here rfl
      unfold advance
      dsimp only
      cases initiated with
      | true =>
          exact gated.departs here rfl rfl (s.active - 1) (Nat.sub_add_cancel positive)
            (Nat.sub_le _ _) (by rintro _ _ ⟨⟩)
      | false =>
          exact gated.departs here rfl rfl (s.active - 1) (Nat.sub_add_cancel positive)
            (Nat.sub_le _ _) (by rintro _ _ ⟨⟩)
  | waiting =>
      unfold advance
      dsimp only
      split
      · exact gated
      · exact plain (.outside _) rfl rfl rfl rfl
  | registering transport cb =>
      unfold advance enrol
      dsimp only
      split
      · exact plain (.arming transport) rfl rfl rfl rfl
      · split
        · exact plain (.cancelling transport) rfl rfl rfl rfl
        · exact plain (.outside .ok) rfl rfl rfl rfl
  | arming transport =>
      unfold advance
      dsimp only
      split
      · exact plain (.outside .ok) rfl rfl rfl rfl
      · exact plain (.posting transport) rfl rfl rfl rfl
  | posting transport =>
      unfold advance
      dsimp only
      rw [posted _ _ rfl]
      exact plain (.outside .ok) rfl rfl rfl rfl
  | cancelling transport =>
      unfold advance
      dsimp only
      rw [posted _ _ rfl]
      exact plain (.outside .ok) rfl rfl rfl rfl
  | releasing =>
      unfold advance
      dsimp only
      split
      · exact plain .joining rfl rfl rfl rfl
      · rename_i opened
        exact gated.begins here rfl rfl (Bool.eq_false_iff.mpr opened) true
  | draining free =>
      unfold advance
      dsimp only
      split
      · rename_i idle
        exact gated.goes here _ rfl idle rfl s.closed s.acceptor _
          (Or.inl (gated.shut (countP_pos here rfl))) (gated.waits_elsewhere here rfl) rfl
      · exact gated
  | stopping free =>
      have idle : s.active = 0 := gated.settled_active here rfl
      have closed : s.closed = true := gated.shut (countP_pos here rfl)
      have away : Gated (s.put t (left free)).gate := gated.goes here _ rfl idle (left_counted free)
        s.closed s.acceptor _ (Or.inl closed) (gated.waits_elsewhere here rfl)
        (congrArg _ (congrArg Bool.toNat (left_closes free).symm))
      unfold advance
      dsimp only
      split
      · split
        · have same := gate_engineClose s
          rw [show (s.engineClose.put t (left free)).gate = (s.put t (left free)).gate from
            congrArg (fun v : GateView => { v with threads := v.threads.set t (left free) }) same]
          exact away
        · have closers : (s.post (.close t free)).tasks.filterMap CoreTask.closer =
              s.gate.closers ++ [(t, free)] := by
            simp [post, gate, CoreTask.closer]
          have next := gated.goes here (.closing free) rfl idle rfl s.closed s.acceptor
            (s.gate.closers ++ [(t, free)]) (Or.inl closed) ?_ (by simp [HostThread.closes])
          · rw [← closers] at next
            exact next
          · intro u free' member
            rcases List.mem_append.mp member with waits | last
            · exact gated.waits_elsewhere here rfl u free' waits
            · simp only [List.mem_singleton, Prod.mk.injEq] at last
              obtain ⟨rfl, rfl⟩ := last
              exact Or.inr ⟨rfl, rfl⟩
      · exact away
  | closing free => exact gated
  | joining =>
      unfold advance
      dsimp only
      split
      · exact plain (.outside .ok) rfl rfl rfl rfl
      · exact gated
  | opening =>
      have idle : s.active = 0 := gated.settled_active here rfl
      have closed : s.closed = true := gated.shut (countP_pos here rfl)
      unfold advance
      dsimp only
      split
      · exact gated.goes here _ rfl idle rfl s.closed s.acceptor _ (Or.inl closed)
          (gated.waits_elsewhere here rfl) rfl
      · exact gated.goes here _ rfl idle rfl s.closed s.acceptor _ (Or.inl closed)
          (gated.waits_elsewhere here rfl) rfl
  | built =>
      have idle : s.active = 0 := gated.settled_active here rfl
      have closed : s.closed = true := gated.shut (countP_pos here rfl)
      exact gated.goes here _ rfl idle rfl s.closed (some s.epoch) _ (Or.inl closed)
        (gated.waits_elsewhere here rfl) rfl
  | replaced =>
      have idle : s.active = 0 := gated.settled_active here rfl
      exact gated.goes here _ rfl idle rfl false s.acceptor _ (Or.inr rfl)
        (gated.waits_elsewhere here rfl) rfl

/-! The executor. -/

theorem proceed_gate (s : EngineCore) (phase : AcceptPhase) : (s.proceed phase).gate = s.gate := by
  cases phase with
  | accepting transport => exact gate_asyncAccept _ _ _
  | deciding transport id =>
      unfold proceed
      dsimp only
      split
      · split <;> rfl
      · rfl
  | calling transport id cb => rfl
  | rearming transport =>
      unfold proceed
      dsimp only
      split <;> rfl
  | arming transport =>
      unfold proceed
      dsimp only
      split <;> rfl
  | posting transport => exact gate_post _ _ rfl

theorem perform_gate (s : EngineCore) (outcome : Option ErrorCode) (task : CoreTask)
    (plain : task.closer = none) : (s.perform outcome task).gate = s.gate := by
  cases task with
  | body t op epoch =>
      cases op with
      | accept transport acceptor =>
          unfold perform
          dsimp only
          split
          · exact gate_asyncAccept s _ _
          · exact gate_post s _ rfl
      | transfer =>
          unfold perform startTransfer
          dsimp only
          split
          · exact gate_post s _ rfl
          · split
            · rfl
            · exact gate_post s _ rfl
  | completed transport holder result => exact gate_post s _ rfl
  | deliver transport holder result =>
      cases holder with
      | listener => cases result <;> rfl
      | caller t => rfl
  | finish t ec => rfl
  | arm transport =>
      unfold perform
      dsimp only
      split <;> rfl
  | cancel transport =>
      unfold perform
      dsimp only
      split
      · exact gate_attend s _ _
      · rfl
  | close t free => cases plain

theorem strand_gated (gated : Gated s.gate) (outcome : Option ErrorCode) :
    Gated (s.strand outcome).gate := by
  unfold strand
  split
  · rw [proceed_gate]
    exact gated
  · split
    · exact gated
    · rename_i task rest queue
      have closers : s.gate.closers = task.closer.toList ++ rest.filterMap CoreTask.closer := by
        show s.tasks.filterMap CoreTask.closer = _
        rw [queue]
        cases closer : task.closer <;> simp [closer]
      cases closer : task.closer with
      | none =>
          rw [perform_gate _ _ _ closer]
          rw [closer] at closers
          show Gated { s.gate with closers := rest.filterMap CoreTask.closer }
          rw [show rest.filterMap CoreTask.closer = s.gate.closers from closers.symm]
          exact gated
      | some waiter =>
          obtain ⟨t, free⟩ := waiter
          have here := gated.awaited t free (by rw [closers, closer]; exact List.mem_cons_self)
          have idle := gated.settled_active here rfl
          have closed := gated.shut (countP_pos here rfl)
          have single : s.gate.closers.length ≤ 1 := by
            rw [gated.once]
            refine Nat.le_trans (List.countP_mono_left fun thread _ closes => ?_) gated.single
            cases thread <;> first | rfl | cases closes
          have last : rest.filterMap CoreTask.closer = [] := by
            rw [closers, closer] at single
            simpa using single
          have done := gated.goes here (left free) rfl idle (left_counted free) s.closed
            s.acceptor [] (Or.inl closed) (by rintro u free' ⟨⟩) (by
              rw [closers, closer, last, left_closes]
              rfl)
          have task_eq : task = .close t free := by
            cases task <;> first | cases closer; rfl | cases closer
          subst task
          have same := gate_engineClose { s with tasks := rest }
          have threads := congrArg (fun v : GateView => { v with threads := v.threads.set t (left free) })
            same
          have final : (({ s with tasks := rest } : EngineCore).perform outcome (.close t free)).gate =
              { s.gate with threads := s.threads.set t (left free), closers := [] } := by
            refine threads.trans ?_
            simp [gate, last]
          rw [final]
          exact done

theorem step_gated (gated : Gated s.gate) (move : Move) (alone : s.OpensAlone move) :
    Gated (s.step move).gate := by
  cases move with
  | call t call =>
      unfold step
      dsimp only
      split
      · rename_i last here
        exact enter_gated gated here call alone
      · exact gated
  | advance t choice =>
      unfold step
      dsimp only
      split
      · rename_i thread here
        exact advance_gated gated here choice
      · exact gated
  | strand outcome => exact strand_gated gated outcome
  | arrives transport =>
      unfold step
      dsimp only
      split
      · exact (gate_attend _ _ _).symm ▸ gated
      · exact gated
  | withdraw transport id =>
      unfold step
      dsimp only
      split
      · exact (gate_attend _ _ _).symm ▸ gated
      · exact gated
  | completes t ec =>
      unfold step completes
      dsimp only
      split
      · split
        · rw [gate_post _ (.finish t ec) rfl]
          exact gated
        · exact gated
      · exact gated
  | deviceFails =>
      unfold step
      dsimp only
      split
      · rw [gate_engineClose]
        exact gated
      · exact gated

theorem fresh_gated (count : Nat) : Gated (fresh count).gate := by
  have zero (kind : HostThread → Bool) (none : kind (.outside .ok) = false) :
      (List.replicate count (HostThread.outside .ok)).countP kind = 0 := by
    rw [List.countP_replicate, none]
    rfl
  have places (t : ThreadId) (thread : HostThread)
      (here : (List.replicate count (HostThread.outside .ok))[t]? = some thread) :
      thread = .outside .ok := (List.eq_of_mem_replicate (List.mem_of_getElem? here))
  constructor
  · exact (zero _ rfl).symm
  · exact (zero HostThread.owns rfl).le.trans (Nat.zero_le 1)
  · intro owner
    exact absurd (zero _ rfl) (Nat.ne_of_gt owner)
  · intro positive
    cases positive
  · intro t op acceptor here
    cases places t _ here
  · rintro t free ⟨⟩
  · exact (zero _ rfl).symm

theorem run_gated (count : Nat) (moves : List Move)
    (alone : Throughout step OpensAlone (fresh count) moves) :
    Gated (run (fresh count) moves).gate :=
  alone.invariant (fun s => Gated s.gate) (fun _ move gated alone => step_gated gated move alone)
    (fresh_gated count)

end EngineCore

end Tunio
