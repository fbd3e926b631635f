import Tunio.Blocked

/-!
The continuous accepts: how many accepts of a listener are under way, and what becomes of the
connections its desk hands out.
-/

namespace Tunio

open Crews Courses Desks

/-- On the way to an accept of the listener. -/
def HostThread.carries (transport : Traffic) : HostThread → Bool
  | .arming other => decide (other = transport)
  | .posting other => decide (other = transport)
  | _ => false

def CoreTask.carries (transport : Traffic) : CoreTask → Bool
  | .arm other => decide (other = transport)
  | .completed other holder _ => decide (other = transport ∧ holder = .listener)
  | .deliver other holder _ => decide (other = transport ∧ holder = .listener)
  | _ => false

def AcceptPhase.carries (transport : Traffic) : AcceptPhase → Bool
  | .accepting other => decide (other = transport)
  | .arming other => decide (other = transport)
  | .posting other => decide (other = transport)
  | _ => false

namespace EngineCore

/-- What the executor is doing for the listener's accept. -/
def inPhase (s : EngineCore) (transport : Traffic) : Bool :=
  match s.running with
  | some phase => phase.carries transport
  | none => false

/-- In how many places an accept of the listener is: asked for, pending, or completed. -/
def carriers (s : EngineCore) (transport : Traffic) : Nat :=
  s.threads.countP (HostThread.carries transport) + s.tasks.countP (CoreTask.carries transport) +
    (s.inPhase transport).toNat + (s.desk transport).waiting.count .listener

section

variable (s : EngineCore) (transport other : Traffic)

theorem served_carries (entry : Holder × Option FlowId) :
    (served other entry).carries transport = decide (other = transport ∧ entry.1 = .listener) := by
  obtain ⟨holder, _ | id⟩ := entry <;> rfl

theorem post_carriers (task : CoreTask) :
    (s.post task).carriers transport = s.carriers transport + (task.carries transport).toNat := by
  unfold carriers post inPhase
  rw [List.countP_append]
  cases carries : task.carries transport
  · simp [carries]
  · simp [carries]
    omega

theorem attend_carriers (desk : Desk Holder FlowId)
    (grows : (s.desk other).served <+: desk.served) (more : Nat)
    (rolled : desk.roll .listener = (s.desk other).roll .listener + more) :
    (s.attend other desk).carriers transport =
      s.carriers transport + if other = transport then more else 0 := by
  obtain ⟨new, grown⟩ := grows
  have told : ((desk.served.drop (s.desk other).served.length).map (served other)).countP
      (CoreTask.carries transport) =
        if other = transport then (new.map Prod.fst).count .listener else 0 := by
    rw [← grown, List.drop_left, List.countP_map]
    split
    · rename_i here
      rw [List.count, List.countP_map]
      refine List.countP_congr fun entry _ => ?_
      simp [served_carries, here]
    · rename_i elsewhere
      refine List.countP_eq_zero.mpr fun entry _ => ?_
      simp [served_carries, elsewhere]
  unfold Desk.roll at rolled
  rw [← grown, List.map_append, List.count_append] at rolled
  unfold carriers attend inPhase
  dsimp only
  rw [List.countP_append, told]
  by_cases here : other = transport
  · subst other
    rw [Function.update_self, if_pos rfl, if_pos rfl]
    omega
  · rw [Function.update_of_ne (Ne.symm here), if_neg here, if_neg here]
    omega

theorem register_carriers (holder : Holder) :
    (s.attend other ((s.desk other).register holder)).carriers transport =
      s.carriers transport + (decide (other = transport ∧ holder = .listener)).toNat := by
  rw [s.attend_carriers transport other _ ((s.desk other).register_served holder)
    ([holder].count .listener) ((s.desk other).register_roll holder .listener)]
  by_cases here : other = transport <;> by_cases listens : holder = .listener <;>
    simp [here, listens]

theorem asyncAccept_carriers (holder : Holder) :
    (s.asyncAccept other holder).carriers transport =
      s.carriers transport + (decide (other = transport ∧ holder = .listener)).toNat := by
  unfold asyncAccept
  split
  · exact s.register_carriers transport other holder
  · exact s.post_carriers transport _

theorem closeDesk_carriers : (s.closeDesk other).carriers transport = s.carriers transport := by
  have moved := s.attend_carriers transport other ((s.desk other).withdraw []).cancel
    (Desk.cancel_served _) 0 (Desk.cancel_roll _ _)
  rw [ite_self] at moved
  exact moved

theorem engineClose_carriers : s.engineClose.carriers transport = s.carriers transport := by
  unfold engineClose
  split
  · rw [closeDesk_carriers, closeDesk_carriers]
    unfold carriers inPhase
    dsimp only
    have aborts : (s.transfers.map fun t => CoreTask.finish t .operationAborted).countP
        (CoreTask.carries transport) = 0 := by
      refine List.countP_eq_zero.mpr fun task member => ?_
      obtain ⟨u, _, rfl⟩ := List.mem_map.mp member
      simp [CoreTask.carries]
    rw [List.countP_append, aborts, Nat.add_zero]
  · rfl

theorem asyncAccept_accepting (holder : Holder) :
    (s.asyncAccept other holder).accepting = s.accepting := by
  unfold asyncAccept
  split <;> rfl

theorem engineClose_accepting : s.engineClose.accepting = s.accepting := by
  unfold engineClose
  split <;> rfl

end

/-- `arm_tcp_accept` looks at `closed` when the engine is closed: it returns, and `tcp_accepting`
stays set. -/
def forgets (s : EngineCore) (transport : Traffic) : Move → Bool
  | .advance t _ =>
      match s.threads[t]? with
      | some (.arming other) => decide (other = transport) && s.closed
      | _ => false
  | .strand _ =>
      match s.running with
      | some (.arming other) => decide (other = transport) && s.closed
      | _ => false
  | _ => false

/-- What a move has to add up to. -/
def Adds (transport : Traffic) (s s' : EngineCore) (forgets : Bool) : Prop :=
  s'.carriers transport + (s.accepting transport).toNat + forgets.toNat =
    s.carriers transport + (s'.accepting transport).toNat

variable {s s' : EngineCore} {t : ThreadId} {transport : Traffic}

theorem Adds.still (carriers : s'.carriers transport = s.carriers transport)
    (accepting : s'.accepting transport = s.accepting transport) : Adds transport s s' false := by
  unfold Adds
  rw [carriers, accepting]
  rfl

/-- A thread moves, and `more` tasks carry. -/
theorem Adds.put (s' : EngineCore) {old new : HostThread} (here : s.threads[t]? = some old) (more : Nat)
    (threads : s'.threads = s.threads)
    (tasks : s'.tasks.countP (CoreTask.carries transport) =
      s.tasks.countP (CoreTask.carries transport) + more)
    (running : s'.running = s.running) (desk : s'.desk = s.desk) {forgets : Bool}
    (adds : (new.carries transport).toNat + more + (s.accepting transport).toNat + forgets.toNat =
      (old.carries transport).toNat + (s'.accepting transport).toNat) :
    Adds transport s (s'.put t new) forgets := by
  have moved := countP_move here new (HostThread.carries transport)
  unfold Adds carriers inPhase
  dsimp only [EngineCore.put]
  rw [tasks, running, desk, threads]
  omega

/-- A thread moves on its own. -/
theorem Adds.goes {old new : HostThread} (here : s.threads[t]? = some old)
    (threads : s'.threads = s.threads) (tasks : s'.tasks = s.tasks) (running : s'.running = s.running)
    (desk : s'.desk = s.desk) (accepting : s'.accepting = s.accepting)
    (carries : new.carries transport = old.carries transport) :
    Adds transport s (s'.put t new) false := by
  refine Adds.put s' here 0 threads ?_ running desk ?_
  · rw [tasks]
    rfl
  · rw [carries, accepting]
    rfl

theorem enter_adds {last : ApiCode} (here : s.threads[t]? = some (.outside last)) (call : HostCall) :
    Adds transport s (s.enter t call) false := by
  cases call <;> unfold enter <;> dsimp only <;> (try split) <;>
    exact Adds.goes here rfl rfl rfl rfl rfl rfl

theorem left_carries (free : Bool) : (left free).carries transport = false := by
  cases free <;> rfl

theorem post_count (s : EngineCore) (task : CoreTask) :
    (s.post task).tasks.countP (CoreTask.carries transport) =
      s.tasks.countP (CoreTask.carries transport) + (task.carries transport).toNat := by
  unfold post
  rw [List.countP_append]
  cases carries : task.carries transport <;> simp [carries]

theorem advance_adds {thread : HostThread} (here : s.threads[t]? = some thread) (choice : Bool) :
    Adds transport s (s.advance t choice thread) (s.forgets transport (.advance t choice)) := by
  have quiet : (∀ other, thread ≠ .arming other) →
      s.forgets transport (.advance t choice) = false := by
    intro elsewhere
    unfold forgets
    dsimp only
    rw [here]
    cases thread <;> first | rfl | exact absurd rfl (elsewhere _)
  cases thread with
  | outside last =>
      rw [quiet (by rintro _ ⟨⟩)]
      exact Adds.still rfl rfl
  | entered transport =>
      rw [quiet (by rintro _ ⟨⟩)]
      unfold advance
      dsimp only
      split <;> exact Adds.goes here rfl rfl rfl rfl rfl rfl
  | checked op =>
      rw [quiet (by rintro _ ⟨⟩)]
      unfold advance letIn
      dsimp only
      split <;> exact Adds.goes here rfl rfl rfl rfl rfl rfl
  | admitted op acceptor =>
      rw [quiet (by rintro _ ⟨⟩)]
      unfold advance
      dsimp only
      split
      · exact Adds.put (s.post (.body t op s.epoch)) here 0 rfl (post_count s _) rfl rfl rfl
      · exact Adds.goes here rfl rfl rfl rfl rfl rfl
  | departing initiated =>
      rw [quiet (by rintro _ ⟨⟩)]
      cases initiated <;> exact Adds.goes here rfl rfl rfl rfl rfl rfl
  | waiting =>
      rw [quiet (by rintro _ ⟨⟩)]
      unfold advance
      dsimp only
      split
      · exact Adds.still rfl rfl
      · exact Adds.goes here rfl rfl rfl rfl rfl rfl
  | registering other cb =>
      rw [quiet (by rintro _ ⟨⟩)]
      unfold advance enrol
      dsimp only
      split
      · rename_i arms
        let armed : EngineCore := { s with
          cb := Function.update s.cb other cb
          accepting := Function.update s.accepting other true }
        refine Adds.put armed here 0 rfl rfl rfl rfl ?_
        by_cases same : other = transport
        · subst other
          have idle : s.accepting transport = false := Bool.eq_false_iff.mpr arms.2
          have set : armed.accepting transport = true := Function.update_self _ _ _
          simp [HostThread.carries, idle, set]
        · have kept : armed.accepting transport = s.accepting transport :=
            Function.update_of_ne (Ne.symm same) _ _
          simp [HostThread.carries, same, kept]
      · split <;> exact Adds.goes here rfl rfl rfl rfl rfl rfl
  | arming other =>
      have forgets : s.forgets transport (.advance t choice) =
          (decide (other = transport) && s.closed) := by
        unfold EngineCore.forgets
        dsimp only
        rw [here]
      rw [forgets]
      unfold advance
      dsimp only
      split
      · rename_i closed
        refine Adds.put s here 0 rfl rfl rfl rfl ?_
        rw [closed, Bool.and_true]
        simp [HostThread.carries]
        omega
      · rename_i opened
        rw [Bool.eq_false_iff.mpr opened, Bool.and_false]
        exact Adds.goes here rfl rfl rfl rfl rfl rfl
  | posting other =>
      rw [quiet (by rintro _ ⟨⟩)]
      refine Adds.put (s.post (.arm other)) here _ rfl (post_count s _) rfl rfl ?_
      simp [HostThread.carries, CoreTask.carries, post]
  | cancelling other =>
      rw [quiet (by rintro _ ⟨⟩)]
      exact Adds.put (s.post (.cancel other)) here 0 rfl (post_count s _) rfl rfl rfl
  | releasing =>
      rw [quiet (by rintro _ ⟨⟩)]
      unfold advance
      dsimp only
      split <;> exact Adds.goes here rfl rfl rfl rfl rfl rfl
  | draining free =>
      rw [quiet (by rintro _ ⟨⟩)]
      unfold advance
      dsimp only
      split
      · exact Adds.goes here rfl rfl rfl rfl rfl rfl
      · exact Adds.still rfl rfl
  | stopping free =>
      rw [quiet (by rintro _ ⟨⟩)]
      unfold advance
      dsimp only
      split
      · split
        · have closing := congrArg (fun threads : List HostThread => threads[t]?)
            (engineClose_threads s)
          have moved : Adds transport s.engineClose (s.engineClose.put t (left free)) false :=
            Adds.goes (closing.trans here) rfl rfl rfl rfl rfl (left_carries free)
          unfold Adds at moved ⊢
          rw [engineClose_carriers, engineClose_accepting] at moved
          exact moved
        · exact Adds.put (s.post (.close t free)) here 0 rfl (post_count s _) rfl rfl rfl
      · exact Adds.goes here rfl rfl rfl rfl rfl (left_carries free)
  | closing free =>
      rw [quiet (by rintro _ ⟨⟩)]
      exact Adds.still rfl rfl
  | joining =>
      rw [quiet (by rintro _ ⟨⟩)]
      unfold advance
      dsimp only
      split
      · exact Adds.goes here rfl rfl rfl rfl rfl rfl
      · exact Adds.still rfl rfl
  | opening =>
      rw [quiet (by rintro _ ⟨⟩)]
      unfold advance
      dsimp only
      split <;> exact Adds.goes here rfl rfl rfl rfl rfl rfl
  | built =>
      rw [quiet (by rintro _ ⟨⟩)]
      exact Adds.goes here rfl rfl rfl rfl rfl rfl
  | replaced =>
      rw [quiet (by rintro _ ⟨⟩)]
      exact Adds.goes here rfl rfl rfl rfl rfl rfl

/-- The executor is done with one thing it did for the listener, or goes on with another one. -/
theorem Adds.turns {phase : AcceptPhase} (running : s.running = some phase)
    (threads : s'.threads = s.threads) (tasks : s'.tasks = s.tasks) (desk : s'.desk = s.desk)
    {forgets : Bool}
    (adds : (s'.inPhase transport).toNat + (s.accepting transport).toNat + forgets.toNat =
      (phase.carries transport).toNat + (s'.accepting transport).toNat) :
    Adds transport s s' forgets := by
  have before : s.inPhase transport = phase.carries transport := by
    unfold inPhase
    rw [running]
  unfold Adds carriers
  rw [threads, tasks, desk, before]
  omega

theorem proceed_adds {phase : AcceptPhase} (running : s.running = some phase)
    (outcome : Option ErrorCode) :
    Adds transport s (s.proceed phase) (s.forgets transport (.strand outcome)) := by
  have quiet : (∀ other, phase ≠ .arming other) → s.forgets transport (.strand outcome) = false := by
    intro elsewhere
    unfold forgets
    dsimp only
    rw [running]
    cases phase <;> first | rfl | exact absurd rfl (elsewhere _)
  have rest : ({ s with running := none } : EngineCore).carriers transport +
      (phase.carries transport).toNat = s.carriers transport := by
    unfold carriers inPhase
    rw [running]
    simp
    omega
  cases phase with
  | accepting other =>
      rw [quiet (by rintro _ ⟨⟩)]
      have moved := asyncAccept_carriers ({ s with running := none } : EngineCore) transport other
        .listener
      have accepting := congrFun (asyncAccept_accepting ({ s with running := none } : EngineCore)
        other .listener) transport
      refine Adds.still (moved.trans ?_) accepting
      rw [← rest]
      simp [AcceptPhase.carries]
  | deciding other id =>
      rw [quiet (by rintro _ ⟨⟩)]
      unfold proceed
      dsimp only
      split
      · split <;> exact Adds.turns running (by rfl) (by rfl) (by rfl) (by rfl)
      · exact Adds.turns running (by rfl) (by rfl) (by rfl) (by rfl)
  | calling other id cb =>
      rw [quiet (by rintro _ ⟨⟩)]
      exact Adds.turns running (by rfl) (by rfl) (by rfl) (by rfl)
  | rearming other =>
      rw [quiet (by rintro _ ⟨⟩)]
      unfold proceed
      dsimp only
      split
      · rename_i idle
        refine Adds.turns running ?_ ?_ ?_ ?_ <;> try rfl
        have unset : s.accepting other = false := Bool.eq_false_iff.mpr idle.1
        by_cases same : other = transport
        · subst other
          simp [inPhase, AcceptPhase.carries, unset]
        · simp [inPhase, AcceptPhase.carries, same, Function.update_of_ne (Ne.symm same)]
      · exact Adds.turns running (by rfl) (by rfl) (by rfl) (by rfl)
  | arming other =>
      have forgets : s.forgets transport (.strand outcome) =
          (decide (other = transport) && s.closed) := by
        unfold EngineCore.forgets
        dsimp only
        rw [running]
      rw [forgets]
      unfold proceed
      dsimp only
      split
      · rename_i closed
        refine Adds.turns running ?_ ?_ ?_ ?_ <;> try rfl
        rw [closed, Bool.and_true]
        simp [inPhase, AcceptPhase.carries]
        omega
      · rename_i opened
        rw [Bool.eq_false_iff.mpr opened, Bool.and_false]
        exact Adds.turns running (by rfl) (by rfl) (by rfl) (by rfl)
  | posting other =>
      rw [quiet (by rintro _ ⟨⟩)]
      have moved := post_carriers ({ s with running := none } : EngineCore) transport (.arm other)
      exact Adds.still (moved.trans rest) rfl

/-- The executor takes up the first task. -/
theorem perform_adds (single : s.carriers transport ≤ (s.accepting transport).toNat)
    (booked : ∀ t, Booked s t) (running : s.running = none) {task : CoreTask} {rest : List CoreTask}
    (queue : s.tasks = task :: rest) (outcome : Option ErrorCode) :
    Adds transport s (({ s with tasks := rest } : EngineCore).perform outcome task) false := by
  have before : ({ s with tasks := rest } : EngineCore).carriers transport +
      (task.carries transport).toNat = s.carriers transport := by
    unfold carriers inPhase
    rw [queue, List.countP_cons]
    cases task.carries transport
    · simp
    · simp
      omega
  have posted (next : CoreTask) (carries : next.carries transport = task.carries transport) :
      Adds transport s (({ s with tasks := rest } : EngineCore).post next) false := by
    refine Adds.still ?_ rfl
    rw [post_carriers, carries, before]
  have plain (s' : EngineCore) (idle : task.carries transport = false)
      (carriers : s'.carriers transport = ({ s with tasks := rest } : EngineCore).carriers transport)
      (accepting : s'.accepting transport = s.accepting transport) : Adds transport s s' false := by
    refine Adds.still ?_ accepting
    rw [carriers, ← before, idle]
    rfl
  -- the listener's accept is over: that one accept was under way
  have spent (s' : EngineCore) (other : Traffic) (carries : task.carries transport = decide (other = transport))
      (carriers : s'.carriers transport = ({ s with tasks := rest } : EngineCore).carriers transport)
      (accepting : s'.accepting = Function.update s.accepting other false) :
      Adds transport s s' false := by
    unfold Adds
    rw [carriers, accepting]
    by_cases same : other = transport
    · subst other
      rw [Function.update_self]
      rw [decide_eq_true rfl] at carries
      rw [carries] at before
      have bound := Bool.toNat_le (s.accepting transport)
      simp at before ⊢
      omega
    · rw [Function.update_of_ne (Ne.symm same)]
      rw [decide_eq_false same] at carries
      rw [carries] at before
      simp at before ⊢
      omega
  cases task with
  | body u op epoch =>
      cases op with
      | accept other acceptor =>
          unfold perform
          dsimp only
          split
          · refine plain _ rfl ?_ (congrFun (asyncAccept_accepting _ _ _) transport)
            rw [asyncAccept_carriers]
            simp
          · exact posted _ (by simp [CoreTask.carries])
      | transfer =>
          unfold perform startTransfer
          dsimp only
          split
          · exact posted _ rfl
          · split
            · exact plain _ rfl rfl rfl
            · exact posted _ rfl
  | completed other holder result => exact posted _ rfl
  | deliver other holder result =>
      cases holder with
      | listener =>
          have carries : (CoreTask.deliver other .listener result).carries transport =
              decide (other = transport) := by simp [CoreTask.carries]
          cases result with
          | failure ec => exact spent _ other carries rfl rfl
          | connection id =>
              refine spent _ other carries ?_ rfl
              show _ + _ + _ + _ = _ + _ + _ + _
              unfold inPhase
              rw [running]
              rfl
      | caller u => exact plain _ (by simp [CoreTask.carries]) rfl rfl
  | finish u ec => exact plain _ rfl rfl rfl
  | arm other =>
      unfold perform
      dsimp only
      split
      · exact spent _ other rfl rfl rfl
      · refine Adds.still ?_ rfl
        rw [← before]
        unfold carriers inPhase
        dsimp only
        rw [running]
        simp [AcceptPhase.carries, CoreTask.carries]
        omega
  | cancel other =>
      unfold perform
      dsimp only
      split
      · refine plain _ rfl ?_ rfl
        have moved := ({ s with tasks := rest } : EngineCore).attend_carriers transport other _
          (Desk.cancel_served (s.desk other)) 0 (Desk.cancel_roll _ _)
        rw [ite_self] at moved
        exact moved
      · exact plain _ rfl rfl rfl
  | close u free =>
      obtain ⟨waits, here⟩ := (booked u).closer (by rw [queue]; exact List.mem_cons_self)
      have threads := congrArg (fun threads : List HostThread => threads[u]?)
        (engineClose_threads { s with tasks := rest })
      have moved : Adds transport ({ s with tasks := rest } : EngineCore).engineClose
          (({ s with tasks := rest } : EngineCore).engineClose.put u (left free)) false :=
        Adds.goes (threads.trans here) rfl rfl rfl rfl rfl (left_carries free)
      have accepting := congrFun (engineClose_accepting { s with tasks := rest }) transport
      refine plain _ rfl ?_ accepting
      unfold Adds at moved
      rw [engineClose_carriers] at moved
      exact Nat.add_right_cancel moved

theorem step_adds (single : s.carriers transport ≤ (s.accepting transport).toNat)
    (booked : ∀ t, Booked s t) (move : Move) :
    Adds transport s (s.step move) (s.forgets transport move) := by
  cases move with
  | call t call =>
      unfold step
      dsimp only
      split
      · rename_i last here
        exact enter_adds here call
      · exact Adds.still rfl rfl
  | advance t choice =>
      unfold step
      dsimp only
      split
      · rename_i thread here
        exact advance_adds here choice
      · rename_i none
        have forgets : s.forgets transport (.advance t choice) = false := by
          unfold EngineCore.forgets
          dsimp only
          rw [none]
        rw [forgets]
        exact Adds.still rfl rfl
  | strand outcome =>
      show Adds transport s (s.strand outcome) _
      unfold strand
      split
      · rename_i phase running
        exact proceed_adds running outcome
      · rename_i running
        have forgets : s.forgets transport (.strand outcome) = false := by
          unfold EngineCore.forgets
          dsimp only
          rw [running]
        rw [forgets]
        split
        · exact Adds.still rfl rfl
        · rename_i task rest queue
          exact perform_adds single booked running queue outcome
  | arrives other =>
      show Adds transport s (if s.idle then s.arrives other else s) false
      split
      · have moved := (s.number other).attend_carriers transport other _
          (Desk.arrive_served (s.desk other) (s.created other)) 0 (Desk.arrive_roll _ _ _)
        rw [ite_self] at moved
        exact Adds.still moved rfl
      · exact Adds.still rfl rfl
  | withdraw other id =>
      show Adds transport s (if s.idle then s.withdraw other id else s) false
      split
      · have moved := s.attend_carriers transport other
          ((s.desk other).withdraw ((s.desk other).items.erase id)) List.prefix_rfl 0 rfl
        rw [ite_self] at moved
        exact Adds.still moved rfl
      · exact Adds.still rfl rfl
  | completes t ec =>
      show Adds transport s (if s.idle then s.completes t ec else s) false
      unfold completes
      split
      · split
        · exact Adds.still (post_carriers _ transport (.finish t ec)) rfl
        · exact Adds.still rfl rfl
      · exact Adds.still rfl rfl
  | deviceFails =>
      show Adds transport s (if s.idle then s.engineClose else s) false
      split
      · exact Adds.still (s.engineClose_carriers transport) (congrFun (engineClose_accepting s) transport)
      · exact Adds.still rfl rfl

theorem step_single (single : s.carriers transport ≤ (s.accepting transport).toNat)
    (booked : ∀ t, Booked s t) (move : Move) :
    (s.step move).carriers transport ≤ ((s.step move).accepting transport).toNat := by
  have adds := step_adds single booked move
  unfold Adds at adds
  omega

theorem fresh_carriers (count : Nat) (transport : Traffic) :
    (fresh count).carriers transport = 0 := by
  have none : (List.replicate count (HostThread.outside .ok)).countP
      (HostThread.carries transport) = 0 := by
    rw [List.countP_replicate]
    rfl
  unfold carriers
  exact congrArg (· + 0 + 0 + 0) none

theorem run_single (count : Nat) (moves : List Move) (transport : Traffic) :
    (run (fresh count) moves).carriers transport ≤
      ((run (fresh count) moves).accepting transport).toNat := by
  have walk (s : EngineCore) (single : s.carriers transport ≤ (s.accepting transport).toNat)
      (booked : ∀ t, Booked s t) :
      (run s moves).carriers transport ≤ ((run s moves).accepting transport).toNat := by
    induction moves generalizing s with
    | nil => exact single
    | cons move rest ih =>
        exact ih (s.step move) (step_single single booked move) fun t => step_booked (booked t) move
  exact walk _ (Nat.le_of_eq (fresh_carriers count transport)) (fresh_booked count)

/-- Nothing that was asked for is forgotten: no `arm_tcp_accept` comes upon a closed engine. -/
def Remembers (transport : Traffic) (s : EngineCore) (move : Move) : Prop :=
  s.forgets transport move = false

instance (transport : Traffic) (s : EngineCore) (move : Move) :
    Decidable (Remembers transport s move) := inferInstanceAs (Decidable (_ = _))

theorem run_exact (count : Nat) (moves : List Move) (transport : Traffic)
    (remembers : Throughout step (Remembers transport) (fresh count) moves) :
    (run (fresh count) moves).carriers transport =
      ((run (fresh count) moves).accepting transport).toNat := by
  have walk := remembers.invariant
    (fun s => (∀ t, Booked s t) ∧ s.carriers transport = (s.accepting transport).toNat) ?_
    ⟨fresh_booked count, fresh_carriers count transport⟩
  · exact walk.2
  · rintro s move ⟨booked, same⟩ remembers
    refine ⟨fun t => step_booked (booked t) move, ?_⟩
    have adds := step_adds (Nat.le_of_eq same) booked move
    unfold Remembers at remembers
    unfold Adds at adds
    rw [remembers, Bool.toNat_false] at adds
    omega

/-- At most one accept of a listener is asked for, pending or being answered, and none unless
`tcp_accepting` is set.  Where no arming came upon a closed engine, the flag means just that. -/
theorem one_accept (count : Nat) (moves : List Move) (transport : Traffic) :
    (run (fresh count) moves).carriers transport ≤
        ((run (fresh count) moves).accepting transport).toNat ∧
      (Throughout step (Remembers transport) (fresh count) moves →
        (run (fresh count) moves).carriers transport =
          ((run (fresh count) moves).accepting transport).toNat) :=
  ⟨run_single count moves transport, run_exact count moves transport⟩

end EngineCore

end Tunio
