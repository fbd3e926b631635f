import Tunio.Listener

/-!
What becomes of the connections of a handle: the executor passes them on, in two hops, to the
callback or to the blocked accept their desk served.
-/

namespace Tunio

open Courses Desks

def Holder.isListener : Holder → Bool
  | .listener => true
  | .caller _ => false

def Holder.isCaller : Holder → Bool
  | .listener => false
  | .caller _ => true

/-- The connection of a completion the engine has posted. -/
def CoreTask.announces (transport : Traffic) (keeps : Holder → Bool) : CoreTask → Option FlowId
  | .completed other holder (.connection id) =>
      if other = transport ∧ keeps holder then some id else none
  | _ => none

/-- The connection of a handler that waits to run. -/
def CoreTask.brings (transport : Traffic) (keeps : Holder → Bool) : CoreTask → Option FlowId
  | .deliver other holder (.connection id) =>
      if other = transport ∧ keeps holder then some id else none
  | _ => none

namespace EngineCore

/-- What a desk has handed to the holders of a kind. -/
def routed (keeps : Holder → Bool) (desk : Desk Holder FlowId) : List FlowId :=
  desk.served.filterMap fun entry => if keeps entry.1 then entry.2 else none

/-- The connections that are being passed on. -/
def onTheWay (s : EngineCore) (transport : Traffic) (keeps : Holder → Bool) : List FlowId :=
  s.tasks.filterMap (CoreTask.brings transport keeps) ++
    s.tasks.filterMap (CoreTask.announces transport keeps)

/-- The connection the handler of the continuous accept has in hand. -/
def inHand (s : EngineCore) (transport : Traffic) : List FlowId :=
  match s.running with
  | some (.deciding other id) => if other = transport then [id] else []
  | _ => []

structure Relayed (s : EngineCore) (transport : Traffic) : Prop where
  listener : (s.handled transport).map Prod.fst ++ s.inHand transport ++
    s.onTheWay transport Holder.isListener = routed Holder.isListener (s.desk transport)
  callers : s.granted transport ++ s.onTheWay transport Holder.isCaller =
    routed Holder.isCaller (s.desk transport)
  fair : ∃ registered, (s.desk transport).Fair (· < ·) registered
  numbered : ∀ id ∈ (s.desk transport).handed ++ (s.desk transport).items, id < s.created transport

/-! What is on the way. -/

section

variable (s : EngineCore) (transport other : Traffic) (keeps : Holder → Bool)

theorem post_way (task : CoreTask) (brings : task.brings transport keeps = none)
    (announces : task.announces transport keeps = none) :
    (s.post task).onTheWay transport keeps = s.onTheWay transport keeps := by
  simp [onTheWay, post, brings, announces]

/-- What the desk hands out sets out. -/
theorem attend_way (desk : Desk Holder FlowId) {new : List (Holder × Option FlowId)}
    (grown : desk.served = (s.desk other).served ++ new) :
    (s.attend other desk).onTheWay transport keeps = s.onTheWay transport keeps ++
      if other = transport then
        new.filterMap fun entry => if keeps entry.1 then entry.2 else none
      else [] := by
  have brought : (new.map (served other)).filterMap (CoreTask.brings transport keeps) = [] := by
    rw [List.filterMap_map, List.filterMap_eq_nil_iff]
    rintro ⟨holder, _ | id⟩ _ <;> rfl
  have announced : (new.map (served other)).filterMap (CoreTask.announces transport keeps) =
      if other = transport then
        new.filterMap fun entry => if keeps entry.1 then entry.2 else none
      else [] := by
    rw [List.filterMap_map]
    split
    · rename_i here
      refine List.filterMap_congr ?_
      rintro ⟨holder, _ | id⟩ _
      · simp [served, CoreTask.announces]
      · simp [served, CoreTask.announces, here]
    · rename_i elsewhere
      rw [List.filterMap_eq_nil_iff]
      rintro ⟨holder, _ | id⟩ _
      · rfl
      · simp [served, CoreTask.announces, elsewhere]
  unfold onTheWay attend
  rw [grown, List.drop_left]
  dsimp only
  rw [List.filterMap_append, List.filterMap_append, brought, announced, List.append_nil,
    List.append_assoc]

theorem routed_grown {desk desk' : Desk Holder FlowId} {new : List (Holder × Option FlowId)}
    (grown : desk'.served = desk.served ++ new) :
    routed keeps desk' = routed keeps desk ++
      new.filterMap fun entry => if keeps entry.1 then entry.2 else none := by
  unfold routed
  rw [grown, List.filterMap_append]

end

namespace Relayed

variable {s s' : EngineCore} {transport : Traffic}

theorem still (relayed : Relayed s transport) (handled : s'.handled = s.handled)
    (granted : s'.granted = s.granted) (inHand : s'.inHand transport = s.inHand transport)
    (way : ∀ keeps, s'.onTheWay transport keeps = s.onTheWay transport keeps)
    (desk : s'.desk = s.desk) (created : s'.created = s.created) : Relayed s' transport := by
  refine ⟨?_, ?_, ?_, ?_⟩
  · rw [handled, inHand, way, desk]
    exact relayed.listener
  · rw [granted, way, desk]
    exact relayed.callers
  · rw [desk]
    exact relayed.fair
  · rw [desk, created]
    exact relayed.numbered

/-- The desk of some transport goes on. -/
theorem attend (relayed : Relayed s transport) (other : Traffic) (desk : Desk Holder FlowId)
    (grows : (s.desk other).served <+: desk.served)
    (fair : ∀ registered, (s.desk other).Fair (· < ·) registered →
      ∃ registered, desk.Fair (· < ·) registered)
    (members : ∀ id ∈ desk.handed ++ desk.items, id ∈ (s.desk other).handed ++ (s.desk other).items) :
    Relayed (s.attend other desk) transport := by
  obtain ⟨new, grown⟩ := grows
  have way := fun keeps => s.attend_way transport other keeps desk grown.symm
  by_cases here : other = transport
  · subst other
    have same : (s.attend transport desk).desk transport = desk := Function.update_self _ _ _
    refine ⟨?_, ?_, ?_, ?_⟩
    · rw [same, way, if_pos rfl, routed_grown _ grown.symm, ← relayed.listener]
      simp only [List.append_assoc]
      rfl
    · rw [same, way, if_pos rfl, routed_grown _ grown.symm, ← relayed.callers, ← List.append_assoc]
      rfl
    · obtain ⟨registered, before⟩ := relayed.fair
      rw [same]
      exact fair registered before
    · rw [same]
      exact fun id member => relayed.numbered id (members id member)
  · have same : (s.attend other desk).desk transport = s.desk transport :=
      Function.update_of_ne (Ne.symm here) _ _
    refine ⟨?_, ?_, ?_, ?_⟩
    · rw [same, way, if_neg here, List.append_nil]
      exact relayed.listener
    · rw [same, way, if_neg here, List.append_nil]
      exact relayed.callers
    · rw [same]
      exact relayed.fair
    · rw [same]
      exact relayed.numbered

theorem post (relayed : Relayed s transport) (task : CoreTask)
    (brings : ∀ keeps, task.brings transport keeps = none)
    (announces : ∀ keeps, task.announces transport keeps = none) :
    Relayed (s.post task) transport :=
  relayed.still rfl rfl rfl (fun keeps => s.post_way transport keeps task (brings keeps) (announces keeps))
    rfl rfl

theorem register (relayed : Relayed s transport) (other : Traffic) (holder : Holder) :
    Relayed (s.attend other ((s.desk other).register holder)) transport := by
  refine relayed.attend other _ (Desk.register_served _ _) ?_ ?_
  · intro registered fair
    exact ⟨_, fair.register holder⟩
  · intro id member
    unfold Desk.register at member
    split at member
    · exact member
    · rename_i item rest items
      rw [items]
      simpa [Desk.handed] using member

theorem asyncAccept (relayed : Relayed s transport) (other : Traffic) (holder : Holder) :
    Relayed (s.asyncAccept other holder) transport := by
  unfold EngineCore.asyncAccept
  split
  · exact relayed.register other holder
  · exact relayed.post _ (fun _ => rfl) (fun _ => rfl)

theorem cancel (relayed : Relayed s transport) (other : Traffic) :
    Relayed (s.attend other (s.desk other).cancel) transport := by
  refine relayed.attend other _ (Desk.cancel_served _) ?_ ?_
  · intro registered fair
    exact ⟨registered, fair.cancel⟩
  · intro id member
    simpa [Desk.cancel, Desk.handed, List.filterMap_append, Function.comp_def] using member

theorem withdraw (relayed : Relayed s transport) (other : Traffic) {items : List FlowId}
    (fewer : items.Sublist (s.desk other).items) :
    Relayed (s.attend other ((s.desk other).withdraw items)) transport := by
  refine relayed.attend other _ List.prefix_rfl ?_ ?_
  · intro registered fair
    exact ⟨registered, fair.withdraw fewer⟩
  · intro id member
    rcases List.mem_append.mp member with handed | waits
    · exact List.mem_append_left _ handed
    · exact List.mem_append_right _ (fewer.subset waits)

theorem closeDesk (relayed : Relayed s transport) (other : Traffic) :
    Relayed (s.closeDesk other) transport := by
  refine relayed.attend other _ (Desk.cancel_served _) ?_ ?_
  · intro registered fair
    exact ⟨registered, (fair.withdraw (List.nil_sublist _)).cancel⟩
  · intro id member
    refine List.mem_append_left _ ?_
    simpa [Desk.cancel, Desk.withdraw, Desk.handed, List.filterMap_append, Function.comp_def] using member

theorem engineClose (relayed : Relayed s transport) : Relayed s.engineClose transport := by
  unfold EngineCore.engineClose
  split
  · let aborted : EngineCore := { s with
      engineOpen := false
      transfers := []
      tasks := s.tasks ++ s.transfers.map fun t => CoreTask.finish t .operationAborted }
    have stopped : Relayed aborted transport := relayed.still rfl rfl rfl (fun keeps => ?_) rfl rfl
    · exact (stopped.closeDesk .tcp).closeDesk .udp
    have brought : (s.transfers.map fun t => CoreTask.finish t .operationAborted).filterMap
        (CoreTask.brings transport keeps) = [] := by
      rw [List.filterMap_map, List.filterMap_eq_nil_iff]
      exact fun t _ => rfl
    have announced : (s.transfers.map fun t => CoreTask.finish t .operationAborted).filterMap
        (CoreTask.announces transport keeps) = [] := by
      rw [List.filterMap_map, List.filterMap_eq_nil_iff]
      exact fun t _ => rfl
    show (s.tasks ++ _).filterMap _ ++ (s.tasks ++ _).filterMap _ = _
    rw [List.filterMap_append, List.filterMap_append, brought, announced, List.append_nil,
      List.append_nil]
    rfl
  · exact relayed

end Relayed

variable {s : EngineCore} {transport : Traffic}

theorem enter_relayed (relayed : Relayed s transport) (t : ThreadId) (call : HostCall) :
    Relayed (s.enter t call) transport := by
  cases call <;> unfold enter <;> dsimp only <;> (try split) <;>
    exact relayed.still rfl rfl rfl (fun _ => rfl) rfl rfl

theorem advance_relayed (relayed : Relayed s transport) (t : ThreadId) (choice : Bool)
    (thread : HostThread) : Relayed (s.advance t choice thread) transport := by
  have put (s' : EngineCore) (next : Relayed s' transport) (new : HostThread) :
      Relayed (s'.put t new) transport := next.still rfl rfl rfl (fun _ => rfl) rfl rfl
  cases thread with
  | admitted op acceptor =>
      unfold advance
      dsimp only
      split
      · exact put _ (relayed.post _ (fun _ => rfl) (fun _ => rfl)) _
      · exact put _ relayed _
  | registering other cb =>
      unfold advance enrol
      dsimp only
      split
      · exact relayed.still rfl rfl rfl (fun _ => rfl) rfl rfl
      · split <;> exact relayed.still rfl rfl rfl (fun _ => rfl) rfl rfl
  | checked op =>
      unfold advance letIn
      dsimp only
      split <;> exact relayed.still rfl rfl rfl (fun _ => rfl) rfl rfl
  | posting other => exact put _ (relayed.post _ (fun _ => rfl) (fun _ => rfl)) _
  | cancelling other => exact put _ (relayed.post _ (fun _ => rfl) (fun _ => rfl)) _
  | stopping free =>
      unfold advance
      dsimp only
      split
      · split
        · exact put _ relayed.engineClose _
        · exact put _ (relayed.post _ (fun _ => rfl) (fun _ => rfl)) _
      · exact put _ relayed _
  | _ =>
      unfold advance
      dsimp only
      first
        | exact relayed.still rfl rfl rfl (fun _ => rfl) rfl rfl
        | (split <;> exact relayed.still rfl rfl rfl (fun _ => rfl) rfl rfl)

/-- The handler of the continuous accept is where no connection is in its hand. -/
theorem inHand_none {s' : EngineCore}
    (elsewhere : ∀ other id, s'.running ≠ some (.deciding other id)) : s'.inHand transport = [] := by
  unfold inHand
  split
  · rename_i other id running
    exact absurd running (elsewhere other id)
  · rfl

theorem proceed_relayed (relayed : Relayed s transport) {phase : AcceptPhase}
    (running : s.running = some phase) : Relayed (s.proceed phase) transport := by
  have hand : s.inHand transport = match (some phase : Option AcceptPhase) with
      | some (.deciding other id) => if other = transport then [id] else []
      | _ => [] := by
    unfold inHand
    rw [running]
  -- a connection that is decided on leaves the hand for the history
  have decided (s' : EngineCore) (other : Traffic) (id : FlowId) (cb : Option Callback)
      (here : phase = .deciding other id)
      (handled : s'.handled = Function.update s.handled other (s.handled other ++ [(id, cb)]))
      (elsewhere : ∀ other id, s'.running ≠ some (.deciding other id)) (tasks : s'.tasks = s.tasks)
      (granted : s'.granted = s.granted) (desk : s'.desk = s.desk)
      (created : s'.created = s.created) : Relayed s' transport := by
    subst phase
    have way (keeps : Holder → Bool) : s'.onTheWay transport keeps = s.onTheWay transport keeps := by
      unfold onTheWay
      rw [tasks]
    refine ⟨?_, ?_, ?_, ?_⟩
    · have before := relayed.listener
      rw [hand] at before
      rw [handled, inHand_none elsewhere, way, desk, ← before]
      by_cases same : other = transport
      · subst other
        rw [Function.update_self]
        simp
      · rw [Function.update_of_ne (Ne.symm same)]
        simp [same]
    · rw [granted, way, desk]
      exact relayed.callers
    · rw [desk]
      exact relayed.fair
    · rw [desk, created]
      exact relayed.numbered
  have turned (s' : EngineCore) (empty : s.inHand transport = [])
      (elsewhere : ∀ other id, s'.running ≠ some (.deciding other id)) (tasks : s'.tasks = s.tasks)
      (handled : s'.handled = s.handled) (granted : s'.granted = s.granted) (desk : s'.desk = s.desk)
      (created : s'.created = s.created) : Relayed s' transport := by
    refine relayed.still handled granted ?_ ?_ desk created
    · rw [inHand_none elsewhere, empty]
    · intro keeps
      unfold onTheWay
      rw [tasks]
  cases phase with
  | accepting other =>
      exact (turned { s with running := none } hand (by rintro _ _ ⟨⟩) rfl rfl rfl rfl rfl).asyncAccept
        other .listener
  | deciding other id =>
      unfold proceed
      dsimp only
      split
      · split
        · exact decided _ other id none rfl rfl (by rintro _ _ ⟨⟩) rfl rfl rfl rfl
        · rename_i cb _ _
          exact decided _ other id (some cb) rfl rfl (by rintro _ _ ⟨⟩) rfl rfl rfl rfl
      · exact decided _ other id none rfl rfl (by rintro _ _ ⟨⟩) rfl rfl rfl rfl
  | calling other id cb =>
      exact turned _ hand (by rintro _ _ ⟨⟩) rfl rfl rfl rfl rfl
  | rearming other =>
      unfold proceed
      dsimp only
      split <;> exact turned _ hand (by rintro _ _ ⟨⟩) rfl rfl rfl rfl rfl
  | arming other =>
      unfold proceed
      dsimp only
      split <;> exact turned _ hand (by rintro _ _ ⟨⟩) rfl rfl rfl rfl rfl
  | posting other =>
      exact (turned { s with running := none } hand (by rintro _ _ ⟨⟩) rfl rfl rfl rfl rfl).post _
        (fun _ => rfl) (fun _ => rfl)

/-! The executor's tasks. -/

section

variable {task : CoreTask} {rest : List CoreTask}

theorem taken_way (keeps : Holder → Bool) (tasks : s.tasks = task :: rest)
    (brings : task.brings transport keeps = none) (announces : task.announces transport keeps = none) :
    ({ s with tasks := rest } : EngineCore).onTheWay transport keeps = s.onTheWay transport keeps := by
  unfold onTheWay
  rw [tasks]
  simp [brings, announces]

/-- A task that carries no connection is taken from the queue. -/
theorem Relayed.taken (relayed : Relayed s transport) (tasks : s.tasks = task :: rest)
    (brings : ∀ keeps, task.brings transport keeps = none)
    (announces : ∀ keeps, task.announces transport keeps = none) :
    Relayed { s with tasks := rest } transport :=
  relayed.still rfl rfl rfl (fun keeps => taken_way keeps tasks (brings keeps) (announces keeps)) rfl rfl

/-- A completion is dispatched: its handler goes to the end of the queue. -/
theorem dispatched_way (keeps : Holder → Bool) {other : Traffic} {holder : Holder}
    {result : AcceptResult} (tasks : s.tasks = .completed other holder result :: rest) :
    (({ s with tasks := rest } : EngineCore).post (.deliver other holder result)).onTheWay transport
      keeps = s.onTheWay transport keeps := by
  unfold onTheWay EngineCore.post
  rw [tasks]
  cases result with
  | failure ec => simp [List.filterMap_cons, CoreTask.brings, CoreTask.announces]
  | connection id =>
      by_cases mine : other = transport ∧ keeps holder = true
      · simp [List.filterMap_cons, CoreTask.brings, CoreTask.announces, mine]
      · simp [List.filterMap_cons, CoreTask.brings, CoreTask.announces, mine]

/-- The handler of a connection begins: it was the first on the way. -/
theorem delivered_way (keeps : Holder → Bool) {other : Traffic} {holder : Holder} {id : FlowId}
    (tasks : s.tasks = .deliver other holder (.connection id) :: rest) :
    s.onTheWay transport keeps = (if other = transport ∧ keeps holder = true then [id] else []) ++
      ({ s with tasks := rest } : EngineCore).onTheWay transport keeps := by
  unfold onTheWay
  rw [tasks]
  by_cases mine : other = transport ∧ keeps holder = true
  · simp [List.filterMap_cons, CoreTask.brings, CoreTask.announces, mine]
  · simp [List.filterMap_cons, CoreTask.brings, CoreTask.announces, mine]

/-- The handler of the continuous accept takes its connection in hand. -/
theorem listened_relayed (relayed : Relayed s transport) (idle : s.running = none) {other : Traffic}
    {id : FlowId} (tasks : s.tasks = .deliver other .listener (.connection id) :: rest) :
    Relayed (({ s with tasks := rest } : EngineCore).listened other (.connection id)) transport := by
  have empty : s.inHand transport = [] := by
    refine inHand_none ?_
    rw [idle]
    rintro _ _ ⟨⟩
  have before := relayed.listener
  rw [empty, delivered_way Holder.isListener tasks] at before
  have callers := relayed.callers
  rw [delivered_way Holder.isCaller tasks] at callers
  refine ⟨?_, ?_, relayed.fair, relayed.numbered⟩
  · show _ = routed Holder.isListener (s.desk transport)
    rw [← before]
    by_cases here : other = transport
    · subst other
      simp [listened, inHand, Holder.isListener, onTheWay]
    · simp [listened, inHand, here, onTheWay]
  · show _ = routed Holder.isCaller (s.desk transport)
    rw [← callers]
    simp [listened, Holder.isCaller, onTheWay]

/-- The handler of a blocked accept keeps its connection for the thread. -/
theorem answered_relayed (relayed : Relayed s transport) {other : Traffic} {t : ThreadId}
    {id : FlowId} (tasks : s.tasks = .deliver other (.caller t) (.connection id) :: rest) :
    Relayed (({ s with tasks := rest } : EngineCore).answered other t (.connection id)) transport := by
  have before := relayed.listener
  rw [delivered_way Holder.isListener tasks] at before
  have callers := relayed.callers
  rw [delivered_way Holder.isCaller tasks] at callers
  refine ⟨?_, ?_, relayed.fair, relayed.numbered⟩
  · show _ = routed Holder.isListener (s.desk transport)
    rw [← before]
    simp [answered, Holder.isListener, inHand, onTheWay]
  · show _ = routed Holder.isCaller (s.desk transport)
    rw [← callers]
    by_cases here : other = transport
    · subst other
      simp [answered, AcceptResult.flow, Holder.isCaller, onTheWay]
    · have same : Function.update s.granted other (s.granted other ++ [id]) transport =
          s.granted transport := Function.update_of_ne (Ne.symm here) _ _
      simp [answered, AcceptResult.flow, here, same, onTheWay]

theorem perform_relayed (relayed : Relayed s transport) (idle : s.running = none)
    (tasks : s.tasks = task :: rest) (outcome : Option ErrorCode) :
    Relayed (({ s with tasks := rest } : EngineCore).perform outcome task) transport := by
  cases task with
  | body t op epoch =>
      have taken := relayed.taken tasks (fun _ => rfl) (fun _ => rfl)
      cases op with
      | accept other acceptor =>
          unfold perform
          dsimp only
          split
          · exact taken.asyncAccept other (.caller t)
          · exact taken.post _ (fun _ => rfl) (fun _ => rfl)
      | transfer =>
          unfold perform startTransfer
          dsimp only
          split
          · exact taken.post _ (fun _ => rfl) (fun _ => rfl)
          · split
            · exact taken.still rfl rfl rfl (fun _ => rfl) rfl rfl
            · exact taken.post _ (fun _ => rfl) (fun _ => rfl)
  | completed other holder result =>
      exact relayed.still rfl rfl rfl (fun keeps => dispatched_way keeps tasks) rfl rfl
  | deliver other holder result =>
      cases result with
      | failure ec =>
          have taken := relayed.taken tasks (fun _ => rfl) (fun _ => rfl)
          cases holder with
          | listener => exact taken.still rfl rfl rfl (fun _ => rfl) rfl rfl
          | caller t =>
              refine taken.still rfl ?_ rfl (fun _ => rfl) rfl rfl
              simp [perform, answered, AcceptResult.flow]
      | connection id =>
          cases holder with
          | listener => exact listened_relayed relayed idle tasks
          | caller t => exact answered_relayed relayed tasks
  | finish t ec =>
      exact (relayed.taken tasks (fun _ => rfl) (fun _ => rfl)).still rfl rfl rfl (fun _ => rfl) rfl rfl
  | arm other =>
      have taken := relayed.taken tasks (fun _ => rfl) (fun _ => rfl)
      unfold perform
      dsimp only
      split
      · exact taken.still rfl rfl rfl (fun _ => rfl) rfl rfl
      · refine taken.still rfl rfl ?_ (fun _ => rfl) rfl rfl
        have before : ({ s with tasks := rest } : EngineCore).inHand transport = [] :=
          inHand_none (by rw [idle]; rintro _ _ ⟨⟩)
        rw [before]
        exact inHand_none (by rintro _ _ ⟨⟩)
  | cancel other =>
      have taken := relayed.taken tasks (fun _ => rfl) (fun _ => rfl)
      unfold perform
      dsimp only
      split
      · exact taken.cancel other
      · exact taken
  | close t free =>
      exact (relayed.taken tasks (fun _ => rfl) (fun _ => rfl)).engineClose.still rfl rfl rfl
        (fun _ => rfl) rfl rfl

end

theorem strand_relayed (relayed : Relayed s transport) (outcome : Option ErrorCode) :
    Relayed (s.strand outcome) transport := by
  unfold strand
  split
  · rename_i phase running
    exact proceed_relayed relayed running
  · rename_i idle
    split
    · exact relayed
    · rename_i task rest tasks
      exact perform_relayed relayed idle tasks outcome

/-- A connection that comes up has a number above all the others. -/
theorem arrives_relayed (relayed : Relayed s transport) (other : Traffic) :
    Relayed (s.arrives other) transport := by
  obtain ⟨new, grown⟩ := Desk.arrive_served (s.desk other) (s.created other)
  have way := fun keeps =>
    (s.number other).attend_way transport other keeps ((s.desk other).arrive (s.created other)) grown.symm
  by_cases here : other = transport
  · subst other
    have same : (s.arrives transport).desk transport = (s.desk transport).arrive (s.created transport) :=
      Function.update_self _ _ _
    refine ⟨?_, ?_, ?_, ?_⟩
    · show _ ++ _ ++ EngineCore.onTheWay (s.arrives transport) _ _ = _
      unfold arrives at *
      rw [same, way, if_pos rfl, routed_grown _ grown.symm, ← relayed.listener]
      simp only [List.append_assoc]
      rfl
    · unfold arrives at *
      rw [same, way, if_pos rfl, routed_grown _ grown.symm, ← relayed.callers, ← List.append_assoc]
      rfl
    · obtain ⟨registered, fair⟩ := relayed.fair
      rw [same]
      exact ⟨registered, fair.arrive _ relayed.numbered⟩
    · rw [same]
      intro id member
      show id < Function.update s.created transport (s.created transport + 1) transport
      rw [Function.update_self]
      have old : id = s.created transport ∨
          id ∈ (s.desk transport).handed ++ (s.desk transport).items := by
        unfold Desk.arrive at member
        split at member
        · simp only [Desk.handed, List.mem_append, List.mem_singleton] at member ⊢
          tauto
        · simp only [Desk.handed, List.filterMap_append, List.mem_append] at member ⊢
          simp only [List.filterMap_cons, List.filterMap_nil, List.mem_singleton] at member
          tauto
      rcases old with rfl | old
      · exact Nat.lt_succ_self _
      · exact Nat.lt_succ_of_lt (relayed.numbered id old)
  · have same : (s.arrives other).desk transport = s.desk transport :=
      Function.update_of_ne (Ne.symm here) _ _
    have created : (s.arrives other).created transport = s.created transport :=
      Function.update_of_ne (Ne.symm here) _ _
    refine ⟨?_, ?_, ?_, ?_⟩
    · unfold arrives at *
      rw [same, way, if_neg here, List.append_nil]
      exact relayed.listener
    · unfold arrives at *
      rw [same, way, if_neg here, List.append_nil]
      exact relayed.callers
    · rw [same]
      exact relayed.fair
    · rw [same, created]
      exact relayed.numbered

theorem step_relayed (relayed : Relayed s transport) (move : Move) :
    Relayed (s.step move) transport := by
  unfold step
  cases move with
  | call t call =>
      dsimp only
      split
      · exact enter_relayed relayed t call
      · exact relayed
  | advance t choice =>
      dsimp only
      split
      · exact advance_relayed relayed t choice _
      · exact relayed
  | strand outcome => exact strand_relayed relayed outcome
  | arrives other =>
      dsimp only
      split
      · exact arrives_relayed relayed other
      · exact relayed
  | withdraw other id =>
      dsimp only
      split
      · exact relayed.withdraw other List.erase_sublist
      · exact relayed
  | completes t ec =>
      dsimp only
      split
      · unfold completes
        split
        · have without : Relayed { s with transfers := s.transfers.erase t } transport :=
            relayed.still rfl rfl rfl (fun _ => rfl) rfl rfl
          exact without.post _ (fun _ => rfl) (fun _ => rfl)
        · exact relayed
      · exact relayed
  | deviceFails =>
      dsimp only
      split
      · exact relayed.engineClose
      · exact relayed

theorem fresh_relayed (count : Nat) (transport : Traffic) : Relayed (fresh count) transport :=
  ⟨rfl, rfl, ⟨[], Desk.Fair.empty⟩, fun _ member => nomatch member⟩

theorem run_relayed (count : Nat) (moves : List Move) (transport : Traffic) :
    Relayed (run (fresh count) moves) transport := by
  have walk (s : EngineCore) (relayed : Relayed s transport) : Relayed (run s moves) transport := by
    induction moves generalizing s with
    | nil => exact relayed
    | cons move rest ih => exact ih (s.step move) (step_relayed relayed move)
  exact walk _ (fresh_relayed count transport)

/-! The order in which the connections get there. -/

section

variable (keeps : Holder → Bool) (desk : Desk Holder FlowId)

theorem routed_filter :
    routed keeps desk = (desk.served.filter fun entry => keeps entry.1).filterMap Prod.snd :=
  List.filterMap_filter.symm

theorem routed_sublist : (routed keeps desk).Sublist desk.handed := by
  rw [routed_filter]
  exact List.filter_sublist.filterMap Prod.snd

/-- The listener and the blocked accepts share out what the desk has handed out. -/
theorem routed_perm :
    (routed Holder.isListener desk ++ routed Holder.isCaller desk).Perm desk.handed := by
  have other : (desk.served.filter fun entry => entry.1.isCaller) =
      desk.served.filter fun entry => !entry.1.isListener := by
    refine List.filter_congr ?_
    rintro ⟨_ | t, _⟩ _ <;> rfl
  rw [routed_filter, routed_filter, other, ← List.filterMap_append]
  exact (List.filter_append_perm _ _).filterMap Prod.snd

end

/-- The connections the continuous accept has dealt with. -/
def handledIds (s : EngineCore) (transport : Traffic) : List FlowId :=
  (s.handled transport).map Prod.fst

section

variable (relayed : Relayed s transport)
include relayed

theorem Relayed.handled_prefix :
    s.handledIds transport <+: routed Holder.isListener (s.desk transport) := by
  rw [← relayed.listener, List.append_assoc]
  exact List.prefix_append _ _

theorem Relayed.granted_prefix :
    s.granted transport <+: routed Holder.isCaller (s.desk transport) := by
  rw [← relayed.callers]
  exact List.prefix_append _ _

theorem Relayed.gone (id : FlowId) (gone : id ∈ s.handledIds transport ++ s.granted transport) :
    id ∈ (s.desk transport).handed := by
  rcases List.mem_append.mp gone with handled | granted
  · exact (routed_sublist _ _).subset (relayed.handled_prefix.subset handled)
  · exact (routed_sublist _ _).subset (relayed.granted_prefix.subset granted)

theorem Relayed.apart : (s.handledIds transport).Disjoint (s.granted transport) := by
  obtain ⟨registered, fair⟩ := relayed.fair
  have nodup := (List.nodup_append.mp (fair.nodup fun item => Nat.lt_irrefl item)).1
  have split := (routed_perm (s.desk transport)).nodup_iff.mpr nodup
  intro id handled granted
  exact (List.nodup_append.mp split).2.2 id (relayed.handled_prefix.subset handled) id
    (relayed.granted_prefix.subset granted) rfl

/-- Once the executor has nothing to do, each connection that was handed out has got there. -/
theorem Relayed.settled (tasks : s.tasks = []) (idle : s.running = none) (id : FlowId)
    (handed : id ∈ (s.desk transport).handed) :
    id ∈ s.handledIds transport ++ s.granted transport := by
  have shared := (routed_perm (s.desk transport)).mem_iff.mpr handed
  have hand : s.inHand transport = [] := by
    refine inHand_none ?_
    rw [idle]
    rintro _ _ ⟨⟩
  have way (keeps : Holder → Bool) : s.onTheWay transport keeps = [] := by
    unfold onTheWay
    rw [tasks]
    rfl
  rw [← relayed.listener, ← relayed.callers, hand, way, way] at shared
  simpa [handledIds] using shared

end

/-- The continuous accept and the blocked ones never deal with the same connection, each deals with
its own in the order they came up, and all of them came up before those that still wait.  None is
lost on the way: with the executor at rest, each connection that was handed out has got there. -/
theorem connections_in_order (count : Nat) (moves : List Move) (transport : Traffic) :
    let s := run (fresh count) moves
    (s.handledIds transport).Pairwise (· < ·) ∧
      (s.granted transport).Pairwise (· < ·) ∧
      (s.handledIds transport).Disjoint (s.granted transport) ∧
      (∀ id ∈ s.handledIds transport ++ s.granted transport,
        id < s.created transport ∧ ∀ waits ∈ (s.desk transport).items, id < waits) ∧
      (s.tasks = [] → s.running = none →
        ∀ id ∈ (s.desk transport).handed, id ∈ s.handledIds transport ++ s.granted transport) := by
  intro s
  have relayed : Relayed s transport := run_relayed count moves transport
  obtain ⟨registered, fair⟩ := relayed.fair
  have handed := (List.pairwise_append.mp fair.ordered).1
  have before := (List.pairwise_append.mp fair.ordered).2.2
  refine ⟨?_, ?_, relayed.apart, ?_, relayed.settled⟩
  · exact (handed.sublist (routed_sublist _ _)).sublist relayed.handled_prefix.sublist
  · exact (handed.sublist (routed_sublist _ _)).sublist relayed.granted_prefix.sublist
  · intro id gone
    have out := relayed.gone id gone
    exact ⟨relayed.numbered id (List.mem_append_left _ out), fun waits member => before id out waits member⟩

end EngineCore

end Tunio
