import Tunio.Gate

/-!
The blocking calls: one whose operation was initiated has its completion in exactly one place, and
none is left at an engine that was closed.
-/

namespace Tunio

open Crews Courses Desks

/-- Works towards the completion of the call of a thread. -/
def CoreTask.concerns (t : ThreadId) : CoreTask → Bool
  | .body u _ _ => decide (u = t)
  | .completed _ holder _ => decide (holder = .caller t)
  | .deliver _ holder _ => decide (holder = .caller t)
  | .finish u _ => decide (u = t)
  | _ => false

def CoreTask.wakes (t : ThreadId) : CoreTask → Bool
  | .close u _ => decide (u = t)
  | _ => false

namespace HostThread

/-- In a blocking call that has not initiated its operation. -/
def starting : HostThread → Bool
  | .entered _ => true
  | .checked _ => true
  | .admitted _ _ => true
  | _ => false

/-- In a blocking call that has. -/
def started : HostThread → Bool
  | .departing initiated => initiated
  | .waiting => true
  | _ => false

end HostThread

namespace EngineCore

/-- In how many places the completion of a thread's call is. -/
def places (s : EngineCore) (t : ThreadId) : Nat :=
  s.tasks.countP (CoreTask.concerns t) +
    ((s.desk .tcp).waiting.count (.caller t) + (s.desk .udp).waiting.count (.caller t)) +
    s.transfers.count t

/-- A thread whose operation is under way. -/
def awaits (s : EngineCore) (t : ThreadId) : Bool :=
  match s.threads[t]? with
  | some thread => thread.started && (s.slots t).isNone
  | none => false

/-- How many posted closes will wake a thread. -/
def wakings (s : EngineCore) (t : ThreadId) : Nat := s.tasks.countP (CoreTask.wakes t)

def isClosing (s : EngineCore) (t : ThreadId) : Bool :=
  match s.threads[t]? with
  | some thread => thread.closes
  | none => false

structure Booked (s : EngineCore) (t : ThreadId) : Prop where
  one : s.places t = (s.awaits t).toNat
  clear : ∀ thread, s.threads[t]? = some thread → thread.starting = true → s.slots t = none
  woken : s.wakings t = (s.isClosing t).toNat

/-! Where the completions go. -/

section

variable (s : EngineCore) (t : ThreadId)

theorem served_concerns (transport : Traffic) (entry : Holder × Option FlowId) :
    (served transport entry).concerns t = decide (entry.1 = .caller t) := by
  obtain ⟨holder, _ | id⟩ := entry <;> rfl

theorem post_places (task : CoreTask) :
    (s.post task).places t = s.places t + (task.concerns t).toNat := by
  unfold places post
  rw [List.countP_append]
  cases concerns : task.concerns t
  · simp [concerns]
  · simp [concerns]
    omega

theorem attend_places (transport : Traffic) (desk : Desk Holder FlowId)
    (grows : (s.desk transport).served <+: desk.served) :
    (s.attend transport desk).places t + (s.desk transport).roll (.caller t) =
      s.places t + desk.roll (.caller t) := by
  obtain ⟨new, grown⟩ := grows
  have told : ((desk.served.drop (s.desk transport).served.length).map (served transport)).countP
      (CoreTask.concerns t) = (new.map Prod.fst).count (.caller t) := by
    rw [← grown, List.drop_left, List.countP_map, List.count, List.countP_map]
    refine List.countP_congr fun entry _ => ?_
    simp [served_concerns]
  unfold places attend Desk.roll
  rw [← grown, List.map_append, List.count_append] at *
  dsimp only
  rw [List.countP_append, told]
  cases transport <;> simp <;> omega

theorem register_places (transport : Traffic) (holder : Holder) :
    (s.attend transport ((s.desk transport).register holder)).places t =
      s.places t + (decide (holder = .caller t)).toNat := by
  have moved := s.attend_places t transport _ ((s.desk transport).register_served holder)
  rw [Desk.register_roll] at moved
  by_cases same : holder = .caller t
  · simp [same] at moved ⊢
    omega
  · simp [same] at moved ⊢
    omega

theorem asyncAccept_places (transport : Traffic) (holder : Holder) :
    (s.asyncAccept transport holder).places t =
      s.places t + (decide (holder = .caller t)).toNat := by
  unfold asyncAccept
  split
  · exact s.register_places t transport holder
  · exact s.post_places t _

theorem closeDesk_places (transport : Traffic) :
    (s.closeDesk transport).places t = s.places t := by
  have moved := s.attend_places t transport ((s.desk transport).withdraw []).cancel
    (Desk.cancel_served _)
  rw [Desk.cancel_roll, Desk.withdraw_roll] at moved
  exact Nat.add_right_cancel moved

theorem engineClose_places : s.engineClose.places t = s.places t := by
  unfold engineClose
  split
  · rw [closeDesk_places, closeDesk_places]
    have aborts : (s.transfers.map fun u => CoreTask.finish u .operationAborted).countP
        (CoreTask.concerns t) = s.transfers.count t := by
      rw [List.countP_map, List.count]
      refine List.countP_congr fun u _ => ?_
      simp [CoreTask.concerns]
    unfold places
    dsimp only
    rw [List.countP_append, aborts]
    simp
    omega
  · rfl

theorem post_wakings (task : CoreTask) :
    (s.post task).wakings t = s.wakings t + (task.wakes t).toNat := by
  unfold wakings post
  rw [List.countP_append]
  cases wakes : task.wakes t <;> simp [wakes]

theorem attend_wakings (transport : Traffic) (desk : Desk Holder FlowId) :
    (s.attend transport desk).wakings t = s.wakings t := by
  unfold wakings attend
  rw [List.countP_append]
  refine Nat.add_eq_left.mpr (List.countP_eq_zero.mpr fun task member => ?_)
  obtain ⟨⟨holder, _ | id⟩, _, rfl⟩ := List.mem_map.mp member
  · simp [served, CoreTask.wakes]
  · simp [served, CoreTask.wakes]

theorem asyncAccept_wakings (transport : Traffic) (holder : Holder) :
    (s.asyncAccept transport holder).wakings t = s.wakings t := by
  unfold asyncAccept
  split
  · exact s.attend_wakings t transport _
  · exact s.post_wakings t _

theorem engineClose_wakings : s.engineClose.wakings t = s.wakings t := by
  unfold engineClose
  split
  · unfold closeDesk
    rw [attend_wakings, attend_wakings]
    unfold wakings
    rw [List.countP_append]
    refine Nat.add_eq_left.mpr (List.countP_eq_zero.mpr fun task member => ?_)
    obtain ⟨u, _, rfl⟩ := List.mem_map.mp member
    simp [CoreTask.wakes]
  · rfl

theorem asyncAccept_threads (transport : Traffic) (holder : Holder) :
    (s.asyncAccept transport holder).threads = s.threads := by
  unfold asyncAccept
  split <;> rfl

theorem asyncAccept_slots (transport : Traffic) (holder : Holder) :
    (s.asyncAccept transport holder).slots = s.slots := by
  unfold asyncAccept
  split <;> rfl

theorem engineClose_threads : s.engineClose.threads = s.threads := by
  unfold engineClose
  split <;> rfl

theorem engineClose_slots : s.engineClose.slots = s.slots := by
  unfold engineClose
  split <;> rfl

end

/-! The calls. -/

namespace Booked

variable {s s' : EngineCore} {t u : ThreadId} {old : HostThread}

theorem still (booked : Booked s t) (places : s'.places t = s.places t)
    (wakings : s'.wakings t = s.wakings t) (threads : s'.threads = s.threads)
    (slots : s'.slots t = s.slots t) : Booked s' t := by
  have awaits : s'.awaits t = s.awaits t := by
    unfold awaits
    rw [threads, slots]
  have closing : s'.isClosing t = s.isClosing t := by
    unfold isClosing
    rw [threads]
  refine ⟨?_, ?_, ?_⟩
  · rw [places, awaits]
    exact booked.one
  · rw [threads, slots]
    exact booked.clear
  · rw [wakings, closing]
    exact booked.woken

/-- Another thread moves. -/
theorem other (booked : Booked s t) (new : HostThread)
    (threads : s'.threads = s.threads.set u new)
    (different : u ≠ t) (places : s'.places t = s.places t)
    (wakings : s'.wakings t = s.wakings t) (slots : s'.slots t = s.slots t) : Booked s' t := by
  have there : s'.threads[t]? = s.threads[t]? := by
    rw [threads, List.getElem?_set_ne different]
  have awaits : s'.awaits t = s.awaits t := by
    unfold awaits
    rw [there, slots]
  have closing : s'.isClosing t = s.isClosing t := by
    unfold isClosing
    rw [there]
  refine ⟨?_, ?_, ?_⟩
  · rw [places, awaits]
    exact booked.one
  · rw [there, slots]
    exact booked.clear
  · rw [wakings, closing]
    exact booked.woken

theorem awaits_here (here : s.threads[t]? = some old) :
    s.awaits t = (old.started && (s.slots t).isNone) := by
  unfold awaits
  rw [here]

theorem isClosing_here (here : s.threads[t]? = some old) : s.isClosing t = old.closes := by
  unfold isClosing
  rw [here]

/-- The thread itself moves. -/
theorem self (booked : Booked s t) (here : s.threads[t]? = some old) (new : HostThread)
    (threads : s'.threads = s.threads.set t new)
    (one : s'.places t + (old.started && (s.slots t).isNone).toNat =
      s.places t + (new.started && (s'.slots t).isNone).toNat)
    (clear : new.starting = true → s'.slots t = none)
    (woken : s'.wakings t + old.closes.toNat = s.wakings t + new.closes.toNat) : Booked s' t := by
  have there : s'.threads[t]? = some new := by
    rw [threads]
    exact set_here here new
  refine ⟨?_, ?_, ?_⟩
  · have before := booked.one
    rw [awaits_here here] at before
    rw [awaits_here there]
    omega
  · intro thread found
    rw [there] at found
    obtain rfl := Option.some.inj found
    exact clear
  · have before := booked.woken
    rw [isClosing_here here] at before
    rw [isClosing_here there]
    omega

/-- A thread goes on to a place of the same kind, and nothing else happens. -/
theorem goes (booked : Booked s t) (here : s.threads[u]? = some old) (new : HostThread)
    (threads : s'.threads = s.threads.set u new) (started : new.started = old.started)
    (starting : new.starting = true → old.starting = true) (closes : new.closes = old.closes)
    (places : s'.places t = s.places t) (wakings : s'.wakings t = s.wakings t)
    (slots : s'.slots t = s.slots t) : Booked s' t := by
  by_cases same : u = t
  · subst u
    refine booked.self here new threads ?_ ?_ ?_
    · rw [places, started, slots]
    · intro begins
      rw [slots]
      exact booked.clear old here (starting begins)
    · rw [wakings, closes]
  · exact booked.other new threads same places wakings slots

/-- The slot of a thread is filled by the completion that worked towards it. -/
theorem fill (booked : Booked s t) (u : ThreadId) (ec : ErrorCode) (threads : s'.threads = s.threads)
    (slots : s'.slots = Function.update s.slots u (some ec))
    (places : s'.places t + (decide (u = t)).toNat = s.places t)
    (wakings : s'.wakings t = s.wakings t) : Booked s' t := by
  by_cases same : u = t
  · subst u
    rw [decide_eq_true rfl] at places
    have one := booked.one
    have awaits : s.awaits t = true := by
      cases awaits : s.awaits t with
      | true => rfl
      | false =>
          rw [awaits] at one
          simp at places one
          omega
    rw [awaits] at one
    have filled : s'.slots t = some ec := by
      rw [slots]
      exact Function.update_self _ _ _
    have answered : s'.awaits t = false := by
      unfold EngineCore.awaits
      rw [filled]
      split <;> simp
    refine ⟨?_, ?_, ?_⟩
    · rw [answered]
      simp at places one ⊢
      omega
    · intro thread here starting
      rw [threads] at here
      rw [awaits_here here] at awaits
      cases thread <;> first | (cases starting; done) | cases awaits
    · have closing : s'.isClosing t = s.isClosing t := by
        unfold isClosing
        rw [threads]
      rw [wakings, closing]
      exact booked.woken
  · rw [decide_eq_false same] at places
    refine booked.still places wakings threads ?_
    rw [slots]
    exact Function.update_of_ne (Ne.symm same) _ _

/-- A posted close has its thread waiting for it. -/
theorem closer (booked : Booked s t) {free : Bool} (member : CoreTask.close t free ∈ s.tasks) :
    ∃ waits, s.threads[t]? = some (.closing waits) := by
  have positive : 0 < s.wakings t :=
    List.countP_pos_iff.mpr ⟨_, member, by simp [CoreTask.wakes]⟩
  rw [booked.woken] at positive
  unfold isClosing at positive
  cases here : s.threads[t]? with
  | none =>
      rw [here] at positive
      cases positive
  | some thread =>
      rw [here] at positive
      cases thread <;> first | exact ⟨_, rfl⟩ | cases positive

end Booked

variable {s : EngineCore} {t u : ThreadId}

theorem enter_booked (booked : Booked s t) {last : ApiCode}
    (here : s.threads[u]? = some (.outside last)) (call : HostCall) : Booked (s.enter u call) t := by
  have goes (s' : EngineCore) (new : HostThread) (threads : s'.threads = s.threads.set u new)
      (started : new.started = false) (starting : new.starting = false) (closes : new.closes = false)
      (places : s'.places t = s.places t) (wakings : s'.wakings t = s.wakings t)
      (slots : s'.slots t = s.slots t) : Booked s' t := by
    refine booked.goes here new threads started ?_ closes places wakings slots
    intro begins
    rw [starting] at begins
    cases begins
  -- a new call has a new slot
  have begins (new : HostThread) (started : new.started = false) (closes : new.closes = false) :
      Booked ({ s with slots := Function.update s.slots u none }.put u new) t := by
    by_cases same : u = t
    · subst u
      refine booked.self here new rfl ?_ ?_ ?_
      · rw [started]
        rfl
      · intro _
        exact Function.update_self _ _ _
      · rw [closes]
        rfl
    · exact booked.other new rfl same rfl rfl (Function.update_of_ne (Ne.symm same) _ _)
  cases call with
  | accept transport =>
      unfold enter
      dsimp only
      split
      · exact goes _ _ rfl rfl rfl rfl rfl rfl rfl
      · exact begins _ rfl rfl
  | transfer =>
      unfold enter
      dsimp only
      split
      · exact goes _ _ rfl rfl rfl rfl rfl rfl rfl
      · exact begins _ rfl rfl
  | register transport cb =>
      unfold enter
      dsimp only
      split <;> exact goes _ _ rfl rfl rfl rfl rfl rfl rfl
  | close =>
      unfold enter
      dsimp only
      split <;> exact goes _ _ rfl rfl rfl rfl rfl rfl rfl
  | free => exact goes _ _ rfl rfl rfl rfl rfl rfl rfl
  | openEngine =>
      unfold enter
      dsimp only
      split <;> exact goes _ _ rfl rfl rfl rfl rfl rfl rfl

theorem left_started (free : Bool) : (left free).started = false := by cases free <;> rfl

theorem left_starting (free : Bool) : (left free).starting = false := by cases free <;> rfl

theorem advance_booked (booked : Booked s t) {thread : HostThread}
    (here : s.threads[u]? = some thread) (choice : Bool) :
    Booked (s.advance u choice thread) t := by
  have goes (s' : EngineCore) (new : HostThread) (threads : s'.threads = s.threads.set u new)
      (started : new.started = thread.started)
      (starting : new.starting = true → thread.starting = true)
      (closes : new.closes = thread.closes) (places : s'.places t = s.places t)
      (wakings : s'.wakings t = s.wakings t) (slots : s'.slots t = s.slots t) : Booked s' t :=
    booked.goes here new threads started starting closes places wakings slots
  cases thread with
  | outside last => exact booked
  | entered transport =>
      unfold advance
      dsimp only
      split
      · exact goes _ (.outside .closed) rfl rfl (fun _ => rfl) rfl rfl rfl rfl
      · exact goes _ (.checked _) rfl rfl (fun _ => rfl) rfl rfl rfl rfl
  | checked op =>
      unfold advance letIn
      dsimp only
      split
      · exact goes _ (.outside .closed) rfl rfl (fun _ => rfl) rfl rfl rfl rfl
      · exact goes _ (.admitted op _) rfl rfl (fun _ => rfl) rfl rfl rfl rfl
  | admitted op acceptor =>
      unfold advance
      dsimp only
      split
      · have posted := s.post_places t (.body u op s.epoch)
        have woken := s.post_wakings t (.body u op s.epoch)
        by_cases same : u = t
        · subst u
          have clear := booked.clear _ here rfl
          refine booked.self here (.departing true) rfl ?_ (by rintro ⟨⟩) woken
          refine (congrArg (· + 0) posted).trans ?_
          simp [CoreTask.concerns, HostThread.started, put, post, clear]
        · refine booked.other (.departing true) rfl same ?_ woken rfl
          refine posted.trans ?_
          simp [CoreTask.concerns, same]
      · exact goes _ (.departing false) rfl rfl (by rintro ⟨⟩) rfl rfl rfl rfl
  | departing initiated =>
      cases initiated with
      | true => exact goes _ .waiting rfl rfl (by rintro ⟨⟩) rfl rfl rfl rfl
      | false => exact goes _ (.outside .fail) rfl rfl (by rintro ⟨⟩) rfl rfl rfl rfl
  | waiting =>
      unfold advance
      dsimp only
      split
      · exact booked
      · rename_i ec finished
        by_cases same : u = t
        · subst u
          refine booked.self here (.outside (errorFromEc ec)) rfl ?_ (by rintro ⟨⟩) rfl
          rw [finished]
          rfl
        · exact booked.other (.outside (errorFromEc ec)) rfl same rfl rfl rfl
  | registering transport cb =>
      unfold advance enrol
      dsimp only
      split
      · exact goes _ (.arming transport) rfl rfl (by rintro ⟨⟩) rfl rfl rfl rfl
      · split
        · exact goes _ (.cancelling transport) rfl rfl (by rintro ⟨⟩) rfl rfl rfl rfl
        · exact goes _ (.outside .ok) rfl rfl (by rintro ⟨⟩) rfl rfl rfl rfl
  | arming transport =>
      unfold advance
      dsimp only
      split
      · exact goes _ (.outside .ok) rfl rfl (by rintro ⟨⟩) rfl rfl rfl rfl
      · exact goes _ (.posting transport) rfl rfl (by rintro ⟨⟩) rfl rfl rfl rfl
  | posting transport =>
      exact goes _ (.outside .ok) rfl rfl (by rintro ⟨⟩) rfl (s.post_places t (.arm transport))
        (s.post_wakings t (.arm transport)) rfl
  | cancelling transport =>
      exact goes _ (.outside .ok) rfl rfl (by rintro ⟨⟩) rfl (s.post_places t (.cancel transport))
        (s.post_wakings t (.cancel transport)) rfl
  | releasing =>
      unfold advance
      dsimp only
      split
      · exact goes _ .joining rfl rfl (by rintro ⟨⟩) rfl rfl rfl rfl
      · exact goes _ (.draining true) rfl rfl (by rintro ⟨⟩) rfl rfl rfl rfl
  | draining free =>
      unfold advance
      dsimp only
      split
      · exact goes _ (.stopping free) rfl rfl (by rintro ⟨⟩) rfl rfl rfl rfl
      · exact booked
  | stopping free =>
      have away (begins : (left free).starting = true) :
          (HostThread.stopping free).starting = true := by
        rw [left_starting] at begins
        cases begins
      unfold advance
      dsimp only
      split
      · split
        · exact goes _ (left free) (congrArg (List.set · u (left free)) (engineClose_threads s))
            (left_started free) away (left_closes free) (s.engineClose_places t)
            (s.engineClose_wakings t) (congrFun (engineClose_slots s) t)
        · have posted := s.post_places t (.close u free)
          have woken := s.post_wakings t (.close u free)
          by_cases same : u = t
          · subst u
            refine booked.self here (.closing free) rfl posted (by rintro ⟨⟩) ?_
            refine (congrArg (· + 0) woken).trans ?_
            simp [CoreTask.wakes, HostThread.closes]
          · refine booked.other (.closing free) rfl same posted ?_ rfl
            refine woken.trans ?_
            simp [CoreTask.wakes, same]
      · exact goes _ (left free) rfl (left_started free) away (left_closes free) rfl rfl rfl
  | closing free => exact booked
  | joining =>
      unfold advance
      dsimp only
      split
      · exact goes _ (.outside .ok) rfl rfl (by rintro ⟨⟩) rfl rfl rfl rfl
      · exact booked
  | opening =>
      unfold advance
      dsimp only
      split
      · exact goes _ .built rfl rfl (by rintro ⟨⟩) rfl rfl rfl rfl
      · exact goes _ (.outside .fail) rfl rfl (by rintro ⟨⟩) rfl rfl rfl rfl
  | built => exact goes _ .replaced rfl rfl (by rintro ⟨⟩) rfl rfl rfl rfl
  | replaced => exact goes _ (.outside .ok) rfl rfl (by rintro ⟨⟩) rfl rfl rfl rfl

theorem proceed_booked (booked : Booked s t) (phase : AcceptPhase) :
    Booked (s.proceed phase) t := by
  cases phase with
  | accepting transport =>
      exact booked.still (asyncAccept_places _ t transport .listener)
        (asyncAccept_wakings _ t transport .listener) (asyncAccept_threads _ transport .listener)
        (congrFun (asyncAccept_slots _ transport .listener) t)
  | deciding transport id =>
      unfold proceed
      dsimp only
      split
      · split <;> exact booked.still rfl rfl rfl rfl
      · exact booked.still rfl rfl rfl rfl
  | calling transport id cb => exact booked.still rfl rfl rfl rfl
  | rearming transport =>
      unfold proceed
      dsimp only
      split <;> exact booked.still rfl rfl rfl rfl
  | arming transport =>
      unfold proceed
      dsimp only
      split <;> exact booked.still rfl rfl rfl rfl
  | posting transport =>
      exact booked.still (post_places _ t (.arm transport)) (post_wakings _ t (.arm transport)) rfl rfl

/-- The executor takes up the first task. -/
theorem perform_booked (booked : Booked s t) {task : CoreTask} {rest : List CoreTask}
    (queue : s.tasks = task :: rest) (outcome : Option ErrorCode) :
    Booked (({ s with tasks := rest } : EngineCore).perform outcome task) t := by
  have places : ({ s with tasks := rest } : EngineCore).places t + (task.concerns t).toNat =
      s.places t := by
    unfold places
    rw [queue, List.countP_cons]
    cases task.concerns t
    · simp
    · simp
      omega
  have wakings : ({ s with tasks := rest } : EngineCore).wakings t + (task.wakes t).toNat =
      s.wakings t := by
    unfold wakings
    rw [queue, List.countP_cons]
    cases task.wakes t <;> simp
  have posted (next : CoreTask) (concerns : next.concerns t = task.concerns t)
      (wakes : next.wakes t = task.wakes t) :
      Booked (({ s with tasks := rest } : EngineCore).post next) t := by
    refine booked.still ?_ ?_ rfl rfl
    · rw [post_places, concerns, places]
    · rw [post_wakings, wakes, wakings]
  cases task with
  | body u op epoch =>
      cases op with
      | accept transport acceptor =>
          unfold perform
          dsimp only
          split
          · refine booked.still ?_ ?_ (asyncAccept_threads _ _ _)
              (congrFun (asyncAccept_slots _ _ _) t)
            · rw [asyncAccept_places, ← places]
              simp [CoreTask.concerns]
            · rw [asyncAccept_wakings]
              exact wakings
          · exact posted _ (by simp [CoreTask.concerns]) rfl
      | transfer =>
          unfold perform startTransfer
          dsimp only
          split
          · exact posted _ rfl rfl
          · split
            · refine booked.still ?_ wakings rfl rfl
              rw [← places]
              unfold EngineCore.places
              rw [List.count_append]
              by_cases same : u = t
              · simp [CoreTask.concerns, same]
                omega
              · simp [CoreTask.concerns, same]
            · exact posted _ rfl rfl
  | completed transport holder result => exact posted _ rfl rfl
  | deliver transport holder result =>
      cases holder with
      | listener => cases result <;> exact booked.still places wakings rfl rfl
      | caller u =>
          refine booked.fill u result.ec rfl rfl ?_ wakings
          refine Eq.trans ?_ places
          simp [CoreTask.concerns, perform, answered, EngineCore.places]
  | finish u ec => exact booked.fill u ec rfl rfl places wakings
  | arm transport =>
      unfold perform
      dsimp only
      split <;> exact booked.still places wakings rfl rfl
  | cancel transport =>
      unfold perform
      dsimp only
      split
      · have moved := ({ s with tasks := rest } : EngineCore).attend_places t transport _
          (Desk.cancel_served (s.desk transport))
        rw [Desk.cancel_roll] at moved
        refine booked.still ((Nat.add_right_cancel moved).trans places) ?_ rfl rfl
        rw [attend_wakings]
        exact wakings
      · exact booked.still places wakings rfl rfl
  | close u free =>
      have same := engineClose_places { s with tasks := rest } t
      have woken := engineClose_wakings { s with tasks := rest } t
      have threads := engineClose_threads { s with tasks := rest }
      have slots := congrFun (engineClose_slots { s with tasks := rest }) t
      have threads' := congrArg (List.set · u (left free)) threads
      by_cases isSelf : u = t
      · subst u
        obtain ⟨waits, here⟩ := booked.closer (by rw [queue]; exact List.mem_cons_self)
        refine booked.self here (left free) threads' ?_ ?_ ?_
        · rw [left_started]
          exact same.trans places
        · intro begins
          rw [left_starting] at begins
          cases begins
        · refine (congrArg (· + 1) woken).trans ?_
          rw [left_closes]
          simpa [CoreTask.wakes] using wakings
      · refine booked.other (left free) threads' isSelf (same.trans places) ?_ slots
        refine woken.trans ?_
        simpa [CoreTask.wakes, isSelf] using wakings

theorem strand_booked (booked : Booked s t) (outcome : Option ErrorCode) :
    Booked (s.strand outcome) t := by
  unfold strand
  split
  · exact proceed_booked booked _
  · split
    · exact booked
    · rename_i task rest queue
      exact perform_booked booked queue outcome

theorem step_booked (booked : Booked s t) (move : Move) : Booked (s.step move) t := by
  cases move with
  | call u call =>
      unfold step
      dsimp only
      split
      · rename_i last here
        exact enter_booked booked here call
      · exact booked
  | advance u choice =>
      unfold step
      dsimp only
      split
      · rename_i thread here
        exact advance_booked booked here choice
      · exact booked
  | strand outcome => exact strand_booked booked outcome
  | arrives transport =>
      unfold step
      dsimp only
      split
      · have moved := attend_places (s.number transport) t transport _
          (Desk.arrive_served (s.desk transport) (s.created transport))
        rw [Desk.arrive_roll] at moved
        exact booked.still (Nat.add_right_cancel moved) (attend_wakings _ t transport _) rfl rfl
      · exact booked
  | withdraw transport id =>
      unfold step
      dsimp only
      split
      · have moved := attend_places s t transport
          ((s.desk transport).withdraw ((s.desk transport).items.erase id)) List.prefix_rfl
        rw [Desk.withdraw_roll] at moved
        exact booked.still (Nat.add_right_cancel moved) (attend_wakings _ t transport _) rfl rfl
      · exact booked
  | completes u ec =>
      unfold step completes
      dsimp only
      split
      · split
        · rename_i pending
          refine booked.still ?_ (post_wakings _ t _) rfl rfl
          rw [post_places]
          unfold places
          by_cases same : u = t
          · subst u
            have positive := List.count_pos_iff.mpr pending
            simp [CoreTask.concerns]
            omega
          · simp [CoreTask.concerns, same, List.count_erase_of_ne (Ne.symm same)]
        · exact booked
      · exact booked
  | deviceFails =>
      unfold step
      dsimp only
      split
      · exact booked.still (s.engineClose_places t) (s.engineClose_wakings t) (engineClose_threads s)
          (congrFun (engineClose_slots s) t)
      · exact booked

theorem fresh_booked (count : Nat) (t : ThreadId) : Booked (fresh count) t := by
  have places (thread : HostThread) (here : (fresh count).threads[t]? = some thread) :
      thread = .outside .ok := List.eq_of_mem_replicate (List.mem_of_getElem? here)
  refine ⟨?_, fun _ _ _ => rfl, ?_⟩
  · unfold awaits
    cases here : (fresh count).threads[t]? with
    | none => rfl
    | some thread =>
        rw [places thread here]
        rfl
  · unfold isClosing
    cases here : (fresh count).threads[t]? with
    | none => rfl
    | some thread =>
        rw [places thread here]
        rfl

theorem run_booked (count : Nat) (moves : List Move) (t : ThreadId) :
    Booked (run (fresh count) moves) t := by
  have walk (s : EngineCore) (booked : Booked s t) : Booked (run s moves) t := by
    induction moves generalizing s with
    | nil => exact booked
    | cons move rest ih => exact ih (s.step move) (step_booked booked move)
  exact walk _ (fresh_booked count t)

/-! An engine that is not open holds nobody. -/

structure Hushed (s : EngineCore) : Prop where
  waiting : s.engineOpen = false → ∀ transport, (s.desk transport).waiting = []
  transfers : s.engineOpen = false → s.transfers = []

namespace Hushed

theorem still (hushed : Hushed s) {s' : EngineCore} (engine : s'.engineOpen = s.engineOpen)
    (desk : s'.desk = s.desk) (transfers : s'.transfers = s.transfers) : Hushed s' := by
  refine ⟨?_, ?_⟩
  · rw [engine, desk]
    exact hushed.waiting
  · rw [engine, transfers]
    exact hushed.transfers

theorem up {s : EngineCore} (engine : s.engineOpen = true) : Hushed s := by
  refine ⟨?_, ?_⟩
  · intro down
    rw [engine] at down
    cases down
  · intro down
    rw [engine] at down
    cases down

theorem asyncAccept (hushed : Hushed s) (transport : Traffic) (holder : Holder) :
    Hushed (s.asyncAccept transport holder) := by
  unfold EngineCore.asyncAccept
  split
  · rename_i engine
    exact up engine
  · exact hushed.still rfl rfl rfl

theorem cancel (hushed : Hushed s) (transport : Traffic) :
    Hushed (s.attend transport (s.desk transport).cancel) := by
  refine ⟨fun down other => ?_, hushed.transfers⟩
  show (Function.update s.desk transport (s.desk transport).cancel other).waiting = []
  by_cases same : other = transport
  · subst other
    rw [Function.update_self]
    rfl
  · rw [Function.update_of_ne same]
    exact hushed.waiting down other

theorem engineClose (hushed : Hushed s) : Hushed s.engineClose := by
  unfold EngineCore.engineClose
  split
  · refine ⟨fun _ other => ?_, fun _ => rfl⟩
    cases other <;> simp [closeDesk, attend, Desk.cancel]
  · exact hushed

end Hushed

theorem enter_hushed (hushed : Hushed s) (t : ThreadId) (call : HostCall) :
    Hushed (s.enter t call) := by
  cases call <;> unfold enter <;> dsimp only <;>
    first | exact hushed.still rfl rfl rfl | (split <;> exact hushed.still rfl rfl rfl)

theorem advance_hushed (hushed : Hushed s) (t : ThreadId) (choice : Bool) (thread : HostThread) :
    Hushed (s.advance t choice thread) := by
  cases thread with
  | stopping free =>
      unfold advance
      dsimp only
      split
      · split
        · exact hushed.engineClose.still rfl rfl rfl
        · exact hushed.still rfl rfl rfl
      · exact hushed.still rfl rfl rfl
  | opening =>
      unfold advance
      dsimp only
      split
      · exact Hushed.up rfl
      · exact hushed.still rfl rfl rfl
  | registering transport cb =>
      unfold advance enrol
      dsimp only
      split
      · exact hushed.still rfl rfl rfl
      · split <;> exact hushed.still rfl rfl rfl
  | checked op =>
      unfold advance letIn
      dsimp only
      split <;> exact hushed.still rfl rfl rfl
  | _ =>
      unfold advance
      dsimp only
      first | exact hushed.still rfl rfl rfl | (split <;> exact hushed.still rfl rfl rfl)

theorem proceed_hushed (hushed : Hushed s) (phase : AcceptPhase) : Hushed (s.proceed phase) := by
  cases phase with
  | accepting transport =>
      have calm : Hushed ({ s with running := none } : EngineCore) := hushed.still rfl rfl rfl
      exact calm.asyncAccept transport .listener
  | deciding transport id =>
      unfold proceed
      dsimp only
      split
      · split <;> exact hushed.still rfl rfl rfl
      · exact hushed.still rfl rfl rfl
  | _ =>
      unfold proceed
      dsimp only
      first | exact hushed.still rfl rfl rfl | (split <;> exact hushed.still rfl rfl rfl)

theorem perform_hushed (hushed : Hushed s) (outcome : Option ErrorCode) (task : CoreTask) :
    Hushed (s.perform outcome task) := by
  cases task with
  | body t op epoch =>
      cases op with
      | accept transport acceptor =>
          unfold perform
          dsimp only
          split
          · exact hushed.asyncAccept transport (.caller t)
          · exact hushed.still rfl rfl rfl
      | transfer =>
          unfold perform startTransfer
          dsimp only
          split
          · exact hushed.still rfl rfl rfl
          · split
            · rename_i engine
              exact Hushed.up engine
            · exact hushed.still rfl rfl rfl
  | deliver transport holder result =>
      cases holder with
      | listener => cases result <;> exact hushed.still rfl rfl rfl
      | caller t => exact hushed.still rfl rfl rfl
  | cancel transport =>
      unfold perform
      dsimp only
      split
      · exact hushed.cancel transport
      · exact hushed
  | close t free => exact hushed.engineClose.still rfl rfl rfl
  | arm transport =>
      unfold perform
      dsimp only
      split <;> exact hushed.still rfl rfl rfl
  | completed transport holder result => exact hushed.still rfl rfl rfl
  | finish t ec => exact hushed.still rfl rfl rfl

theorem strand_hushed (hushed : Hushed s) (outcome : Option ErrorCode) :
    Hushed (s.strand outcome) := by
  unfold strand
  split
  · exact proceed_hushed hushed _
  · split
    · exact hushed
    · rename_i task rest _
      have calm : Hushed ({ s with tasks := rest } : EngineCore) := hushed.still rfl rfl rfl
      exact perform_hushed calm outcome task

theorem step_hushed (hushed : Hushed s) (move : Move) : Hushed (s.step move) := by
  cases move with
  | call t call =>
      unfold step
      dsimp only
      split
      · exact enter_hushed hushed t call
      · exact hushed
  | advance t choice =>
      unfold step
      dsimp only
      split
      · exact advance_hushed hushed t choice _
      · exact hushed
  | strand outcome => exact strand_hushed hushed outcome
  | arrives transport | withdraw transport id =>
      unfold step
      dsimp only
      split
      · rename_i idle
        exact Hushed.up idle.1
      · exact hushed
  | completes t ec =>
      unfold step
      dsimp only
      split
      · rename_i idle
        unfold completes
        split <;> exact Hushed.up idle.1
      · exact hushed
  | deviceFails =>
      unfold step
      dsimp only
      split
      · exact hushed.engineClose
      · exact hushed

theorem run_hushed (s : EngineCore) (hushed : Hushed s) (moves : List Move) :
    Hushed (run s moves) := by
  induction moves generalizing s with
  | nil => exact hushed
  | cons move rest ih => exact ih (s.step move) (step_hushed hushed move)

theorem fresh_hushed (count : Nat) : Hushed (fresh count) := ⟨fun _ _ => rfl, fun _ => rfl⟩

/-! After a close the executor alone comes to an end. -/

/-- How many turns of the executor a task may still take once the engine is closed. -/
def taskWork : CoreTask → Nat
  | .body _ _ _ => 4
  | .completed _ _ _ => 3
  | .deliver _ _ _ => 2
  | _ => 1

def phaseWork : AcceptPhase → Nat
  | .accepting _ => 4
  | .calling _ _ _ => 2
  | .posting _ => 2
  | _ => 1

def work (s : EngineCore) : Nat := (s.tasks.map taskWork).sum + (s.running.map phaseWork).getD 0

theorem taskWork_pos (task : CoreTask) : 0 < taskWork task := by
  cases task <;> exact Nat.succ_pos _

theorem post_work (s : EngineCore) (task : CoreTask) : (s.post task).work = s.work + taskWork task := by
  unfold work post
  rw [List.map_append, List.sum_append]
  simp
  omega

structure Stopped (s : EngineCore) : Prop where
  closed : s.closed = true
  down : s.engineOpen = false
  hushed : Hushed s

theorem Stopped.asyncAccept (stopped : Stopped s) (transport : Traffic) (holder : Holder) :
    s.asyncAccept transport holder = s.post (.completed transport holder (.failure .badDescriptor)) := by
  unfold EngineCore.asyncAccept
  rw [if_neg (Bool.eq_false_iff.mp stopped.down)]

theorem proceed_stopped (stopped : Stopped s) {phase : AcceptPhase} (running : s.running = some phase) :
    Stopped (s.proceed phase) ∧ (s.proceed phase).work < s.work := by
  have here : s.work = (s.tasks.map taskWork).sum + phaseWork phase := by
    unfold work
    rw [running]
    rfl
  have calm : Hushed ({ s with running := none } : EngineCore) := stopped.hushed.still rfl rfl rfl
  have at_rest : Stopped ({ s with running := none } : EngineCore) := ⟨stopped.closed, stopped.down, calm⟩
  have rest : ({ s with running := none } : EngineCore).work = (s.tasks.map taskWork).sum := rfl
  have hushed := proceed_hushed stopped.hushed phase
  cases phase with
  | accepting transport =>
      have same := at_rest.asyncAccept transport .listener
      refine ⟨⟨?_, ?_, hushed⟩, ?_⟩
      · exact (congrArg EngineCore.closed same).trans stopped.closed
      · exact (congrArg EngineCore.engineOpen same).trans stopped.down
      · refine (congrArg EngineCore.work same).trans_lt ?_
        rw [post_work, rest, here]
        exact Nat.lt_succ_self _
  | deciding transport id =>
      have same : (s.proceed (.deciding transport id)).closed = true ∧
          (s.proceed (.deciding transport id)).engineOpen = false ∧
          (s.proceed (.deciding transport id)).work = (s.tasks.map taskWork).sum := by
        unfold proceed
        dsimp only
        split
        · rw [if_pos (Or.inl stopped.closed)]
          exact ⟨stopped.closed, stopped.down, rfl⟩
        · exact ⟨stopped.closed, stopped.down, rfl⟩
      refine ⟨⟨same.1, same.2.1, hushed⟩, ?_⟩
      rw [same.2.2, here]
      exact Nat.lt_succ_self _
  | calling transport id cb =>
      refine ⟨⟨stopped.closed, stopped.down, hushed⟩, ?_⟩
      rw [here]
      exact Nat.lt_succ_self _
  | rearming transport =>
      have same : s.proceed (.rearming transport) = { s with running := none } := by
        unfold proceed
        dsimp only
        rw [if_neg fun open_ => open_.2.2.1 stopped.closed]
      rw [same]
      refine ⟨at_rest, ?_⟩
      rw [rest, here]
      exact Nat.lt_succ_self _
  | arming transport =>
      have same : s.proceed (.arming transport) = { s with running := none } := if_pos stopped.closed
      rw [same]
      refine ⟨at_rest, ?_⟩
      rw [rest, here]
      exact Nat.lt_succ_self _
  | posting transport =>
      refine ⟨⟨stopped.closed, stopped.down, hushed⟩, ?_⟩
      show (({ s with running := none } : EngineCore).post (.arm transport)).work < s.work
      rw [post_work, rest, here]
      exact Nat.lt_succ_self _

theorem perform_stopped (stopped : Stopped s) (running : s.running = none)
    (outcome : Option ErrorCode) (task : CoreTask) :
    Stopped (s.perform outcome task) ∧ (s.perform outcome task).work < s.work + taskWork task := by
  have hushed := perform_hushed stopped.hushed outcome task
  have posted (next : CoreTask) (less : taskWork next < taskWork task) :
      Stopped (s.post next) ∧ (s.post next).work < s.work + taskWork task := by
    refine ⟨⟨stopped.closed, stopped.down, stopped.hushed.still rfl rfl rfl⟩, ?_⟩
    rw [post_work]
    exact Nat.add_lt_add_left less _
  have spent (s' : EngineCore) (next : Stopped s') (same : s'.work = s.work) :
      Stopped s' ∧ s'.work < s.work + taskWork task :=
    ⟨next, by rw [same]; exact Nat.lt_add_of_pos_right (taskWork_pos task)⟩
  cases task with
  | body t op epoch =>
      cases op with
      | accept transport acceptor =>
          unfold perform
          dsimp only
          rw [stopped.asyncAccept]
          split
          · exact posted _ (Nat.lt_succ_self 3)
          · exact posted _ (Nat.lt_succ_self 3)
      | transfer =>
          unfold perform startTransfer
          dsimp only
          rw [if_neg (Bool.eq_false_iff.mp stopped.down)]
          split
          · exact posted _ (show (1 : Nat) < 4 by decide)
          · exact posted _ (show (1 : Nat) < 4 by decide)
  | completed transport holder result => exact posted _ (Nat.lt_succ_self 2)
  | deliver transport holder result =>
      cases holder with
      | listener =>
          cases result with
          | failure ec => exact spent _ ⟨stopped.closed, stopped.down, hushed⟩ rfl
          | connection id =>
              refine ⟨⟨stopped.closed, stopped.down, hushed⟩, ?_⟩
              have before : s.work = (s.tasks.map taskWork).sum := by
                unfold work
                rw [running]
                rfl
              rw [before]
              exact Nat.lt_succ_self _
      | caller t => exact spent _ ⟨stopped.closed, stopped.down, hushed⟩ rfl
  | finish t ec => exact spent _ ⟨stopped.closed, stopped.down, hushed⟩ rfl
  | arm transport =>
      have same : s.perform outcome (.arm transport) =
          { s with accepting := Function.update s.accepting transport false } :=
        if_pos (Or.inl stopped.closed)
      rw [same] at hushed ⊢
      exact spent _ ⟨stopped.closed, stopped.down, hushed⟩ rfl
  | cancel transport =>
      have same : s.perform outcome (.cancel transport) = s :=
        if_neg fun open_ => open_.1 stopped.closed
      rw [same]
      exact spent s stopped rfl
  | close t free =>
      have same : s.perform outcome (.close t free) = s.put t (left free) := by
        show s.engineClose.put t (left free) = _
        unfold engineClose
        rw [if_neg (Bool.eq_false_iff.mp stopped.down)]
      rw [same] at hushed ⊢
      exact spent _ ⟨stopped.closed, stopped.down, hushed⟩ rfl

theorem strand_stopped (stopped : Stopped s) (outcome : Option ErrorCode) :
    Stopped (s.strand outcome) ∧ (s.strand outcome).work ≤ s.work - 1 := by
  unfold strand
  split
  · rename_i phase running
    obtain ⟨next, less⟩ := proceed_stopped stopped running
    exact ⟨next, Nat.le_sub_one_of_lt less⟩
  · rename_i running
    split
    · rename_i none
      refine ⟨stopped, ?_⟩
      have spent : s.work = 0 := by
        unfold work
        rw [running, none]
        rfl
      rw [spent]
    · rename_i task rest queue
      have calm : Stopped ({ s with tasks := rest } : EngineCore) :=
        ⟨stopped.closed, stopped.down, stopped.hushed.still rfl rfl rfl⟩
      obtain ⟨next, less⟩ := perform_stopped calm running outcome task
      refine ⟨next, Nat.le_sub_one_of_lt (less.trans_eq ?_)⟩
      unfold work
      rw [queue]
      simp
      omega

theorem work_zero {s : EngineCore} (spent : s.work = 0) : s.tasks = [] ∧ s.running = none := by
  unfold work at spent
  constructor
  · cases queue : s.tasks with
    | nil => rfl
    | cons task rest =>
        have positive := taskWork_pos task
        rw [queue, List.map_cons, List.sum_cons] at spent
        omega
  · cases running : s.running with
    | none => rfl
    | some phase =>
        rw [running] at spent
        cases phase <;> simp [phaseWork] at spent

/-- The completion of a blocking call is in exactly one place while it is under way, and nowhere
before and afterwards. -/
theorem one_completion (count : Nat) (moves : List Move) (t : ThreadId) :
    (run (fresh count) moves).places t = ((run (fresh count) moves).awaits t).toNat :=
  (run_booked count moves t).one

/-- Once the engine is closed the executor comes to rest without anybody else, and then every
blocked call has been told. -/
theorem close_wakes (count : Nat) (moves : List Move) (outcomes : List (Option ErrorCode))
    (closed : (run (fresh count) moves).closed = true)
    (down : (run (fresh count) moves).engineOpen = false)
    (enough : (run (fresh count) moves).work ≤ outcomes.length) :
    let last := outcomes.foldl strand (run (fresh count) moves)
    last.tasks = [] ∧ last.running = none ∧
      ∀ t, last.threads[t]? = some .waiting → ∃ ec, last.slots t = some ec := by
  have walk (outcomes : List (Option ErrorCode)) (s : EngineCore) (stopped : Stopped s)
      (booked : ∀ t, Booked s t) (enough : s.work ≤ outcomes.length) :
      Stopped (outcomes.foldl strand s) ∧ (∀ t, Booked (outcomes.foldl strand s) t) ∧
        (outcomes.foldl strand s).work = 0 := by
    induction outcomes generalizing s with
    | nil => exact ⟨stopped, booked, Nat.le_zero.mp enough⟩
    | cons outcome rest ih =>
        obtain ⟨next, less⟩ := strand_stopped stopped outcome
        refine ih (s.strand outcome) next (fun t => strand_booked (booked t) outcome) ?_
        rw [List.length_cons] at enough
        omega
  have hushed := run_hushed _ (fresh_hushed count) moves
  obtain ⟨stopped, booked, spent⟩ :=
    walk outcomes _ ⟨closed, down, hushed⟩ (run_booked count moves) enough
  obtain ⟨tasks, running⟩ := work_zero spent
  refine ⟨tasks, running, fun t here => ?_⟩
  have nowhere : (outcomes.foldl strand (run (fresh count) moves)).places t = 0 := by
    unfold places
    rw [tasks, stopped.hushed.waiting stopped.down, stopped.hushed.waiting stopped.down,
      stopped.hushed.transfers stopped.down]
    rfl
  have one := (booked t).one
  rw [nowhere, Booked.awaits_here here] at one
  cases slot : (outcomes.foldl strand (run (fresh count) moves)).slots t with
  | none =>
      rw [slot] at one
      cases one
  | some ec => exact ⟨ec, rfl⟩

theorem close_wakes_accept :
    let moves : List Move := [
      .call 0 .openEngine, .advance 0 true, .advance 0 true, .advance 0 true,
      .call 1 (.accept .tcp), .advance 1 true, .advance 1 true, .advance 1 true, .advance 1 true,
      .strand none, .call 0 .close, .advance 0 true, .advance 0 false, .strand none]
    let s := run (fresh 2) moves
    s.threads[1]? = some .waiting ∧ s.slots 1 = none ∧
      ∃ ec, ((List.replicate 3 none).foldl strand s).slots 1 = some ec := by
  intro moves s
  have woken := close_wakes 2 moves (List.replicate 3 none) (by decide +kernel) (by decide +kernel)
    (by decide +kernel)
  exact ⟨by decide +kernel, by decide +kernel, woken.2.2 1 (by decide +kernel)⟩

end EngineCore

end Tunio
