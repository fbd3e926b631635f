import Mathlib.Data.List.Nodup
import Tunio.Machine

/-!
A desk at which handlers wait for items, or items for handlers.  Handlers are served in the
order in which they registered and items in the order in which they arrived; a handler can
also be sent away, and an item that waits can be withdrawn.
-/

namespace Desks

open Machines

variable {η ι : Type*}

structure Desk (η ι : Type*) where
  waiting : List η
  items : List ι
  served : List (η × Option ι)

namespace Desk

/-- The items that handlers got. -/
def handed (desk : Desk η ι) : List ι := desk.served.filterMap Prod.snd

def register (desk : Desk η ι) (handler : η) : Desk η ι :=
  match desk.items with
  | [] => { desk with waiting := desk.waiting ++ [handler] }
  | item :: rest => { desk with items := rest, served := desk.served ++ [(handler, some item)] }

def arrive (desk : Desk η ι) (item : ι) : Desk η ι :=
  match desk.waiting with
  | [] => { desk with items := desk.items ++ [item] }
  | handler :: rest =>
      { desk with waiting := rest, served := desk.served ++ [(handler, some item)] }

theorem register_none {desk : Desk η ι} (none : desk.items = []) (handler : η) :
    desk.register handler = { desk with waiting := desk.waiting ++ [handler] } := by
  simp [register, none]

theorem register_some {desk : Desk η ι} {item : ι} {rest : List ι} (queue : desk.items = item :: rest)
    (handler : η) : desk.register handler =
      { desk with items := rest, served := desk.served ++ [(handler, some item)] } := by
  simp [register, queue]

theorem arrive_none {desk : Desk η ι} (free : desk.waiting = []) (item : ι) :
    desk.arrive item = { desk with items := desk.items ++ [item] } := by
  simp [arrive, free]

theorem arrive_some {desk : Desk η ι} {handler : η} {rest : List η}
    (queue : desk.waiting = handler :: rest) (item : ι) : desk.arrive item =
      { desk with waiting := rest, served := desk.served ++ [(handler, some item)] } := by
  simp [arrive, queue]

def withdraw (desk : Desk η ι) (items : List ι) : Desk η ι := { desk with items := items }

def cancel (desk : Desk η ι) : Desk η ι :=
  { desk with
    waiting := []
    served := desk.served ++ desk.waiting.map fun handler => (handler, none) }

/-- Each registered handler was served once or still waits once, the items are dealt with
in their order, and nobody waits for what is there. -/
structure Fair (earlier : ι → ι → Prop) (registered : List η) (desk : Desk η ι) : Prop where
  handlers : desk.served.map Prod.fst ++ desk.waiting = registered
  ordered : (desk.handed ++ desk.items).Pairwise earlier
  idle : desk.waiting = [] ∨ desk.items = []

variable {earlier : ι → ι → Prop} {registered : List η} {desk : Desk η ι}

@[simp] theorem handed_append (served more : List (η × Option ι)) (waiting : List η)
    (items : List ι) : handed { waiting := waiting, items := items, served := served ++ more } =
      served.filterMap Prod.snd ++ more.filterMap Prod.snd := List.filterMap_append

namespace Fair

theorem empty : Fair earlier [] ({ waiting := [], items := [], served := [] } : Desk η ι) :=
  ⟨rfl, List.Pairwise.nil, Or.inl rfl⟩

theorem register (fair : Fair earlier registered desk) (handler : η) :
    Fair earlier (registered ++ [handler]) (desk.register handler) := by
  unfold Desk.register
  split
  · rename_i none
    refine ⟨?_, fair.ordered, Or.inr none⟩
    rw [← List.append_assoc, fair.handlers]
  · rename_i item rest items
    have free : desk.waiting = [] := fair.idle.resolve_right (by simp [items])
    refine ⟨?_, ?_, Or.inl free⟩
    · have handlers := fair.handlers
      simp only [free, List.append_nil] at handlers ⊢
      rw [List.map_append, handlers]
      rfl
    · have ordered := fair.ordered
      rw [items] at ordered
      simpa [handed] using ordered

theorem arrive (fair : Fair earlier registered desk) (item : ι)
    (last : ∀ other ∈ desk.handed ++ desk.items, earlier other item) :
    Fair earlier registered (desk.arrive item) := by
  have ordered : (desk.handed ++ desk.items ++ [item]).Pairwise earlier := by
    rw [List.pairwise_append]
    exact ⟨fair.ordered, List.pairwise_singleton _ _,
      fun other member => by simpa using last other member⟩
  unfold Desk.arrive
  split
  · rename_i free
    refine ⟨fair.handlers, ?_, Or.inl free⟩
    rwa [List.append_assoc] at ordered
  · rename_i handler rest waiting
    have none : desk.items = [] := fair.idle.resolve_left (by simp [waiting])
    refine ⟨?_, ?_, Or.inr none⟩
    · have handlers := fair.handlers
      rw [waiting] at handlers
      simpa using handlers
    · rw [none] at ordered ⊢
      simpa [handed] using ordered

theorem withdraw (fair : Fair earlier registered desk) {items : List ι}
    (sublist : items.Sublist desk.items) : Fair earlier registered (desk.withdraw items) := by
  refine ⟨fair.handlers, fair.ordered.sublist (sublist.append_left desk.handed), ?_⟩
  refine fair.idle.imp_right fun none => ?_
  rw [none] at sublist
  exact List.sublist_nil.mp sublist

theorem cancel (fair : Fair earlier registered desk) : Fair earlier registered desk.cancel := by
  refine ⟨?_, ?_, Or.inl rfl⟩
  · have handlers := fair.handlers
    simpa [Desk.cancel, Function.comp_def] using handlers
  · have ordered := fair.ordered
    simpa [Desk.cancel, handed, Function.comp_def] using ordered

/-- Nothing is handed out twice, and nothing handed out waits. -/
theorem nodup (fair : Fair earlier registered desk) (irrefl : ∀ item, ¬earlier item item) :
    (desk.handed ++ desk.items).Nodup := by
  refine List.Pairwise.imp ?_ fair.ordered
  rintro item _ before rfl
  exact irrefl item before

end Fair

/-- The first item went to the first handler, the second one to the second. -/
structure Paired (asked : List η) (came : List ι) (desk : Desk η ι) : Prop where
  served : desk.served = (asked.zip came).map fun pair => (pair.1, some pair.2)
  waiting : desk.waiting = asked.drop came.length
  items : desk.items = came.drop asked.length

namespace Paired

variable {asked : List η} {came : List ι}

theorem empty : Paired [] [] ({ waiting := [], items := [], served := [] } : Desk η ι) :=
  ⟨rfl, rfl, rfl⟩

theorem idle (paired : Paired asked came desk) : desk.waiting = [] ∨ desk.items = [] := by
  rw [paired.waiting, paired.items, List.drop_eq_nil_iff, List.drop_eq_nil_iff]
  omega

theorem zip_snoc_left (asked : List η) (handler : η) (came : List ι) :
    (asked ++ [handler]).zip came = asked.zip came ++ [handler].zip (came.drop asked.length) := by
  induction asked generalizing came with
  | nil => simp
  | cons first rest ih =>
      cases came with
      | nil => simp
      | cons item later => simp [ih]

theorem zip_snoc_right (asked : List η) (came : List ι) (item : ι) :
    asked.zip (came ++ [item]) = asked.zip came ++ (asked.drop came.length).zip [item] := by
  induction came generalizing asked with
  | nil => simp
  | cons first rest ih =>
      cases asked with
      | nil => simp
      | cons handler later => simp [ih]

theorem register (paired : Paired asked came desk) (handler : η) :
    Paired (asked ++ [handler]) came (desk.register handler) := by
  have items := paired.items
  unfold Desk.register
  split
  · rename_i none
    rw [none] at items
    have enough : came.length ≤ asked.length := List.drop_eq_nil_iff.mp items.symm
    constructor
    · rw [zip_snoc_left, ← items]
      simp [paired.served]
    · simp [paired.waiting, List.drop_append_of_le_length enough]
    · simp [none]
      omega
  · rename_i item rest queue
    rw [queue] at items
    have more : asked.length < came.length := by
      by_contra enough
      rw [List.drop_eq_nil_of_le (by omega)] at items
      cases items
    constructor
    · rw [zip_snoc_left, ← items]
      simp [paired.served]
    · rw [List.drop_eq_nil_of_le (by simp; omega), paired.waiting,
        List.drop_eq_nil_of_le (Nat.le_of_lt more)]
    · rw [List.length_append, List.length_singleton, ← List.drop_drop, ← items]
      rfl

theorem arrive (paired : Paired asked came desk) (item : ι) :
    Paired asked (came ++ [item]) (desk.arrive item) := by
  have waiting := paired.waiting
  unfold Desk.arrive
  split
  · rename_i none
    rw [none] at waiting
    have enough : asked.length ≤ came.length := List.drop_eq_nil_iff.mp waiting.symm
    constructor
    · rw [zip_snoc_right, ← waiting]
      simp [paired.served]
    · simp [none]
      omega
    · simp [paired.items, List.drop_append_of_le_length enough]
  · rename_i handler rest queue
    rw [queue] at waiting
    have more : came.length < asked.length := by
      by_contra enough
      rw [List.drop_eq_nil_of_le (by omega)] at waiting
      cases waiting
    constructor
    · rw [zip_snoc_right, ← waiting]
      simp [paired.served]
    · rw [List.length_append, List.length_singleton, ← List.drop_drop, ← waiting]
      rfl
    · rw [List.drop_eq_nil_of_le (by simp; omega), paired.items,
        List.drop_eq_nil_of_le (Nat.le_of_lt more)]

end Paired

/-- What was served on the way from one desk to another one: only such items. -/
def Serves (hands : ι → Prop) (before after : Desk η ι) : Prop :=
  ∃ new, after.served = before.served ++ new ∧ ∀ entry ∈ new, ∀ item ∈ entry.2, hands item

theorem Serves.quiet {hands : ι → Prop} {before after : Desk η ι}
    (same : after.served = before.served) : Serves hands before after :=
  ⟨[], by rw [same, List.append_nil], by simp⟩

theorem Serves.trans {hands : ι → Prop} {first second third : Desk η ι}
    (one : Serves (fun _ => False) first second) (two : Serves hands second third) :
    Serves hands first third := by
  obtain ⟨before, same, none⟩ := one
  obtain ⟨after, next, some⟩ := two
  refine ⟨before ++ after, by rw [next, same, List.append_assoc], fun entry member => ?_⟩
  rcases List.mem_append.mp member with member | member
  · exact fun item handed => (none entry member item handed).elim
  · exact some entry member

theorem Serves.one {hands : ι → Prop} {before after : Desk η ι} {handler : η} {item : ι}
    (same : after.served = before.served ++ [(handler, some item)]) (here : hands item) :
    Serves hands before after := by
  refine ⟨_, same, fun entry member other handed => ?_⟩
  obtain rfl := List.mem_singleton.mp member
  obtain rfl := Option.mem_some.mp handed
  exact here

theorem Serves.cancel (desk : Desk η ι) : Serves (fun _ => False) desk desk.cancel := by
  refine ⟨_, rfl, fun entry member item handed => ?_⟩
  obtain ⟨handler, _, rfl⟩ := List.mem_map.mp member
  cases handed

/-! What becomes of one handler. -/

section

variable [DecidableEq η]

/-- How often a handler was served or waits. -/
def roll (desk : Desk η ι) (handler : η) : Nat :=
  (desk.served.map Prod.fst).count handler + desk.waiting.count handler

theorem register_roll (desk : Desk η ι) (handler other : η) :
    (desk.register handler).roll other = desk.roll other + [handler].count other := by
  unfold register roll
  split
  · rw [List.count_append]
    exact (Nat.add_assoc _ _ _).symm
  · rw [List.map_append, List.count_append]
    exact Nat.add_right_comm _ _ _

theorem arrive_roll (desk : Desk η ι) (item : ι) (handler : η) :
    (desk.arrive item).roll handler = desk.roll handler := by
  unfold arrive roll
  split
  · rfl
  · rename_i first rest waiting
    rw [waiting, List.map_append, List.count_append, List.count_cons (l := rest)]
    simp [List.count_cons]
    omega

theorem withdraw_roll (desk : Desk η ι) (items : List ι) (handler : η) :
    (desk.withdraw items).roll handler = desk.roll handler := rfl

theorem cancel_roll (desk : Desk η ι) (handler : η) :
    desk.cancel.roll handler = desk.roll handler := by
  simp [cancel, roll, Function.comp_def]

end

theorem register_served (desk : Desk η ι) (handler : η) :
    desk.served <+: (desk.register handler).served := by
  unfold register
  split
  · exact List.prefix_rfl
  · exact List.prefix_append _ _

theorem arrive_served (desk : Desk η ι) (item : ι) : desk.served <+: (desk.arrive item).served := by
  unfold arrive
  split
  · exact List.prefix_rfl
  · exact List.prefix_append _ _

theorem cancel_served (desk : Desk η ι) : desk.served <+: desk.cancel.served :=
  List.prefix_append _ _

/-! Machines that work like a desk. -/

section

variable {σ α ε : Type*} {machine : Machine σ α} {inner outer : α → Prop} {label : α → Option η}
  {name : Option η} {desk : σ → Desk η ι} {holds : σ → Prop}

/-- When every action keeps the desk fair, and registers the handler it is labelled with, so
does a path. -/
theorem Fair.labelled {first last : σ} (path : Labelled machine inner outer label name first last)
    (start : holds first) (keeps : ∀ s a, holds s → machine.enabled s a → holds (machine.act s a))
    (unlabelled : ∀ a, inner a → label a = none)
    (moves : ∀ s a registered, holds s → machine.enabled s a → (desk s).Fair earlier registered →
      (desk (machine.act s a)).Fair earlier (registered ++ (label a).toList))
    (fair : (desk first).Fair earlier registered) :
    (desk last).Fair earlier (registered ++ name.toList) := by
  have walked {s : σ} (walk : Steps machine (fun _ a => inner a) first s) :
      holds s ∧ (desk s).Fair earlier registered := by
    refine walk.invariant (fun s => holds s ∧ (desk s).Fair earlier registered) ⟨start, fair⟩ ?_
    rintro s a ⟨here, fair⟩ enabled within
    have moved := moves s a registered here enabled fair
    rw [unlabelled a within, Option.toList_none, List.append_nil] at moved
    exact ⟨keeps s a here enabled, moved⟩
  cases path with
  | walk unnamed walk =>
      rw [unnamed, Option.toList_none, List.append_nil]
      exact (walked walk).2
  | final a walk enabled last named =>
      rw [← named]
      exact moves _ a registered (walked walk).1 enabled (walked walk).2

/-- Only the last action of a path serves. -/
theorem Serves.labelled {first last : σ} {hands : σ → ι → Prop}
    (path : Labelled machine inner outer label name first last)
    (start : holds first) (keeps : ∀ s a, holds s → machine.enabled s a → holds (machine.act s a))
    (silent : ∀ s a, holds s → machine.enabled s a → inner a →
      Serves (fun _ => False) (desk s) (desk (machine.act s a)))
    (serves : ∀ s a, holds s → machine.enabled s a → outer a →
      Serves (hands (machine.act s a)) (desk s) (desk (machine.act s a))) :
    Serves (hands last) (desk first) (desk last) := by
  have walked {s : σ} (walk : Steps machine (fun _ a => inner a) first s) :
      holds s ∧ Serves (fun _ => False) (desk first) (desk s) := by
    refine walk.invariant (fun s => holds s ∧ Serves (fun _ => False) (desk first) (desk s))
      ⟨start, Serves.quiet rfl⟩ ?_
    rintro s a ⟨here, served⟩ enabled within
    exact ⟨keeps s a here enabled, served.trans (silent s a here enabled within)⟩
  cases path with
  | walk _ walk => exact (walked walk).2.trans (Serves.quiet rfl)
  | final a walk enabled last _ =>
      exact (walked walk).2.trans (serves _ a (walked walk).1 enabled last)

/-- What each event keeps, a run keeps. -/
theorem Fair.foldl {step : σ → ε → σ} {registers : ε → Option η}
    (keeps : ∀ s event, holds s → holds (step s event))
    (moves : ∀ s event registered, holds s → (desk s).Fair earlier registered →
      (desk (step s event)).Fair earlier (registered ++ (registers event).toList))
    (events : List ε) (s : σ) (start : holds s) (fair : (desk s).Fair earlier registered) :
    (desk (events.foldl step s)).Fair earlier (registered ++ events.filterMap registers) := by
  induction events generalizing s registered with
  | nil => rwa [List.filterMap_nil, List.append_nil]
  | cons event rest ih =>
      have next := ih (step s event) (keeps s event start) (moves s event registered start fair)
      rw [List.append_assoc] at next
      cases comes : registers event with
      | none =>
          rw [List.filterMap_cons_none comes]
          rwa [comes] at next
      | some handler =>
          rw [List.filterMap_cons_some comes]
          rwa [comes] at next

end

end Desk

end Desks
