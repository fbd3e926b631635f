import Mathlib.Data.List.Nodup
import Mathlib.Data.List.Perm.Basic

/-!
Tables with distinct keys.  Objects have a key of their own and are live or not; a table
indexes them when it holds the live ones, each under its key.
-/

namespace Directory

variable {κ ι : Type*}

structure Indexed (key : ι → κ) (live : ι → Prop) (table : List (κ × ι)) : Prop where
  listed : ∀ entry ∈ table, key entry.2 = entry.1 ∧ live entry.2
  stored : ∀ id, live id → (key id, id) ∈ table
  keys : (table.map Prod.fst).Nodup

/-- What the objects of a table weigh together. -/
def total (weight : ι → ℕ) : List (κ × ι) → ℕ
  | [] => 0
  | entry :: rest => weight entry.2 + total weight rest

@[simp] theorem total_cons (weight : ι → ℕ) (key : κ) (id : ι) (table : List (κ × ι)) :
    total weight ((key, id) :: table) = weight id + total weight table := rfl

theorem total_perm (weight : ι → ℕ) {table reordered : List (κ × ι)}
    (perm : table.Perm reordered) : total weight table = total weight reordered := by
  induction perm with
  | nil => rfl
  | cons entry _ ih => exact congrArg (weight entry.2 + ·) ih
  | swap first second rest => exact Nat.add_left_comm _ _ _
  | trans _ _ first second => exact first.trans second

theorem total_map {weight weight' : ι → ℕ} {table : List (κ × ι)}
    (same : ∀ entry ∈ table, weight' entry.2 = weight entry.2) :
    total weight' table = total weight table := by
  induction table with
  | nil => rfl
  | cons entry rest ih =>
      exact congr_arg₂ (· + ·) (same entry List.mem_cons_self)
        (ih fun other member => same other (List.mem_cons_of_mem _ member))

/-- Where an object weighs one or nothing, the table is counted. -/
theorem total_countP (holds : ι → Prop) [DecidablePred holds] (table : List (κ × ι)) :
    total (fun id => if holds id then 1 else 0) table = table.countP fun entry => holds entry.2 := by
  induction table with
  | nil => rfl
  | cons entry rest ih =>
      obtain ⟨key, id⟩ := entry
      rw [total_cons, ih, List.countP_cons, Nat.add_comm]
      simp

namespace Indexed

variable {key key' : ι → κ} {live live' : ι → Prop} {table : List (κ × ι)}

theorem empty (key : ι → κ) (none : ∀ id, ¬live id) : Indexed key live [] :=
  ⟨by simp, fun id lives => absurd lives (none id), by simp⟩

/-- Only the keys of live objects matter. -/
theorem congr (indexed : Indexed key live table) (keys : ∀ id, live id → key' id = key id)
    (lives : ∀ id, live' id ↔ live id) : Indexed key' live' table := by
  refine ⟨?_, ?_, indexed.keys⟩
  · intro entry member
    obtain ⟨same, entryLives⟩ := indexed.listed entry member
    exact ⟨(keys _ entryLives).trans same, (lives _).mpr entryLives⟩
  · intro id idLives
    have before := (lives id).mp idLives
    rw [keys id before]
    exact indexed.stored id before

theorem of_perm (indexed : Indexed key live table) {reordered : List (κ × ι)}
    (perm : table.Perm reordered) : Indexed key live reordered :=
  ⟨fun entry member => indexed.listed entry (perm.mem_iff.mpr member),
    fun id lives => perm.mem_iff.mp (indexed.stored id lives),
    (perm.map Prod.fst).nodup_iff.mp indexed.keys⟩

theorem mem_iff (indexed : Indexed key live table) (k : κ) (id : ι) :
    (k, id) ∈ table ↔ k = key id ∧ live id := by
  constructor
  · intro member
    obtain ⟨same, lives⟩ := indexed.listed _ member
    exact ⟨same.symm, lives⟩
  · rintro ⟨rfl, lives⟩
    exact indexed.stored id lives

/-- A key leads to one object. -/
theorem unique (indexed : Indexed key live table) {k : κ} {id other : ι} (here : (k, id) ∈ table)
    (there : (k, other) ∈ table) : id = other :=
  congrArg Prod.snd (List.inj_on_of_nodup_map indexed.keys here there rfl)

theorem nodup (indexed : Indexed key live table) : (table.map Prod.snd).Nodup := by
  refine (List.nodup_map_iff_inj_on (List.Nodup.of_map _ indexed.keys)).mpr ?_
  intro entry member other otherMember same
  have first := (indexed.listed entry member).1
  have second := (indexed.listed other otherMember).1
  exact Prod.ext (first.symm.trans ((congrArg key same).trans second)) same

variable [DecidableEq κ]

/-- The table without the entry of one live object. -/
theorem perm (indexed : Indexed key live table) {id : ι} (lives : live id) :
    table.Perm ((key id, id) :: table.filter fun entry => entry.1 ≠ key id) := by
  classical
  have member := indexed.stored id lives
  refine (List.perm_cons_erase member).trans (List.Perm.of_eq ?_)
  rw [List.Nodup.erase_eq_filter (List.Nodup.of_map _ indexed.keys)]
  refine congrArg _ (List.filter_congr fun entry entryMember => ?_)
  rw [bne, Bool.eq_iff_iff, Bool.not_eq_true', beq_eq_false_iff_ne, decide_eq_true_iff, not_iff_not]
  refine ⟨fun equal => congrArg Prod.fst equal, fun same => ?_⟩
  exact List.inj_on_of_nodup_map indexed.keys entryMember member same

theorem remove_length (indexed : Indexed key live table) {id : ι} (lives : live id) :
    (table.filter fun entry => entry.1 ≠ key id).length + 1 = table.length :=
  (indexed.perm lives).length_eq.symm

theorem remove (indexed : Indexed key live table) {id : ι} (lives : live id)
    (keys : ∀ other, key' other = key other) (gone : ¬live' id)
    (others : ∀ other ≠ id, live' other ↔ live other) :
    Indexed key' live' (table.filter fun entry => entry.1 ≠ key id) := by
  obtain rfl : key' = key := funext keys
  refine ⟨?_, ?_, (indexed.keys).sublist (List.filter_sublist.map _)⟩
  · intro entry member
    obtain ⟨member, different⟩ := List.mem_filter.mp member
    obtain ⟨same, entryLives⟩ := indexed.listed entry member
    have elsewhere : entry.2 ≠ id := by
      rintro rfl
      exact of_decide_eq_true different same.symm
    exact ⟨same, (others _ elsewhere).mpr entryLives⟩
  · intro other otherLives
    have elsewhere : other ≠ id := by
      rintro rfl
      exact gone otherLives
    have member := indexed.stored other ((others _ elsewhere).mp otherLives)
    refine List.mem_filter.mpr ⟨member, decide_eq_true fun same => ?_⟩
    have entry : (key' other, id) ∈ table := by
      have here := indexed.stored id lives
      rwa [← same] at here
    exact elsewhere (indexed.unique member entry)

/-- The object in front leaves the table. -/
theorem tail (indexed : Indexed key live table) {entry : κ × ι} {rest : List (κ × ι)}
    (front : table = entry :: rest) (keys : ∀ other, key' other = key other)
    (gone : ¬live' entry.2) (others : ∀ other ≠ entry.2, live' other ↔ live other) :
    Indexed key' live' rest := by
  obtain ⟨same, lives⟩ := indexed.listed entry (front ▸ List.mem_cons_self)
  refine (indexed.remove lives keys gone others).of_perm ?_
  have perm := indexed.perm lives
  rw [same, front] at perm
  rw [same, front]
  exact (perm.cons_inv).symm

omit [DecidableEq κ] in
theorem insert (indexed : Indexed key live table) {id : ι} {k : κ} (idle : ¬live id)
    (fresh : ∀ entry ∈ table, entry.1 ≠ k) (named : key' id = k) (lives : live' id)
    (keys : ∀ other ≠ id, key' other = key other)
    (others : ∀ other ≠ id, live' other ↔ live other) : Indexed key' live' ((k, id) :: table) := by
  have elsewhere : ∀ other, live other → other ≠ id := by
    rintro other otherLives rfl
    exact idle otherLives
  refine ⟨?_, ?_, ?_⟩
  · intro entry member
    rcases List.mem_cons.mp member with rfl | member
    · exact ⟨named, lives⟩
    · obtain ⟨same, entryLives⟩ := indexed.listed entry member
      have distinct := elsewhere _ entryLives
      exact ⟨(keys _ distinct).trans same, (others _ distinct).mpr entryLives⟩
  · intro other otherLives
    by_cases here : other = id
    · rw [here, named]
      exact List.mem_cons_self
    · rw [keys _ here]
      exact List.mem_cons_of_mem _ (indexed.stored other ((others _ here).mp otherLives))
  · rw [List.map_cons, List.nodup_cons]
    refine ⟨fun member => ?_, indexed.keys⟩
    obtain ⟨entry, entryMember, same⟩ := List.mem_map.mp member
    exact fresh entry entryMember same

variable {weight weight' : ι → ℕ}

theorem total_remove (indexed : Indexed key live table) {id : ι} (lives : live id)
    (weight : ι → ℕ) :
    total weight table =
      weight id + total weight (table.filter fun entry => entry.1 ≠ key id) :=
  total_perm weight (indexed.perm lives)

theorem total_elsewhere (indexed : Indexed key live table) {id : ι}
    (same : ∀ other ≠ id, weight' other = weight other) :
    total weight' (table.filter fun entry => entry.1 ≠ key id) =
      total weight (table.filter fun entry => entry.1 ≠ key id) := by
  refine total_map fun entry member => same _ ?_
  rintro rfl
  obtain ⟨member, different⟩ := List.mem_filter.mp member
  exact of_decide_eq_true different (indexed.listed entry member).1.symm

/-- One object weighs something else. -/
theorem total_change (indexed : Indexed key live table) {id : ι} (lives : live id)
    (same : ∀ other ≠ id, weight' other = weight other) :
    total weight' table + weight id = total weight table + weight' id := by
  have before := indexed.total_remove lives weight
  have after := indexed.total_remove lives weight'
  have rest := indexed.total_elsewhere same
  omega

omit [DecidableEq κ] in
theorem total_congr (indexed : Indexed key live table)
    (same : ∀ id, live id → weight' id = weight id) : total weight' table = total weight table :=
  total_map fun entry member => same _ (indexed.listed entry member).2

end Indexed

end Directory
