import Mathlib.Data.List.Nodup
import Mathlib.Data.List.Perm.Basic
import Std.Data.TreeMap.Lemmas
import Tunio.Directory

/-!
What the values of a finite map weigh together, and how inserting and erasing changes it.
-/

namespace Stock

open Directory

variable {κ β : Type*} [Ord κ]

def mass (weight : β → ℕ) (map : Std.TreeMap κ β) : ℕ := total weight map.toList

@[simp] theorem mass_empty (weight : β → ℕ) : mass weight (∅ : Std.TreeMap κ β) = 0 := rfl

section

variable [Std.TransOrd κ] [Std.LawfulEqOrd κ]
variable (weight : β → ℕ) {map map' : Std.TreeMap κ β} {key other : κ} {value old : β}

theorem nodup_toList (map : Std.TreeMap κ β) : map.toList.Nodup := by
  have distinct := Std.TreeMap.distinct_keys_toList (t := map)
  refine distinct.imp fun differ same => differ ?_
  rw [same]
  exact Std.ReflCmp.compare_self

theorem mass_congr (same : ∀ key : κ, map'[key]? = map[key]?) :
    mass weight map' = mass weight map := by
  refine total_perm weight ((List.perm_ext_iff_of_nodup (nodup_toList _) (nodup_toList _)).mpr ?_)
  rintro ⟨key, value⟩
  rw [Std.TreeMap.mem_toList_iff_getElem?_eq_some, Std.TreeMap.mem_toList_iff_getElem?_eq_some, same]

theorem mass_remove (present : map[key]? = some value) :
    mass weight map = weight value + mass weight (map.erase key) := by
  have absent : (key, value) ∉ (map.erase key).toList := by
    rw [Std.TreeMap.mem_toList_iff_getElem?_eq_some, Std.TreeMap.getElem?_erase_self]
    exact nofun
  refine total_perm weight ((List.perm_ext_iff_of_nodup (nodup_toList _)
    (List.nodup_cons.mpr ⟨absent, nodup_toList _⟩)).mpr ?_)
  rintro ⟨other, found⟩
  rw [List.mem_cons, Std.TreeMap.mem_toList_iff_getElem?_eq_some,
    Std.TreeMap.mem_toList_iff_getElem?_eq_some, Std.TreeMap.getElem?_erase, Prod.mk.injEq]
  by_cases same : compare key other = .eq
  · obtain rfl := Std.LawfulEqCmp.eq_of_compare same
    simp [present, eq_comm]
  · have differ : other ≠ key := by
      rintro rfl
      exact same Std.ReflCmp.compare_self
    simp [same, differ]

theorem mass_insert (map : Std.TreeMap κ β) (key : κ) (value : β) :
    mass weight (map.insert key value) = weight value + mass weight (map.erase key) := by
  rw [mass_remove weight (Std.TreeMap.getElem?_insert_self (t := map) (k := key) (v := value))]
  congr 1
  refine mass_congr weight fun other => ?_
  rw [Std.TreeMap.getElem?_erase, Std.TreeMap.getElem?_erase]
  split
  · rfl
  · rename_i differ
    rw [Std.TreeMap.getElem?_insert, if_neg differ]

theorem mass_erase_le (map : Std.TreeMap κ β) (key : κ) :
    mass weight (map.erase key) ≤ mass weight map := by
  cases found : map[key]? with
  | some value =>
      rw [mass_remove weight found]
      exact Nat.le_add_left _ _
  | none =>
      refine Nat.le_of_eq (mass_congr weight fun other => ?_)
      rw [Std.TreeMap.getElem?_erase]
      split
      · rename_i same
        obtain rfl := Std.LawfulEqCmp.eq_of_compare same
        exact found.symm
      · rfl

theorem mass_insert_le (map : Std.TreeMap κ β) (key : κ) (value : β) :
    mass weight (map.insert key value) ≤ weight value + mass weight map := by
  rw [mass_insert]
  exact Nat.add_le_add_left (mass_erase_le weight map key) _

theorem mass_insertIfNew_le (map : Std.TreeMap κ β) (key : κ) (value : β) :
    mass weight (map.insertIfNew key value) ≤ weight value + mass weight map := by
  by_cases present : key ∈ map
  · refine Nat.le_trans (Nat.le_of_eq (mass_congr weight fun other => ?_)) (Nat.le_add_left _ _)
    rw [Std.TreeMap.getElem?_insertIfNew, if_neg fun new => new.2 present]
  · refine Nat.le_trans (Nat.le_of_eq (mass_congr weight fun other => ?_))
      (mass_insert_le weight map key value)
    rw [Std.TreeMap.getElem?_insertIfNew, Std.TreeMap.getElem?_insert]
    by_cases same : compare key other = .eq
    · rw [if_pos ⟨same, present⟩, if_pos same]
    · rw [if_neg fun new => same new.1, if_neg same]

theorem mass_insertIfNew (map : Std.TreeMap κ β) (value : β) (fresh : map[key]? = none) :
    mass weight (map.insertIfNew key value) = weight value + mass weight map := by
  have absent : key ∉ map := by
    rw [Std.TreeMap.mem_iff_isSome_getElem?, fresh]
    exact Bool.false_ne_true
  have added : (map.insertIfNew key value)[key]? = some value := by
    rw [Std.TreeMap.getElem?_insertIfNew, if_pos ⟨Std.ReflCmp.compare_self, absent⟩]
  rw [mass_remove weight added]
  congr 1
  refine mass_congr weight fun other => ?_
  rw [Std.TreeMap.getElem?_erase, Std.TreeMap.getElem?_insertIfNew]
  split
  · rename_i same
    obtain rfl := Std.LawfulEqCmp.eq_of_compare same
    exact fresh.symm
  · rename_i differ
    rw [if_neg fun new => differ new.1]

/-- A value changes and keeps its weight. -/
theorem mass_modify (map : Std.TreeMap κ β) (key : κ) (change : β → β)
    (same : ∀ value, weight (change value) = weight value) :
    mass weight (map.modify key change) = mass weight map := by
  cases found : map[key]? with
  | none =>
      refine mass_congr weight fun other => ?_
      rw [Std.TreeMap.getElem?_modify]
      split
      · rename_i equal
        obtain rfl := Std.LawfulEqCmp.eq_of_compare equal
        rw [found]
        rfl
      · rfl
  | some value =>
      have changed : (map.modify key change)[key]? = some (change value) := by
        rw [Std.TreeMap.getElem?_modify_self, found]
        rfl
      rw [mass_remove weight changed, mass_remove weight found, same]
      congr 1
      refine mass_congr weight fun other => ?_
      rw [Std.TreeMap.getElem?_erase, Std.TreeMap.getElem?_erase, Std.TreeMap.getElem?_modify]
      split <;> rfl

end

end Stock
