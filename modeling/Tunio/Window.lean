import Tunio.Run

/-!
The receive window against its exact value.  `current_wnd` narrows three `size_t`
amounts to 32 bits and skips the global budget when its limit is 0, so it announces
the exact window only while the narrowed amounts still decide it.
-/

namespace Tunio

/-- What is queued for the application, in order or not. -/
def queuedBytes (c : Conn) : Nat := c.flow.rxBytes + c.flow.oooBytes

def mssOf (c : Conn) : Nat := mss c.eng.cfg c.flow.key.family

/-- The window before the comparison with the segment size, in exact integers. -/
def exactRoom (c : Conn) : Nat :=
  min (2 ^ 20) (min (c.eng.cfg.maxRxQueuePerFlow - queuedBytes c)
    (c.eng.account.limit - c.eng.account.used))

def exactWnd (c : Conn) : Nat := if mssOf c ≤ exactRoom c then exactRoom c else 0

/-- The room in the queue of the flow as 32 bits hold it. -/
def narrowQueueRoom (c : Conn) : Nat :=
  (c.eng.cfg.maxRxQueuePerFlow - queuedBytes c % 2 ^ 32) % 2 ^ 32

/-- The room in the global budget as 32 bits hold it. -/
def narrowBudgetRoom (c : Conn) : Nat := (c.eng.account.limit - c.eng.account.used) % 2 ^ 32

/-- The window is exact, and what it announces is not refused. -/
structure WindowPromise (c : Conn) : Prop where
  exact : (currentWnd c).toNat = exactWnd c
  kept : c.flow.state ≠ .closed → 0 < currentWnd c →
    ∀ len, 0 < len → len ≤ (currentWnd c).toNat → (admitData c len).isSome

/-- The narrowed amounts decide the window as the exact ones do. -/
@[reducible] def WindowFits (c : Conn) : Prop :=
  if mssOf c ≤ exactRoom c then
    exactRoom c ≤ narrowQueueRoom c ∧ exactRoom c ≤ narrowBudgetRoom c
  else
    2 ^ 20 < mssOf c ∨ narrowQueueRoom c < mssOf c ∨
      (c.eng.account.limit ≠ 0 ∧ narrowBudgetRoom c < mssOf c)

theorem toNat_min (left right : UInt32) : (min left right).toNat = min left.toNat right.toNat := by
  have order : left ≤ right ↔ left.toNat ≤ right.toNat := UInt32.le_iff_toNat_le
  change (if left ≤ right then left else right).toNat = _
  simp only [order]
  split <;> omega

/-- The window before the comparison with the segment size, as the code computes it. -/
def narrowRoom (c : Conn) : Nat :=
  let room := min (2 ^ 20) (narrowQueueRoom c)
  if c.eng.account.limit ≠ 0 then min room (narrowBudgetRoom c) else room

theorem currentWnd_toNat (c : Conn) :
    (currentWnd c).toNat = if mssOf c ≤ narrowRoom c then narrowRoom c else 0 := by
  have queued : (UInt32.ofNat (c.flow.rxBytes + c.flow.oooBytes)).toNat =
      queuedBytes c % 2 ^ 32 := rfl
  have fixed : fixedRcvWnd.toNat = 2 ^ 20 := rfl
  have zero : (0 : UInt32).toNat = 0 := rfl
  unfold currentWnd narrowRoom narrowQueueRoom narrowBudgetRoom
  dsimp only
  rw [queued]
  change _ = if mss c.eng.cfg c.flow.key.family ≤ _ then _ else 0
  have queueRoom : (if c.eng.cfg.maxRxQueuePerFlow > queuedBytes c % 2 ^ 32 then
        min fixedRcvWnd (UInt32.ofNat (c.eng.cfg.maxRxQueuePerFlow - queuedBytes c % 2 ^ 32))
      else 0).toNat =
      min (2 ^ 20) ((c.eng.cfg.maxRxQueuePerFlow - queuedBytes c % 2 ^ 32) % 2 ^ 32) := by
    split
    · rw [toNat_min, fixed, UInt32.toNat_ofNat']
    · rw [zero]
      omega
  generalize (if c.eng.cfg.maxRxQueuePerFlow > queuedBytes c % 2 ^ 32 then _ else (0 : UInt32)) =
    room at queueRoom ⊢
  rw [← queueRoom]
  have budgetRoom : (if c.eng.account.limit > c.eng.account.used then
      c.eng.account.limit - c.eng.account.used else 0) =
      c.eng.account.limit - c.eng.account.used := by
    split <;> omega
  rw [budgetRoom]
  by_cases unlimited : c.eng.account.limit = 0
  · simp only [unlimited, ne_eq, not_true_eq_false, if_false]
    split <;> split <;> first | rfl | omega
  · simp only [unlimited, ne_eq, not_false_eq_true, if_true, toNat_min, UInt32.toNat_ofNat']
    split <;> split
    · omega
    · rfl
    · rw [toNat_min, UInt32.toNat_ofNat']
    · omega

/-- Narrowing never widens the window of a flow that has one. -/
theorem narrowRoom_le (c : Conn) (open_ : 0 < exactRoom c) : narrowRoom c ≤ exactRoom c := by
  unfold narrowRoom exactRoom narrowQueueRoom narrowBudgetRoom at *
  have limited : c.eng.account.limit ≠ 0 := by omega
  simp only [limited, ne_eq, not_false_eq_true, if_true]
  omega

theorem currentWnd_eq_iff (c : Conn) : (currentWnd c).toNat = exactWnd c ↔ WindowFits c := by
  have segment : 0 < mssOf c := mss_pos _ _
  rw [currentWnd_toNat]
  unfold exactWnd WindowFits
  by_cases open_ : mssOf c ≤ exactRoom c
  · have narrow := narrowRoom_le c (by omega)
    have limited : c.eng.account.limit ≠ 0 := by
      unfold exactRoom at open_
      omega
    have capped : exactRoom c ≤ 2 ^ 20 := by
      unfold exactRoom
      omega
    have room : narrowRoom c = min (min (2 ^ 20) (narrowQueueRoom c)) (narrowBudgetRoom c) := by
      simp [narrowRoom, limited]
    simp only [open_, if_true]
    split <;> omega
  · simp only [open_, if_false]
    unfold narrowRoom
    dsimp only
    split <;> split <;> omega

/-- A window that is exact is a promise that `deliver_data` keeps. -/
theorem admitData_of_exact (c : Conn) (exact : (currentWnd c).toNat = exactWnd c) (len : Nat)
    (some_ : 0 < len) (within : len ≤ (currentWnd c).toNat) : (admitData c len).isSome := by
  rw [exact] at within
  have room : len ≤ exactRoom c := by
    unfold exactWnd at within
    split at within <;> omega
  unfold exactRoom queuedBytes at room
  unfold admitData BufferAccountant.reserve
  rw [if_neg (by omega), if_neg (by omega)]
  rfl

theorem windowPromise_iff (c : Conn) : WindowPromise c ↔ WindowFits c := by
  rw [← currentWnd_eq_iff]
  constructor
  · exact fun promise => promise.exact
  · intro exact
    exact ⟨exact, fun _ _ len some_ within => admitData_of_exact c exact len some_ within⟩

/-- A budget of 4 GiB is announced as an empty window, and a budget of 0, which refuses
every byte, as a full one. -/
theorem windowPromise_fails :
    ¬WindowPromise (run (opened { maxTotalBuffer := 2 ^ 32 } 1000) []) ∧
      (currentWnd (run (opened { maxTotalBuffer := 0 } 1000) [])).toNat = 2 ^ 20 ∧
      admitData (run (opened { maxTotalBuffer := 0 } 1000) []) 1 = none := by
  refine ⟨?_, by decide, by decide⟩
  rw [windowPromise_iff]
  decide

/-- In every state a run reaches, the window keeps its promise exactly when it fits. -/
theorem run_windowPromise_iff (start : Conn) (events : List Event) :
    WindowPromise (run start events) ↔ WindowFits (run start events) :=
  windowPromise_iff _

end Tunio
