import Mathlib.Algebra.BigOperators.Group.List.Basic
import Mathlib.Data.List.Perm.Basic
import Mathlib.Logic.Function.Iterate
import Tunio.QueueWriter
import Tunio.TunioImpl

/-!
The read slots of an engine over a Wintun device (`recv_poll_loop` of `tun_device_wintun.hpp` with
`on_read` of `tunio.cpp`).  All slots poll through one timer, `recv_timer_`; a slot that finds the
ring empty sets the timer anew, which cancels the waits of the others.
-/

namespace Tunio

/-- What waits for an executor: the posted body of `async_read`, the handler of the timer, and the
completion of a read. -/
inductive PollTask
  | poll (slot : Nat)
  | retry (slot : Nat) (ec : IoCode)
  | done (slot : Nat) (ec : IoCode)
  deriving DecidableEq, Repr

def PollTask.slot : PollTask → Nat
  | .poll slot => slot
  | .retry slot _ => slot
  | .done slot _ => slot

/-- What is still to be done for a task of a closed engine. -/
def PollTask.rounds : PollTask → Nat
  | .poll _ => 2
  | .retry _ _ => 2
  | .done _ _ => 1

/-- What `recv_one` of an open device returns: a packet, nothing, or an error. -/
inductive RingAnswer
  | packet
  | empty
  | error (code : Nat)
  deriving DecidableEq, Repr

/-- `isOpen` is the engine's flag, `opened` the device's. -/
structure PollPump where
  isOpen : Bool := true
  opened : Bool := true
  waiting : List Nat := []
  tasks : List PollTask := []
  deriving DecidableEq, Repr

namespace PollPump

def post (s : PollPump) (task : PollTask) : PollPump := { s with tasks := s.tasks ++ [task] }

/-- The waits on the timer are cancelled. -/
def cancelTimer (s : PollPump) : PollPump :=
  { s with waiting := [], tasks := s.tasks ++ s.waiting.map fun slot => .retry slot .operationAborted }

/-- `recv_poll_loop` for a slot. -/
def recvPollLoop (s : PollPump) (slot : Nat) (answer : RingAnswer) : PollPump :=
  if !s.opened then s.post (.done slot .operationAborted)
  else
    match answer with
    | .packet => s.post (.done slot .success)
    | .error code => s.post (.done slot (.other code))
    | .empty =>
        let s := s.cancelTimer
        { s with waiting := s.waiting ++ [slot] }

/-- `close` of the engine, with the device. -/
def close (s : PollPump) : PollPump :=
  if s.isOpen then { s with isOpen := false, opened := false }.cancelTimer else s

/-- `on_read`, up to and including the start of the slot's next read. -/
def onRead (s : PollPump) (slot : Nat) (ec : IoCode) : PollPump :=
  if !s.isOpen then s
  else
    let s := if ec ≠ .success ∧ ec ≠ .operationAborted then s.close else s
    if s.isOpen then s.post (.poll slot) else s

def perform (s : PollPump) (answer : RingAnswer) : PollTask → PollPump
  | .poll slot => s.recvPollLoop slot answer
  | .retry slot ec =>
      if ec ≠ .success then s.post (.done slot ec)
      else if !s.opened then s.post (.done slot .operationAborted)
      else s.recvPollLoop slot answer
  | .done slot ec => s.onRead slot ec

/-- The timer runs out. -/
def timerFires (s : PollPump) : PollPump :=
  { s with waiting := [], tasks := s.tasks ++ s.waiting.map fun slot => .retry slot .success }

/-- The device and the engine have an executor each, and the tasks of the two run in any order. -/
inductive Move
  | perform (position : Nat) (answer : RingAnswer)
  | timerFires
  | close
  deriving DecidableEq, Repr

def step (s : PollPump) : Move → PollPump
  | .perform position answer =>
      match s.tasks[position]? with
      | none => s
      | some task => { s with tasks := s.tasks.eraseIdx position }.perform answer task
  | .timerFires => s.timerFires
  | .close => s.close

def run (s : PollPump) (moves : List Move) : PollPump := moves.foldl step s

/-- `start_read` has asked for a read of every slot. -/
def started (slots : Nat) : PollPump := { tasks := (List.range slots).map .poll }

/-- The slots, by where they are. -/
def places (s : PollPump) : List Nat := s.tasks.map PollTask.slot ++ s.waiting

/-- At most one slot has the timer, and the device is closed with the engine. -/
structure Tuned (s : PollPump) : Prop where
  single : s.waiting.length ≤ 1
  opened : s.opened = s.isOpen
  closed : s.isOpen = false → s.waiting = []

variable {s : PollPump}

/-! Where the slots go. -/

theorem post_places (s : PollPump) (task : PollTask) :
    (s.post task).places.Perm (task.slot :: s.places) := by
  unfold places post
  rw [List.map_append, List.append_assoc]
  exact List.perm_middle

theorem moved_places (s : PollPump) (ec : IoCode) :
    ({ s with
      waiting := []
      tasks := s.tasks ++ s.waiting.map fun slot => .retry slot ec } : PollPump).places = s.places := by
  simp [places, Function.comp_def, PollTask.slot]

theorem cancelTimer_places (s : PollPump) : s.cancelTimer.places = s.places :=
  s.moved_places .operationAborted

theorem close_places (s : PollPump) : s.close.places = s.places := by
  unfold close
  split
  · exact cancelTimer_places _
  · rfl

theorem recvPollLoop_places (s : PollPump) (slot : Nat) (answer : RingAnswer) :
    (s.recvPollLoop slot answer).places.Perm (slot :: s.places) := by
  unfold recvPollLoop
  split
  · exact s.post_places _
  cases answer with
  | packet => exact s.post_places _
  | error code => exact s.post_places _
  | empty =>
      have kept := s.cancelTimer_places
      unfold places at kept ⊢
      dsimp only
      rw [← List.append_assoc, kept]
      exact List.perm_append_singleton slot _

theorem close_isOpen (s : PollPump) : s.close.isOpen = false := by
  unfold close
  split
  · rfl
  · rename_i shut
    exact Bool.eq_false_iff.mpr shut

theorem onRead_shut (shut : s.isOpen = false) (slot : Nat) (ec : IoCode) : s.onRead slot ec = s := by
  unfold onRead
  rw [shut]
  rfl

theorem onRead_fails {slot : Nat} {ec : IoCode} (failure : ec ≠ .success ∧ ec ≠ .operationAborted)
    (isOpen : s.isOpen = true) : s.onRead slot ec = s.close := by
  unfold onRead
  dsimp only
  rw [isOpen, if_pos failure, close_isOpen]
  rfl

theorem onRead_again {slot : Nat} {ec : IoCode} (fine : ¬(ec ≠ .success ∧ ec ≠ .operationAborted))
    (isOpen : s.isOpen = true) : s.onRead slot ec = s.post (.poll slot) := by
  unfold onRead
  dsimp only
  rw [isOpen, if_neg fine, isOpen]
  rfl

/-- While the engine stays open, a slot whose read has ended is read again. -/
theorem onRead_places (s : PollPump) (slot : Nat) (ec : IoCode)
    (still : (s.onRead slot ec).isOpen = true) : (s.onRead slot ec).places.Perm (slot :: s.places) := by
  cases isOpen : s.isOpen with
  | false =>
      rw [onRead_shut isOpen, isOpen] at still
      cases still
  | true =>
      by_cases failure : ec ≠ .success ∧ ec ≠ .operationAborted
      · rw [onRead_fails failure isOpen, close_isOpen] at still
        cases still
      · rw [onRead_again failure isOpen]
        exact s.post_places _

/-! What the operations keep. -/

namespace Tuned

theorem post (tuned : Tuned s) (task : PollTask) : Tuned (s.post task) :=
  ⟨tuned.single, tuned.opened, tuned.closed⟩

theorem taken (tuned : Tuned s) (position : Nat) :
    Tuned { s with tasks := s.tasks.eraseIdx position } :=
  ⟨tuned.single, tuned.opened, tuned.closed⟩

theorem close (tuned : Tuned s) : Tuned s.close := by
  unfold PollPump.close
  split
  · exact ⟨Nat.zero_le 1, rfl, fun _ => rfl⟩
  · exact tuned

theorem timerFires (tuned : Tuned s) : Tuned s.timerFires :=
  ⟨Nat.zero_le 1, tuned.opened, fun _ => rfl⟩

/-- A slot that sets the timer is the only one that waits for it. -/
theorem recvPollLoop (tuned : Tuned s) (slot : Nat) (answer : RingAnswer) :
    Tuned (s.recvPollLoop slot answer) := by
  unfold PollPump.recvPollLoop
  cases opened : s.opened with
  | false => exact tuned.post _
  | true =>
      have isOpen : s.isOpen = true := tuned.opened ▸ opened
      cases answer with
      | packet => exact tuned.post _
      | error code => exact tuned.post _
      | empty =>
          refine ⟨Nat.le_refl 1, tuned.opened, ?_⟩
          intro shut
          exact absurd (isOpen.symm.trans shut) (by decide)

theorem onRead (tuned : Tuned s) (slot : Nat) (ec : IoCode) : Tuned (s.onRead slot ec) := by
  unfold PollPump.onRead
  split
  · exact tuned
  · dsimp only
    split
    · split
      · exact tuned.close.post _
      · exact tuned.close
    · split
      · exact tuned.post _
      · exact tuned

theorem perform (tuned : Tuned s) (answer : RingAnswer) (task : PollTask) :
    Tuned (s.perform answer task) := by
  cases task with
  | poll slot => exact tuned.recvPollLoop slot answer
  | retry slot ec =>
      unfold PollPump.perform
      dsimp only
      split
      · exact tuned.post _
      · split
        · exact tuned.post _
        · exact tuned.recvPollLoop slot answer
  | done slot ec => exact tuned.onRead slot ec

theorem step (tuned : Tuned s) (move : Move) : Tuned (s.step move) := by
  cases move with
  | perform position answer =>
      unfold PollPump.step
      dsimp only
      split
      · exact tuned
      · exact (tuned.taken position).perform answer _
  | timerFires => exact tuned.timerFires
  | close => exact tuned.close

end Tuned

theorem perform_places (s : PollPump) (answer : RingAnswer) (task : PollTask)
    (still : (s.perform answer task).isOpen = true) :
    (s.perform answer task).places.Perm (task.slot :: s.places) := by
  cases task with
  | poll slot => exact s.recvPollLoop_places slot answer
  | retry slot ec =>
      unfold perform
      dsimp only
      split
      · exact s.post_places _
      · split
        · exact s.post_places _
        · exact s.recvPollLoop_places slot answer
  | done slot ec => exact s.onRead_places slot ec still

/-- A step of an engine that stays open moves one slot, or the waiting ones, and loses none. -/
theorem step_places (move : Move) (still : (s.step move).isOpen = true) :
    (s.step move).places.Perm s.places := by
  cases move with
  | perform position answer =>
      unfold step at still ⊢
      dsimp only at still ⊢
      cases found : s.tasks[position]? with
      | none => rfl
      | some task =>
          rw [found] at still
          obtain ⟨bound, rfl⟩ := List.getElem?_eq_some_iff.mp found
          refine (perform_places _ answer _ still).trans ?_
          unfold places
          rw [← List.cons_append, ← List.map_cons]
          exact ((List.getElem_cons_eraseIdx_perm bound).map PollTask.slot).append_right _
  | timerFires => exact List.Perm.of_eq (s.moved_places .success)
  | close => exact List.Perm.of_eq s.close_places

theorem recvPollLoop_isOpen (s : PollPump) (slot : Nat) (answer : RingAnswer) :
    (s.recvPollLoop slot answer).isOpen = s.isOpen := by
  unfold recvPollLoop
  split
  · rfl
  · cases answer <;> rfl

theorem perform_shut (s : PollPump) (shut : s.isOpen = false) (answer : RingAnswer) (task : PollTask) :
    (s.perform answer task).isOpen = false := by
  cases task with
  | poll slot => exact (s.recvPollLoop_isOpen slot answer).trans shut
  | retry slot ec =>
      unfold perform
      dsimp only
      split
      · exact shut
      · split
        · exact shut
        · exact (s.recvPollLoop_isOpen slot answer).trans shut
  | done slot ec =>
      exact (congrArg isOpen (onRead_shut shut slot ec)).trans shut

/-- An engine that is closed stays closed. -/
theorem step_shut (move : Move) (shut : s.isOpen = false) : (s.step move).isOpen = false := by
  cases move with
  | perform position answer =>
      unfold step
      dsimp only
      split
      · exact shut
      · exact perform_shut { s with tasks := s.tasks.eraseIdx position } shut answer _
  | timerFires => exact shut
  | close => exact s.close_isOpen

theorem started_places (slots : Nat) : (started slots).places = List.range slots := by
  simp [places, started, Function.comp_def, PollTask.slot]

theorem run_tuned (slots : Nat) (moves : List Move) :
    Tuned (run (started slots) moves) ∧
      ((run (started slots) moves).isOpen = true →
        (run (started slots) moves).places.Perm (List.range slots)) := by
  have walk (s : PollPump) (tuned : Tuned s)
      (all : s.isOpen = true → s.places.Perm (List.range slots)) :
      Tuned (run s moves) ∧
        ((run s moves).isOpen = true → (run s moves).places.Perm (List.range slots)) := by
    induction moves generalizing s with
    | nil => exact ⟨tuned, all⟩
    | cons move rest ih =>
        refine ih (s.step move) (tuned.step move) ?_
        intro still
        cases isOpen : s.isOpen with
        | false => exact absurd (still.symm.trans (step_shut move isOpen)) (by decide)
        | true => exact (step_places move still).trans (all isOpen)
  refine walk _ ⟨Nat.zero_le 1, rfl, fun _ => rfl⟩ ?_
  intro _
  rw [started_places]

/-! After a close the slots come to rest. -/

def rounds (s : PollPump) : Nat := (s.tasks.map PollTask.rounds).sum

/-- The executors run the first task. -/
def next (answer : RingAnswer) (s : PollPump) : PollPump := s.step (.perform 0 answer)

theorem perform_closed (s : PollPump) (shut : s.isOpen = false) (down : s.opened = false) (answer : RingAnswer)
    (task : PollTask) : (s.perform answer task).rounds + 1 = s.rounds + task.rounds := by
  have posted (slot : Nat) (ec : IoCode) : (s.post (.done slot ec)).rounds = s.rounds + 1 := by
    simp [rounds, post, PollTask.rounds]
  cases task with
  | poll slot =>
      have aborted : s.perform answer (.poll slot) = s.post (.done slot .operationAborted) := by
        simp [perform, recvPollLoop, down]
      rw [aborted, posted]
      rfl
  | retry slot ec =>
      have ended : ∃ ec', s.perform answer (.retry slot ec) = s.post (.done slot ec') := by
        unfold perform
        dsimp only
        split
        · exact ⟨ec, rfl⟩
        · rw [down]
          exact ⟨.operationAborted, rfl⟩
      obtain ⟨ec', ended⟩ := ended
      rw [ended, posted]
      rfl
  | done slot ec =>
      have ignored : s.perform answer (.done slot ec) = s := onRead_shut shut slot ec
      rw [ignored]
      rfl

theorem next_rounds (shut : s.isOpen = false) (down : s.opened = false) (answer : RingAnswer) :
    (s.next answer).rounds = s.rounds - 1 := by
  cases tasks : s.tasks with
  | nil =>
      have same : s.next answer = s := by simp [next, step, tasks]
      rw [same]
      simp [rounds, tasks]
  | cons task rest =>
      have taken : s.next answer = ({ s with tasks := rest } : PollPump).perform answer task := by
        simp [next, step, tasks]
      have less := perform_closed { s with tasks := rest } shut down answer task
      have total : s.rounds = ({ s with tasks := rest } : PollPump).rounds + task.rounds := by
        simp [rounds, tasks, Nat.add_comm]
      rw [taken]
      omega

theorem rounds_le (tasks : List PollTask) : (tasks.map PollTask.rounds).sum ≤ 2 * tasks.length := by
  induction tasks with
  | nil => exact Nat.le_refl 0
  | cons task rest ih =>
      rw [List.map_cons, List.sum_cons, List.length_cons]
      have most : task.rounds ≤ 2 := by cases task <;> simp [PollTask.rounds]
      omega

theorem rounds_zero (none : s.rounds = 0) : s.tasks = [] := by
  unfold rounds at none
  cases tasks : s.tasks with
  | nil => rfl
  | cons task rest =>
      rw [tasks, List.map_cons, List.sum_cons] at none
      cases task <;> simp [PollTask.rounds] at none

theorem drained (tuned : Tuned s) (shut : s.isOpen = false) (answer : RingAnswer) (count : Nat) :
    let s' := (next answer)^[count] s
    Tuned s' ∧ s'.isOpen = false ∧ s'.rounds = s.rounds - count := by
  induction count generalizing s with
  | zero => exact ⟨tuned, shut, rfl⟩
  | succ count ih =>
      rw [Function.iterate_succ_apply]
      have less := next_rounds shut (tuned.opened.trans shut) answer
      have rest := ih (tuned.step (.perform 0 answer)) (step_shut (.perform 0 answer) shut)
      refine ⟨rest.1, rest.2.1, rest.2.2.trans ?_⟩
      show (s.next answer).rounds - count = _
      rw [less]
      omega

end PollPump

end Tunio
