import Mathlib.Data.List.Basic

/-!
Byte lists: big-endian words, slices, and memory that is written in places.
-/

namespace Octets

/-- The 16-bit word that starts at an index. -/
def word (bytes : List UInt8) (i : Nat) : UInt16 :=
  UInt16.ofNat ((bytes.getD i 0).toNat * 256 + (bytes.getD (i + 1) 0).toNat)

/-- The 32-bit word that starts at an index. -/
def long (bytes : List UInt8) (i : Nat) : UInt32 :=
  UInt32.ofNat ((word bytes i).toNat * 65536 + (word bytes (i + 2)).toNat)

def ofWord (w : UInt16) : List UInt8 := [UInt8.ofNat (w.toNat / 256), UInt8.ofNat w.toNat]

def ofLong (l : UInt32) : List UInt8 :=
  ofWord (UInt16.ofNat (l.toNat / 65536)) ++ ofWord (UInt16.ofNat l.toNat)

/-- So many bytes from an index on. -/
def slice (bytes : List UInt8) (offset len : Nat) : List UInt8 := (bytes.drop offset).take len

/-- Memory in which bytes were written from an index on. -/
def write (memory : List UInt8) (offset : Nat) (data : List UInt8) : List UInt8 :=
  memory.take offset ++ data ++ memory.drop (offset + data.length)

@[simp] theorem ofWord_length (w : UInt16) : (ofWord w).length = 2 := rfl

@[simp] theorem ofLong_length (l : UInt32) : (ofLong l).length = 4 := rfl

theorem word_pair (high low : UInt8) (rest : List UInt8) :
    (word (high :: low :: rest) 0).toNat = high.toNat * 256 + low.toNat := by
  have highBound := high.toNat_lt
  have lowBound := low.toNat_lt
  simp only [word, List.getD_cons_zero, List.getD_cons_succ, UInt16.toNat_ofNat']
  omega

theorem word_ofWord (w : UInt16) (rest : List UInt8) : word (ofWord w ++ rest) 0 = w := by
  have bound := w.toNat_lt
  apply UInt16.toNat_inj.mp
  change (word (_ :: _ :: rest) 0).toNat = _
  rw [word_pair, UInt8.toNat_ofNat', UInt8.toNat_ofNat']
  omega

/-- What is written and what was in front of it. -/
theorem word_append (front rest : List UInt8) (i : Nat) :
    word (front ++ rest) (front.length + i) = word rest i := by
  have skip (j : Nat) : (front ++ rest).getD (front.length + j) 0 = rest.getD j 0 := by
    simp [List.getElem?_append_right]
  rw [word, word, Nat.add_assoc, skip, skip]

theorem long_ofLong (l : UInt32) (rest : List UInt8) : long (ofLong l ++ rest) 0 = l := by
  have bound := l.toNat_lt
  have high : word (ofLong l ++ rest) 0 = UInt16.ofNat (l.toNat / 65536) := by
    rw [ofLong, List.append_assoc, word_ofWord]
  have low : word (ofLong l ++ rest) (0 + 2) = UInt16.ofNat l.toNat := by
    have skip := word_append (ofWord (UInt16.ofNat (l.toNat / 65536)))
      (ofWord (UInt16.ofNat l.toNat) ++ rest) 0
    rw [word_ofWord, ← List.append_assoc] at skip
    exact skip
  apply UInt32.toNat_inj.mp
  rw [long, high, low, UInt16.toNat_ofNat', UInt16.toNat_ofNat', UInt32.toNat_ofNat']
  omega

theorem slice_append (front rest : List UInt8) (offset len : Nat) :
    slice (front ++ rest) (front.length + offset) len = slice rest offset len := by
  unfold slice
  rw [List.drop_append, List.drop_eq_nil_of_le (Nat.le_add_right _ _), List.nil_append,
    Nat.add_sub_cancel_left]

theorem slice_front (front rest : List UInt8) : slice (front ++ rest) 0 front.length = front := by
  unfold slice
  rw [List.drop_zero, List.take_left]

theorem slice_length (bytes : List UInt8) {offset len : Nat} (inside : offset + len ≤ bytes.length) :
    (slice bytes offset len).length = len := by
  unfold slice
  rw [List.length_take, List.length_drop]
  omega

@[simp] theorem write_length (memory data : List UInt8) {offset : Nat}
    (inside : offset + data.length ≤ memory.length) :
    (write memory offset data).length = memory.length := by
  simp only [write, List.length_append, List.length_take, List.length_drop]
  omega

/-- What was written, and what lies behind it. -/
theorem drop_write (memory data : List UInt8) {offset : Nat} (inside : offset ≤ memory.length) :
    (write memory offset data).drop offset = data ++ memory.drop (offset + data.length) := by
  have front : (memory.take offset).length = offset := by
    rw [List.length_take]
    omega
  rw [write, List.append_assoc, List.drop_left' front]

/-- A slice that ends where the writing begins. -/
theorem slice_before (memory data : List UInt8) {offset len : Nat}
    (inside : offset + len ≤ memory.length) :
    slice (write memory (offset + len) data) offset len = slice memory offset len := by
  have front : (memory.take (offset + len)).length = offset + len := by
    rw [List.length_take]
    omega
  unfold slice write
  rw [List.append_assoc, List.drop_append_of_le_length (by omega), List.take_append_of_le_length]
  · rw [List.drop_take, Nat.add_sub_cancel_left, List.take_take, Nat.min_self]
  · rw [List.length_drop]
    omega

/-- A slice that takes in what was written behind it. -/
theorem slice_through (memory data : List UInt8) {offset len : Nat}
    (inside : offset + len ≤ memory.length) :
    slice (write memory (offset + len) data) offset (len + data.length) =
      slice memory offset len ++ data := by
  have behind := drop_write memory data inside
  have before := slice_before memory data inside
  unfold slice at before ⊢
  rw [List.take_add, before, List.drop_drop, behind, List.take_left]

theorem write_front (old rest data : List UInt8) (same : data.length = old.length) :
    write (old ++ rest) 0 data = data ++ rest := by
  rw [write, List.take_zero, List.nil_append, Nat.zero_add, same, List.drop_left]

/-- Writing behind a prefix. -/
theorem write_append (front rest data : List UInt8) (offset : Nat) :
    write (front ++ rest) (front.length + offset) data = front ++ write rest offset data := by
  have skip : (front ++ rest).drop (front.length + offset + data.length) =
      rest.drop (offset + data.length) := by
    rw [Nat.add_assoc, List.drop_append]
    simp
  have keep : (front ++ rest).take (front.length + offset) = front ++ rest.take offset := by
    rw [List.take_append, List.take_of_length_le (Nat.le_add_right _ _), Nat.add_sub_cancel_left]
  rw [write, write, keep, skip, List.append_assoc, List.append_assoc, List.append_assoc]

/-- Two writes, the second where the first ends. -/
theorem write_adjacent (memory first second : List UInt8) {offset : Nat}
    (inside : offset + first.length + second.length ≤ memory.length) :
    write (write memory offset first) (offset + first.length) second =
      write memory offset (first ++ second) := by
  have front : (memory.take offset ++ first).length = offset + first.length := by
    rw [List.length_append, List.length_take]
    omega
  have behind : write (memory.drop (offset + first.length)) 0 second =
      second ++ memory.drop (offset + first.length + second.length) := by
    rw [write, List.take_zero, List.nil_append, Nat.zero_add, List.drop_drop]
  have skip := write_append (memory.take offset ++ first) (memory.drop (offset + first.length))
    second 0
  rw [front, Nat.add_zero, behind] at skip
  rw [show write memory offset first =
    memory.take offset ++ first ++ memory.drop (offset + first.length) from rfl, skip, write,
    List.length_append, Nat.add_assoc]
  simp only [List.append_assoc]

/-- Fields written one behind the other. -/
def writeFields (memory : List UInt8) (offset : Nat) : List (List UInt8) → List UInt8
  | [] => memory
  | field :: fields => writeFields (write memory offset field) (offset + field.length) fields

theorem writeFields_eq (fields : List (List UInt8)) {memory : List UInt8} {offset : Nat}
    (inside : offset + fields.flatten.length ≤ memory.length) :
    writeFields memory offset fields = write memory offset fields.flatten := by
  induction fields generalizing memory offset with
  | nil =>
      rw [writeFields, List.flatten_nil, write, List.append_nil, List.length_nil, Nat.add_zero,
        List.take_append_drop]
  | cons field fields ih =>
      rw [List.flatten_cons, List.length_append] at inside
      have first : offset + field.length ≤ memory.length := by omega
      have rest : offset + field.length + fields.flatten.length ≤
          (write memory offset field).length := by
        rw [write_length memory field first]
        omega
      rw [writeFields, ih rest, List.flatten_cons,
        write_adjacent memory field fields.flatten (by omega)]

/-- Bytes that are written from an index on. -/
structure Patch where
  offset : Nat
  data : List UInt8
  deriving DecidableEq, Repr

namespace Patch

def stop (patch : Patch) : Nat := patch.offset + patch.data.length

end Patch

/-- Memory after some writes, the first of them first. -/
def patched (memory : List UInt8) (patches : List Patch) : List UInt8 :=
  patches.foldl (fun memory patch => write memory patch.offset patch.data) memory

@[simp] theorem patched_nil (memory : List UInt8) : patched memory [] = memory := by
  simp [patched]

@[simp] theorem patched_cons (memory : List UInt8) (patch : Patch) (patches : List Patch) :
    patched memory (patch :: patches) =
      patched (write memory patch.offset patch.data) patches := by
  simp [patched]

@[simp] theorem patched_append (memory : List UInt8) (first second : List Patch) :
    patched memory (first ++ second) = patched (patched memory first) second := by
  simp [patched]

/-- Writing over a part of the same length. -/
theorem write_over (front old rest data : List UInt8) (same : data.length = old.length) :
    write (front ++ (old ++ rest)) front.length data = front ++ (data ++ rest) := by
  have behind := write_append front (old ++ rest) data 0
  rw [Nat.add_zero, write_front old rest data same] at behind
  exact behind

/-- Filling memory from its start. -/
theorem write_start (memory data : List UInt8) :
    write memory 0 data = data ++ memory.drop data.length := by
  rw [write, List.take_zero, List.nil_append, Nat.zero_add]

/-! What stands behind some bytes does not change how they read. -/

section

variable (front rest : List UInt8)

theorem byte_front {i : Nat} (inside : i < front.length) :
    (front ++ rest).getD i 0 = front.getD i 0 := by
  rw [List.getD_eq_getElem?_getD, List.getElem?_append_left inside, ← List.getD_eq_getElem?_getD]

theorem word_front {i : Nat} (inside : i + 2 ≤ front.length) :
    word (front ++ rest) i = word front i := by
  unfold word
  rw [byte_front front rest (by omega), byte_front front rest (by omega)]

theorem long_front {i : Nat} (inside : i + 4 ≤ front.length) :
    long (front ++ rest) i = long front i := by
  unfold long
  rw [word_front front rest (by omega), word_front front rest (by omega)]

theorem slice_inside {offset len : Nat} (inside : offset + len ≤ front.length) :
    slice (front ++ rest) offset len = slice front offset len := by
  unfold slice
  rw [List.drop_append_of_le_length (by omega), List.take_append_of_le_length]
  rw [List.length_drop]
  omega

end

end Octets
