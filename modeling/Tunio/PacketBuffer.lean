import Mathlib.Data.List.Basic

/-!
The packet buffer (`packet_buffer.hpp`): a block of memory with room for headers in front of
the packet.  The code never moves the start of the packet away from the end of that room.
-/

namespace Tunio

structure PacketBuffer where
  storage : List UInt8
  headroom : Nat
  size : Nat
  room : headroom < storage.length
  fits : headroom + size ≤ storage.length
  deriving DecidableEq

namespace PacketBuffer

/-- A buffer in memory as the allocator hands it out; `none` when the constructor throws. -/
def new (memory : List UInt8) (headroom : Nat) : Option PacketBuffer :=
  if room : headroom < memory.length then
    some { storage := memory, headroom := headroom, size := 0, room := room
           fits := Nat.le_of_lt room }
  else none

def capacity (buf : PacketBuffer) : Nat := buf.storage.length

/-- What `data()` and `size()` give access to. -/
def bytes (buf : PacketBuffer) : List UInt8 := (buf.storage.drop buf.headroom).take buf.size

def writableSize (buf : PacketBuffer) : Nat := buf.capacity - buf.headroom - buf.size

def reset (buf : PacketBuffer) : PacketBuffer :=
  { buf with size := 0, fits := Nat.le_of_lt buf.room }

/-- `none` when the code throws. -/
def commit (buf : PacketBuffer) (len : Nat) : Option PacketBuffer :=
  if fits : len ≤ buf.writableSize then
    some { buf with
      size := buf.size + len
      fits := by
        have inside := buf.fits
        unfold writableSize capacity at fits
        omega }
  else none

/-- `none` when the code throws. -/
def resize (buf : PacketBuffer) (len : Nat) : Option PacketBuffer :=
  if fits : len ≤ buf.capacity - buf.headroom then
    some { buf with
      size := len
      fits := by
        have inside := buf.room
        unfold capacity at fits
        omega }
  else none

@[simp] theorem bytes_length (buf : PacketBuffer) : buf.bytes.length = buf.size := by
  have inside := buf.fits
  unfold bytes
  rw [List.length_take, List.length_drop]
  omega

theorem resize_eq_some {buf resized : PacketBuffer} {len : Nat} (done : buf.resize len = some resized) :
    len ≤ buf.capacity - buf.headroom ∧ resized.storage = buf.storage ∧
      resized.headroom = buf.headroom ∧ resized.size = len := by
  unfold resize at done
  split at done
  · rename_i fits
    cases done
    exact ⟨fits, rfl, rfl, rfl⟩
  · cases done

end PacketBuffer

end Tunio
