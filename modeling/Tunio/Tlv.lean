import Tunio.Octets

/-!
Options as bytes: a kind, a length that counts kind and length byte, a value.  One kind ends the
options and one is a byte of padding; a length that does not fit ends them too.
-/

namespace Tlv

open Octets

structure Record where
  kind : UInt8
  value : List UInt8
  deriving DecidableEq, Repr

/-- The byte at an index is the kind of a record. -/
structure Opens (bytes : List UInt8) (ends pad : UInt8) (i : Nat) (kind : UInt8) : Prop where
  byte : bytes[i]? = some kind
  more : kind ≠ ends
  real : kind ≠ pad

/-- The records that are reached from an index on. -/
inductive Walk (bytes : List UInt8) (ends pad : UInt8) : Nat → List Record → Prop
  | beyond (i : Nat) (outside : bytes.length ≤ i) : Walk bytes ends pad i []
  | ended (i : Nat) (byte : bytes[i]? = some ends) : Walk bytes ends pad i []
  | padding (i : Nat) (records : List Record) (byte : bytes[i]? = some pad) (more : pad ≠ ends)
      (rest : Walk bytes ends pad (i + 1) records) : Walk bytes ends pad i records
  | cut (i : Nat) (kind : UInt8) (opens : Opens bytes ends pad i kind)
      (last : bytes.length = i + 1) : Walk bytes ends pad i []
  | malformed (i : Nat) (kind len : UInt8) (opens : Opens bytes ends pad i kind)
      (length : bytes[i + 1]? = some len) (unfit : len.toNat < 2 ∨ bytes.length < i + len.toNat) :
      Walk bytes ends pad i []
  | record (i : Nat) (kind len : UInt8) (records : List Record)
      (opens : Opens bytes ends pad i kind) (length : bytes[i + 1]? = some len)
      (least : 2 ≤ len.toNat) (fits : i + len.toNat ≤ bytes.length)
      (rest : Walk bytes ends pad (i + len.toNat) records) :
      Walk bytes ends pad i (⟨kind, slice bytes (i + 2) (len.toNat - 2)⟩ :: records)

variable {bytes : List UInt8} {ends pad : UInt8} {i : Nat}

theorem Opens.inside {kind : UInt8} (opens : Opens bytes ends pad i kind) : i < bytes.length :=
  (List.getElem?_eq_some_iff.mp opens.byte).1

theorem Opens.same {kind other : UInt8} (opens : Opens bytes ends pad i kind)
    (again : Opens bytes ends pad i other) : kind = other := by
  have byte := opens.byte.symm.trans again.byte
  exact Option.some.inj byte

/-- The bytes say which records there are. -/
theorem Walk.unique {first second : List Record} (walk : Walk bytes ends pad i first)
    (other : Walk bytes ends pad i second) : first = second := by
  induction walk generalizing second with
  | beyond i outside =>
      cases other with
      | beyond | ended | cut | malformed => rfl
      | padding _ _ byte => have inside := (List.getElem?_eq_some_iff.mp byte).1; omega
      | record _ _ _ _ opens => have inside := opens.inside; omega
  | ended i byte =>
      cases other with
      | beyond | ended | cut | malformed => rfl
      | padding _ _ pads more => exact absurd (Option.some.inj (pads.symm.trans byte)) more
      | record _ _ _ _ opens => exact absurd (Option.some.inj (opens.byte.symm.trans byte)) opens.more
  | padding i records byte more rest ih =>
      cases other with
      | beyond _ outside => have inside := (List.getElem?_eq_some_iff.mp byte).1; omega
      | ended _ stops => exact absurd (Option.some.inj (byte.symm.trans stops)) more
      | padding _ _ _ _ again => exact ih again
      | cut _ _ opens => exact absurd (Option.some.inj (opens.byte.symm.trans byte)) opens.real
      | malformed _ _ _ opens => exact absurd (Option.some.inj (opens.byte.symm.trans byte)) opens.real
      | record _ _ _ _ opens => exact absurd (Option.some.inj (opens.byte.symm.trans byte)) opens.real
  | cut i kind opens last =>
      cases other with
      | beyond | ended | cut | malformed => rfl
      | padding _ _ byte => exact absurd (Option.some.inj (opens.byte.symm.trans byte)) opens.real
      | record _ _ _ _ _ length => have inside := (List.getElem?_eq_some_iff.mp length).1; omega
  | malformed i kind len opens length unfit =>
      cases other with
      | beyond | ended | cut | malformed => rfl
      | padding _ _ byte => exact absurd (Option.some.inj (opens.byte.symm.trans byte)) opens.real
      | record _ _ _ _ _ again least fits =>
          cases length.symm.trans again
          omega
  | record i kind len records opens length least fits rest ih =>
      cases other with
      | beyond _ outside => have inside := opens.inside; omega
      | ended _ byte => exact absurd (Option.some.inj (opens.byte.symm.trans byte)) opens.more
      | padding _ _ byte => exact absurd (Option.some.inj (opens.byte.symm.trans byte)) opens.real
      | cut _ _ _ last => have inside := (List.getElem?_eq_some_iff.mp length).1; omega
      | malformed _ _ _ _ again unfit =>
          cases length.symm.trans again
          omega
      | record _ _ _ _ again sized _ _ further =>
          cases opens.same again
          cases length.symm.trans sized
          rw [ih further]

end Tlv
