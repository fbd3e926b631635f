import Tunio.Run
import Tunio.Tlv

/-!
The options of a SYN (`parse_syn_wscale`).  The loop is followed round by round with every read
in sight, and what it finds is compared with the grammar of the options.
-/

namespace Tunio

open Octets Tlv

/-! The rounds of the loop. -/

/-- The end of the loop, or what the next round starts with. -/
inductive ScaleRound
  | stop
  | next (o : Nat) (found : UInt8 × Bool)
  deriving DecidableEq, Repr

/-- One round over a header; `none` when it reads behind the end of the header. -/
def scaleRound (header : List UInt8) (o : Nat) (found : UInt8 × Bool) : Option ScaleRound :=
  if o + 2 ≤ header.length then do
    let kind ← header[o]?
    if kind = 0 then return .stop
    if kind = 1 then return .next (o + 1) found
    let olen ← header[o + 1]?
    if olen < 2 ∨ o + olen.toNat > header.length then return .stop
    if kind = 3 ∧ olen = 3 then
      let shift ← header[o + 2]?
      return .next (o + olen.toNat) (if shift ≤ 14 then (shift, true) else found)
    return .next (o + olen.toNat) found
  else some .stop

/-- So many rounds end the loop with a result, and every byte they read is one of the header. -/
inductive Rounds (header : List UInt8) :
    Nat → UInt8 × Bool → Nat → UInt8 × Bool → Prop
  | stop (o : Nat) (found : UInt8 × Bool) (ends : scaleRound header o found = some .stop) :
      Rounds header o found 0 found
  | next (o later count : Nat) (found taken result : UInt8 × Bool)
      (goes : scaleRound header o found = some (.next later taken))
      (rest : Rounds header later taken count result) : Rounds header o found (count + 1) result

/-! The grammar. -/

/-- Kind 0 ends the options and kind 1 is a byte of padding. -/
abbrev Options (header : List UInt8) (o : Nat) (options : List Record) : Prop :=
  Walk header 0 1 o options

/-- A window scale option with a value that may be used. -/
def usableScale (option : Record) : Option UInt8 :=
  match option.value with
  | [shift] => if option.kind = 3 ∧ shift ≤ 14 then some shift else none
  | _ => none

/-- What the options say of the window scale: the last one that can be used counts. -/
structure Scaled (options : List Record) (wscale : UInt8) (wscaleOk : Bool) : Prop where
  ok : wscaleOk = true ↔ ∃ option ∈ options, (usableScale option).isSome = true
  last : wscale = (options.filterMap usableScale).getLast?.getD 0

def takeScale (found : UInt8 × Bool) (option : Record) : UInt8 × Bool :=
  match usableScale option with
  | some shift => (shift, true)
  | none => found

theorem foldl_takeScale (options : List Record) (found : UInt8 × Bool) :
    options.foldl takeScale found =
      ((options.filterMap usableScale).getLast?.getD found.1,
        found.2 || (options.filterMap usableScale).getLast?.isSome) := by
  induction options generalizing found with
  | nil => simp
  | cons option options ih =>
      rw [List.foldl_cons, ih, List.filterMap_cons]
      unfold takeScale
      cases usable : usableScale option with
      | none => rfl
      | some shift =>
          dsimp only
          rw [List.getLast?_cons]
          simp

theorem scaled_foldl (options : List Record) :
    Scaled options (options.foldl takeScale (0, false)).1
      (options.foldl takeScale (0, false)).2 := by
  rw [foldl_takeScale]
  refine ⟨?_, rfl⟩
  rw [Bool.false_or, List.getLast?_isSome]
  constructor
  · intro some_
    obtain ⟨shift, found⟩ := List.exists_mem_of_ne_nil _ some_
    obtain ⟨option, member, usable⟩ := List.mem_filterMap.mp found
    exact ⟨option, member, by rw [usable]; rfl⟩
  · rintro ⟨option, member, usable⟩
    obtain ⟨shift, here⟩ := Option.isSome_iff_exists.mp usable
    exact List.ne_nil_of_mem (List.mem_filterMap.mpr ⟨option, member, here⟩)

/-! The loop. -/

section

variable (header rest : List UInt8)

theorem header_byte {i : Nat} (inside : i < header.length) :
    header[i]? = some ((header ++ rest).getD i 0) := by
  rw [Octets.byte_front header rest inside, List.getD_eq_getElem?_getD,
    List.getElem?_eq_getElem inside, Option.getD_some]

/-- A record of three bytes may be a window scale. -/
theorem usableScale_record (kind : UInt8) {olen : UInt8} {o : Nat} (least : 2 ≤ olen.toNat)
    (fits : o + olen.toNat ≤ header.length) :
    usableScale ⟨kind, slice header (o + 2) (olen.toNat - 2)⟩ =
      if kind = 3 ∧ olen = 3 ∧ (header ++ rest).getD (o + 2) 0 ≤ 14 then
        some ((header ++ rest).getD (o + 2) 0)
      else none := by
  by_cases three : olen = 3
  · subst three
    have inside : o + 2 < header.length := by
      change o + 3 ≤ header.length at fits
      omega
    have byte : slice header (o + 2) ((3 : UInt8).toNat - 2) = [(header ++ rest).getD (o + 2) 0] := by
      have here := header_byte header rest inside
      rw [List.getElem?_eq_getElem inside, Option.some_inj] at here
      change (header.drop (o + 2)).take 1 = _
      rw [List.drop_eq_getElem_cons inside, List.take_succ_cons, List.take_zero, here]
    rw [byte]
    unfold usableScale
    simp
  · have length := slice_length header (show o + 2 + (olen.toNat - 2) ≤ header.length by omega)
    rw [if_neg (fun all => three all.2.1)]
    unfold usableScale
    split
    · rename_i shift value
      change slice header (o + 2) (olen.toNat - 2) = [shift] at value
      rw [value] at length
      exfalso
      apply three
      apply UInt8.toNat_inj.mp
      change olen.toNat = 3
      simp only [List.length_singleton] at length
      omega
    · rfl

theorem takeScale_record (kind : UInt8) {olen : UInt8} {o : Nat} (found : UInt8 × Bool)
    (least : 2 ≤ olen.toNat) (fits : o + olen.toNat ≤ header.length) :
    (if kind = 3 ∧ olen = 3 ∧ (header ++ rest).getD (o + 2) 0 ≤ 14 then
      ((header ++ rest).getD (o + 2) 0, true) else found) =
        takeScale found ⟨kind, slice header (o + 2) (olen.toNat - 2)⟩ := by
  unfold takeScale
  rw [usableScale_record header rest kind least fits]
  split <;> rfl

/-- A round that goes on behind a record. -/
theorem scaleRound_record {kind olen : UInt8} {o : Nat} (opens : Opens header 0 1 o kind)
    (olenAt : header[o + 1]? = some olen) (found : UInt8 × Bool) (least : 2 ≤ olen.toNat)
    (fits : o + olen.toNat ≤ header.length) :
    scaleRound header o found = some (.next (o + olen.toNat)
      (takeScale found ⟨kind, slice header (o + 2) (olen.toNat - 2)⟩)) := by
  have fit : ¬(olen < 2 ∨ o + olen.toNat > header.length) := by
    rintro (small | large)
    · have less : olen.toNat < 2 := UInt8.lt_iff_toNat_lt.mp small
      omega
    · omega
  unfold scaleRound
  rw [if_pos (by omega), ← takeScale_record header [] kind found least fits]
  by_cases scale : kind = 3 ∧ olen = 3
  · obtain ⟨rfl, rfl⟩ := scale
    have inside : o + 3 ≤ header.length := fits
    have shiftAt := header_byte header [] (show o + 2 < header.length by omega)
    generalize (header ++ []).getD (o + 2) 0 = shift at shiftAt ⊢
    simp [opens.byte, olenAt, shiftAt, inside]
  · have other : ¬(kind = 3 ∧ olen = 3 ∧ (header ++ []).getD (o + 2) 0 ≤ 14) :=
      fun all => scale ⟨all.1, all.2.1⟩
    rw [if_neg other]
    simp [opens.byte, opens.more, opens.real, olenAt, fit, scale]

/-- What is left of the header when no round is possible. -/
theorem options_nil {o : Nat} (last : header.length < o + 2) : Options header o [] := by
  by_cases outside : header.length ≤ o
  · exact .beyond o outside
  · have inside : o < header.length := by omega
    have byte := List.getElem?_eq_getElem inside
    by_cases ends : header[o] = 0
    · exact .ended o (by rw [byte, ends])
    · by_cases pad : header[o] = 1
      · exact .padding o [] (by rw [byte, pad]) (by decide) (.beyond (o + 1) (by omega))
      · exact .cut o header[o] ⟨byte, ends, pad⟩ (by omega)

theorem parseSynWscaleFrom_rounds (fuel o : Nat) (found : UInt8 × Bool)
    (enough : header.length ≤ o + fuel) :
    ∃ count options, count ≤ header.length - o ∧ Options header o options ∧
      parseSynWscaleFrom (header ++ rest) header.length fuel o found =
        options.foldl takeScale found ∧
      Rounds header o found count
        (parseSynWscaleFrom (header ++ rest) header.length fuel o found) := by
  have stops (o : Nat) (found : UInt8 × Bool) (last : header.length < o + 2) :
      Rounds header o found 0 found := .stop o found (if_neg (by omega))
  induction fuel generalizing o found with
  | zero => exact ⟨0, [], Nat.zero_le _, .beyond o enough, rfl, stops o found (by omega)⟩
  | succ fuel ih =>
      by_cases room : o + 2 ≤ header.length
      case neg =>
        have same : parseSynWscaleFrom (header ++ rest) header.length (fuel + 1) o found = found := by
          unfold parseSynWscaleFrom
          exact if_neg fun both => room both.1
        rw [same]
        exact ⟨0, [], Nat.zero_le _, options_nil header (by omega), rfl, stops o found (by omega)⟩
      have kindAt := header_byte header rest (show o < header.length by omega)
      have olenAt := header_byte header rest (show o + 1 < header.length by omega)
      unfold parseSynWscaleFrom
      generalize (header ++ rest).getD o 0 = kind at kindAt ⊢
      generalize (header ++ rest).getD (o + 1) 0 = olen at olenAt ⊢
      by_cases ends : kind = 0
      · rw [if_neg (fun both => both.2 ends)]
        refine ⟨0, [], Nat.zero_le _, .ended o (by rw [kindAt, ends]), rfl, .stop o found ?_⟩
        simp [scaleRound, room, kindAt, ends]
      rw [if_pos ⟨room, ends⟩]
      by_cases pad : kind = 1
      · rw [if_pos pad]
        obtain ⟨count, options, bound, walk, result, rounds⟩ := ih (o + 1) found (by omega)
        refine ⟨count + 1, options, by omega, .padding o options (by rw [kindAt, pad]) (by decide)
          walk, result, .next o (o + 1) count found found _ ?_ rounds⟩
        simp [scaleRound, room, kindAt, pad]
      rw [if_neg pad]
      dsimp only
      have opens : Opens header 0 1 o kind := ⟨kindAt, ends, pad⟩
      by_cases unfit : olen < 2 ∨ o + olen.toNat > header.length
      · rw [if_pos unfit]
        refine ⟨0, [], Nat.zero_le _, .malformed o kind olen opens olenAt ?_, rfl, .stop o found ?_⟩
        · exact unfit.imp_left UInt8.lt_iff_toNat_lt.mp
        · simp [scaleRound, room, kindAt, ends, pad, olenAt, unfit]
      rw [if_neg unfit]
      have least : 2 ≤ olen.toNat := by
        have small := fun less => unfit (Or.inl (UInt8.lt_iff_toNat_lt.mpr less))
        exact Nat.not_lt.mp small
      have fits : o + olen.toNat ≤ header.length := by
        rw [not_or] at unfit
        omega
      rw [takeScale_record header rest kind found least fits]
      obtain ⟨count, options, bound, walk, result, rounds⟩ := ih (o + olen.toNat)
        (takeScale found ⟨kind, slice header (o + 2) (olen.toNat - 2)⟩) (by omega)
      exact ⟨count + 1, _, by omega, .record o kind olen options opens olenAt least fits walk, result,
        .next o (o + olen.toNat) count found _ _
          (scaleRound_record header opens olenAt found least fits) rounds⟩

end

/-- On every header the loop ends, reads nothing behind the header, and finds what the options
say. -/
theorem parseSynWscale_grammar (header rest : List UInt8) :
    (∃ count ≤ header.length - 20, Rounds header 20 (0, false) count
      (parseSynWscale (header ++ rest) header.length)) ∧
    ∃ options, Options header 20 options ∧
      (∀ other, Options header 20 other → other = options) ∧
      Scaled options (parseSynWscale (header ++ rest) header.length).1
        (parseSynWscale (header ++ rest) header.length).2 := by
  obtain ⟨count, options, bound, walk, result, rounds⟩ := parseSynWscaleFrom_rounds header rest
    header.length 20 (0, false) (by omega)
  refine ⟨⟨count, bound, rounds⟩, options, walk, fun other again => again.unique walk, ?_⟩
  have scaled := scaled_foldl options
  unfold parseSynWscale
  rwa [result]

/-- A window scale behind padding and a second one that is too large: the first one counts. -/
example : parseSynWscale (List.replicate 20 0 ++ [1, 3, 3, 7, 3, 3, 15, 0]) 28 = (7, true) := by
  decide

end Tunio
