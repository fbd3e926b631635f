import Tunio.Capacity

/-!
Where the bytes of the out-of-order cache lie.  While all the segments are within half of the
circle of the sequence numbers, each has a place counted from a common base; trimming, storing
and merging then change which bytes are held exactly as the new segment says.
-/

namespace Tunio

open Machines Serial

/-- How far a sequence number lies behind the base. -/
def place (base word : UInt32) : Nat := (word - base).toNat

/-- The byte that a cached segment holds for a sequence number. -/
def byteAt (word : UInt32) (entry : UInt32 × OooSegment) : Option UInt8 :=
  entry.2.data[(word - entry.1).toNat]?

/-- The byte that the cache holds for a sequence number. -/
def heldByte (cache : OooCache) (word : UInt32) : Option UInt8 :=
  cache.toList.findSome? (byteAt word)

/-- How many of `len` sequence numbers from `seq` on the cache holds a byte for. -/
def overlapCount (cache : OooCache) (seq : UInt32) (len : Nat) : Nat :=
  (List.range len).countP fun index => (heldByte cache (seq + UInt32.ofNat index)).isSome

section

variable {base seq key other word : UInt32} {len : Nat} {cache after : OooCache}
variable {old found : OooSegment}

/-! Places. -/

theorem place_lt (base word : UInt32) : place base word < 2 ^ 32 := (word - base).toNat_lt

@[simp] theorem num_place (base word : UInt32) : num base (place base word) = word := by
  unfold num place
  rw [UInt32.ofNat_toNat, UInt32.add_comm, UInt32.sub_add_cancel]

theorem place_num (base : UInt32) {position : Nat} (bound : position < 2 ^ 32) :
    place base (num base position) = position := by
  have shifted := num_sub_toNat base position 0 (Nat.zero_le _) (by omega)
  rw [num_zero] at shifted
  exact shifted

theorem place_inj (same : place base key = place base other) : key = other := by
  rw [← num_place base key, same, num_place]

theorem sub_toNat_cases (base key other : UInt32) :
    (place base key ≤ place base other ∧
        (other - key).toNat = place base other - place base key) ∨
      (place base other < place base key ∧
        (other - key).toNat = 2 ^ 32 - (place base key - place base other)) := by
  have first := place_lt base key
  have second := place_lt base other
  rw [← num_place base key, ← num_place base other, place_num base first, place_num base second]
  by_cases ordered : place base key ≤ place base other
  · exact Or.inl ⟨ordered, num_sub_toNat base _ _ ordered (by omega)⟩
  · exact Or.inr ⟨by omega, num_sub_behind base _ _ (by omega) (by omega)⟩

theorem oooOffset_place (seqNear : place base seq < 2 ^ 31) (keyNear : place base key < 2 ^ 31) :
    oooOffset seq key = (place base key : Int) - place base seq := by
  have numbers := oooOffset_num base (place base key) (place base seq) (by omega) (by omega)
  rwa [num_place, num_place] at numbers

/-- A place that many numbers further on. -/
theorem place_add {count : Nat} (bound : place base seq + count < 2 ^ 32) :
    place base (seq + UInt32.ofNat count) = place base seq + count := by
  have shifted := place_num base bound
  rwa [num_add, num_place] at shifted

/-! The segments in their places. -/

/-- The segments are within half a circle from the base and do not reach over each other, and
none is empty but a bare FIN. -/
structure Placed (base : UInt32) (cache : OooCache) : Prop where
  near : ∀ (key : UInt32) (seg : OooSegment), cache[key]? = some seg →
    place base key + seg.data.length < 2 ^ 31
  spread : ∀ (key : UInt32) (seg : OooSegment) (key' : UInt32) (seg' : OooSegment),
    cache[key]? = some seg → cache[key']? = some seg' → place base key < place base key' →
      place base key + seg.data.length ≤ place base key'
  bare : ∀ (key : UInt32) (seg : OooSegment), cache[key]? = some seg → seg.data = [] →
    seg.fin = true

/-- The byte is held at a place. -/
def Lies (base : UInt32) (cache : OooCache) (position : Nat) (byte : UInt8) : Prop :=
  ∃ (key : UInt32) (seg : OooSegment), cache[key]? = some seg ∧ place base key ≤ position ∧
    seg.data[position - place base key]? = some byte

theorem Placed.erase (placed : Placed base cache) (gone : UInt32) :
    Placed base (cache.erase gone) :=
  ⟨fun key seg found => placed.near key seg (erase_lookup found).2,
    fun key seg key' seg' found found' =>
      placed.spread key seg key' seg' (erase_lookup found).2 (erase_lookup found').2,
    fun key seg found => placed.bare key seg (erase_lookup found).2⟩

/-- At most one segment covers a place. -/
theorem Placed.covers_unique (placed : Placed base cache) {position : Nat}
    (here : cache[key]? = some old) (there : cache[other]? = some found)
    (lower : place base key ≤ position) (upper : position < place base key + old.data.length)
    (lower' : place base other ≤ position)
    (upper' : position < place base other + found.data.length) : key = other := by
  rcases Nat.lt_trichotomy (place base key) (place base other) with before | same | behind
  · have apart := placed.spread key old other found here there before
    omega
  · exact place_inj same
  · have apart := placed.spread other found key old there here behind
    omega

theorem getElem?_bound {data : List UInt8} {index : Nat} {byte : UInt8}
    (present : data[index]? = some byte) : index < data.length :=
  (List.getElem?_eq_some_iff.mp present).1

theorem byteAt_some {byte : UInt8} (near : place base key + old.data.length < 2 ^ 31) :
    byteAt word (key, old) = some byte ↔ place base key ≤ place base word ∧
      old.data[place base word - place base key]? = some byte := by
  unfold byteAt
  dsimp only
  rcases sub_toNat_cases base key word with ⟨ordered, distance⟩ | ⟨ahead, distance⟩
  · rw [distance]
    exact ⟨fun present => ⟨ordered, present⟩, And.right⟩
  · constructor
    · intro present
      have bound := getElem?_bound present
      omega
    · rintro ⟨ordered, _⟩
      omega

/-- What is looked up is what lies there. -/
theorem Placed.heldByte_some (placed : Placed base cache) (word : UInt32) (byte : UInt8) :
    heldByte cache word = some byte ↔ Lies base cache (place base word) byte := by
  unfold heldByte
  constructor
  · intro present
    obtain ⟨⟨key, seg⟩, member, here⟩ := List.exists_of_findSome?_eq_some present
    have cached := Std.TreeMap.mem_toList_iff_getElem?_eq_some.mp member
    exact ⟨key, seg, cached, (byteAt_some (placed.near key seg cached)).mp here⟩
  · rintro ⟨key, seg, cached, lower, here⟩
    have covers : byteAt word (key, seg) = some byte :=
      (byteAt_some (placed.near key seg cached)).mpr ⟨lower, here⟩
    have some_ : (cache.toList.findSome? (byteAt word)).isSome = true := by
      rw [List.findSome?_isSome_iff]
      exact ⟨(key, seg), Std.TreeMap.mem_toList_iff_getElem?_eq_some.mpr cached,
        Option.isSome_iff_exists.mpr ⟨byte, covers⟩⟩
    obtain ⟨byte', present⟩ := Option.isSome_iff_exists.mp some_
    obtain ⟨⟨key', seg'⟩, member, there⟩ := List.exists_of_findSome?_eq_some present
    have cached' := Std.TreeMap.mem_toList_iff_getElem?_eq_some.mp member
    obtain ⟨lower', here'⟩ := (byteAt_some (placed.near key' seg' cached')).mp there
    have same : key = key' := by
      have bound := getElem?_bound here
      have bound' := getElem?_bound here'
      exact placed.covers_unique cached cached' lower (by omega) lower' (by omega)
    subst same
    obtain rfl := Option.some.inj (cached.symm.trans cached')
    rw [present, ← there, covers]

/-! What trimming makes of one segment. -/

/-- What is left of a cached segment beside a new one at `start`. -/
inductive Part (base : UInt32) (start len : Nat) (key : UInt32) (old : OooSegment) :
    UInt32 → List UInt8 → Prop
  | front (before : place base key < start) :
      Part base start len key old key (old.data.take (start - place base key))
  | behind (other : UInt32) (first : place base other = max (place base key) (start + len))
      (remains : start + len ≤ place base key ∨
        start + len < place base key + old.data.length) :
      Part base start len key old other (old.data.drop (start + len - place base key))

/-- `after` is `before` with the segment under `key` cut back, at least in front, to what a new
one leaves of it. -/
structure Pared (base : UInt32) (start len : Nat) (before after : OooCache) (key : UInt32)
    (old : OooSegment) : Prop where
  others : ∀ (other : UInt32) (found : OooSegment), other ≠ key → before[other]? = some found →
    after[other]? = some found
  front : place base key < start → ∃ left, after[key]? = some left ∧
    left.data = old.data.take (start - place base key)
  parts : ∀ (other : UInt32) (found : OooSegment), after[other]? = some found →
    (other ≠ key ∧ before[other]? = some found) ∨
      ((found.data = [] → found.fin = true) ∧ Part base start len key old other found.data)

/-- What goes on behind the new segment is kept as well. -/
structure Trimmed (base : UInt32) (start len : Nat) (before after : OooCache) (key : UInt32)
    (old : OooSegment) : Prop extends Pared base start len before after key old where
  behind : start + len < place base key + old.data.length → ∃ other right,
    after[other]? = some right ∧ place base other = max (place base key) (start + len) ∧
      right.data = old.data.drop (start + len - place base key)

theorem insertIfNew_fresh (fresh : cache[key]? = none) (seg : OooSegment) :
    (cache.insertIfNew key seg)[key]? = some seg := by
  rw [Std.TreeMap.getElem?_insertIfNew, if_pos]
  refine ⟨Std.ReflCmp.compare_self, fun member => ?_⟩
  rw [Std.TreeMap.mem_iff_isSome_getElem?, fresh] at member
  cases member

/-- Nothing is cached where a segment goes on behind the new one. -/
theorem Placed.end_fresh (placed : Placed base cache) (present : cache[key]? = some old)
    (near : place base seq + len < 2 ^ 31) (before : place base key < place base seq + len)
    (reaches : place base seq + len < place base key + old.data.length) :
    cache[seq + UInt32.ofNat len]? = none := by
  cases there : cache[seq + UInt32.ofNat len]? with
  | none => rfl
  | some found =>
      have stop : place base (seq + UInt32.ofNat len) = place base seq + len :=
        place_add (by omega)
      have apart := placed.spread key old _ found present there (by omega)
      omega

theorem Trimmed.untouched {start : Nat} (placed : Placed base cache)
    (present : cache[key]? = some old)
    (clear : (place base key < start ∧ place base key + old.data.length ≤ start) ∨
      start + len ≤ place base key) : Trimmed base start len cache cache key old := by
  refine ⟨⟨fun other found _ there => there, fun before => ?_, ?_⟩, fun reaches => ?_⟩
  · exact ⟨old, present, (List.take_of_length_le (by omega)).symm⟩
  · intro other found there
    by_cases same : other = key
    · subst same
      obtain rfl := Option.some.inj (present.symm.trans there)
      refine Or.inr ⟨placed.bare other old present, ?_⟩
      rcases clear with ⟨before, stops⟩ | beyond
      · have whole : old.data.take (start - place base other) = old.data :=
          List.take_of_length_le (by omega)
        have part : Part base start len other old other (old.data.take (start - place base other)) :=
          Part.front before
        rwa [whole] at part
      · have part : Part base start len other old other
            (old.data.drop (start + len - place base other)) :=
          Part.behind other (by omega) (Or.inl beyond)
        rwa [Nat.sub_eq_zero_of_le beyond, List.drop_zero] at part
    · exact Or.inl ⟨same, there⟩
  · refine ⟨key, old, present, by omega, ?_⟩
    rw [Nat.sub_eq_zero_of_le (by omega), List.drop_zero]

theorem Pared.keepFront {start : Nat} (before : place base key < start)
    (reaches : start < place base key + old.data.length) :
    Pared base start len cache
      (cache.insert key { data := old.data.take (start - place base key), fin := false }) key old := by
  refine ⟨fun other found differ there => (insert_other differ _).trans there, fun _ => ?_, ?_⟩
  · exact ⟨_, Std.TreeMap.getElem?_insert_self, rfl⟩
  · intro other found there
    rcases insert_lookup there with ⟨rfl, rfl⟩ | ⟨differ, kept⟩
    · refine Or.inr ⟨fun empty => ?_, Part.front before⟩
      have length := congrArg List.length empty
      rw [List.length_take, List.length_nil] at length
      omega
    · exact Or.inl ⟨differ, kept⟩

theorem Pared.erase {start : Nat} (behind : start ≤ place base key) :
    Pared base start len cache (cache.erase key) key old := by
  refine ⟨fun other found differ there => (erase_other differ).trans there, fun before => ?_, ?_⟩
  · omega
  · exact fun other found there => Or.inl (erase_lookup there)

/-- The part behind the new segment moves to its end. -/
theorem Pared.keepBehind (pared : Pared base (place base seq) len cache after key old)
    (near : place base seq + len < 2 ^ 31) (before : place base key < place base seq + len)
    (reaches : place base seq + len < place base key + old.data.length)
    (fresh : after[seq + UInt32.ofNat len]? = none) :
    Trimmed base (place base seq) len cache (after.insertIfNew (seq + UInt32.ofNat len)
      { data := old.data.drop (place base seq + len - place base key), fin := old.fin })
      key old := by
  have stop : place base (seq + UInt32.ofNat len) = place base seq + len := place_add (by omega)
  refine ⟨⟨fun other found differ there => ?_, fun front => ?_, fun other found there => ?_⟩,
    fun _ => ?_⟩
  · exact insertIfNew_kept (pared.others other found differ there) _
  · obtain ⟨left, there, same⟩ := pared.front front
    exact ⟨left, insertIfNew_kept there _, same⟩
  · rcases insertIfNew_lookup there with ⟨rfl, rfl⟩ | kept
    · refine Or.inr ⟨fun empty => ?_, Part.behind _ (by omega) (Or.inr reaches)⟩
      have length := congrArg List.length empty
      rw [List.length_drop, List.length_nil] at length
      omega
    · exact pared.parts other found kept
  · exact ⟨_, _, insertIfNew_fresh fresh _, by omega, rfl⟩

theorem trimStep_trimmed (placed : Placed base cache) (present : cache[key]? = some old)
    (filled : 0 < len) (near : place base seq + len < 2 ^ 31) :
    Trimmed base (place base seq) len cache (trimStep seq len cache key) key old := by
  have keyNear := placed.near key old present
  have bare := placed.bare key old present
  have offset : oooOffset seq key = (place base key : Int) - place base seq :=
    oooOffset_place (by omega) (by omega)
  unfold trimStep
  rw [present]
  dsimp only
  rw [offset]
  have frontLength : (-((place base key : Int) - place base seq)).toNat =
      place base seq - place base key := by omega
  have behindLength : ((len : Int) - ((place base key : Int) - place base seq)).toNat =
      place base seq + len - place base key := by omega
  rw [frontLength, behindLength]
  by_cases empty : old.data = []
  · -- a bare FIN
    have none : old.data.length = 0 := by rw [empty]; rfl
    have fin := bare empty
    by_cases inside : place base seq ≤ place base key ∧ place base key < place base seq + len
    · rw [if_neg fun apart => apart.2 ⟨none, fin, by omega, by omega⟩, if_neg (by omega),
        if_neg (by omega), if_neg (by omega)]
      exact ⟨Pared.erase inside.1, fun reaches => absurd reaches (by omega)⟩
    · rw [if_pos ⟨by omega, fun within => inside (by omega)⟩]
      exact Trimmed.untouched placed present (by omega)
  · have some_ : 0 < old.data.length := List.length_pos_iff.mpr empty
    split
    · exact Trimmed.untouched placed present (by omega)
    · split
      · have fresh := placed.end_fresh present near (by omega) (by omega)
        refine (Pared.keepFront (by omega) (by omega)).keepBehind near (by omega) (by omega) ?_
        rw [insert_other _ _]
        · exact fresh
        · rintro rfl
          rw [present] at fresh
          cases fresh
      · split
        · exact ⟨Pared.keepFront (by omega) (by omega), by omega⟩
        · split
          · have fresh := placed.end_fresh present near (by omega) (by omega)
            refine (Pared.erase (by omega)).keepBehind near (by omega) (by omega) ?_
            cases there : (cache.erase key)[seq + UInt32.ofNat len]? with
            | none => rfl
            | some found =>
                have kept := (erase_lookup there).2
                rw [fresh] at kept
                cases kept
          · exact ⟨Pared.erase (by omega), by omega⟩

/-- Beside the new segment: in front of it, and not at its first byte, or behind it. -/
def Beside (start len position count : Nat) : Prop :=
  (position < start ∧ position + count ≤ start) ∨ start + len ≤ position

theorem Part.beside {start : Nat} {data : List UInt8}
    (part : Part base start len key old other data) :
    Beside start len (place base other) data.length := by
  cases part with
  | front before =>
      refine Or.inl ⟨before, ?_⟩
      rw [List.length_take]
      omega
  | behind other first remains => exact Or.inr (by omega)

/-- A part lies where the whole lay. -/
theorem Part.within {start : Nat} {data : List UInt8}
    (part : Part base start len key old other data) :
    place base key ≤ place base other ∧
      place base other + data.length ≤ place base key + old.data.length := by
  cases part with
  | front before =>
      rw [List.length_take]
      omega
  | behind other first remains =>
      rw [List.length_drop]
      omega

/-- Two parts of one segment are in order. -/
theorem Part.apart {start : Nat} {data data' : List UInt8} {other' : UInt32}
    (part : Part base start len key old other data)
    (part' : Part base start len key old other' data')
    (before : place base other < place base other') :
    place base other + data.length ≤ place base other' := by
  cases part with
  | front first =>
      cases part' with
      | front => omega
      | behind other' first' remains =>
          rw [List.length_take]
          omega
  | behind other first remains =>
      cases part' with
      | front => omega
      | behind other' first' remains' => omega

theorem Pared.placed {start : Nat} (pared : Pared base start len cache after key old)
    (placed : Placed base cache) (present : cache[key]? = some old) : Placed base after := by
  have keyNear := placed.near key old present
  refine ⟨?_, ?_, ?_⟩
  · intro other found there
    rcases pared.parts other found there with ⟨_, kept⟩ | ⟨_, part⟩
    · exact placed.near other found kept
    · have within := part.within
      omega
  · intro left x right y leftThere rightThere before
    rcases pared.parts left x leftThere with ⟨leftDiffer, leftKept⟩ | ⟨_, leftPart⟩
    · rcases pared.parts right y rightThere with ⟨_, rightKept⟩ | ⟨_, rightPart⟩
      · exact placed.spread left x right y leftKept rightKept before
      · have within := rightPart.within
        rcases Nat.lt_trichotomy (place base left) (place base key) with front | same | behind
        · exact (placed.spread left x key old leftKept present front).trans within.1
        · exact absurd (place_inj same) leftDiffer
        · have apart := placed.spread key old left x present leftKept behind
          omega
    · have within := leftPart.within
      rcases pared.parts right y rightThere with ⟨rightDiffer, rightKept⟩ | ⟨_, rightPart⟩
      · have apart := placed.spread key old right y present rightKept (by omega)
        omega
      · exact leftPart.apart rightPart before
  · intro other found there
    rcases pared.parts other found there with ⟨_, kept⟩ | ⟨bare, _⟩
    · exact placed.bare other found kept
    · exact bare

/-- Outside the new segment the same bytes are held. -/
theorem Trimmed.lies {start position : Nat} {byte : UInt8}
    (trimmed : Trimmed base start len cache after key old) (present : cache[key]? = some old)
    (outside : position < start ∨ start + len ≤ position) :
    Lies base after position byte ↔ Lies base cache position byte := by
  constructor
  · rintro ⟨other, found, there, lower, here⟩
    rcases trimmed.parts other found there with ⟨_, kept⟩ | ⟨_, part⟩
    · exact ⟨other, found, kept, lower, here⟩
    · have bound := getElem?_bound here
      refine ⟨key, old, present, part.within.1.trans lower, ?_⟩
      generalize found.data = data at part here bound
      cases part with
      | front before =>
          rw [List.length_take] at bound
          rwa [List.getElem?_take_of_lt (by omega)] at here
      | behind other first remains =>
          rw [List.getElem?_drop] at here
          rw [← here]
          congr 1
          omega
  · rintro ⟨other, found, there, lower, here⟩
    by_cases same : other = key
    · subst same
      obtain rfl := Option.some.inj (present.symm.trans there)
      have bound := getElem?_bound here
      rcases outside with front | behind
      · obtain ⟨left, kept, data⟩ := trimmed.front (by omega)
        refine ⟨other, left, kept, lower, ?_⟩
        rwa [data, List.getElem?_take_of_lt (by omega)]
      · obtain ⟨next, right, kept, first, data⟩ := trimmed.behind (by omega)
        refine ⟨next, right, kept, by omega, ?_⟩
        rw [data, List.getElem?_drop, ← here]
        congr 1
        omega
    · exact ⟨other, found, trimmed.others other found same there, lower, here⟩

/-! Trimming all the segments. -/

/-- The cache while it is being trimmed: only the segments under the keys still to come may lie
in the way of the new one. -/
structure Trimming (base : UInt32) (start len : Nat) (cache after : OooCache)
    (pending : List UInt32) : Prop where
  placed : Placed base after
  beside : ∀ (key : UInt32) (seg : OooSegment), after[key]? = some seg →
    Beside start len (place base key) seg.data.length ∨ key ∈ pending
  lies : ∀ (position : Nat) (byte : UInt8), position < start ∨ start + len ≤ position →
    (Lies base after position byte ↔ Lies base cache position byte)

theorem Trimming.step {pending : List UInt32}
    (trimming : Trimming base (place base seq) len cache after (key :: pending))
    (filled : 0 < len) (near : place base seq + len < 2 ^ 31) :
    Trimming base (place base seq) len cache (trimStep seq len after key) pending := by
  cases present : after[key]? with
  | none =>
      have same : trimStep seq len after key = after := by
        unfold trimStep
        rw [present]
      rw [same]
      refine ⟨trimming.placed, fun other found there => ?_, trimming.lies⟩
      refine (trimming.beside other found there).imp_right fun member => ?_
      refine (List.mem_cons.mp member).resolve_left ?_
      rintro rfl
      rw [present] at there
      cases there
  | some old =>
      have trimmed := trimStep_trimmed trimming.placed present filled near
      refine ⟨trimmed.placed trimming.placed present, ?_, ?_⟩
      · intro other found there
        rcases trimmed.parts other found there with ⟨differ, kept⟩ | ⟨_, part⟩
        · exact (trimming.beside other found kept).imp_right fun member =>
            (List.mem_cons.mp member).resolve_left differ
        · exact Or.inl part.beside
      · intro position byte outside
        exact (trimmed.lies present outside).trans (trimming.lies position byte outside)

theorem Trimming.fold {rest : List UInt32} (keys : List UInt32)
    (trimming : Trimming base (place base seq) len cache after (keys ++ rest))
    (filled : 0 < len) (near : place base seq + len < 2 ^ 31) :
    Trimming base (place base seq) len cache (keys.foldl (trimStep seq len) after) rest := by
  induction keys generalizing after with
  | nil => exact trimming
  | cons key keys ih => exact ih (trimming.step filled near)

theorem Trimming.start {start : Nat} (placed : Placed base cache) :
    Trimming base start len cache cache cache.keys := by
  refine ⟨placed, fun key seg present => Or.inr ?_, fun _ _ _ => Iff.rfl⟩
  exact Std.TreeMap.mem_keys.mpr (mem_of_lookup present)

theorem trimOoo_trimming (placed : Placed base cache) (filled : 0 < len)
    (near : place base seq + len < 2 ^ 31) :
    Trimming base (place base seq) len cache (trimOoo seq len cache) [] := by
  refine Trimming.fold cache.keys ?_ filled near
  rw [List.append_nil]
  exact Trimming.start placed

/-- The trimming is about to put what goes on behind the new segment under a key that is taken. -/
def TrimCollides (seq : UInt32) (len : Nat) (cache : OooCache) (key : UInt32) : Prop :=
  match cache[key]? with
  | none => False
  | some old =>
      let start := oooOffset seq key
      let stop := start + old.data.length
      let lo := max start 0
      let hi := min stop len
      let finInside := old.data.length = 0 ∧ old.fin ∧ start ≥ 0 ∧ start < len
      (lo < hi ∨ finInside) ∧ stop > len ∧
        if start < 0 then seq + UInt32.ofNat len ∈ cache
        else seq + UInt32.ofNat len ∈ cache.erase key

theorem Placed.trim_fresh (placed : Placed base cache) (near : place base seq + len < 2 ^ 31)
    (key : UInt32) : ¬TrimCollides seq len cache key := by
  unfold TrimCollides
  cases present : cache[key]? with
  | none => exact id
  | some old =>
      rintro ⟨reached, reaches, taken⟩
      have keyNear := placed.near key old present
      have offset : oooOffset seq key = (place base key : Int) - place base seq :=
        oooOffset_place (by omega) (by omega)
      rw [offset] at reached reaches taken
      have fresh := placed.end_fresh present near (by omega) (by omega)
      have absent : seq + UInt32.ofNat len ∉ cache := by
        rw [Std.TreeMap.mem_iff_isSome_getElem?, fresh]
        exact Bool.false_ne_true
      split at taken
      · exact absent taken
      · exact absent (Std.TreeMap.mem_of_mem_erase taken)

/-- No segment is lost in the trimming. -/
theorem trimOoo_fresh (placed : Placed base cache) (filled : 0 < len)
    (near : place base seq + len < 2 ^ 31) {earlier later : List UInt32}
    (keys : cache.keys = earlier ++ key :: later) :
    ¬TrimCollides seq len (earlier.foldl (trimStep seq len) cache) key := by
  have trimming : Trimming base (place base seq) len cache cache (earlier ++ key :: later) :=
    keys ▸ Trimming.start placed
  exact (trimming.fold earlier filled near).placed.trim_fresh near key

/-! The bytes. -/

theorem trimStep_exact (placed : Placed base cache) (present : cache[key]? = some old)
    (near : place base seq + len < 2 ^ 31) :
    cachedBytes (trimStep seq len cache key) + covered seq len key old = cachedBytes cache := by
  have keyNear := placed.near key old present
  have offset : oooOffset seq key = (place base key : Int) - place base seq :=
    oooOffset_place (by omega) (by omega)
  have here : cachedBytes cache = old.data.length + cachedBytes (cache.erase key) :=
    Stock.mass_remove _ present
  have inserted (seg : OooSegment) :
      cachedBytes (cache.insert key seg) = seg.data.length + cachedBytes (cache.erase key) :=
    Stock.mass_insert _ cache key seg
  have added (cache : OooCache) (seg : OooSegment)
      (fresh : cache[seq + UInt32.ofNat len]? = none) :
      cachedBytes (cache.insertIfNew (seq + UInt32.ofNat len) seg) =
        seg.data.length + cachedBytes cache := Stock.mass_insertIfNew _ cache seg fresh
  unfold trimStep covered
  rw [present, offset]
  dsimp only
  split
  · omega
  · split
    · have fresh := placed.end_fresh present near (by omega) (by omega)
      rw [added _ _ ?_, inserted, List.length_drop, List.length_take]
      · omega
      · rw [insert_other _ _]
        · exact fresh
        · rintro rfl
          rw [present] at fresh
          cases fresh
    · split
      · rw [inserted, List.length_take]
        omega
      · split
        · have fresh := placed.end_fresh present near (by omega) (by omega)
          rw [added _ _ (Option.eq_none_iff_forall_ne_some.mpr fun found there => ?_),
            List.length_drop]
          · omega
          · have kept := (erase_lookup there).2
            rw [fresh] at kept
            cases kept
        · omega

theorem trimFold_exact (entries : List (UInt32 × OooSegment))
    (distinct : (entries.map Prod.fst).Nodup) (placed : Placed base cache)
    (present : ∀ entry ∈ entries, cache[entry.1]? = some entry.2) (filled : 0 < len)
    (near : place base seq + len < 2 ^ 31) :
    cachedBytes ((entries.map Prod.fst).foldl (trimStep seq len) cache) +
      overlapping seq len entries = cachedBytes cache := by
  induction entries generalizing cache with
  | nil => rfl
  | cons entry rest ih =>
      obtain ⟨apart, distinct⟩ := List.nodup_cons.mp distinct
      have here := present entry List.mem_cons_self
      have first := trimStep_exact placed here near
      have kept (other : UInt32 × OooSegment) (member : other ∈ rest) :
          (trimStep seq len cache entry.1)[other.1]? = some other.2 :=
        trimStep_other (fun same => apart (List.mem_map.mpr ⟨other, member, same⟩))
          (present other (List.mem_cons_of_mem _ member))
      have later := ih distinct ((trimStep_trimmed placed here filled near).placed placed here) kept
      simp only [List.map_cons, List.foldl_cons, overlapping]
      omega

theorem trimOoo_exact (placed : Placed base cache) (filled : 0 < len)
    (near : place base seq + len < 2 ^ 31) :
    cachedBytes (trimOoo seq len cache) + overlapping seq len cache.toList = cachedBytes cache := by
  have keys : cache.keys = cache.toList.map Prod.fst := Std.TreeMap.map_fst_toList_eq_keys.symm
  unfold trimOoo
  rw [keys]
  refine trimFold_exact cache.toList ?_ placed ?_ filled near
  · rw [← keys]
    exact Std.TreeMap.nodup_keys
  · exact fun entry member => Std.TreeMap.mem_toList_iff_getElem?_eq_some.mp member

/-! Joining segments that touch. -/

/-- A segment is added where nothing lies. -/
theorem Placed.add {cache' : OooCache} (placed : Placed base cache) (key : UInt32)
    (seg : OooSegment) (near : place base key + seg.data.length < 2 ^ 31)
    (bare : seg.data = [] → seg.fin = true)
    (apart : ∀ (other : UInt32) (found : OooSegment), other ≠ key → cache[other]? = some found →
      (place base other < place base key →
        place base other + found.data.length ≤ place base key) ∧
      (place base key < place base other → place base key + seg.data.length ≤ place base other))
    (lookup : ∀ (other : UInt32) (found : OooSegment), cache'[other]? = some found →
      (other = key ∧ found = seg) ∨ cache[other]? = some found) : Placed base cache' := by
  refine ⟨?_, ?_, ?_⟩
  · intro other found there
    rcases lookup other found there with ⟨rfl, rfl⟩ | kept
    · exact near
    · exact placed.near other found kept
  · intro left x right y leftThere rightThere before
    rcases lookup left x leftThere with ⟨rfl, rfl⟩ | leftKept
    · rcases lookup right y rightThere with ⟨rfl, rfl⟩ | rightKept
      · exact absurd before (Nat.lt_irrefl _)
      · exact (apart right y (fun same => by rw [same] at before; omega) rightKept).2 before
    · rcases lookup right y rightThere with ⟨rfl, rfl⟩ | rightKept
      · exact (apart left x (fun same => by rw [same] at before; omega) leftKept).1 before
      · exact placed.spread left x right y leftKept rightKept before
  · intro other found there
    rcases lookup other found there with ⟨rfl, rfl⟩ | kept
    · exact bare
    · exact placed.bare other found kept

theorem Placed.touch (placed : Placed base cache) (here : cache[key]? = some old)
    (touches : segmentEnd key old = other) :
    place base key + old.data.length = place base other := by
  have near := placed.near key old here
  have stop : place base (segmentEnd key old) = place base key + old.data.length :=
    place_add (by omega)
  rw [← stop, touches]

theorem join_lookup {next : UInt32} {seg : OooSegment}
    (lookup : ((cache.insert key seg).erase other)[next]? = some found) :
    (next = key ∧ found = seg) ∨ (next ≠ key ∧ next ≠ other ∧ cache[next]? = some found) := by
  obtain ⟨notOther, kept⟩ := erase_lookup lookup
  exact (insert_lookup kept).imp_right fun both => ⟨both.1, notOther, both.2⟩

section

variable {left right : OooSegment}

theorem Placed.join (placed : Placed base cache) (here : cache[key]? = some left)
    (there : cache[other]? = some right) (touches : segmentEnd key left = other) :
    Placed base ((cache.insert key
      { data := left.data ++ right.data, fin := right.fin }).erase other) := by
  have meets := placed.touch here touches
  have near := placed.near other right there
  refine (placed.erase other).add key { data := left.data ++ right.data, fin := right.fin }
    ?_ ?_ ?_ ?_
  · rw [List.length_append]
    omega
  · intro empty
    exact placed.bare other right there (List.append_eq_nil_iff.mp empty).2
  · intro next found differ lookup
    obtain ⟨notOther, kept⟩ := erase_lookup lookup
    refine ⟨placed.spread next found key left kept here, fun before => ?_⟩
    have first := placed.spread key left next found here kept before
    rw [List.length_append]
    rcases Nat.lt_trichotomy (place base other) (place base next) with beyond | same | behind
    · have second := placed.spread other right next found there kept beyond
      omega
    · exact absurd (place_inj same.symm) notOther
    · omega
  · intro next found lookup
    rcases join_lookup lookup with new | ⟨_, notOther, kept⟩
    · exact Or.inl new
    · exact Or.inr ((erase_other notOther).trans kept)

theorem Placed.join_lies {position : Nat} {byte : UInt8} (placed : Placed base cache)
    (here : cache[key]? = some left) (there : cache[other]? = some right) (differ : key ≠ other)
    (touches : segmentEnd key left = other) :
    Lies base ((cache.insert key
        { data := left.data ++ right.data, fin := right.fin }).erase other) position byte ↔
      Lies base cache position byte := by
  have meets := placed.touch here touches
  have joined : ((cache.insert key
      { data := left.data ++ right.data, fin := right.fin }).erase other)[key]? =
        some { data := left.data ++ right.data, fin := right.fin } := by
    rw [erase_other differ, Std.TreeMap.getElem?_insert_self]
  constructor
  · rintro ⟨next, found, lookup, lower, present⟩
    rcases join_lookup lookup with ⟨rfl, rfl⟩ | ⟨_, _, kept⟩
    · by_cases inside : position - place base next < left.data.length
      · rw [List.getElem?_append_left inside] at present
        exact ⟨next, left, here, lower, present⟩
      · rw [List.getElem?_append_right (Nat.le_of_not_lt inside)] at present
        refine ⟨other, right, there, by omega, ?_⟩
        rw [← present]
        congr 1
        omega
    · exact ⟨next, found, kept, lower, present⟩
  · rintro ⟨next, found, lookup, lower, present⟩
    by_cases atKey : next = key
    · subst atKey
      obtain rfl := Option.some.inj (here.symm.trans lookup)
      refine ⟨next, _, joined, lower, ?_⟩
      rwa [List.getElem?_append_left (getElem?_bound present)]
    · by_cases atOther : next = other
      · subst atOther
        obtain rfl := Option.some.inj (there.symm.trans lookup)
        refine ⟨key, _, joined, by omega, ?_⟩
        rw [List.getElem?_append_right (by omega), ← present]
        congr 1
        omega
      · exact ⟨next, found, ((erase_other atOther).trans (insert_other atKey _)).trans lookup,
          lower, present⟩

theorem erase_lies {position : Nat} {byte : UInt8} (there : cache[other]? = some right)
    (empty : right.data = []) :
    Lies base (cache.erase other) position byte ↔ Lies base cache position byte := by
  constructor
  · rintro ⟨next, found, lookup, rest⟩
    exact ⟨next, found, (erase_lookup lookup).2, rest⟩
  · rintro ⟨next, found, lookup, lower, present⟩
    refine ⟨next, found, (erase_other ?_).trans lookup, lower, present⟩
    rintro rfl
    obtain rfl := Option.some.inj (there.symm.trans lookup)
    rw [empty] at present
    cases present

end

/-- The two caches hold the same bytes. -/
def HeldAlike (base : UInt32) (cache after : OooCache) : Prop :=
  ∀ (position : Nat) (byte : UInt8), Lies base after position byte ↔ Lies base cache position byte

theorem mergeOoo_placed (fuel : Nat) (cur : UInt32) (placed : Placed base cache)
    (present : ∃ seg, cache[cur]? = some seg) :
    Placed base (mergeOoo fuel cache cur) ∧ HeldAlike base cache (mergeOoo fuel cache cur) := by
  induction fuel generalizing cache cur with
  | zero => exact ⟨placed, fun _ _ => Iff.rfl⟩
  | succ fuel ih =>
      obtain ⟨seg, here⟩ := present
      -- what is joined in this round is merged on
      have onward {next : OooCache} (first : UInt32) (kept : Placed base next)
          (alike : HeldAlike base cache next) (found : ∃ seg, next[first]? = some seg) :
          Placed base (mergeOoo fuel next first) ∧
            HeldAlike base cache (mergeOoo fuel next first) := by
        obtain ⟨last, same⟩ := ih first kept found
        exact ⟨last, fun position byte => (same position byte).trans (alike position byte)⟩
      unfold mergeOoo
      dsimp only
      rw [segmentAt_present here]
      split
      · rename_i key left neighbour
        obtain ⟨there, differ, touches⟩ := leftNeighbour_spec neighbour
        refine onward key (placed.join there here touches)
          (fun _ _ => placed.join_lies there here differ touches) ?_
        exact ⟨_, (erase_other differ).trans Std.TreeMap.getElem?_insert_self⟩
      · split
        · rename_i key right neighbour
          obtain ⟨there, differ, touches⟩ := rightNeighbour_spec here neighbour
          split
          · split
            · rename_i bare
              have empty : right.data = [] := by simpa using bare.1
              refine onward cur (placed.erase key) (fun _ _ => erase_lies there empty) ?_
              exact ⟨seg, (erase_other (Ne.symm differ)).trans here⟩
            · exact ⟨placed, fun _ _ => Iff.rfl⟩
          · refine onward cur (placed.join here there touches)
              (fun _ _ => placed.join_lies here there (Ne.symm differ) touches) ?_
            exact ⟨_, (erase_other (Ne.symm differ)).trans Std.TreeMap.getElem?_insert_self⟩
        · exact ⟨placed, fun _ _ => Iff.rfl⟩

/-! Storing a segment. -/

section

variable {incoming : OooSegment}

/-- The new segment among what the trimming has left. -/
theorem Trimming.insert
    (trimming : Trimming base (place base seq) incoming.data.length cache after [])
    (filled : 0 < incoming.data.length)
    (near : place base seq + incoming.data.length < 2 ^ 31) :
    after[seq]? = none ∧ Placed base (after.insertIfNew seq incoming) := by
  have beside (other : UInt32) (found : OooSegment) (there : after[other]? = some found) :
      Beside (place base seq) incoming.data.length (place base other) found.data.length :=
    (trimming.beside other found there).resolve_right (List.not_mem_nil)
  have fresh : after[seq]? = none := by
    refine Option.eq_none_iff_forall_ne_some.mpr fun found there => ?_
    have apart := beside seq found there
    unfold Beside at apart
    omega
  refine ⟨fresh, trimming.placed.add seq incoming near ?_ ?_ ?_⟩
  · intro empty
    rw [empty] at filled
    exact absurd filled (Nat.lt_irrefl 0)
  · intro other found _ there
    have apart := beside other found there
    unfold Beside at apart
    omega
  · exact fun other found there => insertIfNew_lookup there

theorem storeOoo_placed (placed : Placed base cache) (filled : 0 < incoming.data.length)
    (near : place base seq + incoming.data.length < 2 ^ 31) :
    Placed base (storeOoo cache seq incoming) := by
  obtain ⟨_, inserted⟩ := (trimOoo_trimming placed filled near).insert filled near
  exact (mergeOoo_placed _ seq inserted (insertIfNew_present _ _ _)).1

/-- In the range of the new segment its bytes are held, elsewhere what was held before. -/
theorem storeOoo_lies {position : Nat} {byte : UInt8} (placed : Placed base cache)
    (filled : 0 < incoming.data.length)
    (near : place base seq + incoming.data.length < 2 ^ 31) :
    Lies base (storeOoo cache seq incoming) position byte ↔
      (place base seq ≤ position ∧ incoming.data[position - place base seq]? = some byte) ∨
        ((position < place base seq ∨ place base seq + incoming.data.length ≤ position) ∧
          Lies base cache position byte) := by
  have trimming := trimOoo_trimming placed filled near
  obtain ⟨fresh, inserted⟩ := trimming.insert filled near
  have merged := (mergeOoo_placed
    ((trimOoo seq incoming.data.length cache).insertIfNew seq incoming).size seq inserted
    (insertIfNew_present _ _ _)).2
  refine (merged position byte).trans ?_
  constructor
  · rintro ⟨key, seg, lookup, lower, present⟩
    rcases insertIfNew_lookup lookup with ⟨rfl, rfl⟩ | kept
    · exact Or.inl ⟨lower, present⟩
    · have bound := getElem?_bound present
      have beside := (trimming.beside key seg kept).resolve_right List.not_mem_nil
      have outside : position < place base seq ∨
          place base seq + incoming.data.length ≤ position := by
        unfold Beside at beside
        omega
      exact Or.inr ⟨outside, (trimming.lies position byte outside).mp ⟨key, seg, kept, lower, present⟩⟩
  · rintro (⟨lower, present⟩ | ⟨outside, held⟩)
    · exact ⟨seq, incoming, insertIfNew_fresh fresh incoming, lower, present⟩
    · obtain ⟨key, seg, lookup, rest⟩ := (trimming.lies position byte outside).mpr held
      exact ⟨key, seg, insertIfNew_kept lookup incoming, rest⟩

theorem storeOoo_heldByte (placed : Placed base cache) (filled : 0 < incoming.data.length)
    (near : place base seq + incoming.data.length < 2 ^ 31) (word : UInt32) :
    heldByte (storeOoo cache seq incoming) word =
      (incoming.data[(word - seq).toNat]?).or (heldByte cache word) := by
  have distance := sub_toNat_cases base seq word
  refine Option.ext fun byte => ?_
  rw [(storeOoo_placed placed filled near).heldByte_some, storeOoo_lies placed filled near,
    ← placed.heldByte_some, Option.or_eq_some_iff]
  by_cases inside : (word - seq).toNat < incoming.data.length
  · have ordered : place base seq ≤ place base word := by omega
    have same : (word - seq).toNat = place base word - place base seq := by omega
    rw [same] at inside ⊢
    constructor
    · rintro (⟨_, present⟩ | ⟨outside, _⟩)
      · exact Or.inl present
      · omega
    · rintro (present | ⟨absent, _⟩)
      · exact Or.inl ⟨ordered, present⟩
      · rw [List.getElem?_eq_none_iff] at absent
        omega
  · have absent : incoming.data[(word - seq).toNat]? = none :=
      List.getElem?_eq_none_iff.mpr (Nat.le_of_not_lt inside)
    rw [absent]
    constructor
    · rintro (⟨lower, present⟩ | ⟨_, held⟩)
      · have bound := getElem?_bound present
        omega
      · exact Or.inr ⟨rfl, held⟩
    · rintro (impossible | ⟨_, held⟩)
      · cases impossible
      · exact Or.inr ⟨by omega, held⟩

theorem storeOoo_exact (placed : Placed base cache) (filled : 0 < incoming.data.length)
    (near : place base seq + incoming.data.length < 2 ^ 31) :
    cachedBytes (storeOoo cache seq incoming) +
      overlapping seq incoming.data.length cache.toList =
        cachedBytes cache + incoming.data.length := by
  obtain ⟨fresh, _⟩ := (trimOoo_trimming placed filled near).insert filled near
  have trimmed := trimOoo_exact placed filled near
  have added : cachedBytes ((trimOoo seq incoming.data.length cache).insertIfNew seq incoming) =
      incoming.data.length + cachedBytes (trimOoo seq incoming.data.length cache) :=
    Stock.mass_insertIfNew _ _ _ fresh
  have merged := mergeOoo_bytes
    ((trimOoo seq incoming.data.length cache).insertIfNew seq incoming).size
    ((trimOoo seq incoming.data.length cache).insertIfNew seq incoming) seq
    (insertIfNew_present _ _ _)
  unfold storeOoo
  dsimp only
  omega

end

/-! How much of the new segment is held already. -/

theorem byteAt_isSome (word : UInt32) (near : place base key + old.data.length < 2 ^ 31) :
    (byteAt word (key, old)).isSome = true ↔ place base key ≤ place base word ∧
      place base word < place base key + old.data.length := by
  rw [Option.isSome_iff_exists]
  constructor
  · rintro ⟨byte, present⟩
    obtain ⟨lower, here⟩ := (byteAt_some near).mp present
    have bound := getElem?_bound here
    omega
  · rintro ⟨lower, upper⟩
    obtain ⟨byte, here⟩ : ∃ byte, old.data[place base word - place base key]? = some byte :=
      ⟨_, List.getElem?_eq_getElem (by omega)⟩
    exact ⟨byte, (byteAt_some near).mpr ⟨lower, here⟩⟩

theorem covered_succ (near : place base seq + (len + 1) < 2 ^ 31)
    (keyNear : place base key + old.data.length < 2 ^ 31) :
    covered seq (len + 1) key old = covered seq len key old +
      if (byteAt (seq + UInt32.ofNat len) (key, old)).isSome then 1 else 0 := by
  have offset : oooOffset seq key = (place base key : Int) - place base seq :=
    oooOffset_place (by omega) (by omega)
  have next : place base (seq + UInt32.ofNat len) = place base seq + len := place_add (by omega)
  have reached := byteAt_isSome (seq + UInt32.ofNat len) keyNear
  rw [next] at reached
  unfold covered
  rw [offset]
  split
  · rename_i here
    have inside := reached.mp here
    omega
  · rename_i apart
    have outside := mt reached.mpr apart
    omega

theorem overlapping_zero (entries : List (UInt32 × OooSegment)) :
    overlapping seq 0 entries = 0 := by
  induction entries with
  | nil => rfl
  | cons entry rest ih =>
      simp only [overlapping, ih, covered]
      omega

theorem overlapping_succ (entries : List (UInt32 × OooSegment))
    (near : place base seq + (len + 1) < 2 ^ 31)
    (placed : ∀ entry ∈ entries, place base entry.1 + entry.2.data.length < 2 ^ 31) :
    overlapping seq (len + 1) entries = overlapping seq len entries +
      entries.countP fun entry => (byteAt (seq + UInt32.ofNat len) entry).isSome := by
  induction entries with
  | nil => rfl
  | cons entry rest ih =>
      obtain ⟨key, old⟩ := entry
      have first : covered seq (len + 1) key old = covered seq len key old +
          if (byteAt (seq + UInt32.ofNat len) (key, old)).isSome then 1 else 0 :=
        covered_succ near (placed (key, old) List.mem_cons_self)
      have later := ih fun other member => placed other (List.mem_cons_of_mem _ member)
      simp only [overlapping, List.countP_cons]
      omega

/-- Where no two segments cover the same number, the number of those that do is known from
whether a byte is found. -/
theorem countP_byteAt (entries : List (UInt32 × OooSegment))
    (once : entries.Pairwise fun first second =>
      (byteAt word first).isSome = true → (byteAt word second).isSome = false) :
    (entries.countP fun entry => (byteAt word entry).isSome) =
      if (entries.findSome? (byteAt word)).isSome then 1 else 0 := by
  induction entries with
  | nil => rfl
  | cons entry rest ih =>
      obtain ⟨alone, once⟩ := List.pairwise_cons.mp once
      rw [List.countP_cons, List.findSome?_cons, ih once]
      cases here : byteAt word entry with
      | none => simp
      | some byte =>
          have others : (rest.findSome? (byteAt word)).isSome = false := by
            rw [Bool.eq_false_iff, ne_eq, List.findSome?_isSome_iff]
            rintro ⟨other, member, there⟩
            rw [alone other member (by rw [here]; rfl)] at there
            cases there
          simp [others]

theorem Placed.once (placed : Placed base cache) (word : UInt32) :
    cache.toList.Pairwise fun first second =>
      (byteAt word first).isSome = true → (byteAt word second).isSome = false := by
  refine Std.TreeMap.distinct_keys_toList.imp_of_mem ?_
  rintro ⟨key, old⟩ ⟨other, found⟩ member member' differ here
  have cached := Std.TreeMap.mem_toList_iff_getElem?_eq_some.mp member
  have cached' := Std.TreeMap.mem_toList_iff_getElem?_eq_some.mp member'
  have inside := (byteAt_isSome word (placed.near key old cached)).mp here
  rw [Bool.eq_false_iff]
  intro there
  have inside' := (byteAt_isSome word (placed.near other found cached')).mp there
  have same := placed.covers_unique cached cached' inside.1 inside.2 inside'.1 inside'.2
  rw [same] at differ
  exact differ Std.ReflCmp.compare_self

/-- The survey counts each number of the new segment that is held, once. -/
theorem Placed.overlapping_eq (placed : Placed base cache)
    (near : place base seq + len < 2 ^ 31) :
    overlapping seq len cache.toList = overlapCount cache seq len := by
  unfold overlapCount
  induction len with
  | zero => exact overlapping_zero _
  | succ len ih =>
      have entries : ∀ entry ∈ cache.toList,
          place base entry.1 + entry.2.data.length < 2 ^ 31 := fun entry member =>
        placed.near entry.1 entry.2 (Std.TreeMap.mem_toList_iff_getElem?_eq_some.mp member)
      have once := countP_byteAt cache.toList (placed.once (seq + UInt32.ofNat len))
      rw [overlapping_succ cache.toList near entries, ih (by omega), once, List.range_succ,
        List.countP_append, List.countP_singleton]
      rfl

theorem overlapCount_le (cache : OooCache) (seq : UInt32) (len : Nat) :
    overlapCount cache seq len ≤ len := by
  have bound := List.countP_le_length (l := List.range len)
    (p := fun index => (heldByte cache (seq + UInt32.ofNat index)).isSome)
  rwa [List.length_range] at bound

end

end Tunio
