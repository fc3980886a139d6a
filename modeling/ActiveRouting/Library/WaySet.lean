import Mathlib.Data.List.Perm.Basic
import Mathlib.Logic.Function.Basic

/-!
# The ways of a set-associative cache

A set is an array of pointers to its entries.  The order of the pointers is the
order of their last uses: a use moves a pointer to the back by hand, and the
entry at the front is the next one that is replaced.
-/

/-- `ways` are the pointers in their order and `entry` is what they point to. -/
structure WaySet (ε : Type) where
  ways : List ℕ
  entry : ℕ → ε
  nonempty : ways ≠ []

namespace WaySet

variable {ε κ : Type} (s : WaySet ε)

/-- A set as it is built. -/
def build (num_ways : ℕ) (positive : 0 < num_ways) (blank : ε) : WaySet ε where
  ways := List.range num_ways
  entry _ := blank
  nonempty := by simpa using Nat.pos_iff_ne_zero.mp positive

def front : ℕ := s.ways.head s.nonempty

/-- The first place whose entry satisfies a condition, with its pointer. -/
def search (p : ε → Bool) : Option (ℕ × ℕ) :=
  (s.ways.findIdx? fun way => p (s.entry way)).bind fun idx =>
    s.ways[idx]?.map fun way => (idx, way)

def write (way : ℕ) (e : ε) : WaySet ε := { s with entry := Function.update s.entry way e }

@[simp] theorem write_ways (way : ℕ) (e : ε) : (s.write way e).ways = s.ways := rfl

@[simp] theorem write_self (way : ℕ) (e : ε) : (s.write way e).entry way = e := by simp [write]

theorem write_of_ne {way other : ℕ} (e : ε) (isOther : other ≠ way) :
    (s.write way e).entry other = s.entry other := by simp [write, isOther]

/-- The places from `idx` on take the pointer of the next one, and the last one takes `way`. -/
def shift (ways : List ℕ) (idx way : ℕ) : List ℕ :=
  ((List.range' idx (ways.length - 1 - idx)).foldl
    (fun ways i => ways.set i (ways.getD (i + 1) 0)) ways).set (ways.length - 1) way

theorem shift_loop (rest : List ℕ) (before : List ℕ) (way : ℕ) :
    ∃ last, (List.range' before.length rest.length).foldl
      (fun ways i => ways.set i (ways.getD (i + 1) 0)) (before ++ way :: rest) =
        before ++ rest ++ [last] := by
  induction rest generalizing before way with
  | nil => exact ⟨way, by simp⟩
  | cons next rest inductionHypothesis =>
    obtain ⟨last, looped⟩ := inductionHypothesis (before ++ [next]) next
    refine ⟨last, ?_⟩
    have stepped : (before ++ way :: next :: rest).set before.length
        ((before ++ way :: next :: rest).getD (before.length + 1) 0) =
          before ++ [next] ++ next :: rest := by simp
    rw [List.length_cons, List.range'_succ, List.foldl_cons, stepped]
    simpa using looped

/-- The loop moves one pointer to the back. -/
theorem shift_append (before rest : List ℕ) (way : ℕ) :
    shift (before ++ way :: rest) before.length way = before ++ rest ++ [way] := by
  obtain ⟨last, looped⟩ := shift_loop rest before way
  have isLength : (before ++ way :: rest).length - 1 - before.length = rest.length := by
    simp only [List.length_append, List.length_cons]
    omega
  have isLast : (before ++ way :: rest).length - 1 = (before ++ rest).length := by simp
  rw [shift, isLength, looped, isLast, List.set_append_right _ _ (Nat.le_refl _), Nat.sub_self]
  rfl

theorem shift_ne_nil {ways : List ℕ} (nonempty : ways ≠ []) (idx way : ℕ) :
    shift ways idx way ≠ [] := by
  have kept (steps : List ℕ) : ∀ ways : List ℕ, (steps.foldl
      (fun ways i => ways.set i (ways.getD (i + 1) 0)) ways).length = ways.length := by
    induction steps with
    | nil => exact fun _ => rfl
    | cons step steps inductionHypothesis =>
      intro ways
      rw [List.foldl_cons, inductionHypothesis, List.length_set]
  rw [← List.length_pos_iff, shift, List.length_set, kept]
  exact List.length_pos_iff.mpr nonempty

def moveToBack (idx way : ℕ) : WaySet ε where
  ways := shift s.ways idx way
  entry := s.entry
  nonempty := shift_ne_nil s.nonempty idx way

@[simp] theorem moveToBack_entry (idx way : ℕ) : (s.moveToBack idx way).entry = s.entry := rfl

variable {s}

theorem search_eq_some {p : ε → Bool} {idx way : ℕ} (found : s.search p = some (idx, way)) :
    s.ways[idx]? = some way ∧ p (s.entry way) = true := by
  simp only [search, Option.bind_eq_some_iff, Option.map_eq_some_iff, Prod.mk.injEq] at found
  obtain ⟨_, isIdx, _, isWay, rfl, rfl⟩ := found
  obtain ⟨bounded, holds, -⟩ := List.findIdx?_eq_some_iff_getElem.mp isIdx
  rw [List.getElem?_eq_getElem bounded, Option.some.injEq] at isWay
  exact ⟨by rw [List.getElem?_eq_getElem bounded, isWay], isWay ▸ holds⟩

theorem search_eq_none {p : ε → Bool} (missed : s.search p = none) {way : ℕ}
    (isWay : way ∈ s.ways) : p (s.entry way) = false := by
  cases isIdx : s.ways.findIdx? fun way => p (s.entry way) with
  | none => exact List.findIdx?_eq_none_iff.mp isIdx way isWay
  | some idx =>
    obtain ⟨bounded, -⟩ := List.findIdx?_eq_some_iff_getElem.mp isIdx
    simp [search, isIdx, bounded] at missed

theorem moveToBack_ways {idx way : ℕ} (isWay : s.ways[idx]? = some way) :
    (s.moveToBack idx way).ways = s.ways.eraseIdx idx ++ [way] := by
  obtain ⟨bounded, isWay⟩ := List.getElem?_eq_some_iff.mp isWay
  obtain ⟨before, rest, isWays, isLength⟩ : ∃ before rest, s.ways = before ++ way :: rest ∧
      before.length = idx :=
    ⟨s.ways.take idx, s.ways.drop (idx + 1),
      by rw [← isWay, List.getElem_cons_drop, List.take_append_drop],
      List.length_take_of_le (Nat.le_of_lt bounded)⟩
  have erased : s.ways.eraseIdx idx = before ++ rest := by
    rw [isWays, ← isLength, List.eraseIdx_append_of_length_le (Nat.le_refl _), Nat.sub_self]
    rfl
  rw [erased]
  show shift s.ways idx way = _
  rw [isWays, ← isLength, shift_append]

theorem front_eq : s.ways[0]? = some s.front := by
  rw [front, ← List.head?_eq_getElem?, List.head?_eq_some_head]

/-- A set represents a part of a cache with `num_ways` ways: no pointer is lost or doubled, and
    no two entries have one key. -/
structure Represents (num_ways : ℕ) (key : ε → Option κ) (s : WaySet ε) : Prop where
  perm : s.ways.Perm (List.range num_ways)
  distinct : ∀ way ∈ s.ways, ∀ other ∈ s.ways, ∀ k, key (s.entry way) = some k →
    key (s.entry other) = some k → way = other

variable {num_ways : ℕ} {key : ε → Option κ}

theorem represents_build (positive : 0 < num_ways) {blank : ε} (isBlank : key blank = none) :
    Represents num_ways key (build num_ways positive blank) where
  perm := .refl _
  distinct := by
    intro way _ other _ k isKey
    cases isBlank.symm.trans isKey

theorem Represents.moveToBack (represents : Represents num_ways key s) {idx way : ℕ}
    (isWay : s.ways[idx]? = some way) : Represents num_ways key (s.moveToBack idx way) := by
  obtain ⟨bounded, isGet⟩ := List.getElem?_eq_some_iff.mp isWay
  have perm : (s.moveToBack idx way).ways.Perm s.ways := by
    rw [moveToBack_ways isWay, ← isGet]
    exact (List.perm_append_comm).trans (List.getElem_cons_eraseIdx_perm bounded)
  refine ⟨perm.trans represents.perm, fun way isWay other isOther => ?_⟩
  exact represents.distinct way (perm.mem_iff.mp isWay) other (perm.mem_iff.mp isOther)

/-- An entry that keeps its key or loses it. -/
theorem Represents.write (represents : Represents num_ways key s) {way : ℕ} {e : ε}
    (keeps : key e = key (s.entry way) ∨ key e = none) :
    Represents num_ways key (s.write way e) := by
  have stays : ∀ other k, key ((s.write way e).entry other) = some k →
      key (s.entry other) = some k := by
    intro other k isKey
    by_cases same : other = way
    · rw [same] at isKey ⊢
      rw [write_self] at isKey
      cases keeps with
      | inl keeps => exact keeps.symm.trans isKey
      | inr loses => cases loses.symm.trans isKey
    · rwa [write_of_ne s e same] at isKey
  refine ⟨represents.perm, fun first isFirst second isSecond k firstKey secondKey => ?_⟩
  exact represents.distinct first isFirst second isSecond k (stays first k firstKey)
    (stays second k secondKey)

/-- An entry with a key that no entry of the set has. -/
theorem Represents.write_absent (represents : Represents num_ways key s) {way : ℕ} {e : ε}
    (absent : ∀ other ∈ s.ways, ∀ k, key e = some k → key (s.entry other) ≠ some k) :
    Represents num_ways key (s.write way e) := by
  have written (other : ℕ) : other = way ∧ (s.write way e).entry other = e ∨
      other ≠ way ∧ (s.write way e).entry other = s.entry other := by
    by_cases same : other = way
    · exact .inl ⟨same, same ▸ write_self s way e⟩
    · exact .inr ⟨same, write_of_ne s e same⟩
  refine ⟨represents.perm, fun first isFirst second isSecond k firstKey secondKey => ?_⟩
  obtain ⟨firstIs, firstEntry⟩ | ⟨firstNot, firstEntry⟩ := written first <;>
    obtain ⟨secondIs, secondEntry⟩ | ⟨secondNot, secondEntry⟩ := written second <;>
    rw [firstEntry] at firstKey <;> rw [secondEntry] at secondKey
  · exact firstIs.trans secondIs.symm
  · exact absurd secondKey (absent second isSecond k firstKey)
  · exact absurd firstKey (absent first isFirst k secondKey)
  · exact represents.distinct first isFirst second isSecond k firstKey secondKey

/-- The entry at the front is replaced by one with the key, and becomes the one used last. -/
structure FillsFront (key : ε → Option κ) (k : κ) (s s' : WaySet ε) : Prop where
  ways : s'.ways = s.ways.tail ++ [s.front]
  others : ∀ way ≠ s.front, s'.entry way = s.entry way
  filled : key (s'.entry s.front) = some k

/-- The entry at a place becomes the one used last, and the others keep their order. -/
def MovesToBack (idx way : ℕ) (s s' : WaySet ε) : Prop := s'.ways = s.ways.eraseIdx idx ++ [way]

/-- No other entry than the one at the front is replaced. -/
def ReplacesFront (tag : ε → κ) (s s' : WaySet ε) : Prop :=
  ∀ way, tag (s'.entry way) ≠ tag (s.entry way) →
    way = s.front ∧ s'.ways = s.ways.tail ++ [way] ∧ ∀ other ≠ way, s'.entry other = s.entry other

theorem fillsFront {e : ε} {k : κ} (isKey : key e = some k) :
    FillsFront key k s ((s.write s.front e).moveToBack 0 s.front) where
  ways := by
    rw [moveToBack_ways (s := s.write s.front e) s.front_eq, write_ways, List.eraseIdx_zero]
  others way isOther := write_of_ne s e isOther
  filled := by rw [moveToBack_entry, write_self, isKey]

theorem FillsFront.replacesFront {s' : WaySet ε} {k : κ} (fills : FillsFront key k s s')
    (tag : ε → κ) : ReplacesFront tag s s' := by
  intro way isReplaced
  have isFront : way = s.front := by
    by_contra isOther
    exact isReplaced (congrArg tag (fills.others way isOther))
  exact ⟨isFront, isFront ▸ fills.ways, isFront ▸ fills.others⟩

theorem replacesFront_of_kept {s' : WaySet ε} {tag : ε → κ}
    (kept : ∀ way, tag (s'.entry way) = tag (s.entry way)) : ReplacesFront tag s s' :=
  fun way isReplaced => absurd (kept way) isReplaced

variable (s)

/-- The place that a fill takes: that of an entry that satisfies a condition, or the front. -/
def place (p : ε → Bool) : ℕ × ℕ := (s.search p).getD (0, s.front)

/-- A fill, whose entry becomes the one used last. -/
def take (p : ε → Bool) (e : ε) : WaySet ε :=
  (s.write (s.place p).2 e).moveToBack (s.place p).1 (s.place p).2

variable {s}

theorem place_eq (s : WaySet ε) (p : ε → Bool) : s.ways[(s.place p).1]? = some (s.place p).2 := by
  unfold place
  cases found : s.search p with
  | none => exact s.front_eq
  | some place => exact (search_eq_some found).1

/-- A fill of the entry that has a key, or else of the one at the front. -/
theorem Represents.take (represents : Represents num_ways key s) {p : ε → Bool} {e : ε} {k : κ}
    (isKey : key e = some k) (held : ∀ e, p e = true ↔ key e = some k) :
    Represents num_ways key (s.take p e) := by
  have written : Represents num_ways key (s.write (s.place p).2 e) := by
    unfold place
    cases found : s.search p with
    | none =>
      apply represents.write_absent
      intro other isOther k' isKey' isSame
      rw [← Option.some.inj (isKey.symm.trans isKey'), ← held, search_eq_none found isOther] at isSame
      cases isSame
    | some place =>
      exact represents.write (.inl (isKey.trans ((held _).mp (search_eq_some found).2).symm))
  exact written.moveToBack (s.place_eq p)

/-- Where no entry has the key, the one at the front is replaced. -/
theorem take_fillsFront {p : ε → Bool} {e : ε} {k : κ} (isKey : key e = some k)
    (missed : s.search p = none) : FillsFront key k s (s.take p e) := by
  have isPlace : s.place p = (0, s.front) := by rw [place, missed, Option.getD_none]
  rw [take, isPlace]
  exact fillsFront isKey

theorem take_replacesFront {p : ε → Bool} {e : ε} (tag : ε → κ)
    (isTag : ∀ e', p e' = true → tag e' = tag e) : ReplacesFront tag s (s.take p e) := by
  cases found : s.search p with
  | none =>
    have filled : FillsFront (fun e => some (tag e)) (tag e) s (s.take p e) :=
      take_fillsFront rfl found
    exact filled.replacesFront tag
  | some place =>
    apply replacesFront_of_kept
    intro way
    have isPlace : s.place p = place := by rw [WaySet.place, found, Option.getD_some]
    rw [take, isPlace, moveToBack_entry]
    by_cases same : way = place.2
    · rw [same, write_self, isTag _ (search_eq_some found).2]
    · rw [write_of_ne s e same]

end WaySet
