import ActiveRouting.Library.HierarchicalWords
import ActiveRouting.Library.Numerals
import ActiveRouting.Network.Network

/-!
# The dragonfly as a network over words

A cube id below `4 ^ k` is written as a word of `k` base-4 digits.  Over these
words `dFlyRF::findNextLink` is `nextPort` and the loop of the `DFly`
constructor builds exactly the wires `cross`: the two are written
independently in the source, and meet here.
-/

namespace ActiveRouting.DFly

open ActiveRouting.Library.HierarchicalWords
open ActiveRouting.Library.Numerals

/-- Every cube id has a word. -/
theorem exists_word {k x : ℕ} (hx : x < 4 ^ k) :
    ∃ w : List (Fin 4), w.length = k ∧ number w = x := exists_number_eq k hx

/-! ## Next hop -/

theorem quadLoop_number : ∀ (q : Fin 4) {c d : List (Fin 4)}, c.length = d.length →
    DFlyRF.quadLoop (4 ^ c.length) (q * 4 ^ c.length + number c)
      (q * 4 ^ c.length + number d) q q = nextPort q c d
  | q, [], [], _ => by
    rw [DFlyRF.quadLoop]
    simp [nextPort]
  | _, [], _ :: _, hlen => by simp at hlen
  | _, _ :: _, [], hlen => by simp at hlen
  | q, c :: cs, d :: ds, hlen => by
    have hlen' : cs.length = ds.length := by simpa using hlen
    have hlarge : 1 < 4 ^ (c :: cs).length := Nat.one_lt_pow (by simp) (by decide)
    have hquarter : 4 ^ (c :: cs).length / 4 = 4 ^ cs.length := by
      rw [List.length_cons, pow_succ, Nat.mul_div_cancel _ (by decide)]
    rw [DFlyRF.quadLoop, if_pos hlarge]
    simp only [hquarter, Nat.add_sub_cancel_left, number_cons_div]
    rw [hlen', number_cons_div, ← hlen']
    by_cases hcd : c = d
    · subst hcd
      have ih := quadLoop_number c hlen'
      simpa [nextPort, number_cons, hlen'] using ih
    · have hcd' : (c : ℕ) ≠ d := fun h => hcd (Fin.ext h)
      simp [nextPort, hcd, hcd']

/-- `dFlyRF::findNextLink` takes the first differing digit. -/
theorem findNextLink_number {c d : List (Fin 4)} (hlen : c.length = d.length) (req : Bool) :
    DFlyRF.findNextLink (4 ^ c.length) (number c) (number d) req = nextPort 0 c d := by
  simpa [DFlyRF.findNextLink] using quadLoop_number 0 hlen

/-! ## Wires -/

/-- The end of link `l` at the cube written by a word. -/
def wordEnd (a : List (Fin 4) × Fin 4) : LinkEnd := .hmc (number a.1) a.2

theorem wordEnd_injective {v w : List (Fin 4)} {l m : Fin 4} (hlen : v.length = w.length)
    (h : wordEnd (v, l) = wordEnd (w, m)) : v = w ∧ l = m := by
  simp only [wordEnd, LinkEnd.hmc.injEq] at h
  exact ⟨number_injective hlen h.1, Fin.ext h.2⟩

/-- After `r` levels, link `l` of the virtual router `pre` is link `l` of the
    corner `l … l` of its group. -/
def LevelRows (s r : ℕ) (rows : Rows) : Prop :=
  ∀ (pre : List (Fin 4)) (l : Fin 4), pre.length = s →
    rows (number pre) l = wordEnd (pre ++ List.replicate r l, l)

/-- After `r` levels the wires inside the groups of `r` digits are in place,
    and no link that leads out of such a group is connected. -/
def WiredBelow (k r : ℕ) (w : Wiring) : Prop :=
  ∀ (pre tail : List (Fin 4)) (l : Fin 4), tail.length = r → pre.length + r = k →
    w (wordEnd (pre ++ tail, l)) =
      (cross l tail).map fun far => wordEnd (pre ++ far.1, far.2)

theorem levelRows_zero (k : ℕ) : LevelRows k 0 LinkEnd.hmc := by
  intro pre l _
  simp [wordEnd]

theorem nextLevel_levelRows {s r : ℕ} {rows : Rows} (h : LevelRows (s + 1) r rows) :
    LevelRows s (r + 1) (nextLevel rows) := by
  intro pre l hpre
  have hrow := h (pre ++ [l]) l (by simp [hpre])
  rw [number_concat] at hrow
  rw [nextLevel, hrow, List.append_assoc, List.singleton_append, ← List.replicate_succ]

/-- The assignments of one level: from the corner facing `l` in the copy `j`
    to the corner facing `j` in the copy `l`, for every group of that level. -/
theorem mem_intraGroupLinks {s r : ℕ} {LM LS : Rows} (hLM : LevelRows (s + 1) r LM)
    (hLS : LevelRows (s + 1) r LS) {m e : LinkEnd} :
    (m, e) ∈ intraGroupLinks (4 ^ s) LM LS ↔
      ∃ (pre : List (Fin 4)) (j l : Fin 4), pre.length = s ∧ j ≠ l ∧
        m = wordEnd (pre ++ j :: List.replicate r l, l) ∧
        e = wordEnd (pre ++ l :: List.replicate r j, j) := by
  have hrow : ∀ {rows : Rows}, LevelRows (s + 1) r rows → ∀ (pre : List (Fin 4)) (j l : Fin 4),
      pre.length = s → rows (number pre * 4 + j) l = wordEnd (pre ++ j :: List.replicate r l, l) := by
    intro rows hrows pre j l hpre
    have := hrows (pre ++ [j]) l (by simp [hpre])
    rwa [number_concat, List.append_assoc, List.singleton_append] at this
  simp only [intraGroupLinks, numLinks, List.mem_flatMap, List.mem_range, List.mem_map,
    List.mem_filter, decide_eq_true_eq, Prod.mk.injEq]
  constructor
  · rintro ⟨i, hi, j, hj, l, ⟨hl, hjl⟩, rfl, rfl⟩
    obtain ⟨pre, hpre, rfl⟩ := exists_word hi
    refine ⟨pre, ⟨j, hj⟩, ⟨l, hl⟩, hpre, by simpa using hjl, ?_, ?_⟩
    · exact hrow hLM pre ⟨j, hj⟩ ⟨l, hl⟩ hpre
    · exact hrow hLS pre ⟨l, hl⟩ ⟨j, hj⟩ hpre
  · rintro ⟨pre, j, l, hpre, hjl, rfl, rfl⟩
    refine ⟨number pre, hpre ▸ number_lt pre, j, j.isLt, l, ⟨l.isLt, ?_⟩, ?_, ?_⟩
    · exact fun h => hjl (Fin.ext h)
    · exact hrow hLM pre j l hpre
    · exact hrow hLS pre l j hpre

/-- One level of the loop completes the wires of the groups one digit longer. -/
theorem connectAll_wiredBelow {k s r : ℕ} {LM LS : Rows} {w : Wiring} (hk : s + 1 + r = k)
    (hLM : LevelRows (s + 1) r LM) (hLS : LevelRows (s + 1) r LS) (hw : WiredBelow k r w) :
    WiredBelow k (r + 1) (w.connectAll (intraGroupLinks (4 ^ s) LM LS)) := by
  intro pre tail l htail hpre
  obtain ⟨j, t, rfl⟩ : ∃ j t, tail = j :: t := by
    cases tail with
    | nil => simp at htail
    | cons j t => exact ⟨j, t, rfl⟩
  have ht : t.length = r := by simpa using htail
  have hpre_len : pre.length = s := by omega
  have hbefore := hw (pre ++ [j]) t l ht (by simp; omega)
  rw [List.append_assoc, List.singleton_append] at hbefore
  -- an assignment to this master is the one of the pair of copies `j` and `l`
  have hkey : ∀ e, (wordEnd (pre ++ j :: t, l), e) ∈ intraGroupLinks (4 ^ s) LM LS →
      j ≠ l ∧ t = List.replicate r l ∧ e = wordEnd (pre ++ l :: List.replicate r j, j) := by
    intro e he
    obtain ⟨pre', j', l', hpre', hne, hm, rfl⟩ := (mem_intraGroupLinks hLM hLS).mp he
    obtain ⟨hword, rfl⟩ := wordEnd_injective (by simp [hpre_len, hpre', ht]) hm
    obtain ⟨rfl, htl⟩ := List.append_inj hword (hpre_len.trans hpre'.symm)
    obtain ⟨rfl, rfl⟩ := List.cons.inj htl
    exact ⟨hne, rfl, rfl⟩
  cases hcross : cross l t with
  | some far =>
    obtain ⟨t', p⟩ := far
    rw [Wiring.connectAll_of_notMem, hbefore]
    · simp [cross, hcross]
    · intro e he
      rw [(hkey e he).2.1, cross_replicate] at hcross
      simp at hcross
  | none =>
    have htl : t = List.replicate r l := by
      rw [← ht]
      exact cross_eq_none_iff.mp hcross
    by_cases hjl : j = l
    · rw [Wiring.connectAll_of_notMem fun e he => (hkey e he).1 hjl, hbefore]
      simp [cross, hcross, hjl]
    · rw [Wiring.connectAll_of_mem ((mem_intraGroupLinks hLM hLS).mpr
        ⟨pre, j, l, hpre_len, hjl, by rw [htl], rfl⟩) fun e he => (hkey e he).2.2]
      simp [cross, hcross, hjl, ht]

/-- The loop, entered after `r` levels with `4 ^ s` groups left, ends with all
    wires in place. -/
theorem wireGroups_spec {k : ℕ} : ∀ (s r : ℕ) {LM LS : Rows} {w : Wiring}, s + r = k →
    LevelRows s r LM → LevelRows s r LS → WiredBelow k r w →
    WiredBelow k k (wireGroups (4 ^ s) LM LS w).1 ∧
      LevelRows 0 k (wireGroups (4 ^ s) LM LS w).2.1 ∧
      LevelRows 0 k (wireGroups (4 ^ s) LM LS w).2.2
  | 0, r, LM, LS, w, hk, hLM, hLS, hw => by
    obtain rfl : r = k := by omega
    rw [wireGroups, if_neg (by simp)]
    exact ⟨hw, hLM, hLS⟩
  | s + 1, r, LM, LS, w, hk, hLM, hLS, hw => by
    have hquarter : 4 ^ (s + 1) / 4 = 4 ^ s := by
      rw [pow_succ, Nat.mul_div_cancel _ (by decide)]
    rw [wireGroups, if_pos (Nat.one_lt_pow (by simp) (by decide)), hquarter]
    exact wireGroups_spec s (r + 1) (by omega) (nextLevel_levelRows hLM) (nextLevel_levelRows hLS)
      (connectAll_wiredBelow hk hLM hLS hw)

/-! ## The finished network -/

/-- The cube that controller `i` is attached to: the corner `i i … i`. -/
def rootWord (k : ℕ) (i : Fin 4) : List (Fin 4) := List.replicate k i

theorem mem_hostLinks {k : ℕ} {LM LS : Rows} (hLM : LevelRows 0 k LM) (hLS : LevelRows 0 k LS)
    {m e : LinkEnd} :
    (m, e) ∈ hostLinks LM LS ↔
      ∃ i : Fin 4, (m = .hmcCont i ∧ e = wordEnd (rootWord k i, i)) ∨
        (m = wordEnd (rootWord k i, i) ∧ e = .hmcCont i) := by
  have hrow : ∀ {rows : Rows}, LevelRows 0 k rows → ∀ i : Fin 4,
      rows 0 i = wordEnd (rootWord k i, i) := fun hrows i => by simpa [rootWord] using hrows [] i rfl
  simp only [hostLinks, ncpus, List.mem_flatMap, List.mem_range, List.mem_cons, Prod.mk.injEq,
    List.not_mem_nil, or_false]
  constructor
  · rintro ⟨i, hi, hcase⟩
    have hM := hrow hLM ⟨i, hi⟩
    have hS := hrow hLS ⟨i, hi⟩
    refine ⟨⟨i, hi⟩, ?_⟩
    rcases hcase with ⟨rfl, rfl⟩ | ⟨rfl, rfl⟩
    · exact Or.inl ⟨rfl, hS⟩
    · exact Or.inr ⟨hM, rfl⟩
  · rintro ⟨i, hcase⟩
    refine ⟨i, i.isLt, ?_⟩
    rwa [hrow hLS i, hrow hLM i]

/-- What the constructor leaves behind, in terms of the loop's result. -/
theorem wiring_eq (k : ℕ) :
    ∃ (w : Wiring) (LM LS : Rows), wiring (4 ^ k) = w.connectAll (hostLinks LM LS) ∧
      WiredBelow k k w ∧ LevelRows 0 k LM ∧ LevelRows 0 k LS := by
  have hstart : WiredBelow k 0 fun _ => none := by
    intro pre tail l htail _
    simp [List.eq_nil_of_length_eq_zero htail, cross]
  exact ⟨_, _, _, rfl, wireGroups_spec k 0 rfl (levelRows_zero k) (levelRows_zero k) hstart⟩

/-- Every inner wire is built. -/
theorem wiring_cross {k : ℕ} {c : List (Fin 4)} (hc : c.length = k) {l : Fin 4}
    {far : List (Fin 4) × Fin 4} (h : cross l c = some far) :
    wiring (4 ^ k) (wordEnd (c, l)) = some (wordEnd far) := by
  obtain ⟨w, LM, LS, hwiring, hwired, hLM, hLS⟩ := wiring_eq k
  rw [hwiring, Wiring.connectAll_of_notMem]
  · simpa [h] using hwired [] c l hc (by simp)
  · intro e he
    obtain ⟨i, ⟨hm, -⟩ | ⟨hm, -⟩⟩ := (mem_hostLinks hLM hLS).mp he
    · simp [wordEnd] at hm
    · obtain ⟨rfl, rfl⟩ := wordEnd_injective (by simp [rootWord, hc]) hm
      rw [rootWord, cross_replicate] at h
      simp at h

theorem hostLinks_unique {k : ℕ} {LM LS : Rows} (hLM : LevelRows 0 k LM) (hLS : LevelRows 0 k LS)
    (i : Fin 4) :
    (∀ e, (wordEnd (rootWord k i, i), e) ∈ hostLinks LM LS → e = .hmcCont i) ∧
      ∀ e, (.hmcCont i, e) ∈ hostLinks LM LS → e = wordEnd (rootWord k i, i) := by
  constructor
  · intro e he
    obtain ⟨j, ⟨hm, -⟩ | ⟨hm, rfl⟩⟩ := (mem_hostLinks hLM hLS).mp he
    · simp [wordEnd] at hm
    · rw [(wordEnd_injective (by simp [rootWord]) hm).2]
  · intro e he
    obtain ⟨j, ⟨hm, rfl⟩ | ⟨hm, -⟩⟩ := (mem_hostLinks hLM hLS).mp he
    · obtain rfl : i = j := Fin.ext (by simpa using hm)
      rfl
    · simp [wordEnd] at hm

/-- Port `i` of the corner `i … i` leads to controller `i`, and back. -/
theorem wiring_root (k : ℕ) (i : Fin 4) :
    wiring (4 ^ k) (wordEnd (rootWord k i, i)) = some (.hmcCont i) ∧
      wiring (4 ^ k) (.hmcCont i) = some (wordEnd (rootWord k i, i)) := by
  obtain ⟨w, LM, LS, hwiring, -, hLM, hLS⟩ := wiring_eq k
  obtain ⟨huniq, huniq'⟩ := hostLinks_unique hLM hLS i
  rw [hwiring]
  constructor
  · exact Wiring.connectAll_of_mem ((mem_hostLinks hLM hLS).mpr ⟨i, Or.inr ⟨rfl, rfl⟩⟩) huniq
  · exact Wiring.connectAll_of_mem ((mem_hostLinks hLM hLS).mpr ⟨i, Or.inl ⟨rfl, rfl⟩⟩) huniq'

theorem two_pow_mul_self (k : ℕ) : 2 ^ k * 2 ^ k = 4 ^ k := (mul_pow 2 2 k).symm

@[simp] theorem network_nodes (k : ℕ) : (network (2 ^ k)).nodes = 4 ^ k := two_pow_mul_self k

theorem network_findNextLink {k : ℕ} {c d : List (Fin 4)} (hc : c.length = k) (hd : d.length = k)
    (req : Bool) :
    (network (2 ^ k)).findNextLink (number c) (number d) req = nextPort 0 c d := by
  rw [network, two_pow_mul_self, ← hc]
  exact findNextLink_number (hc.trans hd.symm) req

theorem network_linkSlaveP (k : ℕ) : (network (2 ^ k)).linkSlaveP = wiring (4 ^ k) := by
  rw [network, two_pow_mul_self]

/-- One hop in the built network is one crossing in the abstract one. -/
theorem network_hop {k : ℕ} {c d : List (Fin 4)} (hc : c.length = k) (hd : d.length = k)
    (req : Bool) :
    (network (2 ^ k)).hop req (number c) (number d) =
      (cross (nextPort 0 c d) c).map fun far => (number far.1, (far.2 : ℕ)) := by
  rw [Network.hop, network_findNextLink hc hd, network_linkSlaveP]
  cases hcross : cross (nextPort 0 c d) c with
  | some far =>
    have hwire : wiring (4 ^ k) (.hmc (number c) (nextPort 0 c d : Fin 4)) =
        some (wordEnd far) :=
      wiring_cross hc hcross
    rw [hwire]
    rfl
  | none =>
    have hroot : c = rootWord k (nextPort 0 c d) := by
      rw [rootWord, ← hc]
      exact cross_eq_none_iff.mp hcross
    have hwire : wiring (4 ^ k) (.hmc (number c) (nextPort 0 c d : Fin 4)) =
        some (.hmcCont (nextPort 0 c d : Fin 4)) := by
      have hroot_wire := (wiring_root k (nextPort 0 c d)).1
      rw [← hroot] at hroot_wire
      exact hroot_wire
    rw [hwire]
    rfl

end ActiveRouting.DFly
