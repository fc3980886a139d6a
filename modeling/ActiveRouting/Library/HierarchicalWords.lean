import Mathlib.Data.List.Basic
import Mathlib.Tactic.Ring
import Mathlib.Tactic.Linarith

/-!
# Recursively wired networks over words

A node is a word over an alphabet of ports, most significant letter first.  A
group of level `n` consists of one copy of the level `n - 1` group per letter;
the copies are joined pairwise, copy `c` and copy `l` through the corner node
`l l … l` of copy `c` and the corner node `c c … c` of copy `l`.

Routing looks for the first letter in which two words differ.  The module
proves that one hop of that rule lowers `hops` by exactly one, bounds `hops`,
and shows that the rule run backwards from any node of a route finds the port
by which the route came in.
-/

namespace ActiveRouting.Library.HierarchicalWords

variable {α : Type*} [DecidableEq α]

/-! ## Wires and routing -/

/-- The far end of port `l` of a node, with the port of arrival there.  Port
    `l` of the corner node `l l … l` leads out of the whole network. -/
def cross (l : α) : List α → Option (List α × α)
  | [] => none
  | c :: cs =>
    match cross l cs with
    | some (w, p) => some (c :: w, p)
    | none => if c = l then none else some (l :: List.replicate cs.length c, c)

/-- The port taken towards a destination: its letter at the first level where
    it differs from the current node, and the last letter where there is none. -/
def nextPort (last : α) : List α → List α → α
  | c :: cs, d :: ds => if c = d then nextPort c cs ds else d
  | _, _ => last

/-- The number of hops to the corner `l l … l`. -/
def climb (l : α) : List α → ℕ
  | [] => 0
  | c :: cs => climb l cs + if c = l then 0 else 2 ^ cs.length

/-- The number of hops between two nodes: climb to the corner that faces the
    destination's copy, cross, and go on inside that copy. -/
def hops : List α → List α → ℕ
  | c :: cs, d :: ds =>
    if c = d then hops cs ds
    else climb d cs + 1 + hops (List.replicate cs.length c) ds
  | _, _ => 0

/-- `OnRoute r d c`: the node `c` lies on the route from `r` to `d`. -/
def OnRoute : List α → List α → List α → Prop
  | r :: rs, d :: ds, c :: cs =>
    if r = d then c = r ∧ OnRoute rs ds cs
    else (c = r ∧ OnRoute rs (List.replicate rs.length d) cs) ∨
      (c = d ∧ OnRoute (List.replicate rs.length r) ds cs)
  | _, _, _ => True

/-! ## The shape of a wire -/

theorem cross_length {l p : α} {c w : List α} (h : cross l c = some (w, p)) :
    w.length = c.length := by
  induction c generalizing w with
  | nil => simp [cross] at h
  | cons a cs ih =>
    simp only [cross] at h
    split at h
    · rename_i w' p' hcs
      obtain ⟨rfl, rfl⟩ : a :: w' = w ∧ p' = p := by simpa using h
      simp [ih hcs]
    · split at h
      · simp at h
      · obtain ⟨rfl, rfl⟩ : l :: List.replicate cs.length a = w ∧ a = p := by simpa using h
        simp

@[simp] theorem cross_replicate (l : α) (n : ℕ) : cross l (List.replicate n l) = none := by
  induction n with
  | zero => rfl
  | succ n ih => simp [List.replicate_succ, cross, ih]

/-- Only the port `l` of the corner `l l … l` leads out of the network. -/
theorem cross_eq_none_iff {l : α} {c : List α} :
    cross l c = none ↔ c = List.replicate c.length l := by
  constructor
  · intro h
    induction c with
    | nil => rfl
    | cons a cs ih =>
      simp only [cross] at h
      split at h
      · simp at h
      · rename_i hcs
        split at h
        · rename_i hal
          rw [hal, List.length_cons, List.replicate_succ, ← ih hcs]
        · simp at h
  · intro h
    rw [h, cross_replicate]

/-- The explicit form of a wire: below a common prefix it joins the corner that
    faces `l` in the copy `p` with the corner that faces `p` in the copy `l`. -/
theorem cross_eq_some_iff {l p : α} {c w : List α} :
    cross l c = some (w, p) ↔
      p ≠ l ∧ ∃ pre n, c = pre ++ p :: List.replicate n l ∧ w = pre ++ l :: List.replicate n p := by
  constructor
  · intro h
    induction c generalizing w with
    | nil => simp [cross] at h
    | cons a cs ih =>
      simp only [cross] at h
      split at h
      · rename_i w' p' hcs
        obtain ⟨rfl, rfl⟩ : a :: w' = w ∧ p' = p := by simpa using h
        obtain ⟨hne, pre, n, rfl, rfl⟩ := ih hcs
        exact ⟨hne, a :: pre, n, rfl, rfl⟩
      · rename_i hcs
        split at h
        · simp at h
        · rename_i hal
          obtain ⟨rfl, rfl⟩ : l :: List.replicate cs.length a = w ∧ a = p := by simpa using h
          refine ⟨hal, [], cs.length, ?_, rfl⟩
          rw [List.nil_append, ← cross_eq_none_iff.mp hcs]
  · rintro ⟨hne, pre, n, rfl, rfl⟩
    induction pre with
    | nil => simp [cross, hne]
    | cons a pre ih => simp [cross, ih]

/-- Every wire can be crossed back. -/
theorem cross_symm {l p : α} {c w : List α} (h : cross l c = some (w, p)) :
    cross p w = some (c, l) := by
  obtain ⟨hne, pre, n, hc, hw⟩ := cross_eq_some_iff.mp h
  exact cross_eq_some_iff.mpr ⟨hne.symm, pre, n, hw, hc⟩

/-! ## Hop counts -/

@[simp] theorem climb_replicate_self (l : α) (n : ℕ) : climb l (List.replicate n l) = 0 := by
  induction n with
  | zero => rfl
  | succ n ih => simp [List.replicate_succ, climb, ih]

theorem climb_replicate_ne {l a : α} (h : a ≠ l) (n : ℕ) :
    climb l (List.replicate n a) + 1 = 2 ^ n := by
  induction n with
  | zero => rfl
  | succ n ih =>
    simp only [List.replicate_succ, climb, h, if_false, List.length_replicate]
    rw [pow_succ]
    omega

theorem climb_lt (l : α) (c : List α) : climb l c < 2 ^ c.length := by
  induction c with
  | nil => simp [climb]
  | cons a cs ih =>
    simp only [climb, List.length_cons, pow_succ]
    split <;> omega

/-- Crossing port `l` brings a node one hop closer to the corner `l l … l`. -/
theorem climb_cross {l p : α} {c w : List α} (h : cross l c = some (w, p)) :
    climb l w + 1 = climb l c := by
  induction c generalizing w with
  | nil => simp [cross] at h
  | cons a cs ih =>
    simp only [cross] at h
    split at h
    · rename_i w' p' hcs
      obtain ⟨rfl, rfl⟩ : a :: w' = w ∧ p' = p := by simpa using h
      have := ih hcs
      simp only [climb, cross_length hcs]
      omega
    · rename_i hcs
      split at h
      · simp at h
      · rename_i hal
        obtain ⟨rfl, rfl⟩ : l :: List.replicate cs.length a = w ∧ a = p := by simpa using h
        have hcorner : climb l cs = 0 := by
          rw [cross_eq_none_iff.mp hcs, climb_replicate_self]
        have hfull := climb_replicate_ne hal cs.length
        simp only [climb, hcorner, hal, if_false, if_true]
        omega

@[simp] theorem hops_self (c : List α) : hops c c = 0 := by
  induction c with
  | nil => rfl
  | cons a cs ih => simp [hops, ih]

/-- No route is longer than `2 ^ k - 1`. -/
theorem hops_lt : ∀ (c d : List α), c.length = d.length → hops c d < 2 ^ c.length
  | [], _, _ => by simp [hops]
  | _ :: _, [], h => by simp at h
  | a :: cs, b :: ds, h => by
    have hlen : cs.length = ds.length := by simpa using h
    simp only [hops, List.length_cons, pow_succ]
    split
    · have := hops_lt cs ds hlen
      omega
    · have hclimb := climb_lt b cs
      have hrest := hops_lt (List.replicate cs.length a) ds (by simpa using hlen)
      rw [List.length_replicate] at hrest
      omega

/-! ## One hop -/

@[simp] theorem nextPort_replicate (last l : α) :
    ∀ c : List α, c ≠ [] → nextPort last c (List.replicate c.length l) = l
  | [], h => absurd rfl h
  | [a], _ => by by_cases h : a = l <;> simp [nextPort, h]
  | a :: b :: cs, _ => by
    by_cases h : a = l
    · rw [List.length_cons, List.replicate_succ, nextPort, if_pos h]
      exact nextPort_replicate a l (b :: cs) (by simp)
    · simp [List.replicate_succ, nextPort, h]

/-- The port of a wire is the port towards the node at its far end. -/
theorem nextPort_cross (last : α) {l p : α} {c w : List α} (h : cross l c = some (w, p)) :
    nextPort last c w = l := by
  obtain ⟨hne, pre, n, rfl, rfl⟩ := cross_eq_some_iff.mp h
  induction pre generalizing last with
  | nil => simp [nextPort, hne]
  | cons a pre ih => simpa [nextPort] using ih a (cross_eq_some_iff.mpr ⟨hne, pre, n, rfl, rfl⟩)

/-- Towards any other node the port is an inner wire, and crossing it takes
    exactly one hop off the route. -/
theorem hops_nextPort (last : α) :
    ∀ {c d : List α}, c.length = d.length → c ≠ d →
      ∃ w p, cross (nextPort last c d) c = some (w, p) ∧ hops w d + 1 = hops c d
  | [], [], _, hne => absurd rfl hne
  | [], _ :: _, hlen, _ => by simp at hlen
  | _ :: _, [], hlen, _ => by simp at hlen
  | a :: cs, b :: ds, hlen, hne => by
    have hlen' : cs.length = ds.length := by simpa using hlen
    by_cases hab : a = b
    · subst hab
      obtain ⟨w, p, hw, hops_w⟩ := hops_nextPort a hlen' (by simpa using hne)
      refine ⟨a :: w, p, ?_, ?_⟩
      · simp [nextPort, cross, hw]
      · simpa [hops] using hops_w
    · simp only [nextPort, hab, if_false]
      cases hcs : cross b cs with
      | some wp =>
        obtain ⟨w, p⟩ := wp
        refine ⟨a :: w, p, by simp [cross, hcs], ?_⟩
        have := climb_cross hcs
        simp only [hops, hab, if_false, cross_length hcs]
        omega
      | none =>
        refine ⟨b :: List.replicate cs.length a, a, by simp [cross, hcs, hab], ?_⟩
        have hcorner : climb b cs = 0 := by
          rw [cross_eq_none_iff.mp hcs, climb_replicate_self]
        simp only [hops, hab, if_false, if_true, hcorner]
        omega

/-! ## The way back -/

theorem onRoute_cons_same {r c : α} {rs ds cs : List α} :
    OnRoute (r :: rs) (r :: ds) (c :: cs) ↔ c = r ∧ OnRoute rs ds cs := by
  simp [OnRoute]

theorem onRoute_cons_ne {r d c : α} {rs ds cs : List α} (h : r ≠ d) :
    OnRoute (r :: rs) (d :: ds) (c :: cs) ↔
      (c = r ∧ OnRoute rs (List.replicate rs.length d) cs) ∨
        (c = d ∧ OnRoute (List.replicate rs.length r) ds cs) := by
  simp [OnRoute, h]

theorem onRoute_source : ∀ r d : List α, OnRoute r d r
  | [], _ => trivial
  | _ :: _, [] => trivial
  | r :: rs, d :: ds => by
    by_cases h : r = d
    · subst h
      exact onRoute_cons_same.mpr ⟨rfl, onRoute_source rs ds⟩
    · exact (onRoute_cons_ne h).mpr (Or.inl ⟨rfl, onRoute_source rs _⟩)

/-- The next node of a route is on the route, and the port towards the source
    there is the port of arrival. -/
theorem onRoute_step (last last' : α) :
    ∀ {r d c w : List α} {p : α}, r.length = c.length → d.length = c.length → c ≠ d →
      OnRoute r d c → cross (nextPort last c d) c = some (w, p) →
      OnRoute r d w ∧ nextPort last' w r = p
  | _, [], [], _, _, _, _, hne, _, _ => absurd rfl hne
  | _, _ :: _, [], _, _, _, hd, _, _, _ => by simp at hd
  | _, [], _ :: _, _, _, _, hd, _, _, _ => by simp at hd
  | [], _, _ :: _, _, _, hr, _, _, _, _ => by simp at hr
  | r :: rs, d :: ds, c :: cs, w, p, hr, hd, hne, hon, hw => by
    have hr' : rs.length = cs.length := by simpa using hr
    have hd' : ds.length = cs.length := by simpa using hd
    by_cases hrd : r = d
    · subst hrd
      obtain ⟨rfl, hon'⟩ := onRoute_cons_same.mp hon
      have hne' : cs ≠ ds := by simpa using hne
      obtain ⟨w', p', hw', -⟩ := hops_nextPort c hd'.symm hne'
      obtain ⟨rfl, rfl⟩ : c :: w' = w ∧ p' = p := by simpa [nextPort, cross, hw'] using hw
      obtain ⟨hon_w, hback⟩ := onRoute_step c c hr' hd' hne' hon' hw'
      exact ⟨onRoute_cons_same.mpr ⟨rfl, hon_w⟩, by simpa [nextPort] using hback⟩
    · rcases (onRoute_cons_ne hrd).mp hon with ⟨rfl, hon'⟩ | ⟨rfl, hon'⟩
      · -- still in the source's copy, climbing to the corner that faces `d`
        simp only [nextPort, hrd, if_false] at hw
        cases hcs : cross d cs with
        | some wp =>
          obtain ⟨w', p'⟩ := wp
          obtain ⟨rfl, rfl⟩ : c :: w' = w ∧ p' = p := by simpa [cross, hcs] using hw
          have hne' : cs ≠ List.replicate cs.length d := by
            intro h
            rw [h, cross_replicate] at hcs
            simp at hcs
          have hcs' : cross (nextPort c cs (List.replicate cs.length d)) cs = some (w', p') := by
            rw [nextPort_replicate c d cs (by rintro rfl; simp [cross] at hcs)]
            exact hcs
          obtain ⟨hon_w, hback⟩ :=
            onRoute_step c c hr' (by simp) hne' (by rwa [hr'] at hon') hcs'
          refine ⟨(onRoute_cons_ne hrd).mpr (Or.inl ⟨rfl, ?_⟩), by simpa [nextPort] using hback⟩
          rwa [hr']
        | none =>
          obtain ⟨rfl, rfl⟩ : d :: List.replicate cs.length c = w ∧ c = p := by
            simpa [cross, hcs, hrd] using hw
          refine ⟨(onRoute_cons_ne hrd).mpr (Or.inr ⟨rfl, ?_⟩), by simp [nextPort, Ne.symm hrd]⟩
          rw [hr']
          exact onRoute_source _ _
      · -- in the destination's copy, entered at the corner that faces `r`
        have hne' : cs ≠ ds := by simpa using hne
        obtain ⟨w', p', hw', -⟩ := hops_nextPort c hd'.symm hne'
        obtain ⟨rfl, rfl⟩ : c :: w' = w ∧ p' = p := by simpa [nextPort, cross, hw'] using hw
        obtain ⟨hon_w, hback⟩ := onRoute_step c c (by simpa using hr') hd' hne' hon' hw'
        have hlen : w'.length = rs.length := (cross_length hw').trans hr'.symm
        have hw_ne : w' ≠ [] := by
          rintro rfl
          exact hne' (by rw [List.eq_nil_of_length_eq_zero (cross_length hw').symm,
            List.eq_nil_of_length_eq_zero (hd'.trans (cross_length hw').symm)])
        refine ⟨(onRoute_cons_ne hrd).mpr (Or.inr ⟨rfl, hon_w⟩), ?_⟩
        rw [← hlen, nextPort_replicate c r w' hw_ne] at hback
        simpa [nextPort, Ne.symm hrd] using hback

end ActiveRouting.Library.HierarchicalWords
