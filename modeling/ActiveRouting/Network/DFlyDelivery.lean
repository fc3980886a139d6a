import ActiveRouting.Network.DFlyWiring

/-!
# Delivery in the dragonfly

Following `dFlyRF::findNextLink` through the links that the `DFly` constructor
attached reaches every cube from every other.
-/

namespace ActiveRouting.DFly

open ActiveRouting.Library.HierarchicalWords
open ActiveRouting.Library.Numerals
open ActiveRouting.Library.Walk (Ranked)

/-- The number of hops from the cube `c` to the cube `dst`. -/
def distance (k dst c : ℕ) : ℕ := hops (digits k c : List (Fin 4)) (digits k dst)

theorem distance_lt (k dst c : ℕ) : distance k dst c < 2 ^ k := by
  simpa [distance] using hops_lt (digits k c : List (Fin 4)) (digits k dst) (by simp)

/-- A hop towards another cube crosses an inter-cube link and comes closer. -/
theorem hop_distance {k c dst : ℕ} (req : Bool) (hc : c < 4 ^ k) (hdst : dst < 4 ^ k)
    (hne : c ≠ dst) :
    ∃ node link, (network (2 ^ k)).hop req c dst = some (node, link) ∧ node < 4 ^ k ∧
      link < numLinks ∧ distance k dst node + 1 = distance k dst c := by
  obtain ⟨cw, hcw, rfl⟩ := exists_word hc
  obtain ⟨dw, hdw, rfl⟩ := exists_word hdst
  have hne' : cw ≠ dw := fun h => hne (h ▸ rfl)
  obtain ⟨w, p, hcross, hhops⟩ := hops_nextPort 0 (hcw.trans hdw.symm) hne'
  have hw : w.length = k := (cross_length hcross).trans hcw
  refine ⟨number w, p, ?_, hw ▸ number_lt w, p.isLt, ?_⟩
  · rw [network_hop hcw hdw, hcross]
    rfl
  · simpa [distance, digits_number hcw, digits_number hdw, digits_number hw] using hhops

theorem ranked {k dst : ℕ} (req : Bool) (hdst : dst < 4 ^ k) :
    Ranked (fun c => ((network (2 ^ k)).hop req c dst).map Prod.fst) dst (· < 4 ^ k)
      (distance k dst) where
  rank_target := by simp [distance]
  step_rank c hc hne := by
    obtain ⟨node, link, hhop, hnode, -, hdist⟩ := hop_distance req hc hdst hne
    exact ⟨node, by rw [hhop]; rfl, hnode, hdist⟩

/-- The link taken towards `dst` leads to a controller only at `dst` itself,
    and then at the cube and link that the controller is attached to. -/
theorem hmcCont_of_findNextLink {k c dst i : ℕ} (req : Bool) (hc : c < 4 ^ k) (hdst : dst < 4 ^ k)
    (h : (network (2 ^ k)).linkSlaveP (.hmc c ((network (2 ^ k)).findNextLink c dst req)) =
      some (.hmcCont i)) :
    c = dst ∧ (network (2 ^ k)).linkSlaveP (.hmcCont i) =
      some (.hmc c ((network (2 ^ k)).findNextLink c dst req)) := by
  obtain ⟨cw, hcw, rfl⟩ := exists_word hc
  obtain ⟨dw, hdw, rfl⟩ := exists_word hdst
  rw [network_findNextLink hcw hdw, network_linkSlaveP] at *
  change wiring (4 ^ k) (wordEnd (cw, nextPort 0 cw dw)) = _ at h
  cases hcross : cross (nextPort 0 cw dw) cw with
  | some far =>
    rw [wiring_cross hcw hcross] at h
    simp [wordEnd] at h
  | none =>
    have hroot : cw = rootWord k (nextPort 0 cw dw) := by
      rw [rootWord, ← hcw]
      exact cross_eq_none_iff.mp hcross
    obtain ⟨hout, hback⟩ := wiring_root k (nextPort 0 cw dw)
    rw [← hroot] at hout hback
    obtain rfl : ((nextPort 0 cw dw : Fin 4) : ℕ) = i := by simpa [hout] using h
    refine ⟨?_, hback⟩
    by_contra hne
    obtain ⟨w, p, hinner, -⟩ := hops_nextPort 0 (hcw.trans hdw.symm) fun h => hne (h ▸ rfl)
    simp [hcross] at hinner

/-- From every cube the routing function and the attached links lead to every
    other cube: in at most `2 ^ k - 1` hops, over existing inter-cube links
    only, and without meeting a cube twice. -/
theorem findNextLink_delivers (k src dst : ℕ) (req : Bool) (hsrc : src < 4 ^ k)
    (hdst : dst < 4 ^ k) :
    (∃ n ≤ 2 ^ k - 1, (network (2 ^ k)).walk req src dst n = some dst ∧
      (∀ i < n, ∃ c node link, (network (2 ^ k)).walk req src dst i = some c ∧ c ≠ dst ∧
        c < 4 ^ k ∧ (network (2 ^ k)).findNextLink c dst req < numLinks ∧
        (network (2 ^ k)).linkSlaveP (.hmc c ((network (2 ^ k)).findNextLink c dst req)) =
          some (.hmc node link) ∧ node < 4 ^ k ∧ link < numLinks ∧
        (network (2 ^ k)).walk req src dst (i + 1) = some node) ∧
      ∀ i ≤ n, ∀ j ≤ n, (network (2 ^ k)).walk req src dst i =
        (network (2 ^ k)).walk req src dst j → i = j) ∧
    ∀ c < 4 ^ k, ∀ i, (network (2 ^ k)).linkSlaveP
        (.hmc c ((network (2 ^ k)).findNextLink c dst req)) = some (.hmcCont i) →
      c = dst ∧ (network (2 ^ k)).linkSlaveP (.hmcCont i) =
        some (.hmc c ((network (2 ^ k)).findNextLink c dst req)) := by
  have hranked := ranked req hdst
  refine ⟨⟨distance k dst src, ?_, hranked.follow_target hsrc, ?_, ?_⟩, ?_⟩
  · have := distance_lt k dst src
    omega
  · intro i hi
    obtain ⟨c, hwalk, hc, hrank⟩ := hranked.follow_rank hsrc hi.le
    have hne : c ≠ dst := by
      rintro rfl
      exact hranked.follow_ne_target hsrc hi hwalk
    obtain ⟨node, link, hhop, hnode, hlink, -⟩ := hop_distance req hc hdst hne
    refine ⟨c, node, link, hwalk, hne, hc, ?_, Network.linkSlaveP_of_hop hhop, hnode, hlink, ?_⟩
    · obtain ⟨cw, hcw, rfl⟩ := exists_word hc
      obtain ⟨dw, hdw, rfl⟩ := exists_word hdst
      rw [network_findNextLink hcw hdw]
      exact Fin.isLt _
    · rw [Network.walk, Library.Walk.follow, hwalk, Option.bind_some, hhop]
      rfl
  · intro i hi j hj heq
    exact hranked.follow_injective hsrc hi hj heq
  · intro c hc i h
    exact hmcCont_of_findNextLink req hc hdst h

theorem findNextLink_delivers_corners :
    ∃ n ≤ 2 ^ 2 - 1, (network (2 ^ 2)).walk false 0 15 n = some 15 := by
  obtain ⟨⟨n, hn, hwalk, -⟩, -⟩ :=
    findNextLink_delivers 2 0 15 false (by decide) (by decide)
  exact ⟨n, hn, hwalk⟩

end ActiveRouting.DFly
