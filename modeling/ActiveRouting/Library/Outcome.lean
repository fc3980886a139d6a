import Mathlib.Data.Nat.Notation
import Mathlib.Logic.Basic

/-!
# Computations that may fail

When a computation in `Except` ends in a given result, or in an error.
-/

namespace Outcome

variable {ε α β : Type}

@[simp] theorem pure_eq_ok {a b : α} : (pure a : Except ε α) = .ok b ↔ a = b := by
  show Except.ok a = .ok b ↔ _
  exact Except.ok.injEq a b ▸ Iff.rfl

@[simp] theorem pure_ne_error {a : α} {e : ε} : (pure a : Except ε α) ≠ .error e := by
  show Except.ok a ≠ .error e
  exact fun h => nomatch h

@[simp] theorem throw_ne_ok {a : α} {e : ε} : (throw e : Except ε α) ≠ .ok a := by
  show Except.error e ≠ .ok a
  exact fun h => nomatch h

@[simp] theorem throw_eq_error {e e' : ε} : (throw e : Except ε α) = .error e' ↔ e = e' := by
  show Except.error e = .error e' ↔ _
  exact Except.error.injEq e e' ▸ Iff.rfl

@[simp] theorem ok_bind {a : α} {f : α → Except ε β} : (Except.ok a >>= f) = f a := rfl

/-- A sequence succeeds when each part does. -/
theorem bind_eq_ok {x : Except ε α} {f : α → Except ε β} {b : β} :
    x >>= f = .ok b ↔ ∃ a, x = .ok a ∧ f a = .ok b :=
  match x with
  | .error _ => ⟨fun h => (nomatch h), fun ⟨_, h, _⟩ => (nomatch h)⟩
  | .ok a => ⟨fun h => ⟨a, rfl, h⟩, fun ⟨_, h, hf⟩ => Except.ok.inj h ▸ hf⟩

/-- A sequence fails where the first of its parts to fail does. -/
theorem bind_eq_error {x : Except ε α} {f : α → Except ε β} {e : ε} :
    x >>= f = .error e ↔ x = .error e ∨ ∃ a, x = .ok a ∧ f a = .error e :=
  match x with
  | .error _ => ⟨fun h => .inl (Except.error.inj h ▸ rfl), fun h =>
      h.elim (fun h => Except.error.inj h ▸ rfl) fun ⟨_, h, _⟩ => (nomatch h)⟩
  | .ok a => ⟨fun h => .inr ⟨a, rfl, h⟩, fun h =>
      h.elim (fun h => (nomatch h)) fun ⟨_, h, hf⟩ => Except.ok.inj h ▸ hf⟩

/-- A computation whose result is as wanted where it succeeds, and whose error is not an
    excluded one where it fails. -/
def Yields (wanted : α → Prop) (excluded : ε → Prop) : Except ε α → Prop
  | .ok a => wanted a
  | .error e => ¬ excluded e

variable {wanted : α → Prop} {excluded : ε → Prop}

theorem Yields.pure {a : α} (holds : wanted a) :
    Yields wanted excluded (pure a : Except ε α) := holds

theorem Yields.throw {e : ε} (other : ¬ excluded e) :
    Yields wanted excluded (throw e : Except ε α) := other

theorem Yields.bind {wantedNext : β → Prop} {x : Except ε α} {f : α → Except ε β}
    (yields : Yields wanted excluded x) (next : ∀ a, wanted a → Yields wantedNext excluded (f a)) :
    Yields wantedNext excluded (x >>= f) := by
  cases x with
  | error e => exact yields
  | ok a => exact next a yields

theorem Yields.mono {wanted' : α → Prop} {x : Except ε α} (yields : Yields wanted excluded x)
    (weaker : ∀ a, wanted a → wanted' a) : Yields wanted' excluded x := by
  cases x with
  | error e => exact yields
  | ok a => exact weaker a yields

theorem Yields.holds {x : Except ε α} {a : α} (yields : Yields wanted excluded x)
    (succeeds : x = .ok a) : wanted a := by
  rw [succeeds] at yields
  exact yields

/-- What is known of the results may be wanted of them. -/
theorem Yields.of_ok {x : Except ε α} (yields : Yields (fun _ => True) excluded x)
    (holds : ∀ a, x = .ok a → wanted a) : Yields wanted excluded x := by
  cases x with
  | error e => exact yields
  | ok a => exact holds a rfl

theorem Yields.and {wanted' : α → Prop} {x : Except ε α} (yields : Yields wanted excluded x)
    (yields' : Yields wanted' excluded x) : Yields (fun a => wanted a ∧ wanted' a) excluded x := by
  cases x with
  | error e => exact yields
  | ok a => exact ⟨yields, yields'⟩

theorem Yields.mapError {ε' : Type} {excluded' : ε' → Prop} {f : ε → ε'} {x : Except ε α}
    (yields : Yields wanted excluded x) (reflects : ∀ e, excluded' (f e) → excluded e) :
    Yields wanted excluded' (x.mapError f) := by
  cases x with
  | error e => exact fun isExcluded => yields (reflects e isExcluded)
  | ok a => exact yields

theorem Yields.of_map_eq_ok {f : α → β} {x : Except ε α} {b : β}
    (yields : Yields wanted excluded x) (mapped : x.map f = .ok b) : ∃ a, f a = b ∧ wanted a := by
  cases x with
  | error e => cases mapped
  | ok a => exact ⟨a, Except.ok.inj mapped, yields⟩

/-- What is wanted may depend on a condition, where no error is excluded. -/
theorem Yields.of_imp {condition : Prop} {x : Except ε α}
    (yields : condition → Yields wanted (fun _ => False) x) :
    Yields (fun a => condition → wanted a) (fun _ => False) x := by
  cases x with
  | error e => exact not_false
  | ok a => exact yields

/-- What every step of a loop keeps holds at its end. -/
theorem Yields.foldlM {σ : Type} {step : σ → α → Except ε σ} {holds : σ → Prop} :
    ∀ (xs : List α) {s : σ}, (∀ x ∈ xs, ∀ s, holds s → Yields holds excluded (step s x)) →
      holds s → Yields holds excluded (xs.foldlM step s)
  | [], _, _, isStart => isStart
  | x :: xs, s, steps, isStart => by
    rw [List.foldlM_cons]
    exact (steps x List.mem_cons_self s isStart).bind fun _ stepped =>
      Yields.foldlM xs (fun other member => steps other (List.mem_cons_of_mem x member)) stepped

/-- A loop succeeds and goes along with another one as its steps do. -/
theorem foldlM_simulates {σ τ : Type} (step : σ → α → Except ε σ) (other : τ → α → τ)
    (related : σ → τ → Prop) :
    ∀ (xs : List α) {s : σ} {t : τ}, related s t →
      (∀ x ∈ xs, ∀ s t, related s t → ∃ s', step s x = .ok s' ∧ related s' (other t x)) →
      ∃ s', xs.foldlM step s = .ok s' ∧ related s' (xs.foldl other t)
  | [], s, _, isRelated, _ => ⟨s, rfl, isRelated⟩
  | x :: xs, s, t, isRelated, steps => by
    obtain ⟨s', stepped, isRelated'⟩ := steps x List.mem_cons_self s t isRelated
    obtain ⟨s'', folded, isRelated''⟩ := foldlM_simulates step other related xs isRelated'
      fun next member => steps next (List.mem_cons_of_mem x member)
    refine ⟨s'', ?_, isRelated''⟩
    rw [List.foldlM_cons, stepped]
    exact folded

/-- What every step of a loop preserves and relates, and a rank that falls unless the step
    does nothing.  A loop that keeps the rank has done nothing at any of its steps. -/
theorem foldlM_ranked {σ : Type} (step : σ → α → Except ε σ) (holds : σ → Prop)
    (related : σ → σ → Prop) (rank : σ → ℕ) (refl : ∀ s, related s s)
    (trans : ∀ s s' s'', related s s' → related s' s'' → related s s'') :
    ∀ (xs : List α) (s : σ), holds s →
      (∀ x ∈ xs, ∀ s, holds s → ∃ s', step s x = .ok s' ∧ holds s' ∧ related s s' ∧
        rank s' ≤ rank s ∧ (rank s' = rank s → s' = s)) →
      ∃ s', xs.foldlM step s = .ok s' ∧ holds s' ∧ related s s' ∧ rank s' ≤ rank s ∧
        (rank s' = rank s → s' = s ∧ ∀ x ∈ xs, step s x = .ok s)
  | [], s, holds, _ => ⟨s, rfl, holds, refl s, Nat.le_refl _, fun _ => ⟨rfl, fun _ h => (nomatch h)⟩⟩
  | x :: xs, s, holds, steps => by
    obtain ⟨s', stepped, holds', related', falls, still⟩ := steps x List.mem_cons_self s holds
    obtain ⟨s'', folded, holds'', related'', falls', still'⟩ := foldlM_ranked step _ related rank refl
      trans xs s' holds' fun other member => steps other (List.mem_cons_of_mem x member)
    refine ⟨s'', ?_, holds'', trans s s' s'' related' related'', Nat.le_trans falls' falls, ?_⟩
    · rw [List.foldlM_cons, stepped]
      exact folded
    · intro same
      have same' : s' = s := still (Nat.le_antisymm falls (same ▸ falls'))
      subst same'
      obtain ⟨isSame, others⟩ := still' same
      refine ⟨isSame, ?_⟩
      intro other member
      cases member with
      | head => exact stepped
      | tail _ member => exact others other member

end Outcome
