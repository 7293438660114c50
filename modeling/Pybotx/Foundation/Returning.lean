/-
Computations that return, whatever they return.

A loop over a list returns exactly if every pass of it does, provided that no pass depends
on what the earlier ones have found.
-/

import Mathlib

set_option autoImplicit false

namespace Returning

variable {ε α β σ : Type}

def Returns (outcome : Except ε α) : Prop :=
  ∃ value, outcome = .ok value

@[simp] theorem returns_ok (value : α) : Returns (.ok value : Except ε α) :=
  ⟨value, rfl⟩

@[simp] theorem returns_pure (value : α) : Returns (pure value : Except ε α) :=
  ⟨value, rfl⟩

@[simp] theorem not_returns_error (exc : ε) : ¬ Returns (.error exc : Except ε α) := by
  intro returned
  obtain ⟨value, impossible⟩ := returned
  cases impossible

theorem returns_bind_iff (call : Except ε α) (next : α → Except ε β) :
    Returns (call >>= next) ↔ ∃ middle, call = .ok middle ∧ Returns (next middle) := by
  cases call with
  | error exc =>
      constructor
      · intro returned
        exact absurd returned (not_returns_error exc)
      · intro returned
        obtain ⟨middle, impossible, _⟩ := returned
        cases impossible
  | ok first =>
      constructor
      · intro returned
        exact ⟨first, rfl, returned⟩
      · intro returned
        obtain ⟨middle, same, later⟩ := returned
        cases same
        exact later

theorem returns_bind_iff_of_next (call : Except ε α) (next : α → Except ε β)
    (returns : ∀ middle, Returns (next middle)) : Returns (call >>= next) ↔ Returns call := by
  rw [returns_bind_iff]
  constructor
  · intro returned
    obtain ⟨middle, same, _⟩ := returned
    exact ⟨middle, same⟩
  · intro returned
    obtain ⟨middle, same⟩ := returned
    exact ⟨middle, same, returns middle⟩

theorem returns_mapM_iff (call : α → Except ε β) (items : List α) :
    Returns (items.mapM call) ↔ ∀ item ∈ items, Returns (call item) := by
  induction items with
  | nil =>
      rw [List.mapM_nil]
      simp
  | cons item items ih =>
      rw [List.mapM_cons, returns_bind_iff, List.forall_mem_cons, ← ih]
      simp only [returns_bind_iff_of_next _ _ (fun _ => returns_pure _)]
      exact exists_and_right

theorem mapM_eq_ok_iff (call : α → Except ε β) (items : List α) (values : List β) :
    items.mapM call = .ok values ↔
      List.Forall₂ (fun item value => call item = .ok value) items values := by
  induction items generalizing values with
  | nil => cases values <;> simp [pure, Except.pure]
  | cons item items ih =>
      rw [List.mapM_cons]
      cases first : call item with
      | error exc => cases values <;> simp [bind, Except.bind, first]
      | ok value =>
          cases later : items.mapM call with
          | error exc => cases values <;> simp [bind, Except.bind, ← ih, later]
          | ok rest =>
              cases values <;>
                simp [bind, Except.bind, pure, Except.pure, ← ih, later, first]

/-- Whether a pass returns depends on its item alone. -/
theorem returns_foldlM_iff (step : σ → α → Except ε σ) (good : α → Prop)
    (each : ∀ state item, Returns (step state item) ↔ good item) (items : List α) (state : σ) :
    Returns (items.foldlM step state) ↔ ∀ item ∈ items, good item := by
  induction items generalizing state with
  | nil =>
      rw [List.foldlM_nil]
      simp
  | cons item items ih =>
      rw [List.foldlM_cons, returns_bind_iff, List.forall_mem_cons, ← each state item]
      simp only [ih]
      exact exists_and_right

end Returning
