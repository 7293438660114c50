/-
Sorting by keys that are computed by calls which may fail.

Every key is computed before anything is moved, so that one failing call fails the sort.
-/

import Pybotx.Foundation.Returning

set_option autoImplicit false

namespace KeySort

open Returning

variable {ε α κ : Type}

def decorate (key : α → Except ε κ) (item : α) : Except ε (κ × α) := do
  let computed ← key item
  return (computed, item)

theorem decorate_eq_ok_iff (key : α → Except ε κ) (item : α) (pair : κ × α) :
    decorate key item = .ok pair ↔ key item = .ok pair.1 ∧ item = pair.2 := by
  rcases pair with ⟨computed, same⟩
  unfold decorate
  cases key item <;> simp [bind, Except.bind, pure, Except.pure]

theorem decorate_returns_iff (key : α → Except ε κ) (item : α) :
    Returns (decorate key item) ↔ Returns (key item) :=
  returns_bind_iff_of_next _ _ fun _ => returns_pure _

/-- What is sorted: the items, each with its key. -/
private theorem decorated_spec {key : α → Except ε κ} {items : List α}
    {decorated : List (κ × α)}
    (pairs : List.Forall₂ (fun item pair => decorate key item = .ok pair) items decorated) :
    decorated.map Prod.snd = items ∧ ∀ pair ∈ decorated, key pair.2 = .ok pair.1 := by
  induction pairs with
  | nil => simp
  | cons here _ ih =>
      obtain ⟨computed, same⟩ := (decorate_eq_ok_iff _ _ _).mp here
      rw [List.map_cons, List.forall_mem_cons, ih.1]
      exact ⟨by rw [same], same ▸ computed, ih.2⟩

variable [LinearOrder κ]

/-- `list.sort(key=...)`, which is stable. -/
def sortByKey (key : α → Except ε κ) (items : List α) : Except ε (List α) := do
  let decorated ← items.mapM (decorate key)
  return (decorated.mergeSort fun first second => first.1 ≤ second.1).map Prod.snd

theorem sortByKey_returns_iff (key : α → Except ε κ) (items : List α) :
    Returns (sortByKey key items) ↔ ∀ item ∈ items, Returns (key item) := by
  unfold sortByKey
  rw [returns_bind_iff_of_next _ _ (fun _ => returns_pure _), returns_mapM_iff]
  simp only [decorate_returns_iff]

variable {key : α → Except ε κ} {items sorted : List α}

private theorem sortByKey_eq_ok (returned : sortByKey key items = .ok sorted) :
    ∃ decorated : List (κ × α), decorated.map Prod.snd = items ∧
      (∀ pair ∈ decorated, key pair.2 = .ok pair.1) ∧
      sorted = (decorated.mergeSort fun first second => first.1 ≤ second.1).map Prod.snd := by
  unfold sortByKey at returned
  cases mapped : items.mapM (decorate key) with
  | error exc =>
      rw [mapped] at returned
      cases returned
  | ok decorated =>
      rw [mapped] at returned
      cases returned
      obtain ⟨same, keys⟩ := decorated_spec ((mapM_eq_ok_iff _ _ _).mp mapped)
      exact ⟨decorated, same, keys, rfl⟩

theorem sortByKey_perm (returned : sortByKey key items = .ok sorted) : sorted.Perm items := by
  obtain ⟨decorated, same, _, rfl⟩ := sortByKey_eq_ok returned
  rw [← same]
  exact (List.mergeSort_perm decorated _).map Prod.snd

theorem sortByKey_pairwise (returned : sortByKey key items = .ok sorted) :
    sorted.Pairwise fun first second =>
      ∀ i j, key first = .ok i → key second = .ok j → i ≤ j := by
  obtain ⟨decorated, _, keys, rfl⟩ := sortByKey_eq_ok returned
  rw [List.pairwise_map]
  have transitive (first second third : κ × α) (below : decide (first.1 ≤ second.1) = true)
      (above : decide (second.1 ≤ third.1) = true) : decide (first.1 ≤ third.1) = true := by
    simp only [decide_eq_true_eq] at below above ⊢
    exact le_trans below above
  have total (first second : κ × α) :
      (decide (first.1 ≤ second.1) || decide (second.1 ≤ first.1)) = true := by
    simp only [Bool.or_eq_true, decide_eq_true_eq]
    exact le_total first.1 second.1
  have ascending := List.pairwise_mergeSort transitive total decorated
  refine ascending.imp_of_mem ?_
  intro first second inFirst inSecond below i j firstKey secondKey
  rw [keys first (List.mem_mergeSort.mp inFirst)] at firstKey
  rw [keys second (List.mem_mergeSort.mp inSecond)] at secondKey
  cases firstKey
  cases secondKey
  exact of_decide_eq_true below

end KeySort
