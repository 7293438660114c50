/-
Rows that are filled one entry after the other.

An entry opens a row or joins the last one.  `described` reads the rows off the entries from
the right; `place` is what one entry does to the rows there are.
-/

import Mathlib.Data.List.Basic

set_option autoImplicit false

namespace Rows

variable {α : Type}

inductive Entry (α : Type) where
  | opens (row : List α)
  | joins (item : α)

/-- The items before the first row that is opened, and the opened rows, each with the items
that join it. -/
def segments : List (Entry α) → List α × List (List α)
  | [] => ([], [])
  | .opens row :: entries => ([], (row ++ (segments entries).1) :: (segments entries).2)
  | .joins item :: entries => (item :: (segments entries).1, (segments entries).2)

/-- Items at the end of the last row; without rows they make the first. -/
def joined : List (List α) → List α → List (List α)
  | [], [] => []
  | [], first :: items => [first :: items]
  | [row], items => [row ++ items]
  | row :: next :: rows, items => row :: joined (next :: rows) items

def described (rows : List (List α)) (entries : List (Entry α)) : List (List α) :=
  joined rows (segments entries).1 ++ (segments entries).2

def place (rows : List (List α)) : Entry α → List (List α)
  | .opens row => rows ++ [row]
  | .joins item => joined rows [item]

theorem joined_concat (rows : List (List α)) (row items : List α) :
    joined (rows ++ [row]) items = rows ++ [row ++ items] := by
  induction rows with
  | nil => rfl
  | cons first rows ih =>
      cases rows with
      | nil => rfl
      | cons next rows =>
          change first :: joined ((next :: rows) ++ [row]) items = _
          rw [ih]
          rfl

theorem joined_none (rows : List (List α)) : joined rows [] = rows := by
  rcases List.eq_nil_or_concat rows with rfl | ⟨front, row, rfl⟩
  · rfl
  · rw [List.concat_eq_append, joined_concat, List.append_nil]

theorem joined_joined (rows : List (List α)) (first : α) (items : List α) :
    joined (joined rows [first]) items = joined rows (first :: items) := by
  rcases List.eq_nil_or_concat rows with rfl | ⟨front, row, rfl⟩
  · rfl
  · rw [List.concat_eq_append, joined_concat, joined_concat, joined_concat, List.append_assoc]
    rfl

/-- Placing the entries in order leaves the rows they describe. -/
theorem foldl_place (entries : List (Entry α)) (rows : List (List α)) :
    entries.foldl place rows = described rows entries := by
  induction entries generalizing rows with
  | nil => rw [List.foldl_nil, described, segments, joined_none, List.append_nil]
  | cons entry entries ih =>
      rw [List.foldl_cons, ih]
      cases entry with
      | opens row =>
          rw [described, described, place, segments, joined_concat, joined_none,
            List.append_assoc, List.singleton_append]
      | joins item => rw [described, described, place, segments, joined_joined]

end Rows
