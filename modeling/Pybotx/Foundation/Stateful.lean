/-
Calls that may raise and work on a state, which they leave behind either way.

A call mirrors an outcome if it comes to the same, whatever it does to the state, and leaves
a state with a given property.
-/

import Mathlib

set_option autoImplicit false

namespace Stateful

variable {ε σ α β : Type}

section

variable {call : ExceptT ε (StateM σ) α} {state after : σ}

theorem bind_of_ok (next : α → ExceptT ε (StateM σ) β) {value : α}
    (returned : call state = (.ok value, after)) : (call >>= next) state = next value after := by
  change ExceptT.bindCont next (call state).1 (call state).2 = _
  rw [returned]
  rfl

theorem bind_of_error (next : α → ExceptT ε (StateM σ) β) {exc : ε}
    (raised : call state = (.error exc, after)) :
    (call >>= next) state = (.error exc, after) := by
  change ExceptT.bindCont next (call state).1 (call state).2 = _
  rw [raised]
  rfl

end

structure Mirrors (kept : σ → Prop) (state : σ) (call : ExceptT ε (StateM σ) α)
    (outcome : Except ε α) : Prop where
  same : (call state).1 = outcome
  keeps : kept (call state).2

namespace Mirrors

variable {kept : σ → Prop} {state : σ}

theorem of_run {call : ExceptT ε (StateM σ) α} {outcome : Except ε α} {after : σ}
    (run : call state = (outcome, after)) (holds : kept after) :
    Mirrors kept state call outcome := by
  constructor
  · rw [run]
  · rw [run]
    exact holds

/-- A first call that always returns may change the state. -/
theorem step {call : ExceptT ε (StateM σ) α} {next : α → ExceptT ε (StateM σ) β}
    {outcome : Except ε β} {value : α} {after : σ} (returned : call state = (.ok value, after))
    (later : Mirrors kept after (next value) outcome) :
    Mirrors kept state (call >>= next) outcome := by
  have run := bind_of_ok next returned
  constructor
  · rw [run]
    exact later.same
  · rw [run]
    exact later.keeps

/-- One that does not look at the state leaves it as it is. -/
theorem lift (call : Except ε α) {next : α → ExceptT ε (StateM σ) β} {later : α → Except ε β}
    (holds : kept state) (follows : ∀ value, Mirrors kept state (next value) (later value)) :
    Mirrors kept state (liftM call >>= next) (call >>= later) := by
  cases call with
  | error exc => exact of_run rfl holds
  | ok value => exact step rfl (follows value)

theorem ite (condition : Prop) [Decidable condition] {yes no : ExceptT ε (StateM σ) α}
    {outcome other : Except ε α} (left : Mirrors kept state yes outcome)
    (right : Mirrors kept state no other) :
    Mirrors kept state (if condition then yes else no)
      (if condition then outcome else other) := by
  by_cases holds : condition
  · rw [if_pos holds, if_pos holds]
    exact left
  · rw [if_neg holds, if_neg holds]
    exact right

end Mirrors

end Stateful
