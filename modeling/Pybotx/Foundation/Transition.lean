/-
Runs of a step relation and the properties that hold along them.

A property is stable when no step leaves it; what is stable holds to the end of a run.
A measure that some step can always lower leads to an end.
Two partial functions step in lockstep when related states take a step each, to related
states, or none.
-/

import Mathlib

set_option autoImplicit false

namespace Transition

universe u v

variable {State : Type u} {Step : State → State → Prop}

def Reaches (Step : State → State → Prop) : State → State → Prop :=
  Relation.ReflTransGen Step

def Stable (Step : State → State → Prop) (holds : State → Prop) : Prop :=
  ∀ before after, Step before after → holds before → holds after

theorem Stable.reaches {holds : State → Prop} (stable : Stable Step holds)
    {first last : State} (run : Reaches Step first last) (start : holds first) :
    holds last := by
  induction run with
  | refl => exact start
  | tail _ step ih => exact stable _ _ step ih

inductive Run (Step : State → State → Prop) : Nat → State → State → Prop
  | refl (state : State) : Run Step 0 state state
  | tail {length : Nat} {first middle last : State} (run : Run Step length first middle)
      (step : Step middle last) : Run Step (length + 1) first last

theorem Run.reaches {length : Nat} {first last : State} (run : Run Step length first last) :
    Reaches Step first last := by
  induction run with
  | refl state => exact .refl
  | tail _ step ih => exact ih.tail step

/-- Where a step can lower the measure until all is done, there is a run to the end. -/
theorem reaches_done {holds done : State → Prop} (measure : State → Nat)
    (progress : ∀ state, holds state → ¬ done state →
      ∃ next, Step state next ∧ holds next ∧ measure next < measure state)
    (state : State) (start : holds state) :
    ∃ last, Reaches Step state last ∧ holds last ∧ done last := by
  generalize bound : measure state = height
  induction height using Nat.strong_induction_on generalizing state with
  | _ height ih =>
      by_cases finished : done state
      · exact ⟨state, .refl, start, finished⟩
      · obtain ⟨next, step, there, lower⟩ := progress state start finished
        rw [bound] at lower
        obtain ⟨last, run, atLast, finished⟩ := ih (measure next) lower next there rfl
        exact ⟨last, .head step run, atLast, finished⟩

section

variable {Other : Type v} {related : State → Other → Prop} {step : State → Option State}
  {otherStep : Other → Option Other}

def Lockstep (related : State → Other → Prop) (step : State → Option State)
    (otherStep : Other → Option Other) : Prop :=
  ∀ state other, related state other → Option.Rel related (step state) (otherStep other)

theorem Lockstep.step_of_step (lockstep : Lockstep related step otherStep) {state next : State}
    {other : Other} (here : related state other) (taken : step state = some next) :
    ∃ otherNext, otherStep other = some otherNext ∧ related next otherNext := by
  have both := lockstep state other here
  rw [taken] at both
  cases otherTaken : otherStep other with
  | none =>
      rw [otherTaken] at both
      cases both
  | some otherNext =>
      rw [otherTaken] at both
      cases both with
      | some there => exact ⟨otherNext, rfl, there⟩

theorem Lockstep.step_of_otherStep (lockstep : Lockstep related step otherStep) {state : State}
    {other otherNext : Other} (here : related state other)
    (taken : otherStep other = some otherNext) :
    ∃ next, step state = some next ∧ related next otherNext := by
  have both := lockstep state other here
  rw [taken] at both
  cases stateTaken : step state with
  | none =>
      rw [stateTaken] at both
      cases both
  | some next =>
      rw [stateTaken] at both
      cases both with
      | some there => exact ⟨next, rfl, there⟩

theorem Lockstep.reaches_of_reaches (lockstep : Lockstep related step otherStep) {state : State}
    {other last : Other} (here : related state other)
    (run : StateTransition.Reaches otherStep other last) :
    ∃ reached, StateTransition.Reaches step state reached ∧ related reached last := by
  induction run with
  | refl => exact ⟨state, .refl, here⟩
  | tail _ taken ih =>
      obtain ⟨middle, run, there⟩ := ih
      obtain ⟨next, stepped, related⟩ := lockstep.step_of_otherStep there taken
      exact ⟨next, run.tail stepped, related⟩

/-- Steps in lockstep are a refinement in which one step stands for one. -/
theorem Lockstep.respects (lockstep : Lockstep related step otherStep) :
    StateTransition.Respects step otherStep related := by
  intro state other here
  cases taken : step state with
  | some next =>
      obtain ⟨otherNext, otherTaken, there⟩ := lockstep.step_of_step here taken
      exact ⟨otherNext, there, .single otherTaken⟩
  | none =>
      have both := lockstep state other here
      rw [taken] at both
      cases otherTaken : otherStep other with
      | none => rfl
      | some otherNext =>
          rw [otherTaken] at both
          cases both

end

end Transition
