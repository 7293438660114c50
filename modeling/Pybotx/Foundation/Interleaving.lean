/-
Threads that share a state.

A thread opens with a local state, acts on it and on the shared state, and finds the
shared state changed between its actions.  What every thread relies on and guarantees
holds of all of them together, in every schedule.
-/

import Pybotx.Foundation.Transition

set_option autoImplicit false

namespace Interleaving

universe u v

/-- `act` is one action of the thread with a number; `ambient` is what nobody in the system
has done. -/
structure System (Shared : Type u) (Local : Type v) where
  opens : Local → Prop
  act : Nat → Shared × Local → Shared × Local → Prop
  ambient : Shared → Shared → Prop

structure State (Shared : Type u) (Local : Type v) where
  shared : Shared
  threads : Nat → Option Local

variable {Shared : Type u} {Local : Type v}

def State.initial (shared : Shared) : State Shared Local :=
  { shared := shared, threads := fun _ => none }

inductive System.Step (system : System Shared Local) :
    State Shared Local → State Shared Local → Prop
  | opens (state : State Shared Local) (index : Nat) (opened : Local)
      (fresh : state.threads index = none) (opening : system.opens opened) :
      Step system state
        { state with threads := Function.update state.threads index (some opened) }
  | acts (state : State Shared Local) (index : Nat) (before after : Local) (shared : Shared)
      (here : state.threads index = some before)
      (action : system.act index (state.shared, before) (shared, after)) :
      Step system state
        { shared := shared, threads := Function.update state.threads index (some after) }
  | ambient (state : State Shared Local) (shared : Shared)
      (change : system.ambient state.shared shared) :
      Step system state { state with shared := shared }

private theorem update_eq_some {threads : Nat → Option Local} {index other : Nat}
    {new there : Local} (found : Function.update threads index (some new) other = some there) :
    (other = index ∧ there = new) ∨ (other ≠ index ∧ threads other = some there) := by
  by_cases same : other = index
  · rw [same, Function.update_self] at found
    cases found
    exact .inl ⟨same, rfl⟩
  · rw [Function.update_of_ne same] at found
    exact .inr ⟨same, found⟩

def State.alone (shared : Shared) (there : Local) : State Shared Local :=
  { shared := shared, threads := Function.update (fun _ => none) 0 (some there) }

theorem System.Step.opens_alone {system : System Shared Local} {opened : Local} (shared : Shared)
    (opening : system.opens opened) :
    system.Step (.initial shared) (.alone shared opened) :=
  .opens (.initial shared) 0 opened rfl opening

theorem System.Step.acts_alone {system : System Shared Local} {shared changed : Shared}
    {before after : Local} (action : system.act 0 (shared, before) (changed, after)) :
    system.Step (.alone shared before) (.alone changed after) := by
  have step := System.Step.acts (.alone shared before) 0 before after changed rfl action
  unfold State.alone at step
  rw [Function.update_idem] at step
  exact step

/-- `global` holds of the shared state, `own` of the shared state and of one thread. -/
structure RelyGuarantee (system : System Shared Local) (global : Shared → Prop)
    (own : Nat → Shared → Local → Prop) : Prop where
  opened : ∀ index shared opened, global shared → system.opens opened → own index shared opened
  acted : ∀ index before after, global before.1 → own index before.1 before.2 →
    system.act index before after → global after.1 ∧ own index after.1 after.2
  others : ∀ index before after, global before.1 → own index before.1 before.2 →
    system.act index before after →
    ∀ other there, other ≠ index → own other before.1 there → own other after.1 there
  around : ∀ before after, global before → system.ambient before after →
    global after ∧ ∀ index there, own index before there → own index after there

structure Holds (global : Shared → Prop) (own : Nat → Shared → Local → Prop)
    (state : State Shared Local) : Prop where
  shared : global state.shared
  threads : ∀ index there, state.threads index = some there → own index state.shared there

namespace RelyGuarantee

variable {system : System Shared Local} {global : Shared → Prop}
  {own : Nat → Shared → Local → Prop}

theorem stable (rules : RelyGuarantee system global own) :
    Transition.Stable system.Step (Holds global own) := by
  intro before after step holds
  cases step with
  | opens index opened fresh opening =>
      refine ⟨holds.shared, ?_⟩
      intro other there found
      rcases update_eq_some found with ⟨rfl, rfl⟩ | ⟨_, found⟩
      · exact rules.opened other _ _ holds.shared opening
      · exact holds.threads other there found
  | acts index old new shared here action =>
      have mine := holds.threads index old here
      obtain ⟨sharedAfter, mineAfter⟩ := rules.acted index _ _ holds.shared mine action
      refine ⟨sharedAfter, ?_⟩
      intro other there found
      rcases update_eq_some found with ⟨rfl, rfl⟩ | ⟨different, found⟩
      · exact mineAfter
      · exact rules.others index _ _ holds.shared mine action other there different
          (holds.threads other there found)
  | ambient shared change =>
      obtain ⟨sharedAfter, kept⟩ := rules.around _ _ holds.shared change
      exact ⟨sharedAfter, fun index there found => kept index there
        (holds.threads index there found)⟩

theorem initial (shared : Shared) (start : global shared) :
    Holds global own (State.initial shared) where
  shared := start
  threads := by intro index there impossible; cases impossible

/-- In every schedule, from a shared state that is as it should be. -/
theorem reaches (rules : RelyGuarantee system global own) {shared : Shared}
    (start : global shared) {state : State Shared Local}
    (run : Transition.Reaches system.Step (State.initial shared) state) :
    Holds global own state :=
  rules.stable.reaches run (initial shared start)

end RelyGuarantee

end Interleaving
