/-
Paths into JSON values: the value at a path, and the change of that value alone.

A path that leads nowhere changes nothing.  Whatever lies neither on the path nor below it
stays as it is.
-/

import Pybotx.Foundation.Json

set_option autoImplicit false

namespace Dict

variable {α : Type}

theorem set_of_get (key : String) (value : α) (dict : List (String × α))
    (found : get key dict = some value) : set key value dict = dict := by
  induction dict with
  | nil => cases found
  | cons pair rest ih =>
      rcases pair with ⟨other, old⟩
      rw [get_cons] at found
      rw [set]
      by_cases same : other = key
      · rw [if_pos same.symm] at found
        cases found
        rw [if_pos same, same]
      · rw [if_neg (Ne.symm same)] at found
        rw [if_neg same, ih found]

end Dict

namespace Json

inductive Step where
  | key (name : String)
  | index (position : Nat)
  deriving DecidableEq

def child : Step → Json → Option Json
  | .key name, .obj fields => Dict.get name fields
  | .index position, .arr items => items[position]?
  | _, _ => none

def setChild : Step → Json → Json → Json
  | .key name, value, .obj fields => .obj (Dict.set name value fields)
  | .index position, value, .arr items => .arr (items.set position value)
  | _, _, whole => whole

section

variable {step : Step} {old whole : Json}

theorem child_setChild_self (value : Json) (found : child step whole = some old) :
    child step (setChild step value whole) = some value := by
  cases step with
  | key name =>
      cases whole with
      | obj fields => exact Dict.get_set_self name value fields
      | _ => cases found
  | index position =>
      cases whole with
      | arr items =>
          obtain ⟨inside, _⟩ := List.getElem?_eq_some_iff.mp found
          exact List.getElem?_set_self inside
      | _ => cases found

theorem child_setChild_of_ne {other : Step} (value : Json) (different : other ≠ step) :
    child other (setChild step value whole) = child other whole := by
  cases step with
  | key name =>
      cases whole with
      | obj fields =>
          cases other with
          | key otherName =>
              apply Dict.get_set_of_ne
              intro same
              exact different (congrArg Step.key same)
          | index position => rfl
      | _ => rfl
  | index position =>
      cases whole with
      | arr items =>
          cases other with
          | key name => rfl
          | index otherPosition =>
              apply List.getElem?_set_ne
              intro same
              exact different (congrArg Step.index same.symm)
      | _ => rfl

theorem setChild_of_child (found : child step whole = some old) :
    setChild step old whole = whole := by
  cases step with
  | key name =>
      cases whole with
      | obj fields => exact congrArg Json.obj (Dict.set_of_get name old fields found)
      | _ => cases found
  | index position =>
      cases whole with
      | arr items =>
          obtain ⟨inside, same⟩ := List.getElem?_eq_some_iff.mp found
          rw [setChild, ← same, List.set_getElem_self]
      | _ => cases found

end

def valueAt : List Step → Json → Option Json
  | [], value => some value
  | step :: path, value => (child step value).bind (valueAt path)

def modifyAt : List Step → (Json → Json) → Json → Json
  | [], change, value => change value
  | step :: path, change, value =>
      match child step value with
      | none => value
      | some inner => setChild step (modifyAt path change inner) value

theorem valueAt_append (path rest : List Step) (value : Json) :
    valueAt (path ++ rest) value = (valueAt path value).bind (valueAt rest) := by
  induction path generalizing value with
  | nil => rfl
  | cons step path ih =>
      rw [List.cons_append, valueAt, valueAt]
      cases child step value with
      | none => rfl
      | some inner => exact ih inner

theorem modifyAt_append (path rest : List Step) (change : Json → Json) (value : Json) :
    modifyAt (path ++ rest) change value = modifyAt path (modifyAt rest change) value := by
  induction path generalizing value with
  | nil => rfl
  | cons step path ih =>
      rw [List.cons_append, modifyAt, modifyAt]
      simp only [ih]

/-- Only what the change does to the value at the path matters. -/
theorem modifyAt_congr (path : List Step) (change other : Json → Json) (value : Json)
    (agree : ∀ inner, valueAt path value = some inner → change inner = other inner) :
    modifyAt path change value = modifyAt path other value := by
  induction path generalizing value with
  | nil => exact agree value rfl
  | cons step path ih =>
      rw [modifyAt, modifyAt]
      cases found : child step value with
      | none => rfl
      | some middle =>
          have same : modifyAt path change middle = modifyAt path other middle := by
            apply ih
            intro inner there
            apply agree
            rw [valueAt, found]
            exact there
          simp only [same]

theorem modifyAt_id (path : List Step) (value : Json) : modifyAt path id value = value := by
  induction path generalizing value with
  | nil => rfl
  | cons step path ih =>
      rw [modifyAt]
      cases found : child step value with
      | none => rfl
      | some inner =>
          simp only [ih]
          exact setChild_of_child found

theorem modifyAt_of_fixed (path : List Step) (change : Json → Json) (value : Json)
    (fixed : ∀ inner, valueAt path value = some inner → change inner = inner) :
    modifyAt path change value = value :=
  (modifyAt_congr path change id value fixed).trans (modifyAt_id path value)

theorem valueAt_modifyAt_self (path : List Step) (change : Json → Json) (value : Json) :
    valueAt path (modifyAt path change value) = (valueAt path value).map change := by
  induction path generalizing value with
  | nil => rfl
  | cons step path ih =>
      rw [modifyAt, valueAt, valueAt]
      cases found : child step value with
      | none => simp [found]
      | some inner =>
          simp only [child_setChild_self _ found, Option.bind_some]
          exact ih inner

/-- The values at paths that part somewhere from the changed one stay. -/
theorem valueAt_modifyAt_of_apart (path other : List Step) (change : Json → Json) (value : Json)
    (notAbove : ¬ other <+: path) (notBelow : ¬ path <+: other) :
    valueAt other (modifyAt path change value) = valueAt other value := by
  induction path generalizing other value with
  | nil => exact absurd List.nil_prefix notBelow
  | cons step path ih =>
      cases other with
      | nil => exact absurd List.nil_prefix notAbove
      | cons otherStep other =>
          rw [modifyAt]
          cases found : child step value with
          | none => rfl
          | some inner =>
              rw [valueAt, valueAt]
              by_cases same : otherStep = step
              · subst same
                rw [List.cons_prefix_cons] at notAbove notBelow
                simp only [child_setChild_self _ found, found, Option.bind_some]
                apply ih
                · intro above
                  exact notAbove ⟨rfl, above⟩
                · intro below
                  exact notBelow ⟨rfl, below⟩
              · simp only [child_setChild_of_ne _ same]

end Json
