/-
JSON values as `json.loads` returns them, and association lists as Python
dictionaries with string keys.

A float is the rational number it denotes.  Python's `bool` and `int` stay apart here
because `isinstance` and `==` treat them differently.
-/

import Mathlib

set_option autoImplicit false

inductive PyFloat where
  | finite (value : ℚ)
  | infinite (negative : Bool)
  | nan
  deriving DecidableEq

inductive Json where
  | null
  | bool (value : Bool)
  | int (value : Int)
  | float (value : PyFloat)
  | str (value : String)
  | arr (items : List Json)
  | obj (fields : List (String × Json))

namespace Dict

variable {α : Type}

def get (key : String) (dict : List (String × α)) : Option α :=
  dict.lookup key

/-- `d[key] = value`: an existing key keeps its position. -/
def set (key : String) (value : α) : List (String × α) → List (String × α)
  | [] => [(key, value)]
  | (other, old) :: rest =>
      if other = key then (key, value) :: rest else (other, old) :: set key value rest

def ofPairs (pairs : List (String × α)) : List (String × α) :=
  pairs.foldl (fun dict pair => set pair.1 pair.2 dict) []

@[simp] theorem get_nil (key : String) : get key ([] : List (String × α)) = none := rfl

theorem get_cons (key other : String) (value : α) (rest : List (String × α)) :
    get key ((other, value) :: rest) = if key = other then some value else get key rest := by
  unfold get
  by_cases same : key = other
  · subst same
    simp
  · rw [List.lookup_cons, if_neg same, beq_false_of_ne same]

theorem get_set_of_ne (key other : String) (value : α) (different : other ≠ key)
    (dict : List (String × α)) : get other (set key value dict) = get other dict := by
  induction dict with
  | nil => rw [set, get_cons, if_neg different]
  | cons pair rest ih =>
      rcases pair with ⟨first, old⟩
      rw [set]
      by_cases same : first = key
      · have apart : other ≠ first := same ▸ different
        rw [if_pos same, get_cons, get_cons, if_neg different, if_neg apart]
      · rw [if_neg same, get_cons, get_cons, ih]

theorem get_set_self (key : String) (value : α) (dict : List (String × α)) :
    get key (set key value dict) = some value := by
  induction dict with
  | nil => rw [set, get_cons, if_pos rfl]
  | cons pair rest ih =>
      rcases pair with ⟨first, old⟩
      rw [set]
      by_cases same : first = key
      · rw [if_pos same, get_cons, if_pos rfl]
      · rw [if_neg same, get_cons, if_neg (Ne.symm same), ih]

theorem get_eq_none_iff (key : String) (dict : List (String × α)) :
    get key dict = none ↔ ∀ pair ∈ dict, pair.1 ≠ key := by
  induction dict with
  | nil => simp
  | cons pair rest ih =>
      rcases pair with ⟨other, value⟩
      rw [get_cons]
      by_cases same : key = other
      · subst same
        simp
      · simp [same, ih, Ne.symm same]

theorem get_of_mem (dict : List (String × α)) (distinct : (dict.map Prod.fst).Nodup)
    (key : String) (value : α) (member : (key, value) ∈ dict) : get key dict = some value := by
  induction dict with
  | nil => cases member
  | cons pair rest ih =>
      rcases pair with ⟨other, first⟩
      rw [List.map_cons, List.nodup_cons] at distinct
      rw [get_cons]
      rcases List.mem_cons.mp member with here | later
      · cases here
        rw [if_pos rfl]
      · have different : key ≠ other := by
          rintro rfl
          exact distinct.1 (List.mem_map.mpr ⟨(key, value), later, rfl⟩)
        rw [if_neg different]
        exact ih distinct.2 later

theorem mem_of_get (dict : List (String × α)) (key : String) (value : α)
    (found : get key dict = some value) : (key, value) ∈ dict := by
  induction dict with
  | nil => cases found
  | cons pair rest ih =>
      rcases pair with ⟨other, first⟩
      rw [get_cons] at found
      by_cases same : key = other
      · rw [if_pos same] at found
        cases found
        rw [same]
        exact List.mem_cons_self
      · rw [if_neg same] at found
        exact List.mem_cons_of_mem _ (ih found)

end Dict

namespace Json

def truthy : Json → Bool
  | null => false
  | bool value => value
  | int value => value ≠ 0
  | float (.finite value) => value ≠ 0
  | float _ => true
  | str value => value ≠ ""
  | arr items => !items.isEmpty
  | obj fields => !fields.isEmpty

/-- `value == number` for an integer that is neither zero nor one, so that no boolean
equals it. -/
def equalsInt (number : Int) : Json → Bool
  | int value => value = number
  | float (.finite value) => value = number
  | _ => false

def equalsStr (text : String) : Json → Bool
  | str value => value = text
  | _ => false

def isStr : Json → Bool
  | str _ => true
  | _ => false

/-- `hash(value)` fails on lists and dictionaries. -/
def hashable : Json → Bool
  | arr _ => false
  | obj _ => false
  | _ => true

@[simp] theorem equalsStr_iff (text : String) (value : Json) :
    value.equalsStr text = true ↔ value = .str text := by
  cases value <;> simp [equalsStr]

def atPath : List String → Json → Option Json
  | [], value => some value
  | key :: path, obj fields => (Dict.get key fields).bind (atPath path)
  | _ :: _, _ => none

/-- Induction with the values of the items and fields. -/
theorem induct {holds : Json → Prop} (null : holds .null) (bool : ∀ b, holds (.bool b))
    (int : ∀ n, holds (.int n)) (float : ∀ x, holds (.float x)) (str : ∀ s, holds (.str s))
    (arr : ∀ items, (∀ item ∈ items, holds item) → holds (.arr items))
    (obj : ∀ fields : List (String × Json), (∀ field ∈ fields, holds field.2) →
      holds (.obj fields)) : ∀ value, holds value
  | .null => null
  | .bool b => bool b
  | .int n => int n
  | .float x => float x
  | .str s => str s
  | .arr items => arr items fun item _ => induct null bool int float str arr obj item
  | .obj fields => obj fields fun field _ => induct null bool int float str arr obj field.2
termination_by value => sizeOf value
decreasing_by
  · rename_i member
    have smaller := List.sizeOf_lt_of_mem member
    simp only [Json.arr.sizeOf_spec]
    omega
  · rename_i member
    have smaller := List.sizeOf_lt_of_mem member
    rcases field with ⟨key, value⟩
    simp only [Prod.mk.sizeOf_spec, Json.obj.sizeOf_spec] at smaller ⊢
    omega

end Json
