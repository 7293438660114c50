/-
Validation that collects errors.

Checking the parts of a value goes on after a part was found invalid, so that a later
part may still raise.  What a validator raises is not a validation error and ends
everything.
-/

import Pybotx.Foundation.Json

set_option autoImplicit false

inductive Validated (ε α : Type) where
  | valid (value : α)
  | invalid
  | raised (exc : ε)

namespace Validated

variable {ε α β : Type}

def map (f : α → β) : Validated ε α → Validated ε β
  | valid value => valid (f value)
  | invalid => invalid
  | raised exc => raised exc

/-- Two parts in order: what either raises comes before the verdict on the other. -/
def both (first : Validated ε (α → β)) (second : Validated ε α) : Validated ε β :=
  match first, second with
  | raised exc, _ => raised exc
  | _, raised exc => raised exc
  | valid f, valid value => valid (f value)
  | _, _ => invalid

instance : Applicative (Validated ε) where
  pure := valid
  seq first second := both first (second ())
  map := map

@[simp] theorem pure_eq (value : α) : (pure value : Validated ε α) = valid value := rfl

@[simp] theorem map_eq_valid_iff (f : α → β) (part : Validated ε α) (value : β) :
    f <$> part = valid value ↔ ∃ inner, part = valid inner ∧ f inner = value := by
  change part.map f = valid value ↔ _
  cases part <;> simp [map]

@[simp] theorem seq_eq_valid_iff (first : Validated ε (α → β)) (second : Validated ε α)
    (value : β) :
    first <*> second = valid value ↔
      ∃ f inner, first = valid f ∧ second = valid inner ∧ f inner = value := by
  change both first second = valid value ↔ _
  cases first <;> cases second <;> simp [both]

theorem forall_of_map {holds : β → Prop} {f : α → β} {part : Validated ε α}
    (each : ∀ value, holds (f value)) : ∀ value, f <$> part = valid value → holds value := by
  intro value checked
  obtain ⟨inner, _, rfl⟩ := (map_eq_valid_iff f part value).mp checked
  exact each inner

theorem forall_of_seq {holds : β → Prop} {first : Validated ε (α → β)} {second : Validated ε α}
    (each : ∀ f, first = valid f → ∀ value, holds (f value)) :
    ∀ value, first <*> second = valid value → holds value := by
  intro value checked
  obtain ⟨f, inner, built, _, rfl⟩ := (seq_eq_valid_iff first second value).mp checked
  exact each f built inner

def all : List (Validated ε α) → Validated ε (List α)
  | [] => pure []
  | part :: rest => List.cons <$> part <*> all rest

/-- A union: every alternative is tried, the first valid one is taken. -/
def oneOf : List (Validated ε α) → Validated ε α
  | [] => invalid
  | part :: rest =>
      match part with
      | raised exc => raised exc
      | invalid => oneOf rest
      | valid value =>
          match oneOf rest with
          | raised exc => raised exc
          | _ => valid value

def value? : Validated ε α → Option α
  | valid value => some value
  | _ => none

theorem value?_eq_some_iff (part : Validated ε α) (value : α) :
    part.value? = some value ↔ part = valid value := by
  cases part <;> simp [value?]

/-- The verdict of a validation that cannot raise, where others can. -/
def lift : Validated Empty α → Validated ε α
  | valid value => valid value
  | invalid => invalid

@[simp] theorem lift_ne_raised (part : Validated Empty α) (exc : ε) :
    part.lift ≠ raised exc := by
  intro same
  cases part with
  | valid value => cases same
  | invalid => cases same
  | raised impossible => cases impossible

theorem lift_eq_valid_iff (part : Validated Empty α) (value : α) :
    (part.lift : Validated ε α) = valid value ↔ part = valid value := by
  cases part with
  | raised impossible => cases impossible
  | _ => simp [lift]

theorem map_lift_seq_eq_raised_iff {γ : Type} (f : α → β → γ) (first : Validated Empty α)
    (second : Validated ε β) (exc : ε) :
    f <$> first.lift <*> second = raised exc ↔ second = raised exc := by
  change both (first.lift.map f) second = raised exc ↔ _
  cases first with
  | raised impossible => cases impossible
  | _ => cases second <;> simp [lift, map, both]

/-- What a union takes is one of its alternatives. -/
theorem mem_of_oneOf {parts : List (Validated ε α)} {value : α}
    (taken : oneOf parts = valid value) : valid value ∈ parts := by
  induction parts with
  | nil => cases taken
  | cons part rest ih =>
      cases part with
      | raised exc => cases taken
      | invalid => exact List.mem_cons_of_mem _ (ih taken)
      | valid first =>
          rw [oneOf] at taken
          split at taken
          · cases taken
          · cases taken
            exact List.mem_cons_self

def Settled (part : Validated ε α) : Prop :=
  ∀ exc, part ≠ raised exc

theorem Settled.map (f : α → β) {part : Validated ε α} (settled : Settled part) :
    Settled (f <$> part) := by
  intro exc raised
  cases part with
  | raised other => exact settled other rfl
  | valid value => cases raised
  | invalid => cases raised

theorem Settled.seq {first : Validated ε (α → β)} {second : Validated ε α}
    (settledFirst : Settled first) (settledSecond : Settled second) :
    Settled (first <*> second) := by
  intro exc raised
  cases first with
  | raised other => exact settledFirst other rfl
  | valid f =>
      cases second with
      | raised other => exact settledSecond other rfl
      | valid value => cases raised
      | invalid => cases raised
  | invalid =>
      cases second with
      | raised other => exact settledSecond other rfl
      | valid value => cases raised
      | invalid => cases raised

theorem settled_all {parts : List (Validated ε α)} (settled : ∀ part ∈ parts, Settled part) :
    Settled (all parts) := by
  induction parts with
  | nil =>
      intro exc raised
      cases raised
  | cons part rest ih =>
      exact .seq (.map _ (settled part List.mem_cons_self))
        (ih fun other member => settled other (List.mem_cons_of_mem _ member))

end Validated

/-! ### Validators of JSON values -/

abbrev Validator (ε α : Type) := Json → Validated ε α

namespace Validator

variable {ε α β : Type}

def ofOption (parse : Json → Option α) : Validator ε α :=
  fun value => (parse value).elim .invalid .valid

/-- A validator that raises nothing of its own. -/
def silent (inner : Validator Empty α) : Validator ε α := fun value => (inner value).lift

def str : Validator ε String
  | .str text => .valid text
  | _ => .invalid

def dict : Validator ε (List (String × Json))
  | .obj fields => .valid fields
  | _ => .invalid

def list (item : Validator ε α) : Validator ε (List α)
  | .arr items => Validated.all (items.map item)
  | _ => .invalid

def optional (inner : Validator ε α) : Validator ε (Option α)
  | .null => .valid none
  | value => some <$> inner value

def literal (text : String) : Validator ε Unit :=
  fun value => if value.equalsStr text then .valid () else .invalid

def member (members : List α) (name : α → String) : Validator ε α
  | .str text => (members.find? fun candidate => name candidate = text).elim .invalid .valid
  | _ => .invalid

def model (fields : List (String × Json) → Validated ε α) : Validator ε α
  | .obj entries => fields entries
  | _ => .invalid

def union (alternatives : List (Validator ε α)) : Validator ε α :=
  fun value => Validated.oneOf (alternatives.map fun alternative => alternative value)

def required (key : String) (inner : Validator ε α) (entries : List (String × Json)) :
    Validated ε α :=
  (Dict.get key entries).elim .invalid inner

def defaulted (key : String) (default : α) (inner : Validator ε α)
    (entries : List (String × Json)) : Validated ε α :=
  (Dict.get key entries).elim (.valid default) inner

theorem required_eq_valid_iff (key : String) (inner : Validator ε α)
    (entries : List (String × Json)) (value : α) :
    required key inner entries = .valid value ↔
      ∃ raw, Dict.get key entries = some raw ∧ inner raw = .valid value := by
  unfold required
  cases Dict.get key entries <;> simp

theorem ofOption_eq_valid_iff (parse : Json → Option α) (raw : Json) (value : α) :
    (ofOption parse raw : Validated ε α) = .valid value ↔ parse raw = some value := by
  unfold ofOption
  cases parse raw <;> simp

theorem literal_eq_valid_iff (text : String) (raw : Json) :
    (literal text raw : Validated ε Unit) = .valid () ↔ raw = .str text := by
  unfold literal
  rw [← Json.equalsStr_iff]
  by_cases same : raw.equalsStr text = true
  · simp [same]
  · simp [same]

theorem model_eq_valid_iff (fields : List (String × Json) → Validated ε α) (raw : Json)
    (value : α) :
    model fields raw = .valid value ↔
      ∃ entries, raw = .obj entries ∧ fields entries = .valid value := by
  cases raw <;> simp [model]

@[simp] theorem str_eq_valid_iff (raw : Json) (text : String) :
    (str raw : Validated ε String) = .valid text ↔ raw = .str text := by
  cases raw <;> simp [str]

@[simp] theorem dict_eq_valid_iff (raw : Json) (fields : List (String × Json)) :
    (dict raw : Validated ε _) = .valid fields ↔ raw = .obj fields := by
  cases raw <;> simp [dict]

theorem list_str_eq_valid_iff (raw : Json) (texts : List String) :
    (list str raw : Validated ε _) = .valid texts ↔ raw = .arr (texts.map .str) := by
  cases raw with
  | arr items =>
      rw [list, Json.arr.injEq]
      induction items generalizing texts with
      | nil => cases texts <;> simp [Validated.all]
      | cons item rest ih => cases texts <;> simp [Validated.all, ih]
  | _ => simp [list]

theorem optional_eq_valid_iff (inner : Validator ε α) (raw : Json) (value : Option α) :
    optional inner raw = .valid value ↔
      (raw = .null ∧ value = none) ∨
        (raw ≠ .null ∧ ∃ present, inner raw = .valid present ∧ value = some present) := by
  cases raw <;> simp [optional, eq_comm]

theorem defaulted_eq_valid_iff (key : String) (default : α) (inner : Validator ε α)
    (entries : List (String × Json)) (value : α) :
    defaulted key default inner entries = .valid value ↔
      (Dict.get key entries = none ∧ value = default) ∨
        ∃ raw, Dict.get key entries = some raw ∧ inner raw = .valid value := by
  unfold defaulted
  cases Dict.get key entries <;> simp [eq_comm]

/-- A field that may be absent or null is accepted unless it has a value that is not. -/
theorem exists_defaulted_optional_iff (key : String) (inner : Validator ε α)
    (entries : List (String × Json)) :
    (∃ value, defaulted key none (optional inner) entries = .valid value) ↔
      ∀ raw, Dict.get key entries = some raw → raw = .null ∨ ∃ value, inner raw = .valid value := by
  simp only [defaulted_eq_valid_iff, optional_eq_valid_iff]
  cases Dict.get key entries with
  | none => simp
  | some raw =>
      by_cases null : raw = .null
      · simp [null]
      · simp [null]

theorem defaulted_optional_eq_none_iff (key : String) (inner : Validator ε α)
    (entries : List (String × Json)) :
    defaulted key none (optional inner) entries = .valid none ↔
      ∀ raw, Dict.get key entries = some raw → raw = .null := by
  simp only [defaulted_eq_valid_iff, optional_eq_valid_iff]
  cases Dict.get key entries <;> simp

theorem required_eq_raised_iff (key : String) (inner : Validator ε α)
    (entries : List (String × Json)) (exc : ε) :
    required key inner entries = .raised exc ↔
      ∃ raw, Dict.get key entries = some raw ∧ inner raw = .raised exc := by
  unfold required
  cases Dict.get key entries <;> simp

theorem defaulted_eq_raised_iff (key : String) (default : α) (inner : Validator ε α)
    (entries : List (String × Json)) (exc : ε) :
    defaulted key default inner entries = .raised exc ↔
      ∃ raw, Dict.get key entries = some raw ∧ inner raw = .raised exc := by
  unfold defaulted
  cases Dict.get key entries <;> simp

theorem model_eq_raised_iff (fields : List (String × Json) → Validated ε α) (raw : Json)
    (exc : ε) :
    model fields raw = .raised exc ↔
      ∃ entries, raw = .obj entries ∧ fields entries = .raised exc := by
  cases raw <;> simp [model]

theorem eq_name_of_member {members : List α} {name : α → String} {raw : Json} {value : α}
    (checked : (member members name raw : Validated ε α) = .valid value) :
    raw = .str (name value) := by
  cases raw with
  | str text =>
      rw [member] at checked
      cases found : members.find? fun candidate => name candidate = text with
      | none =>
          rw [found] at checked
          cases checked
      | some candidate =>
          rw [found] at checked
          cases checked
          have named := List.find?_some found
          rw [of_decide_eq_true named]
  | _ => cases checked

theorem all_map_eq_valid_iff (item : Validator ε α) (items : List Json) (values : List α) :
    Validated.all (items.map item) = .valid values ↔
      List.Forall₂ (fun raw value => item raw = .valid value) items values := by
  induction items generalizing values with
  | nil => cases values <;> simp [Validated.all]
  | cons raw items ih => cases values <;> simp [Validated.all, ih]

theorem list_eq_valid_iff (item : Validator ε α) (raw : Json) (values : List α) :
    list item raw = .valid values ↔ ∃ items, raw = .arr items ∧
      List.Forall₂ (fun raw value => item raw = .valid value) items values := by
  cases raw with
  | arr items => simp [list, all_map_eq_valid_iff]
  | _ => simp [list]

theorem exists_of_union {alternatives : List (Validator ε α)} {raw : Json} {value : α}
    (taken : union alternatives raw = .valid value) :
    ∃ alternative ∈ alternatives, alternative raw = .valid value :=
  List.mem_map.mp (Validated.mem_of_oneOf taken)

theorem settled_required {inner : Validator ε α} (settled : ∀ raw, (inner raw).Settled)
    (key : String) (entries : List (String × Json)) : (required key inner entries).Settled := by
  intro exc raised
  obtain ⟨raw, _, raised⟩ := (required_eq_raised_iff key inner entries exc).mp raised
  exact settled raw exc raised

theorem settled_model {fields : List (String × Json) → Validated ε α}
    (settled : ∀ entries, (fields entries).Settled) (raw : Json) :
    (model fields raw).Settled := by
  intro exc raised
  obtain ⟨entries, _, raised⟩ := (model_eq_raised_iff fields raw exc).mp raised
  exact settled entries exc raised

theorem settled_ofOption (parse : Json → Option α) (raw : Json) :
    (ofOption parse raw : Validated ε α).Settled := by
  intro exc raised
  unfold ofOption at raised
  cases parsed : parse raw with
  | none =>
      rw [parsed] at raised
      cases raised
  | some value =>
      rw [parsed] at raised
      cases raised

theorem settled_literal (text : String) (raw : Json) :
    (literal text raw : Validated ε Unit).Settled := by
  intro exc raised
  unfold literal at raised
  split at raised <;> cases raised

theorem settled_str (raw : Json) : (str raw : Validated ε String).Settled := by
  intro exc raised
  cases raw <;> cases raised

theorem settled_dict (raw : Json) :
    (dict raw : Validated ε (List (String × Json))).Settled := by
  intro exc raised
  cases raw <;> cases raised

theorem settled_list {item : Validator ε α} (settled : ∀ raw, (item raw).Settled) (raw : Json) :
    (list item raw).Settled := by
  cases raw with
  | arr items =>
      refine Validated.settled_all ?_
      intro part member
      obtain ⟨element, _, rfl⟩ := List.mem_map.mp member
      exact settled element
  | _ =>
      intro exc raised
      cases raised

end Validator
