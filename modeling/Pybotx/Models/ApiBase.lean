/-
Payloads: values with undefined parts, the pruning of those parts, and the JSON object
that is sent.

`PyValue` is what `model_dump` returns.  Identifiers and enumeration members appear as
the text that the JSON encoder writes for them; reading the encoded text back with
`json.loads` gives the same tree, so `toJson` stands for both steps.
-/

import Pybotx.Foundation.Sparse

set_option autoImplicit false

namespace Pybotx

/-- `Missing[T]`: a value or `Undefined`. -/
inductive Missing (α : Type) where
  | undefined
  | value (value : α)
  deriving DecidableEq

inductive PyValue where
  | undefined
  | null
  | bool (value : Bool)
  | int (value : Int)
  | float (value : PyFloat)
  | str (value : String)
  | list (items : List PyValue)
  | dict (fields : List (String × PyValue))

namespace Missing

variable {α β : Type}

def map (f : α → β) : Missing α → Missing β
  | undefined => undefined
  | value x => value (f x)

def toOption : Missing α → Option α
  | undefined => none
  | value x => some x

def toPyValue (encode : α → PyValue) : Missing α → PyValue
  | undefined => .undefined
  | value x => encode x

end Missing

namespace PyValue

mutual

/-- `_remove_undefined` on a list or a dictionary; it is never called on anything else. -/
def removeUndefined : PyValue → PyValue
  | list items => list (keepItems items)
  | dict fields => dict (keepFields fields)
  | other => other

def keepItems : List PyValue → List PyValue
  | [] => []
  | value :: rest =>
      match kept value with
      | some newValue => newValue :: keepItems rest
      | none => keepItems rest

def keepFields : List (String × PyValue) → List (String × PyValue)
  | [] => []
  | field :: rest =>
      match keptField field with
      | some newField => newField :: keepFields rest
      | none => keepFields rest

def keptField : String × PyValue → Option (String × PyValue)
  | (key, value) => (kept value).map fun newValue => (key, newValue)

/-- A container that lost all its entries is dropped; one that had none is kept. -/
def kept : PyValue → Option PyValue
  | undefined => none
  | list items =>
      let newValue := keepItems items
      if newValue.isEmpty = false ∨ newValue.length = items.length then some (list newValue)
      else none
  | dict fields =>
      let newValue := keepFields fields
      if newValue.isEmpty = false ∨ newValue.length = fields.length then some (dict newValue)
      else none
  | other => some other

end

mutual

/-- The encoder refuses an `Undefined` that is left. -/
def toJson : PyValue → Option Json
  | undefined => none
  | null => some .null
  | bool value => some (.bool value)
  | int value => some (.int value)
  | float value => some (.float value)
  | str value => some (.str value)
  | list items => (toJsonItems items).map .arr
  | dict fields => (toJsonFields fields).map .obj

def toJsonItems : List PyValue → Option (List Json)
  | [] => some []
  | value :: rest => do
      let first ← toJson value
      let others ← toJsonItems rest
      return first :: others

def toJsonFields : List (String × PyValue) → Option (List (String × Json))
  | [] => some []
  | field :: rest => do
      let first ← toJsonField field
      let others ← toJsonFields rest
      return first :: others

def toJsonField : String × PyValue → Option (String × Json)
  | (key, value) => (toJson value).map fun encoded => (key, encoded)

end

mutual

def ofJson : Json → PyValue
  | .null => null
  | .bool value => bool value
  | .int value => int value
  | .float value => float value
  | .str value => str value
  | .arr items => list (ofJsonItems items)
  | .obj fields => dict (ofJsonFields fields)

def ofJsonItems : List Json → List PyValue
  | [] => []
  | value :: rest => ofJson value :: ofJsonItems rest

def ofJsonFields : List (String × Json) → List (String × PyValue)
  | [] => []
  | field :: rest => ofJsonField field :: ofJsonFields rest

def ofJsonField : String × Json → String × PyValue
  | (key, value) => (key, ofJson value)

end

/-- `PayloadBaseModel.jsonable_dict` on a dumped model. -/
def jsonableDict (dumped : PyValue) : Option Json :=
  toJson (removeUndefined dumped)

theorem induct {holds : PyValue → Prop} (undefined : holds .undefined) (null : holds .null)
    (bool : ∀ b, holds (.bool b)) (int : ∀ n, holds (.int n)) (float : ∀ x, holds (.float x))
    (str : ∀ s, holds (.str s))
    (list : ∀ items, (∀ item ∈ items, holds item) → holds (.list items))
    (dict : ∀ fields : List (String × PyValue), (∀ field ∈ fields, holds field.2) →
      holds (.dict fields)) : ∀ value, holds value
  | .undefined => undefined
  | .null => null
  | .bool b => bool b
  | .int n => int n
  | .float x => float x
  | .str s => str s
  | .list items =>
      list items fun item _ => induct undefined null bool int float str list dict item
  | .dict fields =>
      dict fields fun field _ => induct undefined null bool int float str list dict field.2
termination_by value => sizeOf value
decreasing_by
  · rename_i member
    have smaller := List.sizeOf_lt_of_mem member
    simp only [PyValue.list.sizeOf_spec]
    omega
  · rename_i member
    have smaller := List.sizeOf_lt_of_mem member
    rcases field with ⟨key, value⟩
    simp only [Prod.mk.sizeOf_spec, PyValue.dict.sizeOf_spec] at smaller ⊢
    omega

/-! ### Pruning and encoding in one -/

/-- The JSON value an entry of a container becomes, if it is kept. -/
def prune (value : PyValue) : Option Json :=
  (kept value).bind toJson

def pruneFields (fields : List (String × PyValue)) : List (String × Json) :=
  fields.filterMap fun field => (prune field.2).map fun json => (field.1, json)

def Encodable (value : PyValue) : Prop :=
  ∀ newValue, kept value = some newValue → ∃ json, toJson newValue = some json

private theorem toJsonItems_keepItems_of (items : List PyValue)
    (encodable : ∀ item ∈ items, Encodable item) :
    toJsonItems (keepItems items) = some (items.filterMap prune) ∧
      (keepItems items).length = (items.filterMap prune).length := by
  induction items with
  | nil => exact ⟨rfl, rfl⟩
  | cons item items ih =>
      obtain ⟨encoded, lengths⟩ :=
        ih fun other member => encodable other (List.mem_cons_of_mem item member)
      cases here : kept item with
      | none =>
          have dropped : prune item = none := by rw [prune, here, Option.bind_none]
          simp only [keepItems, here, List.filterMap_cons, dropped]
          exact ⟨encoded, lengths⟩
      | some newItem =>
          obtain ⟨json, newEncoded⟩ := encodable item List.mem_cons_self newItem here
          have stays : prune item = some json := by rw [prune, here, Option.bind_some, newEncoded]
          simp only [keepItems, here, List.filterMap_cons, stays, toJsonItems, newEncoded, encoded,
            List.length_cons, lengths]
          exact ⟨rfl, trivial⟩

private theorem toJsonFields_keepFields_of (fields : List (String × PyValue))
    (encodable : ∀ field ∈ fields, Encodable field.2) :
    toJsonFields (keepFields fields) = some (pruneFields fields) ∧
      (keepFields fields).length = (pruneFields fields).length := by
  induction fields with
  | nil => exact ⟨rfl, rfl⟩
  | cons field fields ih =>
      rcases field with ⟨key, value⟩
      obtain ⟨encoded, lengths⟩ :=
        ih fun other member => encodable other (List.mem_cons_of_mem _ member)
      cases here : kept value with
      | none =>
          have dropped : prune value = none := by rw [prune, here, Option.bind_none]
          simp only [keepFields, keptField, here, Option.map_none, pruneFields,
            List.filterMap_cons, dropped]
          exact ⟨encoded, lengths⟩
      | some newValue =>
          obtain ⟨json, newEncoded⟩ := encodable (key, value) List.mem_cons_self newValue here
          have stays : prune value = some json := by
            rw [prune, here, Option.bind_some, newEncoded]
          have unfolded : pruneFields ((key, value) :: fields) =
              (key, json) :: pruneFields fields := by
            simp only [pruneFields, List.filterMap_cons, stays, Option.map_some]
          rw [unfolded]
          simp only [keepFields, keptField, here, Option.map_some, toJsonFields, toJsonField,
            newEncoded, encoded, List.length_cons, lengths]
          exact ⟨rfl, trivial⟩

theorem encodable (value : PyValue) : Encodable value := by
  induction value using PyValue.induct with
  | undefined =>
      intro newValue here
      cases here
  | list items ih =>
      intro newValue here
      rw [kept] at here
      split at here
      · cases here
        rw [toJson, (toJsonItems_keepItems_of items ih).1]
        exact ⟨_, rfl⟩
      · cases here
  | dict fields ih =>
      intro newValue here
      rw [kept] at here
      split at here
      · cases here
        rw [toJson, (toJsonFields_keepFields_of fields ih).1]
        exact ⟨_, rfl⟩
      · cases here
  | _ =>
      intro newValue here
      cases here
      exact ⟨_, rfl⟩

theorem toJsonItems_keepItems (items : List PyValue) :
    toJsonItems (keepItems items) = some (items.filterMap prune) :=
  (toJsonItems_keepItems_of items fun item _ => encodable item).1

theorem toJsonFields_keepFields (fields : List (String × PyValue)) :
    toJsonFields (keepFields fields) = some (pruneFields fields) :=
  (toJsonFields_keepFields_of fields fun field _ => encodable field.2).1

@[simp] theorem prune_undefined : prune undefined = none := rfl

@[simp] theorem prune_null : prune null = some .null := rfl

@[simp] theorem prune_bool (b : Bool) : prune (bool b) = some (.bool b) := rfl

@[simp] theorem prune_str (s : String) : prune (str s) = some (.str s) := rfl

@[simp] theorem prune_int (n : Int) : prune (int n) = some (.int n) := rfl

theorem prune_toPyValue {α : Type} (encode : α → PyValue) (json : α → Json)
    (same : ∀ x, prune (encode x) = some (json x)) (field : Missing α) :
    prune (field.toPyValue encode) = (Sparse.leaf (field.toOption.map json)).render := by
  cases field with
  | undefined => rfl
  | value x => exact same x

private theorem kept_condition {α β : Type} {new : List α} {encoded : List β} {old : Nat}
    (lengths : new.length = encoded.length) :
    (new.isEmpty = false ∨ new.length = old) ↔ ¬ (encoded = [] ∧ old ≠ 0) := by
  rw [← List.length_eq_zero_iff, ← lengths, List.isEmpty_eq_false_iff, ← List.length_pos_iff]
  omega

/-- A list is dropped exactly if it had entries and lost them all. -/
theorem prune_list (items : List PyValue) :
    prune (list items) =
      if items.filterMap prune = [] ∧ items.length ≠ 0 then none
      else some (.arr (items.filterMap prune)) := by
  have lengths := (toJsonItems_keepItems_of items fun item _ => encodable item).2
  have condition : _ ↔ ¬ (items.filterMap prune = [] ∧ items.length ≠ 0) :=
    kept_condition lengths
  rw [prune, kept]
  simp only [condition]
  by_cases lost : items.filterMap prune = [] ∧ items.length ≠ 0
  · rw [if_neg (not_not.mpr lost), if_pos lost]
    rfl
  · rw [if_pos lost, if_neg lost, Option.bind_some, toJson, toJsonItems_keepItems]
    rfl

/-- A dictionary is dropped exactly if it had entries and lost them all. -/
theorem prune_dict (fields : List (String × PyValue)) :
    prune (dict fields) =
      if pruneFields fields = [] ∧ fields.length ≠ 0 then none
      else some (.obj (pruneFields fields)) := by
  have lengths := (toJsonFields_keepFields_of fields fun field _ => encodable field.2).2
  have condition : _ ↔ ¬ (pruneFields fields = [] ∧ fields.length ≠ 0) :=
    kept_condition lengths
  rw [prune, kept]
  simp only [condition]
  by_cases lost : pruneFields fields = [] ∧ fields.length ≠ 0
  · rw [if_neg (not_not.mpr lost), if_pos lost]
    rfl
  · rw [if_pos lost, if_neg lost, Option.bind_some, toJson, toJsonFields_keepFields]
    rfl

theorem filterMap_prune_of_kept {α : Type} (items : List α) (dump : α → PyValue)
    (json : α → Json) (keeps : ∀ item ∈ items, prune (dump item) = some (json item)) :
    (items.map dump).filterMap prune = items.map json := by
  induction items with
  | nil => rfl
  | cons item items ih =>
      rw [List.map_cons, List.filterMap_cons, keeps item List.mem_cons_self, List.map_cons,
        ih fun other member => keeps other (List.mem_cons_of_mem item member)]

theorem prune_list_of_kept {α : Type} (items : List α) (dump : α → PyValue) (json : α → Json)
    (keeps : ∀ item ∈ items, prune (dump item) = some (json item)) :
    prune (list (items.map dump)) = some (.arr (items.map json)) := by
  rw [prune_list, filterMap_prune_of_kept items dump json keeps, if_neg]
  rintro ⟨lost, nonempty⟩
  rw [List.map_eq_nil_iff.mp lost] at nonempty
  exact nonempty rfl

theorem jsonableDict_list (items : List PyValue) :
    jsonableDict (list items) = some (.arr (items.filterMap prune)) := by
  rw [jsonableDict, removeUndefined, toJson, toJsonItems_keepItems]
  rfl

theorem jsonableDict_dict (fields : List (String × PyValue)) :
    jsonableDict (dict fields) = some (.obj (pruneFields fields)) := by
  rw [jsonableDict, removeUndefined, toJson, toJsonFields_keepFields]
  rfl

/-- User data without `Undefined` is sent as it is. -/
@[simp] theorem prune_ofJson (json : Json) : prune (ofJson json) = some json := by
  have items (list : List Json) (each : ∀ item ∈ list, prune (ofJson item) = some item) :
      (ofJsonItems list).filterMap prune = list ∧ (ofJsonItems list).length = list.length := by
    induction list with
    | nil => exact ⟨rfl, rfl⟩
    | cons item list ih =>
        obtain ⟨rest, lengths⟩ := ih fun other member => each other (List.mem_cons_of_mem _ member)
        simp only [ofJsonItems, List.filterMap_cons, each item List.mem_cons_self, rest,
          List.length_cons, lengths, and_self]
  have entries (list : List (String × Json))
      (each : ∀ field ∈ list, prune (ofJson field.2) = some field.2) :
      pruneFields (ofJsonFields list) = list ∧ (ofJsonFields list).length = list.length := by
    induction list with
    | nil => exact ⟨rfl, rfl⟩
    | cons field list ih =>
        rcases field with ⟨key, value⟩
        obtain ⟨rest, lengths⟩ := ih fun other member => each other (List.mem_cons_of_mem _ member)
        unfold pruneFields at rest ⊢
        simp only [ofJsonFields, ofJsonField, List.filterMap_cons,
          each (key, value) List.mem_cons_self, Option.map_some, rest, List.length_cons, lengths,
          and_self]
  induction json using Json.induct with
  | arr list ih =>
      obtain ⟨encoded, lengths⟩ := items list ih
      rw [ofJson, prune_list, encoded, lengths, if_neg]
      rintro ⟨rfl, nonempty⟩
      exact nonempty rfl
  | obj list ih =>
      obtain ⟨encoded, lengths⟩ := entries list ih
      rw [ofJson, prune_dict, encoded, lengths, if_neg]
      rintro ⟨rfl, nonempty⟩
      exact nonempty rfl
  | _ => rfl

theorem get_pruneFields (fields : List (String × PyValue))
    (distinct : (fields.map Prod.fst).Nodup) (key : String) :
    Dict.get key (pruneFields fields) = (Dict.get key fields).bind prune := by
  induction fields with
  | nil => rfl
  | cons field fields ih =>
      rcases field with ⟨other, value⟩
      rw [List.map_cons, List.nodup_cons] at distinct
      have later := ih distinct.2
      unfold pruneFields at later ⊢
      rw [List.filterMap_cons, Dict.get_cons]
      by_cases same : key = other
      · have absent : Dict.get key fields = none := by
          apply (Dict.get_eq_none_iff key fields).mpr
          intro pair member named
          exact distinct.1 (List.mem_map.mpr ⟨pair, member, named.trans same⟩)
        rw [if_pos same, Option.bind_some]
        rw [absent, Option.bind_none] at later
        cases pruned : prune value with
        | none => simp only [Option.map_none, later]
        | some json => simp only [Option.map_some, Dict.get_cons, if_pos same]
      · rw [if_neg same, ← later]
        cases pruned : prune value with
        | none => simp only [Option.map_none]
        | some json => simp only [Option.map_some, Dict.get_cons, if_neg same]

/-- Each field prunes to what the field of the sparse object renders to. -/
def Dumps (fields : List (String × PyValue)) (shapes : List (String × Sparse)) : Prop :=
  List.Forall₂ (fun field shape => field.1 = shape.1 ∧ prune field.2 = shape.2.render)
    fields shapes

theorem Dumps.cons {key : String} {value : PyValue} {shape : Sparse}
    {fields : List (String × PyValue)} {shapes : List (String × Sparse)}
    (here : prune value = shape.render) (later : Dumps fields shapes) :
    Dumps ((key, value) :: fields) ((key, shape) :: shapes) :=
  List.Forall₂.cons ⟨rfl, here⟩ later

theorem Dumps.nil : Dumps [] [] :=
  List.Forall₂.nil

theorem pruneFields_eq_render {fields : List (String × PyValue)}
    {shapes : List (String × Sparse)} (dumps : Dumps fields shapes) :
    pruneFields fields = Sparse.renderFields shapes := by
  induction dumps with
  | nil => rfl
  | @cons field shape fields shapes same _ ih =>
      rcases field with ⟨key, value⟩
      rcases shape with ⟨shapeKey, shape⟩
      obtain ⟨rfl, rendered⟩ := same
      change prune value = shape.render at rendered
      unfold pruneFields at ih ⊢
      rw [List.filterMap_cons, Sparse.renderFields, Sparse.renderField, ← rendered]
      cases prune value with
      | none => exact ih
      | some json => exact congrArg _ ih

theorem prune_dict_eq_render {fields : List (String × PyValue)}
    {shapes : List (String × Sparse)} (nonempty : fields.length ≠ 0)
    (dumps : Dumps fields shapes) :
    prune (dict fields) = (Sparse.group shapes).render := by
  rw [prune_dict, pruneFields_eq_render dumps, Sparse.render]
  cases Sparse.renderFields shapes with
  | nil => rw [if_pos ⟨rfl, nonempty⟩]
  | cons first rest =>
      rw [if_neg]
      rintro ⟨impossible, _⟩
      cases impossible

end PyValue

end Pybotx
