/-
What the pruning of undefined parts keeps.

The law is stated on trees alone: an entry stays if its subtree has content, whatever the
code compares to find that out.
-/

import Pybotx.Models.ApiBase

set_option autoImplicit false

namespace Pybotx

namespace PyValue

def IsScalar : PyValue → Prop
  | null | bool _ | int _ | float _ | str _ => True
  | undefined | list _ | dict _ => False

def IsContainer : PyValue → Prop
  | list _ | dict _ => True
  | _ => False

/-- At some depth there is a defined scalar or a container that is empty. -/
inductive HasContent : PyValue → Prop where
  | scalar {value : PyValue} (defined : value.IsScalar) : HasContent value
  | emptyList : HasContent (list [])
  | emptyDict : HasContent (dict [])
  | item {items : List PyValue} {value : PyValue} (member : value ∈ items)
      (content : HasContent value) : HasContent (list items)
  | field {fields : List (String × PyValue)} {key : String} {value : PyValue}
      (member : (key, value) ∈ fields) (content : HasContent value) : HasContent (dict fields)

inductive HasUndefined : PyValue → Prop where
  | here : HasUndefined undefined
  | item {items : List PyValue} {value : PyValue} (member : value ∈ items)
      (inside : HasUndefined value) : HasUndefined (list items)
  | field {fields : List (String × PyValue)} {key : String} {value : PyValue}
      (member : (key, value) ∈ fields) (inside : HasUndefined value) : HasUndefined (dict fields)

mutual

/-- The first tree is pruned to the second: entries without content are left out, the
others are pruned and stay where they are. -/
inductive Pruned : PyValue → PyValue → Prop where
  | scalar {value : PyValue} (defined : value.IsScalar) : Pruned value value
  | list {items newItems : List PyValue} (entries : PrunedItems items newItems) :
      Pruned (list items) (list newItems)
  | dict {fields newFields : List (String × PyValue)} (entries : PrunedFields fields newFields) :
      Pruned (dict fields) (dict newFields)

inductive PrunedItems : List PyValue → List PyValue → Prop where
  | nil : PrunedItems [] []
  | keep {value newValue : PyValue} {items newItems : List PyValue}
      (content : HasContent value) (here : Pruned value newValue)
      (later : PrunedItems items newItems) : PrunedItems (value :: items) (newValue :: newItems)
  | drop {value : PyValue} {items newItems : List PyValue} (empty : ¬ HasContent value)
      (later : PrunedItems items newItems) : PrunedItems (value :: items) newItems

inductive PrunedFields : List (String × PyValue) → List (String × PyValue) → Prop where
  | nil : PrunedFields [] []
  | keep {key : String} {value newValue : PyValue} {fields newFields : List (String × PyValue)}
      (content : HasContent value) (here : Pruned value newValue)
      (later : PrunedFields fields newFields) :
      PrunedFields ((key, value) :: fields) ((key, newValue) :: newFields)
  | drop {key : String} {value : PyValue} {fields newFields : List (String × PyValue)}
      (empty : ¬ HasContent value) (later : PrunedFields fields newFields) :
      PrunedFields ((key, value) :: fields) newFields

end

theorem hasContent_list_iff (items : List PyValue) :
    HasContent (list items) ↔ items = [] ∨ ∃ value ∈ items, HasContent value := by
  constructor
  · intro content
    cases content with
    | scalar defined => cases defined
    | emptyList => exact Or.inl rfl
    | item member content => exact Or.inr ⟨_, member, content⟩
  · intro cause
    rcases cause with empty | ⟨value, member, content⟩
    · rw [empty]
      exact .emptyList
    · exact .item member content

theorem hasContent_dict_iff (fields : List (String × PyValue)) :
    HasContent (dict fields) ↔ fields = [] ∨ ∃ field ∈ fields, HasContent field.2 := by
  constructor
  · intro content
    cases content with
    | scalar defined => cases defined
    | emptyDict => exact Or.inl rfl
    | field member content => exact Or.inr ⟨_, member, content⟩
  · intro cause
    rcases cause with empty | ⟨⟨key, value⟩, member, content⟩
    · rw [empty]
      exact .emptyDict
    · exact .field member content

theorem keepItems_eq (items : List PyValue) : keepItems items = items.filterMap kept := by
  induction items with
  | nil => rfl
  | cons value items ih =>
      rw [keepItems, List.filterMap_cons, ih]
      cases kept value <;> rfl

theorem keepFields_eq (fields : List (String × PyValue)) :
    keepFields fields = fields.filterMap keptField := by
  induction fields with
  | nil => rfl
  | cons field fields ih =>
      rw [keepFields, List.filterMap_cons, ih]
      cases keptField field <;> rfl

/-- The test of the source: something is left, or there was nothing to begin with. -/
private theorem survives_iff {α β : Type} (entries : List α) (keep : α → Option β) :
    ((entries.filterMap keep).isEmpty = false ∨
        (entries.filterMap keep).length = entries.length) ↔
      entries = [] ∨ ∃ entry ∈ entries, (keep entry).isSome = true := by
  rw [List.isEmpty_eq_false_iff, Ne, List.filterMap_eq_nil_iff]
  constructor
  · intro survives
    by_cases some_kept : ∃ entry ∈ entries, (keep entry).isSome = true
    · exact Or.inr some_kept
    · left
      have lost : ∀ entry ∈ entries, keep entry = none := by
        intro entry member
        by_contra present
        exact some_kept ⟨entry, member, Option.isSome_iff_ne_none.mpr present⟩
      rcases survives with left_over | lengths
      · exact absurd lost left_over
      · rw [List.filterMap_eq_nil_iff.mpr lost] at lengths
        exact List.length_eq_zero_iff.mp lengths.symm
  · intro cause
    rcases cause with empty | ⟨entry, member, present⟩
    · right
      rw [empty]
      rfl
    · left
      intro lost
      rw [lost entry member] at present
      cases present

private theorem keptField_isSome (field : String × PyValue) :
    (keptField field).isSome = (kept field.2).isSome := by
  rw [keptField, Option.isSome_map]

theorem kept_isSome_iff (value : PyValue) : (kept value).isSome = true ↔ HasContent value := by
  induction value using PyValue.induct with
  | undefined =>
      constructor
      · intro impossible
        cases impossible
      · intro content
        cases content with
        | scalar defined => cases defined
  | list items ih =>
      have survives := survives_iff items kept
      rw [kept, keepItems_eq, hasContent_list_iff, Option.isSome_ite, survives]
      exact or_congr_right (exists_congr fun value => and_congr_right fun member =>
        ih value member)
  | dict fields ih =>
      have survives := survives_iff fields keptField
      rw [kept, keepFields_eq, hasContent_dict_iff, Option.isSome_ite, survives]
      exact or_congr_right (exists_congr fun field => and_congr_right fun member => by
        rw [keptField_isSome]
        exact ih field member)
  | _ =>
      constructor
      · intro _
        exact .scalar trivial
      · intro _
        rfl

theorem eq_removeUndefined_of_kept (value newValue : PyValue)
    (here : kept value = some newValue) : newValue = removeUndefined value := by
  cases value with
  | undefined => cases here
  | list items =>
      rw [kept] at here
      split at here
      · cases here
        rfl
      · cases here
  | dict fields =>
      rw [kept] at here
      split at here
      · cases here
        rfl
      · cases here
  | _ =>
      cases here
      rfl

theorem kept_of_content {value : PyValue} (content : HasContent value) :
    kept value = some (removeUndefined value) := by
  obtain ⟨newValue, here⟩ := Option.isSome_iff_exists.mp ((kept_isSome_iff value).mpr content)
  rw [here, eq_removeUndefined_of_kept value newValue here]

theorem kept_of_empty {value : PyValue} (empty : ¬ HasContent value) : kept value = none := by
  rw [← Option.not_isSome_iff_eq_none]
  intro present
  exact empty ((kept_isSome_iff value).mp present)

/-! ### The code follows the law -/

private theorem prunedItems (items : List PyValue)
    (each : ∀ value ∈ items, HasContent value → Pruned value (removeUndefined value)) :
    PrunedItems items (keepItems items) := by
  induction items with
  | nil => exact .nil
  | cons value items ih =>
      have later := ih fun other member => each other (List.mem_cons_of_mem value member)
      rw [keepItems]
      by_cases content : HasContent value
      · rw [kept_of_content content]
        exact .keep content (each value List.mem_cons_self content) later
      · rw [kept_of_empty content]
        exact .drop content later

private theorem prunedFields (fields : List (String × PyValue))
    (each : ∀ field ∈ fields, HasContent field.2 → Pruned field.2 (removeUndefined field.2)) :
    PrunedFields fields (keepFields fields) := by
  induction fields with
  | nil => exact .nil
  | cons field fields ih =>
      rcases field with ⟨key, value⟩
      have later := ih fun other member => each other (List.mem_cons_of_mem _ member)
      rw [keepFields, keptField]
      by_cases content : HasContent value
      · rw [kept_of_content content]
        exact .keep content (each (key, value) List.mem_cons_self content) later
      · rw [kept_of_empty content]
        exact .drop content later

theorem pruned_of_content (value : PyValue) (content : HasContent value) :
    Pruned value (removeUndefined value) := by
  induction value using PyValue.induct with
  | undefined =>
      cases content with
      | scalar defined => cases defined
  | list items ih => exact .list (prunedItems items ih)
  | dict fields ih => exact .dict (prunedFields fields ih)
  | _ => exact .scalar trivial

theorem pruned_of_container (tree : PyValue) (container : tree.IsContainer) :
    Pruned tree (removeUndefined tree) := by
  cases tree with
  | list items => exact .list (prunedItems items fun value _ => pruned_of_content value)
  | dict fields => exact .dict (prunedFields fields fun field _ => pruned_of_content field.2)
  | _ => cases container

theorem mem_keepItems {items : List PyValue} {newValue : PyValue}
    (member : newValue ∈ keepItems items) :
    ∃ value ∈ items, HasContent value ∧ newValue = removeUndefined value := by
  rw [keepItems_eq, List.mem_filterMap] at member
  obtain ⟨value, inside, here⟩ := member
  have content := (kept_isSome_iff value).mp (Option.isSome_iff_exists.mpr ⟨newValue, here⟩)
  exact ⟨value, inside, content, eq_removeUndefined_of_kept value newValue here⟩

theorem mem_keepFields {fields : List (String × PyValue)} {key : String} {newValue : PyValue}
    (member : (key, newValue) ∈ keepFields fields) :
    ∃ value, (key, value) ∈ fields ∧ HasContent value ∧ newValue = removeUndefined value := by
  rw [keepFields_eq, List.mem_filterMap] at member
  obtain ⟨⟨oldKey, value⟩, inside, keptHere⟩ := member
  obtain ⟨kept', here, same⟩ := Option.map_eq_some_iff.mp keptHere
  cases same
  have content := (kept_isSome_iff value).mp (Option.isSome_iff_exists.mpr ⟨newValue, here⟩)
  exact ⟨value, inside, content, eq_removeUndefined_of_kept value newValue here⟩

theorem defined_of_content (value : PyValue) (content : HasContent value) :
    ¬ HasUndefined (removeUndefined value) := by
  induction value using PyValue.induct with
  | undefined =>
      cases content with
      | scalar defined => cases defined
  | list items ih =>
      intro remains
      cases remains with
      | item member inside =>
          obtain ⟨value, old, kept, rfl⟩ := mem_keepItems member
          exact ih value old kept inside
  | dict fields ih =>
      intro remains
      cases remains with
      | field member inside =>
          obtain ⟨value, old, kept, rfl⟩ := mem_keepFields member
          exact ih _ old kept inside
  | _ =>
      intro remains
      cases remains

theorem defined_of_removed (tree : PyValue) (container : tree.IsContainer) :
    ¬ HasUndefined (removeUndefined tree) := by
  intro remains
  cases tree with
  | list items =>
      cases remains with
      | item member inside =>
          obtain ⟨value, _, kept, rfl⟩ := mem_keepItems member
          exact defined_of_content value kept inside
  | dict fields =>
      cases remains with
      | field member inside =>
          obtain ⟨value, _, kept, rfl⟩ := mem_keepFields member
          exact defined_of_content value kept inside
  | _ => cases container

theorem hasContent_of_defined (tree : PyValue) (defined : ¬ HasUndefined tree) :
    HasContent tree := by
  induction tree using PyValue.induct with
  | undefined => exact absurd .here defined
  | list items ih =>
      cases items with
      | nil => exact .emptyList
      | cons value items =>
          exact .item List.mem_cons_self (ih value List.mem_cons_self fun inside =>
            defined (.item List.mem_cons_self inside))
  | dict fields ih =>
      cases fields with
      | nil => exact .emptyDict
      | cons field fields =>
          exact .field List.mem_cons_self (ih field List.mem_cons_self fun inside =>
            defined (.field List.mem_cons_self inside))
  | _ => exact .scalar trivial

private theorem keepItems_of_unchanged (items : List PyValue)
    (each : ∀ value ∈ items, kept value = some value) : keepItems items = items := by
  induction items with
  | nil => rfl
  | cons value items ih =>
      rw [keepItems, each value List.mem_cons_self]
      exact congrArg _ (ih fun other member => each other (List.mem_cons_of_mem value member))

private theorem keepFields_of_unchanged (fields : List (String × PyValue))
    (each : ∀ field ∈ fields, kept field.2 = some field.2) : keepFields fields = fields := by
  induction fields with
  | nil => rfl
  | cons field fields ih =>
      rcases field with ⟨key, value⟩
      rw [keepFields, keptField, each (key, value) List.mem_cons_self]
      exact congrArg _ (ih fun other member => each other (List.mem_cons_of_mem _ member))

theorem removeUndefined_of_defined (tree : PyValue) (defined : ¬ HasUndefined tree) :
    removeUndefined tree = tree := by
  induction tree using PyValue.induct with
  | list items ih =>
      rw [removeUndefined, keepItems_of_unchanged]
      intro value member
      have inside : ¬ HasUndefined value := fun other => defined (.item member other)
      rw [kept_of_content (hasContent_of_defined value inside), ih value member inside]
  | dict fields ih =>
      rw [removeUndefined, keepFields_of_unchanged]
      intro field member
      have inside : ¬ HasUndefined field.2 := fun other => defined (.field member other)
      rw [kept_of_content (hasContent_of_defined field.2 inside), ih field member inside]
  | _ => rfl

/-- Pruning removes exactly the undefined parts: what is kept follows the law, nothing
undefined is left, and pruning again or pruning a defined tree changes nothing. -/
theorem removeUndefined_law (tree : PyValue) (container : tree.IsContainer) :
    Pruned tree (removeUndefined tree) ∧ ¬ HasUndefined (removeUndefined tree) ∧
      removeUndefined (removeUndefined tree) = removeUndefined tree ∧
      (¬ HasUndefined tree → removeUndefined tree = tree) :=
  ⟨pruned_of_container tree container, defined_of_removed tree container,
    removeUndefined_of_defined _ (defined_of_removed tree container),
    removeUndefined_of_defined tree⟩

/-- A list of nothing but undefined values goes, an empty list and a zero stay. -/
def demoTree : PyValue :=
  dict [("a", undefined), ("b", list [undefined, dict [("c", undefined)]]), ("d", list []),
    ("e", dict [("f", int 0), ("g", undefined)])]

theorem removeUndefined_law_demo :
    Pruned demoTree (removeUndefined demoTree) ∧ ¬ HasUndefined (removeUndefined demoTree) ∧
      removeUndefined (removeUndefined demoTree) = removeUndefined demoTree ∧
      (¬ HasUndefined demoTree → removeUndefined demoTree = demoTree) :=
  removeUndefined_law demoTree trivial

example : removeUndefined demoTree = dict [("d", list []), ("e", dict [("f", int 0)])] := rfl

end PyValue

end Pybotx
