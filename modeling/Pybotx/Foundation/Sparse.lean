/-
Objects with optional leaves: a group of fields is rendered only if something in it is.

`Renders` says what that means for a reader of the JSON object: each leaf stands at its
path exactly if it has a value, a group exactly if a leaf below it has, and nothing else
is there.
-/

import Pybotx.Foundation.Json

set_option autoImplicit false

inductive Sparse where
  | leaf (value : Option Json)
  | group (fields : List (String × Sparse))

namespace Sparse

mutual

def render : Sparse → Option Json
  | leaf value => value
  | group fields =>
      match renderFields fields with
      | [] => none
      | first :: rest => some (.obj (first :: rest))

def renderFields : List (String × Sparse) → List (String × Json)
  | [] => []
  | field :: rest =>
      match renderField field with
      | some rendered => rendered :: renderFields rest
      | none => renderFields rest

def renderField : String × Sparse → Option (String × Json)
  | (key, value) => (render value).map fun rendered => (key, rendered)

end

mutual

def leaves : Sparse → List (List String × Option Json)
  | leaf value => [([], value)]
  | group fields => leavesOfFields fields

def leavesOfFields : List (String × Sparse) → List (List String × Option Json)
  | [] => []
  | field :: rest => leavesOfField field ++ leavesOfFields rest

def leavesOfField : String × Sparse → List (List String × Option Json)
  | (key, value) => (leaves value).map fun found => (key :: found.1, found.2)

end

mutual

/-- Groups are not empty and name each field once. -/
def wellFormed : Sparse → Bool
  | leaf _ => true
  | group fields =>
      !fields.isEmpty && decide (fields.map Prod.fst).Nodup && wellFormedFields fields

def wellFormedFields : List (String × Sparse) → Bool
  | [] => true
  | field :: rest => wellFormedField field && wellFormedFields rest

def wellFormedField : String × Sparse → Bool
  | (_, value) => wellFormed value

end

theorem induct {holds : Sparse → Prop} (leaf : ∀ value, holds (.leaf value))
    (group : ∀ fields : List (String × Sparse), (∀ field ∈ fields, holds field.2) →
      holds (.group fields)) : ∀ tree, holds tree
  | .leaf value => leaf value
  | .group fields => group fields fun field _ => induct leaf group field.2
termination_by tree => sizeOf tree
decreasing_by
  rename_i member
  have smaller := List.sizeOf_lt_of_mem member
  rcases field with ⟨key, value⟩
  simp only [Prod.mk.sizeOf_spec, Sparse.group.sizeOf_spec] at smaller ⊢
  omega

theorem wellFormed_group (fields : List (String × Sparse))
    (ok : (group fields).wellFormed = true) :
    fields ≠ [] ∧ (fields.map Prod.fst).Nodup ∧
      ∀ field ∈ fields, field.2.wellFormed = true := by
  have each (fields : List (String × Sparse)) (ok : wellFormedFields fields = true) :
      ∀ field ∈ fields, field.2.wellFormed = true := by
    induction fields with
    | nil =>
        intro field member
        cases member
    | cons first rest ih =>
        rcases first with ⟨key, value⟩
        rw [wellFormedFields, wellFormedField, Bool.and_eq_true] at ok
        intro field member
        rcases List.mem_cons.mp member with rfl | later
        · exact ok.1
        · exact ih ok.2 field later
  rw [wellFormed, Bool.and_eq_true, Bool.and_eq_true] at ok
  exact ⟨by simpa using ok.1.1, by simpa using ok.1.2, each fields ok.2⟩

theorem mem_leavesOfFields (fields : List (String × Sparse))
    (leaf : List String × Option Json) :
    leaf ∈ leavesOfFields fields ↔
      ∃ field ∈ fields, ∃ below ∈ leaves field.2, leaf = (field.1 :: below.1, below.2) := by
  induction fields with
  | nil => simp [leavesOfFields]
  | cons first rest ih =>
      rcases first with ⟨key, value⟩
      simp only [leavesOfFields, leavesOfField, List.mem_append, List.mem_map, ih,
        List.mem_cons, exists_eq_or_imp, eq_comm]

theorem renderFields_eq_nil_iff (fields : List (String × Sparse)) :
    renderFields fields = [] ↔ ∀ field ∈ fields, render field.2 = none := by
  induction fields with
  | nil => simp [renderFields]
  | cons first rest ih =>
      rcases first with ⟨key, value⟩
      cases rendered : render value with
      | none => simp [renderFields, renderField, rendered, ih]
      | some json => simp [renderFields, renderField, rendered]

theorem get_renderFields (fields : List (String × Sparse))
    (distinct : (fields.map Prod.fst).Nodup) (key : String) :
    Dict.get key (renderFields fields) = (Dict.get key fields).bind render := by
  induction fields with
  | nil => rfl
  | cons first rest ih =>
      rcases first with ⟨other, value⟩
      rw [List.map_cons, List.nodup_cons] at distinct
      have later := ih distinct.2
      rw [Dict.get_cons]
      by_cases same : key = other
      · subst same
        have absent : Dict.get key rest = none := by
          apply (Dict.get_eq_none_iff key rest).mpr
          rintro pair member rfl
          exact distinct.1 (List.mem_map.mpr ⟨pair, member, rfl⟩)
        rw [if_pos rfl, Option.bind_some]
        cases rendered : render value with
        | none =>
            simp only [renderFields, renderField, rendered, Option.map_none, later, absent,
              Option.bind_none]
        | some json =>
            simp only [renderFields, renderField, rendered, Option.map_some, Dict.get_cons,
              if_true]
      · rw [if_neg same, ← later]
        cases rendered : render value with
        | none => simp only [renderFields, renderField, rendered, Option.map_none]
        | some json =>
            simp only [renderFields, renderField, rendered, Option.map_some, Dict.get_cons,
              if_neg same]

theorem render_group_atPath (fields : List (String × Sparse))
    (distinct : (fields.map Prod.fst).Nodup) (key : String) (path : List String) :
    (render (group fields)).bind (Json.atPath (key :: path)) =
      ((Dict.get key fields).bind render).bind (Json.atPath path) := by
  rw [← get_renderFields fields distinct key, render]
  cases renderFields fields with
  | nil => rfl
  | cons first rest => rfl

structure Renders (leaves : List (List String × Option Json)) (json : Json) : Prop where
  placed : ∀ leaf ∈ leaves, json.atPath leaf.1 = leaf.2
  grouped : ∀ path, (∃ leaf ∈ leaves, path <+: leaf.1) →
    ((json.atPath path).isSome = true ↔ ∃ leaf ∈ leaves, path <+: leaf.1 ∧ leaf.2.isSome = true)
  only : ∀ path, (json.atPath path).isSome = true →
    ∃ leaf ∈ leaves, leaf.1 <+: path ∨ path <+: leaf.1

/-- Two tables of one object with the same paths have the same values. -/
theorem Renders.leaves_eq {first second : List (List String × Option Json)} {json : Json}
    (one : Renders first json) (other : Renders second json)
    (paths : first.map Prod.fst = second.map Prod.fst) : first = second := by
  have read : ∀ {leaves : List (List String × Option Json)}, Renders leaves json →
      leaves = (leaves.map Prod.fst).map fun path => (path, json.atPath path) := by
    intro leaves renders
    rw [List.map_map]
    refine (List.map_id leaves).symm.trans (List.map_congr_left ?_)
    intro leaf member
    exact Prod.ext rfl (renders.placed leaf member).symm
  rw [read one, read other, paths]

theorem Renders.head_mem {leaves : List (List String × Option Json)} {json : Json} {key : String}
    (renders : Renders leaves json) (headed : ∀ leaf ∈ leaves, leaf.1 ≠ [])
    (present : (json.atPath [key]).isSome = true) :
    some key ∈ leaves.map fun leaf => leaf.1.head? := by
  obtain ⟨leaf, member, comparable⟩ := renders.only [key] present
  refine List.mem_map.mpr ⟨leaf, member, ?_⟩
  cases path : leaf.1 with
  | nil => exact absurd path (headed leaf member)
  | cons first rest =>
      rw [path] at comparable
      cases comparable with
      | inl within => exact congrArg some (List.cons_prefix_cons.mp within).1
      | inr longer => exact congrArg some (List.cons_prefix_cons.mp longer).1.symm

theorem exists_leaf (tree : Sparse) (ok : tree.wellFormed = true) :
    ∃ leaf, leaf ∈ leaves tree := by
  induction tree using Sparse.induct with
  | leaf value => exact ⟨([], value), List.mem_singleton.mpr rfl⟩
  | group fields ih =>
      obtain ⟨nonempty, _, each⟩ := wellFormed_group fields ok
      obtain ⟨field, rest, rfl⟩ := List.exists_cons_of_ne_nil nonempty
      obtain ⟨below, inField⟩ := ih field List.mem_cons_self (each field List.mem_cons_self)
      exact ⟨(field.1 :: below.1, below.2), (mem_leavesOfFields _ _).mpr
        ⟨field, List.mem_cons_self, below, inField, rfl⟩⟩

theorem render_leaf (tree : Sparse) (ok : tree.wellFormed = true) :
    ∀ leaf ∈ leaves tree, (render tree).bind (Json.atPath leaf.1) = leaf.2 := by
  induction tree using Sparse.induct with
  | leaf value =>
      intro found member
      obtain rfl := List.mem_singleton.mp member
      change (value.bind fun json => some json) = value
      simp
  | group fields ih =>
      obtain ⟨_, distinct, each⟩ := wellFormed_group fields ok
      intro found member
      obtain ⟨field, inFields, below, inField, rfl⟩ := (mem_leavesOfFields fields found).mp member
      rw [render_group_atPath fields distinct,
        Dict.get_of_mem fields distinct field.1 field.2 inFields]
      exact ih field inFields (each field inFields) below inField

/-- A group is there exactly if one of its leaves is. -/
theorem render_isSome_iff (tree : Sparse) :
    (render tree).isSome = true ↔ ∃ leaf ∈ leaves tree, leaf.2.isSome = true := by
  induction tree using Sparse.induct with
  | leaf value =>
      constructor
      · intro present
        exact ⟨([], value), List.mem_singleton.mpr rfl, present⟩
      · rintro ⟨found, member, present⟩
        obtain rfl := List.mem_singleton.mp member
        exact present
  | group fields ih =>
      have present : (render (group fields)).isSome = true ↔ renderFields fields ≠ [] := by
        rw [render]
        cases renderFields fields with
        | nil => simp
        | cons first rest => simp
      rw [present, ne_eq, renderFields_eq_nil_iff]
      constructor
      · intro present
        push Not at present
        obtain ⟨field, inFields, rendered⟩ := present
        obtain ⟨below, inField, valued⟩ := (ih field inFields).mp
          (Option.isSome_iff_ne_none.mpr rendered)
        exact ⟨(field.1 :: below.1, below.2), (mem_leavesOfFields fields _).mpr
          ⟨field, inFields, below, inField, rfl⟩, valued⟩
      · rintro ⟨found, member, valued⟩ absent
        obtain ⟨field, inFields, below, inField, rfl⟩ :=
          (mem_leavesOfFields fields found).mp member
        have rendered := (ih field inFields).mpr ⟨below, inField, valued⟩
        rw [absent field inFields] at rendered
        cases rendered

theorem render_group_iff (tree : Sparse) (ok : tree.wellFormed = true) (path : List String)
    (inside : ∃ leaf ∈ leaves tree, path <+: leaf.1) :
    ((render tree).bind (Json.atPath path)).isSome = true ↔
      ∃ leaf ∈ leaves tree, path <+: leaf.1 ∧ leaf.2.isSome = true := by
  induction tree using Sparse.induct generalizing path with
  | leaf value =>
      obtain ⟨found, member, starts⟩ := inside
      obtain rfl := List.mem_singleton.mp member
      obtain rfl := List.prefix_nil.mp starts
      simp [render, leaves, Json.atPath]
  | group fields ih =>
      obtain ⟨_, distinct, each⟩ := wellFormed_group fields ok
      cases path with
      | nil =>
          have root (value : Option Json) :
              (value.bind (Json.atPath [])).isSome = value.isSome := by
            cases value <;> rfl
          rw [root, render_isSome_iff]
          simp
      | cons key path =>
          obtain ⟨found, member, starts⟩ := inside
          obtain ⟨field, inFields, below, inField, rfl⟩ :=
            (mem_leavesOfFields fields found).mp member
          obtain ⟨rfl, startsBelow⟩ := List.cons_prefix_cons.mp starts
          have here := Dict.get_of_mem fields distinct field.1 field.2 inFields
          rw [render_group_atPath fields distinct, here]
          refine (ih field inFields (each field inFields) path
            ⟨below, inField, startsBelow⟩).trans ?_
          constructor
          · rintro ⟨other, inOther, starts, valued⟩
            exact ⟨(field.1 :: other.1, other.2), (mem_leavesOfFields fields _).mpr
              ⟨field, inFields, other, inOther, rfl⟩,
              List.cons_prefix_cons.mpr ⟨rfl, starts⟩, valued⟩
          · rintro ⟨other, inOther, starts, valued⟩
            obtain ⟨field', inFields', below', inField', rfl⟩ :=
              (mem_leavesOfFields fields other).mp inOther
            obtain ⟨sameKey, startsBelow'⟩ := List.cons_prefix_cons.mp starts
            have there := Dict.get_of_mem fields distinct field'.1 field'.2 inFields'
            rw [← sameKey, here] at there
            have sameField := Option.some.inj there
            exact ⟨below', sameField ▸ inField', startsBelow', valued⟩

theorem render_only (tree : Sparse) (ok : tree.wellFormed = true) (path : List String)
    (present : ((render tree).bind (Json.atPath path)).isSome = true) :
    ∃ leaf ∈ leaves tree, leaf.1 <+: path ∨ path <+: leaf.1 := by
  induction tree using Sparse.induct generalizing path with
  | leaf value =>
      exact ⟨([], value), List.mem_singleton.mpr rfl, Or.inl List.nil_prefix⟩
  | group fields ih =>
      obtain ⟨_, distinct, each⟩ := wellFormed_group fields ok
      cases path with
      | nil =>
          obtain ⟨found, member⟩ := exists_leaf (group fields) ok
          exact ⟨found, member, Or.inr List.nil_prefix⟩
      | cons key path =>
          rw [render_group_atPath fields distinct] at present
          cases here : Dict.get key fields with
          | none =>
              rw [here] at present
              cases present
          | some value =>
              rw [here] at present
              have inFields := Dict.mem_of_get fields key value here
              obtain ⟨below, inField, related⟩ :=
                ih (key, value) inFields (each _ inFields) path present
              refine ⟨(key :: below.1, below.2), (mem_leavesOfFields fields _).mpr
                ⟨(key, value), inFields, below, inField, rfl⟩, ?_⟩
              rcases related with shorter | longer
              · exact Or.inl (List.cons_prefix_cons.mpr ⟨rfl, shorter⟩)
              · exact Or.inr (List.cons_prefix_cons.mpr ⟨rfl, longer⟩)

theorem renders_of_render (tree : Sparse) (ok : tree.wellFormed = true) (json : Json)
    (rendered : render tree = some json) : Renders (leaves tree) json where
  placed := by
    intro leaf member
    have found := render_leaf tree ok leaf member
    rw [rendered] at found
    exact found
  grouped := by
    intro path inside
    have present := render_group_iff tree ok path inside
    rw [rendered] at present
    exact present
  only := by
    intro path present
    apply render_only tree ok path
    rw [rendered]
    exact present

end Sparse
