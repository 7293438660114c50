/-
A client that walks through the pages of a server.

A page holds items and may name the cursor of a next page.  The client asks for a page,
hands out its items one at a time and looks for the next cursor only after the last of
them.  The walk keeps a record of the cursors it has asked for and the items it has handed
out.
-/

import Mathlib
import Pybotx.Foundation.Transition

set_option autoImplicit false

namespace Paging

open StateTransition

universe u v w

section

variable {Cursor : Type u} {Page : Type v}

/-- The pages that are met by following the cursors from one of them to a page without a
next one. -/
inductive Chain (server : Option Cursor → Page) (next : Page → Option Cursor) :
    Option Cursor → List Page → Prop
  | last (cursor : Option Cursor) (ends : next (server cursor) = none) :
      Chain server next cursor [server cursor]
  | more (cursor : Option Cursor) (following : Cursor) (later : List Page)
      (continues : next (server cursor) = some following)
      (rest : Chain server next (some following) later) :
      Chain server next cursor (server cursor :: later)

/-- What the pages of a chain are asked for with: a first cursor, then for every page the
cursor that the page before it names. -/
def cursors (next : Page → Option Cursor) : Option Cursor → List Page → List (Option Cursor)
  | _, [] => []
  | cursor, page :: later => cursor :: cursors next (next page) later

theorem cursors_length (next : Page → Option Cursor) (cursor : Option Cursor)
    (pages : List Page) : (cursors next cursor pages).length = pages.length := by
  induction pages generalizing cursor with
  | nil => rfl
  | cons page later ih =>
      rw [cursors, List.length_cons, List.length_cons, ih]

def Remaining (server : Option Cursor → Page) (next : Page → Option Cursor) :
    Option Cursor → List Page → Prop
  | none, later => later = []
  | some cursor, later => Chain server next (some cursor) later

variable {server : Option Cursor → Page} {next : Page → Option Cursor}

theorem Chain.cases_first {cursor : Option Cursor} {pages : List Page}
    (chain : Chain server next cursor pages) :
    ∃ later, pages = server cursor :: later ∧
      Remaining server next (next (server cursor)) later := by
  cases chain with
  | last _ ends =>
      refine ⟨[], rfl, ?_⟩
      rw [ends]
      rfl
  | more _ following later continues rest =>
      refine ⟨later, rfl, ?_⟩
      rw [continues]
      exact rest

theorem Chain.unique {cursor : Option Cursor} {pages others : List Page}
    (chain : Chain server next cursor pages) (other : Chain server next cursor others) :
    pages = others := by
  induction chain generalizing others with
  | last cursor ends =>
      obtain ⟨later, rfl, remaining⟩ := other.cases_first
      rw [ends] at remaining
      have none : later = [] := remaining
      rw [none]
  | more cursor following later continues rest ih =>
      obtain ⟨otherLater, rfl, remaining⟩ := other.cases_first
      rw [continues] at remaining
      rw [ih remaining]

theorem Chain.from_cursor {cursor found : Option Cursor} {pages : List Page}
    (chain : Chain server next cursor pages) (member : found ∈ cursors next cursor pages) :
    ∃ later, Chain server next found later ∧ later.length ≤ pages.length := by
  induction chain with
  | last cursor ends =>
      rw [cursors, cursors, List.mem_singleton] at member
      subst member
      exact ⟨_, .last _ ends, Nat.le_refl 1⟩
  | more cursor following later continues rest ih =>
      rw [cursors, continues] at member
      cases List.mem_cons.mp member with
      | inl here =>
          subst here
          exact ⟨_, .more _ following later continues rest, Nat.le_refl _⟩
      | inr further =>
          obtain ⟨others, chain, shorter⟩ := ih further
          exact ⟨others, chain, Nat.le_succ_of_le shorter⟩

/-- A cursor that comes twice never leads to an end. -/
theorem Chain.cursors_nodup {cursor : Option Cursor} {pages : List Page}
    (chain : Chain server next cursor pages) : (cursors next cursor pages).Nodup := by
  induction chain with
  | last cursor ends =>
      rw [cursors, cursors]
      exact List.nodup_singleton cursor
  | more cursor following later continues rest ih =>
      rw [cursors, continues, List.nodup_cons]
      refine ⟨?_, ih⟩
      intro again
      obtain ⟨others, chain, shorter⟩ := rest.from_cursor again
      have same := chain.unique (.more cursor following later continues rest)
      rw [same, List.length_cons] at shorter
      omega

end

inductive Phase (Cursor : Type u) (Item : Type w) where
  | requesting (cursor : Option Cursor)
  | yielding (rest : List Item) (following : Option Cursor)
  | stopped

structure Walk (Cursor : Type u) (Item : Type w) where
  phase : Phase Cursor Item
  requested : List (Option Cursor)
  yielded : List Item

namespace Walk

variable {Cursor : Type u} {Page : Type v} {Item : Type w}

def start : Walk Cursor Item where
  phase := .requesting none
  requested := []
  yielded := []

variable (server : Option Cursor → Page) (items : Page → List Item)
  (next : Page → Option Cursor)

def step (walk : Walk Cursor Item) : Option (Walk Cursor Item) :=
  match walk.phase with
  | .requesting cursor =>
      some { walk with
        phase := .yielding (items (server cursor)) (next (server cursor))
        requested := walk.requested ++ [cursor] }
  | .yielding (item :: rest) following =>
      some { walk with
        phase := .yielding rest following
        yielded := walk.yielded ++ [item] }
  | .yielding [] (some cursor) => some { walk with phase := .requesting (some cursor) }
  | .yielding [] none => some { walk with phase := .stopped }
  | .stopped => none

variable {server items next}

theorem reaches_yielded (requested : List (Option Cursor)) (rest : List Item)
    (following : Option Cursor) (yielded : List Item) :
    Reaches (step server items next) ⟨.yielding rest following, requested, yielded⟩
      ⟨.yielding [] following, requested, yielded ++ rest⟩ := by
  induction rest generalizing yielded with
  | nil =>
      rw [List.append_nil]
      exact .refl
  | cons item rest ih =>
      have later := ih (yielded ++ [item])
      rw [List.append_assoc, List.singleton_append] at later
      exact .head rfl later

theorem reaches_page (cursor : Option Cursor) (requested : List (Option Cursor))
    (yielded : List Item) :
    Reaches (step server items next) ⟨.requesting cursor, requested, yielded⟩
      ⟨.yielding [] (next (server cursor)), requested ++ [cursor],
        yielded ++ items (server cursor)⟩ :=
  .head rfl (reaches_yielded _ _ _ _)

theorem reaches_stopped {cursor : Option Cursor} {pages : List Page}
    (chain : Chain server next cursor pages) (requested : List (Option Cursor))
    (yielded : List Item) :
    Reaches (step server items next) ⟨.requesting cursor, requested, yielded⟩
      ⟨.stopped, requested ++ cursors next cursor pages, yielded ++ pages.flatMap items⟩ := by
  induction chain generalizing requested yielded with
  | last cursor ends =>
      have page : Reaches (step server items next) ⟨.requesting cursor, requested, yielded⟩ _ :=
        reaches_page cursor requested yielded
      rw [ends] at page
      rw [cursors, cursors, List.flatMap_singleton]
      exact page.tail rfl
  | more cursor following later continues rest ih =>
      have page : Reaches (step server items next) ⟨.requesting cursor, requested, yielded⟩ _ :=
        reaches_page cursor requested yielded
      rw [continues] at page
      have onward := ih (requested ++ [cursor]) (yielded ++ items (server cursor))
      rw [List.append_assoc, List.append_assoc] at onward
      rw [cursors, continues, List.flatMap_cons]
      exact (page.tail rfl).trans onward

/-- A walk along a chain comes to an end, having asked once for each page of the chain. -/
theorem eval_start {pages : List Page} (chain : Chain server next none pages) :
    ⟨.stopped, cursors next none pages, pages.flatMap items⟩ ∈
      eval (step server items next) start :=
  mem_eval.mpr ⟨reaches_stopped chain [] [], rfl⟩

/-! ### Walks without an end -/

variable (items) in
/-- Where the cursors lead to no end, a walk asks for as many more pages as one likes. -/
theorem reaches_requests {cursor : Option Cursor}
    (endless : ∀ pages, ¬ Chain server next cursor pages) (count : Nat)
    (requested : List (Option Cursor)) (yielded : List Item) :
    ∃ following later handed, Reaches (step server items next)
        ⟨.requesting cursor, requested, yielded⟩ ⟨.requesting following, later, handed⟩ ∧
      later.length = requested.length + count ∧
      ∀ pages, ¬ Chain server next following pages := by
  induction count generalizing cursor requested yielded with
  | zero => exact ⟨cursor, requested, yielded, .refl, rfl, endless⟩
  | succ count ih =>
      have page : Reaches (step server items next) ⟨.requesting cursor, requested, yielded⟩ _ :=
        reaches_page cursor requested yielded
      cases continues : next (server cursor) with
      | none => exact absurd (.last cursor continues) (endless _)
      | some following =>
          rw [continues] at page
          have onward : ∀ pages, ¬ Chain server next (some following) pages :=
            fun pages chain => endless _ (.more cursor following pages continues chain)
          obtain ⟨last, later, handed, reached, length, still⟩ :=
            ih onward (requested ++ [cursor]) (yielded ++ items (server cursor))
          refine ⟨last, later, handed, (page.tail rfl).trans reached, ?_, still⟩
          rw [length, List.length_append, List.length_singleton]
          omega

theorem requested_stable (count : Nat) :
    Transition.Stable (fun before after => after ∈ step server items next before)
      (fun walk => count ≤ walk.requested.length) := by
  intro before after taken long
  obtain ⟨phase, requested, yielded⟩ := before
  match phase with
  | .requesting cursor =>
      cases taken
      rw [List.length_append]
      exact Nat.le_add_right_of_le long
  | .yielding (item :: rest) following =>
      cases taken
      exact long
  | .yielding [] (some cursor) =>
      cases taken
      exact long
  | .yielding [] none =>
      cases taken
      exact long
  | .stopped => cases taken

/-- A walk comes to an end exactly if the cursors do. -/
theorem eval_start_dom_iff :
    (eval (step server items next) start).Dom ↔ ∃ pages, Chain server next none pages := by
  constructor
  · intro ends
    by_contra endless
    push Not at endless
    obtain ⟨last, evaluated⟩ := Part.dom_iff_mem.mp ends
    obtain ⟨reachedLast, ended⟩ := mem_eval.mp evaluated
    obtain ⟨following, later, handed, reached, length, _⟩ :=
      reaches_requests items endless (last.requested.length + 1) [] []
    cases reaches_total reachedLast reached with
    | inl onward =>
        have same := (eval_maximal evaluated).mp onward
        subst same
        cases ended
    | inr onward =>
        have long := (requested_stable (later.length)).reaches onward (Nat.le_refl _)
        rw [length] at long
        simp at long
  · intro chained
    obtain ⟨pages, chain⟩ := chained
    exact Part.dom_iff_mem.mpr ⟨_, eval_start chain⟩

/-- How far a walk along the pages has come: the earlier pages are done, and the cursors for
the others are still to be asked for. -/
inductive Progress (server : Option Cursor → Page) (items : Page → List Item)
    (next : Page → Option Cursor) (pages : List Page) : Walk Cursor Item → Prop
  | requesting (earlier later : List Page) (cursor : Option Cursor)
      (requested : List (Option Cursor)) (split : pages = earlier ++ later)
      (chain : Chain server next cursor later)
      (ahead : cursors next none pages = requested ++ cursors next cursor later)
      (count : requested.length = earlier.length) :
      Progress server items next pages ⟨.requesting cursor, requested, earlier.flatMap items⟩
  | yielding (earlier later : List Page) (current : Page) (handed rest : List Item)
      (following : Option Cursor) (requested : List (Option Cursor))
      (split : pages = earlier ++ current :: later) (content : items current = handed ++ rest)
      (remaining : Remaining server next following later)
      (ahead : cursors next none pages = requested ++ cursors next following later)
      (count : requested.length = earlier.length + 1) :
      Progress server items next pages
        ⟨.yielding rest following, requested, earlier.flatMap items ++ handed⟩
  | stopped (requested : List (Option Cursor)) (yielded : List Item) :
      Progress server items next pages ⟨.stopped, requested, yielded⟩

variable {pages : List Page}

theorem progress_start (chain : Chain server next none pages) :
    Progress server items next pages start :=
  .requesting [] pages none [] rfl chain rfl rfl

theorem progress_step {before after : Walk Cursor Item}
    (progress : Progress server items next pages before)
    (taken : step server items next before = some after) :
    Progress server items next pages after := by
  cases progress with
  | requesting earlier later cursor requested split chain ahead count =>
      cases taken
      obtain ⟨others, rfl, remaining⟩ := chain.cases_first
      rw [cursors, List.append_cons] at ahead
      have asked : (requested ++ [cursor]).length = earlier.length + 1 := by
        rw [List.length_append, List.length_singleton, count]
      have moved : Progress server items next pages _ :=
        .yielding earlier others (server cursor) [] _ _ _ split (List.nil_append _).symm remaining
          ahead asked
      rw [List.append_nil] at moved
      exact moved
  | yielding earlier later current handed rest following requested split content remaining ahead
      count =>
      cases rest with
      | cons item rest =>
          cases taken
          have rehanded : items current = (handed ++ [item]) ++ rest := by
            rw [content, List.append_cons]
          have moved : Progress server items next pages _ :=
            .yielding earlier later current _ _ following requested split rehanded remaining ahead
              count
          rw [← List.append_assoc] at moved
          exact moved
      | nil =>
          cases following with
          | some cursor =>
              cases taken
              rw [List.append_nil] at content
              have done : pages = (earlier ++ [current]) ++ later := by
                rw [split, List.append_cons]
              have asked : requested.length = (earlier ++ [current]).length := by
                rw [List.length_append, List.length_singleton, count]
              have moved : Progress server items next pages _ :=
                .requesting (earlier ++ [current]) later _ requested done remaining ahead asked
              rw [List.flatMap_append, List.flatMap_singleton, content] at moved
              exact moved
          | none =>
              cases taken
              exact .stopped requested _
  | stopped requested yielded => cases taken

theorem progress_of_reached (chain : Chain server next none pages) {walk : Walk Cursor Item}
    (reached : Reaches (step server items next) start walk) :
    Progress server items next pages walk := by
  have stable : Transition.Stable (fun before after => after ∈ step server items next before)
      (Progress server items next pages) :=
    fun _ _ taken progress => progress_step progress taken
  exact stable.reaches reached (progress_start chain)

/-- A walk that has just handed out an item has asked for no page after the one that the
item is on. -/
theorem requested_of_yield (chain : Chain server next none pages)
    {before after : Walk Cursor Item} {item : Item}
    (reached : Reaches (step server items next) start before)
    (taken : step server items next before = some after)
    (yields : after.yielded = before.yielded ++ [item]) :
    ∃ earlier current later handed rest, pages = earlier ++ current :: later ∧
      items current = handed ++ item :: rest ∧
      after.yielded = earlier.flatMap items ++ handed ++ [item] ∧
      after.requested = (cursors next none pages).take (earlier.length + 1) := by
  have progress := progress_of_reached chain reached
  cases progress with
  | requesting earlier later cursor requested split onward ahead count =>
      cases taken
      simp at yields
  | yielding earlier later current handed rest following requested split content remaining ahead
      count =>
      cases rest with
      | cons first rest =>
          cases taken
          have same : first = item := by simpa using yields
          subst same
          refine ⟨earlier, current, later, handed, rest, split, content, rfl, ?_⟩
          rw [ahead, ← count, List.take_left]
      | nil =>
          cases following with
          | some cursor =>
              cases taken
              simp at yields
          | none =>
              cases taken
              simp at yields
  | stopped requested yielded => cases taken

end Walk

end Paging
