/-
Regular expressions that are a sequence of literals and lazy runs, matched the way a
backtracking engine does, and the scan that finds their matches from left to right.

A lazy run tries its shortest length first.  Each lazy item captures its run.
-/

import Mathlib

set_option autoImplicit false

namespace LazyPattern

universe u v

variable {Symbol : Type u}

section Matching

variable {Outcome : Type v}

/-- The shortest run of allowed symbols, of at least the given length, after which
`next` succeeds. -/
def lazyRun (allowed : Symbol → Bool) (next : List Symbol → Option Outcome) :
    Nat → List Symbol → Option (List Symbol × Outcome)
  | 0, [] => (next []).map fun outcome => ([], outcome)
  | 0, c :: rest =>
      match next (c :: rest) with
      | some outcome => some ([], outcome)
      | none =>
          if allowed c then
            (lazyRun allowed next 0 rest).map fun found => (c :: found.1, found.2)
          else none
  | _ + 1, [] => none
  | least + 1, c :: rest =>
      if allowed c then
        (lazyRun allowed next least rest).map fun found => (c :: found.1, found.2)
      else none

/-- `run` is a lazy run in front of `rest`: long enough, allowed, and no shorter one
would do. -/
structure Shortest (allowed : Symbol → Bool) (next : List Symbol → Option Outcome)
    (least : Nat) (run rest : List Symbol) : Prop where
  long : least ≤ run.length
  allowed : ∀ c ∈ run, allowed c = true
  shorter : ∀ before after, run = before ++ after → after ≠ [] → least ≤ before.length →
    next (after ++ rest) = none

theorem Shortest.tail {allowed : Symbol → Bool} {next : List Symbol → Option Outcome}
    {least : Nat} {c : Symbol} {run rest : List Symbol}
    (shortest : Shortest allowed next least (c :: run) rest) :
    Shortest allowed next (least - 1) run rest where
  long := by
    have long := shortest.long
    rw [List.length_cons] at long
    omega
  allowed := fun other member => shortest.allowed other (List.mem_cons_of_mem c member)
  shorter := by
    intro before after split nonempty long
    refine shortest.shorter (c :: before) after ?_ nonempty ?_
    · rw [split, List.cons_append]
    · rw [List.length_cons]
      omega

theorem Shortest.cons {allowed : Symbol → Bool} {next : List Symbol → Option Outcome}
    {least : Nat} {c : Symbol} {run rest : List Symbol} (ok : allowed c = true)
    (first : least = 0 → next (c :: (run ++ rest)) = none)
    (shortest : Shortest allowed next (least - 1) run rest) :
    Shortest allowed next least (c :: run) rest where
  long := by
    have long := shortest.long
    rw [List.length_cons]
    omega
  allowed := by
    intro other member
    rcases List.mem_cons.mp member with rfl | later
    · exact ok
    · exact shortest.allowed other later
  shorter := by
    intro before after split nonempty long
    cases before with
    | nil =>
        rw [List.nil_append] at split
        rw [← split]
        refine first ?_
        simpa using long
    | cons head before =>
        rw [List.cons_append] at split
        cases split
        refine shortest.shorter before after rfl nonempty ?_
        rw [List.length_cons] at long
        omega

theorem Shortest.nil (allowed : Symbol → Bool) (next : List Symbol → Option Outcome)
    (rest : List Symbol) : Shortest allowed next 0 [] rest where
  long := Nat.le_refl 0
  allowed := by
    intro c member
    cases member
  shorter := by
    intro before after split nonempty _
    exact absurd (List.append_eq_nil_iff.mp split.symm).2 nonempty

section Cases

variable {allowed : Symbol → Bool} {next : List Symbol → Option Outcome} {least : Nat} {c : Symbol}
  {text run : List Symbol} {outcome : Outcome}

theorem Shortest.exists_cons_iff (refused : least = 0 → next (c :: text) = none) :
    (∃ rest, c :: text = run ++ rest ∧ next rest = some outcome ∧
        Shortest allowed next least run rest) ↔
      ∃ shorter, run = c :: shorter ∧ allowed c = true ∧
        ∃ rest, text = shorter ++ rest ∧ next rest = some outcome ∧
          Shortest allowed next (least - 1) shorter rest := by
  constructor
  · intro found
    obtain ⟨rest, split, here, shortest⟩ := found
    cases run with
    | nil =>
        rw [List.nil_append] at split
        subst split
        rw [refused (Nat.le_zero.mp shortest.long)] at here
        cases here
    | cons head shorter =>
        rw [List.cons_append] at split
        cases split
        exact ⟨shorter, rfl, shortest.allowed c List.mem_cons_self, rest, rfl, here,
          shortest.tail⟩
  · intro found
    obtain ⟨shorter, rfl, ok, rest, rfl, here, shortest⟩ := found
    exact ⟨rest, rfl, here, Shortest.cons ok refused shortest⟩

theorem lazyRun_step_eq_some_iff :
    (if allowed c then (lazyRun allowed next least text).map fun found => (c :: found.1, found.2)
      else none) = some (run, outcome) ↔
      ∃ shorter, run = c :: shorter ∧ allowed c = true ∧
        lazyRun allowed next least text = some (shorter, outcome) := by
  by_cases ok : allowed c = true
  · rw [if_pos ok, Option.map_eq_some_iff]
    constructor
    · intro mapped
      obtain ⟨⟨shorter, other⟩, found, same⟩ := mapped
      cases same
      exact ⟨shorter, rfl, ok, found⟩
    · intro stepped
      obtain ⟨shorter, rfl, _, found⟩ := stepped
      exact ⟨(shorter, outcome), found, rfl⟩
  · rw [if_neg ok]
    constructor
    · intro impossible
      cases impossible
    · intro stepped
      obtain ⟨_, _, allowed, _⟩ := stepped
      exact absurd allowed ok

theorem lazyRun_nil_eq_some_iff :
    lazyRun allowed next least [] = some (run, outcome) ↔
      ∃ rest, [] = run ++ rest ∧ next rest = some outcome ∧
        Shortest allowed next least run rest := by
  constructor
  · intro found
    cases least with
    | succ least => cases found
    | zero =>
        cases here : next [] with
        | none => simp [lazyRun, here] at found
        | some other =>
            have same : [] = run ∧ other = outcome := by simpa [lazyRun, here] using found
            obtain ⟨rfl, rfl⟩ := same
            exact ⟨[], rfl, here, Shortest.nil allowed next []⟩
  · intro found
    obtain ⟨rest, split, here, shortest⟩ := found
    obtain ⟨rfl, rfl⟩ := List.append_eq_nil_iff.mp split.symm
    have isZero := Nat.le_zero.mp shortest.long
    subst isZero
    simp [lazyRun, here]

theorem lazyRun_of_next {other : Outcome} (here : next (c :: text) = some other) :
    lazyRun allowed next 0 (c :: text) = some (run, outcome) ↔
      ∃ rest, c :: text = run ++ rest ∧ next rest = some outcome ∧
        Shortest allowed next 0 run rest := by
  simp only [lazyRun, here]
  constructor
  · intro found
    cases found
    exact ⟨c :: text, rfl, here, Shortest.nil allowed next _⟩
  · intro found
    obtain ⟨rest, split, there, shortest⟩ := found
    cases run with
    | nil =>
        rw [List.nil_append] at split
        subst split
        rw [here] at there
        cases there
        rfl
    | cons head shorter =>
        have refused := shortest.shorter [] (head :: shorter) rfl
          (List.cons_ne_nil head shorter) (Nat.zero_le _)
        rw [← split, here] at refused
        cases refused

end Cases

theorem lazyRun_eq_some_iff (allowed : Symbol → Bool) (next : List Symbol → Option Outcome)
    (least : Nat) (text run : List Symbol) (outcome : Outcome) :
    lazyRun allowed next least text = some (run, outcome) ↔
      ∃ rest, text = run ++ rest ∧ next rest = some outcome ∧
        Shortest allowed next least run rest := by
  induction text generalizing least run with
  | nil => exact lazyRun_nil_eq_some_iff
  | cons c text ih =>
      cases least with
      | succ least =>
          have long : least + 1 = 0 → next (c :: text) = none := by
            intro impossible
            cases impossible
          rw [Shortest.exists_cons_iff long, lazyRun, lazyRun_step_eq_some_iff]
          simp only [ih, Nat.add_sub_cancel]
      | zero =>
          cases here : next (c :: text) with
          | some other => exact lazyRun_of_next here
          | none =>
              rw [Shortest.exists_cons_iff fun _ => here]
              simp only [lazyRun, here, lazyRun_step_eq_some_iff, ih, Nat.zero_sub]

theorem lazyRun_ne_none (allowed : Symbol → Bool) (next : List Symbol → Option Outcome)
    (least : Nat) (run rest : List Symbol) (long : least ≤ run.length)
    (ok : ∀ c ∈ run, allowed c = true) (here : next rest ≠ none) :
    lazyRun allowed next least (run ++ rest) ≠ none := by
  induction run generalizing least with
  | nil =>
      have isZero := Nat.le_zero.mp long
      subst isZero
      cases rest with
      | nil =>
          simpa [lazyRun] using here
      | cons c rest =>
          obtain ⟨outcome, found⟩ := Option.ne_none_iff_exists'.mp here
          simp [lazyRun, found]
  | cons c run ih =>
      have okHere := ok c List.mem_cons_self
      have okLater : ∀ other ∈ run, allowed other = true :=
        fun other member => ok other (List.mem_cons_of_mem c member)
      rw [List.length_cons] at long
      rw [List.cons_append]
      cases least with
      | zero =>
          have later := ih 0 (Nat.zero_le _) okLater
          simp only [lazyRun]
          cases next (c :: (run ++ rest)) with
          | some outcome => simp
          | none => simpa [okHere] using later
      | succ least =>
          have later := ih least (by omega) okLater
          simpa [lazyRun, okHere] using later

end Matching

inductive Item (Symbol : Type u) where
  | lit (word : List Symbol)
  | lazy (allowed : Symbol → Bool) (least : Nat)

/-- The captures and what follows the match. -/
def matchItems [DecidableEq Symbol] :
    List (Item Symbol) → List Symbol → Option (List (List Symbol) × List Symbol)
  | [], text => some ([], text)
  | .lit word :: items, text =>
      if word.isPrefixOf text then matchItems items (text.drop word.length) else none
  | .lazy allowed least :: items, text =>
      (lazyRun allowed (matchItems items) least text).map fun found =>
        (found.1 :: found.2.1, found.2.2)

theorem matchItems_lit_eq_some_iff [DecidableEq Symbol] (word : List Symbol)
    (items : List (Item Symbol)) (text : List Symbol)
    (outcome : List (List Symbol) × List Symbol) :
    matchItems (.lit word :: items) text = some outcome ↔
      ∃ rest, text = word ++ rest ∧ matchItems items rest = some outcome := by
  simp only [matchItems]
  constructor
  · intro found
    split at found
    · rename_i isPrefix
      obtain ⟨rest, rfl⟩ := List.isPrefixOf_iff_prefix.mp isPrefix
      rw [List.drop_left] at found
      exact ⟨rest, rfl, found⟩
    · cases found
  · rintro ⟨rest, rfl, found⟩
    rw [if_pos (List.isPrefixOf_iff_prefix.mpr (List.prefix_append word rest)), List.drop_left]
    exact found

theorem matchItems_lit_append [DecidableEq Symbol] (word : List Symbol)
    (items : List (Item Symbol)) (rest : List Symbol) :
    matchItems (.lit word :: items) (word ++ rest) = matchItems items rest := by
  simp only [matchItems]
  rw [if_pos (List.isPrefixOf_iff_prefix.mpr (List.prefix_append word rest)), List.drop_left]

theorem matchItems_lazy_eq_some_iff [DecidableEq Symbol] (allowed : Symbol → Bool)
    (least : Nat) (items : List (Item Symbol)) (text : List Symbol)
    (captures : List (List Symbol)) (last : List Symbol) :
    matchItems (.lazy allowed least :: items) text = some (captures, last) ↔
      ∃ run more rest, captures = run :: more ∧ text = run ++ rest ∧
        matchItems items rest = some (more, last) ∧
        Shortest allowed (matchItems items) least run rest := by
  simp only [matchItems, Option.map_eq_some_iff]
  constructor
  · rintro ⟨⟨run, more, after⟩, found, same⟩
    cases same
    obtain ⟨rest, split, here, shortest⟩ :=
      (lazyRun_eq_some_iff allowed (matchItems items) least text run (more, after)).mp found
    exact ⟨run, more, rest, rfl, split, here, shortest⟩
  · rintro ⟨run, more, rest, rfl, split, here, shortest⟩
    exact ⟨(run, more, last),
      (lazyRun_eq_some_iff allowed (matchItems items) least text run (more, last)).mpr
        ⟨rest, split, here, shortest⟩, rfl⟩

theorem matchItems_lazy_ne_none [DecidableEq Symbol] (allowed : Symbol → Bool) (least : Nat)
    (items : List (Item Symbol)) (run rest : List Symbol) (long : least ≤ run.length)
    (ok : ∀ c ∈ run, allowed c = true) (here : matchItems items rest ≠ none) :
    matchItems (.lazy allowed least :: items) (run ++ rest) ≠ none := by
  have found := lazyRun_ne_none allowed (matchItems items) least run rest long ok here
  simpa [matchItems] using found

/-! ### Scanning from left to right -/

section Scanning

variable {Value : Type v}

/-- A match with the text between it and the match before. -/
structure Found (Symbol : Type u) (Value : Type v) where
  gap : List Symbol
  word : List Symbol
  value : Value

def Found.widen (c : Symbol) :
    List (Found Symbol Value) × List Symbol → List (Found Symbol Value) × List Symbol
  | ([], tail) => ([], c :: tail)
  | (found :: more, tail) => ({ found with gap := c :: found.gap } :: more, tail)

/-- Each match consumes at least one symbol, so the length of the text is fuel enough. -/
def scan (find : List Symbol → Option (Value × List Symbol)) :
    Nat → List Symbol → List (Found Symbol Value) × List Symbol
  | 0, text => ([], text)
  | _ + 1, [] => ([], [])
  | fuel + 1, c :: text =>
      match find (c :: text) with
      | none => Found.widen c (scan find fuel text)
      | some (value, rest) =>
          let later := scan find fuel rest
          let word := (c :: text).take ((c :: text).length - rest.length)
          (⟨[], word, value⟩ :: later.1, later.2)

def finditer (find : List Symbol → Option (Value × List Symbol)) (text : List Symbol) :
    List (Found Symbol Value) × List Symbol :=
  scan find text.length text

/-- The non-overlapping matches from left to right, and the text after the last one. -/
inductive Splits (find : List Symbol → Option (Value × List Symbol)) :
    List Symbol → List (Found Symbol Value) → List Symbol → Prop
  | nothing (tail : List Symbol)
      (clear : ∀ s, s ≠ [] → s <:+ tail → find s = none) :
      Splits find tail [] tail
  | found (gap word rest : List Symbol) (value : Value)
      (more : List (Found Symbol Value)) (tail : List Symbol) (nonempty : word ≠ [])
      (clear : ∀ s, s ≠ [] → s <:+ gap → find (s ++ (word ++ rest)) = none)
      (here : find (word ++ rest) = some (value, rest))
      (later : Splits find rest more tail) :
      Splits find (gap ++ (word ++ rest)) (⟨gap, word, value⟩ :: more) tail

def Consumes (find : List Symbol → Option (Value × List Symbol)) : Prop :=
  ∀ text value rest, find text = some (value, rest) → ∃ word, word ≠ [] ∧ text = word ++ rest

theorem suffix_cons_cases {s text : List Symbol} {c : Symbol} (suffix : s <:+ c :: text) :
    s = c :: text ∨ s <:+ text :=
  List.suffix_cons_iff.mp suffix

theorem Splits.widen {find : List Symbol → Option (Value × List Symbol)} {c : Symbol}
    {text tail : List Symbol} {found : List (Found Symbol Value)}
    (refused : find (c :: text) = none) (splits : Splits find text found tail) :
    Splits find (c :: text) (Found.widen c (found, tail)).1 (Found.widen c (found, tail)).2 := by
  cases splits with
  | nothing _ clear =>
      refine .nothing (c :: text) ?_
      intro s nonempty suffix
      rcases suffix_cons_cases suffix with rfl | later
      · exact refused
      · exact clear s nonempty later
  | found gap word rest value more tail wordNonempty clear here later =>
      refine .found (c :: gap) word rest value more tail wordNonempty ?_ here later
      intro s nonempty suffix
      rcases suffix_cons_cases suffix with rfl | inGap
      · exact refused
      · exact clear s nonempty inGap

theorem scan_splits (find : List Symbol → Option (Value × List Symbol))
    (consumes : Consumes find) (fuel : Nat) (text : List Symbol) (enough : text.length ≤ fuel) :
    Splits find text (scan find fuel text).1 (scan find fuel text).2 := by
  have empty : Splits find [] [] [] := by
    refine .nothing [] ?_
    intro s nonempty suffix
    exact absurd (List.suffix_nil.mp suffix) nonempty
  induction fuel generalizing text with
  | zero =>
      have nil := List.length_eq_zero_iff.mp (Nat.le_zero.mp enough)
      subst nil
      exact empty
  | succ fuel ih =>
      cases text with
      | nil => exact empty
      | cons c text =>
          rw [List.length_cons] at enough
          simp only [scan]
          cases here : find (c :: text) with
          | none => exact (ih text (by omega)).widen here
          | some outcome =>
              rcases outcome with ⟨value, rest⟩
              obtain ⟨word, nonempty, split⟩ := consumes (c :: text) value rest here
              have lengths := congrArg List.length split
              have wordLength := List.length_pos_iff.mpr nonempty
              rw [List.length_cons, List.length_append] at lengths
              have later := ih rest (by omega)
              have taken : (c :: text).take ((c :: text).length - rest.length) = word := by
                rw [split, List.length_append, Nat.add_sub_cancel_right, List.take_left]
              rw [split] at here
              simp only [taken]
              rw [split]
              refine .found [] word rest value _ _ nonempty ?_ here later
              intro s notNil suffix
              exact absurd (List.suffix_nil.mp suffix) notNil

theorem finditer_splits (find : List Symbol → Option (Value × List Symbol))
    (consumes : Consumes find) (text : List Symbol) :
    Splits find text (finditer find text).1 (finditer find text).2 :=
  scan_splits find consumes text.length text (Nat.le_refl _)

private theorem gap_le {find : List Symbol → Option (Value × List Symbol)}
    {gap gap' word rest other : List Symbol} {value : Value}
    (same : gap ++ (word ++ rest) = gap' ++ other)
    (here : find (word ++ rest) = some (value, rest))
    (clear : ∀ s, s ≠ [] → s <:+ gap' → find (s ++ other) = none) :
    gap'.length ≤ gap.length := by
  by_contra longer
  rcases List.append_eq_append_iff.mp same with ⟨s, split, remaining⟩ | ⟨s, split, _⟩
  · have notNil : s ≠ [] := by
      intro empty
      rw [split, empty, List.append_nil] at longer
      exact longer (Nat.le_refl _)
    have refused := clear s notNil ⟨gap, split.symm⟩
    rw [← remaining, here] at refused
    cases refused
  · rw [split, List.length_append] at longer
    omega

theorem Splits.unique {find : List Symbol → Option (Value × List Symbol)}
    {text tail tail' : List Symbol} {found found' : List (Found Symbol Value)}
    (splits : Splits find text found tail) (splits' : Splits find text found' tail') :
    found = found' ∧ tail = tail' := by
  have noMatch {gap word rest : List Symbol} {value : Value} (nonempty : word ≠ [])
      (here : find (word ++ rest) = some (value, rest))
      (clear : ∀ s, s ≠ [] → s <:+ gap ++ (word ++ rest) → find s = none) : False := by
    have notNil : word ++ rest ≠ [] := by
      intro empty
      exact nonempty (List.append_eq_nil_iff.mp empty).1
    rw [clear _ notNil (List.suffix_append gap _)] at here
    cases here
  induction splits generalizing found' tail' with
  | nothing tail clear =>
      cases splits' with
      | nothing _ _ => exact ⟨rfl, rfl⟩
      | found gap word rest value more tail' nonempty _ here _ =>
          exact (noMatch nonempty here clear).elim
  | found gap word rest value more tail nonempty clear here later ih =>
      generalize whole : gap ++ (word ++ rest) = text at splits'
      cases splits' with
      | nothing _ clear' =>
          subst whole
          exact (noMatch nonempty here clear').elim
      | found gap' word' rest' value' more' tail' nonempty' clear' here' later' =>
          have sameLength : gap.length = gap'.length := by
            have one := gap_le whole here clear'
            have two := gap_le whole.symm here' clear
            omega
          obtain ⟨rfl, remaining⟩ := List.append_inj whole sameLength
          rw [remaining, here'] at here
          cases here
          have sameWord := List.append_cancel_right remaining
          subst sameWord
          obtain ⟨rfl, rfl⟩ := ih later'
          exact ⟨rfl, rfl⟩

theorem finditer_eq_of_splits {find : List Symbol → Option (Value × List Symbol)}
    (consumes : Consumes find) {text tail : List Symbol} {found : List (Found Symbol Value)}
    (splits : Splits find text found tail) : finditer find text = (found, tail) := by
  obtain ⟨sameFound, sameTail⟩ := (finditer_splits find consumes text).unique splits
  rw [← sameFound, ← sameTail]

theorem Splits.text_eq {find : List Symbol → Option (Value × List Symbol)}
    {text tail : List Symbol} {found : List (Found Symbol Value)}
    (splits : Splits find text found tail) :
    text = found.flatMap (fun item => item.gap ++ item.word) ++ tail := by
  induction splits with
  | nothing tail _ => rfl
  | found gap word rest value more tail _ _ _ _ ih =>
      rw [List.flatMap_cons, List.append_assoc, ← ih, List.append_assoc]

theorem Splits.mem {find : List Symbol → Option (Value × List Symbol)}
    {text tail : List Symbol} {found : List (Found Symbol Value)}
    (splits : Splits find text found tail) (item : Found Symbol Value) (member : item ∈ found) :
    ∃ rest, find (item.word ++ rest) = some (item.value, rest) ∧
      (∀ s, s ≠ [] → s <:+ item.gap → find (s ++ (item.word ++ rest)) = none) ∧
      item.gap ++ (item.word ++ rest) <:+ text := by
  induction splits with
  | nothing tail _ => cases member
  | found gap word rest value more tail _ clear here _ ih =>
      rcases List.mem_cons.mp member with rfl | later
      · exact ⟨rest, here, clear, List.suffix_rfl⟩
      · obtain ⟨after, found, refused, suffix⟩ := ih later
        refine ⟨after, found, refused, suffix.trans ?_⟩
        rw [← List.append_assoc]
        exact List.suffix_append (gap ++ word) rest

/-- What matched matches in front of any other text too. -/
def Settled (find : List Symbol → Option (Value × List Symbol)) : Prop :=
  ∀ word value rest, find (word ++ rest) = some (value, rest) →
    ∀ other, find (word ++ other) = some (value, other)

end Scanning

end LazyPattern
