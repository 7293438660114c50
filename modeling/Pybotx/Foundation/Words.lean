/-
The words of a text and where they stand in it.

A text is all blank, or it is some blanks, its first word and a rest at which that word
ends.  Everything else is read off from this decomposition.
-/

import Pybotx.Foundation.Text

set_option autoImplicit false

namespace Text

/-- A word ends where the text ends or a blank follows. -/
def EndsWord : List Char → Prop
  | [] => True
  | c :: _ => isSpace c = true

theorem words_nil : words [] = [] := rfl

theorem words_append_blank (before after : List Char) (blank : Char)
    (isBlank : isSpace blank = true) :
    words (before ++ blank :: after) = words before ++ words after := by
  unfold words
  rw [List.splitOnP_append_cons before after isBlank, List.filter_append]

theorem words_cons_blank (text : List Char) (blank : Char) (isBlank : isSpace blank = true) :
    words (blank :: text) = words text :=
  words_append_blank [] text blank isBlank

theorem words_blanks_append (blanks text : List Char)
    (allBlank : ∀ c ∈ blanks, isSpace c = true) : words (blanks ++ text) = words text := by
  induction blanks with
  | nil => rfl
  | cons c blanks ih =>
      rw [List.cons_append, words_cons_blank _ c (allBlank c List.mem_cons_self)]
      exact ih fun other member => allBlank other (List.mem_cons_of_mem c member)

theorem words_append_blanks (text blanks : List Char)
    (allBlank : ∀ c ∈ blanks, isSpace c = true) : words (text ++ blanks) = words text := by
  cases blanks with
  | nil => rw [List.append_nil]
  | cons c blanks =>
      have nothing : words blanks = [] :=
        (words_eq_nil_iff blanks).mpr fun other member =>
          allBlank other (List.mem_cons_of_mem c member)
      rw [words_append_blank _ _ c (allBlank c List.mem_cons_self), nothing, List.append_nil]

theorem words_word_append (word rest : List Char) (nonempty : word ≠ [])
    (solid : ∀ c ∈ word, isSpace c = false) (ends : EndsWord rest) :
    words (word ++ rest) = word :: words rest := by
  cases rest with
  | nil => rw [List.append_nil, words_of_no_space word nonempty solid, words_nil]
  | cons blank rest =>
      rw [words_append_space word nonempty solid blank ends, words_cons_blank rest blank ends]

theorem words_strip (text : List Char) : words (strip isSpace text) = words text := by
  have front : words (text.dropWhile isSpace) = words text := by
    have whole := words_blanks_append (text.takeWhile isSpace) (text.dropWhile isSpace)
      (fun c member => List.mem_takeWhile_imp member)
    rw [List.takeWhile_append_dropWhile] at whole
    exact whole.symm
  have back := words_append_blanks (strip isSpace text)
    ((text.dropWhile isSpace).rtakeWhile isSpace) (fun c member => List.mem_rtakeWhile_imp member)
  unfold strip at back ⊢
  rw [List.rdropWhile_append_rtakeWhile, front] at back
  exact back.symm

/-- Blanks, a word and what follows it. -/
structure FirstWord where
  blanks : List Char
  word : List Char
  rest : List Char
  allBlank : ∀ c ∈ blanks, isSpace c = true
  nonempty : word ≠ []
  solid : ∀ c ∈ word, isSpace c = false
  ends : EndsWord rest

def FirstWord.text (first : FirstWord) : List Char :=
  first.blanks ++ (first.word ++ first.rest)

theorem FirstWord.words_text (first : FirstWord) :
    words first.text = first.word :: words first.rest := by
  unfold FirstWord.text
  rw [words_blanks_append _ _ first.allBlank,
    words_word_append _ _ first.nonempty first.solid first.ends]

private theorem endsWord_dropWhile (text : List Char) :
    EndsWord (text.dropWhile fun c => !isSpace c) := by
  induction text with
  | nil => trivial
  | cons c text ih =>
      rw [List.dropWhile_cons]
      cases blank : isSpace c with
      | false => exact ih
      | true => exact blank

theorem exists_firstWord (text : List Char) (visible : ¬ ∀ c ∈ text, isSpace c = true) :
    ∃ first : FirstWord, first.text = text := by
  have solid : ∀ c ∈ (text.dropWhile isSpace).takeWhile fun c => !isSpace c,
      isSpace c = false := by
    intro c member
    have notBlank := List.mem_takeWhile_imp member
    simpa using notBlank
  have reached : text.dropWhile isSpace ≠ [] := by
    intro nothing
    exact visible (List.dropWhile_eq_nil_iff.mp nothing)
  refine ⟨⟨text.takeWhile isSpace, (text.dropWhile isSpace).takeWhile fun c => !isSpace c,
    (text.dropWhile isSpace).dropWhile fun c => !isSpace c,
    fun c member => List.mem_takeWhile_imp member, ?_, solid, endsWord_dropWhile _⟩, ?_⟩
  · obtain ⟨c, rest, shape⟩ := List.exists_cons_of_ne_nil reached
    have notBlank : isSpace c = false := by
      have head := List.head_dropWhile_not isSpace reached
      simpa [shape] using head
    rw [shape, List.takeWhile_cons_of_pos (by simp [notBlank])]
    exact List.cons_ne_nil _ _
  · unfold FirstWord.text
    rw [List.takeWhile_append_dropWhile, List.takeWhile_append_dropWhile]

theorem mem_words (text word : List Char) (member : word ∈ words text) :
    word ≠ [] ∧ ∀ c ∈ word, isSpace c = false := by
  by_cases visible : ∀ c ∈ text, isSpace c = true
  · rw [(words_eq_nil_iff text).mpr visible] at member
    cases member
  · obtain ⟨first, rfl⟩ := exists_firstWord text visible
    rw [first.words_text] at member
    rcases List.mem_cons.mp member with here | later
    · rw [here]
      exact ⟨first.nonempty, first.solid⟩
    · have shorter : first.rest.length < first.text.length := by
        have positive := List.length_pos_iff.mpr first.nonempty
        simp only [FirstWord.text, List.length_append]
        omega
      exact mem_words first.rest word later
termination_by text.length

/-- The text after the first occurrence of a word in it. -/
def afterOccurrence (word : List Char) : List Char → List Char
  | [] => []
  | c :: rest =>
      if word.isPrefixOf (c :: rest) then (c :: rest).drop word.length
      else afterOccurrence word rest

/-- Before its first word a text has no occurrence of it. -/
theorem FirstWord.afterOccurrence_text (first : FirstWord) :
    afterOccurrence first.word first.text = first.rest := by
  obtain ⟨blanks, word, rest, allBlank, nonempty, solid, ends⟩ := first
  obtain ⟨c, later, rfl⟩ := List.exists_cons_of_ne_nil nonempty
  unfold FirstWord.text
  induction blanks with
  | nil =>
      have found : (c :: later).isPrefixOf (c :: (later ++ rest)) = true := by
        rw [List.isPrefixOf_iff_prefix]
        exact List.prefix_append (c :: later) rest
      rw [List.nil_append, List.cons_append, afterOccurrence, if_pos found]
      exact List.drop_left
  | cons blank blanks ih =>
      have different : (c == blank) = false := by
        rw [beq_eq_false_iff_ne]
        intro same
        have isBlank := allBlank blank List.mem_cons_self
        rw [← same, solid c List.mem_cons_self] at isBlank
        cases isBlank
      have absent : (c :: later).isPrefixOf (blank :: (blanks ++ (c :: later ++ rest))) = false := by
        rw [List.isPrefixOf_cons_cons, different, Bool.false_and]
      rw [List.cons_append, afterOccurrence, if_neg (Bool.eq_false_iff.mp absent)]
      exact ih (fun other member => allBlank other (List.mem_cons_of_mem blank member))

end Text
