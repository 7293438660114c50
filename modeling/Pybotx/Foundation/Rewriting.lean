/-
Replacing the first occurrence of one word after another, compared with replacing all
of them at their places at once.

The two agree when no word occurs ahead of its own place: not in its own gap, and not
across the gaps and replacements that are already done.
-/

import Pybotx.Foundation.LazyPattern

set_option autoImplicit false

namespace Rewriting

universe u

variable {Symbol : Type u}

/-- `text.replace(old, new, 1)`. -/
def replaceFirst [DecidableEq Symbol] (old new : List Symbol) : List Symbol → List Symbol
  | [] => if old.isPrefixOf [] then new else []
  | c :: rest =>
      if old.isPrefixOf (c :: rest) then new ++ (c :: rest).drop old.length
      else c :: replaceFirst old new rest

/-- A place to rewrite: a gap, the word after it and what the word becomes. -/
structure Segment (Symbol : Type u) where
  gap : List Symbol
  word : List Symbol
  new : List Symbol

def original (segments : List (Segment Symbol)) (tail : List Symbol) : List Symbol :=
  segments.flatMap (fun segment => segment.gap ++ segment.word) ++ tail

def rewritten (segments : List (Segment Symbol)) (tail : List Symbol) : List Symbol :=
  segments.flatMap (fun segment => segment.gap ++ segment.new) ++ tail

/-- The loop that replaces first occurrences in a text it keeps changing. -/
def rewriteLoop [DecidableEq Symbol] (segments : List (Segment Symbol)) (text : List Symbol) :
    List Symbol :=
  segments.foldl (fun body segment => replaceFirst segment.word segment.new body) text

/-- No occurrence of the word starts inside `before`, whatever follows. -/
def NeverStarts (word before : List Symbol) : Prop :=
  ∀ s rest, s ≠ [] → s <:+ before → ¬ word <+: s ++ rest

theorem NeverStarts.nil (word : List Symbol) : NeverStarts word [] := by
  intro s rest nonempty suffix
  exact absurd (List.suffix_nil.mp suffix) nonempty

theorem suffix_append_cases {s front back : List Symbol} (suffix : s <:+ front ++ back) :
    s <:+ back ∨ ∃ t, t ≠ [] ∧ t <:+ front ∧ s = t ++ back := by
  rcases suffix with ⟨pre, split⟩
  rcases List.append_eq_append_iff.mp split with ⟨t, frontIs, tIs⟩ | ⟨t, _, backIs⟩
  · by_cases nonempty : t = []
    · subst nonempty
      left
      rw [tIs]
      exact List.suffix_rfl
    · exact Or.inr ⟨t, nonempty, ⟨pre, frontIs.symm⟩, tIs⟩
  · exact Or.inl ⟨t, backIs.symm⟩

theorem NeverStarts.append {word front back : List Symbol} (inFront : NeverStarts word front)
    (inBack : NeverStarts word back) : NeverStarts word (front ++ back) := by
  intro s rest nonempty suffix occurs
  rcases suffix_append_cases suffix with later | ⟨t, notNil, inside, rfl⟩
  · exact inBack s rest nonempty later occurs
  · rw [List.append_assoc] at occurs
    exact inFront t (back ++ rest) notNil inside occurs

theorem neverStarts_of_head_absent (first : Symbol) (word before : List Symbol)
    (absent : first ∉ before) : NeverStarts (first :: word) before := by
  intro s rest nonempty suffix occurs
  cases s with
  | nil => exact nonempty rfl
  | cons c s =>
      have same := (List.cons_prefix_cons.mp occurs).1
      apply absent
      rw [same]
      exact suffix.subset List.mem_cons_self

variable [DecidableEq Symbol]

theorem replaceFirst_here (old new rest : List Symbol) :
    replaceFirst old new (old ++ rest) = new ++ rest := by
  have isPrefix : old.isPrefixOf (old ++ rest) = true :=
    List.isPrefixOf_iff_prefix.mpr (List.prefix_append old rest)
  cases whole : old ++ rest with
  | nil =>
      obtain ⟨rfl, rfl⟩ := List.append_eq_nil_iff.mp whole
      simp [replaceFirst]
  | cons c text =>
      rw [whole] at isPrefix
      rw [replaceFirst, if_pos isPrefix, ← whole, List.drop_left]

theorem replaceFirst_after (old new before rest : List Symbol)
    (clear : ∀ s, s ≠ [] → s <:+ before → ¬ old <+: s ++ (old ++ rest)) :
    replaceFirst old new (before ++ (old ++ rest)) = before ++ (new ++ rest) := by
  induction before with
  | nil => exact replaceFirst_here old new rest
  | cons c before ih =>
      have refused : ¬ old.isPrefixOf (c :: (before ++ (old ++ rest))) = true := by
        intro occurs
        refine clear (c :: before) (List.cons_ne_nil c before) List.suffix_rfl ?_
        exact List.isPrefixOf_iff_prefix.mp occurs
      rw [List.cons_append, replaceFirst, if_neg refused, ih]
      · rfl
      · intro s nonempty suffix
        exact clear s nonempty (suffix.trans (List.suffix_cons c before))

theorem replaceFirst_reaches (old new before rest : List Symbol) :
    ∃ done, replaceFirst old new (before ++ (old ++ rest)) = done ++ rest ∧
      done.length = before.length + new.length := by
  induction before with
  | nil => exact ⟨new, replaceFirst_here old new rest, by simp⟩
  | cons c before ih =>
      by_cases occurs : old.isPrefixOf (c :: (before ++ (old ++ rest))) = true
      · have regroup : c :: (before ++ (old ++ rest)) = (c :: (before ++ old)) ++ rest := by simp
        have enough : old.length ≤ (c :: (before ++ old)).length := by
          simp only [List.length_cons, List.length_append]
          omega
        refine ⟨new ++ (c :: (before ++ old)).drop old.length, ?_, ?_⟩
        · rw [List.cons_append, replaceFirst, if_pos occurs, regroup,
            List.drop_append_of_le_length enough, List.append_assoc]
        · simp only [List.length_append, List.length_drop, List.length_cons]
          omega
      · obtain ⟨done, replaced, length⟩ := ih
        refine ⟨c :: done, ?_, ?_⟩
        · rw [List.cons_append, replaceFirst, if_neg occurs, replaced]
          rfl
        · rw [List.length_cons, List.length_cons, length]
          omega

/-! ### The loop is the simultaneous substitution -/

/-- No word starts inside its own gap, given the original text that follows. -/
def GapsClear : List (Segment Symbol) → List Symbol → Prop
  | [], _ => True
  | segment :: segments, tail =>
      (∀ s, s ≠ [] → s <:+ segment.gap →
        ¬ segment.word <+: s ++ (segment.word ++ original segments tail)) ∧
      GapsClear segments tail

/-- No word starts in a gap or a replacement to its left. -/
def Separated (segments : List (Segment Symbol)) : Prop :=
  segments.Pairwise fun earlier later => NeverStarts later.word (earlier.gap ++ earlier.new)

theorem rewriteLoop_append (done : List Symbol) (segments : List (Segment Symbol))
    (tail : List Symbol) (ahead : ∀ segment ∈ segments, NeverStarts segment.word done)
    (separated : Separated segments) (clear : GapsClear segments tail) :
    rewriteLoop segments (done ++ original segments tail) = done ++ rewritten segments tail := by
  induction segments generalizing done with
  | nil => rfl
  | cons segment segments ih =>
      obtain ⟨ownGap, gaps⟩ := clear
      obtain ⟨toTheRight, separated⟩ := List.pairwise_cons.mp separated
      have unfolded : done ++ original (segment :: segments) tail =
          (done ++ segment.gap) ++ (segment.word ++ original segments tail) := by
        simp [original]
      have first : ∀ s, s ≠ [] → s <:+ done ++ segment.gap →
          ¬ segment.word <+: s ++ (segment.word ++ original segments tail) := by
        intro s nonempty suffix
        rcases suffix_append_cases suffix with inGap | ⟨t, notNil, inside, rfl⟩
        · exact ownGap s nonempty inGap
        · rw [List.append_assoc]
          exact ahead segment List.mem_cons_self t _ notNil inside
      have replaced := replaceFirst_after segment.word segment.new (done ++ segment.gap)
        (original segments tail) first
      have later := ih (done ++ (segment.gap ++ segment.new)) (by
        intro other member
        exact (ahead other (List.mem_cons_of_mem segment member)).append
          (toTheRight other member)) separated gaps
      calc
        rewriteLoop (segment :: segments) (done ++ original (segment :: segments) tail) =
            rewriteLoop segments (replaceFirst segment.word segment.new
              (done ++ original (segment :: segments) tail)) := rfl
        _ = rewriteLoop segments (done ++ (segment.gap ++ segment.new) ++
              original segments tail) := by
            rw [unfolded, replaced]
            simp [List.append_assoc]
        _ = done ++ (segment.gap ++ segment.new) ++ rewritten segments tail := later
        _ = done ++ rewritten (segment :: segments) tail := by
            simp [rewritten, List.append_assoc]

theorem rewriteLoop_eq (segments : List (Segment Symbol)) (tail : List Symbol)
    (separated : Separated segments) (clear : GapsClear segments tail) :
    rewriteLoop segments (original segments tail) = rewritten segments tail := by
  have run := rewriteLoop_append [] segments tail
    (fun segment _ => NeverStarts.nil segment.word) separated clear
  simpa using run

/-- Even where the loop replaces other occurrences, the length is that of the substitution. -/
theorem rewriteLoop_length (segments : List (Segment Symbol)) (done tail : List Symbol) :
    (rewriteLoop segments (done ++ original segments tail)).length =
      done.length + (rewritten segments tail).length := by
  induction segments generalizing done with
  | nil => simp [rewriteLoop, original, rewritten]
  | cons segment segments ih =>
      obtain ⟨next, replaced, length⟩ := replaceFirst_reaches segment.word segment.new
        (done ++ segment.gap) (original segments tail)
      have unfolded : done ++ original (segment :: segments) tail =
          (done ++ segment.gap) ++ (segment.word ++ original segments tail) := by
        simp [original]
      change (rewriteLoop segments (replaceFirst segment.word segment.new
        (done ++ original (segment :: segments) tail))).length = _
      rw [unfolded, replaced, ih next, length]
      simp only [rewritten, List.flatMap_cons, List.length_append]
      omega

section Matches

open LazyPattern

variable {Value : Type u}

def segments (found : List (Found Symbol Value)) (news : List (List Symbol)) :
    List (Segment Symbol) :=
  List.zipWith (fun item new => ⟨item.gap, item.word, new⟩) found news

omit [DecidableEq Symbol] in
theorem original_segments (found : List (Found Symbol Value)) (news : List (List Symbol))
    (paired : found.length = news.length) (tail : List Symbol) :
    original (segments found news) tail =
      found.flatMap (fun item => item.gap ++ item.word) ++ tail := by
  induction found generalizing news with
  | nil => simp [original, segments]
  | cons item found ih =>
      cases news with
      | nil => cases paired
      | cons new news =>
          have later := ih news (Nat.succ.inj paired)
          simp only [original, segments, List.zipWith_cons_cons, List.flatMap_cons,
            List.append_assoc] at later ⊢
          rw [later]

omit [DecidableEq Symbol] in
theorem gapsClear_segments {find : List Symbol → Option (Value × List Symbol)}
    (settled : Settled find) {text tail : List Symbol} {found : List (Found Symbol Value)}
    (splits : Splits find text found tail) (news : List (List Symbol))
    (paired : found.length = news.length) : GapsClear (segments found news) tail := by
  induction splits generalizing news with
  | nothing tail _ => exact trivial
  | found gap word rest value more tail _ clear here later ih =>
      cases news with
      | nil => cases paired
      | cons new news =>
          have pairedLater : more.length = news.length := Nat.succ.inj paired
          refine ⟨?_, ih news pairedLater⟩
          intro s nonempty suffix occurs
          change word <+: s ++ (word ++ original (segments more news) tail) at occurs
          rw [original_segments more news pairedLater, ← later.text_eq] at occurs
          obtain ⟨other, split⟩ := occurs
          have refused := clear s nonempty suffix
          rw [← split, settled word value rest here other] at refused
          cases refused

/-- Replacing the matches of a scan one after another gives the substitution, if none of
them occurs across an earlier gap and its replacement. -/
theorem rewriteLoop_of_splits {find : List Symbol → Option (Value × List Symbol)}
    (settled : Settled find) {text tail : List Symbol} {found : List (Found Symbol Value)}
    (splits : Splits find text found tail) (news : List (List Symbol))
    (paired : found.length = news.length) (separated : Separated (segments found news)) :
    rewriteLoop (segments found news) text = rewritten (segments found news) tail := by
  have run := rewriteLoop_eq (segments found news) tail separated
    (gapsClear_segments settled splits news paired)
  rw [original_segments found news paired, ← splits.text_eq] at run
  exact run

omit [DecidableEq Symbol] in
theorem mem_segments (found : List (Found Symbol Value)) (news : List (List Symbol))
    (segment : Segment Symbol) (member : segment ∈ segments found news) :
    ∃ item ∈ found, ∃ new ∈ news, segment = ⟨item.gap, item.word, new⟩ := by
  induction found generalizing news with
  | nil => cases member
  | cons item found ih =>
      cases news with
      | nil => cases member
      | cons new news =>
          rcases List.mem_cons.mp member with rfl | later
          · exact ⟨item, List.mem_cons_self, new, List.mem_cons_self, rfl⟩
          · obtain ⟨other, inFound, otherNew, inNews, same⟩ := ih news later
            exact ⟨other, List.mem_cons_of_mem item inFound, otherNew,
              List.mem_cons_of_mem new inNews, same⟩

omit [DecidableEq Symbol] in
/-- A matched word does not start in a gap, where nothing matches; it remains to rule out
the replacement and the border between the two. -/
theorem neverStarts_gap_append {find : List Symbol → Option (Value × List Symbol)}
    (settled : Settled find) {gap after word rest new : List Symbol} {value : Value}
    (clear : ∀ s, s ≠ [] → s <:+ gap → find (s ++ after) = none)
    (matched : find (word ++ rest) = some (value, rest)) (inNew : NeverStarts word new)
    (across : ∀ front back more, word = front ++ back → back ≠ [] → front <:+ gap →
      front ≠ [] → ¬ back <+: new ++ more) :
    NeverStarts word (gap ++ new) := by
  have inside (t u : List Symbol) (nonempty : t ≠ []) (suffix : t <:+ gap)
      (split : t = word ++ u) : False := by
    have refused := clear t nonempty suffix
    rw [split, List.append_assoc, settled word value rest matched] at refused
    cases refused
  intro s more nonempty suffix occurs
  rcases suffix_append_cases suffix with later | ⟨t, notNil, inGap, rfl⟩
  · exact inNew s more nonempty later occurs
  · obtain ⟨z, split⟩ := occurs
    rw [List.append_assoc] at split
    rcases List.append_eq_append_iff.mp split with ⟨u, tIs, _⟩ | ⟨back, wordIs, remaining⟩
    · exact inside t u notNil inGap tIs
    · by_cases ended : back = []
      · subst ended
        exact inside t [] notNil inGap (by rw [wordIs, List.append_nil, List.append_nil])
      · exact across t back more wordIs ended inGap notNil ⟨z, remaining.symm⟩

omit [DecidableEq Symbol] in
theorem separated_segments (found : List (Found Symbol Value)) (news : List (List Symbol))
    (apart : ∀ earlier ∈ found, ∀ new ∈ news, ∀ later ∈ found,
      NeverStarts later.word (earlier.gap ++ new)) : Separated (segments found news) := by
  apply List.pairwise_of_forall_mem_list
  intro earlier inSegments later inSegments'
  obtain ⟨item, member, new, inNews, rfl⟩ := mem_segments found news earlier inSegments
  obtain ⟨other, member', _, _, rfl⟩ := mem_segments found news later inSegments'
  exact apart item member new inNews other member'

end Matches

end Rewriting
