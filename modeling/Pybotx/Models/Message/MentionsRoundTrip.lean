/-
Mentions pasted into a body as text and read back by the expression.

A name is pasted as it is.  It comes back exactly if it has no line break, which the dot
of the expression does not cross, and no closing tag, at which the lazy run stops.
-/

import Pybotx.Models.Message.MentionsSubstitution

set_option autoImplicit false

namespace Pybotx

open LazyPattern Rewriting

def pastedBody (pairs : List (String × Mention)) (tail : String) : String :=
  String.join (pairs.map fun pair => pair.1 ++ pair.2.str) ++ tail

/-- `Undefined` stands for no name and for the empty name. -/
def Mention.sentName (mention : Mention) : Missing String :=
  if mention.name.getD "" = "" then .undefined else .value (mention.name.getD "")

structure SameMention (mention : Mention) (sent : BotXAPIMention) : Prop where
  kind : sent.mentionType = convertMentionTypeFromDomain mention.type
  entity : sent.entityId = mention.entityId
  name : sent.name = mention.sentName

/-- Every pasted mention comes back as itself, in order, and its text became its
placeholder. -/
def MentionsSurvive (ids : Nat → UUID) (pairs : List (String × Mention)) (tail : String) :
    Prop :=
  ∃ newBody mentions,
    findAndReplaceEmbedMentions ids (pastedBody pairs tail) = .ok (newBody, mentions) ∧
    List.Forall₂ (fun pair sent => SameMention pair.2 sent) pairs mentions ∧
    newBody.toList =
      (pairs.zip mentions).flatMap (fun pair => pair.1.1.toList ++ placeholder pair.2) ++
        tail.toList ∧
    ¬ openTag <:+: newBody.toList

/-- The names the expression can read back. -/
def NameReadable (name : List Char) : Prop :=
  '\n' ∉ name ∧ ¬ closeTag <:+: name

def Mention.readable (mention : Mention) : Prop :=
  NameReadable (mention.name.getD "").toList

def typeChars (mention : Mention) : List Char :=
  mention.type.value.toList

def entityChars (mention : Mention) : List Char :=
  mention.entityId.elim [] UUID.chars

def nameChars (mention : Mention) : List Char :=
  (mention.name.getD "").toList

def pastedDict (mention : Mention) : MentionDict :=
  ⟨String.ofList (typeChars mention), String.ofList (entityChars mention),
    String.ofList (nameChars mention)⟩

theorem str_toList (mention : Mention) :
    mention.str.toList =
      embedWord (typeChars mention) (entityChars mention) (nameChars mention) := by
  have entity : (mention.entityId.elim "" UUID.str).toList = entityChars mention := by
    unfold entityChars
    cases mention.entityId with
    | none => rfl
    | some id => simp [UUID.str]
  unfold Mention.str buildEmbedMention embedWord
  simp only [String.toList_append, entity, List.append_assoc]
  rfl

theorem join_toList (texts : List String) :
    (String.join texts).toList = texts.flatMap String.toList := by
  induction texts with
  | nil => rfl
  | cons text texts ih => simp [ih]

theorem pastedBody_toList (pairs : List (String × Mention)) (tail : String) :
    (pastedBody pairs tail).toList =
      pairs.flatMap (fun pair => pair.1.toList ++ pair.2.str.toList) ++ tail.toList := by
  unfold pastedBody
  rw [String.toList_append, join_toList, List.flatMap_map]
  simp

theorem prefix_before_lt (tag s more : List Char) (absent : '<' ∉ tag) (nonempty : s ≠ [])
    (occurs : ('<' :: tag) <+: s ++ '<' :: more) : ('<' :: tag) <+: s := by
  obtain ⟨z, same⟩ := occurs
  rcases List.append_eq_append_iff.mp same with ⟨u, sIs, _⟩ | ⟨u, tagIs, moreIs⟩
  · exact ⟨u, sIs.symm⟩
  · cases u with
    | nil =>
        rw [List.append_nil] at tagIs
        rw [tagIs]
    | cons c u =>
        exfalso
        have isLt : '<' = c := by
          rw [List.cons_append] at moreIs
          exact (List.cons.inj moreIs).1
        subst isLt
        cases s with
        | nil => exact nonempty rfl
        | cons head s =>
            rw [List.cons_append] at tagIs
            apply absent
            rw [(List.cons.inj tagIs).2]
            simp

theorem openTag_before_lt (s more : List Char) (nonempty : s ≠ [])
    (occurs : openTag <+: s ++ '<' :: more) : openTag <+: s :=
  prefix_before_lt "embed_mention>".toList s more (by decide) nonempty occurs

theorem closeTag_before_close (s : List Char) (nonempty : s ≠ [])
    (occurs : closeTag <+: s ++ closeTag) : closeTag <+: s :=
  prefix_before_lt "/embed_mention>".toList s "/embed_mention>".toList (by decide) nonempty occurs

theorem infix_of_prefix_suffix {tag s text : List Char} (starts : tag <+: s)
    (suffix : s <:+ text) : tag <:+: text :=
  starts.isInfix.trans suffix.isInfix

theorem embedMatch_eq_none (text : List Char) (absent : ¬ openTag <+: text) :
    embedMatch text = none := by
  cases matched : embedMatch text with
  | none => rfl
  | some outcome =>
      rcases outcome with ⟨found, rest⟩
      obtain ⟨mentionType, entityId, name, _, _, split⟩ :=
        (embedMatch_eq_some_iff text rest found).mp matched
      apply absurd _ absent
      rw [split]
      unfold embedWord
      rw [List.append_assoc]
      exact List.prefix_append _ _

theorem typeChars_plain (mention : Mention) (c : Char) (member : c ∈ typeChars mention) :
    dot c = true ∧ c ≠ ':' := by
  have plain (kind : MentionTypes) :
      kind.value.toList.all (fun c => dot c && c != ':') = true := by
    cases kind <;> rfl
  simpa using List.all_eq_true.mp (plain mention.type) c member

theorem embedParts_of_readable (mention : Mention) (readable : mention.readable) :
    EmbedParts (typeChars mention) (entityChars mention) (nameChars mention) where
  typeNonempty := by
    have nonempty (kind : MentionTypes) : kind.value.toList ≠ [] := by
      cases kind <;> decide
    exact nonempty mention.type
  typeDot := fun c member => (typeChars_plain mention c member).1
  idSymbols := by
    intro c member
    unfold entityChars at member
    cases found : mention.entityId with
    | none =>
        rw [found] at member
        cases member
    | some id =>
        rw [found] at member
        have digits : ∀ digit < 16, idSymbol (Text.hexDigit digit) = true := by decide
        rcases UUID.mem_chars id c member with rfl | ⟨digit, small, rfl⟩
        · decide
        · exact digits digit small
  nameDot := by
    intro c member
    have notNewline : c ≠ '\n' := by
      rintro rfl
      exact readable.1 member
    simpa [dot] using notNewline
  typeShortest := by
    rintro before after split _ nonempty ⟨id, rest, _, same⟩
    cases after with
    | nil => exact nonempty rfl
    | cons c after =>
        have isColon : c = ':' := by
          rw [List.cons_append] at same
          exact (List.cons.inj same).1
        have member : ':' ∈ typeChars mention := by
          rw [split, isColon]
          simp
        exact (typeChars_plain mention ':' member).2 rfl
  nameShortest := by
    intro before after split nonempty occurs
    apply readable.2
    exact infix_of_prefix_suffix (closeTag_before_close after nonempty occurs)
      ⟨before, split.symm⟩

theorem readable_of_embedParts (mentionType entityId name : List Char)
    (parts : EmbedParts mentionType entityId name) : NameReadable name := by
  constructor
  · intro member
    have refused := parts.nameDot '\n' member
    exact absurd refused (by decide)
  · rintro ⟨before, after, split⟩
    refine parts.nameShortest before (closeTag ++ after) ?_ ?_ ?_
    · rw [← split, List.append_assoc]
    · intro empty
      cases (List.append_eq_nil_iff.mp empty).1
    · rw [List.append_assoc]
      exact List.prefix_append _ _

def pastedFound (pairs : List (String × Mention)) : List (Found Char MentionDict) :=
  pairs.map fun pair => ⟨pair.1.toList, pair.2.str.toList, pastedDict pair.2⟩

theorem splits_pasted (pairs : List (String × Mention)) (tail : List Char)
    (plain : ∀ pair ∈ pairs, ¬ openTag <:+: pair.1.toList) (plainTail : ¬ openTag <:+: tail)
    (readable : ∀ pair ∈ pairs, pair.2.readable) :
    Splits embedMatch
      (pairs.flatMap (fun pair => pair.1.toList ++ pair.2.str.toList) ++ tail)
      (pastedFound pairs) tail := by
  induction pairs with
  | nil =>
      refine .nothing tail ?_
      intro s nonempty suffix
      apply embedMatch_eq_none
      intro starts
      exact plainTail (infix_of_prefix_suffix starts suffix)
  | cons pair pairs ih =>
      rcases pair with ⟨segment, mention⟩
      have later := ih (fun other member => plain other (List.mem_cons_of_mem _ member))
        (fun other member => readable other (List.mem_cons_of_mem _ member))
      have parts := embedParts_of_readable mention (readable _ List.mem_cons_self)
      have spelled := str_toList mention
      have whole := Splits.found segment.toList mention.str.toList _ (pastedDict mention) _ tail
        (by rw [spelled]; intro empty; cases empty)
        (by
          intro s nonempty suffix
          apply embedMatch_eq_none
          intro starts
          rw [spelled] at starts
          refine plain _ List.mem_cons_self (infix_of_prefix_suffix ?_ suffix)
          exact openTag_before_lt s _ nonempty starts)
        ((embedMatch_eq_some_iff _ _ _).mpr
          ⟨_, _, _, parts, rfl, by rw [spelled]⟩)
        later
      have regroup : List.flatMap (fun pair => pair.1.toList ++ pair.2.str.toList)
          ((segment, mention) :: pairs) ++ tail =
          segment.toList ++ (mention.str.toList ++
            (pairs.flatMap (fun pair => pair.1.toList ++ pair.2.str.toList) ++ tail)) := by
        simp
      rw [regroup]
      exact whole

def Mention.toApi (mentionId : UUID) (mention : Mention) : BotXAPIMention :=
  match mention with
  | .user entityId _ => .user mentionId ⟨entityId, mention.sentName⟩
  | .contact entityId _ => .contact mentionId ⟨entityId, mention.sentName⟩
  | .chat entityId _ => .chat mentionId ⟨entityId, mention.sentName⟩
  | .channel entityId _ => .channel mentionId ⟨entityId, mention.sentName⟩
  | .all => .all mentionId

theorem sameMention_toApi (mentionId : UUID) (mention : Mention) :
    SameMention mention (mention.toApi mentionId) := by
  cases mention with
  | all => exact ⟨rfl, rfl, rfl⟩
  | _ => exact ⟨rfl, rfl, rfl⟩

theorem build_pastedDict (mentionId : UUID) (mention : Mention) :
    buildBotxApiEmbedMention mentionId (pastedDict mention) = .ok (mention.toApi mentionId) := by
  have typed (kind : MentionTypes) : MentionTypes.ofValue kind.value = .ok kind := by
    cases kind <;> rfl
  have entity (id : UUID) (targeted : mention.entityId = some id) :
      entityUuid (pastedDict mention).mentionedEntityId = .ok id := by
    have spelled : (pastedDict mention).mentionedEntityId = id.str := by
      simp only [pastedDict, entityChars, targeted, Option.elim_some, UUID.str]
    unfold entityUuid
    rw [spelled, UUID.parse_str]
  have kindIs : (pastedDict mention).mentionType = mention.type.value := String.ofList_toList
  have nameIs : (pastedDict mention).mentionName = mention.name.getD "" := String.ofList_toList
  unfold buildBotxApiEmbedMention
  rw [kindIs, nameIs, typed]
  cases mention with
  | all => rfl
  | user entityId name =>
      simp only [Mention.type, bind, Except.bind, entity entityId rfl]
      rfl
  | contact entityId name =>
      simp only [Mention.type, bind, Except.bind, entity entityId rfl]
      rfl
  | chat entityId name =>
      simp only [Mention.type, bind, Except.bind, entity entityId rfl]
      rfl
  | channel entityId name =>
      simp only [Mention.type, bind, Except.bind, entity entityId rfl]
      rfl

def sentMentions (ids : Nat → UUID) : Nat → List (String × Mention) → List BotXAPIMention
  | _, [] => []
  | k, pair :: pairs => pair.2.toApi (ids k) :: sentMentions ids (k + 1) pairs

theorem builds_sentMentions (ids : Nat → UUID) (k : Nat) (pairs : List (String × Mention)) :
    Builds ids k (pastedFound pairs) (sentMentions ids k pairs) := by
  induction pairs generalizing k with
  | nil => exact .nil k
  | cons pair pairs ih =>
      exact .cons k _ _ _ _ (build_pastedDict (ids k) pair.2) (ih (k + 1))

theorem sameMention_sentMentions (ids : Nat → UUID) (k : Nat)
    (pairs : List (String × Mention)) :
    List.Forall₂ (fun pair sent => SameMention pair.2 sent) pairs (sentMentions ids k pairs) := by
  induction pairs generalizing k with
  | nil => exact .nil
  | cons pair pairs ih => exact .cons (sameMention_toApi (ids k) pair.2) (ih (k + 1))

theorem sigil_not_mem_openTag (c : Char) (sigil : c = '@' ∨ c = '#') : c ∉ openTag := by
  rcases sigil with rfl | rfl
  · decide
  · decide

theorem placeholder_cons (mention : BotXAPIMention) :
    ∃ c rest, placeholder mention = c :: rest ∧ (c = '@' ∨ c = '#') := by
  obtain ⟨sigil, sigils, spelled⟩ := placeholder_eq mention
  rcases sigils with rfl | rfl | rfl
  · exact ⟨'@', _, spelled, Or.inl rfl⟩
  · exact ⟨'@', _, spelled, Or.inl rfl⟩
  · exact ⟨'#', _, spelled, Or.inr rfl⟩

theorem neverStarts_plain (segment rest : List Char) (mention : BotXAPIMention)
    (plain : ¬ openTag <:+: segment) :
    NeverStarts (openTag ++ rest) (segment ++ placeholder mention) := by
  obtain ⟨c, back, spelled, sigil⟩ := placeholder_cons mention
  intro s more nonempty suffix occurs
  rcases suffix_append_cases suffix with inPlaceholder | ⟨t, notNil, inSegment, rfl⟩
  · exact neverStarts_of_head_absent '<' _ (placeholder mention)
      (not_mem_placeholder mention '<' (Or.inl rfl)) s more nonempty inPlaceholder occurs
  · obtain ⟨z, same⟩ := occurs
    rw [spelled, List.append_assoc, List.append_assoc] at same
    rcases List.append_eq_append_iff.mp same with ⟨u, tIs, _⟩ | ⟨u, tagIs, remaining⟩
    · exact plain (infix_of_prefix_suffix ⟨u, tIs.symm⟩ inSegment)
    · cases u with
      | nil =>
          rw [List.append_nil] at tagIs
          exact plain (infix_of_prefix_suffix (by rw [tagIs]) inSegment)
      | cons head u =>
          rw [List.cons_append, List.cons_append] at remaining
          have isSigil : c = head := (List.cons.inj remaining).1
          apply sigil_not_mem_openTag c sigil
          rw [tagIs, isSigil]
          simp

theorem separated_pasted (pairs : List (String × Mention)) (mentions : List BotXAPIMention)
    (plain : ∀ pair ∈ pairs, ¬ openTag <:+: pair.1.toList) :
    Separated (segments (pastedFound pairs) (mentions.map placeholder)) := by
  apply separated_segments
  intro earlier inFound new inNews later inFound'
  obtain ⟨pair, inPairs, rfl⟩ := List.mem_map.mp inFound
  obtain ⟨pair', _, rfl⟩ := List.mem_map.mp inFound'
  obtain ⟨mention, _, rfl⟩ := List.mem_map.mp inNews
  rw [str_toList]
  exact neverStarts_plain pair.1.toList _ mention (plain pair inPairs)

theorem no_openTag_rewritten (pairs : List (String × Mention)) (mentions : List BotXAPIMention)
    (tail : List Char) (plain : ∀ pair ∈ pairs, ¬ openTag <:+: pair.1.toList)
    (plainTail : ¬ openTag <:+: tail) :
    ¬ openTag <:+:
      (pairs.zip mentions).flatMap (fun pair => pair.1.1.toList ++ placeholder pair.2) ++
        tail := by
  have front (list : List ((String × Mention) × BotXAPIMention))
      (plain : ∀ pair ∈ list, ¬ openTag <:+: pair.1.1.toList) :
      NeverStarts openTag
        (list.flatMap fun pair => pair.1.1.toList ++ placeholder pair.2) := by
    induction list with
    | nil => exact NeverStarts.nil openTag
    | cons pair list ih =>
        rw [List.flatMap_cons]
        refine NeverStarts.append ?_
          (ih fun other member => plain other (List.mem_cons_of_mem pair member))
        simpa using neverStarts_plain pair.1.1.toList [] pair.2 (plain pair List.mem_cons_self)
  intro occurs
  obtain ⟨s, starts, suffix⟩ := List.infix_iff_prefix_suffix.mp occurs
  rcases suffix_append_cases suffix with inTail | ⟨t, nonempty, inFront, rfl⟩
  · exact plainTail (infix_of_prefix_suffix starts inTail)
  · refine front _ ?_ t tail nonempty inFront starts
    intro pair member
    exact plain pair.1 (List.of_mem_zip member).1

/-! ### The round trip -/

theorem survive_of_readable (ids : Nat → UUID) (pairs : List (String × Mention)) (tail : String)
    (plain : ∀ pair ∈ pairs, ¬ openTag <:+: pair.1.toList)
    (plainTail : ¬ openTag <:+: tail.toList) (readable : ∀ pair ∈ pairs, pair.2.readable) :
    MentionsSurvive ids pairs tail := by
  have splits := splits_pasted pairs tail.toList plain plainTail readable
  have found := finditer_eq_of_splits embedMatch_consumes splits
  have builds := builds_sentMentions ids 0 pairs
  have paired : (pastedFound pairs).length =
      ((sentMentions ids 0 pairs).map placeholder).length := by
    rw [List.length_map, builds.length_eq]
  have rewrote := rewriteLoop_of_splits embedMatch_settled splits
    ((sentMentions ids 0 pairs).map placeholder) paired
    (separated_pasted pairs (sentMentions ids 0 pairs) plain)
  have newBody : rewritten (segments (pastedFound pairs)
      ((sentMentions ids 0 pairs).map placeholder)) tail.toList =
      (pairs.zip (sentMentions ids 0 pairs)).flatMap
        (fun pair => pair.1.1.toList ++ placeholder pair.2) ++ tail.toList := by
    unfold rewritten segments pastedFound
    rw [← List.map_uncurry_zip_eq_zipWith, List.zip_map, List.map_map, List.flatMap_map]
    rfl
  rw [← pastedBody_toList] at found rewrote
  refine ⟨_, sentMentions ids 0 pairs, ?_, sameMention_sentMentions ids 0 pairs,
    String.toList_ofList, ?_⟩
  · rw [findAndReplaceEmbedMentions_eq_ok_iff, found, rewrote, newBody]
    exact ⟨builds, rfl⟩
  · rw [String.toList_ofList]
    exact no_openTag_rewritten pairs _ tail.toList plain plainTail

/-- A name that was sent was read from a match. -/
theorem sent_name_readable (ids : Nat → UUID) (body : String) (newBody : String)
    (mentions : List BotXAPIMention)
    (returned : findAndReplaceEmbedMentions ids body = .ok (newBody, mentions))
    (sent : BotXAPIMention) (member : sent ∈ mentions) (name : String)
    (named : sent.name = .value name) : NameReadable name.toList := by
  have splits := finditer_splits embedMatch embedMatch_consumes body.toList
  obtain ⟨builds, _⟩ :=
    (findAndReplaceEmbedMentions_eq_ok_iff ids body newBody mentions).mp returned
  obtain ⟨item, inFound, id, built⟩ := builds.exists_item sent member
  obtain ⟨rest, matched, _, _⟩ := splits.mem item inFound
  obtain ⟨mentionType, entityId, read, parts, dict, _⟩ :=
    (embedMatch_eq_some_iff _ rest item.value).mp matched
  have nameIs : name = item.value.mentionName := (built_eq id item.value sent built).2 name named
  rw [nameIs, dict, String.toList_ofList]
  exact readable_of_embedParts mentionType entityId read parts

private theorem exists_mem_of_forall₂ {α β : Type} {R : α → β → Prop} {left : List α}
    {right : List β} (related : List.Forall₂ R left right) (a : α) (member : a ∈ left) :
    ∃ b ∈ right, R a b := by
  induction related with
  | nil => cases member
  | cons here _ ih =>
      rcases List.mem_cons.mp member with rfl | later
      · exact ⟨_, List.mem_cons_self, here⟩
      · obtain ⟨b, inRight, both⟩ := ih later
        exact ⟨b, List.mem_cons_of_mem _ inRight, both⟩

theorem readable_of_survive (ids : Nat → UUID) (pairs : List (String × Mention)) (tail : String)
    (survive : MentionsSurvive ids pairs tail) : ∀ pair ∈ pairs, pair.2.readable := by
  obtain ⟨newBody, mentions, returned, same, _, _⟩ := survive
  intro pair member
  obtain ⟨sent, inMentions, sameMention⟩ := exists_mem_of_forall₂ same pair member
  unfold Mention.readable
  by_cases unnamed : pair.2.name.getD "" = ""
  · rw [unnamed]
    constructor
    · decide
    · decide
  · refine sent_name_readable ids _ newBody mentions returned sent inMentions _ ?_
    rw [sameMention.name]
    unfold Mention.sentName
    rw [if_neg unnamed]

/-- Whatever identifiers are drawn, pasted mentions survive exactly if every name is free
of line breaks and closing tags. -/
theorem mentionsSurvive_iff (ids : Nat → UUID) (pairs : List (String × Mention)) (tail : String)
    (plain : ∀ pair ∈ pairs, ¬ openTag <:+: pair.1.toList)
    (plainTail : ¬ openTag <:+: tail.toList) :
    MentionsSurvive ids pairs tail ↔ ∀ pair ∈ pairs, pair.2.readable := by
  constructor
  · intro survive
    exact readable_of_survive ids pairs tail survive
  · intro readable
    exact survive_of_readable ids pairs tail plain plainTail readable

def demoPairs (name : String) : List (String × Mention) :=
  [("Hi ", .user (demoIds 5) (some name))]

theorem mentionsSurvive_iff_demo :
    MentionsSurvive demoIds (demoPairs "Bob: <b>") "!" ↔
      ∀ pair ∈ demoPairs "Bob: <b>", pair.2.readable := by
  refine mentionsSurvive_iff demoIds (demoPairs "Bob: <b>") "!" ?_ (by decide)
  intro pair member
  obtain rfl := List.mem_singleton.mp member
  decide

/-- A line break in a name: the tag stays in the text and no mention is sent. -/
theorem lineBreak_not_survive :
    (∀ pair ∈ demoPairs "Bob\nSmith", ¬ openTag <:+: pair.1.toList) ∧
      ¬ openTag <:+: "!".toList ∧
      ¬ MentionsSurvive demoIds (demoPairs "Bob\nSmith") "!" := by
  refine ⟨?_, by decide, ?_⟩
  · intro pair member
    obtain rfl := List.mem_singleton.mp member
    decide
  · rintro ⟨newBody, mentions, returned, same, _, _⟩
    have unmatched : findAndReplaceEmbedMentions demoIds
        (pastedBody (demoPairs "Bob\nSmith") "!") =
          .ok (pastedBody (demoPairs "Bob\nSmith") "!", []) := by
      rfl
    rw [unmatched] at returned
    cases returned
    cases same

end Pybotx
