/-
The rewriting of embedded mentions is one substitution, and mentions survive it.

The lazy runs of the expression make a match depend on the matched word alone.  That
settles where the first occurrence of a match can be in a body that is already partly
rewritten.
-/

import Pybotx.Models.Message.Mentions

set_option autoImplicit false

namespace Pybotx

open LazyPattern Rewriting

def embedWord (mentionType entityId name : List Char) : List Char :=
  openTag ++ (mentionType ++ (':' :: (entityId ++ (':' :: (name ++ closeTag)))))

/-- The parts that the lazy runs choose: the type ends at the first colon that an entity
id and another colon follow, the name at the first closing tag. -/
structure EmbedParts (mentionType entityId name : List Char) : Prop where
  typeNonempty : mentionType ≠ []
  typeDot : ∀ c ∈ mentionType, dot c = true
  idSymbols : ∀ c ∈ entityId, idSymbol c = true
  nameDot : ∀ c ∈ name, dot c = true
  typeShortest : ∀ before after, mentionType = before ++ after → before ≠ [] → after ≠ [] →
    ¬ ∃ id rest, (∀ c ∈ id, idSymbol c = true) ∧
      after ++ (':' :: (entityId ++ (':' :: name))) = ':' :: (id ++ (':' :: rest))
  nameShortest : ∀ before after, name = before ++ after → after ≠ [] →
    ¬ closeTag <+: after ++ closeTag

private def afterName : List (Item Char) := [.lit closeTag]

private def afterId : List (Item Char) := .lit [':'] :: .lazy dot 0 :: afterName

private def afterType : List (Item Char) := .lit [':'] :: .lazy idSymbol 0 :: afterId

private theorem idSymbol_colon : idSymbol ':' = false := by decide

private theorem idSymbol_lt : idSymbol '<' = false := by decide

private theorem matchItems_closeTag (text : List Char) :
    matchItems afterName text = none ↔ ¬ closeTag <+: text := by
  constructor
  · rintro refused ⟨rest, rfl⟩
    have found := (matchItems_lit_eq_some_iff closeTag [] (closeTag ++ rest) ([], rest)).mpr
      ⟨rest, rfl, rfl⟩
    rw [show matchItems [.lit closeTag] (closeTag ++ rest) =
      matchItems afterName (closeTag ++ rest) from rfl, refused] at found
    cases found
  · intro absent
    cases found : matchItems afterName text with
    | none => rfl
    | some outcome =>
        obtain ⟨rest, split, _⟩ := (matchItems_lit_eq_some_iff closeTag [] text outcome).mp found
        exact absurd ⟨rest, split.symm⟩ absent

private theorem closeTag_prefix_append (after rest : List Char) :
    closeTag <+: after ++ (closeTag ++ rest) ↔ closeTag <+: after ++ closeTag := by
  rw [← List.append_assoc]
  constructor
  · intro occurs
    refine List.prefix_of_prefix_length_le occurs (List.prefix_append _ rest) ?_
    rw [List.length_append]
    omega
  · intro occurs
    exact occurs.trans (List.prefix_append _ rest)

private theorem shortest_name_iff (name rest : List Char) :
    Shortest dot (matchItems afterName) 0 name (closeTag ++ rest) ↔
      (∀ c ∈ name, dot c = true) ∧
        ∀ before after, name = before ++ after → after ≠ [] →
          ¬ closeTag <+: after ++ closeTag := by
  constructor
  · intro shortest
    refine ⟨shortest.allowed, ?_⟩
    intro before after split nonempty occurs
    have refused := shortest.shorter before after split nonempty (Nat.zero_le _)
    exact (matchItems_closeTag _).mp refused ((closeTag_prefix_append after rest).mpr occurs)
  · rintro ⟨dots, first⟩
    refine ⟨Nat.zero_le _, dots, ?_⟩
    intro before after split nonempty _
    apply (matchItems_closeTag _).mpr
    intro occurs
    exact first before after split nonempty ((closeTag_prefix_append after rest).mp occurs)

/-- An entity id ends at the first colon, so no shorter run is ever tried with success. -/
private theorem shortest_id_iff (entityId rest : List Char) :
    Shortest idSymbol (matchItems afterId) 0 entityId (':' :: rest) ↔
      ∀ c ∈ entityId, idSymbol c = true := by
  constructor
  · intro shortest
    exact shortest.allowed
  · intro symbols
    refine ⟨Nat.zero_le _, symbols, ?_⟩
    intro before after split nonempty _
    cases found : matchItems afterId (after ++ ':' :: rest) with
    | none => rfl
    | some outcome =>
        obtain ⟨tail, colon, _⟩ := (matchItems_lit_eq_some_iff [':'] _ _ outcome).mp found
        cases after with
        | nil => exact absurd rfl nonempty
        | cons c after =>
            have isColon : c = ':' := by
              rw [List.cons_append] at colon
              exact (List.cons.inj colon).1
            have symbol := symbols c (by rw [split]; simp)
            rw [isColon, idSymbol_colon] at symbol
            cases symbol

private theorem header_before_tag (front rest id more : List Char)
    (symbols : ∀ c ∈ id, idSymbol c = true)
    (split : front ++ (closeTag ++ rest) = ':' :: (id ++ (':' :: more))) :
    ∃ tail, front = ':' :: (id ++ (':' :: tail)) := by
  have header : front ++ (closeTag ++ rest) = (':' :: (id ++ [':'])) ++ more := by
    simpa using split
  rcases List.append_eq_append_iff.mp header with ⟨s, headerIs, tagIs⟩ | ⟨s, frontIs, _⟩
  · cases s with
    | nil => exact ⟨[], by simpa using headerIs.symm⟩
    | cons c s =>
        have isLt : '<' = c := by
          change '<' :: _ = c :: _ at tagIs
          exact (List.cons.inj tagIs).1
        have inHeader : '<' ∈ ':' :: (id ++ [':']) := by
          rw [headerIs, isLt]
          simp
        simp only [List.mem_cons, List.mem_append] at inHeader
        rcases inHeader with impossible | inId | impossible
        · exact absurd impossible (by decide)
        · have symbol := symbols '<' inId
          rw [idSymbol_lt] at symbol
          cases symbol
        · exact absurd impossible (by decide)
  · exact ⟨s, by simpa using frontIs⟩

private theorem matchItems_afterType (front rest : List Char)
    (dots : ∀ c ∈ front, dot c = true) :
    matchItems afterType (front ++ (closeTag ++ rest)) = none ↔
      ¬ ∃ id tail, (∀ c ∈ id, idSymbol c = true) ∧ front = ':' :: (id ++ (':' :: tail)) := by
  constructor
  · rintro refused ⟨id, tail, symbols, rfl⟩
    have closed : matchItems afterName (closeTag ++ rest) ≠ none := by
      intro missing
      exact (matchItems_closeTag _).mp missing (List.prefix_append closeTag rest)
    have named : matchItems afterId ([':'] ++ (tail ++ (closeTag ++ rest))) ≠ none := by
      unfold afterId
      rw [matchItems_lit_append]
      refine matchItems_lazy_ne_none dot 0 afterName tail _ (Nat.zero_le _) ?_ closed
      intro c member
      exact dots c (by simp [member])
    have identified : matchItems afterType
        ([':'] ++ (id ++ ([':'] ++ (tail ++ (closeTag ++ rest))))) ≠ none := by
      unfold afterType
      rw [matchItems_lit_append]
      exact matchItems_lazy_ne_none idSymbol 0 afterId id _ (Nat.zero_le _) symbols named
    apply identified
    rw [← refused]
    congr 1
    simp
  · intro absent
    cases found : matchItems afterType (front ++ (closeTag ++ rest)) with
    | none => rfl
    | some outcome =>
        obtain ⟨afterColon, split, identified⟩ :=
          (matchItems_lit_eq_some_iff [':'] (.lazy idSymbol 0 :: afterId) _ outcome).mp found
        obtain ⟨id, _, more, _, rfl, named, shortest⟩ :=
          (matchItems_lazy_eq_some_iff idSymbol 0 afterId afterColon outcome.1 outcome.2).mp
            identified
        obtain ⟨name, rfl, _⟩ := (matchItems_lit_eq_some_iff [':'] _ more _).mp named
        obtain ⟨tail, frontIs⟩ :=
          header_before_tag front rest id name shortest.allowed (by simpa using split)
        exact absurd ⟨id, tail, shortest.allowed, frontIs⟩ absent

private theorem shortest_type_iff (mentionType entityId name rest : List Char)
    (symbols : ∀ c ∈ entityId, idSymbol c = true) (nameDots : ∀ c ∈ name, dot c = true) :
    Shortest dot (matchItems afterType) 1 mentionType
        (':' :: (entityId ++ (':' :: (name ++ (closeTag ++ rest))))) ↔
      mentionType ≠ [] ∧ (∀ c ∈ mentionType, dot c = true) ∧
        ∀ before after, mentionType = before ++ after → before ≠ [] → after ≠ [] →
          ¬ ∃ id tail, (∀ c ∈ id, idSymbol c = true) ∧
            after ++ (':' :: (entityId ++ (':' :: name))) = ':' :: (id ++ (':' :: tail)) := by
  have dotId (c : Char) (symbol : idSymbol c = true) : dot c = true := by
    by_contra newline
    have isNewline : c = '\n' := by simpa [dot] using newline
    subst isNewline
    exact absurd symbol (by decide)
  have regroup (after : List Char) :
      after ++ (':' :: (entityId ++ (':' :: (name ++ (closeTag ++ rest))))) =
        (after ++ (':' :: (entityId ++ (':' :: name)))) ++ (closeTag ++ rest) := by simp
  have dots (typeDots : ∀ c ∈ mentionType, dot c = true) (before after : List Char)
      (split : mentionType = before ++ after) :
      ∀ c ∈ after ++ (':' :: (entityId ++ (':' :: name))), dot c = true := by
    intro c member
    simp only [List.mem_append, List.mem_cons] at member
    rcases member with inType | rfl | inId | rfl | inName
    · exact typeDots c (by rw [split]; simp [inType])
    · decide
    · exact dotId c (symbols c inId)
    · decide
    · exact nameDots c inName
  constructor
  · intro shortest
    refine ⟨?_, shortest.allowed, ?_⟩
    · intro empty
      have long := shortest.long
      rw [empty, List.length_nil] at long
      omega
    · intro before after split beforeNonempty afterNonempty
      have refused := shortest.shorter before after split afterNonempty
        (List.length_pos_iff.mpr beforeNonempty)
      rw [regroup] at refused
      exact (matchItems_afterType _ rest (dots shortest.allowed before after split)).mp refused
  · rintro ⟨nonempty, typeDots, first⟩
    refine ⟨List.length_pos_iff.mpr nonempty, typeDots, ?_⟩
    intro before after split afterNonempty long
    rw [regroup]
    exact (matchItems_afterType _ rest (dots typeDots before after split)).mpr
      (first before after split (List.length_pos_iff.mp long) afterNonempty)

/-- The expression captures three parts whose runs are all as short as can be. -/
theorem matchItems_embedMentionRe_iff (text rest mentionType entityId name : List Char) :
    matchItems embedMentionRe text = some ([mentionType, entityId, name], rest) ↔
      EmbedParts mentionType entityId name ∧
        text = embedWord mentionType entityId name ++ rest := by
  constructor
  · intro matched
    obtain ⟨afterOpen, rfl, matched⟩ :=
      (matchItems_lit_eq_some_iff openTag (.lazy dot 1 :: afterType) text _).mp matched
    obtain ⟨_, _, _, sameType, rfl, matched, typeRun⟩ :=
      (matchItems_lazy_eq_some_iff dot 1 afterType afterOpen _ rest).mp matched
    cases sameType
    obtain ⟨_, rfl, matched⟩ :=
      (matchItems_lit_eq_some_iff [':'] (.lazy idSymbol 0 :: afterId) _ _).mp matched
    obtain ⟨_, _, _, sameId, rfl, matched, idRun⟩ :=
      (matchItems_lazy_eq_some_iff idSymbol 0 afterId _ _ rest).mp matched
    cases sameId
    obtain ⟨_, rfl, matched⟩ :=
      (matchItems_lit_eq_some_iff [':'] (.lazy dot 0 :: afterName) _ _).mp matched
    obtain ⟨_, _, _, sameName, rfl, matched, nameRun⟩ :=
      (matchItems_lazy_eq_some_iff dot 0 afterName _ _ rest).mp matched
    cases sameName
    obtain ⟨last, rfl, ended⟩ := (matchItems_lit_eq_some_iff closeTag [] _ _).mp matched
    obtain rfl : last = rest := by simpa [matchItems] using ended
    obtain ⟨nameDot, nameShortest⟩ := (shortest_name_iff name last).mp nameRun
    have idSymbols := (shortest_id_iff entityId _).mp idRun
    obtain ⟨nonempty, typeDot, typeShortest⟩ :=
      (shortest_type_iff mentionType entityId name last idSymbols nameDot).mp typeRun
    exact ⟨⟨nonempty, typeDot, idSymbols, nameDot, typeShortest, nameShortest⟩,
      by simp [embedWord]⟩
  · rintro ⟨parts, rfl⟩
    have nameRun := (shortest_name_iff name rest).mpr ⟨parts.nameDot, parts.nameShortest⟩
    have idRun := (shortest_id_iff entityId (name ++ (closeTag ++ rest))).mpr parts.idSymbols
    have typeRun := (shortest_type_iff mentionType entityId name rest parts.idSymbols
      parts.nameDot).mpr ⟨parts.typeNonempty, parts.typeDot, parts.typeShortest⟩
    have named : matchItems (.lazy dot 0 :: afterName) (name ++ (closeTag ++ rest)) =
        some ([name], rest) :=
      (matchItems_lazy_eq_some_iff dot 0 afterName _ _ rest).mpr
        ⟨name, [], _, rfl, rfl, matchItems_lit_append closeTag [] rest, nameRun⟩
    have identified : matchItems (.lazy idSymbol 0 :: afterId)
        (entityId ++ (':' :: (name ++ (closeTag ++ rest)))) =
          some ([entityId, name], rest) :=
      (matchItems_lazy_eq_some_iff idSymbol 0 afterId _ _ rest).mpr
        ⟨entityId, [name], _, rfl, rfl,
          (matchItems_lit_append [':'] (.lazy dot 0 :: afterName) _).trans named, idRun⟩
    have typed : matchItems (.lazy dot 1 :: afterType)
        (mentionType ++ (':' :: (entityId ++ (':' :: (name ++ (closeTag ++ rest)))))) =
          some ([mentionType, entityId, name], rest) :=
      (matchItems_lazy_eq_some_iff dot 1 afterType _ _ rest).mpr
        ⟨mentionType, [entityId, name], _, rfl, rfl,
          (matchItems_lit_append [':'] (.lazy idSymbol 0 :: afterId) _).trans identified,
          typeRun⟩
    have opened := (matchItems_lit_append openTag (.lazy dot 1 :: afterType) _).trans typed
    rw [← opened]
    unfold embedWord
    simp only [List.append_assoc, List.cons_append]
    rfl

theorem embedMatch_eq_some_iff (text rest : List Char) (found : MentionDict) :
    embedMatch text = some (found, rest) ↔
      ∃ mentionType entityId name, EmbedParts mentionType entityId name ∧
        found = ⟨String.ofList mentionType, String.ofList entityId, String.ofList name⟩ ∧
        text = embedWord mentionType entityId name ++ rest := by
  unfold embedMatch
  constructor
  · intro matched
    split at matched
    · rename_i mentionType entityId name last captured
      cases matched
      obtain ⟨parts, split⟩ := (matchItems_embedMentionRe_iff _ _ _ _ _).mp captured
      exact ⟨mentionType, entityId, name, parts, rfl, split⟩
    · cases matched
  · rintro ⟨mentionType, entityId, name, parts, rfl, split⟩
    rw [(matchItems_embedMentionRe_iff _ _ _ _ _).mpr ⟨parts, split⟩]

theorem embedMatch_settled : Settled embedMatch := by
  intro word found rest matched other
  obtain ⟨mentionType, entityId, name, parts, same, split⟩ :=
    (embedMatch_eq_some_iff (word ++ rest) rest found).mp matched
  have wordIs := List.append_cancel_right split
  exact (embedMatch_eq_some_iff (word ++ other) other found).mpr
    ⟨mentionType, entityId, name, parts, same, by rw [wordIs]⟩

theorem embedMatch_consumes : Consumes embedMatch := by
  intro text found rest matched
  obtain ⟨mentionType, entityId, name, _, _, split⟩ :=
    (embedMatch_eq_some_iff text rest found).mp matched
  refine ⟨embedWord mentionType entityId name, ?_, split⟩
  intro empty
  cases empty

theorem placeholder_eq (mention : BotXAPIMention) :
    ∃ sigil, (sigil = ['@'] ∨ sigil = ['@', '@'] ∨ sigil = ['#', '#']) ∧
      placeholder mention =
        sigil ++ ("\x7bmention:".toList ++ (mention.mentionId.chars ++ ['\x7d'])) := by
  cases mention with
  | user id data =>
      refine ⟨['@'], Or.inl rfl, ?_⟩
      simp [placeholder, BotXAPIMention.toBotxEmbedMentionFormat, BotXAPIMention.mentionId,
        UUID.str]
  | contact id data =>
      refine ⟨['@', '@'], Or.inr (Or.inl rfl), ?_⟩
      simp [placeholder, BotXAPIMention.toBotxEmbedMentionFormat, BotXAPIMention.mentionId,
        UUID.str]
  | chat id data =>
      refine ⟨['#', '#'], Or.inr (Or.inr rfl), ?_⟩
      simp [placeholder, BotXAPIMention.toBotxEmbedMentionFormat, BotXAPIMention.mentionId,
        UUID.str]
  | channel id data =>
      refine ⟨['#', '#'], Or.inr (Or.inr rfl), ?_⟩
      simp [placeholder, BotXAPIMention.toBotxEmbedMentionFormat, BotXAPIMention.mentionId,
        UUID.str]
  | all id =>
      refine ⟨['@'], Or.inl rfl, ?_⟩
      simp [placeholder, BotXAPIMention.toBotxEmbedMentionFormat, BotXAPIMention.mentionId,
        UUID.str]

theorem not_mem_placeholder (mention : BotXAPIMention) (c : Char) (border : c = '<' ∨ c = '>') :
    c ∉ placeholder mention := by
  obtain ⟨sigil, sigils, spelled⟩ := placeholder_eq mention
  have notDigit : ∀ digit < 16, Text.hexDigit digit ≠ '<' ∧ Text.hexDigit digit ≠ '>' := by
    decide
  have notInId : c ∉ mention.mentionId.chars := by
    intro member
    rcases UUID.mem_chars mention.mentionId c member with rfl | ⟨digit, small, rfl⟩
    · exact absurd border (by decide)
    · rcases border with left | right
      · exact (notDigit digit small).1 left
      · exact (notDigit digit small).2 right
  have notInSigil : c ∉ sigil := by
    rcases border with rfl | rfl <;> rcases sigils with rfl | rfl | rfl <;> decide
  have notInFrame : c ∉ "\x7bmention:".toList ∧ c ∉ ['\x7d'] := by
    rcases border with rfl | rfl <;> decide
  rw [spelled]
  simp only [List.mem_append]
  rintro (inSigil | inFrame | inId | last)
  · exact notInSigil inSigil
  · exact notInFrame.1 inFrame
  · exact notInId inId
  · exact notInFrame.2 last

theorem mentionId_infix_placeholder (mention : BotXAPIMention) :
    mention.mentionId.chars <:+: placeholder mention := by
  obtain ⟨sigil, _, spelled⟩ := placeholder_eq mention
  rw [spelled]
  exact ⟨sigil ++ "\x7bmention:".toList, ['\x7d'], by simp⟩

/-! ### The loop -/

/-- One mention for each match, in order, under the identifiers from number `k` on. -/
inductive Builds (ids : Nat → UUID) :
    Nat → List (Found Char MentionDict) → List BotXAPIMention → Prop
  | nil (k : Nat) : Builds ids k [] []
  | cons (k : Nat) (item : Found Char MentionDict) (mention : BotXAPIMention)
      (more : List (Found Char MentionDict)) (mentions : List BotXAPIMention)
      (built : buildBotxApiEmbedMention (ids k) item.value = .ok mention)
      (later : Builds ids (k + 1) more mentions) :
      Builds ids k (item :: more) (mention :: mentions)

theorem Builds.length_eq {ids : Nat → UUID} {k : Nat} {found : List (Found Char MentionDict)}
    {mentions : List BotXAPIMention} (builds : Builds ids k found mentions) :
    found.length = mentions.length := by
  induction builds with
  | nil k => rfl
  | cons k item mention more mentions _ _ ih => rw [List.length_cons, List.length_cons, ih]

theorem built_eq (id : UUID) (mentionDict : MentionDict) (mention : BotXAPIMention)
    (built : buildBotxApiEmbedMention id mentionDict = .ok mention) :
    mention.mentionId = id ∧
      ∀ name, mention.name = .value name → name = mentionDict.mentionName := by
  have captured (name : String)
      (same : (if mentionDict.mentionName = "" then Missing.undefined
        else .value mentionDict.mentionName) = .value name) : name = mentionDict.mentionName := by
    split at same
    · cases same
    · cases same
      rfl
  unfold buildBotxApiEmbedMention at built
  rw [Result.bind_eq_ok] at built
  obtain ⟨mentionType, _, built⟩ := built
  cases mentionType with
  | all =>
      cases built
      refine ⟨rfl, ?_⟩
      intro name impossible
      cases impossible
  | user =>
      simp only [Result.bind_eq_ok] at built
      obtain ⟨_, _, built⟩ := built
      cases built
      exact ⟨rfl, captured⟩
  | contact =>
      simp only [Result.bind_eq_ok] at built
      obtain ⟨_, _, built⟩ := built
      cases built
      exact ⟨rfl, captured⟩
  | chat =>
      simp only [Result.bind_eq_ok] at built
      obtain ⟨_, _, built⟩ := built
      cases built
      exact ⟨rfl, captured⟩
  | channel =>
      simp only [Result.bind_eq_ok] at built
      obtain ⟨_, _, built⟩ := built
      cases built
      exact ⟨rfl, captured⟩

theorem Builds.exists_item {ids : Nat → UUID} {k : Nat} {found : List (Found Char MentionDict)}
    {mentions : List BotXAPIMention} (builds : Builds ids k found mentions)
    (mention : BotXAPIMention) (member : mention ∈ mentions) :
    ∃ item ∈ found, ∃ id, buildBotxApiEmbedMention id item.value = .ok mention := by
  induction builds with
  | nil k => cases member
  | cons k item first more mentions built _ ih =>
      rcases List.mem_cons.mp member with rfl | later
      · exact ⟨item, List.mem_cons_self, ids k, built⟩
      · obtain ⟨other, inMore, id, builtOther⟩ := ih later
        exact ⟨other, List.mem_cons_of_mem item inMore, id, builtOther⟩

theorem Builds.mentionIds {ids : Nat → UUID} {k : Nat} {found : List (Found Char MentionDict)}
    {mentions : List BotXAPIMention} (builds : Builds ids k found mentions) :
    mentions.map BotXAPIMention.mentionId = (List.range' k found.length).map ids := by
  induction builds with
  | nil k => rfl
  | cons k item mention more mentions built _ ih =>
      rw [List.map_cons, List.length_cons, List.range'_succ, List.map_cons, ih,
        (built_eq (ids k) item.value mention built).1]

theorem embedMentionsLoop_eq_ok_iff (ids : Nat → UUID) (k : Nat)
    (found : List (Found Char MentionDict)) (body newBody : List Char)
    (mentions : List BotXAPIMention) :
    embedMentionsLoop ids k found body = .ok (newBody, mentions) ↔
      Builds ids k found mentions ∧
        newBody = rewriteLoop (segments found (mentions.map placeholder)) body := by
  induction found generalizing k body mentions with
  | nil =>
      simp only [embedMentionsLoop]
      constructor
      · intro returned
        cases returned
        exact ⟨.nil k, rfl⟩
      · rintro ⟨builds, same⟩
        cases builds
        rw [same]
        rfl
  | cons item more ih =>
      simp only [embedMentionsLoop, Result.bind_eq_ok]
      constructor
      · rintro ⟨mention, built, ⟨lastBody, later⟩, ran, returned⟩
        cases returned
        obtain ⟨builds, same⟩ := (ih (k + 1) _ later).mp ran
        exact ⟨.cons k item mention more later built builds, same⟩
      · rintro ⟨builds, same⟩
        cases builds with
        | cons _ _ mention _ later built builds =>
            exact ⟨mention, built, (newBody, later), (ih (k + 1) _ later).mpr ⟨builds, same⟩, rfl⟩

theorem findAndReplaceEmbedMentions_eq_ok_iff (ids : Nat → UUID) (body newBody : String)
    (mentions : List BotXAPIMention) :
    findAndReplaceEmbedMentions ids body = .ok (newBody, mentions) ↔
      Builds ids 0 (finditer embedMatch body.toList).1 mentions ∧
        newBody = String.ofList (rewriteLoop
          (segments (finditer embedMatch body.toList).1 (mentions.map placeholder))
          body.toList) := by
  unfold findAndReplaceEmbedMentions
  rw [Result.bind_eq_ok]
  constructor
  · intro returned
    obtain ⟨⟨chars, built⟩, ran, same⟩ := returned
    cases same
    obtain ⟨builds, rewrote⟩ :=
      (embedMentionsLoop_eq_ok_iff ids 0 _ body.toList chars built).mp ran
    exact ⟨builds, congrArg String.ofList rewrote⟩
  · intro returned
    obtain ⟨builds, rewrote⟩ := returned
    subst rewrote
    have ran := (embedMentionsLoop_eq_ok_iff ids 0 _ body.toList _ mentions).mpr ⟨builds, rfl⟩
    exact ⟨_, ran, rfl⟩

/-! ### The loop is one substitution -/

theorem matched_word {word rest : List Char} {found : MentionDict}
    (matched : embedMatch (word ++ rest) = some (found, rest)) :
    ∃ middle, word = openTag ++ (middle ++ closeTag) := by
  obtain ⟨mentionType, entityId, name, _, _, split⟩ :=
    (embedMatch_eq_some_iff (word ++ rest) rest found).mp matched
  refine ⟨mentionType ++ (':' :: (entityId ++ (':' :: name))), ?_⟩
  rw [List.append_cancel_right split]
  simp [embedWord]

/-- The end of a match reaches into no placeholder, and a placeholder whose identifier is
not in the match lies in no match. -/
private theorem back_not_prefix (word front back more middle : List Char)
    (mention : BotXAPIMention) (spelled : word = openTag ++ (middle ++ closeTag))
    (split : word = front ++ back) (nonempty : back ≠ [])
    (fresh : ¬ mention.mentionId.chars <:+: word) :
    ¬ back <+: placeholder mention ++ more := by
  rintro ⟨z, same⟩
  have lastOfWord : word.getLast? = some '>' := by
    rw [spelled, ← List.append_assoc, List.getLast?_append]
    rfl
  rcases List.append_eq_append_iff.mp same with ⟨t, placeholderIs, _⟩ | ⟨t, backIs, _⟩
  · have lastOfBack : back.getLast? = some '>' := by
      rw [split, List.getLast?_append] at lastOfWord
      obtain ⟨last, found⟩ := Option.ne_none_iff_exists'.mp
        (fun missing => nonempty (List.getLast?_eq_none_iff.mp missing))
      rw [found] at lastOfWord
      rw [found]
      exact lastOfWord
    have member : '>' ∈ placeholder mention := by
      rw [placeholderIs]
      exact List.mem_append_left t (List.mem_of_getLast? lastOfBack)
    exact not_mem_placeholder mention '>' (Or.inr rfl) member
  · apply fresh
    refine (mentionId_infix_placeholder mention).trans ?_
    rw [split, backIs]
    exact ⟨front, t, by simp⟩

/-- None of the identifiers that the matches get occurs in the body. -/
def FreshFor (ids : Nat → UUID) (body : String) : Prop :=
  ∀ k, k < (finditer embedMatch body.toList).1.length → ¬ (ids k).chars <:+: body.toList

theorem findAndReplace_rewritten {ids : Nat → UUID} {body newBody : String}
    {mentions : List BotXAPIMention} (fresh : FreshFor ids body)
    (returned : findAndReplaceEmbedMentions ids body = .ok (newBody, mentions)) :
    newBody.toList = ((finditer embedMatch body.toList).1.zip mentions).flatMap
      (fun pair => pair.1.gap ++ placeholder pair.2) ++ (finditer embedMatch body.toList).2 := by
  have splits := finditer_splits embedMatch embedMatch_consumes body.toList
  obtain ⟨builds, rewrote⟩ :=
    (findAndReplaceEmbedMentions_eq_ok_iff ids body newBody mentions).mp returned
  unfold FreshFor at fresh
  generalize (finditer embedMatch body.toList).1 = found at *
  generalize (finditer embedMatch body.toList).2 = tail at *
  have paired : found.length = (mentions.map placeholder).length := by
    rw [List.length_map, builds.length_eq]
  have separated : Separated (segments found (mentions.map placeholder)) := by
    apply separated_segments
    intro earlier inFound new inNews later inFound'
    obtain ⟨mention, inMentions, rfl⟩ := List.mem_map.mp inNews
    obtain ⟨after, _, clear, _⟩ := splits.mem earlier inFound
    obtain ⟨rest, matched, _, inBody⟩ := splits.mem later inFound'
    obtain ⟨middle, spelled⟩ := matched_word matched
    have unused : ¬ mention.mentionId.chars <:+: later.word := by
      have listed : mention.mentionId ∈ (List.range' 0 found.length).map ids := by
        rw [← builds.mentionIds]
        exact List.mem_map.mpr ⟨mention, inMentions, rfl⟩
      rw [← List.range_eq_range'] at listed
      obtain ⟨k, small, sameId⟩ := List.mem_map.mp listed
      rw [← sameId]
      intro inWord
      refine fresh k (List.mem_range.mp small) (inWord.trans ?_)
      exact List.IsInfix.trans ⟨later.gap, rest, by simp⟩ inBody.isInfix
    refine neverStarts_gap_append embedMatch_settled clear matched ?_ ?_
    · rw [spelled]
      exact neverStarts_of_head_absent '<' _ _ (not_mem_placeholder mention '<' (Or.inl rfl))
    · intro front back more split nonempty _ _
      exact back_not_prefix later.word front back more middle mention spelled split nonempty
        unused
  have substituted := rewriteLoop_of_splits embedMatch_settled splits _ paired separated
  rw [rewrote, String.toList_ofList, substituted]
  unfold rewritten segments
  rw [← List.map_uncurry_zip_eq_zipWith, List.zip_map_right, List.map_map, List.flatMap_map]
  rfl

/-- The body that comes back is the original body with every match replaced in place by
the placeholder of its own mention. -/
theorem findAndReplace_substitution (ids : Nat → UUID) (body newBody : String)
    (mentions : List BotXAPIMention)
    (fresh : ∀ k, k < (finditer embedMatch body.toList).1.length →
      ¬ (ids k).chars <:+: body.toList)
    (returned : findAndReplaceEmbedMentions ids body = .ok (newBody, mentions)) :
    ∃ found tail, Splits embedMatch body.toList found tail ∧
      body.toList = found.flatMap (fun item => item.gap ++ item.word) ++ tail ∧
      Builds ids 0 found mentions ∧
      mentions.map BotXAPIMention.mentionId = (List.range found.length).map ids ∧
      newBody.toList =
        (found.zip mentions).flatMap (fun pair => pair.1.gap ++ placeholder pair.2) ++ tail := by
  have splits := finditer_splits embedMatch embedMatch_consumes body.toList
  obtain ⟨builds, _⟩ :=
    (findAndReplaceEmbedMentions_eq_ok_iff ids body newBody mentions).mp returned
  refine ⟨_, _, splits, splits.text_eq, builds, ?_, findAndReplace_rewritten fresh returned⟩
  rw [builds.mentionIds, List.range_eq_range']

def demoIds (k : Nat) : UUID :=
  ⟨⟨k % 2 ^ 128, Nat.mod_lt k (by decide)⟩⟩

def demoBody : String :=
  "hi <embed_mention>ALL::x<embed_mention>ALL::</embed_mention> <embed_mention>ALL::</embed_mention>"

theorem findAndReplace_substitution_demo :
    ∃ newBody mentions,
      findAndReplaceEmbedMentions demoIds demoBody = .ok (newBody, mentions) ∧
      ∃ found tail, Splits embedMatch demoBody.toList found tail ∧
        demoBody.toList = found.flatMap (fun item => item.gap ++ item.word) ++ tail ∧
        Builds demoIds 0 found mentions ∧
        mentions.map BotXAPIMention.mentionId = (List.range found.length).map demoIds ∧
        newBody.toList =
          (found.zip mentions).flatMap (fun pair => pair.1.gap ++ placeholder pair.2) ++ tail := by
  obtain ⟨newBody, mentions, returned⟩ : ∃ newBody mentions,
      findAndReplaceEmbedMentions demoIds demoBody = .ok (newBody, mentions) := ⟨_, _, rfl⟩
  refine ⟨newBody, mentions, returned, ?_⟩
  refine findAndReplace_substitution demoIds demoBody newBody mentions ?_ returned
  intro k _ occurs
  have hyphen : '-' ∈ (demoIds k).chars := by simp [UUID.chars, UUID.hyphenated]
  have absent : demoBody.toList.contains '-' = false := by rfl
  have present := List.contains_iff_mem.mpr (occurs.subset hyphen)
  rw [absent] at present
  cases present

end Pybotx
