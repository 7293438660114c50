/-
The length of the body that a direct notification sends.

The limit is checked on the body as it is given.  Each tag is then replaced by a
placeholder of a fixed length, which may be longer than the tag.
-/

import Pybotx.Client.MessagePayloads
import Pybotx.Models.Message.MentionsTotality

set_option autoImplicit false

namespace Pybotx

open LazyPattern Rewriting

def MentionDict.placeholderLength (mentionDict : MentionDict) : Nat :=
  if mentionDict.mentionType = "USER" ∨ mentionDict.mentionType = "ALL" then 47 else 48

def tagGrowth (item : Found Char MentionDict) : Int :=
  item.value.placeholderLength - item.word.length

/-- By how much all tags together make a body grow. -/
def bodyGrowth (body : String) : Int :=
  ((finditer embedMatch body.toList).1.map tagGrowth).sum

theorem mentionId_length (id : UUID) : id.chars.length = 36 := by
  simp [UUID.chars, UUID.hyphenated, UUID.hex_length]

theorem MentionTypes.value_of_ofValue {value : String} {mentionType : MentionTypes}
    (known : ofValue value = .ok mentionType) : mentionType.value = value := by
  unfold ofValue at known
  split at known
  · rename_i member found
    cases known
    have named := List.find?_some found
    exact of_decide_eq_true named
  · cases known

theorem placeholder_length (mention : BotXAPIMention) :
    (placeholder mention).length =
      if mention.mentionType = .user ∨ mention.mentionType = .all then 47 else 48 := by
  cases mention with
  | _ => simp [placeholder, BotXAPIMention.toBotxEmbedMentionFormat, UUID.str, mentionId_length,
      BotXAPIMention.mentionType, convertMentionTypeFromDomain]

theorem built_placeholder_length (id : UUID) (mentionDict : MentionDict)
    (mention : BotXAPIMention) (built : buildBotxApiEmbedMention id mentionDict = .ok mention) :
    (placeholder mention).length = mentionDict.placeholderLength := by
  unfold buildBotxApiEmbedMention at built
  obtain ⟨mentionType, known, built⟩ := (Result.bind_eq_ok _ _ _).mp built
  rw [placeholder_length, MentionDict.placeholderLength,
    ← MentionTypes.value_of_ofValue known]
  cases mentionType with
  | all =>
      cases built
      rfl
  | user | contact | chat | channel =>
      obtain ⟨target, _, same⟩ := (Result.bind_eq_ok _ _ _).mp built
      cases same
      rfl

/-- The substitution of placeholders for tags changes the length tag by tag. -/
theorem Builds.rewritten_length {ids : Nat → UUID} {k : Nat}
    {found : List (Found Char MentionDict)} {mentions : List BotXAPIMention}
    (builds : Builds ids k found mentions) (tail : List Char) :
    ((rewritten (segments found (mentions.map placeholder)) tail).length : Int) =
      (original (segments found (mentions.map placeholder)) tail).length +
        (found.map tagGrowth).sum := by
  induction builds with
  | nil k => simp [segments, rewritten, original]
  | cons k item mention more mentions built _ ih =>
      have length := built_placeholder_length (ids k) item.value mention built
      simp only [segments, rewritten, original, List.map_cons, List.zipWith_cons_cons,
        List.flatMap_cons, List.length_append, List.sum_cons, tagGrowth, length] at ih ⊢
      push_cast at ih ⊢
      linarith

theorem findAndReplace_length {ids : Nat → UUID} {body newBody : String}
    {mentions : List BotXAPIMention}
    (returned : findAndReplaceEmbedMentions ids body = .ok (newBody, mentions)) :
    (newBody.length : Int) = body.length + bodyGrowth body := by
  have splits := finditer_splits embedMatch embedMatch_consumes body.toList
  obtain ⟨builds, rewrote⟩ :=
    (findAndReplaceEmbedMentions_eq_ok_iff ids body newBody mentions).mp returned
  unfold bodyGrowth
  generalize (finditer embedMatch body.toList).1 = found at *
  generalize (finditer embedMatch body.toList).2 = tail at *
  have paired : found.length = (mentions.map placeholder).length := by
    rw [List.length_map, builds.length_eq]
  have whole : original (segments found (mentions.map placeholder)) tail = body.toList := by
    rw [original_segments found _ paired tail, ← splits.text_eq]
  have run := rewriteLoop_length (segments found (mentions.map placeholder)) [] tail
  rw [List.nil_append, whole, List.length_nil, Nat.zero_add] at run
  have grown := builds.rewritten_length tail
  rw [whole] at grown
  rw [rewrote, String.length_ofList, run, grown, String.length_toList]

theorem BotXAPIDirectNotificationRequestPayload.body_of_fromDomain {ids : Nat → UUID}
    {args : DirectNotificationArgs} {payload : BotXAPIDirectNotificationRequestPayload}
    (returned : fromDomain ids args = .ok payload) :
    ∃ mentions, findAndReplaceEmbedMentions ids args.body =
      .ok (payload.notification.body, mentions) := by
  unfold fromDomain at returned
  obtain ⟨apiFile, _, returned⟩ := (Result.bind_eq_ok _ _ _).mp returned
  by_cases long : args.body.length > maxNotificationBodyLength
  · rw [if_pos long] at returned
    cases returned
  · rw [if_neg long] at returned
    obtain ⟨⟨body, mentions⟩, replaced, returned⟩ := (Result.bind_eq_ok _ _ _).mp returned
    cases returned
    exact ⟨mentions, replaced⟩

/-- The body that is sent respects the limit exactly if the given one still would after
its tags have grown. -/
theorem directNotification_bounded_iff (ids : Nat → UUID) (args : DirectNotificationArgs)
    (payload : BotXAPIDirectNotificationRequestPayload)
    (returned : BotXAPIDirectNotificationRequestPayload.fromDomain ids args = .ok payload) :
    payload.notification.body.length ≤ maxNotificationBodyLength ↔
      (args.body.length : Int) + bodyGrowth args.body ≤ maxNotificationBodyLength := by
  obtain ⟨mentions, replaced⟩ :=
    BotXAPIDirectNotificationRequestPayload.body_of_fromDomain returned
  have length := findAndReplace_length replaced
  omega

def plainNotification (body : String) : DirectNotificationArgs :=
  ⟨emptyDirectNotification.chatId, body, .undefined, .undefined, .undefined, .undefined,
    .undefined, .undefined, .undefined, .undefined, .undefined, .undefined⟩

theorem directNotification_bounded_iff_plain :
    ∃ payload, BotXAPIDirectNotificationRequestPayload.fromDomain demoIds
        (plainNotification "<embed_mention>ALL::</embed_mention>") = .ok payload ∧
      payload.notification.body.length ≤ maxNotificationBodyLength := by
  obtain ⟨payload, returned⟩ : ∃ payload, BotXAPIDirectNotificationRequestPayload.fromDomain
      demoIds (plainNotification "<embed_mention>ALL::</embed_mention>") = .ok payload := ⟨_, rfl⟩
  refine ⟨payload, returned, (directNotification_bounded_iff demoIds _ payload returned).mpr ?_⟩
  decide +kernel

def tagAll : List Char := "<embed_mention>ALL::</embed_mention>".toList

def manyTags (count : Nat) : String :=
  String.ofList (List.replicate count tagAll).flatten

theorem embedMatch_tagAll (rest : List Char) :
    embedMatch (tagAll ++ rest) = some (⟨"ALL", "", ""⟩, rest) :=
  embedMatch_settled tagAll ⟨"ALL", "", ""⟩ [] rfl rest

theorem finditer_manyTags (count : Nat) :
    (finditer embedMatch (manyTags count).toList).1 =
      List.replicate count ⟨[], tagAll, ⟨"ALL", "", ""⟩⟩ := by
  have splits : Splits embedMatch (List.replicate count tagAll).flatten
      (List.replicate count ⟨[], tagAll, ⟨"ALL", "", ""⟩⟩) [] := by
    induction count with
    | zero =>
        refine .nothing [] ?_
        intro s nonempty suffix
        exact absurd (List.suffix_nil.mp suffix) nonempty
    | succ count ih =>
        rw [List.replicate_succ, List.replicate_succ, List.flatten_cons]
        refine .found [] tagAll _ _ _ _ (List.cons_ne_nil _ _) ?_ (embedMatch_tagAll _) ih
        intro s nonempty suffix
        exact absurd (List.suffix_nil.mp suffix) nonempty
  rw [manyTags, String.toList_ofList, finditer_eq_of_splits embedMatch_consumes splits]

theorem manyTags_length (count : Nat) : (manyTags count).length = count * 36 := by
  have width : tagAll.length = 36 := rfl
  rw [manyTags, String.length_ofList, List.length_flatten, List.map_replicate, List.sum_replicate,
    width, smul_eq_mul]

theorem bodyGrowth_manyTags (count : Nat) : bodyGrowth (manyTags count) = count * 11 := by
  have growth : tagGrowth ⟨[], tagAll, ⟨"ALL", "", ""⟩⟩ = 11 := by decide +kernel
  rw [bodyGrowth, finditer_manyTags, List.map_replicate, List.sum_replicate, growth, nsmul_eq_mul]

/-- A body of 113 tags has 4068 characters and is sent with 5311. -/
theorem manyTags_outgrow :
    ∃ payload, BotXAPIDirectNotificationRequestPayload.fromDomain demoIds
        (plainNotification (manyTags 113)) = .ok payload ∧
      ¬ payload.notification.body.length ≤ maxNotificationBodyLength := by
  have wellFormed : ∀ item ∈ (finditer embedMatch (manyTags 113).toList).1,
      item.value.WellFormed := by
    rw [finditer_manyTags]
    intro item member
    rw [List.eq_of_mem_replicate member]
    exact ⟨.all, rfl, Or.inl rfl⟩
  obtain ⟨newBody, mentions, replaced⟩ := (findAndReplace_returns_iff demoIds _).mpr wellFormed
  have short : ¬ (manyTags 113).length > maxNotificationBodyLength := by
    rw [manyTags_length]
    decide
  obtain ⟨payload, returned⟩ : ∃ payload, BotXAPIDirectNotificationRequestPayload.fromDomain
      demoIds (plainNotification (manyTags 113)) = .ok payload := by
    simp only [BotXAPIDirectNotificationRequestPayload.fromDomain, plainNotification,
      apiFileFromDomain, if_neg short, replaced]
    exact ⟨_, rfl⟩
  refine ⟨payload, returned, ?_⟩
  obtain ⟨_, sent⟩ := BotXAPIDirectNotificationRequestPayload.body_of_fromDomain returned
  have length : (payload.notification.body.length : Int) =
      (manyTags 113).length + bodyGrowth (manyTags 113) := findAndReplace_length sent
  rw [manyTags_length, bodyGrowth_manyTags] at length
  rw [maxNotificationBodyLength]
  omega

end Pybotx
