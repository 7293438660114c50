/-
Bodies whose embedded mentions can all be rewritten.

The expression takes any type and any run of hexadecimal digits and dashes; the builder
knows five types and needs an identifier for four of them.  A tag that it refuses does not
stay in the text: the whole rewriting raises.
-/

import Pybotx.Models.Message.MentionsSubstitution

set_option autoImplicit false

namespace Pybotx

open LazyPattern Rewriting

/-- The tag names one of the five types and, unless it mentions everyone, an identifier. -/
def MentionDict.WellFormed (mentionDict : MentionDict) : Prop :=
  ∃ mentionType, MentionTypes.ofValue mentionDict.mentionType = .ok mentionType ∧
    (mentionType = .all ∨ ∃ id, UUID.parse mentionDict.mentionedEntityId = some id)

/-- What a matched tag becomes: the placeholder of a mention, or it stays. -/
structure Rewrites (mentions : List BotXAPIMention) (item : Found Char MentionDict)
    (new : List Char) : Prop where
  replaced : item.value.WellFormed → ∃ mention ∈ mentions, new = placeholder mention
  kept : ¬ item.value.WellFormed → new = item.word

/-- The rewriting returns, and fresh identifiers change nothing but well formed tags. -/
def SafelyRewritten (body : String) : Prop :=
  ∀ ids, ∃ newBody mentions, findAndReplaceEmbedMentions ids body = .ok (newBody, mentions) ∧
    (FreshFor ids body → ∃ found tail news, Splits embedMatch body.toList found tail ∧
      List.Forall₂ (Rewrites mentions) found news ∧
      newBody.toList = (found.zip news).flatMap (fun pair => pair.1.gap ++ pair.2) ++ tail)

theorem entityUuid_returns_iff (text : String) :
    (∃ id, entityUuid text = .ok id) ↔ ∃ id, UUID.parse text = some id := by
  unfold entityUuid
  cases UUID.parse text with
  | none => simp
  | some id => simp

theorem buildBotxApiEmbedMention_returns_iff (mentionId : UUID) (mentionDict : MentionDict) :
    (∃ mention, buildBotxApiEmbedMention mentionId mentionDict = .ok mention) ↔
      mentionDict.WellFormed := by
  unfold buildBotxApiEmbedMention MentionDict.WellFormed
  simp only [Result.bind_eq_ok]
  cases known : MentionTypes.ofValue mentionDict.mentionType with
  | error exc => simp
  | ok mentionType =>
      have target := entityUuid_returns_iff mentionDict.mentionedEntityId
      cases mentionType with
      | all => simp [pure, Except.pure]
      | user | contact | chat | channel =>
          simp only [Except.ok.injEq, exists_eq_left', reduceCtorEq, false_or, ← target,
            Result.bind_eq_ok]
          constructor
          · intro built
            obtain ⟨_, id, parsed, _⟩ := built
            exact ⟨id, parsed⟩
          · intro parsed
            obtain ⟨id, parsed⟩ := parsed
            exact ⟨_, id, parsed, rfl⟩

theorem exists_builds_iff (ids : Nat → UUID) (k : Nat) (found : List (Found Char MentionDict)) :
    (∃ mentions, Builds ids k found mentions) ↔ ∀ item ∈ found, item.value.WellFormed := by
  induction found generalizing k with
  | nil =>
      constructor
      · intro _ item impossible
        cases impossible
      · intro _
        exact ⟨[], .nil k⟩
  | cons item more ih =>
      rw [List.forall_mem_cons, ← ih (k + 1), ← buildBotxApiEmbedMention_returns_iff (ids k)]
      constructor
      · intro builds
        obtain ⟨_, builds⟩ := builds
        cases builds with
        | cons _ _ mention _ mentions built later => exact ⟨⟨mention, built⟩, mentions, later⟩
      · intro builds
        obtain ⟨⟨mention, built⟩, mentions, later⟩ := builds
        exact ⟨mention :: mentions, .cons k item mention more mentions built later⟩

theorem findAndReplace_returns_iff (ids : Nat → UUID) (body : String) :
    (∃ newBody mentions, findAndReplaceEmbedMentions ids body = .ok (newBody, mentions)) ↔
      ∀ item ∈ (finditer embedMatch body.toList).1, item.value.WellFormed := by
  rw [← exists_builds_iff ids 0]
  simp only [findAndReplaceEmbedMentions_eq_ok_iff]
  constructor
  · intro returned
    obtain ⟨_, mentions, builds, _⟩ := returned
    exact ⟨mentions, builds⟩
  · intro built
    obtain ⟨mentions, builds⟩ := built
    exact ⟨_, mentions, builds, rfl⟩

private theorem rewrites_placeholders {found : List (Found Char MentionDict)}
    {mentions all : List BotXAPIMention} (paired : found.length = mentions.length)
    (among : ∀ mention ∈ mentions, mention ∈ all)
    (wellFormed : ∀ item ∈ found, item.value.WellFormed) :
    List.Forall₂ (Rewrites all) found (mentions.map placeholder) := by
  induction found generalizing mentions with
  | nil =>
      cases mentions with
      | nil => exact .nil
      | cons mention mentions => cases paired
  | cons item found ih =>
      cases mentions with
      | nil => cases paired
      | cons mention mentions =>
          obtain ⟨here, later⟩ := List.forall_mem_cons.mp wellFormed
          refine .cons ⟨?_, ?_⟩ (ih (Nat.succ.inj paired) ?_ later)
          · intro _
            exact ⟨mention, among mention List.mem_cons_self, rfl⟩
          · intro malformed
            exact absurd here malformed
          · intro other member
            exact among other (List.mem_cons_of_mem mention member)

/-- A body is rewritten safely exactly if every tag in it is well formed. -/
theorem safelyRewritten_iff (body : String) :
    SafelyRewritten body ↔
      ∀ item ∈ (finditer embedMatch body.toList).1, item.value.WellFormed := by
  constructor
  · intro safe
    obtain ⟨newBody, mentions, returned, _⟩ := safe demoIds
    exact (findAndReplace_returns_iff demoIds body).mp ⟨newBody, mentions, returned⟩
  · intro wellFormed ids
    obtain ⟨newBody, mentions, returned⟩ := (findAndReplace_returns_iff ids body).mpr wellFormed
    refine ⟨newBody, mentions, returned, ?_⟩
    intro fresh
    obtain ⟨builds, _⟩ :=
      (findAndReplaceEmbedMentions_eq_ok_iff ids body newBody mentions).mp returned
    have among : ∀ mention ∈ mentions, mention ∈ mentions := fun mention member => member
    refine ⟨_, _, mentions.map placeholder,
      finditer_splits embedMatch embedMatch_consumes body.toList,
      rewrites_placeholders builds.length_eq among wellFormed, ?_⟩
    rw [findAndReplace_rewritten fresh returned, List.zip_map_right, List.flatMap_map]
    rfl

/-- A tag of an unknown type ends the rewriting with an error. -/
theorem unknownTag_raises :
    findAndReplaceEmbedMentions demoIds "echo <embed_mention>FOO::</embed_mention>" =
        .error (.valueError "'FOO' is not a valid MentionTypes") ∧
      ¬ SafelyRewritten "echo <embed_mention>FOO::</embed_mention>" := by
  have raises : findAndReplaceEmbedMentions demoIds "echo <embed_mention>FOO::</embed_mention>" =
      .error (.valueError "'FOO' is not a valid MentionTypes") := rfl
  refine ⟨raises, ?_⟩
  intro safe
  obtain ⟨newBody, mentions, returned, _⟩ := safe demoIds
  rw [raises] at returned
  cases returned

end Pybotx
