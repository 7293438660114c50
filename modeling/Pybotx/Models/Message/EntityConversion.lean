/-
Which entities convert to the domain.

Validation turns empty mention data into no data whatever the type of the mention is; the
conversion reads it for every type but one.
-/

import Pybotx.Foundation.Returning
import Pybotx.Models.Message.IncomingMessage
import Pybotx.Models.SystemEvents

set_option autoImplicit false

namespace Pybotx

open Validator Returning

def BotAPIMentionData.Targeted (data : BotAPIMentionData) : Prop :=
  data.mentionType = .all ∨ data.mentionData.isSome = true

namespace BotAPIEntity

def mentions : BotAPIEntity → List BotAPIMentionData
  | mention data => [data]
  | forward _ => []
  | reply data => data.mentions

def Targeted (entity : BotAPIEntity) : Prop :=
  ∀ data ∈ entity.mentions, data.Targeted

end BotAPIEntity

/-- The data is missing after validation exactly if it was empty before. -/
theorem validateMentionData_isSome_iff (scalars : Scalars) (raw : Json)
    (mentionData : Option BotAPINestedMentionData)
    (checked : validateMentionData scalars raw = .valid mentionData) :
    mentionData.isSome = true ↔ raw.truthy = true := by
  unfold validateMentionData at checked
  by_cases filled : raw.truthy = true
  · rw [if_pos filled] at checked
    rcases (optional_eq_valid_iff _ _ _).mp checked with ⟨null, _⟩ | ⟨_, data, _, present⟩
    · rw [null] at filled
      cases filled
    · rw [present]
      simp [filled]
  · rw [if_neg filled] at checked
    cases checked
    simp [filled]

/-- A mention that lies in a raw entity: its data, or an item of the mentions of a reply. -/
inductive RawMention (raw : Json) : Json → Prop where
  | own {data : Json} (type : raw.atPath ["type"] = some (.str "mention"))
      (given : raw.atPath ["data"] = some data) : RawMention raw data
  | nested {items : List Json} {data : Json} (type : raw.atPath ["type"] = some (.str "reply"))
      (given : raw.atPath ["data", "mentions"] = some (.arr items)) (member : data ∈ items) :
      RawMention raw data

/-- The raw mention has data that is not empty, or it mentions everyone. -/
def RawTargeted (data : Json) : Prop :=
  data.atPath ["mention_type"] = some (.str "all") ∨
    ∃ mentionData, data.atPath ["mention_data"] = some mentionData ∧ mentionData.truthy = true

theorem targeted_iff_raw (scalars : Scalars) (raw : Json) (data : BotAPIMentionData)
    (checked : BotAPIMentionData.check scalars raw = .valid data) :
    data.Targeted ↔ RawTargeted raw := by
  obtain ⟨entries, same, accepted⟩ := (model_eq_valid_iff _ _ _).mp checked
  simp only [Validated.seq_eq_valid_iff, Validated.map_eq_valid_iff,
    required_eq_valid_iff] at accepted
  obtain ⟨_, mentionData, ⟨_, mentionId, ⟨mentionType, ⟨rawType, typeGiven, typeRead⟩, rfl⟩,
    _, rfl⟩, ⟨rawData, dataGiven, dataRead⟩, built⟩ := accepted
  have named := eq_name_of_member typeRead
  have filled := validateMentionData_isSome_iff scalars rawData mentionData dataRead
  unfold BotAPIMentionData.Targeted RawTargeted
  simp only [← built, same, Json.atPath, typeGiven, dataGiven, named, Option.bind_some, filled,
    Option.some.injEq, Json.str.injEq, exists_eq_left']
  apply or_congr_left
  cases mentionType <;> decide

private theorem typed_valid {Data : Type} {kind : String} {check : Scalars.Check Data}
    {build : Data → BotAPIEntity} {raw : Json} {entity : BotAPIEntity}
    (checked : model (fun entries => (fun _ data => build data) <$>
      required "type" (literal kind) entries <*> required "data" check entries) raw =
        .valid entity) :
    ∃ rawData data, raw.atPath ["type"] = some (.str kind) ∧
      raw.atPath ["data"] = some rawData ∧ check rawData = .valid data ∧ build data = entity := by
  obtain ⟨entries, same, accepted⟩ := (model_eq_valid_iff _ _ _).mp checked
  simp only [Validated.seq_eq_valid_iff, Validated.map_eq_valid_iff,
    required_eq_valid_iff] at accepted
  obtain ⟨_, data, ⟨_, ⟨rawType, typeGiven, typeRead⟩, rfl⟩, ⟨rawData, dataGiven, dataRead⟩,
    built⟩ := accepted
  rw [(literal_eq_valid_iff _ _).mp typeRead] at typeGiven
  refine ⟨rawData, data, ?_, ?_, dataRead, built⟩
  · simp [same, Json.atPath, typeGiven]
  · simp [same, Json.atPath, dataGiven]

private theorem atPath_data {raw rawData : Json} (given : raw.atPath ["data"] = some rawData)
    (path : List String) : raw.atPath ("data" :: path) = rawData.atPath path := by
  cases raw with
  | obj entries =>
      cases found : Dict.get "data" entries with
      | none => simp [Json.atPath, found] at given
      | some value =>
          have same : value = rawData := by simpa [Json.atPath, found] using given
          simp [Json.atPath, found, same]
  | _ => cases given

private theorem replyMentions_valid {scalars : Scalars} {rawData : Json} {data : BotAPIReplyData}
    (checked : BotAPIReplyData.check scalars rawData = .valid data) :
    ∃ items, rawData.atPath ["mentions"] = some (.arr items) ∧
      List.Forall₂ (fun raw nested => BotAPIMentionData.check scalars raw = .valid nested)
        items data.mentions := by
  obtain ⟨entries, same, accepted⟩ := (model_eq_valid_iff _ _ _).mp checked
  simp only [Validated.seq_eq_valid_iff, Validated.map_eq_valid_iff,
    required_eq_valid_iff] at accepted
  obtain ⟨_, mentions, ⟨_, _, ⟨_, _, ⟨_, _, rfl⟩, _, rfl⟩, _, rfl⟩, ⟨rawMentions, given, read⟩,
    rfl⟩ := accepted
  obtain ⟨items, listed, nested⟩ := (list_eq_valid_iff _ _ _).mp read
  refine ⟨items, ?_, ?_⟩
  · simp [same, Json.atPath, given, listed]
  · exact nested

private theorem type_unique {raw : Json} {first second : String}
    (here : raw.atPath ["type"] = some (.str first))
    (there : raw.atPath ["type"] = some (.str second)) : first = second := by
  rw [here] at there
  exact Json.str.inj (Option.some.inj there)

private theorem forall_mem_iff_of_forall₂ {α β : Type} {related : α → β → Prop} {p : α → Prop}
    {q : β → Prop} (agree : ∀ first second, related first second → (q second ↔ p first))
    {xs : List α} {ys : List β} (pairs : List.Forall₂ related xs ys) :
    (∀ y ∈ ys, q y) ↔ ∀ x ∈ xs, p x := by
  induction pairs with
  | nil => simp
  | cons here _ ih => rw [List.forall_mem_cons, List.forall_mem_cons, agree _ _ here, ih]

/-- Whether every mention has a target can be seen from the raw entity. -/
theorem BotAPIEntity.targeted_iff_raw (scalars : Scalars) (raw : Json) (entity : BotAPIEntity)
    (checked : BotAPIEntity.check scalars raw = .valid entity) :
    entity.Targeted ↔ ∀ data, RawMention raw data → RawTargeted data := by
  obtain ⟨alternative, member, taken⟩ := exists_of_union checked
  simp only [List.mem_cons, List.not_mem_nil, or_false] at member
  rcases member with isMention | isForward | isReply
  · rw [isMention] at taken
    obtain ⟨rawData, data, type, given, read, rfl⟩ := typed_valid taken
    unfold Targeted mentions
    rw [List.forall_mem_singleton, Pybotx.targeted_iff_raw scalars rawData data read]
    constructor
    · intro targeted other lies
      cases lies with
      | own _ otherGiven =>
          rw [given] at otherGiven
          cases otherGiven
          exact targeted
      | nested otherType _ _ => exact absurd (type_unique type otherType) (by decide)
    · intro all
      exact all rawData (.own type given)
  · rw [isForward] at taken
    obtain ⟨rawData, data, type, given, read, rfl⟩ := typed_valid taken
    constructor
    · intro _ other lies
      cases lies with
      | own otherType _ => exact absurd (type_unique type otherType) (by decide)
      | nested otherType _ _ => exact absurd (type_unique type otherType) (by decide)
    · intro _ nested impossible
      cases impossible
  · rw [isReply] at taken
    obtain ⟨rawData, data, type, given, read, rfl⟩ := typed_valid taken
    obtain ⟨items, listed, nested⟩ := replyMentions_valid read
    have path : raw.atPath ["data", "mentions"] = some (.arr items) :=
      (atPath_data given ["mentions"]).trans listed
    have agree : (BotAPIEntity.reply data).Targeted ↔ ∀ item ∈ items, RawTargeted item :=
      forall_mem_iff_of_forall₂ (Pybotx.targeted_iff_raw scalars) nested
    rw [agree]
    constructor
    · intro targeted other lies
      cases lies with
      | own otherType _ => exact absurd (type_unique type otherType) (by decide)
      | nested _ otherListed member =>
          rw [path] at otherListed
          cases otherListed
          exact targeted other member
    · intro all item member
      exact all item (.nested type path member)

/-! ### What converts -/

theorem convertBotApiEntityToDomain_returns_iff (entity : BotAPIEntity) :
    Returns (convertBotApiEntityToDomain entity) ↔ entity.Targeted := by
  cases entity with
  | mention data =>
      unfold convertBotApiEntityToDomain BotAPIEntity.Targeted
      rw [returns_bind_iff_of_next _ _ (fun _ => returns_pure _), BotAPIEntity.mentions,
        List.forall_mem_singleton]
      exact convertBotApiMentionToDomain_ok_iff data
  | forward data =>
      unfold convertBotApiEntityToDomain BotAPIEntity.Targeted
      constructor
      · intro _ data impossible
        cases impossible
      · intro _
        exact returns_pure _
  | reply data =>
      unfold convertBotApiEntityToDomain BotAPIEntity.Targeted
      rw [returns_bind_iff_of_next _ _ (fun _ => returns_pure _), returns_mapM_iff]
      exact forall₂_congr fun nested _ => convertBotApiMentionToDomain_ok_iff nested

def Item.Passes : Item BotAPIEntity → Prop
  | .known entity => entity.Targeted
  | .unknown _ => True

theorem addEntity_returns_iff (found : FoundEntities) (item : Item BotAPIEntity) :
    Returns (addEntity found item) ↔ item.Passes := by
  cases item with
  | unknown raw =>
      constructor
      · intro _
        trivial
      · intro _
        exact ⟨found, rfl⟩
  | known entity =>
      unfold addEntity
      rw [returns_bind_iff_of_next, convertBotApiEntityToDomain_returns_iff]
      · rfl
      · intro converted
        cases converted with
        | mention mention => exact returns_pure _
        | forward forward => exact returns_pure _
        | reply reply => exact returns_pure _

/-- A message converts exactly if its first attachment and all its known entities do. -/
theorem BotAPIIncomingMessage.toDomain_returns_iff (message : BotAPIIncomingMessage)
    (rawCommand : List (String × Json)) :
    Returns (message.toDomain rawCommand) ↔
      Returns (firstAttachment message.attachments message.payload.body) ∧
        ∀ item ∈ message.entities, item.Passes := by
  have entities := returns_foldlM_iff addEntity Item.Passes addEntity_returns_iff
    message.entities ⟨[], none, none⟩
  unfold toDomain
  rw [returns_bind_iff, ← entities]
  simp only [returns_bind_iff_of_next _ _ (fun _ => returns_pure _)]
  exact exists_and_right

/-- An edit converts exactly if all its attachments and entities do. -/
theorem BotAPIEventEdit.toDomain_returns_iff (event : BotAPIEventEdit)
    (rawCommand : List (String × Json)) :
    Returns (event.toDomain rawCommand) ↔
      (∀ attachment ∈ event.attachments, Returns (convertApiAttachmentToDomain attachment
        BotAPISystemEventTypes.eventEdit.value)) ∧
        ∀ entity ∈ event.entities, entity.Targeted := by
  have entities : Returns (event.entities.mapM convertBotApiEntityToDomain) ↔
      ∀ entity ∈ event.entities, entity.Targeted := by
    rw [returns_mapM_iff]
    exact forall₂_congr fun entity _ => convertBotApiEntityToDomain_returns_iff entity
  unfold toDomain
  rw [returns_bind_iff, ← entities, ← returns_mapM_iff]
  simp only [returns_bind_iff_of_next _ _ (fun _ => returns_pure _)]
  exact exists_and_right

/-- The entity converts, and no message or edit that converts without it fails with it. -/
structure ConvertsEverywhere (entity : BotAPIEntity) : Prop where
  converts : Returns (convertBotApiEntityToDomain entity)
  inMessage : ∀ (message : BotAPIIncomingMessage) (before after : List (Item BotAPIEntity))
    (rawCommand : List (String × Json)),
    Returns ({ message with entities := before ++ after }.toDomain rawCommand) →
      Returns ({ message with entities := before ++ Item.known entity :: after }.toDomain rawCommand)
  inEdit : ∀ (event : BotAPIEventEdit) (before after : List BotAPIEntity)
    (rawCommand : List (String × Json)),
    Returns ({ event with entities := before ++ after }.toDomain rawCommand) →
      Returns ({ event with entities := before ++ entity :: after }.toDomain rawCommand)

/-- An entity converts wherever it stands exactly if its mentions have targets. -/
theorem convertsEverywhere_iff_targeted (entity : BotAPIEntity) :
    ConvertsEverywhere entity ↔ entity.Targeted := by
  constructor
  · intro everywhere
    exact (convertBotApiEntityToDomain_returns_iff entity).mp everywhere.converts
  · intro targeted
    refine ⟨(convertBotApiEntityToDomain_returns_iff entity).mpr targeted, ?_, ?_⟩
    · intro message before after rawCommand returned
      obtain ⟨attachment, others⟩ :=
        (BotAPIIncomingMessage.toDomain_returns_iff _ rawCommand).mp returned
      apply (BotAPIIncomingMessage.toDomain_returns_iff _ rawCommand).mpr
      refine ⟨attachment, ?_⟩
      intro item member
      rcases List.mem_append.mp member with early | late
      · exact others item (List.mem_append_left after early)
      · rcases List.mem_cons.mp late with here | later
        · rw [here]
          exact targeted
        · exact others item (List.mem_append_right before later)
    · intro event before after rawCommand returned
      obtain ⟨attachments, others⟩ :=
        (BotAPIEventEdit.toDomain_returns_iff _ rawCommand).mp returned
      apply (BotAPIEventEdit.toDomain_returns_iff _ rawCommand).mpr
      refine ⟨attachments, ?_⟩
      intro other member
      rcases List.mem_append.mp member with early | late
      · exact others other (List.mem_append_left after early)
      · rcases List.mem_cons.mp late with here | later
        · rw [here]
          exact targeted
        · exact others other (List.mem_append_right before later)

/-- An entity that validates converts exactly if every mention in it has data that is not
empty or mentions everyone. -/
theorem validEntity_converts_iff (scalars : Scalars) (raw : Json) (entity : BotAPIEntity)
    (validated : BotAPIEntity.check scalars raw = .valid entity) :
    ConvertsEverywhere entity ↔ ∀ data, RawMention raw data → RawTargeted data := by
  rw [convertsEverywhere_iff_targeted]
  exact entity.targeted_iff_raw scalars raw validated

def demoMention (mentionType : String) : Json :=
  .obj [("type", .str "mention"),
    ("data", .obj [("mention_type", .str mentionType),
      ("mention_id", .str "054af49e-5e18-4dca-ad73-4f96b6de63fa"), ("mention_data", .null)])]

def demoMentionAll : BotAPIEntity :=
  .mention ⟨.all, ⟨⟨0x054af49e5e184dcaad734f96b6de63fa, by decide⟩⟩, none⟩

theorem validEntity_converts_iff_demo :
    ConvertsEverywhere demoMentionAll ↔
      ∀ data, RawMention (demoMention "all") data → RawTargeted data :=
  validEntity_converts_iff .strict (demoMention "all") demoMentionAll rfl

/-- A mention of a user without data is accepted, and its conversion raises. -/
theorem userWithoutData_fails :
    ∃ entity, BotAPIEntity.check .strict (demoMention "user") = .valid entity ∧
      convertBotApiEntityToDomain entity = .error .attributeError ∧
      ¬ ConvertsEverywhere entity := by
  refine ⟨_, rfl, rfl, ?_⟩
  intro everywhere
  obtain ⟨domain, impossible⟩ := everywhere.converts
  cases impossible

end Pybotx
