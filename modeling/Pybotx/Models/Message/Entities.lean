/-
Entities of incoming messages: mentions, forwards and replies.
-/

import Pybotx.Models.Enums
import Pybotx.Models.Scalars

set_option autoImplicit false

namespace Pybotx

open Validator

structure Forward where
  chatId : UUID
  authorId : UUID
  syncId : UUID
  chatName : String
  forwardType : ChatTypes
  insertedAt : DateTime

structure Reply where
  authorId : UUID
  syncId : UUID
  body : String
  mentions : List Mention

inductive Entity where
  | mention (mention : Mention)
  | forward (forward : Forward)
  | reply (reply : Reply)

structure BotAPINestedPersonalMentionData where
  entityId : UUID
  name : String
  connType : String

structure BotAPINestedGroupMentionData where
  entityId : UUID
  name : String

inductive BotAPINestedMentionData where
  | personal (data : BotAPINestedPersonalMentionData)
  | group (data : BotAPINestedGroupMentionData)

namespace BotAPINestedMentionData

def entityId : BotAPINestedMentionData → UUID
  | personal data => data.entityId
  | group data => data.entityId

def name : BotAPINestedMentionData → String
  | personal data => data.name
  | group data => data.name

end BotAPINestedMentionData

structure BotAPIMentionData where
  mentionType : BotAPIMentionTypes
  mentionId : UUID
  mentionData : Option BotAPINestedMentionData

structure BotAPIForwardData where
  groupChatId : UUID
  senderHuid : UUID
  sourceSyncId : UUID
  sourceChatName : String
  forwardType : APIChatTypes
  sourceInsertedAt : DateTime

structure BotAPIReplyData where
  sourceSyncId : UUID
  sender : UUID
  body : String
  mentions : List BotAPIMentionData

inductive BotAPIEntity where
  | mention (data : BotAPIMentionData)
  | forward (data : BotAPIForwardData)
  | reply (data : BotAPIReplyData)

section

variable (scalars : Scalars)

/-- An object with both identifiers is read as personal data, which has more fields. -/
def BotAPINestedMentionData.check : Scalars.Check BotAPINestedMentionData :=
  union
    [model fun entries => (fun id name connType => .personal ⟨id, name, connType⟩) <$>
        required "user_huid" scalars.checkUuid entries <*> required "name" str entries <*>
        required "conn_type" str entries,
      model fun entries => (fun id name => .group ⟨id, name⟩) <$>
        required "group_chat_id" scalars.checkUuid entries <*> required "name" str entries]

/-- `validate_mention_data`: falsy data is no data. -/
def validateMentionData : Scalars.Check (Option BotAPINestedMentionData) := fun mentionData =>
  if mentionData.truthy then optional (BotAPINestedMentionData.check scalars) mentionData
  else .valid none

def BotAPIMentionData.check : Scalars.Check BotAPIMentionData :=
  model fun entries => BotAPIMentionData.mk <$>
    required "mention_type" (member BotAPIMentionTypes.members BotAPIMentionTypes.value) entries <*>
    required "mention_id" scalars.checkUuid entries <*>
    required "mention_data" (validateMentionData scalars) entries

def BotAPIForwardData.check : Scalars.Check BotAPIForwardData :=
  model fun entries => BotAPIForwardData.mk <$>
    required "group_chat_id" scalars.checkUuid entries <*>
    required "sender_huid" scalars.checkUuid entries <*>
    required "source_sync_id" scalars.checkUuid entries <*>
    required "source_chat_name" str entries <*>
    required "forward_type" (member APIChatTypes.members APIChatTypes.value) entries <*>
    required "source_inserted_at" scalars.checkDatetime entries

def BotAPIReplyData.check : Scalars.Check BotAPIReplyData :=
  model fun entries => BotAPIReplyData.mk <$>
    required "source_sync_id" scalars.checkUuid entries <*>
    required "sender" scalars.checkUuid entries <*>
    required "body" str entries <*>
    required "mentions" (list (BotAPIMentionData.check scalars)) entries

def BotAPIEntity.check : Scalars.Check BotAPIEntity :=
  union
    [model fun entries => (fun _ data => .mention data) <$>
        required "type" (literal "mention") entries <*>
        required "data" (BotAPIMentionData.check scalars) entries,
      model fun entries => (fun _ data => .forward data) <$>
        required "type" (literal "forward") entries <*>
        required "data" (BotAPIForwardData.check scalars) entries,
      model fun entries => (fun _ data => .reply data) <$>
        required "type" (literal "reply") entries <*>
        required "data" (BotAPIReplyData.check scalars) entries]

end

/-- `mention_data.entity_id` and `mention_data.name`; there may be no data. -/
def mentionTarget (mentionData : Option BotAPINestedMentionData) :
    Result (UUID × Option String) :=
  match mentionData with
  | some data => .ok (data.entityId, some data.name)
  | none => .error .attributeError

def convertBotApiMentionToDomain (apiMentionData : BotAPIMentionData) : Result Mention :=
  match apiMentionData.mentionType with
  | .user => do
      let (entityId, name) ← mentionTarget apiMentionData.mentionData
      return .user entityId name
  | .chat => do
      let (entityId, name) ← mentionTarget apiMentionData.mentionData
      return .chat entityId name
  | .contact => do
      let (entityId, name) ← mentionTarget apiMentionData.mentionData
      return .contact entityId name
  | .channel => do
      let (entityId, name) ← mentionTarget apiMentionData.mentionData
      return .channel entityId name
  | .all => return .all

def convertBotApiEntityToDomain (apiEntity : BotAPIEntity) : Result Entity :=
  match apiEntity with
  | .mention data => do
      let mention ← convertBotApiMentionToDomain data
      return .mention mention
  | .forward data =>
      return .forward ⟨data.groupChatId, data.senderHuid, data.sourceSyncId, data.sourceChatName,
        data.forwardType.toDomain, data.sourceInsertedAt⟩
  | .reply data => do
      let mentions ← data.mentions.mapM convertBotApiMentionToDomain
      return .reply ⟨data.sender, data.sourceSyncId, data.body, mentions⟩

/-- A mention converts exactly if it has a target or mentions everyone. -/
theorem convertBotApiMentionToDomain_ok_iff (data : BotAPIMentionData) :
    (∃ mention, convertBotApiMentionToDomain data = .ok mention) ↔
      data.mentionType = .all ∨ data.mentionData.isSome = true := by
  unfold convertBotApiMentionToDomain
  cases data.mentionType with
  | all =>
      constructor
      · intro _
        exact Or.inl rfl
      · intro _
        exact ⟨.all, rfl⟩
  | user | chat | contact | channel =>
      cases data.mentionData with
      | none =>
          constructor
          · rintro ⟨mention, impossible⟩
            cases impossible
          · rintro (impossible | impossible)
            · cases impossible
            · cases impossible
      | some target =>
          constructor
          · intro _
            exact Or.inr rfl
          · intro _
            exact ⟨_, rfl⟩

end Pybotx
