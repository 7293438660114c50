/-
System events: fifteen models that differ in their data, each with its conversion.

A payload is an object with a literal `command_type`, a literal `body` and the data of the
event; only the data is kept.
-/

import Pybotx.Models.Files
import Pybotx.Models.Message.IncomingMessage

set_option autoImplicit false

namespace Pybotx

open Validator

structure SmartAppEvent extends BotCommandBase where
  ref : Option UUID
  smartappId : UUID
  data : List (String × Json)
  opts : Option (List (String × Json))
  smartappApiVersion : Option Int
  files : List File
  chat : Chat
  sender : UserSender

structure BotSender where
  huid : UUID
  isChatAdmin : Option Bool
  isChatCreator : Option Bool

structure InternalBotNotificationEvent extends BotCommandBase where
  data : List (String × Json)
  opts : List (String × Json)
  chat : Chat
  sender : BotSender

structure ChatCreatedMember where
  isAdmin : Bool
  huid : UUID
  username : Option String
  kind : UserKinds

structure ChatCreatedEvent extends BotCommandBase where
  chat : Chat
  syncId : UUID
  chatName : String
  creatorId : UUID
  members : List ChatCreatedMember

structure ChatDeletedByUserEvent extends BotCommandBase where
  syncId : UUID
  chatId : UUID
  huid : UUID

structure AddedToChatEvent extends BotCommandBase where
  huids : List UUID
  chat : Chat

structure DeletedFromChatEvent extends BotCommandBase where
  huids : List UUID
  chat : Chat

structure LeftFromChatEvent extends BotCommandBase where
  huids : List UUID
  chat : Chat

structure CTSLoginEvent extends BotCommandBase where
  huid : UUID

structure CTSLogoutEvent extends BotCommandBase where
  huid : UUID

structure EventDeleted extends BotCommandBase where
  deletedAt : DateTime
  groupChatId : UUID
  syncIds : List UUID
  metaData : Option (List (String × Json))

structure EventEdit extends BotCommandBase where
  body : Option String
  syncId : UUID
  chatId : UUID
  huid : UUID
  attachments : List IncomingAttachment
  entities : List Entity

structure JoinToChatEvent extends BotCommandBase where
  huids : List UUID
  chat : Chat

structure ConferenceChangedEvent extends BotCommandBase where
  accessCode : Option String
  actor : Option UUID
  addedUsers : List UUID
  admins : List UUID
  callId : UUID
  deletedUsers : List UUID
  endAt : Option DateTime
  link : String
  linkId : UUID
  linkType : ConferenceLinkTypes
  members : List UUID
  name : String
  operation : String
  sipNumber : Option Int
  startAt : DateTime

structure ConferenceCreatedEvent extends BotCommandBase where
  callId : UUID

structure ConferenceDeletedEvent extends BotCommandBase where
  callId : UUID

inductive SystemEvent where
  | smartApp (event : SmartAppEvent)
  | internalBotNotification (event : InternalBotNotificationEvent)
  | chatCreated (event : ChatCreatedEvent)
  | chatDeletedByUser (event : ChatDeletedByUserEvent)
  | addedToChat (event : AddedToChatEvent)
  | deletedFromChat (event : DeletedFromChatEvent)
  | leftFromChat (event : LeftFromChatEvent)
  | ctsLogin (event : CTSLoginEvent)
  | ctsLogout (event : CTSLogoutEvent)
  | eventDeleted (event : EventDeleted)
  | eventEdit (event : EventEdit)
  | joinToChat (event : JoinToChatEvent)
  | conferenceChanged (event : ConferenceChangedEvent)
  | conferenceCreated (event : ConferenceCreatedEvent)
  | conferenceDeleted (event : ConferenceDeletedEvent)

/-- The classes that `type(bot_command)` can be. -/
inductive SystemEventClass where
  | smartAppEvent
  | internalBotNotificationEvent
  | chatCreatedEvent
  | chatDeletedByUserEvent
  | addedToChatEvent
  | deletedFromChatEvent
  | leftFromChatEvent
  | ctsLoginEvent
  | ctsLogoutEvent
  | eventDeleted
  | eventEdit
  | joinToChatEvent
  | conferenceChangedEvent
  | conferenceCreatedEvent
  | conferenceDeletedEvent
  deriving DecidableEq, Repr

namespace SystemEvent

def type : SystemEvent → SystemEventClass
  | smartApp _ => .smartAppEvent
  | internalBotNotification _ => .internalBotNotificationEvent
  | chatCreated _ => .chatCreatedEvent
  | chatDeletedByUser _ => .chatDeletedByUserEvent
  | addedToChat _ => .addedToChatEvent
  | deletedFromChat _ => .deletedFromChatEvent
  | leftFromChat _ => .leftFromChatEvent
  | ctsLogin _ => .ctsLoginEvent
  | ctsLogout _ => .ctsLogoutEvent
  | eventDeleted _ => .eventDeleted
  | eventEdit _ => .eventEdit
  | joinToChat _ => .joinToChatEvent
  | conferenceChanged _ => .conferenceChangedEvent
  | conferenceCreated _ => .conferenceCreatedEvent
  | conferenceDeleted _ => .conferenceDeletedEvent

def base : SystemEvent → BotCommandBase
  | smartApp event => event.toBotCommandBase
  | internalBotNotification event => event.toBotCommandBase
  | chatCreated event => event.toBotCommandBase
  | chatDeletedByUser event => event.toBotCommandBase
  | addedToChat event => event.toBotCommandBase
  | deletedFromChat event => event.toBotCommandBase
  | leftFromChat event => event.toBotCommandBase
  | ctsLogin event => event.toBotCommandBase
  | ctsLogout event => event.toBotCommandBase
  | eventDeleted event => event.toBotCommandBase
  | eventEdit event => event.toBotCommandBase
  | joinToChat event => event.toBotCommandBase
  | conferenceChanged event => event.toBotCommandBase
  | conferenceCreated event => event.toBotCommandBase
  | conferenceDeleted event => event.toBotCommandBase

end SystemEvent

def SystemEventClass.eventType : SystemEventClass → BotAPISystemEventTypes
  | smartAppEvent => .smartappEvent
  | internalBotNotificationEvent => .internalBotNotification
  | chatCreatedEvent => .chatCreated
  | chatDeletedByUserEvent => .chatDeletedByUser
  | addedToChatEvent => .addedToChat
  | deletedFromChatEvent => .deletedFromChat
  | leftFromChatEvent => .leftFromChat
  | ctsLoginEvent => .ctsLogin
  | ctsLogoutEvent => .ctsLogout
  | eventDeleted => .eventDeleted
  | eventEdit => .eventEdit
  | joinToChatEvent => .joinToChat
  | conferenceChangedEvent => .conferenceChanged
  | conferenceCreatedEvent => .conferenceCreated
  | conferenceDeletedEvent => .conferenceDeleted

structure BotAPISmartAppData where
  ref : UUID
  smartappId : UUID
  data : List (String × Json)
  opts : List (String × Json)
  smartappApiVersion : Int

structure BotAPIInternalBotNotificationData where
  data : List (String × Json)
  opts : List (String × Json)

structure BotAPIChatMember where
  isAdmin : Bool
  huid : UUID
  name : Option String
  userKind : APIUserKinds

structure BotAPIChatCreatedData where
  chatType : APIChatTypes
  creator : UUID
  groupChatId : UUID
  members : List BotAPIChatMember
  name : String

structure BotAPIChatDeletedByUserData where
  userHuid : UUID
  groupChatId : UUID

structure BotAPIEventDeletedData where
  deletedAt : DateTime
  groupChatId : UUID
  syncIds : List UUID
  metaData : Option (List (String × Json))

structure BotAPIEventEditData where
  body : Option String

structure BotAPIConferenceChangedData where
  accessCode : Option String
  actor : Option UUID
  addedUsers : List UUID
  admins : List UUID
  callId : UUID
  deletedUsers : List UUID
  endAt : Option DateTime
  link : String
  linkId : UUID
  linkType : BotAPIConferenceLinkTypes
  members : List UUID
  name : String
  operation : String
  sipNumber : Option Int
  startAt : DateTime

/-! ### The API models -/

/-- A command with the data of its payload and the context of its sender. -/
structure BotAPIEvent (Data Sender : Type) extends BotAPIBaseCommand where
  data : Data
  sender : Sender

abbrev BotAPIInternalBotNotification :=
  BotAPIEvent BotAPIInternalBotNotificationData BotAPIUserChatContext

abbrev BotAPIChatCreated := BotAPIEvent BotAPIChatCreatedData BotAPIChatContext

abbrev BotAPIChatDeletedByUser := BotAPIEvent BotAPIChatDeletedByUserData BaseBotAPIContext

abbrev BotAPIAddedToChat := BotAPIEvent (List UUID) BotAPIChatContext

abbrev BotAPIDeletedFromChat := BotAPIEvent (List UUID) BotAPIChatContext

abbrev BotAPILeftFromChat := BotAPIEvent (List UUID) BotAPIChatContext

abbrev BotAPICTSLogin := BotAPIEvent UUID BaseBotAPIContext

abbrev BotAPICTSLogout := BotAPIEvent UUID BaseBotAPIContext

abbrev BotAPIEventDeleted := BotAPIEvent BotAPIEventDeletedData BaseBotAPIContext

abbrev BotAPIJoinToChat := BotAPIEvent (List UUID) BotAPIChatContext

abbrev BotAPIConferenceChanged := BotAPIEvent BotAPIConferenceChangedData BaseBotAPIContext

abbrev BotAPIConferenceCreated := BotAPIEvent UUID BaseBotAPIContext

abbrev BotAPIConferenceDeleted := BotAPIEvent UUID BaseBotAPIContext

structure BotAPISmartAppEvent extends BotAPIEvent BotAPISmartAppData BotAPIFullContext where
  asyncFiles : List APIAsyncFile

/-- `BotAPIBotContext` of the edit event: a user and a chat without its type. -/
structure BotAPIEventEditContext extends BotAPIUserContext where
  groupChatId : UUID

structure BotAPIEventEdit extends BotAPIEvent BotAPIEventEditData BotAPIEventEditContext where
  attachments : List BotAPIAttachment
  entities : List BotAPIEntity

section

variable (scalars : Scalars)

/-- A payload that inherits from `BotAPIBaseSystemEventPayload`. -/
def systemPayload {Data : Type} (eventType : BotAPISystemEventTypes)
    (data : Scalars.Check Data) : Scalars.Check Data :=
  model fun entries => (fun _ _ data => data) <$>
    required "command_type" (literal commandTypeSystem) entries <*>
    required "body" (findUnknownSystemEvent eventType) entries <*>
    required "data" data entries

def apiEvent {Data Sender : Type} (payload : Scalars.Check Data)
    (sender : Scalars.Check Sender) : Scalars.Check (BotAPIEvent Data Sender) :=
  model fun entries => BotAPIEvent.mk <$> BotAPIBaseCommand.fields scalars entries <*>
    required "command" payload entries <*> required "from" sender entries

def dataField {Data : Type} (key : String) (inner : Scalars.Check Data) : Scalars.Check Data :=
  model fun entries => required key inner entries

/-- The payload does not inherit: an unknown body is invalid and raises nothing. -/
def BotAPISmartAppPayload.check : Scalars.Check BotAPISmartAppData :=
  model fun entries => (fun _ _ data _ => data) <$>
    required "body" (literal BotAPISystemEventTypes.smartappEvent.value) entries <*>
    required "command_type" (literal commandTypeSystem) entries <*>
    required "data" (model fun data => BotAPISmartAppData.mk <$>
      required "ref" scalars.checkUuid data <*> required "smartapp_id" scalars.checkUuid data <*>
      required "data" dict data <*> required "opts" dict data <*>
      required "smartapp_api_version" scalars.checkInt data) entries <*>
    required "metadata" dict entries

def BotAPISmartAppEvent.check : Scalars.Check BotAPISmartAppEvent :=
  model fun entries =>
    (fun base data sender asyncFiles => ⟨⟨base, data, sender⟩, asyncFiles⟩) <$>
    BotAPIBaseCommand.fields scalars entries <*>
    required "command" (BotAPISmartAppPayload.check scalars) entries <*>
    required "from" (BotAPIFullContext.check scalars) entries <*>
    required "async_files" (list (APIAsyncFile.check scalars)) entries

def BotAPIInternalBotNotification.check : Scalars.Check BotAPIInternalBotNotification :=
  apiEvent scalars
    (systemPayload .internalBotNotification (model fun data =>
      BotAPIInternalBotNotificationData.mk <$> required "data" dict data <*>
        required "opts" dict data))
    (BotAPIUserChatContext.check scalars)

def BotAPIChatMember.check : Scalars.Check BotAPIChatMember :=
  model fun entries => BotAPIChatMember.mk <$> required "admin" scalars.checkBool entries <*>
    required "huid" scalars.checkUuid entries <*> required "name" (optional str) entries <*>
    required "user_kind" (member APIUserKinds.members APIUserKinds.value) entries

def BotAPIChatCreated.check : Scalars.Check BotAPIChatCreated :=
  apiEvent scalars
    (systemPayload .chatCreated (model fun data => BotAPIChatCreatedData.mk <$>
      required "chat_type" (member APIChatTypes.members APIChatTypes.value) data <*>
      required "creator" scalars.checkUuid data <*>
      required "group_chat_id" scalars.checkUuid data <*>
      required "members" (list (BotAPIChatMember.check scalars)) data <*>
      required "name" str data))
    (BotAPIChatContext.check scalars)

def BotAPIChatDeletedByUser.check : Scalars.Check BotAPIChatDeletedByUser :=
  apiEvent scalars
    (systemPayload .chatDeletedByUser (model fun data => BotAPIChatDeletedByUserData.mk <$>
      required "user_huid" scalars.checkUuid data <*>
      required "group_chat_id" scalars.checkUuid data))
    BaseBotAPIContext.check

def BotAPIAddedToChat.check : Scalars.Check BotAPIAddedToChat :=
  apiEvent scalars
    (systemPayload .addedToChat (dataField "added_members" (list scalars.checkUuid)))
    (BotAPIChatContext.check scalars)

/-- The payload does not inherit from `BotAPIBaseSystemEventPayload` either. -/
def BotAPIDeletedFromChat.check : Scalars.Check BotAPIDeletedFromChat :=
  apiEvent scalars
    (model fun entries => (fun _ _ data => data) <$>
      required "body" (literal BotAPISystemEventTypes.deletedFromChat.value) entries <*>
      required "command_type" (literal commandTypeSystem) entries <*>
      required "data" (dataField "deleted_members" (list scalars.checkUuid)) entries)
    (BotAPIChatContext.check scalars)

def BotAPILeftFromChat.check : Scalars.Check BotAPILeftFromChat :=
  apiEvent scalars
    (systemPayload .leftFromChat (dataField "left_members" (list scalars.checkUuid)))
    (BotAPIChatContext.check scalars)

def BotAPICTSLogin.check : Scalars.Check BotAPICTSLogin :=
  apiEvent scalars (systemPayload .ctsLogin (dataField "user_huid" scalars.checkUuid))
    BaseBotAPIContext.check

def BotAPICTSLogout.check : Scalars.Check BotAPICTSLogout :=
  apiEvent scalars (systemPayload .ctsLogout (dataField "user_huid" scalars.checkUuid))
    BaseBotAPIContext.check

def BotAPIEventDeleted.check : Scalars.Check BotAPIEventDeleted :=
  apiEvent scalars
    (systemPayload .eventDeleted (model fun data => BotAPIEventDeletedData.mk <$>
      required "deleted_at" scalars.checkDatetime data <*>
      required "group_chat_id" scalars.checkUuid data <*>
      required "sync_ids" (list scalars.checkUuid) data <*>
      required "meta" (optional dict) data))
    BaseBotAPIContext.check

def BotAPIEventEdit.check : Scalars.Check BotAPIEventEdit :=
  model fun entries =>
    (fun base data sender attachments entities => ⟨⟨base, data, sender⟩, attachments, entities⟩) <$>
    BotAPIBaseCommand.fields scalars entries <*>
    required "command" (systemPayload .eventEdit (model fun data => BotAPIEventEditData.mk <$>
      required "body" (optional str) data)) entries <*>
    required "from" (model fun context => BotAPIEventEditContext.mk <$>
      BotAPIUserContext.fields scalars context <*>
      required "group_chat_id" scalars.checkUuid context) entries <*>
    required "attachments" (list (BotAPIAttachment.check scalars)) entries <*>
    required "entities" (list (BotAPIEntity.check scalars)) entries

/-- With `populate_by_name` a field may also be given under its own name. -/
def requiredByName {α : Type} (key name : String) (inner : Scalars.Check α)
    (entries : List (String × Json)) : Validated PyError α :=
  match Dict.get key entries with
  | some value => inner value
  | none => required name inner entries

def BotAPIJoinToChat.check : Scalars.Check BotAPIJoinToChat :=
  model fun entries => BotAPIEvent.mk <$> BotAPIBaseCommand.fields scalars entries <*>
    requiredByName "command" "payload"
      (systemPayload .joinToChat (dataField "added_members" (list scalars.checkUuid))) entries <*>
    requiredByName "from" "sender" (BotAPIChatContext.check scalars) entries

def BotAPIConferenceChanged.check : Scalars.Check BotAPIConferenceChanged :=
  apiEvent scalars
    (systemPayload .conferenceChanged (model fun data => BotAPIConferenceChangedData.mk <$>
      required "access_code" (optional str) data <*>
      required "actor" (optional scalars.checkUuid) data <*>
      required "added_users" (list scalars.checkUuid) data <*>
      required "admins" (list scalars.checkUuid) data <*>
      required "call_id" scalars.checkUuid data <*>
      required "deleted_users" (list scalars.checkUuid) data <*>
      required "end_at" (optional scalars.checkDatetime) data <*>
      required "link" str data <*>
      required "link_id" scalars.checkUuid data <*>
      required "link_type"
        (member BotAPIConferenceLinkTypes.members BotAPIConferenceLinkTypes.value) data <*>
      required "members" (list scalars.checkUuid) data <*>
      required "name" str data <*>
      required "operation" str data <*>
      required "sip_number" (optional scalars.checkInt) data <*>
      required "start_at" scalars.checkDatetime data))
    BaseBotAPIContext.check

def BotAPIConferenceCreated.check : Scalars.Check BotAPIConferenceCreated :=
  apiEvent scalars (systemPayload .conferenceCreated (dataField "call_id" scalars.checkUuid))
    BaseBotAPIContext.check

def BotAPIConferenceDeleted.check : Scalars.Check BotAPIConferenceDeleted :=
  apiEvent scalars (systemPayload .conferenceDeleted (dataField "call_id" scalars.checkUuid))
    BaseBotAPIContext.check

end

/-! ### Conversion -/

section

variable (rawCommand : List (String × Json))

def BotAPISmartAppEvent.toDomain (event : BotAPISmartAppEvent) : SmartAppEvent where
  toBotCommandBase := event.botCommand event.sender.toBaseBotAPIContext rawCommand
  ref := some event.data.ref
  smartappId := event.data.smartappId
  data := event.data.data
  opts := some event.data.opts
  smartappApiVersion := some event.data.smartappApiVersion
  files := event.asyncFiles.map convertAsyncFileToDomain
  chat := event.sender.chat
  sender := event.sender.userSender (event.sender.userDevice none none none)

def BotAPIInternalBotNotification.toDomain (event : BotAPIInternalBotNotification) :
    InternalBotNotificationEvent where
  toBotCommandBase := event.botCommand event.sender.toBaseBotAPIContext rawCommand
  data := event.data.data
  opts := event.data.opts
  chat := event.sender.chat
  sender := ⟨event.sender.userHuid, event.sender.isAdmin, event.sender.isCreator⟩

def BotAPIChatCreated.toDomain (event : BotAPIChatCreated) : ChatCreatedEvent where
  toBotCommandBase := event.botCommand event.sender.toBaseBotAPIContext rawCommand
  chat := ⟨event.data.groupChatId, .supported event.data.chatType.toDomain⟩
  syncId := event.syncId
  chatName := event.data.name
  creatorId := event.data.creator
  members := event.data.members.map fun member =>
    ⟨member.isAdmin, member.huid, member.name, convertUserKindToDomain member.userKind⟩

def BotAPIChatDeletedByUser.toDomain (event : BotAPIChatDeletedByUser) :
    ChatDeletedByUserEvent where
  toBotCommandBase := event.botCommand event.sender rawCommand
  syncId := event.syncId
  chatId := event.data.groupChatId
  huid := event.data.userHuid

def BotAPIAddedToChat.toDomain (event : BotAPIAddedToChat) : AddedToChatEvent where
  toBotCommandBase := event.botCommand event.sender.toBaseBotAPIContext rawCommand
  huids := event.data
  chat := event.sender.chat

def BotAPIDeletedFromChat.toDomain (event : BotAPIDeletedFromChat) : DeletedFromChatEvent where
  toBotCommandBase := event.botCommand event.sender.toBaseBotAPIContext rawCommand
  huids := event.data
  chat := event.sender.chat

def BotAPILeftFromChat.toDomain (event : BotAPILeftFromChat) : LeftFromChatEvent where
  toBotCommandBase := event.botCommand event.sender.toBaseBotAPIContext rawCommand
  huids := event.data
  chat := event.sender.chat

def BotAPICTSLogin.toDomain (event : BotAPICTSLogin) : CTSLoginEvent where
  toBotCommandBase := event.botCommand event.sender rawCommand
  huid := event.data

def BotAPICTSLogout.toDomain (event : BotAPICTSLogout) : CTSLogoutEvent where
  toBotCommandBase := event.botCommand event.sender rawCommand
  huid := event.data

def BotAPIEventDeleted.toDomain (event : BotAPIEventDeleted) : EventDeleted where
  toBotCommandBase := event.botCommand event.sender rawCommand
  deletedAt := event.data.deletedAt
  groupChatId := event.data.groupChatId
  metaData := event.data.metaData
  syncIds := event.data.syncIds

/-- The body an attachment is converted with is the literal body of the payload, not the
new text of the message. -/
def BotAPIEventEdit.toDomain (event : BotAPIEventEdit) : Result EventEdit := do
  let attachments ← event.attachments.mapM fun attachment =>
    convertApiAttachmentToDomain attachment BotAPISystemEventTypes.eventEdit.value
  let entities ← event.entities.mapM convertBotApiEntityToDomain
  return {
    toBotCommandBase := event.botCommand event.sender.toBaseBotAPIContext rawCommand
    body := event.data.body
    attachments := attachments
    entities := entities
    syncId := event.syncId
    chatId := event.sender.groupChatId
    huid := event.sender.userHuid }

def BotAPIJoinToChat.toDomain (event : BotAPIJoinToChat) : JoinToChatEvent where
  toBotCommandBase := event.botCommand event.sender.toBaseBotAPIContext rawCommand
  huids := event.data
  chat := event.sender.chat

def BotAPIConferenceChanged.toDomain (event : BotAPIConferenceChanged) :
    ConferenceChangedEvent where
  toBotCommandBase := event.botCommand event.sender rawCommand
  accessCode := event.data.accessCode
  actor := event.data.actor
  addedUsers := event.data.addedUsers
  admins := event.data.admins
  callId := event.data.callId
  deletedUsers := event.data.deletedUsers
  endAt := event.data.endAt
  link := event.data.link
  linkId := event.data.linkId
  linkType := convertConferenceLinkTypeToDomain event.data.linkType
  members := event.data.members
  name := event.data.name
  operation := event.data.operation
  sipNumber := event.data.sipNumber
  startAt := event.data.startAt

def BotAPIConferenceCreated.toDomain (event : BotAPIConferenceCreated) :
    ConferenceCreatedEvent where
  toBotCommandBase := event.botCommand event.sender rawCommand
  callId := event.data

def BotAPIConferenceDeleted.toDomain (event : BotAPIConferenceDeleted) :
    ConferenceDeletedEvent where
  toBotCommandBase := event.botCommand event.sender rawCommand
  callId := event.data

end

end Pybotx
