/-
Enumerations of the Bot API and of the domain, and the conversions between them.

The conversion tables of the source are total, so the `NotImplementedError` that follows
each lookup is not reached and is left out.
-/

import Pybotx.Foundation.Validation
import Pybotx.Models.Message.Mentions

set_option autoImplicit false

namespace Pybotx

inductive ChatTypes where
  | personalChat
  | groupChat
  | channel
  | thread
  deriving DecidableEq, Repr

/-- `ChatTypes` or `"UNSUPPORTED"`. -/
inductive IncomingChatTypes where
  | supported (type : ChatTypes)
  | unsupported
  deriving DecidableEq, Repr

inductive APIChatTypes where
  | chat
  | notes
  | groupChat
  | channel
  | thread
  | voexCall
  deriving DecidableEq, Repr

namespace APIChatTypes

def members : List APIChatTypes := [chat, notes, groupChat, channel, thread, voexCall]

def value : APIChatTypes → String
  | chat => "chat"
  | notes => "notes"
  | groupChat => "group_chat"
  | channel => "channel"
  | thread => "thread"
  | voexCall => "voex_call"

def toDomain : APIChatTypes → ChatTypes
  | chat => .personalChat
  | notes => .personalChat
  | groupChat => .groupChat
  | channel => .channel
  | thread => .thread
  | voexCall => .groupChat

end APIChatTypes

/-- On a text: `APIChatTypes(chat_type)` fails with `ValueError` on an unknown one. -/
def convertChatTypeToDomain (chatType : String) : IncomingChatTypes :=
  match APIChatTypes.members.find? fun candidate => candidate.value = chatType with
  | some apiType => .supported apiType.toDomain
  | none => .unsupported

/-! ### Users and clients -/

inductive UserKinds where
  | rtsUser
  | ctsUser
  | bot
  | unregistered
  | guest
  deriving DecidableEq, Repr

inductive APIUserKinds where
  | user
  | ctsUser
  | botx
  | unregistered
  | guest
  deriving DecidableEq, Repr

namespace APIUserKinds

def members : List APIUserKinds := [user, ctsUser, botx, unregistered, guest]

def value : APIUserKinds → String
  | user => "user"
  | ctsUser => "cts_user"
  | botx => "botx"
  | unregistered => "unregistered"
  | guest => "guest"

end APIUserKinds

def convertUserKindToDomain : APIUserKinds → UserKinds
  | .user => .rtsUser
  | .ctsUser => .ctsUser
  | .botx => .bot
  | .unregistered => .unregistered
  | .guest => .guest

inductive ClientPlatforms where
  | web
  | android
  | ios
  | desktop
  | aurora
  deriving DecidableEq, Repr

inductive BotAPIClientPlatforms where
  | web
  | android
  | ios
  | desktop
  | aurora
  deriving DecidableEq, Repr

namespace BotAPIClientPlatforms

def members : List BotAPIClientPlatforms := [web, android, ios, desktop, aurora]

def value : BotAPIClientPlatforms → String
  | web => "web"
  | android => "android"
  | ios => "ios"
  | desktop => "desktop"
  | aurora => "aurora"

end BotAPIClientPlatforms

def convertClientPlatformToDomain : BotAPIClientPlatforms → ClientPlatforms
  | .web => .web
  | .android => .android
  | .ios => .ios
  | .desktop => .desktop
  | .aurora => .aurora

inductive SyncSourceTypes where
  | ad
  | admin
  | email
  | openid
  | botx
  deriving DecidableEq, Repr

/-- `SyncSourceTypes` or `"UNSUPPORTED"`. -/
inductive IncomingSyncSourceTypes where
  | supported (type : SyncSourceTypes)
  | unsupported
  deriving DecidableEq, Repr

inductive APISyncSourceTypes where
  | ad
  | admin
  | email
  | openid
  | botx
  deriving DecidableEq, Repr

namespace APISyncSourceTypes

def members : List APISyncSourceTypes := [ad, admin, email, openid, botx]

def value : APISyncSourceTypes → String
  | ad => "ad"
  | admin => "admin"
  | email => "email"
  | openid => "openid"
  | botx => "botx"

def toDomain : APISyncSourceTypes → SyncSourceTypes
  | ad => .ad
  | admin => .admin
  | email => .email
  | openid => .openid
  | botx => .botx

end APISyncSourceTypes

/-- On a text: `APISyncSourceTypes(sync_type)` fails with `ValueError` on an unknown one. -/
def convertSyncSourceTypeToDomain (syncType : String) : IncomingSyncSourceTypes :=
  match APISyncSourceTypes.members.find? fun candidate => candidate.value = syncType with
  | some apiType => .supported apiType.toDomain
  | none => .unsupported

inductive ConferenceLinkTypes where
  | everyone
  | trusts
  | corporate
  | server
  deriving DecidableEq, Repr

inductive BotAPIConferenceLinkTypes where
  | everyone
  | trusts
  | corporate
  | server
  deriving DecidableEq, Repr

namespace BotAPIConferenceLinkTypes

def members : List BotAPIConferenceLinkTypes := [everyone, trusts, corporate, server]

def value : BotAPIConferenceLinkTypes → String
  | everyone => "public"
  | trusts => "trusts"
  | corporate => "corporate"
  | server => "server"

end BotAPIConferenceLinkTypes

def convertConferenceLinkTypeToDomain : BotAPIConferenceLinkTypes → ConferenceLinkTypes
  | .everyone => .everyone
  | .trusts => .trusts
  | .corporate => .corporate
  | .server => .server

inductive ChatLinkTypes where
  | everyone
  | trusts
  | corporate
  | server
  deriving DecidableEq, Repr

namespace ChatLinkTypes

def members : List ChatLinkTypes := [everyone, trusts, corporate, server]

def value : ChatLinkTypes → String
  | everyone => "public"
  | trusts => "trusts"
  | corporate => "corporate"
  | server => "server"

end ChatLinkTypes

inductive SmartappManifestWebLayoutChoices where
  | minimal
  | half
  | full
  deriving DecidableEq, Repr

namespace SmartappManifestWebLayoutChoices

def members : List SmartappManifestWebLayoutChoices := [minimal, half, full]

def value : SmartappManifestWebLayoutChoices → String
  | minimal => "minimal"
  | half => "half"
  | full => "full"

end SmartappManifestWebLayoutChoices

def commandTypeUser : String := "user"

def commandTypeSystem : String := "system"

inductive BotAPISystemEventTypes where
  | addedToChat
  | chatCreated
  | chatDeletedByUser
  | ctsLogin
  | ctsLogout
  | deletedFromChat
  | internalBotNotification
  | leftFromChat
  | smartappEvent
  | eventDeleted
  | eventEdit
  | joinToChat
  | conferenceChanged
  | conferenceCreated
  | conferenceDeleted
  deriving DecidableEq, Repr

namespace BotAPISystemEventTypes

def members : List BotAPISystemEventTypes :=
  [addedToChat, chatCreated, chatDeletedByUser, ctsLogin, ctsLogout, deletedFromChat,
    internalBotNotification, leftFromChat, smartappEvent, eventDeleted, eventEdit, joinToChat,
    conferenceChanged, conferenceCreated, conferenceDeleted]

def value : BotAPISystemEventTypes → String
  | addedToChat => "system:added_to_chat"
  | chatCreated => "system:chat_created"
  | chatDeletedByUser => "system:chat_deleted_by_user"
  | ctsLogin => "system:cts_login"
  | ctsLogout => "system:cts_logout"
  | deletedFromChat => "system:deleted_from_chat"
  | internalBotNotification => "system:internal_bot_notification"
  | leftFromChat => "system:left_from_chat"
  | smartappEvent => "system:smartapp_event"
  | eventDeleted => "system:event_deleted"
  | eventEdit => "system:event_edit"
  | joinToChat => "system:user_joined_to_chat"
  | conferenceChanged => "system:conference_changed"
  | conferenceCreated => "system:conference_created"
  | conferenceDeleted => "system:conference_deleted"

end BotAPISystemEventTypes

def BotAPIMentionTypes.members : List BotAPIMentionTypes := [.contact, .chat, .channel, .user, .all]

end Pybotx
