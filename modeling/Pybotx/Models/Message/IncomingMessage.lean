/-
Messages users send to a bot.
-/

import Pybotx.Models.ApiAttachments
import Pybotx.Models.BaseCommand
import Pybotx.Models.Message.Entities

set_option autoImplicit false

namespace Pybotx

open Validator

structure UserDevice where
  manufacturer : Option String
  deviceName : Option String
  os : Option String
  pushes : Option Bool
  timezone : Option String
  permissions : Option (List (String × Json))
  platform : Option ClientPlatforms
  platformPackageId : Option String
  appVersion : Option String
  locale : Option String

/-- `client_network_contour` keeps its default. -/
structure UserSender where
  huid : UUID
  udid : Option UUID
  adLogin : Option String
  adDomain : Option String
  username : Option String
  isChatAdmin : Option Bool
  isChatCreator : Option Bool
  device : UserDevice

structure IncomingMessage extends BotCommandBase where
  syncId : UUID
  sourceSyncId : Option UUID
  body : String
  data : List (String × Json)
  metadata : List (String × Json)
  sender : UserSender
  chat : Chat
  mentions : List Mention
  forward : Option Forward
  reply : Option Reply
  file : Option IncomingFileAttachment
  location : Option Location
  contact : Option Contact
  link : Option Link
  sticker : Option Sticker

/-- `BotAPICommandPayload` without the literal `command_type`. -/
structure BotAPICommandPayload where
  body : String
  data : List (String × Json)
  metadata : List (String × Json)

/-- An object that is one of the known models, or the object itself. -/
inductive Item (α : Type) where
  | known (item : α)
  | unknown (raw : List (String × Json))

structure BotAPIIncomingMessage extends BotAPIBaseCommand where
  payload : BotAPICommandPayload
  sender : BotAPIFullContext
  sourceSyncId : Option UUID
  attachments : List (Item BotAPIAttachment)
  entities : List (Item BotAPIEntity)

/-- One pass of the loop in `validate_items`; what is not an object is left out. -/
def validateItem {α : Type} (check : Scalars.Check α) :
    Json → Option (Validated PyError (Item α))
  | .obj raw => some (match check (.obj raw) with
      | .valid item => .valid (.known item)
      | .invalid => .valid (.unknown raw)
      | .raised exc => .raised exc)
  | _ => none

/-- `validate_items`: a text or an object is iterated too, a number or `None` is not. -/
def validateItems {α : Type} (check : Scalars.Check α) : Scalars.Check (List (Item α))
  | .arr items => Validated.all (items.filterMap (validateItem check))
  | .str _ => .valid []
  | .obj _ => .valid []
  | _ => .raised .typeError

section

variable (scalars : Scalars)

def BotAPICommandPayload.check : Scalars.Check BotAPICommandPayload :=
  model fun entries => (fun body _ data metadata => ⟨body, data, metadata⟩) <$>
    required "body" str entries <*>
    required "command_type" (literal commandTypeUser) entries <*>
    required "data" dict entries <*>
    required "metadata" dict entries

def BotAPIIncomingMessage.check : Scalars.Check BotAPIIncomingMessage :=
  model fun entries => BotAPIIncomingMessage.mk <$> BotAPIBaseCommand.fields scalars entries <*>
    required "command" BotAPICommandPayload.check entries <*>
    required "from" (BotAPIFullContext.check scalars) entries <*>
    required "source_sync_id" (optional scalars.checkUuid) entries <*>
    required "attachments" (validateItems (BotAPIAttachment.check scalars)) entries <*>
    required "entities" (validateItems (BotAPIEntity.check scalars)) entries

end

def BotAPIDeviceFields.userDevice (context : BotAPIDeviceFields) (pushes : Option Bool)
    (timezone : Option String) (permissions : Option (List (String × Json))) : UserDevice where
  manufacturer := context.manufacturer
  deviceName := context.device
  os := context.deviceSoftware
  pushes := pushes
  timezone := timezone
  permissions := permissions
  platform := context.platform.map convertClientPlatformToDomain
  platformPackageId := context.platformPackageId
  appVersion := context.appVersion
  locale := context.locale

def BotAPIUserFields.userSender (context : BotAPIUserFields) (device : UserDevice) :
    UserSender where
  huid := context.userHuid
  udid := context.userUdid
  adLogin := context.adLogin
  adDomain := context.adDomain
  username := context.username
  isChatAdmin := context.isAdmin
  isChatCreator := context.isCreator
  device := device

structure FoundEntities where
  mentions : List Mention
  forward : Option Forward
  reply : Option Reply

def addEntity (found : FoundEntities) : Item BotAPIEntity → Result FoundEntities
  | .unknown _ => .ok found
  | .known entity => do
      match ← convertBotApiEntityToDomain entity with
      | .mention mention => return { found with mentions := found.mentions ++ [mention] }
      | .forward forward => return { found with forward := some forward }
      | .reply reply => return { found with reply := some reply }

/-- The attachment a message keeps: the first one, if it is known. -/
def firstAttachment (attachments : List (Item BotAPIAttachment)) (body : String) :
    Result (Option IncomingAttachment) :=
  match attachments with
  | .known attachment :: _ => do
      let converted ← convertApiAttachmentToDomain attachment body
      return some converted
  | _ => return none

def BotAPIIncomingMessage.toDomain (message : BotAPIIncomingMessage)
    (rawCommand : List (String × Json)) : Result IncomingMessage := do
  let device := match message.sender.deviceMeta with
    | some deviceMeta => message.sender.userDevice deviceMeta.pushes deviceMeta.timezone
        deviceMeta.permissions
    | none => message.sender.userDevice none none none
  let attachment ← firstAttachment message.attachments message.payload.body
  let found ← message.entities.foldlM addEntity ⟨[], none, none⟩
  return {
    toBotCommandBase := message.botCommand message.sender.toBaseBotAPIContext rawCommand
    syncId := message.syncId
    sourceSyncId := message.sourceSyncId
    body := message.payload.body
    data := message.payload.data
    metadata := message.payload.metadata
    sender := message.sender.userSender device
    chat := message.sender.chat
    mentions := found.mentions
    forward := found.forward
    reply := found.reply
    file := match attachment with | some (.file file) => some file | _ => none
    location := match attachment with | some (.location location) => some location | _ => none
    contact := match attachment with | some (.contact contact) => some contact | _ => none
    link := match attachment with | some (.link link) => some link | _ => none
    sticker := match attachment with | some (.sticker sticker) => some sticker | _ => none }

theorem BotAPIIncomingMessage.toDomain_base (message : BotAPIIncomingMessage)
    (rawCommand : List (String × Json)) (converted : IncomingMessage)
    (returned : message.toDomain rawCommand = .ok converted) :
    converted.bot.id = message.botId ∧ converted.body = message.payload.body ∧
      converted.rawCommand = rawCommand := by
  unfold toDomain at returned
  obtain ⟨attachment, _, returned⟩ := (Result.bind_eq_ok _ _ _).mp returned
  obtain ⟨found, _, returned⟩ := (Result.bind_eq_ok _ _ _).mp returned
  cases returned
  exact ⟨rfl, rfl, rfl⟩

end Pybotx
