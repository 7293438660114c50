/-
Parts that the models of incoming commands share.
-/

import Pybotx.Models.BotAccount
import Pybotx.Models.Enums
import Pybotx.Models.Scalars

set_option autoImplicit false

namespace Pybotx

open Validator

def botApiVersion : Int := 4

structure Chat where
  id : UUID
  type : IncomingChatTypes

structure BotAPIDeviceMeta where
  pushes : Option Bool
  timezone : Option String
  permissions : Option (List (String × Json))

structure BaseBotAPIContext where
  host : String

/-- The fields a `BotAPIUserContext` adds to `BaseBotAPIContext`. -/
structure BotAPIUserFields where
  userHuid : UUID
  userUdid : Option UUID
  adDomain : Option String
  adLogin : Option String
  username : Option String
  isAdmin : Option Bool
  isCreator : Option Bool

/-- The fields a `BotAPIChatContext` adds. `chat_type` is `APIChatTypes | str`: a text is
taken as the text it is. -/
structure BotAPIChatFields where
  groupChatId : UUID
  chatType : String

structure BotAPIDeviceFields where
  appVersion : Option String
  platform : Option BotAPIClientPlatforms
  platformPackageId : Option String
  device : Option String
  deviceMeta : Option BotAPIDeviceMeta
  deviceSoftware : Option String
  manufacturer : Option String
  locale : Option String

structure BotAPIUserContext extends BaseBotAPIContext, BotAPIUserFields

structure BotAPIChatContext extends BaseBotAPIContext, BotAPIChatFields

structure BotAPIUserChatContext extends BaseBotAPIContext, BotAPIUserFields, BotAPIChatFields

/-- `BotAPIIncomingMessageContext` and `BotAPISmartAppEventContext`. -/
structure BotAPIFullContext extends BaseBotAPIContext, BotAPIUserFields, BotAPIChatFields,
  BotAPIDeviceFields

section

variable (scalars : Scalars)

def BotAPIDeviceMeta.check : Scalars.Check BotAPIDeviceMeta :=
  model fun entries => BotAPIDeviceMeta.mk <$>
    defaulted "pushes" none (optional scalars.checkBool) entries <*>
    defaulted "timezone" none (optional str) entries <*>
    defaulted "permissions" none (optional dict) entries

def BaseBotAPIContext.fields (entries : List (String × Json)) :
    Validated PyError BaseBotAPIContext :=
  BaseBotAPIContext.mk <$> required "host" str entries

def BotAPIUserFields.fields (entries : List (String × Json)) :
    Validated PyError BotAPIUserFields :=
  BotAPIUserFields.mk <$> required "user_huid" scalars.checkUuid entries <*>
    defaulted "user_udid" none (optional scalars.checkUuid) entries <*>
    defaulted "ad_domain" none (optional str) entries <*>
    defaulted "ad_login" none (optional str) entries <*>
    defaulted "username" none (optional str) entries <*>
    defaulted "is_admin" none (optional scalars.checkBool) entries <*>
    defaulted "is_creator" none (optional scalars.checkBool) entries

def BotAPIChatFields.fields (entries : List (String × Json)) :
    Validated PyError BotAPIChatFields :=
  BotAPIChatFields.mk <$> required "group_chat_id" scalars.checkUuid entries <*>
    required "chat_type" str entries

def BotAPIDeviceFields.fields (entries : List (String × Json)) :
    Validated PyError BotAPIDeviceFields :=
  BotAPIDeviceFields.mk <$> defaulted "app_version" none (optional str) entries <*>
    defaulted "platform" none
      (optional (member BotAPIClientPlatforms.members BotAPIClientPlatforms.value)) entries <*>
    defaulted "platform_package_id" none (optional str) entries <*>
    defaulted "device" none (optional str) entries <*>
    defaulted "device_meta" none (optional (BotAPIDeviceMeta.check scalars)) entries <*>
    defaulted "device_software" none (optional str) entries <*>
    defaulted "manufacturer" none (optional str) entries <*>
    defaulted "locale" none (optional str) entries

def BaseBotAPIContext.check : Scalars.Check BaseBotAPIContext := model BaseBotAPIContext.fields

def BotAPIUserContext.fields (entries : List (String × Json)) :
    Validated PyError BotAPIUserContext :=
  BotAPIUserContext.mk <$> BaseBotAPIContext.fields entries <*>
    BotAPIUserFields.fields scalars entries

def BotAPIChatContext.check : Scalars.Check BotAPIChatContext :=
  model fun entries => BotAPIChatContext.mk <$> BaseBotAPIContext.fields entries <*>
    BotAPIChatFields.fields scalars entries

def BotAPIUserChatContext.check : Scalars.Check BotAPIUserChatContext :=
  model fun entries => BotAPIUserChatContext.mk <$> BaseBotAPIContext.fields entries <*>
    BotAPIUserFields.fields scalars entries <*> BotAPIChatFields.fields scalars entries

def BotAPIFullContext.check : Scalars.Check BotAPIFullContext :=
  model fun entries => BotAPIFullContext.mk <$> BaseBotAPIContext.fields entries <*>
    BotAPIUserFields.fields scalars entries <*> BotAPIChatFields.fields scalars entries <*>
    BotAPIDeviceFields.fields scalars entries

end

def BotAPIChatFields.chat (context : BotAPIChatFields) : Chat :=
  ⟨context.groupChatId, convertChatTypeToDomain context.chatType⟩

structure BotAPIBaseCommand where
  botId : UUID
  syncId : UUID
  protoVersion : Int

/-- `validate_proto_version` runs before the type check and raises an error that is not a
validation error. -/
def validateProtoVersion : Scalars.Check Int := fun version =>
  match version with
  | .int number =>
      if number = botApiVersion then .valid number
      else .raised (.unsupportedBotAPIVersion version)
  | _ => .raised (.unsupportedBotAPIVersion version)

def BotAPIBaseCommand.fields (scalars : Scalars) (entries : List (String × Json)) :
    Validated PyError BotAPIBaseCommand :=
  BotAPIBaseCommand.mk <$> required "bot_id" scalars.checkUuid entries <*>
    required "sync_id" scalars.checkUuid entries <*>
    required "proto_version" validateProtoVersion entries

/-- `find_unknown_system_event` runs before the literal is compared. -/
def findUnknownSystemEvent (eventType : BotAPISystemEventTypes) : Scalars.Check Unit := fun body =>
  if BotAPISystemEventTypes.members.any fun known => body.equalsStr known.value then
    literal eventType.value body
  else .raised (.unknownSystemEvent body)

structure BotCommandBase where
  bot : BotAccount
  rawCommand : List (String × Json)

/-- The account in a domain command: the id of the command, the host of its context. -/
def BotAPIBaseCommand.botCommand (base : BotAPIBaseCommand) (context : BaseBotAPIContext)
    (rawCommand : List (String × Json)) : BotCommandBase :=
  { bot := { id := base.botId, host := some context.host }, rawCommand := rawCommand }

theorem validateProtoVersion_eq_valid_iff (version : Json) (number : Int) :
    validateProtoVersion version = .valid number ↔
      version = .int botApiVersion ∧ number = botApiVersion := by
  cases version with
  | int given =>
      unfold validateProtoVersion
      by_cases supported : given = botApiVersion
      · simp only [if_pos supported, Validated.valid.injEq, Json.int.injEq]
        omega
      · simp [supported]
  | _ => simp [validateProtoVersion]

theorem findUnknownSystemEvent_valid (eventType : BotAPISystemEventTypes) (body : Json)
    (passed : findUnknownSystemEvent eventType body = .valid ()) :
    body = .str eventType.value := by
  unfold findUnknownSystemEvent at passed
  split at passed
  · exact (literal_eq_valid_iff eventType.value body).mp passed
  · cases passed

theorem BotAPIBaseCommand.fields_valid (scalars : Scalars) (entries : List (String × Json))
    (base : BotAPIBaseCommand) (checked : fields scalars entries = .valid base) :
    (Dict.get "bot_id" entries).bind scalars.uuid = some base.botId ∧
      Dict.get "proto_version" entries = some (.int botApiVersion) := by
  simp only [fields, Validated.seq_eq_valid_iff, Validated.map_eq_valid_iff,
    required_eq_valid_iff] at checked
  obtain ⟨_, version, ⟨_, sync, ⟨_, ⟨rawId, idGiven, idRead⟩, rfl⟩, _, rfl⟩,
    ⟨rawVersion, versionGiven, versionRead⟩, rfl⟩ := checked
  constructor
  · rw [idGiven]
    exact (ofOption_eq_valid_iff scalars.uuid rawId _).mp idRead
  · rw [versionGiven, ((validateProtoVersion_eq_valid_iff rawVersion version).mp versionRead).1]

end Pybotx
