/-
The WSGI resources: which handlers a request calls and what it is answered.

A resource gets headers and parameters that Falcon has parsed, and reads the media of the
request itself.  An exception that a resource does not catch is its answer here.  Logging
is disabled, as it is by default, so the log lines of the source are left out.
-/

import Pybotx.Bot.VerificationErrors
import Pybotx.Models.Commands

set_option autoImplicit false

namespace Pybotx

open Validator

structure Response where
  status : Nat
  media : Json

def buildUnverifiedRequestResponse (statusMessage : String) : Json :=
  .obj [("error_data", .obj [("status_message", .str statusMessage)]), ("errors", .arr []),
    ("reason", .str "unverified_request")]

def buildCommandAcceptedResponse : Json :=
  .obj [("result", .str "accepted")]

/-- `{key.lower(): value …}`; header names are ASCII. -/
def lowerKeys (headers : List (String × String)) : List (String × String) :=
  Dict.ofPairs (headers.map fun header =>
    (String.ofList (header.1.toList.map Char.toLower), header.2))

/-- `model_validate` in a `try` that turns a validation error into `ValueError`. -/
def orValueError {α : Type} (message : String) : Validated PyError α → Result α
  | .valid value => .ok value
  | .invalid => .error (.valueError message)
  | .raised exc => .error exc

def orUnauthorized : Result Response → Result Response
  | .error (.unverifiedRequest message) =>
      .ok { status := 401, media := buildUnverifiedRequestResponse message }
  | other => other

/-- `req.media`, or the error Falcon raises on a body it cannot parse. -/
def requestMedia : Option Json → Result Json
  | some media => .ok media
  | none => .error .mediaError

structure BaseResource where
  credentials : List BotAccountWithSecret
  verifyRequests : Bool

def BaseResource.verifyRequest (resource : BaseResource) (jwt : PyJWT) (now : Int)
    (headers : List (String × String)) : Result BotAccountWithSecret :=
  if resource.verifyRequests then
    Pybotx.verifyRequest jwt now (some headers) resource.credentials none
  else
    match resource.credentials with
    | [] => .error .indexError
    | first :: _ => .ok first

/-- What has no `get` is no dictionary. -/
def dictionary : Json → Result (List (String × Json))
  | .obj entries => .ok entries
  | _ => .error .attributeError

def commandTypeOf (rawCommand : List (String × Json)) : Result (Option Json) :=
  match Dict.get "command" rawCommand with
  | none => .ok none
  | some (.obj command) => .ok (Dict.get "command_type" command)
  | some _ => .error .attributeError

def parseBotCommand (scalars : Scalars) (rawCommand : List (String × Json)) :
    Result BotCommand := do
  let commandType ← commandTypeOf rawCommand
  if commandType.any (Json.equalsStr commandTypeUser) then
    let message ← orValueError "Bot command validation error"
      (BotAPIIncomingMessage.check scalars (.obj rawCommand))
    let domain ← message.toDomain rawCommand
    return .message domain
  else
    let event ← orValueError "Bot command validation error"
      (BotAPISystemEvent.check scalars (.obj rawCommand))
    let domain ← event.toDomain rawCommand
    return .event domain

def BotCommand.bot : BotCommand → BotAccount
  | .message incoming => incoming.bot
  | .event systemEvent => systemEvent.base.bot

def botIdMismatch (account : BotAccountWithSecret) (kind : String) (botId : UUID) : String :=
  "Bot ID mismatch: token=" ++ account.id.str ++ ", " ++ kind ++ "=" ++ botId.str

structure CommandResource (Handler : Type) extends BaseResource where
  commands : List (String × Handler)
  events : List (SystemEventClass × Handler)

/-- The calls of `Command.execute` and the answer. -/
structure Run (Handler : Type) where
  calls : List (Handler × BotCommand)
  answer : Result Response

namespace CommandResource

variable {Handler : Type} (resource : CommandResource Handler)

def parseCommand (jwt : PyJWT) (now : Int) (scalars : Scalars) (rawCommand : Json)
    (headers : List (String × String)) : Result BotCommand := do
  let botAccount ← resource.verifyRequest jwt now headers
  let entries ← dictionary rawCommand
  let botCommand ← parseBotCommand scalars entries
  if botCommand.bot.id ≠ botAccount.id then
    throw (.unverifiedRequest (botIdMismatch botAccount "command" botCommand.bot.id))
  return botCommand

def dispatch (message : IncomingMessage) : Result (Option Handler) :=
  if message.body = "" then .ok (Dict.get "" resource.commands)
  else
    match Text.split message.body with
    -- `"  ".split()[0]`
    | [] => .error .indexError
    | command :: _ => .ok (Dict.get command resource.commands)

def handlerFor : BotCommand → Result (Option Handler)
  | .message message => resource.dispatch message
  | .event event => .ok (resource.events.lookup event.type)

/-- `execute` says what a handler raises, if it does. -/
def onPost (jwt : PyJWT) (now : Int) (scalars : Scalars)
    (execute : Handler → BotCommand → Option PyError) (media : Option Json)
    (headers : List (String × String)) : Run Handler :=
  let parsed := requestMedia media >>= fun rawCommand =>
    resource.parseCommand jwt now scalars rawCommand (lowerKeys headers)
  match parsed with
  | .error exc => { calls := [], answer := orUnauthorized (.error exc) }
  | .ok botCommand =>
      match resource.handlerFor botCommand with
      | .error exc => { calls := [], answer := .error exc }
      | .ok none => { calls := [], answer := .ok ⟨200, buildCommandAcceptedResponse⟩ }
      | .ok (some handler) =>
          { calls := [(handler, botCommand)]
            answer := match execute handler botCommand with
              | none => .ok ⟨200, buildCommandAcceptedResponse⟩
              | some exc => .error exc }

end CommandResource

abbrev BotMenu := List (String × String)

structure StatusRecipient where
  botId : UUID
  huid : UUID
  adLogin : Option String
  adDomain : Option String
  isAdmin : Option Bool
  chatType : IncomingChatTypes

structure BotAPIStatusRecipient where
  botId : UUID
  userHuid : UUID
  adLogin : Option String
  adDomain : Option String
  isAdmin : Option Bool
  chatType : String

def replaceEmptyString {α : Type} (inner : Scalars.Check α) : Scalars.Check (Option α) :=
  fun value => if value.equalsStr "" then .valid none else optional inner value

def BotAPIStatusRecipient.check (scalars : Scalars) : Scalars.Check BotAPIStatusRecipient :=
  model fun entries => BotAPIStatusRecipient.mk <$>
    required "bot_id" scalars.checkUuid entries <*>
    required "user_huid" scalars.checkUuid entries <*>
    defaulted "ad_login" none (replaceEmptyString str) entries <*>
    defaulted "ad_domain" none (replaceEmptyString str) entries <*>
    defaulted "is_admin" none (replaceEmptyString scalars.checkBool) entries <*>
    required "chat_type" str entries

def BotAPIStatusRecipient.toDomain (recipient : BotAPIStatusRecipient) : StatusRecipient where
  botId := recipient.botId
  huid := recipient.userHuid
  adLogin := recipient.adLogin
  adDomain := recipient.adDomain
  isAdmin := recipient.isAdmin
  chatType := convertChatTypeToDomain recipient.chatType

def buildBotStatusResponse (botMenu : BotMenu) : Json :=
  let commands := botMenu.map fun item =>
    Json.obj [("description", .str item.2), ("body", .str item.1), ("name", .str item.1)]
  .obj [("result", .obj [("commands", .arr commands), ("enabled", .bool true),
      ("status_message", .str "Bot is working")]),
    ("status", .str "ok")]

structure StatusResource extends BaseResource where
  botMenu : BotMenu

inductive ParamValue where
  | once (value : String)
  | several (first : String) (others : List String)

def ParamValue.first : ParamValue → String
  | once value => value
  | several first _ => first

namespace StatusResource

def getStatus (resource : StatusResource) (jwt : PyJWT) (now : Int) (scalars : Scalars)
    (queryParams : List (String × String)) (headers : List (String × String)) :
    Result Json := do
  let botAccount ← resource.verifyRequest jwt now headers
  let recipient ← orValueError "Status request validation error"
    (BotAPIStatusRecipient.check scalars
      (.obj (queryParams.map fun param => (param.1, .str param.2))))
  let statusRecipient := recipient.toDomain
  if statusRecipient.botId ≠ botAccount.id then
    throw (.unverifiedRequest (botIdMismatch botAccount "status" statusRecipient.botId))
  return buildBotStatusResponse resource.botMenu

def onGet (resource : StatusResource) (jwt : PyJWT) (now : Int) (scalars : Scalars)
    (params : List (String × ParamValue)) (headers : List (String × String)) :
    Result Response :=
  orUnauthorized do
    let status ← resource.getStatus jwt now scalars
      (params.map fun param => (param.1, param.2.first)) (lowerKeys headers)
    return ⟨200, status⟩

end StatusResource

inductive BotXMethodCallback where
  | successful (syncId : UUID) (result : List (String × Json))
  | failed (syncId : UUID) (reason : String) (errors : List String)
      (errorData : List (String × Json))

def BotXMethodCallback.check (scalars : Scalars) : Scalars.Check BotXMethodCallback :=
  union
    [model fun entries => (fun syncId _ result => .successful syncId result) <$>
        required "sync_id" scalars.checkUuid entries <*>
        required "status" (literal "ok") entries <*> required "result" dict entries,
      model fun entries => (fun syncId _ reason errors errorData =>
          .failed syncId reason errors errorData) <$>
        required "sync_id" scalars.checkUuid entries <*>
        required "status" (literal "error") entries <*> required "reason" str entries <*>
        required "errors" (list str) entries <*> required "error_data" dict entries]

structure CallbackResource (Callback : Type) extends BaseResource where
  callback : Callback

/-- A validation error is not translated here. -/
def orValidationError {α : Type} : Validated PyError α → Result α
  | .valid value => .ok value
  | .invalid => .error .validationError
  | .raised exc => .error exc

namespace CallbackResource

variable {Callback : Type} (resource : CallbackResource Callback)

def parseCallback (jwt : PyJWT) (now : Int) (scalars : Scalars) (rawCallback : Json)
    (headers : List (String × String)) : Result BotXMethodCallback := do
  let _ ← resource.verifyRequest jwt now headers
  orValidationError (BotXMethodCallback.check scalars rawCallback)

def onPost (jwt : PyJWT) (now : Int) (scalars : Scalars)
    (execute : Callback → BotXMethodCallback → Option PyError) (media : Option Json)
    (headers : List (String × String)) : Result Response :=
  let parsed := requestMedia media >>= fun rawCallback =>
    resource.parseCallback jwt now scalars rawCallback (lowerKeys headers)
  match parsed with
  | .error exc => orUnauthorized (.error exc)
  | .ok callbackMsg =>
      match execute resource.callback callbackMsg with
      | some exc => .error exc
      | none => .ok ⟨200, .obj [("status", .str "ok")]⟩

end CallbackResource

end Pybotx
