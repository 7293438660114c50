/-
The methods of the bots, metrics, openid and voex APIs.
-/

import Pybotx.Client.MethodExecution

set_option autoImplicit false

namespace Pybotx

open Validator

section

variable (python : Interpreter)

structure BotXAPIBotItem where
  userHuid : UUID
  name : String
  description : String
  avatar : Option String
  enabled : Bool

structure BotXAPIBotsListResult where
  generatedAt : DateTime
  bots : List BotXAPIBotItem

structure BotXAPIGetCallResult where
  id : UUID
  members : List UUID

structure BotXAPIGetConferenceResult where
  id : UUID
  name : String
  link : String
  members : List UUID

def BotXAPIBotItem.check {ε : Type} : Validator ε BotXAPIBotItem :=
  model fun entries => BotXAPIBotItem.mk <$>
    required "user_huid" python.checkUuid entries <*>
    required "name" str entries <*>
    required "description" str entries <*>
    defaulted "avatar" none (optional str) entries <*>
    required "enabled" python.checkBool entries

def BotXAPIBotsListResult.check {ε : Type} : Validator ε BotXAPIBotsListResult :=
  model fun entries => BotXAPIBotsListResult.mk <$>
    required "generated_at" python.checkDatetime entries <*>
    required "bots" (list (BotXAPIBotItem.check python)) entries

def BotXAPIGetCallResult.check {ε : Type} : Validator ε BotXAPIGetCallResult :=
  model fun entries => BotXAPIGetCallResult.mk <$>
    required "id" python.checkUuid entries <*>
    required "members" (list python.checkUuid) entries

def BotXAPIGetConferenceResult.check {ε : Type} : Validator ε BotXAPIGetConferenceResult :=
  model fun entries => BotXAPIGetConferenceResult.mk <$>
    required "id" python.checkUuid entries <*>
    required "name" str entries <*>
    required "link" str entries <*>
    required "members" (list python.checkUuid) entries

def botsListMethod : BotXMethod :=
  authorizedMethod "GET" "/api/v1/botx/bots/catalog" authorizedStatusHandlers
    (.returning (okPayload (BotXAPIBotsListResult.check python)))

def collectBotFunctionMethod : BotXMethod :=
  authorizedMethod "POST" "/api/v3/botx/metrics/bot_function" authorizedStatusHandlers
    (.returningNone (okPayload python.checkBool))

def refreshAccessTokenMethod : BotXMethod :=
  authorizedMethod "POST" "/api/v3/botx/openid/refresh_access_token" authorizedStatusHandlers
    (.returning (okPayload python.checkBool))

def getCallMethod (callId : UUID) : BotXMethod :=
  authorizedMethod "GET" ("/api/v3/botx/voex/calls/" ++ callId.str)
    (authorizedStatusHandlers.set 404 (responseExceptionThrower .callNotFound none))
    (.returning (okPayload (BotXAPIGetCallResult.check python)))

def getConferenceMethod (callId : UUID) : BotXMethod :=
  authorizedMethod "GET" ("/api/v3/botx/voex/conferences/" ++ callId.str)
    (authorizedStatusHandlers.set 404 (responseExceptionThrower .conferenceNotFound none))
    (.returning (okPayload (BotXAPIGetConferenceResult.check python)))

end

end Pybotx
