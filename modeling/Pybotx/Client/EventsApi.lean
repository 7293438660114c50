/-
The methods of the events and files APIs.
-/

import Pybotx.Client.MethodExecution
import Pybotx.Models.Files

set_option autoImplicit false

namespace Pybotx

open Validator

section

variable (python : Interpreter)

structure BotXAPIMessageStatusReadUser where
  userHuid : UUID
  readAt : DateTime

structure BotXAPIMessageStatusReceivedUser where
  userHuid : UUID
  receivedAt : DateTime

structure BotXAPIMessageStatusResult where
  groupChatId : UUID
  sentTo : List UUID
  readBy : List BotXAPIMessageStatusReadUser
  receivedBy : List BotXAPIMessageStatusReceivedUser

def BotXAPIMessageStatusReadUser.check {ε : Type} : Validator ε BotXAPIMessageStatusReadUser :=
  model fun entries => BotXAPIMessageStatusReadUser.mk <$>
    required "user_huid" python.checkUuid entries <*>
    required "read_at" python.checkDatetime entries

def BotXAPIMessageStatusReceivedUser.check {ε : Type} :
    Validator ε BotXAPIMessageStatusReceivedUser :=
  model fun entries => BotXAPIMessageStatusReceivedUser.mk <$>
    required "user_huid" python.checkUuid entries <*>
    required "received_at" python.checkDatetime entries

def BotXAPIMessageStatusResult.check {ε : Type} : Validator ε BotXAPIMessageStatusResult :=
  model fun entries => BotXAPIMessageStatusResult.mk <$>
    required "group_chat_id" python.checkUuid entries <*>
    required "sent_to" (list python.checkUuid) entries <*>
    required "read_by" (list (BotXAPIMessageStatusReadUser.check python)) entries <*>
    required "received_by" (list (BotXAPIMessageStatusReceivedUser.check python)) entries

def deleteEventMethod : BotXMethod :=
  authorizedMethod "POST" "/api/v3/botx/events/delete_event"
    (authorizedStatusHandlers.set 404 (responseExceptionThrower .messageNotFound none))
    (.returning (okPayload str))

def editEventMethod : BotXMethod :=
  authorizedMethod "POST" "/api/v3/botx/events/edit_event" authorizedStatusHandlers
    (.returningNone okStatus)

def messageStatusMethod (syncId : UUID) : BotXMethod :=
  authorizedMethod "GET" ("/api/v3/botx/events/" ++ syncId.str ++ "/status")
    (authorizedStatusHandlers.set 404 (responseExceptionThrower .eventNotFound none))
    (.returning (okPayload (BotXAPIMessageStatusResult.check python)))

def replyEventMethod : BotXMethod :=
  authorizedMethod "POST" "/api/v3/botx/events/reply_event" authorizedStatusHandlers
    (.returningNone okStatus)

def stopTypingEventMethod : BotXMethod :=
  authorizedMethod "POST" "/api/v3/botx/events/stop_typing" authorizedStatusHandlers
    (.returningNone okStatus)

def typingEventMethod : BotXMethod :=
  authorizedMethod "POST" "/api/v3/botx/events/typing" authorizedStatusHandlers
    (.returningNone okStatus)

def notFoundErrorHandler : StatusHandler :=
  reasonErrorHandler python
    [("file_metadata_not_found", .fileMetadataNotFound, none),
      ("chat_not_found", .chatNotFound, none)]
    .invalidBotXStatusCode

def downloadFileMethod : BotXMethod :=
  streamedMethod "GET" "/api/v3/botx/files/download"
    ((authorizedStatusHandlers.set 204 (responseExceptionThrower .fileDeleted none)).set 404
      (notFoundErrorHandler python))

def uploadFileMethod : BotXMethod :=
  authorizedMethod "POST" "/api/v3/botx/files/upload"
    (authorizedStatusHandlers.set 404 (responseExceptionThrower .chatNotFound none))
    (.returning (okPayload (APIAsyncFile.check python.toScalars)))

end

end Pybotx
