/-
The methods of the API, and which parts of a response each of them looks into.
-/

import Pybotx.Client.ChatsApi
import Pybotx.Client.EventsApi
import Pybotx.Client.ServiceApis
import Pybotx.Client.SmartappsApi
import Pybotx.Client.StickersApi
import Pybotx.Client.UsersApi

set_option autoImplicit false

namespace Pybotx

open Validator

/-- One constructor for each method class, with the identifiers in its path. -/
inductive ApiMethod where
  | addAdmin
  | addUser
  | chatInfo
  | createChat
  | createChatLink
  | createThread
  | disableStealth
  | listChats
  | personalChat
  | pinMessage
  | removeUser
  | setStealth
  | unpinMessage
  | deleteEvent
  | editEvent
  | messageStatus (syncId : UUID)
  | replyEvent
  | stopTypingEvent
  | typingEvent
  | downloadFile
  | uploadFile
  | directNotification
  | directNotificationSync
  | internalBotNotification
  | smartAppCustomNotification
  | smartAppEvent
  | smartAppManifest
  | smartAppNotification
  | smartAppUnreadCounter
  | smartAppsList
  | smartAppUploadFile
  | addSticker (stickerPackId : UUID)
  | createStickerPack
  | deleteSticker (stickerPackId stickerId : UUID)
  | deleteStickerPack (stickerPackId : UUID)
  | editStickerPack (stickerPackId : UUID)
  | getSticker (stickerPackId stickerId : UUID)
  | getStickerPack (stickerPackId : UUID)
  | getStickerPacks
  | searchUserByEmail
  | searchUserByEmailPost
  | searchUserByEmails
  | searchUserByHuid
  | searchUserByLogin
  | searchUserByOtherId
  | updateUsersProfile
  | usersAsCsv
  | botsList
  | getToken
  | collectBotFunction
  | refreshAccessToken
  | getCall (callId : UUID)
  | getConference (callId : UUID)

namespace ApiMethod

def method (python : Interpreter) (botId : UUID) : ApiMethod → BotXMethod
  | addAdmin => addAdminMethod python
  | addUser => addUserMethod
  | chatInfo => chatInfoMethod python
  | createChat => createChatMethod python
  | createChatLink => createChatLinkMethod python
  | createThread => createThreadMethod python
  | disableStealth => disableStealthMethod
  | listChats => listChatsMethod python
  | personalChat => personalChatMethod python
  | pinMessage => pinMessageMethod
  | removeUser => removeUserMethod
  | setStealth => setStealthMethod
  | unpinMessage => unpinMessageMethod
  | deleteEvent => deleteEventMethod
  | editEvent => editEventMethod
  | messageStatus syncId => messageStatusMethod python syncId
  | replyEvent => replyEventMethod
  | stopTypingEvent => stopTypingEventMethod
  | typingEvent => typingEventMethod
  | downloadFile => downloadFileMethod python
  | uploadFile => uploadFileMethod python
  | directNotification => directNotificationMethod python
  | directNotificationSync => directNotificationSyncMethod python
  | internalBotNotification => internalBotNotificationMethod python
  | smartAppCustomNotification => smartAppCustomNotificationMethod python
  | smartAppEvent => smartAppEventMethod
  | smartAppManifest => smartAppManifestMethod python
  | smartAppNotification => smartAppNotificationMethod
  | smartAppUnreadCounter => smartAppUnreadCounterMethod python
  | smartAppsList => smartAppsListMethod python
  | smartAppUploadFile => smartAppUploadFileMethod
  | addSticker stickerPackId => addStickerMethod python stickerPackId
  | createStickerPack => createStickerPackMethod python
  | deleteSticker stickerPackId stickerId => deleteStickerMethod stickerPackId stickerId
  | deleteStickerPack stickerPackId => deleteStickerPackMethod stickerPackId
  | editStickerPack stickerPackId => editStickerPackMethod python stickerPackId
  | getSticker stickerPackId stickerId => getStickerMethod python stickerPackId stickerId
  | getStickerPack stickerPackId => getStickerPackMethod python stickerPackId
  | getStickerPacks => getStickerPacksMethod python
  | searchUserByEmail => searchUserByEmailMethod python
  | searchUserByEmailPost => searchUserByEmailPostMethod python
  | searchUserByEmails => searchUserByEmailsMethod python
  | searchUserByHuid => searchUserByHuidMethod python
  | searchUserByLogin => searchUserByLoginMethod python
  | searchUserByOtherId => searchUserByOtherIdMethod python
  | updateUsersProfile => updateUsersProfileMethod
  | usersAsCsv => usersAsCsvMethod
  | botsList => botsListMethod python
  | getToken => getTokenMethod botId
  | collectBotFunction => collectBotFunctionMethod python
  | refreshAccessToken => refreshAccessTokenMethod python
  | getCall callId => getCallMethod python callId
  | getConference callId => getConferenceMethod python callId

def streamed : ApiMethod → Bool
  | downloadFile => true
  | usersAsCsv => true
  | _ => false

def explainedStatus : ApiMethod → Option Nat
  | addAdmin => some 400
  | createChatLink => some 500
  | createThread => some 409
  | downloadFile => some 404
  | addSticker _ => some 400
  | _ => none

def Explains : ApiMethod → List (String × Json) → Prop
  | addSticker _, entries => RefusalExplained entries
  | _, _ => True

variable (python : Interpreter) (botId : UUID)

theorem explained_contained_iff (m : ApiMethod) (status : Nat)
    (explained : m.explainedStatus = some status) (response : HttpResponse)
    (content : List UInt8) (complete : response.data = .ok content) :
    ∃ handler, (m.method python botId).statusHandlers status = some handler ∧
      (Result.Contained (handler.handle response) ↔
        ∃ entries, python.loads content = .ok (.obj entries) ∧ m.Explains entries) := by
  have reasons (known : List (String × ClientErrorClass × Option String))
      (otherwise : ClientErrorClass) :
      Result.Contained ((reasonErrorHandler python known otherwise).handle response) ↔
        ∃ entries, python.loads content = .ok (.obj entries) ∧ True := by
    rw [reasonErrorHandler_contained_iff python known otherwise response content complete]
    simp
  cases m with
  | addAdmin =>
      cases explained
      exact ⟨addAdminBadRequestErrorHandler python, rfl, reasons _ _⟩
  | createChatLink =>
      cases explained
      exact ⟨serverErrorHandler python, rfl, reasons _ _⟩
  | createThread =>
      cases explained
      exact ⟨conflictErrorHandler python, rfl, reasons _ _⟩
  | downloadFile =>
      cases explained
      exact ⟨notFoundErrorHandler python, rfl, reasons _ _⟩
  | addSticker stickerPackId =>
      cases explained
      exact ⟨addStickerBadRequestErrorHandler python, rfl,
        addStickerBadRequestErrorHandler_contained_iff python response content complete⟩
  | _ => cases explained

/-- All other handlers stay inside the client's errors whatever the body is.  The cases go
by the number of handlers a method adds. -/
theorem handlers_contained (m : ApiMethod) :
    (m.method python botId).statusHandlers.Contained m.explainedStatus := by
  have authorized := authorizedStatusHandlers_contained m.explainedStatus
  cases m with
  | addAdmin => exact ((authorized.except _).throws _ _ _).throws _ _ _
  | createChatLink => exact ((authorized.throws _ _ _).throws _ _ _).except _
  | createThread => exact ((authorized.throws _ _ _).throws _ _ _).except _
  | downloadFile => exact (authorized.throws _ _ _).except _
  | addSticker => exact authorized.except _
  | updateUsersProfile => exact ((authorized.throws _ _ _).throws _ _ _).throws _ _ _
  | addUser | disableStealth | pinMessage | removeUser | setStealth | unpinMessage
  | createChat => exact (authorized.throws _ _ _).throws _ _ _
  | chatInfo | personalChat | deleteEvent | messageStatus | uploadFile
  | internalBotNotification | smartAppUploadFile | deleteSticker | deleteStickerPack
  | editStickerPack | getSticker | getStickerPack | searchUserByEmail | searchUserByEmailPost
  | searchUserByHuid | searchUserByLogin | searchUserByOtherId | usersAsCsv | getCall
  | getConference => exact authorized.throws _ _ _
  | getToken => exact StatusHandlers.contained_empty.throws _ _ _
  | _ => exact authorized

/-! ### The values that the rest of a method can handle -/

theorem reading_of_streamed (m : ApiMethod) (streams : m.streamed = true) :
    ∃ nothing, (m.method python botId).reading = .stream nothing := by
  cases m with
  | downloadFile => exact ⟨(), rfl⟩
  | usersAsCsv => exact ⟨(), rfl⟩
  | _ => cases streams

/-- The decoded values of a success that the method gets through. -/
def Handles : ApiMethod → Json → Prop
  | chatInfo, raw => ¬ NotIterable ["result", "members"] raw
  | personalChat, raw => ¬ NotIterable ["result", "members"] raw
  | listChats, raw => ¬ NotIterable ["result"] raw
  | directNotificationSync, raw => ¬ ∃ entries, raw = .obj entries ∧ AcceptedWithoutResult entries
  | _, _ => True

private theorem contains_of_raised_iff {Model : Type} (reading : ModelReading Model)
    (unpacked : ∀ response model, Result.Contained (reading.unpack response model))
    (path : List String) (raw : Json)
    (raised : ∀ exc, reading.check raw = .raised exc ↔ exc = .typeError ∧ NotIterable path raw)
    (response : HttpResponse) : reading.Contains response raw ↔ ¬ NotIterable path raw := by
  constructor
  · intro contains notIterable
    cases contains.checked .typeError ((raised .typeError).mpr ⟨rfl, notIterable⟩)
  · intro iterable
    refine ⟨?_, fun model _ => unpacked response model⟩
    intro exc raises
    exact absurd ((raised exc).mp raises).2 iterable

/-- A method that is not streamed reads a model, and what it raises in doing so depends on
the decoded value alone. -/
theorem reading_contains_iff (m : ApiMethod) (notStreamed : m.streamed = false) :
    ∃ reading, (m.method python botId).reading = .model reading ∧
      ∀ (response : HttpResponse) (content : List UInt8) (raw : Json),
        response.data = .ok content → (reading.Contains response raw ↔ m.Handles raw) := by
  have returning {Model : Type} (check : Validator Empty Model) (response : HttpResponse)
      (raw : Json) : (ModelReading.returning check).Contains response raw ↔ True :=
    iff_true_intro (ModelReading.returning_contains response check raw)
  have returningNone {Model : Type} (check : Validator Empty Model) (response : HttpResponse)
      (raw : Json) : (ModelReading.returningNone check).Contains response raw ↔ True :=
    iff_true_intro (ModelReading.returningNone_contains response check raw)
  cases m with
  | downloadFile => cases notStreamed
  | usersAsCsv => cases notStreamed
  | chatInfo =>
      refine ⟨_, rfl, fun response content raw _ => ?_⟩
      exact contains_of_raised_iff _ (fun _ model => Result.raises_ok _ model) _ raw
        (BotXAPIChatInfoResponsePayload.check_eq_raised_iff python raw) response
  | personalChat =>
      refine ⟨_, rfl, fun response content raw _ => ?_⟩
      exact contains_of_raised_iff _ (fun _ model => Result.raises_ok _ model) _ raw
        (BotXAPIPersonalChatResponsePayload.check_eq_raised_iff python raw) response
  | listChats =>
      refine ⟨_, rfl, fun response content raw _ => ?_⟩
      exact contains_of_raised_iff _ (fun _ model => Result.raises_ok _ model) _ raw
        (BotXAPIListChatResponsePayload.check_eq_raised_iff python raw) response
  | directNotificationSync =>
      refine ⟨_, rfl, fun response content raw complete => ?_⟩
      exact directNotificationSyncReading_contains_iff python response content raw complete
  | searchUserByEmailPost =>
      refine ⟨_, rfl, fun response content raw _ => iff_true_intro ⟨?_, ?_⟩⟩
      · intro exc raised
        exact absurd raised (Validated.lift_ne_raised _ exc)
      · intro payload _
        exact unpackFirstUser_contained payload
  | addAdmin | addUser | disableStealth | pinMessage | removeUser | setStealth | unpinMessage
  | editEvent | replyEvent | stopTypingEvent | typingEvent | smartAppEvent
  | smartAppNotification | deleteSticker | collectBotFunction =>
      exact ⟨_, rfl, fun response _ raw _ => returningNone _ response raw⟩
  | _ => exact ⟨_, rfl, fun response _ raw _ => returning _ response raw⟩

end ApiMethod

end Pybotx
