/-
The exceptions the library raises or lets escape.

`client` holds the subclasses of `BaseClientError`.  The interpreter's own exceptions
carry a text only where the source writes one.
-/

import Pybotx.Foundation.Json
import Pybotx.Foundation.Uuid

set_option autoImplicit false

namespace Pybotx

inductive ClientErrorClass where
  | invalidBotXStatusCode
  | invalidBotXResponsePayload
  | botXNetwork
  | invalidBotAccount
  | rateLimitReached
  | permissionDenied
  | chatNotFound
  | cantUpdatePersonalChat
  | invalidUsersList
  | chatCreationProhibited
  | chatCreation
  | chatLinkCreationProhibited
  | chatLinkCreation
  | threadAlreadyExists
  | threadCreation
  | threadCreationProhibited
  | eventNotFound
  | fileDeleted
  | fileMetadataNotFound
  | fileTypeNotAllowed
  | messageNotFound
  | botIsNotChatMember
  | finalRecipientsListEmpty
  | stealthModeDisabled
  | userNotFound
  | invalidProfileData
  | noUserKindSelected
  | userProfileUpdateUnavailable
  | stickerPackOrStickerNotFound
  | invalidEmoji
  | invalidImage
  | conferenceNotFound
  | callNotFound
  deriving DecidableEq, Repr

inductive PyError where
  | client (cls : ClientErrorClass) (message : String)
  | unverifiedRequest (message : String)
  | requestHeadersNotProvided
  | unknownBotAccount (botId : UUID)
  | unsupportedBotAPIVersion (version : Json)
  | unknownSystemEvent (typeName : Json)
  | validationError
  | valueError (message : String)
  | typeError
  | attributeError
  | indexError
  | keyError
  | assertionError
  | notImplemented
  | jsonDecodeError
  | unicodeDecodeError
  | recursionError
  | httpError (description : String)
  | mediaError

namespace PyError

/-- `exc.args[0]` of `UnknownBotAccountError`. -/
def unknownBotAccountMessage (botId : UUID) : String :=
  "No bot account with bot_id: `" ++ botId.str ++ "`"

def isClientError : PyError → Bool
  | client _ _ => true
  | _ => false

/-- The transport's own `HTTPError`. -/
def isHttpError : PyError → Bool
  | httpError _ => true
  | _ => false

end PyError

/-- A Python call that returns a value or raises. -/
abbrev Result (α : Type) := Except PyError α

namespace Result

variable {α β : Type}

theorem bind_eq_ok (call : Result α) (next : α → Result β) (value : β) :
    (call >>= next) = .ok value ↔ ∃ middle, call = .ok middle ∧ next middle = .ok value := by
  cases call with
  | error exc =>
      constructor
      · intro impossible
        cases impossible
      · rintro ⟨_, impossible, _⟩
        cases impossible
  | ok middle =>
      constructor
      · intro returned
        exact ⟨middle, rfl, returned⟩
      · rintro ⟨_, same, returned⟩
        cases same
        exact returned

end Result

end Pybotx
