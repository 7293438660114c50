/-
The methods of the users API.
-/

import Pybotx.Client.MethodExecution
import Pybotx.Models.Enums

set_option autoImplicit false

namespace Pybotx

open Validator

section

variable (python : Interpreter)

structure BotXAPISearchUserResult where
  userHuid : UUID
  adLogin : Option String
  adDomain : Option String
  avatar : Option String
  avatarPreview : Option String
  name : String
  company : Option String
  companyPosition : Option String
  department : Option String
  emails : List String
  otherId : Option String
  userKind : APIUserKinds
  active : Option Bool
  description : Option String
  ipPhone : Option String
  manager : Option String
  office : Option String
  otherIpPhone : Option String
  otherPhone : Option String
  publicName : Option String
  ctsId : Option UUID
  rtsId : Option UUID
  createdAt : Option DateTime
  updatedAt : Option DateTime

/-- `convert_phone_to_string` before `str | None`: any value has a text. -/
def checkPhone {ε : Type} : Validator ε (Option String)
  | .null => .valid none
  | value => .valid (some (python.str value))

def optionalText {ε : Type} (key : String) (entries : List (String × Json)) :
    Validated ε (Option String) :=
  defaulted key none (optional str) entries

def BotXAPISearchUserResult.check {ε : Type} : Validator ε BotXAPISearchUserResult :=
  model fun entries => BotXAPISearchUserResult.mk <$>
    required "user_huid" python.checkUuid entries <*>
    optionalText "ad_login" entries <*>
    optionalText "ad_domain" entries <*>
    optionalText "avatar" entries <*>
    optionalText "avatar_preview" entries <*>
    required "name" str entries <*>
    optionalText "company" entries <*>
    optionalText "company_position" entries <*>
    optionalText "department" entries <*>
    defaulted "emails" [] (list str) entries <*>
    optionalText "other_id" entries <*>
    required "user_kind" (member APIUserKinds.members APIUserKinds.value) entries <*>
    defaulted "active" none (optional python.checkBool) entries <*>
    optionalText "description" entries <*>
    defaulted "ip_phone" none (checkPhone python) entries <*>
    optionalText "manager" entries <*>
    optionalText "office" entries <*>
    defaulted "other_ip_phone" none (checkPhone python) entries <*>
    defaulted "other_phone" none (checkPhone python) entries <*>
    optionalText "public_name" entries <*>
    defaulted "cts_id" none (optional python.checkUuid) entries <*>
    defaulted "rts_id" none (optional python.checkUuid) entries <*>
    defaulted "created_at" none (optional python.checkDatetime) entries <*>
    defaulted "updated_at" none (optional python.checkDatetime) entries

abbrev BotXAPISearchUserResponsePayload := OkPayload BotXAPISearchUserResult

abbrev BotXAPISearchUserByEmailsResponsePayload := OkPayload (List BotXAPISearchUserResult)

/-- `Literal[True]`. -/
def literalTrue {ε : Type} : Validator ε Unit
  | .bool true => .valid ()
  | _ => .invalid

def userStatusHandlers : StatusHandlers :=
  authorizedStatusHandlers.set 404 (responseExceptionThrower .userNotFound none)

def searchUserByEmailMethod : BotXMethod :=
  authorizedMethod "GET" "/api/v3/botx/users/by_email" userStatusHandlers
    (.returning (okPayload (BotXAPISearchUserResult.check python)))

def unpackFirstUser (payload : BotXAPISearchUserByEmailsResponsePayload) :
    Result BotXAPISearchUserResponsePayload :=
  match payload.result with
  | [] => .error (.client .userNotFound "User not found")
  | user :: _ => .ok { result := user }

theorem unpackFirstUser_contained (payload : BotXAPISearchUserByEmailsResponsePayload) :
    Result.Contained (unpackFirstUser payload) := by
  unfold unpackFirstUser
  cases payload.result with
  | nil => exact (Result.raises_error_iff _ _).mpr rfl
  | cons user rest => exact Result.raises_ok _ _

def searchUserByEmailPostMethod : BotXMethod :=
  authorizedMethod "POST" "/api/v3/botx/users/by_email" userStatusHandlers
    { Model := BotXAPISearchUserByEmailsResponsePayload
      check := silent (okPayload (list (BotXAPISearchUserResult.check python)))
      unpack := fun _ payload => unpackFirstUser payload
      checkQuiet := ModelReading.silentQuiet _
      unpackQuiet := fun _ _ payload _ => (unpackFirstUser_contained payload).quiet }

def searchUserByEmailsMethod : BotXMethod :=
  authorizedMethod "POST" "/api/v3/botx/users/by_email" authorizedStatusHandlers
    (.returning (okPayload (list (BotXAPISearchUserResult.check python))))

def searchUserByHuidMethod : BotXMethod :=
  authorizedMethod "GET" "/api/v3/botx/users/by_huid" userStatusHandlers
    (.returning (okPayload (BotXAPISearchUserResult.check python)))

def searchUserByLoginMethod : BotXMethod :=
  authorizedMethod "GET" "/api/v3/botx/users/by_login" userStatusHandlers
    (.returning (okPayload (BotXAPISearchUserResult.check python)))

def searchUserByOtherIdMethod : BotXMethod :=
  authorizedMethod "GET" "/api/v3/botx/users/by_other_id" userStatusHandlers
    (.returning (okPayload (BotXAPISearchUserResult.check python)))

def updateUsersProfileMethod : BotXMethod :=
  authorizedMethod "PUT" "/api/v3/botx/users/update_profile"
    (((authorizedStatusHandlers.set 400 (responseExceptionThrower .invalidProfileData none)).set
      404 (responseExceptionThrower .userNotFound none)).set
      503 (responseExceptionThrower .userProfileUpdateUnavailable none))
    (.returning (okPayload literalTrue))

def usersAsCsvMethod : BotXMethod :=
  streamedMethod "GET" "/api/v3/botx/users/users_as_csv"
    (authorizedStatusHandlers.set 400 (responseExceptionThrower .noUserKindSelected none))

end

end Pybotx
