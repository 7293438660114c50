/-
The methods of the chats API.

The validators of the members of a chat and of the list of chats run before the types of
the fields are checked, and iterate over whatever value the field has.
-/

import Pybotx.Client.MethodExecution
import Pybotx.Models.Enums

set_option autoImplicit false

namespace Pybotx

open Validator

/-- `for item in value`; `none` is the `TypeError` of a value that cannot be iterated.  A
dictionary gives its keys and a text its characters. -/
def iterate : Json → Option (List Json)
  | .arr items => some items
  | .obj entries => some (entries.map fun entry => .str entry.1)
  | .str text => some (text.toList.map fun c => .str c.toString)
  | _ => none

def iterated {Item : Type} (items : List Json → Validated Empty (List Item)) :
    Scalars.Check (List Item) := fun value =>
  match iterate value with
  | none => .raised .typeError
  | some values => (items values).lift

theorem iterated_eq_raised_iff {Item : Type} (items : List Json → Validated Empty (List Item))
    (value : Json) (exc : PyError) :
    iterated items value = .raised exc ↔ exc = .typeError ∧ iterate value = none := by
  unfold iterated
  cases iterate value with
  | none =>
      constructor
      · intro raised
        cases raised
        exact ⟨rfl, rfl⟩
      · rintro ⟨rfl, _⟩
        rfl
  | some values => simp

/-- `Model | dict[str, Any]`, where a dictionary stays as it is if the model refuses it. -/
inductive ModelOrDict (Model : Type) where
  | parsed (model : Model)
  | unsupported (entries : List (String × Json))

def parseDict {Model : Type} (check : Validator Empty Model) (entries : List (String × Json)) :
    ModelOrDict Model :=
  match check (.obj entries) with
  | .valid model => .parsed model
  | _ => .unsupported entries

/-! ### Response models -/

section

variable (python : Interpreter)

structure BotXAPIChatInfoMember where
  admin : Bool
  userHuid : UUID
  userKind : APIUserKinds

abbrev BotXAPIPersonalChatMember := BotXAPIChatInfoMember

def BotXAPIChatInfoMember.check {ε : Type} : Validator ε BotXAPIChatInfoMember :=
  model fun entries => BotXAPIChatInfoMember.mk <$>
    required "admin" python.checkBool entries <*>
    required "user_huid" python.checkUuid entries <*>
    required "user_kind" (member APIUserKinds.members APIUserKinds.value) entries

structure BotXAPIChatInfoFields where
  chatType : APIChatTypes
  creator : Option UUID
  description : Option String
  groupChatId : UUID
  insertedAt : DateTime
  name : String
  sharedHistory : Bool

structure BotXAPIChatInfoResult extends BotXAPIChatInfoFields where
  members : List (ModelOrDict BotXAPIChatInfoMember)

def BotXAPIChatInfoFields.fields {ε : Type} (entries : List (String × Json)) :
    Validated ε BotXAPIChatInfoFields :=
  BotXAPIChatInfoFields.mk <$>
    required "chat_type" (member APIChatTypes.members APIChatTypes.value) entries <*>
    required "creator" (optional python.checkUuid) entries <*>
    defaulted "description" none (optional str) entries <*>
    required "group_chat_id" python.checkUuid entries <*>
    required "inserted_at" python.checkDatetime entries <*>
    required "name" str entries <*>
    required "shared_history" python.checkBool entries

/-- Dictionaries are kept, anything else is skipped. -/
def validateMembers : Scalars.Check (List (ModelOrDict BotXAPIChatInfoMember)) :=
  iterated fun items => .valid (items.filterMap fun item =>
    match item with
    | .obj entries => some (parseDict (BotXAPIChatInfoMember.check python) entries)
    | _ => none)

def BotXAPIChatInfoResult.check : Scalars.Check BotXAPIChatInfoResult :=
  model fun entries => BotXAPIChatInfoResult.mk <$>
    (BotXAPIChatInfoFields.fields python entries).lift <*>
    defaulted "members" [] (validateMembers python) entries

abbrev BotXAPIChatInfoResponsePayload := OkPayload BotXAPIChatInfoResult

def BotXAPIChatInfoResponsePayload.check : Scalars.Check BotXAPIChatInfoResponsePayload :=
  okPayload (BotXAPIChatInfoResult.check python)

structure BotXAPIPersonalChatFields where
  chatType : APIChatTypes
  creator : Option UUID
  description : Option String
  groupChatId : UUID
  insertedAt : DateTime
  updatedAt : Option DateTime
  name : String
  sharedHistory : Bool

inductive PersonalChatItem where
  | member (item : ModelOrDict BotXAPIPersonalChatMember)
  | id (id : UUID)

structure BotXAPIPersonalChatResult extends BotXAPIPersonalChatFields where
  members : List PersonalChatItem

def BotXAPIPersonalChatFields.fields {ε : Type} (entries : List (String × Json)) :
    Validated ε BotXAPIPersonalChatFields :=
  BotXAPIPersonalChatFields.mk <$>
    required "chat_type" (member APIChatTypes.members APIChatTypes.value) entries <*>
    defaulted "creator" none (optional python.checkUuid) entries <*>
    defaulted "description" none (optional str) entries <*>
    required "group_chat_id" python.checkUuid entries <*>
    required "inserted_at" python.checkDatetime entries <*>
    defaulted "updated_at" none (optional python.checkDatetime) entries <*>
    required "name" str entries <*>
    required "shared_history" python.checkBool entries

/-- Texts that are identifiers are kept too. -/
def parseMembers : Scalars.Check (List PersonalChatItem) :=
  iterated fun items => .valid (items.filterMap fun item =>
    match item with
    | .obj entries => some (.member (parseDict (BotXAPIChatInfoMember.check python) entries))
    | .str text => (UUID.parse text).map .id
    | _ => none)

def BotXAPIPersonalChatResult.check : Scalars.Check BotXAPIPersonalChatResult :=
  model fun entries => BotXAPIPersonalChatResult.mk <$>
    (BotXAPIPersonalChatFields.fields python entries).lift <*>
    defaulted "members" [] (parseMembers python) entries

abbrev BotXAPIPersonalChatResponsePayload := OkPayload BotXAPIPersonalChatResult

/-- `extra="forbid"`. -/
def noExtra {ε : Type} (keys : List String) (entries : List (String × Json)) :
    Validated ε Unit :=
  if entries.all fun entry => keys.contains entry.1 then .valid () else .invalid

def BotXAPIPersonalChatResponsePayload.check : Scalars.Check BotXAPIPersonalChatResponsePayload :=
  fun raw => (fun _ payload => payload) <$>
    (model (noExtra ["status", "result"]) raw).lift <*>
    okPayload (BotXAPIPersonalChatResult.check python) raw

structure BotXAPIListChatResult where
  groupChatId : UUID
  chatType : APIChatTypes
  name : String
  description : Option String
  members : List UUID
  insertedAt : DateTime
  updatedAt : DateTime
  sharedHistory : Bool

def BotXAPIListChatResult.check {ε : Type} : Validator ε BotXAPIListChatResult :=
  model fun entries => BotXAPIListChatResult.mk <$>
    required "group_chat_id" python.checkUuid entries <*>
    required "chat_type" (member APIChatTypes.members APIChatTypes.value) entries <*>
    required "name" str entries <*>
    defaulted "description" none (optional str) entries <*>
    required "members" (list python.checkUuid) entries <*>
    required "inserted_at" python.checkDatetime entries <*>
    required "updated_at" python.checkDatetime entries <*>
    required "shared_history" python.checkBool entries

/-- Items that are no dictionaries stay in the list, which then is invalid. -/
def validateResult : Scalars.Check (List (ModelOrDict BotXAPIListChatResult)) :=
  iterated fun items => Validated.all (items.map fun item =>
    match item with
    | .obj entries => .valid (parseDict (BotXAPIListChatResult.check python) entries)
    | _ => .invalid)

abbrev BotXAPIListChatResponsePayload := OkPayload (List (ModelOrDict BotXAPIListChatResult))

def BotXAPIListChatResponsePayload.check : Scalars.Check BotXAPIListChatResponsePayload :=
  okPayload (validateResult python)

structure BotXAPIChatIdResult where
  chatId : UUID

def BotXAPIChatIdResult.check {ε : Type} : Validator ε BotXAPIChatIdResult :=
  model fun entries => BotXAPIChatIdResult.mk <$> required "chat_id" python.checkUuid entries

structure BotXAPIChatLinkResult where
  url : String
  linkType : ChatLinkTypes
  accessCode : Option String
  linkTtl : Option Int

def BotXAPIChatLinkResult.check {ε : Type} : Validator ε BotXAPIChatLinkResult :=
  model fun entries => BotXAPIChatLinkResult.mk <$>
    required "url" str entries <*>
    required "link_type" (member ChatLinkTypes.members ChatLinkTypes.value) entries <*>
    required "access_code" (optional str) entries <*>
    required "link_ttl" (optional python.checkInt) entries

structure BotXAPIThreadIdResult where
  threadId : UUID

def BotXAPIThreadIdResult.check {ε : Type} : Validator ε BotXAPIThreadIdResult :=
  model fun entries => BotXAPIThreadIdResult.mk <$> required "thread_id" python.checkUuid entries

def NotIterable (path : List String) (raw : Json) : Prop :=
  ∃ value, raw.atPath path = some value ∧ iterate value = none

theorem members_eq_raised_iff {Fields Item Result : Type} (build : Fields → List Item → Result)
    (fields : List (String × Json) → Validated Empty Fields)
    (items : List Json → Validated Empty (List Item)) (raw : Json) (exc : PyError) :
    okPayload (model fun entries => build <$> (fields entries).lift <*>
        defaulted "members" [] (iterated items) entries) raw = .raised exc ↔
      exc = .typeError ∧ NotIterable ["result", "members"] raw := by
  simp only [okPayload_eq_raised_iff, model_eq_raised_iff, Validated.map_lift_seq_eq_raised_iff,
    defaulted_eq_raised_iff, iterated_eq_raised_iff]
  constructor
  · rintro ⟨_, atResult, entries, rfl, value, found, typeError, notIterable⟩
    refine ⟨typeError, value, ?_, notIterable⟩
    cases raw with
    | obj outer =>
        have inside : Dict.get "result" outer = some (.obj entries) := by
          simpa [Json.atPath] using atResult
        simp [Json.atPath, inside, found]
    | _ => cases atResult
  · rintro ⟨typeError, value, reached, notIterable⟩
    cases raw with
    | obj outer =>
        cases inside : Dict.get "result" outer with
        | none => simp [Json.atPath, inside] at reached
        | some result =>
            cases result with
            | obj entries =>
                have found : Dict.get "members" entries = some value := by
                  simpa [Json.atPath, inside] using reached
                exact ⟨.obj entries, by simp [Json.atPath, inside], entries, rfl, value, found,
                  typeError, notIterable⟩
            | _ => simp [Json.atPath, inside] at reached
    | _ => cases reached

theorem BotXAPIChatInfoResponsePayload.check_eq_raised_iff (raw : Json) (exc : PyError) :
    BotXAPIChatInfoResponsePayload.check python raw = .raised exc ↔
      exc = .typeError ∧ NotIterable ["result", "members"] raw :=
  members_eq_raised_iff BotXAPIChatInfoResult.mk (BotXAPIChatInfoFields.fields python) _ raw exc

theorem BotXAPIPersonalChatResponsePayload.check_eq_raised_iff (raw : Json) (exc : PyError) :
    BotXAPIPersonalChatResponsePayload.check python raw = .raised exc ↔
      exc = .typeError ∧ NotIterable ["result", "members"] raw :=
  (Validated.map_lift_seq_eq_raised_iff _ _ _ exc).trans
    (members_eq_raised_iff BotXAPIPersonalChatResult.mk (BotXAPIPersonalChatFields.fields python)
      _ raw exc)

theorem BotXAPIListChatResponsePayload.check_eq_raised_iff (raw : Json) (exc : PyError) :
    BotXAPIListChatResponsePayload.check python raw = .raised exc ↔
      exc = .typeError ∧ NotIterable ["result"] raw := by
  unfold BotXAPIListChatResponsePayload.check validateResult
  simp only [okPayload_eq_raised_iff, iterated_eq_raised_iff]
  constructor
  · rintro ⟨value, reached, typeError, notIterable⟩
    exact ⟨typeError, value, reached, notIterable⟩
  · rintro ⟨typeError, value, reached, notIterable⟩
    exact ⟨value, reached, typeError, notIterable⟩

def addAdminBadRequestErrorHandler : StatusHandler :=
  reasonErrorHandler python
    [("chat_members_not_modifiable", .cantUpdatePersonalChat,
        some "Personal chat couldn't have admins"),
      ("admins_not_changed", .invalidUsersList,
        some "Specified users are already admins or missing from chat")]
    .invalidBotXStatusCode

def serverErrorHandler : StatusHandler :=
  reasonErrorHandler python [("error_from_messaging_service", .chatLinkCreation, none)]
    .invalidBotXStatusCode

def conflictErrorHandler : StatusHandler :=
  reasonErrorHandler python [("thread_already_created", .threadAlreadyExists, none)]
    .threadCreation

def chatStatusHandlers : StatusHandlers :=
  (authorizedStatusHandlers.set 403 (responseExceptionThrower .permissionDenied none)).set 404
    (responseExceptionThrower .chatNotFound none)

/-! ### Methods -/

def addAdminMethod : BotXMethod :=
  authorizedMethod "POST" "/api/v3/botx/chats/add_admin"
    (((authorizedStatusHandlers.set 400 (addAdminBadRequestErrorHandler python)).set 403
      (responseExceptionThrower .permissionDenied none)).set 404
      (responseExceptionThrower .chatNotFound none))
    (.returningNone okStatus)

def addUserMethod : BotXMethod :=
  authorizedMethod "POST" "/api/v3/botx/chats/add_user" chatStatusHandlers
    (.returningNone okStatus)

def chatInfoMethod : BotXMethod :=
  authorizedMethod "GET" "/api/v3/botx/chats/info"
    (authorizedStatusHandlers.set 404 (responseExceptionThrower .chatNotFound none))
    { Model := BotXAPIChatInfoResponsePayload
      check := BotXAPIChatInfoResponsePayload.check python
      unpack := fun _ model => .ok model
      checkQuiet := by
        intro raw exc raised
        rw [((BotXAPIChatInfoResponsePayload.check_eq_raised_iff python raw exc).mp raised).1]
        rfl
      unpackQuiet := fun _ _ model _ => Result.raises_ok _ model }

def createChatMethod : BotXMethod :=
  authorizedMethod "POST" "/api/v3/botx/chats/create"
    ((authorizedStatusHandlers.set 403 (responseExceptionThrower .chatCreationProhibited none)).set
      422 (responseExceptionThrower .chatCreation none))
    (.returning (okPayload (BotXAPIChatIdResult.check python)))

def createChatLinkMethod : BotXMethod :=
  authorizedMethod "POST" "/api/v3/botx/chats/create_link"
    (((authorizedStatusHandlers.set 403
      (responseExceptionThrower .chatLinkCreationProhibited none)).set 404
      (responseExceptionThrower .chatNotFound none)).set 500 (serverErrorHandler python))
    (.returning (okPayload (BotXAPIChatLinkResult.check python)))

def createThreadMethod : BotXMethod :=
  authorizedMethod "POST" "/api/v3/botx/chats/create_thread"
    (((authorizedStatusHandlers.set 403
      (responseExceptionThrower .threadCreationProhibited none)).set 404
      (responseExceptionThrower .eventNotFound none)).set 409 (conflictErrorHandler python))
    (.returning (okPayload (BotXAPIThreadIdResult.check python)))

def disableStealthMethod : BotXMethod :=
  authorizedMethod "POST" "/api/v3/botx/chats/stealth_disable" chatStatusHandlers
    (.returningNone okStatus)

def listChatsMethod : BotXMethod :=
  authorizedMethod "GET" "/api/v3/botx/chats/list" authorizedStatusHandlers
    { Model := BotXAPIListChatResponsePayload
      check := BotXAPIListChatResponsePayload.check python
      unpack := fun _ model => .ok model
      checkQuiet := by
        intro raw exc raised
        rw [((BotXAPIListChatResponsePayload.check_eq_raised_iff python raw exc).mp raised).1]
        rfl
      unpackQuiet := fun _ _ model _ => Result.raises_ok _ model }

def personalChatMethod : BotXMethod :=
  authorizedMethod "GET" "/api/v1/botx/chats/personal"
    (authorizedStatusHandlers.set 404 (responseExceptionThrower .chatNotFound none))
    { Model := BotXAPIPersonalChatResponsePayload
      check := BotXAPIPersonalChatResponsePayload.check python
      unpack := fun _ model => .ok model
      checkQuiet := by
        intro raw exc raised
        rw [((BotXAPIPersonalChatResponsePayload.check_eq_raised_iff python raw exc).mp raised).1]
        rfl
      unpackQuiet := fun _ _ model _ => Result.raises_ok _ model }

def pinMessageMethod : BotXMethod :=
  authorizedMethod "POST" "/api/v3/botx/chats/pin_message" chatStatusHandlers
    (.returningNone okStatus)

def removeUserMethod : BotXMethod :=
  authorizedMethod "POST" "/api/v3/botx/chats/remove_user" chatStatusHandlers
    (.returningNone okStatus)

def setStealthMethod : BotXMethod :=
  authorizedMethod "POST" "/api/v3/botx/chats/stealth_set" chatStatusHandlers
    (.returningNone okStatus)

def unpinMessageMethod : BotXMethod :=
  authorizedMethod "POST" "/api/v3/botx/chats/unpin_message" chatStatusHandlers
    (.returningNone okStatus)

end

end Pybotx
