/-
The search for users by e-mail, with one address and with a list of them.

Both post to the same path.  The single search filters its body by hand where the other
prunes a model dump, and each converts the users that are found with code of its own.
-/

import Pybotx.Client.QueryParameters
import Pybotx.Client.Requests
import Pybotx.Client.UsersApi

set_option autoImplicit false

namespace Pybotx

open Validator

structure UserFromSearch where
  huid : UUID
  adLogin : Option String
  adDomain : Option String
  username : String
  company : Option String
  companyPosition : Option String
  department : Option String
  emails : List String
  otherId : Option String
  userKind : UserKinds
  avatar : Option String
  avatarPreview : Option String
  active : Option Bool
  description : Option String
  ipPhone : Option String
  manager : Option String
  office : Option String
  otherIpPhone : Option String
  otherPhone : Option String
  publicName : Option String
  ctsId : Option UUID
  rtsId : Option UUID
  createdAt : Option DateTime
  updatedAt : Option DateTime

def BotXAPISearchUserResponsePayload.toDomain (payload : BotXAPISearchUserResponsePayload) :
    UserFromSearch where
  huid := payload.result.userHuid
  adLogin := payload.result.adLogin
  adDomain := payload.result.adDomain
  avatar := payload.result.avatar
  avatarPreview := payload.result.avatarPreview
  username := payload.result.name
  company := payload.result.company
  companyPosition := payload.result.companyPosition
  department := payload.result.department
  emails := payload.result.emails
  otherId := payload.result.otherId
  userKind := convertUserKindToDomain payload.result.userKind
  active := match payload.result.active with
    | none => none
    | some active => some active
  description := payload.result.description
  ipPhone := payload.result.ipPhone
  manager := payload.result.manager
  office := payload.result.office
  otherIpPhone := payload.result.otherIpPhone
  otherPhone := payload.result.otherPhone
  publicName := payload.result.publicName
  ctsId := payload.result.ctsId
  rtsId := payload.result.rtsId
  createdAt := payload.result.createdAt
  updatedAt := payload.result.updatedAt

def BotXAPISearchUserByEmailsResponsePayload.toDomain
    (payload : BotXAPISearchUserByEmailsResponsePayload) : List UserFromSearch :=
  payload.result.map fun user =>
    { huid := user.userHuid
      adLogin := user.adLogin
      adDomain := user.adDomain
      avatar := user.avatar
      avatarPreview := user.avatarPreview
      username := user.name
      company := user.company
      companyPosition := user.companyPosition
      department := user.department
      emails := user.emails
      otherId := user.otherId
      userKind := convertUserKindToDomain user.userKind
      active := match user.active with
        | none => none
        | some active => some active
      createdAt := user.createdAt
      ctsId := user.ctsId
      description := user.description
      ipPhone := user.ipPhone
      manager := user.manager
      office := user.office
      otherIpPhone := user.otherIpPhone
      otherPhone := user.otherPhone
      publicName := user.publicName
      rtsId := user.rtsId
      updatedAt := user.updatedAt }

theorem toDomain_cons (user : BotXAPISearchUserResult) (others : List BotXAPISearchUserResult) :
    BotXAPISearchUserByEmailsResponsePayload.toDomain ⟨user :: others⟩ =
      BotXAPISearchUserResponsePayload.toDomain ⟨user⟩ ::
        BotXAPISearchUserByEmailsResponsePayload.toDomain ⟨others⟩ := rfl

/-- `{key: value for key, value in entries.items() if value is not Undefined}`. -/
def definedEntries (entries : List (String × Missing Json)) : List (String × Json) :=
  entries.filterMap fun entry => entry.2.toOption.map fun value => (entry.1, value)

/-- `request_json` of `SearchUserByEmailPostMethod`. -/
def BotXAPISearchUserByEmailRequestPayload.requestJson
    (payload : BotXAPISearchUserByEmailRequestPayload) : Json :=
  .obj (definedEntries [("emails", .value (.arr [.str payload.email])),
    ("trusts_search", payload.trustsSearch.map .bool),
    ("partial_response", payload.partialResponse.map .bool)])

structure BotXAPISearchUserByEmailsRequestPayload where
  emails : List String
  trustsSearch : Missing Bool
  partialResponse : Missing Bool

namespace BotXAPISearchUserByEmailsRequestPayload

def fromDomain (emails : List String) (trustsSearch partialResponse : Bool) :
    BotXAPISearchUserByEmailsRequestPayload where
  emails := emails
  trustsSearch := orUndefined trustsSearch
  partialResponse := orUndefined partialResponse

def modelDump (payload : BotXAPISearchUserByEmailsRequestPayload) : PyValue :=
  .dict [("emails", .list (payload.emails.map .str)),
    ("trusts_search", payload.trustsSearch.toPyValue .bool),
    ("partial_response", payload.partialResponse.toPyValue .bool)]

def body (payload : BotXAPISearchUserByEmailsRequestPayload) : Json :=
  .obj (paramsOf payload.modelDump)

end BotXAPISearchUserByEmailsRequestPayload

/-- Filtering by hand and pruning the dump leave the same body, in the same order. -/
theorem requestJson_eq_body (email : String) (trustsSearch partialResponse : Missing Bool) :
    (BotXAPISearchUserByEmailRequestPayload.mk email trustsSearch partialResponse).requestJson =
      (BotXAPISearchUserByEmailsRequestPayload.mk [email] trustsSearch partialResponse).body := by
  cases trustsSearch with
  | undefined => cases partialResponse <;> rfl
  | value trusts => cases partialResponse <;> rfl

section

variable (env : Environment) (trustsSearch partialResponse : Bool) (session : Session)

def searchUserByEmailPostPayload (email : String) : Payload where
  params := []
  content := .json
    (BotXAPISearchUserByEmailRequestPayload.fromDomain email trustsSearch
      partialResponse).requestJson

def searchUserByEmailsPayload (emails : List String) : Payload where
  params := []
  content := .json
    (BotXAPISearchUserByEmailsRequestPayload.fromDomain emails trustsSearch
      partialResponse).body

def searchUserByEmailPostRequest (email : String) : Option OutgoingRequest :=
  (searchUserByEmailPostMethod env.python).sends env
    (searchUserByEmailPostPayload trustsSearch partialResponse email) session

def searchUserByEmailsRequest (emails : List String) : Option OutgoingRequest :=
  (searchUserByEmailsMethod env.python).sends env
    (searchUserByEmailsPayload trustsSearch partialResponse emails) session

def searchUserByEmailPost (email : String) : Result UserFromSearch × Session :=
  let (found, session) := (searchUserByEmailPostMethod env.python).execute env
    (searchUserByEmailPostPayload trustsSearch partialResponse email) session
  (found.map BotXAPISearchUserResponsePayload.toDomain, session)

def searchUserByEmails (emails : List String) : Result (List UserFromSearch) × Session :=
  let (found, session) := (searchUserByEmailsMethod env.python).execute env
    (searchUserByEmailsPayload trustsSearch partialResponse emails) session
  (found.map BotXAPISearchUserByEmailsResponsePayload.toDomain, session)

end

/-- The single search comes to the first of the users that the other search comes to. -/
structure SameSearch (single : Result UserFromSearch) (several : Result (List UserFromSearch)) :
    Prop where
  found : ∀ user, single = .ok user ↔ ∃ others, several = .ok (user :: others)
  missing : (∃ message, single = .error (.client .userNotFound message)) ↔ several = .ok []
  invalid : (∃ message, single = .error (.client .invalidBotXResponsePayload message)) ↔
    ∃ message, several = .error (.client .invalidBotXResponsePayload message)

theorem SameSearch.of_payload (payload : BotXAPISearchUserByEmailsResponsePayload) :
    SameSearch ((unpackFirstUser payload).map BotXAPISearchUserResponsePayload.toDomain)
      (.ok (BotXAPISearchUserByEmailsResponsePayload.toDomain payload)) := by
  obtain ⟨users⟩ := payload
  cases users with
  | nil =>
      refine ⟨?_, ?_, ?_⟩
      · intro user
        simp [unpackFirstUser, Except.map, BotXAPISearchUserByEmailsResponsePayload.toDomain]
      · simp [unpackFirstUser, Except.map, BotXAPISearchUserByEmailsResponsePayload.toDomain]
      · simp [unpackFirstUser, Except.map]
  | cons user others =>
      rw [toDomain_cons]
      refine ⟨?_, ?_, ?_⟩
      · intro other
        simp [unpackFirstUser, Except.map]
      · simp [unpackFirstUser, Except.map]
      · simp [unpackFirstUser, Except.map]

theorem SameSearch.of_invalid (first second : String) :
    SameSearch (.error (.client .invalidBotXResponsePayload first))
      (.error (.client .invalidBotXResponsePayload second)) := by
  refine ⟨?_, ?_, ?_⟩
  · intro user
    simp
  · simp
  · simp

theorem SameSearch.of_other {first second : PyError}
    (firstOther : ∀ message, first ≠ .client .userNotFound message ∧
      first ≠ .client .invalidBotXResponsePayload message)
    (secondOther : ∀ message, second ≠ .client .invalidBotXResponsePayload message) :
    SameSearch (.error first) (.error second) := by
  refine ⟨?_, ?_, ?_⟩
  · intro user
    simp
  · simp [firstOther]
  · simp [firstOther, secondOther]

section

variable (python : Interpreter)

theorem userStatusHandlers_of_success {status : Nat}
    (successful : 200 ≤ status ∧ status < 300) : userStatusHandlers status = none := by
  have smaller : status < 404 := by omega
  exact (StatusHandlers.set_of_lt authorizedStatusHandlers _ smaller).trans
    (authorizedStatusHandlers_of_success successful)

def extractUsers (response : HttpResponse) : Result BotXAPISearchUserByEmailsResponsePayload :=
  verifyAndExtractApiModel python (silent (okPayload (list (BotXAPISearchUserResult.check python))))
    response

/-- What the searches make of one body, on whichever responses it comes. -/
theorem sameSearch_of_content {first second : HttpResponse} (content : List UInt8)
    (firstComplete : first.data = .ok content) (secondComplete : second.data = .ok content) :
    SameSearch
      ((extractUsers python first >>= unpackFirstUser).map
        BotXAPISearchUserResponsePayload.toDomain)
      ((extractUsers python second).map BotXAPISearchUserByEmailsResponsePayload.toDomain) := by
  unfold extractUsers
  cases decoded : python.loads content with
  | error failure =>
      rw [verifyAndExtractApiModel_of_undecoded python _ first content firstComplete failure
        decoded, verifyAndExtractApiModel_of_undecoded python _ second content secondComplete
        failure decoded]
      cases failure with
      | jsonDecode =>
          unfold DecodingError.extracted
          rw [raiseFromResponse_of_data _ first none content firstComplete,
            raiseFromResponse_of_data _ second none content secondComplete]
          exact .of_invalid _ _
      | _ => exact .of_other (by simp [DecodingError.exc]) (by simp [DecodingError.exc])
  | ok raw =>
      rw [verifyAndExtractApiModel_of_decoded python _ first content firstComplete raw decoded,
        verifyAndExtractApiModel_of_decoded python _ second content secondComplete raw decoded]
      cases checked : silent (okPayload (list (BotXAPISearchUserResult.check python))) raw with
      | valid payload => exact .of_payload payload
      | invalid =>
          simp only []
          rw [raiseFromResponse_of_data _ first none content firstComplete,
            raiseFromResponse_of_data _ second none content secondComplete]
          exact .of_invalid _ _
      | raised exc => exact absurd checked (Validated.lift_ne_raised _ exc)

end

/-! ### Agreement -/

/-- The two searches for one address send the same request, whenever they are called, and
make the same of every success with the same body. -/
structure EmailSearchAgrees (env : Environment) (session : Session) (email : String)
    (trustsSearch partialResponse : Bool) : Prop where
  requests : ∀ first second : Moment, Option.Rel OutgoingRequest.Same
    (searchUserByEmailPostRequest (env.atMoment first) trustsSearch partialResponse session email)
    (searchUserByEmailsRequest (env.atMoment second) trustsSearch partialResponse session [email])
  answers : ∀ (first second : Moment) (one several : OutgoingRequest),
    searchUserByEmailPostRequest (env.atMoment first) trustsSearch partialResponse session email =
      some one →
    searchUserByEmailsRequest (env.atMoment second) trustsSearch partialResponse session [email] =
      some several →
    ∀ (oneUrl severalUrl : String) (oneStatus severalStatus : Nat) (body : Body),
      env.httpClient one = .answered oneUrl oneStatus body →
      env.httpClient several = .answered severalUrl severalStatus body →
      200 ≤ oneStatus ∧ oneStatus < 300 → 200 ≤ severalStatus ∧ severalStatus < 300 →
      SameSearch
        (searchUserByEmailPost (env.atMoment first) trustsSearch partialResponse session email).1
        (searchUserByEmails (env.atMoment second) trustsSearch partialResponse session [email]).1

section

variable {env : Environment} {trustsSearch partialResponse : Bool} {session : Session}

theorem searchUserByEmailPayload_eq (email : String) :
    searchUserByEmailPostPayload trustsSearch partialResponse email =
      searchUserByEmailsPayload trustsSearch partialResponse [email] := by
  unfold searchUserByEmailPostPayload searchUserByEmailsPayload
  exact congrArg (fun body => Payload.mk [] (.json body)) (requestJson_eq_body email _ _)

variable {outgoing : OutgoingRequest} {url : String} {status : Nat} {body : Body}
  (answered : env.httpClient outgoing = .answered url status body)
  (complete : body.failure = none) (successful : 200 ≤ status ∧ status < 300)

include answered complete successful

theorem searchUserByEmailPost_of_success {email : String}
    (sent : searchUserByEmailPostRequest env trustsSearch partialResponse session email =
      some outgoing) :
    (searchUserByEmailPost env trustsSearch partialResponse session email).1 =
      (extractUsers env.python ⟨some outgoing.method, url, status, body⟩ >>=
        unpackFirstUser).map BotXAPISearchUserResponsePayload.toDomain := by
  have unhandled := userStatusHandlers_of_success successful
  exact congrArg (Except.map BotXAPISearchUserResponsePayload.toDomain)
    (BotXMethod.execute_of_success sent answered complete successful unhandled)

theorem searchUserByEmails_of_success {emails : List String}
    (sent : searchUserByEmailsRequest env trustsSearch partialResponse session emails =
      some outgoing) :
    (searchUserByEmails env trustsSearch partialResponse session emails).1 =
      (extractUsers env.python ⟨some outgoing.method, url, status, body⟩).map
        BotXAPISearchUserByEmailsResponsePayload.toDomain := by
  have unhandled := authorizedStatusHandlers_of_success successful
  have received := BotXMethod.execute_of_success sent answered complete successful unhandled
  refine (congrArg (Except.map BotXAPISearchUserByEmailsResponsePayload.toDomain) received).trans ?_
  change (extractUsers env.python _ >>= fun payload => .ok payload).map _ = _
  cases extractUsers env.python ⟨some outgoing.method, url, status, body⟩ <;> rfl

end

theorem emailSearch_agrees (env : Environment) (session : Session) (email : String)
    (trustsSearch partialResponse : Bool) :
    EmailSearchAgrees env session email trustsSearch partialResponse := by
  refine ⟨?_, ?_⟩
  · intro first second
    unfold searchUserByEmailPostRequest searchUserByEmailsRequest
    rw [searchUserByEmailPayload_eq]
    exact BotXMethod.sends_same first second
  · intro first second one several oneSent severalSent oneUrl severalUrl oneStatus severalStatus
      body oneAnswered severalAnswered oneSuccessful severalSuccessful
    change (env.atMoment first).httpClient one = _ at oneAnswered
    change (env.atMoment second).httpClient several = _ at severalAnswered
    cases failure : body.failure with
    | none =>
        rw [searchUserByEmailPost_of_success oneAnswered failure oneSuccessful oneSent,
          searchUserByEmails_of_success severalAnswered failure severalSuccessful severalSent]
        have oneComplete := (body.read_eq_ok_iff body.bytes).mpr ⟨failure, rfl⟩
        exact sameSearch_of_content env.python body.bytes oneComplete oneComplete
    | some description =>
        have broken (url : String) (status : Nat) : (Exchange.answered url status body).Broken := by
          simp [Exchange.Broken, failure]
        have oneBroken := oneAnswered ▸ broken oneUrl oneStatus
        have severalBroken := severalAnswered ▸ broken severalUrl severalStatus
        obtain ⟨oneMessage, oneFailed⟩ := BotXMethod.execute_of_broken oneSent oneBroken
        obtain ⟨severalMessage, severalFailed⟩ :=
          BotXMethod.execute_of_broken severalSent severalBroken
        have oneResult : (searchUserByEmailPost (env.atMoment first) trustsSearch partialResponse
            session email).1 = .error (.client .botXNetwork oneMessage) :=
          congrArg (Except.map BotXAPISearchUserResponsePayload.toDomain) oneFailed
        have severalResult : (searchUserByEmails (env.atMoment second) trustsSearch partialResponse
            session [email]).1 = .error (.client .botXNetwork severalMessage) :=
          congrArg (Except.map BotXAPISearchUserByEmailsResponsePayload.toDomain) severalFailed
        rw [oneResult, severalResult]
        exact .of_other (by simp) (by simp)

end Pybotx
