/-
A method of the API: what its class declares, and how `execute` runs.

`execute` works on a `Session`: the storage, where an authorized method may cache a token,
and the buffer of the caller, into which a streamed body is written.
-/

import Pybotx.Client.AuthorizedBotXMethod

set_option autoImplicit false

namespace Pybotx

open Validator

/-- `check` is the model class of the response and `unpack` the rest of `execute`.  Neither
has an exception of the transport to raise. -/
structure ModelReading (Answer : Type) : Type 1 where
  Model : Type
  check : Scalars.Check Model
  unpack : HttpResponse → Model → Result Answer
  checkQuiet : ∀ raw exc, check raw = .raised exc → (!exc.isHttpError) = true
  unpackQuiet : ∀ response content model, response.data = .ok content →
    Result.Quiet (unpack response model)

namespace ModelReading

variable {Model : Type}

theorem silentQuiet (check : Validator Empty Model) (raw : Json) (exc : PyError)
    (raised : silent check raw = .raised exc) : (!exc.isHttpError) = true :=
  absurd raised (Validated.lift_ne_raised _ exc)

def returning (check : Validator Empty Model) : ModelReading Model where
  Model := Model
  check := silent check
  unpack := fun _ model => .ok model
  checkQuiet := silentQuiet check
  unpackQuiet := fun _ _ model _ => Result.raises_ok _ model

def returningNone (check : Validator Empty Model) : ModelReading Unit where
  Model := Model
  check := silent check
  unpack := fun _ _ => .ok ()
  checkQuiet := silentQuiet check
  unpackQuiet := fun _ _ _ _ => Result.raises_ok _ ()

variable {Answer : Type} (reading : ModelReading Answer)

def receive (python : Interpreter) (response : HttpResponse) : Result Answer := do
  let model ← verifyAndExtractApiModel python reading.check response
  reading.unpack response model

/-- Validating the value and unpacking the model stay inside the client's errors. -/
structure Contains (response : HttpResponse) (raw : Json) : Prop where
  checked : ∀ exc, reading.check raw = .raised exc → exc.isClientError = true
  unpacked : ∀ model, reading.check raw = .valid model →
    Result.Contained (reading.unpack response model)

/-- The body decodes, or fails to with a `JSONDecodeError`, to a value that is contained. -/
structure Understands (python : Interpreter) (response : HttpResponse)
    (content : List UInt8) : Prop where
  undecoded : ∀ failure, python.loads content = .error failure → failure = .jsonDecode
  decoded : ∀ raw, python.loads content = .ok raw → reading.Contains response raw

variable (python : Interpreter) (response : HttpResponse) (content : List UInt8)

theorem receive_contained_iff (complete : response.data = .ok content) :
    Result.Contained (reading.receive python response) ↔
      reading.Understands python response content := by
  unfold receive
  cases decoded : python.loads content with
  | error failure =>
      rw [verifyAndExtractApiModel_of_undecoded python reading.check response content complete
        failure decoded]
      constructor
      · intro contained
        refine ⟨?_, ?_⟩
        · intro other same
          rw [decoded] at same
          cases same
          cases failure with
          | jsonDecode => rfl
          | _ => cases contained _ rfl
        · intro raw same
          rw [decoded] at same
          cases same
      · intro understood
        cases understood.undecoded failure decoded
        exact raiseFromResponse_bind_contained _ _ _ content complete _
  | ok raw =>
      rw [verifyAndExtractApiModel_of_decoded python reading.check response content complete raw
        decoded]
      constructor
      · intro contained
        refine ⟨?_, ?_⟩
        · intro failure same
          rw [decoded] at same
          cases same
        · intro other same
          rw [decoded] at same
          cases same
          refine ⟨?_, ?_⟩
          · intro exc checked
            rw [checked] at contained
            exact contained exc rfl
          · intro model checked
            rw [checked] at contained
            exact contained
      · intro understood
        have contains := understood.decoded raw decoded
        cases checked : reading.check raw with
        | valid model => exact contains.unpacked model checked
        | invalid =>
            exact raiseFromResponse_bind_contained _ _ _ content complete _
        | raised exc =>
            exact (Result.raises_error_iff _ _).mpr (contains.checked exc checked)

theorem receive_quiet (complete : response.data = .ok content) :
    Result.Quiet (reading.receive python response) :=
  (verifyAndExtractApiModel_quiet python reading.check response content complete
    reading.checkQuiet).bind fun model _ => reading.unpackQuiet response content model complete

theorem returning_contains (check : Validator Empty Model) (raw : Json) :
    (returning check).Contains response raw where
  checked := fun exc raised => absurd raised (Validated.lift_ne_raised _ exc)
  unpacked := fun model _ => Result.raises_ok _ model

theorem returningNone_contains (check : Validator Empty Model) (raw : Json) :
    (returningNone check).Contains response raw where
  checked := fun exc raised => absurd raised (Validated.lift_ne_raised _ exc)
  unpacked := fun _ _ => Result.raises_ok _ ()

end ModelReading

/-- A method reads a model from the body, or copies the body and returns nothing. -/
inductive Reading (Answer : Type) : Type 1 where
  | model (reading : ModelReading Answer)
  | stream (nothing : Answer)

structure BotXMethod : Type 1 where
  Answer : Type
  authorized : Bool
  verb : String
  path : String
  statusHandlers : StatusHandlers
  reading : Reading Answer

def authorizedStatusHandlers : StatusHandlers :=
  StatusHandlers.empty.set 401 (responseExceptionThrower .invalidBotAccount none)

theorem authorizedStatusHandlers_contained (excepted : Option Nat) :
    authorizedStatusHandlers.Contained excepted :=
  StatusHandlers.contained_empty.throws 401 .invalidBotAccount none

def authorizedMethod {Answer : Type} (verb path : String) (statusHandlers : StatusHandlers)
    (reading : ModelReading Answer) : BotXMethod where
  Answer := Answer
  authorized := true
  verb := verb
  path := path
  statusHandlers := statusHandlers
  reading := .model reading

def streamedMethod (verb path : String) (statusHandlers : StatusHandlers) : BotXMethod where
  Answer := Unit
  authorized := true
  verb := verb
  path := path
  statusHandlers := statusHandlers
  reading := .stream ()

structure OkPayload (Result : Type) where
  result : Result

def okPayload {ε Result : Type} (result : Validator ε Result) : Validator ε (OkPayload Result) :=
  model fun entries => (fun _ result => .mk result) <$>
    (required "status" (literal "ok") entries).lift <*> required "result" result entries

theorem okPayload_eq_valid_iff {ε Result : Type} (result : Validator ε Result) (raw : Json)
    (payload : OkPayload Result) :
    okPayload result raw = .valid payload ↔
      ∃ entries value, raw = .obj entries ∧ Dict.get "status" entries = some (.str "ok") ∧
        Dict.get "result" entries = some value ∧ result value = .valid payload.result := by
  unfold okPayload
  simp only [model_eq_valid_iff, Validated.seq_eq_valid_iff, Validated.map_eq_valid_iff,
    Validated.lift_eq_valid_iff, required_eq_valid_iff]
  constructor
  · intro checked
    obtain ⟨entries, same, _, _, ⟨_, ⟨status, given, ok⟩, rfl⟩, ⟨value, found, read⟩, rfl⟩ :=
      checked
    rw [(literal_eq_valid_iff "ok" status).mp ok] at given
    exact ⟨entries, value, same, given, found, read⟩
  · intro read
    obtain ⟨entries, value, same, given, found, checked⟩ := read
    exact ⟨entries, same, _, payload.result,
      ⟨(), ⟨_, given, (literal_eq_valid_iff "ok" _).mpr rfl⟩, rfl⟩, ⟨value, found, checked⟩, rfl⟩

theorem okPayload_eq_raised_iff {ε Result : Type} (result : Validator ε Result) (raw : Json)
    (exc : ε) :
    okPayload result raw = .raised exc ↔
      ∃ value, raw.atPath ["result"] = some value ∧ result value = .raised exc := by
  unfold okPayload
  simp only [model_eq_raised_iff, Validated.map_lift_seq_eq_raised_iff, required_eq_raised_iff]
  cases raw with
  | obj entries =>
      simp only [Json.obj.injEq, exists_eq_left']
      cases found : Dict.get "result" entries <;> simp [Json.atPath, found]
  | _ => simp [Json.atPath]

def okStatus {ε : Type} : Validator ε Unit :=
  model fun entries => required "status" (literal "ok") entries

abbrev BotXAPIGetTokenResponsePayload := OkPayload String

def BotXAPIGetTokenResponsePayload.check {ε : Type} : Validator ε BotXAPIGetTokenResponsePayload :=
  okPayload str

/-- `GetTokenMethod` is a plain `BotXMethod`. -/
def getTokenMethod (botId : UUID) : BotXMethod where
  Answer := BotXAPIGetTokenResponsePayload
  authorized := false
  verb := "GET"
  path := getTokenPath botId
  statusHandlers := StatusHandlers.empty.set 401 (responseExceptionThrower .invalidBotAccount none)
  reading := .model (.returning BotXAPIGetTokenResponsePayload.check)

/-! ### Running a method -/

/-- What the methods of one bot run with; `time` and `tokenHex` are those of the call. -/
structure Environment where
  python : Interpreter
  jwt : PyJWT
  hmacSha256 : Hmac
  time : Int
  tokenHex : String
  httpClient : HttpClient
  botId : UUID

def callAndRead {Answer : Type} (env : Environment) (statusHandlers : StatusHandlers)
    (reading : ModelReading Answer) (outgoing : OutgoingRequest) : Result Answer := do
  let response ← botxMethodCall env.httpClient statusHandlers outgoing
  reading.receive env.python response

theorem callAndRead_of_broken {Answer : Type} (env : Environment) (handlers : StatusHandlers)
    (reading : ModelReading Answer) (outgoing : OutgoingRequest)
    (broken : (env.httpClient outgoing).Broken) :
    ∃ message, callAndRead env handlers reading outgoing =
      .error (.client .botXNetwork message) := by
  obtain ⟨message, failed⟩ := botxMethodCall_of_broken broken
  refine ⟨message, ?_⟩
  unfold callAndRead
  rw [failed]
  rfl

def tokenOutgoing (env : Environment) (request : GetTokenRequest) : OutgoingRequest :=
  callRequest env.python request.method request.url []
    { params := [("signature", .str request.signature)], content := .empty }

def fetchToken (env : Environment) (request : GetTokenRequest) : Result String := do
  let payload ← callAndRead env (getTokenMethod env.botId).statusHandlers
    (.returning BotXAPIGetTokenResponsePayload.check) (tokenOutgoing env request)
  return payload.result

/-- `_add_authorization_headers` on the empty headers of a call. -/
def authorize (env : Environment) (storage : BotAccountsStorage) :
    Result (List (String × String) × BotAccountsStorage) :=
  addAuthorizationHeaders env.jwt env.hmacSha256 (fetchToken env) env.time env.tokenHex
    storage env.botId []

inductive BufferCall where
  | write (chunk : List UInt8)
  | seek (position : Nat)

structure Session where
  storage : BotAccountsStorage
  buffer : List BufferCall

def Session.call (session : Session) (call : BufferCall) : Session :=
  { session with buffer := session.buffer ++ [call] }

def copyChunks (failure : Option String) : List (List UInt8) → Session → Result Unit × Session
  | [], session =>
      match failure with
      | none => (.ok (), session)
      | some description => (.error (.httpError description), session)
  | chunk :: rest, session => copyChunks failure rest (session.call (.write chunk))

namespace BotXMethod

variable (method : BotXMethod) (env : Environment)

/-- The headers, and the storage as the authorization leaves it. -/
def headers (storage : BotAccountsStorage) :
    Result (List (String × String) × BotAccountsStorage) :=
  if method.authorized then authorize env storage else .ok ([], storage)

def request (url : String) (headers : List (String × String)) (payload : Payload) :
    OutgoingRequest :=
  match method.reading with
  | .model _ => callRequest env.python method.verb url headers payload
  | .stream _ => streamRequest env.python method.verb url headers payload

def prepare (payload : Payload) (storage : BotAccountsStorage) :
    Result (OutgoingRequest × BotAccountsStorage) := do
  let url ← buildUrl storage env.botId method.path
  let (headers, authorized) ← method.headers env storage
  return (method.request env url headers payload, authorized)

def execute (payload : Payload) (session : Session) : Result method.Answer × Session :=
  match method.prepare env payload session.storage with
  | .error exc => (.error exc, session)
  | .ok (outgoing, authorized) =>
      let session := { session with storage := authorized }
      match method.reading with
      | .model reading => (callAndRead env method.statusHandlers reading outgoing, session)
      | .stream nothing =>
          match botxMethodStream env.httpClient method.statusHandlers outgoing
            (fun response => copyChunks response.body.failure response.body.chunks) session with
          | (.error exc, session) => (.error exc, session)
          | (.ok (), session) => (.ok nothing, session.call (.seek 0))

end BotXMethod

/-! ### A response that arrives completely -/

/-- The loop writes every chunk that arrives, in order, and lets a failure out after them. -/
theorem copyChunks_eq (failure : Option String) (chunks : List (List UInt8)) (session : Session) :
    copyChunks failure chunks session =
      (match failure with
        | none => .ok ()
        | some description => .error (.httpError description),
        { session with buffer := session.buffer ++ chunks.map .write }) := by
  induction chunks generalizing session with
  | nil => cases failure <;> simp [copyChunks]
  | cons chunk rest ih => simp [copyChunks, ih, Session.call]

namespace BotXMethod

variable (method : BotXMethod) (env : Environment)

def receive (python : Interpreter) (response : HttpResponse) : Result method.Answer := do
  raiseForStatus method.statusHandlers response
  match method.reading with
  | .model reading => reading.receive python response
  | .stream nothing => return nothing

theorem execute_of_answer (payload : Payload) (session : Session) (outgoing : OutgoingRequest)
    (authorized : BotAccountsStorage)
    (prepared : method.prepare env payload session.storage = .ok (outgoing, authorized))
    (url : String) (status : Nat) (body : Body)
    (answered : env.httpClient outgoing = .answered url status body)
    (complete : body.failure = none) :
    (method.execute env payload session).1 =
      method.receive env.python ⟨some outgoing.method, url, status, body⟩ := by
  unfold execute receive
  simp only [prepared]
  cases method.reading with
  | model reading =>
      simp only [callAndRead, botxMethodCall,
        HttpClient.request_of_complete true answered complete]
      cases raiseForStatus method.statusHandlers ⟨some outgoing.method, url, status, body⟩ <;> rfl
  | stream nothing =>
      simp only [botxMethodStream, HttpClient.request_of_stream answered, copyChunks_eq, complete]
      cases raiseForStatus method.statusHandlers ⟨some outgoing.method, url, status, body⟩ <;> rfl

variable {method} {python : Interpreter} {response : HttpResponse}

/-- A normal return of a method that reads a model comes from a validated body. -/
theorem receive_eq_ok_iff (answer : method.Answer) :
    method.receive python response = .ok answer ↔
      method.statusHandlers response.status = none ∧ response.Successful ∧
        match method.reading with
        | .model reading => reading.receive python response = .ok answer
        | .stream nothing => nothing = answer := by
  unfold receive
  rw [Result.bind_eq_ok]
  constructor
  · rintro ⟨_, passed, returned⟩
    obtain ⟨absent, successful⟩ := raiseForStatus_eq_ok_iff.mp passed
    refine ⟨absent, successful, ?_⟩
    cases reads : method.reading with
    | model reading => simpa only [reads] using returned
    | stream nothing =>
        simp only [reads] at returned
        cases returned
        rfl
  · rintro ⟨absent, successful, returned⟩
    refine ⟨(), raiseForStatus_eq_ok_iff.mpr ⟨absent, successful⟩, ?_⟩
    cases reads : method.reading with
    | model reading => simpa only [reads] using returned
    | stream nothing =>
        simp only [reads] at returned ⊢
        rw [returned]
        rfl

/-- The handler of the status and the reading of a success stay inside the client's
errors, each on its own. -/
theorem receive_contained_iff (content : List UInt8) (complete : response.data = .ok content) :
    Result.Contained (method.receive python response) ↔
      (∀ handler, method.statusHandlers response.status = some handler →
        Result.Contained (handler.handle response)) ∧
      (method.statusHandlers response.status = none → response.Successful →
        match method.reading with
        | .model reading => reading.Understands python response content
        | .stream _ => True) := by
  unfold receive
  cases found : method.statusHandlers response.status with
  | some handler =>
      obtain ⟨exc, raised⟩ := handler.handle_eq_error response
      rw [raiseForStatus_of_handler found raised]
      constructor
      · intro contained
        constructor
        · intro other same
          cases same
          rw [raised]
          exact (Result.raises_error_iff _ exc).mpr (contained exc rfl)
        · intro impossible
          cases impossible
      · rintro ⟨handled, _⟩
        have contained := handled handler rfl
        rw [raised] at contained
        exact (Result.raises_error_iff _ exc).mpr (contained exc rfl)
  | none =>
      rw [raiseForStatus_of_none found]
      by_cases successful : response.Successful
      · rw [if_pos successful]
        simp only [reduceCtorEq, false_implies, implies_true, true_and, forall_const, successful]
        cases method.reading with
        | model reading => exact reading.receive_contained_iff python response content complete
        | stream nothing =>
            constructor
            · intro _
              trivial
            · intro _
              exact Result.raises_ok _ nothing
      · rw [if_neg successful]
        constructor
        · intro _
          refine ⟨?_, fun _ passed => absurd passed successful⟩
          intro handler impossible
          cases impossible
        · intro _
          exact raiseFromResponse_bind_contained _ _ _ content complete _

end BotXMethod

def emptyObject : List UInt8 := [0x7b, 0x7d]

def demoPython : Interpreter :=
  { Scalars.strict with
    loads := fun content =>
      if content = emptyObject then .ok (.obj []) else .error .jsonDecode
    str := fun value => match value with
      | .str text => text
      | _ => "None" }

def demoEnvironment (exchange : Exchange) : Environment where
  python := demoPython
  jwt := demoJwt
  hmacSha256 := demoHmac
  time := 0
  tokenHex := ""
  httpClient := fun _ => exchange
  botId := demoAccount.id

def demoSession : Session where
  storage := (BotAccountsStorage.new [demoAccount] .v1).setToken demoAccount.id "token"
  buffer := []

end Pybotx
