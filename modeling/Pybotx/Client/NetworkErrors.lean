/-
Which failures of the transport reach the caller as `BotXNetworkError`.

A call reads the body inside `request`, under the `except` for the transport.  A stream
leaves that `except` when the response arrives, and its body is read later: by the loop
over the chunks, or by whatever makes an error of the response.
-/

import Pybotx.Client.ApiMethods

set_option autoImplicit false

namespace Pybotx

namespace BotXMethod

variable (method : BotXMethod) (env : Environment)

def tokenExchanges (storage : BotAccountsStorage) : List Exchange :=
  if method.authorized = true ∧ storage.authVersion = .v1 ∧
      storage.getTokenOrNone env.botId = none then
    match getTokenRequest env.hmacSha256 storage env.botId with
    | .ok request => [env.httpClient (tokenOutgoing env request)]
    | .error _ => []
  else []

def ownExchanges (payload : Payload) (storage : BotAccountsStorage) : List Exchange :=
  match method.prepare env payload storage with
  | .ok (outgoing, _) => [env.httpClient outgoing]
  | .error _ => []

def exchanges (payload : Payload) (storage : BotAccountsStorage) : List Exchange :=
  method.tokenExchanges env storage ++ method.ownExchanges env payload storage

end BotXMethod

/-- What a caller expects when the transport breaks at any point of any exchange. -/
structure TransportWrapped (method : BotXMethod) (env : Environment) (payload : Payload)
    (session : Session) : Prop where
  wrapped : (∃ exchange ∈ method.exchanges env payload session.storage, exchange.Broken) →
    ∃ message, (method.execute env payload session).1 = .error (.client .botXNetwork message)
  hidden : ∀ description,
    (method.execute env payload session).1 ≠ .error (.httpError description)

/-- The response to a streamed request arrives, and its body breaks. -/
def StreamBreaks (m : ApiMethod) (env : Environment) (payload : Payload)
    (storage : BotAccountsStorage) : Prop :=
  m.streamed = true ∧ ∃ outgoing authorized url status body,
    (m.method env.python env.botId).prepare env payload storage = .ok (outgoing, authorized) ∧
    env.httpClient outgoing = .answered url status body ∧ body.failure ≠ none

theorem getBotAccount_quiet (storage : BotAccountsStorage) (botId : UUID) :
    Result.Quiet (storage.getBotAccount botId) := by
  unfold BotAccountsStorage.getBotAccount
  rw [getBotAccount_eq]
  cases firstAccount botId storage.botAccounts with
  | some account => exact Result.raises_ok _ account
  | none => exact (Result.raises_error_iff _ _).mpr rfl

theorem buildUrl_quiet (storage : BotAccountsStorage) (botId : UUID) (path : String) :
    Result.Quiet (buildUrl storage botId path) := by
  unfold buildUrl BotAccountsStorage.getCtsUrl
  refine Result.Raises.bind ?_ fun _ _ => Result.raises_ok _ _
  exact (getBotAccount_quiet storage botId).bind fun _ _ => Result.raises_ok _ _

theorem buildUrl_of_buildUrl {storage : BotAccountsStorage} {botId : UUID} {path url : String}
    (built : buildUrl storage botId path = .ok url) (other : String) :
    ∃ otherUrl, buildUrl storage botId other = .ok otherUrl := by
  obtain ⟨ctsUrl, found, _⟩ := (Result.bind_eq_ok _ _ _).mp built
  refine ⟨joinUrl ctsUrl other, ?_⟩
  unfold buildUrl
  rw [found]
  rfl

theorem getTokenRequest_quiet (hmacSha256 : Hmac) (storage : BotAccountsStorage) (botId : UUID) :
    Result.Quiet (getTokenRequest hmacSha256 storage botId) := by
  unfold getTokenRequest BotAccountsStorage.buildSignature
  refine Result.Raises.bind ?_ fun _ _ => ?_
  · exact (getBotAccount_quiet storage botId).bind fun _ _ => Result.raises_ok _ _
  · exact (buildUrl_quiet storage botId _).bind fun _ _ => Result.raises_ok _ _

theorem callAndRead_quiet {Answer : Type} (env : Environment) (handlers : StatusHandlers)
    (reading : ModelReading Answer) (outgoing : OutgoingRequest) :
    Result.Quiet (callAndRead env handlers reading outgoing) := by
  refine (botxMethodCall_quiet handlers).bind fun response returned => ?_
  exact reading.receive_quiet env.python response _ (data_of_botxMethodCall returned)

theorem fetchToken_quiet (env : Environment) (request : GetTokenRequest) :
    Result.Quiet (fetchToken env request) :=
  (callAndRead_quiet env _ _ _).bind fun _ _ => Result.raises_ok _ _

theorem fetchToken_of_broken (env : Environment) (request : GetTokenRequest)
    (broken : (env.httpClient (tokenOutgoing env request)).Broken) :
    ∃ message, fetchToken env request = .error (.client .botXNetwork message) := by
  obtain ⟨message, failed⟩ := callAndRead_of_broken env (getTokenMethod env.botId).statusHandlers
    (.returning BotXAPIGetTokenResponsePayload.check) _ broken
  refine ⟨message, ?_⟩
  unfold fetchToken
  rw [failed]
  rfl

section

variable (env : Environment) (storage : BotAccountsStorage)

theorem authorize_quiet : Result.Quiet (authorize env storage) := by
  unfold authorize addAuthorizationHeaders
  cases storage.authVersion with
  | v2 =>
      refine Result.Raises.bind ?_ fun _ _ => Result.raises_ok _ _
      unfold BotAccountsStorage.buildJwtV2
      refine (getBotAccount_quiet storage env.botId).bind fun account _ => ?_
      rw [account.host_eq]
      exact Result.raises_ok _ _
  | v1 =>
      cases storage.getTokenOrNone env.botId with
      | some token => exact Result.raises_ok _ _
      | none =>
          refine Result.Raises.bind ?_ fun _ _ => Result.raises_ok _ _
          exact (getTokenRequest_quiet env.hmacSha256 storage env.botId).bind fun request _ =>
            fetchToken_quiet env request

theorem authorize_of_broken (legacy : storage.authVersion = .v1)
    (uncached : storage.getTokenOrNone env.botId = none) (request : GetTokenRequest)
    (built : getTokenRequest env.hmacSha256 storage env.botId = .ok request)
    (broken : (env.httpClient (tokenOutgoing env request)).Broken) :
    ∃ message, authorize env storage = .error (.client .botXNetwork message) := by
  obtain ⟨message, failed⟩ := fetchToken_of_broken env request broken
  refine ⟨message, ?_⟩
  unfold authorize addAuthorizationHeaders
  simp only [legacy, uncached, getToken, built]
  change (fetchToken env request >>= _) = _
  rw [failed]
  rfl

end

namespace BotXMethod

variable (method : BotXMethod) (env : Environment) (payload : Payload)
  (storage : BotAccountsStorage)

theorem prepare_quiet : Result.Quiet (method.prepare env payload storage) := by
  unfold prepare
  refine (buildUrl_quiet storage env.botId method.path).bind fun url _ => ?_
  refine Result.Raises.bind ?_ fun prepared _ => Result.raises_ok _ _
  unfold headers
  cases method.authorized with
  | true => exact authorize_quiet env storage
  | false => exact Result.raises_ok _ _

theorem prepare_of_broken (exchange : Exchange)
    (member : exchange ∈ method.tokenExchanges env storage) (broken : exchange.Broken) :
    ∃ message, method.prepare env payload storage = .error (.client .botXNetwork message) := by
  unfold tokenExchanges at member
  split at member
  · rename_i asks
    obtain ⟨isAuthorized, legacy, uncached⟩ := asks
    cases built : getTokenRequest env.hmacSha256 storage env.botId with
    | error exc =>
        rw [built] at member
        cases member
    | ok request =>
        rw [built] at member
        obtain rfl := List.mem_singleton.mp member
        obtain ⟨message, failed⟩ := authorize_of_broken env storage legacy uncached request built
          broken
        obtain ⟨_, _, urlBuilt⟩ := (Result.bind_eq_ok _ _ _).mp built
        obtain ⟨tokenUrl, tokenUrlBuilt, _⟩ := (Result.bind_eq_ok _ _ _).mp urlBuilt
        obtain ⟨url, own⟩ := buildUrl_of_buildUrl tokenUrlBuilt method.path
        refine ⟨message, ?_⟩
        unfold prepare headers
        rw [own, isAuthorized]
        simp only [if_true, failed]
        rfl
  · cases member

variable (session : Session) {outgoing : OutgoingRequest} {authorized : BotAccountsStorage}

theorem execute_of_unprepared (exc : PyError)
    (failed : method.prepare env payload session.storage = .error exc) :
    method.execute env payload session = (.error exc, session) := by
  unfold execute
  rw [failed]

theorem execute_of_model (reading : ModelReading method.Answer)
    (reads : method.reading = .model reading)
    (prepared : method.prepare env payload session.storage = .ok (outgoing, authorized)) :
    (method.execute env payload session).1 =
      callAndRead env method.statusHandlers reading outgoing := by
  unfold execute
  simp only [prepared, reads]

/-! ### A stream -/

variable (nothing : method.Answer) (streams : method.reading = .stream nothing)
  (prepared : method.prepare env payload session.storage = .ok (outgoing, authorized))

include streams prepared

theorem execute_of_failed_stream (description : String)
    (failed : env.httpClient outgoing = .failed description) :
    (method.execute env payload session).1 = .error (networkError outgoing description) := by
  unfold execute botxMethodStream HttpClient.request
  simp only [prepared, streams, failed]

/-- Whatever the status and however many chunks have come, the failure itself comes out. -/
theorem execute_of_broken_stream (url : String) (status : Nat) (body : Body)
    (answered : env.httpClient outgoing = .answered url status body) (description : String)
    (failure : body.failure = some description) :
    (method.execute env payload session).1 = .error (.httpError description) := by
  have broken : HttpResponse.data ⟨some outgoing.method, url, status, body⟩ =
      .error (.httpError description) := by
    simp [HttpResponse.data, Body.read, failure]
  unfold execute
  simp only [prepared, streams, botxMethodStream, HttpClient.request_of_stream answered,
    copyChunks_eq, failure]
  cases raised : raiseForStatus method.statusHandlers ⟨some outgoing.method, url, status, body⟩ with
  | ok passed => rfl
  | error exc =>
      have rejected : raiseForStatus method.statusHandlers
          ⟨some outgoing.method, url, status, body⟩ ≠ .ok () := by
        rw [raised]
        intro impossible
        cases impossible
      rw [raiseForStatus_of_failure _ broken rejected] at raised
      cases raised
      rfl

omit streams prepared in
theorem receive_quiet_of_stream (streaming : method.reading = .stream nothing)
    (response : HttpResponse) (content : List UInt8) (complete : response.data = .ok content) :
    Result.Quiet (method.receive env.python response) := by
  unfold receive
  refine (raiseForStatus_quiet content complete).bind fun _ _ => ?_
  simp only [streaming]
  exact Result.raises_ok _ nothing

end BotXMethod

theorem execute_wraps (env : Environment) (m : ApiMethod) (payload : Payload)
    (session : Session) (outgoing : OutgoingRequest) (authorized : BotAccountsStorage)
    (prepared : (m.method env.python env.botId).prepare env payload session.storage =
      .ok (outgoing, authorized))
    (steady : ¬ StreamBreaks m env payload session.storage) :
    ((env.httpClient outgoing).Broken → ∃ message,
      ((m.method env.python env.botId).execute env payload session).1 =
        .error (.client .botXNetwork message)) ∧
    Result.Quiet ((m.method env.python env.botId).execute env payload session).1 := by
  cases streamed : m.streamed with
  | false =>
      obtain ⟨reading, reads, _⟩ := m.reading_contains_iff env.python env.botId streamed
      rw [BotXMethod.execute_of_model _ env payload session reading reads prepared]
      exact ⟨callAndRead_of_broken env _ reading outgoing,
        callAndRead_quiet env _ reading outgoing⟩
  | true =>
      obtain ⟨nothing, streams⟩ := m.reading_of_streamed env.python env.botId streamed
      cases exchange : env.httpClient outgoing with
      | failed description =>
          rw [BotXMethod.execute_of_failed_stream _ env payload session nothing streams prepared
            description exchange]
          exact ⟨fun _ => ⟨_, rfl⟩, (Result.raises_error_iff _ _).mpr rfl⟩
      | answered url status body =>
          have complete : body.failure = none := by
            by_contra failure
            exact steady ⟨streamed, outgoing, authorized, url, status, body, prepared, exchange,
              failure⟩
          refine ⟨fun broken => absurd complete broken, ?_⟩
          rw [BotXMethod.execute_of_answer _ env payload session outgoing authorized prepared url
            status body exchange complete]
          exact BotXMethod.receive_quiet_of_stream _ env nothing streams _ body.bytes
            ((body.read_eq_ok_iff _).mpr ⟨complete, rfl⟩)

/-- Every failure of the transport is wrapped, except one in the body of a stream. -/
theorem transportErrors_wrapped_iff (env : Environment) (m : ApiMethod) (payload : Payload)
    (session : Session) :
    TransportWrapped (m.method env.python env.botId) env payload session ↔
      ¬ StreamBreaks m env payload session.storage := by
  constructor
  · rintro expected ⟨streamed, outgoing, authorized, url, status, body, prepared, answered,
      failure⟩
    obtain ⟨nothing, streams⟩ := m.reading_of_streamed env.python env.botId streamed
    obtain ⟨description, broke⟩ := Option.ne_none_iff_exists'.mp failure
    exact expected.hidden description (BotXMethod.execute_of_broken_stream _ env payload session
      nothing streams prepared url status body answered description broke)
  · intro steady
    cases prepared : (m.method env.python env.botId).prepare env payload session.storage with
    | error exc =>
        have outcome := BotXMethod.execute_of_unprepared _ env payload session exc prepared
        refine ⟨?_, ?_⟩
        · rintro ⟨exchange, member, broken⟩
          unfold BotXMethod.exchanges BotXMethod.ownExchanges at member
          rw [prepared, List.append_nil] at member
          obtain ⟨message, failed⟩ := BotXMethod.prepare_of_broken _ env payload session.storage
            exchange member broken
          rw [prepared] at failed
          cases failed
          exact ⟨message, by rw [outcome]⟩
        · intro description raw
          have quiet := BotXMethod.prepare_quiet _ env payload session.storage exc prepared
          rw [outcome] at raw
          cases raw
          cases quiet
    | ok request =>
        rcases request with ⟨outgoing, authorized⟩
        obtain ⟨wraps, quiet⟩ := execute_wraps env m payload session outgoing authorized prepared
          steady
        refine ⟨?_, ?_⟩
        · rintro ⟨exchange, member, broken⟩
          rcases List.mem_append.mp member with token | own
          · obtain ⟨message, failed⟩ := BotXMethod.prepare_of_broken _ env payload
              session.storage exchange token broken
            rw [prepared] at failed
            cases failed
          · unfold BotXMethod.ownExchanges at own
            rw [prepared] at own
            obtain rfl := List.mem_singleton.mp own
            exact wraps broken
        · intro description raw
          cases quiet _ raw

def demoBrokenDownload : Exchange :=
  .answered "https://cts.example.com" 200 ⟨[[1, 2], [3]], some "IncompleteRead(3 bytes read)"⟩

/-- The caller of `DownloadFileMethod` sees the failure of the third chunk as it is. -/
theorem brokenDownload_escapes :
    ((downloadFileMethod demoPython).execute (demoEnvironment demoBrokenDownload)
        ⟨[], .empty⟩ demoSession).1 = .error (.httpError "IncompleteRead(3 bytes read)") ∧
      ¬ TransportWrapped (downloadFileMethod demoPython) (demoEnvironment demoBrokenDownload)
        ⟨[], .empty⟩ demoSession := by
  have escapes : ((downloadFileMethod demoPython).execute (demoEnvironment demoBrokenDownload)
      ⟨[], .empty⟩ demoSession).1 = .error (.httpError "IncompleteRead(3 bytes read)") := rfl
  refine ⟨escapes, ?_⟩
  intro expected
  exact expected.hidden _ escapes

end Pybotx
