/-
Finding the personal chat with a user, or creating it.

Three calls may follow each other, and the server may have changed between them.  The second
and the third are made only if the server has said to the first that there is no such chat.
-/

import Pybotx.Client.ChatCreation
import Pybotx.Client.ChatMembers
import Pybotx.Client.Destinations

set_option autoImplicit false

namespace Pybotx

/-- The clock, the random source and the server while a call lasts. -/
structure Occasion where
  moment : Moment
  httpClient : HttpClient

def Environment.on (env : Environment) (occasion : Occasion) : Environment :=
  (env.atMoment occasion.moment).withClient occasion.httpClient

def personalChatPayload (userHuid : UUID) : Payload :=
  ⟨[("user_huid", .str userHuid.str)], .empty⟩

def chatInfoPayload (chatId : UUID) : Payload :=
  ⟨[("group_chat_id", .str chatId.str)], .empty⟩

def personalChat (env : Environment) (userHuid : UUID) (session : Session) :
    Result ChatInfo × Session :=
  match (personalChatMethod env.python).execute env (personalChatPayload userHuid) session with
  | (.ok chat, session) => (.ok (BotXAPIPersonalChatResponsePayload.toDomain chat), session)
  | (.error exc, session) => (.error exc, session)

def chatInfo (env : Environment) (chatId : UUID) (session : Session) :
    Result ChatInfo × Session :=
  match (chatInfoMethod env.python).execute env (chatInfoPayload chatId) session with
  | (.ok chat, session) => (.ok (BotXAPIChatInfoResponsePayload.toDomain chat), session)
  | (.error exc, session) => (.error exc, session)

/-- `name or f"Personal chat {user_huid}"`. -/
def personalChatName (userHuid : UUID) : Option String → String
  | none | some "" => "Personal chat " ++ userHuid.str
  | some name => name

def personalChatCreation (userHuid : UUID) (name : Option String) :
    BotXAPICreateChatRequestPayload where
  name := personalChatName userHuid name
  description := none
  chatType := .domain .personalChat
  members := [userHuid]
  sharedHistory := .undefined
  avatar := none

structure EnsuringCalls where
  looking : Occasion
  creating : Occasion
  reading : Occasion

/-- Only the lookup stands under the `except`. -/
def ensurePersonalChat (env : Environment) (calls : EnsuringCalls) (userHuid : UUID)
    (name : Option String) (session : Session) : Result ChatInfo × Session :=
  match personalChat (env.on calls.looking) userHuid session with
  | (.error (.client .chatNotFound _), session) =>
      match createChat (env.on calls.creating) (personalChatCreation userHuid name) session with
      | (.error exc, session) => (.error exc, session)
      | (.ok chatId, session) => chatInfo (env.on calls.reading) chatId session
  | (result, session) => (result, session)

def ensurePersonalChatRequests (env : Environment) (calls : EnsuringCalls) (userHuid : UUID)
    (name : Option String) (session : Session) : List OutgoingRequest :=
  (personalChatMethod env.python).requests (env.on calls.looking) (personalChatPayload userHuid)
      session ++
    match personalChat (env.on calls.looking) userHuid session with
    | (.error (.client .chatNotFound _), session) =>
        (createChatMethod env.python).requests (env.on calls.creating)
            ⟨[], .json (personalChatCreation userHuid name).body⟩ session ++
          match createChat (env.on calls.creating) (personalChatCreation userHuid name) session with
          | (.error _, _) => []
          | (.ok chatId, session) =>
              (chatInfoMethod env.python).requests (env.on calls.reading) (chatInfoPayload chatId)
                session
    | (_, _) => []

/-- The bot is known and, where calls are made with a cached token, has one. -/
structure Ready (storage : BotAccountsStorage) (botId : UUID) : Prop where
  known : ∃ account, firstAccount botId storage.botAccounts = some account
  cached : storage.authVersion = .v1 → ∃ token, storage.getTokenOrNone botId = some token

section

variable {Answer : Type} {verb path : String} {handlers : StatusHandlers}
  {reading : ModelReading Answer} {env : Environment} {payload : Payload}

theorem ready_of_prepared {storage authorized : BotAccountsStorage} {outgoing : OutgoingRequest}
    (prepared : (authorizedMethod verb path handlers reading).prepare env payload storage =
      .ok (outgoing, authorized)) : Ready authorized env.botId := by
  obtain ⟨url, headers, built, added, _⟩ := (BotXMethod.prepare_eq_ok_iff authorized).mp prepared
  obtain ⟨account, found, _⟩ := buildUrl_eq_ok built
  unfold authorize addAuthorizationHeaders at added
  cases version : storage.authVersion with
  | v2 =>
      simp only [version] at added
      obtain ⟨token, _, added⟩ := (Result.bind_eq_ok _ _ _).mp added
      cases added
      refine ⟨⟨account, found⟩, ?_⟩
      intro impossible
      rw [version] at impossible
      cases impossible
  | v1 =>
      cases present : storage.getTokenOrNone env.botId with
      | some token =>
          simp only [version, present] at added
          cases added
          exact ⟨⟨account, found⟩, fun _ => ⟨token, present⟩⟩
      | none =>
          simp only [version, present] at added
          obtain ⟨token, _, added⟩ := (Result.bind_eq_ok _ _ _).mp added
          cases added
          refine ⟨⟨account, found⟩, fun _ => ⟨token, ?_⟩⟩
          rw [BotAccountsStorage.getTokenOrNone_setToken, if_pos rfl]

theorem authorize_of_ready {storage : BotAccountsStorage} (ready : Ready storage env.botId) :
    tokenFetch env storage = none ∧ ∃ headers, authorize env storage = .ok (headers, storage) := by
  unfold tokenFetch authorize addAuthorizationHeaders
  cases version : storage.authVersion with
  | v2 =>
      obtain ⟨account, found⟩ := ready.known
      obtain ⟨token, signed⟩ : ∃ token,
          storage.buildJwtV2 env.jwt env.botId env.time env.tokenHex = .ok token :=
        ⟨_, storage.buildJwtV2_eq env.jwt env.botId env.time env.tokenHex account found⟩
      refine ⟨rfl, [("Authorization", bearer token)], ?_⟩
      simp only [signed]
      rfl
  | v1 =>
      obtain ⟨token, present⟩ := ready.cached version
      refine ⟨?_, [("Authorization", bearer token)], ?_⟩
      · simp only [present]
      · simp only [present]
        rfl

theorem execute_of_ready {session : Session} (ready : Ready session.storage env.botId) :
    ∃ url headers, buildUrl session.storage env.botId path = .ok url ∧
      (authorizedMethod verb path handlers reading).requests env payload session =
        [callRequest env.python verb url headers payload] ∧
      (authorizedMethod verb path handlers reading).execute env payload session =
        (callAndRead env handlers reading (callRequest env.python verb url headers payload),
          session) := by
  obtain ⟨account, found⟩ := ready.known
  have built : buildUrl session.storage env.botId path =
      .ok (joinUrl account.ctsUrl.text path) := by
    unfold buildUrl BotAccountsStorage.getCtsUrl
    rw [(session.storage.getBotAccount_eq_ok_iff env.botId account).mpr found]
    rfl
  obtain ⟨noFetch, headers, added⟩ := authorize_of_ready ready
  have prepared : (authorizedMethod verb path handlers reading).prepare env payload
      session.storage = .ok (callRequest env.python verb _ headers payload, session.storage) :=
    (BotXMethod.prepare_eq_ok_iff _).mpr ⟨_, headers, built, added, rfl⟩
  refine ⟨_, headers, built, ?_, ?_⟩
  · have sent := BotXMethod.sends_eq_some_iff.mpr ⟨_, prepared⟩
    unfold BotXMethod.requests
    rw [sent, noFetch]
    rfl
  · unfold BotXMethod.execute
    rw [prepared]
    rfl

end

def PyError.isChatNotFound : PyError → Bool
  | .client .chatNotFound _ => true
  | _ => false

namespace Result

abbrev Finds {α : Type} (outcome : Result α) : Prop :=
  Raises (fun exc => !exc.isChatNotFound) outcome

end Result

theorem raiseFromResponse_finds {α : Type} {exc : ClientErrorClass} {response : HttpResponse}
    {content : List UInt8} (complete : response.data = .ok content)
    (other : exc ≠ .chatNotFound) (comment : Option String) :
    Result.Finds (raiseFromResponse exc response comment : Result α) := by
  rw [raiseFromResponse_of_data exc response comment content complete]
  apply (Result.raises_error_iff _ _).mpr
  cases exc with
  | chatNotFound => exact absurd rfl other
  | _ => rfl

section

variable {Answer : Type} {handlers : StatusHandlers} {reading : ModelReading Answer}
  {env : Environment} {outgoing : OutgoingRequest}

theorem callAndRead_finds
    (handled : ∀ response handler, env.httpClient.request true outgoing = .ok response →
      handlers response.status = some handler → Result.Finds (handler.handle response))
    (checked : ∀ raw exc, reading.check raw = .raised exc → exc.isChatNotFound = false)
    (unpacked : ∀ response model, Result.Finds (reading.unpack response model)) :
    Result.Finds (callAndRead env handlers reading outgoing) := by
  unfold callAndRead botxMethodCall
  cases received : env.httpClient.request true outgoing with
  | error description => exact (Result.raises_error_iff _ _).mpr rfl
  | ok response =>
      have complete := HttpClient.data_of_request received
      refine Result.Raises.bind (Result.Raises.bind ?_ fun _ _ => Result.raises_ok _ _) ?_
      · cases found : handlers response.status with
        | some handler =>
            obtain ⟨exc, raised⟩ := handler.handle_eq_error response
            have finds := handled response handler received found
            rw [raised] at finds
            rw [raiseForStatus_of_handler found raised]
            exact (Result.raises_error_iff _ _).mpr (finds exc rfl)
        | none =>
            rw [raiseForStatus_of_none found]
            by_cases successful : response.Successful
            · rw [if_pos successful]
              exact Result.raises_ok _ ()
            · rw [if_neg successful]
              exact raiseFromResponse_finds complete (by decide) none
      · intro same passed
        obtain ⟨_, _, same⟩ := (Result.bind_eq_ok _ _ _).mp passed
        cases same
        refine Result.Raises.bind ?_ fun model _ => unpacked response model
        cases decoded : env.python.loads response.body.bytes with
        | error failure =>
            rw [verifyAndExtractApiModel_of_undecoded _ _ _ _ complete failure decoded]
            cases failure with
            | jsonDecode => exact raiseFromResponse_finds complete (by decide) none
            | _ => exact (Result.raises_error_iff _ _).mpr rfl
        | ok raw =>
            rw [verifyAndExtractApiModel_of_decoded _ _ _ _ complete raw decoded]
            cases validated : reading.check raw with
            | valid model => exact Result.raises_ok _ model
            | invalid => exact raiseFromResponse_finds complete (by decide) none
            | raised exc =>
                apply (Result.raises_error_iff _ _).mpr
                rw [checked raw exc validated]
                rfl

end

theorem authorizedStatusHandlers_finds {response : HttpResponse} {handler : StatusHandler}
    {content : List UInt8} (complete : response.data = .ok content)
    (found : authorizedStatusHandlers response.status = some handler) :
    Result.Finds (handler.handle response) := by
  unfold authorizedStatusHandlers StatusHandlers.set at found
  by_cases same : response.status = 401
  · rw [same, Function.update_self] at found
    cases found
    exact raiseFromResponse_finds complete (by decide) none
  · rw [Function.update_of_ne same] at found
    cases found

section

variable (env : Environment) (storage : BotAccountsStorage)

theorem getBotAccount_finds : Result.Finds (storage.getBotAccount env.botId) := by
  unfold BotAccountsStorage.getBotAccount
  rw [getBotAccount_eq]
  cases firstAccount env.botId storage.botAccounts with
  | none => exact (Result.raises_error_iff _ _).mpr rfl
  | some account => exact Result.raises_ok _ account

theorem buildUrl_finds (path : String) : Result.Finds (buildUrl storage env.botId path) := by
  refine Result.Raises.bind ?_ fun _ _ => Result.raises_ok _ _
  exact (getBotAccount_finds env storage).bind fun _ _ => Result.raises_ok _ _

/-- The server may not know the bot, which is not a missing chat. -/
theorem fetchToken_finds (request : GetTokenRequest) : Result.Finds (fetchToken env request) := by
  refine Result.Raises.bind (callAndRead_finds ?_ ?_ ?_) fun _ _ => Result.raises_ok _ _
  · intro response handler received found
    exact authorizedStatusHandlers_finds (HttpClient.data_of_request received) found
  · intro raw exc raised
    exact absurd raised (Validated.lift_ne_raised _ exc)
  · intro response model
    exact Result.raises_ok _ model

theorem authorize_finds : Result.Finds (authorize env storage) := by
  unfold authorize addAuthorizationHeaders
  cases storage.authVersion with
  | v2 =>
      refine Result.Raises.bind ?_ fun _ _ => Result.raises_ok _ _
      refine (getBotAccount_finds env storage).bind fun account _ => ?_
      rw [account.host_eq]
      exact Result.raises_ok _ _
  | v1 =>
      cases storage.getTokenOrNone env.botId with
      | some token => exact Result.raises_ok _ _
      | none =>
          refine Result.Raises.bind ?_ fun _ _ => Result.raises_ok _ _
          refine Result.Raises.bind ?_ fun request _ => fetchToken_finds env request
          refine Result.Raises.bind ?_ fun _ _ => ?_
          · exact (getBotAccount_finds env storage).bind fun _ _ => Result.raises_ok _ _
          · exact (buildUrl_finds env storage _).bind fun _ _ => Result.raises_ok _ _

theorem prepare_finds {Answer : Type} {verb path : String} {handlers : StatusHandlers}
    {reading : ModelReading Answer} (payload : Payload) :
    Result.Finds ((authorizedMethod verb path handlers reading).prepare env payload storage) := by
  refine (buildUrl_finds env storage path).bind fun url _ => ?_
  exact (authorize_finds env storage).bind fun _ _ => Result.raises_ok _ _

end

/-! ### The lookup -/

/-- The server has said of the payload that there is no such chat. -/
def NoSuchChat (method : BotXMethod) (env : Environment) (payload : Payload) (session : Session) :
    Prop :=
  ∃ outgoing url body, method.sends env payload session = some outgoing ∧
    env.httpClient outgoing = .answered url 404 body ∧ body.failure = none

abbrev readingChatHandlers : StatusHandlers :=
  authorizedStatusHandlers.set 404 (responseExceptionThrower .chatNotFound none)

section

variable {Answer : Type} {verb path : String} {reading : ModelReading Answer} {env : Environment}
  {payload : Payload} {session : Session}

theorem chatNotFound_of_noSuchChat
    (missing : NoSuchChat (authorizedMethod verb path readingChatHandlers reading) env payload
      session) :
    ∃ message, ((authorizedMethod verb path readingChatHandlers reading).execute env payload
      session).1 = .error (.client .chatNotFound message) := by
  obtain ⟨outgoing, url, body, sent, answered, complete⟩ := missing
  have data : (⟨some outgoing.method, url, 404, body⟩ : HttpResponse).data = .ok body.bytes :=
    (body.read_eq_ok_iff _).mpr ⟨complete, rfl⟩
  have handled : raiseForStatus readingChatHandlers ⟨some outgoing.method, url, 404, body⟩ =
      .error (.client .chatNotFound
        (responseMessage ⟨some outgoing.method, url, 404, body⟩ body.bytes none)) :=
    raiseForStatus_of_handler rfl (raiseFromResponse_of_data .chatNotFound _ none _ data)
  refine ⟨responseMessage ⟨some outgoing.method, url, 404, body⟩ body.bytes none, ?_⟩
  rw [BotXMethod.execute_of_sent sent]
  unfold callAndRead botxMethodCall
  rw [HttpClient.request_of_complete true answered complete]
  simp only [handled]
  rfl

/-- A missing chat is reported exactly if the server has said so: not for an unknown bot, nor
if the token, the connection or the body fails. -/
theorem chatNotFound_iff (checked : ∀ raw exc, reading.check raw = .raised exc →
      exc.isChatNotFound = false)
    (unpacked : ∀ response model, Result.Finds (reading.unpack response model)) :
    (∃ message, ((authorizedMethod verb path readingChatHandlers reading).execute env payload
      session).1 = .error (.client .chatNotFound message)) ↔
      NoSuchChat (authorizedMethod verb path readingChatHandlers reading) env payload session := by
  constructor
  · intro raised
    by_contra otherwise
    obtain ⟨message, raised⟩ := raised
    have finds : Result.Finds ((authorizedMethod verb path readingChatHandlers reading).execute
        env payload session).1 := by
      cases prepared : (authorizedMethod verb path readingChatHandlers reading).prepare env
          payload session.storage with
      | error exc =>
          have early := prepare_finds env session.storage payload exc prepared
          unfold BotXMethod.execute
          rw [prepared]
          exact (Result.raises_error_iff _ _).mpr early
      | ok result =>
          obtain ⟨outgoing, authorized⟩ := result
          have sent := BotXMethod.sends_eq_some_iff.mpr ⟨authorized, prepared⟩
          rw [BotXMethod.execute_of_sent sent]
          refine callAndRead_finds ?_ checked unpacked
          intro response handler received found
          have complete := HttpClient.data_of_request received
          have different : response.status ≠ 404 := by
            intro same
            obtain ⟨url, status, body, answered, whole, rfl⟩ :=
              HttpClient.answered_of_request received
            cases same
            exact otherwise ⟨outgoing, url, body, sent, answered, whole⟩
          unfold readingChatHandlers StatusHandlers.set at found
          rw [Function.update_of_ne different] at found
          exact authorizedStatusHandlers_finds complete found
    cases finds _ raised
  · exact chatNotFound_of_noSuchChat

end

section

variable {env : Environment} {userHuid : UUID} {session : Session}

theorem personalChat_execute :
    (personalChat env userHuid session).2 =
        ((personalChatMethod env.python).execute env (personalChatPayload userHuid) session).2 ∧
      ∀ exc, (personalChat env userHuid session).1 = .error exc ↔
        ((personalChatMethod env.python).execute env (personalChatPayload userHuid) session).1 =
          .error exc := by
  unfold personalChat
  cases (personalChatMethod env.python).execute env (personalChatPayload userHuid) session with
  | mk answer after =>
      cases answer with
      | ok chat =>
          refine ⟨rfl, fun exc => ?_⟩
          constructor
          · intro impossible
            cases impossible
          · intro impossible
            cases impossible
      | error failure =>
          refine ⟨rfl, fun exc => ?_⟩
          constructor
          · intro same
            cases same
            rfl
          · intro same
            cases same
            rfl

theorem personalChat_missing_iff :
    (∃ message, (personalChat env userHuid session).1 = .error (.client .chatNotFound message)) ↔
      NoSuchChat (personalChatMethod env.python) env (personalChatPayload userHuid) session := by
  simp only [personalChat_execute.2]
  refine chatNotFound_iff ?_ ?_
  · intro raw exc raised
    rw [((BotXAPIPersonalChatResponsePayload.check_eq_raised_iff env.python raw exc).mp raised).1]
    rfl
  · intro response chat
    exact Result.raises_ok _ chat

theorem ready_of_missing
    (missing : NoSuchChat (personalChatMethod env.python) env (personalChatPayload userHuid)
      session) : Ready (personalChat env userHuid session).2.storage env.botId := by
  obtain ⟨outgoing, url, body, sent, _⟩ := missing
  obtain ⟨authorized, prepared⟩ := BotXMethod.sends_eq_some_iff.mp sent
  rw [personalChat_execute.1, execute_storage, prepared]
  exact ready_of_prepared prepared

end

/-! ### Finding or creating -/

section

variable (env : Environment) (calls : EnsuringCalls) (userHuid : UUID) (name : Option String)
  (session : Session)

/-- The server is asked to create a chat by one request, whose answer decides how it goes on:
the chat is read under the identifier that the server has given to it. -/
structure CreatesChat (lookups : List OutgoingRequest) (after : Session) : Prop where
  refused : ∀ exc,
    (createChat (env.on calls.creating) (personalChatCreation userHuid name) after).1 =
        .error exc →
      (ensurePersonalChat env calls userHuid name session).1 = .error exc ∧
      ∃ url headers, ensurePersonalChatRequests env calls userHuid name session =
        lookups ++ [callRequest env.python "POST" url headers
          ⟨[], .json (personalChatCreation userHuid name).body⟩]
  created : ∀ chatId,
    (createChat (env.on calls.creating) (personalChatCreation userHuid name) after).1 =
        .ok chatId →
      (ensurePersonalChat env calls userHuid name session).1 =
        (chatInfo (env.on calls.reading) chatId after).1 ∧
      ∃ url headers infoUrl infoHeaders,
        ensurePersonalChatRequests env calls userHuid name session =
          lookups ++ [callRequest env.python "POST" url headers
            ⟨[], .json (personalChatCreation userHuid name).body⟩,
            callRequest env.python "GET" infoUrl infoHeaders (chatInfoPayload chatId)]

/-- A chat is created exactly if the server has said to the lookup that there is none. -/
structure CreatesWhenMissing (lookups : List OutgoingRequest) : Prop where
  existing : ¬ NoSuchChat (personalChatMethod env.python) (env.on calls.looking)
      (personalChatPayload userHuid) session →
    ensurePersonalChat env calls userHuid name session =
        personalChat (env.on calls.looking) userHuid session ∧
      ensurePersonalChatRequests env calls userHuid name session = lookups
  missing : NoSuchChat (personalChatMethod env.python) (env.on calls.looking)
      (personalChatPayload userHuid) session →
    CreatesChat env calls userHuid name session lookups
      (personalChat (env.on calls.looking) userHuid session).2

theorem createChat_of_ready (env : Environment) {session : Session}
    (creation : BotXAPICreateChatRequestPayload) (ready : Ready session.storage env.botId) :
    (createChat env creation session).2 = session ∧
      ∃ url headers, (createChatMethod env.python).requests env ⟨[], .json creation.body⟩ session =
        [callRequest env.python "POST" url headers ⟨[], .json creation.body⟩] := by
  obtain ⟨url, headers, _, requests, executed⟩ := execute_of_ready ready
  refine ⟨?_, url, headers, requests⟩
  obtain ⟨answer, executed⟩ : ∃ answer, (createChatMethod env.python).execute env
      ⟨[], .json creation.body⟩ session = (answer, session) := ⟨_, executed⟩
  unfold createChat
  rw [executed]
  cases answer <;> rfl

theorem ensurePersonalChat_createsWhenMissing :
    CreatesWhenMissing env calls userHuid name session
      ((personalChatMethod env.python).requests (env.on calls.looking)
        (personalChatPayload userHuid) session) := by
  constructor
  · intro existing
    have other : ∀ message, (personalChat (env.on calls.looking) userHuid session).1 ≠
        .error (.client .chatNotFound message) :=
      fun message raised => existing (personalChat_missing_iff.mp ⟨message, raised⟩)
    unfold ensurePersonalChat ensurePersonalChatRequests
    cases looked : personalChat (env.on calls.looking) userHuid session with
    | mk outcome after =>
        rw [looked] at other
        refine ⟨?_, ?_⟩
        · split
          · rename_i same
            cases same
            exact absurd rfl (other _)
          · rename_i same
            exact same.symm
        · split
          · rename_i same
            cases same
            exact absurd rfl (other _)
          · exact List.append_nil _
  · intro missing
    obtain ⟨message, raised⟩ := personalChat_missing_iff.mpr missing
    have ready := ready_of_missing missing
    cases looked : personalChat (env.on calls.looking) userHuid session with
    | mk outcome after =>
        rw [looked] at raised ready
        cases raised
        obtain ⟨same, url, headers, requested⟩ := createChat_of_ready
          (env.on calls.creating) (personalChatCreation userHuid name) ready
        constructor
        · intro exc refused
          have ended : createChat (env.on calls.creating) (personalChatCreation userHuid name)
              after = (.error exc, after) := Prod.ext refused same
          unfold ensurePersonalChat ensurePersonalChatRequests
          simp only [looked, ended]
          refine ⟨trivial, url, headers, ?_⟩
          exact congrArg (_ ++ ·) ((List.append_nil _).trans requested)
        · intro chatId created
          have ended : createChat (env.on calls.creating) (personalChatCreation userHuid name)
              after = (.ok chatId, after) := Prod.ext created same
          have still : Ready after.storage (env.on calls.reading).botId := ready
          obtain ⟨infoUrl, infoHeaders, _, read, _⟩ := execute_of_ready still
          unfold ensurePersonalChat ensurePersonalChatRequests
          simp only [looked, ended]
          refine ⟨trivial, url, headers, infoUrl, infoHeaders, ?_⟩
          exact congrArg (_ ++ ·) (congrArg₂ (· ++ ·) requested read)

end

end Pybotx
