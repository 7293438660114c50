/-
Where the requests of a bot go, and what they carry.

Every call is confined to the server of the bot's own account: it asks no other server, it
gives its credentials to no other server and what other servers would answer makes no
difference.
-/

import Pybotx.Client.ApiMethods
import Pybotx.Client.Requests

set_option autoImplicit false

namespace Pybotx

open Validator

/-! ### The server of a URL -/

theorem takeWhile_append_of_stop {α : Type} (keep : α → Bool) (first rest : List α)
    (stops : ∀ symbol, rest.head? = some symbol → keep symbol = false) :
    (first ++ rest).takeWhile keep = first.takeWhile keep := by
  induction first with
  | nil =>
      cases rest with
      | nil => rfl
      | cons symbol rest =>
          rw [List.nil_append, List.takeWhile_cons, stops symbol rfl]
          rfl
  | cons symbol first ih =>
      rw [List.cons_append, List.takeWhile_cons, List.takeWhile_cons, ih]

theorem netloc_of_colon (before rest : List Char) (noColon : ∀ c ∈ before, c ≠ ':') :
    netloc (before ++ ':' :: rest) = netloc (':' :: rest) := by
  unfold netloc
  have skipped : (before ++ ':' :: rest).dropWhile (fun c => c ≠ ':') = ':' :: rest := by
    rw [List.dropWhile_append_of_pos (by simpa using noColon)]
    rfl
  rw [skipped]
  rfl

theorem netloc_of_no_colon (url : List Char) (noColon : ∀ c ∈ url, c ≠ ':') : netloc url = [] := by
  unfold netloc
  have skipped : url.dropWhile (fun c => c ≠ ':') = [] := by
    rw [List.dropWhile_eq_nil_iff]
    simpa using noColon
  rw [skipped]

theorem netloc_of_scheme (rest : List Char) :
    netloc (':' :: '/' :: '/' :: rest) =
      rest.takeWhile (fun c => c ≠ '/' ∧ c ≠ '?' ∧ c ≠ '#') := rfl

theorem takeWhile_authority (rest tail : List Char)
    (slash : ∀ c, tail.head? = some c → c = '/') :
    (rest ++ tail).takeWhile (fun c => c ≠ '/' ∧ c ≠ '?' ∧ c ≠ '#') =
      rest.takeWhile (fun c => c ≠ '/' ∧ c ≠ '?' ∧ c ≠ '#') := by
  refine takeWhile_append_of_stop _ rest tail ?_
  intro c first
  rw [slash c first]
  rfl

theorem head_of_slashes {slashes : List Char} (onlySlashes : ∀ c ∈ slashes, c = '/') :
    ∀ c, slashes.head? = some c → c = '/' :=
  fun c first => onlySlashes c (List.mem_of_mem_head? first)

theorem scheme_of_netloc {rest : List Char} (named : netloc (':' :: rest) ≠ []) :
    ∃ authority, rest = '/' :: '/' :: authority := by
  unfold netloc at named
  split at named
  · rename_i authority same
    have whole : ':' :: rest = ':' :: '/' :: '/' :: authority := same
    exact ⟨authority, (List.cons.inj whole).2⟩
  · exact absurd rfl named

theorem netloc_of_slashes (slashes : List Char) (onlySlashes : ∀ c ∈ slashes, c = '/') :
    netloc (':' :: slashes) = [] := by
  match slashes with
  | [] => rfl
  | [first] =>
      rw [onlySlashes first List.mem_cons_self]
      rfl
  | first :: second :: rest =>
      rw [onlySlashes first (by simp), onlySlashes second (by simp), netloc_of_scheme]
      have ends := takeWhile_authority [] rest
        (head_of_slashes fun c member => onlySlashes c (by simp [member]))
      exact ends

theorem netloc_append_slash (url slashes tail : List Char) (onlySlashes : ∀ c ∈ slashes, c = '/')
    (named : netloc (url ++ slashes) ≠ []) :
    netloc (url ++ '/' :: tail) = netloc (url ++ slashes) := by
  by_cases colon : ':' ∈ url
  · obtain ⟨before, rest, rfl, unseen⟩ := List.eq_append_cons_of_mem colon
    have noColon : ∀ c ∈ before, c ≠ ':' := fun c member same => unseen (same ▸ member)
    rw [List.append_assoc, List.cons_append, netloc_of_colon before _ noColon] at named ⊢
    rw [List.append_assoc, List.cons_append, netloc_of_colon before _ noColon]
    obtain ⟨authority, whole⟩ := scheme_of_netloc named
    cases rest with
    | nil => exact absurd (netloc_of_slashes slashes onlySlashes) named
    | cons first rest =>
        have firstSlash : first = '/' := (List.cons.inj whole).1
        subst firstSlash
        cases rest with
        | nil =>
            refine absurd (netloc_of_slashes ('/' :: slashes) ?_) named
            intro c member
            exact (List.mem_cons.mp member).elim id (onlySlashes c)
        | cons second rest =>
            have secondSlash : second = '/' := (List.cons.inj (List.cons.inj whole).2).1
            subst secondSlash
            rw [List.cons_append, List.cons_append, List.cons_append, List.cons_append,
              netloc_of_scheme, netloc_of_scheme, takeWhile_authority rest ('/' :: tail) ?_,
              takeWhile_authority rest slashes (head_of_slashes onlySlashes)]
            intro c first
            exact (Option.some.inj first).symm
  · refine absurd (netloc_of_no_colon (url ++ slashes) ?_) named
    intro c member same
    subst same
    cases List.mem_append.mp member with
    | inl inside => exact colon inside
    | inr slash => exact absurd (onlySlashes ':' slash) (by decide)

theorem strip_slashes (text : List Char) :
    ∃ before after, text = before ++ (Text.strip (fun c => c = '/') text ++ after) ∧
      (∀ c ∈ before, c = '/') ∧ ∀ c ∈ after, c = '/' := by
  refine ⟨text.takeWhile (fun c => c = '/'),
    (text.dropWhile fun c => c = '/').rtakeWhile (fun c => c = '/'), ?_, ?_, ?_⟩
  · unfold Text.strip
    rw [List.rdropWhile, List.rtakeWhile, ← List.reverse_append, List.takeWhile_append_dropWhile,
      List.reverse_reverse, List.takeWhile_append_dropWhile]
  · intro c member
    simpa using List.mem_takeWhile_imp member
  · intro c member
    simpa using List.mem_rtakeWhile_imp member

theorem netloc_ne_nil_of_hostname {url : String} (named : (hostname url).isSome = true) :
    netloc url.toList ≠ [] := by
  intro empty
  have unnamed : hostinfo url.toList = [] := by
    unfold hostinfo
    rw [empty]
    rfl
  unfold hostname at named
  rw [unnamed] at named
  cases named

/-- The URL of the account comes first, without its outer slashes, and a path after it.  Neither
the path nor a query moves the end of the authority. -/
structure AtServer (account : BotAccountWithSecret) (url : String) : Prop where
  under : ∃ path, url.toList =
    Text.strip (fun c => c = '/') account.ctsUrl.text.toList ++ '/' :: path
  authority : netloc url.toList = netloc account.ctsUrl.text.toList
  host : hostname url = some account.hostName

theorem joinUrl_atServer (account : BotAccountWithSecret) (path tail : String) :
    AtServer account (joinUrl account.ctsUrl.text path ++ tail) := by
  have named := netloc_ne_nil_of_hostname account.ctsUrl.hasHost
  obtain ⟨before, after, parts, leading, trailing⟩ := strip_slashes account.ctsUrl.text.toList
  have skipped : ∀ rest, netloc (before ++ rest) = netloc rest := by
    intro rest
    unfold netloc
    rw [List.dropWhile_append_of_pos]
    intro c member
    rw [leading c member]
    rfl
  have joined : (joinUrl account.ctsUrl.text path ++ tail).toList =
      Text.strip (fun c => c = '/') account.ctsUrl.text.toList ++
        '/' :: (Text.strip (fun c => c = '/') path.toList ++ tail.toList) := by
    unfold joinUrl
    rw [String.toList_append, String.toList_ofList, List.append_assoc, List.cons_append]
  have same : netloc (joinUrl account.ctsUrl.text path ++ tail).toList =
      netloc account.ctsUrl.text.toList := by
    rw [parts, skipped] at named
    rw [joined, parts, skipped]
    rw [← parts]
    exact netloc_append_slash _ after _ trailing named
  refine ⟨⟨_, joined⟩, same, ?_⟩
  have again : hostname (joinUrl account.ctsUrl.text path ++ tail) =
      hostname account.ctsUrl.text := by
    unfold hostname hostinfo
    rw [same]
  rw [again]
  exact (Option.some_get account.ctsUrl.hasHost).symm

theorem withQuery_atServer (python : Interpreter) (account : BotAccountWithSecret) (path : String)
    (params : List (String × Json)) :
    AtServer account (withQuery python (joinUrl account.ctsUrl.text path) params) := by
  unfold withQuery
  by_cases empty : params.isEmpty = true
  · rw [if_pos empty, ← String.append_empty (s := joinUrl account.ctsUrl.text path)]
    exact joinUrl_atServer account path ""
  · rw [if_neg empty, String.append_assoc]
    exact joinUrl_atServer account path _

def tokenFetch (env : Environment) (storage : BotAccountsStorage) : Option OutgoingRequest :=
  match storage.authVersion, storage.getTokenOrNone env.botId,
      getTokenRequest env.hmacSha256 storage env.botId with
  | .v1, none, .ok request => some (tokenOutgoing env request)
  | _, _, _ => none

def BotXMethod.requests (method : BotXMethod) (env : Environment) (payload : Payload)
    (session : Session) : List OutgoingRequest :=
  (if method.authorized then (tokenFetch env session.storage).toList else []) ++
    (method.sends env payload session).toList

def Environment.withClient (env : Environment) (client : HttpClient) : Environment :=
  { env with httpClient := client }

section

variable {env : Environment} {client : HttpClient}

theorem HttpClient.request_congr {first second : HttpClient} {outgoing : OutgoingRequest}
    (same : first outgoing = second outgoing) (preloadContent : Bool) :
    first.request preloadContent outgoing = second.request preloadContent outgoing := by
  unfold HttpClient.request
  rw [same]

theorem callAndRead_withClient {Answer : Type} (handlers : StatusHandlers)
    (reading : ModelReading Answer) {outgoing : OutgoingRequest}
    (same : client outgoing = env.httpClient outgoing) :
    callAndRead (env.withClient client) handlers reading outgoing =
      callAndRead env handlers reading outgoing := by
  have call : botxMethodCall client handlers outgoing =
      botxMethodCall env.httpClient handlers outgoing := by
    unfold botxMethodCall
    rw [HttpClient.request_congr same]
  change (botxMethodCall client handlers outgoing >>= _) = _
  rw [call]
  rfl

theorem authorize_withClient (storage : BotAccountsStorage)
    (agree : ∀ outgoing, tokenFetch env storage = some outgoing →
      client outgoing = env.httpClient outgoing) :
    authorize (env.withClient client) storage = authorize env storage := by
  unfold authorize addAuthorizationHeaders
  cases version : storage.authVersion with
  | v2 => rfl
  | v1 =>
      cases cached : storage.getTokenOrNone env.botId with
      | some token =>
          have same : storage.getTokenOrNone (env.withClient client).botId = some token := cached
          simp only [same]
      | none =>
          have same : storage.getTokenOrNone (env.withClient client).botId = none := cached
          simp only [same]
          unfold getToken
          cases made : getTokenRequest env.hmacSha256 storage env.botId with
          | error exc =>
              have alike : getTokenRequest (env.withClient client).hmacSha256 storage
                  (env.withClient client).botId = .error exc := made
              rw [alike]
              rfl
          | ok request =>
              have alike : getTokenRequest (env.withClient client).hmacSha256 storage
                  (env.withClient client).botId = .ok request := made
              have asked : tokenFetch env storage = some (tokenOutgoing env request) := by
                unfold tokenFetch
                rw [version, cached, made]
              have fetched : fetchToken (env.withClient client) request =
                  fetchToken env request := by
                unfold fetchToken
                change callAndRead (env.withClient client) _ _ (tokenOutgoing env request) >>= _ =
                  _
                rw [callAndRead_withClient _ _ (agree _ asked)]
                rfl
              rw [alike]
              change (fetchToken (env.withClient client) request >>= _) = _
              rw [fetched]
              rfl

variable {method : BotXMethod} {payload : Payload} {session : Session}

theorem prepare_withClient
    (agree : ∀ outgoing ∈ method.requests env payload session,
      client outgoing = env.httpClient outgoing) :
    method.prepare (env.withClient client) payload session.storage =
      method.prepare env payload session.storage := by
  have headers : method.headers (env.withClient client) session.storage =
      method.headers env session.storage := by
    unfold BotXMethod.headers
    by_cases authorized : method.authorized = true
    · rw [if_pos authorized, if_pos authorized]
      refine authorize_withClient session.storage ?_
      intro outgoing asked
      apply agree outgoing
      unfold BotXMethod.requests
      rw [if_pos authorized, asked]
      exact List.mem_append_left _ (List.mem_singleton.mpr rfl)
    · rw [if_neg authorized, if_neg authorized]
  unfold BotXMethod.prepare
  rw [headers]
  rfl

/-- The transport matters to a call for the call's own requests only. -/
theorem execute_withClient
    (agree : ∀ outgoing ∈ method.requests env payload session,
      client outgoing = env.httpClient outgoing) :
    method.execute (env.withClient client) payload session =
      method.execute env payload session := by
  unfold BotXMethod.execute
  rw [prepare_withClient agree]
  cases prepared : method.prepare env payload session.storage with
  | error exc => rfl
  | ok result =>
      obtain ⟨outgoing, authorized⟩ := result
      have same : client outgoing = env.httpClient outgoing := by
        apply agree outgoing
        have sent : method.sends env payload session = some outgoing :=
          BotXMethod.sends_eq_some_iff.mpr ⟨authorized, prepared⟩
        unfold BotXMethod.requests
        rw [sent]
        exact List.mem_append_right _ (List.mem_singleton.mpr rfl)
      cases reading : method.reading with
      | model read => simp only [callAndRead_withClient _ _ same]
      | stream nothing =>
          have stream : ∀ block : HttpResponse → Session → Result Unit × Session,
              botxMethodStream client method.statusHandlers outgoing block =
                botxMethodStream env.httpClient method.statusHandlers outgoing block := by
            intro block
            funext state
            unfold botxMethodStream
            rw [HttpClient.request_congr same]
          simp only [Environment.withClient, stream]

theorem buildUrl_eq_ok {storage : BotAccountsStorage} {botId : UUID} {path url : String}
    (built : buildUrl storage botId path = .ok url) :
    ∃ account, firstAccount botId storage.botAccounts = some account ∧
      url = joinUrl account.ctsUrl.text path := by
  obtain ⟨ctsUrl, found, joined⟩ := (Result.bind_eq_ok _ _ _).mp built
  obtain ⟨account, looked, text⟩ := (Result.bind_eq_ok _ _ _).mp found
  cases text
  cases joined
  exact ⟨account, (storage.getBotAccount_eq_ok_iff botId account).mp looked, rfl⟩

theorem request_url (url : String) (headers : List (String × String)) :
    (method.request env url headers payload).url = withQuery env.python url payload.params := by
  unfold BotXMethod.request
  cases method.reading with
  | model read => rfl
  | stream nothing =>
      cases content : payload.content <;> simp only [streamRequest, content] <;> rfl

/-- The request goes to the server of the account that the bot has. -/
def AtAccount (accounts : List BotAccountWithSecret) (botId : UUID) (outgoing : OutgoingRequest) :
    Prop :=
  ∃ account, firstAccount botId accounts = some account ∧ AtServer account outgoing.url

theorem tokenFetch_atAccount {storage : BotAccountsStorage} {outgoing : OutgoingRequest}
    (asked : tokenFetch env storage = some outgoing) :
    AtAccount storage.botAccounts env.botId outgoing := by
  unfold tokenFetch at asked
  split at asked
  · rename_i request _ _ made
    cases asked
    obtain ⟨signature, _, made⟩ := (Result.bind_eq_ok _ _ _).mp made
    obtain ⟨url, built, made⟩ := (Result.bind_eq_ok _ _ _).mp made
    cases made
    obtain ⟨account, found, rfl⟩ := buildUrl_eq_ok built
    refine ⟨account, found, ?_⟩
    exact withQuery_atServer env.python account (getTokenPath env.botId)
      [("signature", .str signature)]
  · cases asked

theorem sends_url {outgoing : OutgoingRequest}
    (sent : method.sends env payload session = some outgoing) :
    ∃ account, firstAccount env.botId session.storage.botAccounts = some account ∧
      outgoing.url =
        withQuery env.python (joinUrl account.ctsUrl.text method.path) payload.params := by
  obtain ⟨authorized, prepared⟩ := BotXMethod.sends_eq_some_iff.mp sent
  obtain ⟨url, built, prepared⟩ := (Result.bind_eq_ok _ _ _).mp prepared
  obtain ⟨⟨headers, _⟩, _, prepared⟩ := (Result.bind_eq_ok _ _ _).mp prepared
  cases prepared
  obtain ⟨account, found, rfl⟩ := buildUrl_eq_ok built
  exact ⟨account, found, request_url _ _⟩

theorem requests_cases {outgoing : OutgoingRequest}
    (member : outgoing ∈ method.requests env payload session) :
    tokenFetch env session.storage = some outgoing ∨
      method.sends env payload session = some outgoing := by
  cases List.mem_append.mp member with
  | inl asked =>
      by_cases authorized : method.authorized = true
      · rw [if_pos authorized] at asked
        exact .inl (Option.mem_toList.mp asked)
      · rw [if_neg authorized] at asked
        cases asked
  | inr sent => exact .inr (Option.mem_toList.mp sent)

theorem requests_atAccount :
    ∀ outgoing ∈ method.requests env payload session,
      AtAccount session.storage.botAccounts env.botId outgoing := by
  intro outgoing member
  cases requests_cases member with
  | inl asked => exact tokenFetch_atAccount asked
  | inr sent =>
      obtain ⟨account, found, url⟩ := sends_url sent
      refine ⟨account, found, ?_⟩
      rw [url]
      exact withQuery_atServer env.python account _ _

def GivesToken (env : Environment) (outgoing : OutgoingRequest) (token : String) : Prop :=
  ∃ url status body entries, env.httpClient outgoing = .answered url status body ∧
    body.failure = none ∧ (200 ≤ status ∧ status < 300) ∧
    env.python.loads body.bytes = .ok (.obj entries) ∧
    Dict.get "status" entries = some (.str "ok") ∧ Dict.get "result" entries = some (.str token)

theorem givesToken_of_fetched {request : GetTokenRequest} {token : String}
    (fetched : fetchToken env request = .ok token) :
    GivesToken env (tokenOutgoing env request) token := by
  obtain ⟨payload, read, same⟩ := (Result.bind_eq_ok _ _ _).mp fetched
  cases same
  obtain ⟨response, called, received⟩ := (Result.bind_eq_ok _ _ _).mp read
  obtain ⟨answered, passed⟩ := botxMethodCall_eq_ok called
  obtain ⟨url, status, body, exchange, complete, rfl⟩ := HttpClient.answered_of_request answered
  obtain ⟨_, successful⟩ := raiseForStatus_eq_ok_iff.mp passed
  obtain ⟨_, extracted, same⟩ := (Result.bind_eq_ok _ _ _).mp received
  cases Except.ok.inj same
  have data := HttpClient.data_of_request answered
  obtain ⟨raw, loaded, checked⟩ :=
    (verifyAndExtractApiModel_eq_ok_iff env.python _ _ _ data payload).mp extracted
  obtain ⟨entries, value, rfl, ok, result, text⟩ := (okPayload_eq_valid_iff _ _ _).mp
    ((Validated.lift_eq_valid_iff _ _).mp checked)
  rw [(str_eq_valid_iff value payload.result).mp text] at result
  exact ⟨url, status, body, entries, exchange, complete, successful, loaded, ok, result⟩

end

/-! ### The tokens of a run -/

structure ApiCall where
  env : Environment
  kind : ApiMethod
  payload : Payload

namespace ApiCall

def method (call : ApiCall) : BotXMethod :=
  call.kind.method call.env.python call.env.botId

def requests (call : ApiCall) (session : Session) : List OutgoingRequest :=
  call.method.requests call.env call.payload session

def run (call : ApiCall) (session : Session) : Session :=
  (call.method.execute call.env call.payload session).2

end ApiCall

/-- The session of a client with a new storage that has made one call after the other. -/
def runCalls (accounts : List BotAccountWithSecret) (version : BotXAuthVersion)
    (calls : List ApiCall) : Session :=
  calls.foldl (fun session call => call.run session) ⟨.new accounts version, []⟩

/-- When its turn came, one of the calls asked for a token at the server of the bot's account, and
the server gave out this one. -/
def GivenOut (accounts : List BotAccountWithSecret) (version : BotXAuthVersion)
    (calls : List ApiCall) (botId : UUID) (token : String) : Prop :=
  ∃ earlier call later outgoing, calls = earlier ++ call :: later ∧ call.env.botId = botId ∧
    tokenFetch call.env (runCalls accounts version earlier).storage = some outgoing ∧
    outgoing ∈ call.requests (runCalls accounts version earlier) ∧
    AtAccount accounts botId outgoing ∧ GivesToken call.env outgoing token

/-- Where the token of a call comes from: under V2 the bot signs it for the host of its account,
under V1 the server of that account has given it out to one of the calls. -/
def TokenOf (accounts : List BotAccountWithSecret) (version : BotXAuthVersion)
    (calls : List ApiCall) (env : Environment) (token : String) : Prop :=
  match version with
  | .v2 => ∃ account, firstAccount env.botId accounts = some account ∧
      token = env.jwt.encode
        (botxJwtV2Payload account.id account.hostName env.time env.tokenHex)
        account.secretKey "HS256"
  | .v1 => GivenOut accounts version calls env.botId token

structure StorageAfter (accounts : List BotAccountWithSecret) (version : BotXAuthVersion)
    (calls : List ApiCall) (storage : BotAccountsStorage) : Prop where
  sameAccounts : storage.botAccounts = accounts
  sameVersion : storage.authVersion = version
  tokens : ∀ botId token, storage.getTokenOrNone botId = some token →
    GivenOut accounts version calls botId token

section

variable {accounts : List BotAccountWithSecret} {version : BotXAuthVersion}
  {calls : List ApiCall} {storage : BotAccountsStorage}

theorem runCalls_concat (call : ApiCall) :
    runCalls accounts version (calls ++ [call]) = call.run (runCalls accounts version calls) := by
  unfold runCalls
  rw [List.foldl_append]
  rfl

theorem GivenOut.concat {botId : UUID} {token : String}
    (given : GivenOut accounts version calls botId token) (last : ApiCall) :
    GivenOut accounts version (calls ++ [last]) botId token := by
  obtain ⟨earlier, call, later, outgoing, rfl, asked⟩ := given
  refine ⟨earlier, call, later ++ [last], outgoing, ?_, asked⟩
  rw [List.append_assoc, List.cons_append]

theorem StorageAfter.concat (before : StorageAfter accounts version calls storage)
    (call : ApiCall) : StorageAfter accounts version (calls ++ [call]) storage where
  sameAccounts := before.sameAccounts
  sameVersion := before.sameVersion
  tokens := fun botId token cached => (before.tokens botId token cached).concat call

theorem givenOut_of_fetched {call : ApiCall} {request : GetTokenRequest} {token : String}
    (before : StorageAfter accounts .v1 calls (runCalls accounts .v1 calls).storage)
    (authorizes : call.method.authorized = true)
    (empty : (runCalls accounts .v1 calls).storage.getTokenOrNone call.env.botId = none)
    (made : getTokenRequest call.env.hmacSha256 (runCalls accounts .v1 calls).storage
      call.env.botId = .ok request)
    (fetched : fetchToken call.env request = .ok token) :
    GivenOut accounts .v1 (calls ++ [call]) call.env.botId token := by
  have asked : tokenFetch call.env (runCalls accounts .v1 calls).storage =
      some (tokenOutgoing call.env request) := by
    unfold tokenFetch
    rw [before.sameVersion, empty, made]
  have server := tokenFetch_atAccount asked
  rw [before.sameAccounts] at server
  refine ⟨calls, call, [], _, rfl, rfl, asked, ?_, server, givesToken_of_fetched fetched⟩
  unfold ApiCall.requests BotXMethod.requests
  rw [if_pos authorizes, asked]
  exact List.mem_append_left _ (List.mem_singleton.mpr rfl)

theorem authorize_cases {call : ApiCall} {headers : List (String × String)}
    {authorized : BotAccountsStorage}
    (before : StorageAfter accounts version calls (runCalls accounts version calls).storage)
    (authorizes : call.method.authorized = true)
    (added : authorize call.env (runCalls accounts version calls).storage =
      .ok (headers, authorized)) :
    (∃ token, headers = [("Authorization", bearer token)] ∧
      TokenOf accounts version (calls ++ [call]) call.env token) ∧
      StorageAfter accounts version (calls ++ [call]) authorized := by
  have later := before.concat call
  unfold authorize addAuthorizationHeaders at added
  rw [before.sameVersion] at added
  cases version with
  | v2 =>
      obtain ⟨token, built, added⟩ := (Result.bind_eq_ok _ _ _).mp added
      cases added
      refine ⟨⟨token, rfl, ?_⟩, later⟩
      obtain ⟨account, looked, _⟩ := (Result.bind_eq_ok _ _ _).mp built
      have found := (BotAccountsStorage.getBotAccount_eq_ok_iff _ call.env.botId account).mp looked
      rw [BotAccountsStorage.buildJwtV2_eq _ call.env.jwt call.env.botId call.env.time
        call.env.tokenHex account found] at built
      cases built
      rw [before.sameAccounts] at found
      exact ⟨account, found, rfl⟩
  | v1 =>
      cases cached : (runCalls accounts .v1 calls).storage.getTokenOrNone call.env.botId with
      | some token =>
          simp only [cached] at added
          cases added
          exact ⟨⟨token, rfl, later.tokens call.env.botId token cached⟩, later⟩
      | none =>
          simp only [cached] at added
          obtain ⟨token, got, added⟩ := (Result.bind_eq_ok _ _ _).mp added
          cases added
          obtain ⟨request, made, fetched⟩ := (Result.bind_eq_ok _ _ _).mp got
          have given := givenOut_of_fetched before authorizes cached made fetched
          refine ⟨⟨token, rfl, given⟩, before.sameAccounts, before.sameVersion, ?_⟩
          intro botId other present
          rw [BotAccountsStorage.getTokenOrNone_setToken] at present
          by_cases same : botId = call.env.botId
          · rw [if_pos same] at present
            cases present
            subst same
            exact given
          · rw [if_neg same] at present
            exact later.tokens botId other present

theorem execute_storage (method : BotXMethod) (env : Environment) (payload : Payload)
    (session : Session) :
    (method.execute env payload session).2.storage =
      match method.prepare env payload session.storage with
      | .error _ => session.storage
      | .ok (_, authorized) => authorized := by
  unfold BotXMethod.execute
  cases method.prepare env payload session.storage with
  | error exc => rfl
  | ok result =>
      obtain ⟨outgoing, authorized⟩ := result
      cases method.reading with
      | model read => rfl
      | stream nothing =>
          unfold botxMethodStream
          cases received : HttpClient.request env.httpClient false outgoing with
          | error description => simp only [received]
          | ok response =>
              cases passed : raiseForStatus method.statusHandlers response with
              | error exc => simp only [received, passed]
              | ok passedOn =>
                  simp only [received, passed, copyChunks_eq]
                  cases response.body.failure <;> rfl

theorem authorization_of_request (method : BotXMethod) (env : Environment) (url : String)
    (headers : List (String × String)) (payload : Payload) :
    Dict.get "Authorization" (method.request env url headers payload).headers =
      Dict.get "Authorization" headers := by
  have kept : ∀ content : Content,
      Dict.get "Authorization" (content.headers headers) = Dict.get "Authorization" headers := by
    intro content
    cases content with
    | json body => exact Dict.get_set_of_ne _ _ _ (by decide) headers
    | empty => rfl
    | fields form => rfl
  unfold BotXMethod.request
  cases method.reading with
  | model read => exact kept payload.content
  | stream nothing =>
      cases content : payload.content with
      | fields form =>
          simp only [streamRequest, content]
          exact kept .empty
      | empty =>
          simp only [streamRequest, content]
          exact kept payload.content
      | json body =>
          simp only [streamRequest, content]
          exact kept payload.content

theorem run_cases (call : ApiCall)
    (before : StorageAfter accounts version calls (runCalls accounts version calls).storage) :
    StorageAfter accounts version (calls ++ [call])
        (runCalls accounts version (calls ++ [call])).storage ∧
      ∀ outgoing, call.method.sends call.env call.payload (runCalls accounts version calls) =
          some outgoing →
        ∀ header, Dict.get "Authorization" outgoing.headers = some header →
          ∃ token, header = bearer token ∧
            TokenOf accounts version (calls ++ [call]) call.env token := by
  have later := before.concat call
  rw [runCalls_concat]
  unfold ApiCall.run BotXMethod.sends
  rw [execute_storage]
  cases prepared : call.method.prepare call.env call.payload
      (runCalls accounts version calls).storage with
  | error exc =>
      refine ⟨later, ?_⟩
      intro outgoing impossible
      cases impossible
  | ok result =>
      obtain ⟨url, built, prepared⟩ := (Result.bind_eq_ok _ _ _).mp prepared
      obtain ⟨⟨headers, authorized⟩, added, prepared⟩ := (Result.bind_eq_ok _ _ _).mp prepared
      cases prepared
      unfold BotXMethod.headers at added
      by_cases authorizes : call.method.authorized = true
      · rw [if_pos authorizes] at added
        obtain ⟨⟨token, rfl, granted⟩, after⟩ := authorize_cases before authorizes added
        refine ⟨after, ?_⟩
        intro outgoing sent header carried
        cases sent
        rw [authorization_of_request] at carried
        cases carried
        exact ⟨token, rfl, granted⟩
      · rw [if_neg authorizes] at added
        cases added
        refine ⟨later, ?_⟩
        intro outgoing sent header carried
        cases sent
        rw [authorization_of_request] at carried
        cases carried

theorem storageAfter_runCalls (accounts : List BotAccountWithSecret) (version : BotXAuthVersion)
    (calls : List ApiCall) :
    StorageAfter accounts version calls (runCalls accounts version calls).storage := by
  induction calls using List.reverseRecOn with
  | nil =>
      refine ⟨rfl, rfl, ?_⟩
      intro botId token impossible
      cases impossible
  | append_singleton calls call ih => exact (run_cases call ih).1

theorem tokenFetch_bare {env : Environment} {outgoing : OutgoingRequest}
    (asked : tokenFetch env storage = some outgoing) :
    Dict.get "Authorization" outgoing.headers = none := by
  unfold tokenFetch at asked
  split at asked
  · cases asked
    rfl
  · cases asked

end

/-- A call asks the server of the bot's account only, gives it a token that is meant for it, and
does not depend on any other server. -/
structure Confined (accounts : List BotAccountWithSecret) (version : BotXAuthVersion)
    (calls : List ApiCall) (call : ApiCall) : Prop where
  servers : ∀ outgoing ∈ call.requests (runCalls accounts version calls),
    AtAccount accounts call.env.botId outgoing
  address : ∀ outgoing,
    call.method.sends call.env call.payload (runCalls accounts version calls) = some outgoing →
    ∃ account, firstAccount call.env.botId accounts = some account ∧
      outgoing.url = withQuery call.env.python (joinUrl account.ctsUrl.text call.method.path)
        call.payload.params
  tokens : ∀ outgoing ∈ call.requests (runCalls accounts version calls),
    ∀ header, Dict.get "Authorization" outgoing.headers = some header →
      ∃ token, header = bearer token ∧ TokenOf accounts version (calls ++ [call]) call.env token
  others : ∀ client : HttpClient,
    (∀ outgoing, AtAccount accounts call.env.botId outgoing →
      client outgoing = call.env.httpClient outgoing) →
    call.method.execute (call.env.withClient client) call.payload
        (runCalls accounts version calls) =
      call.method.execute call.env call.payload (runCalls accounts version calls)

/-- After any calls of any bots, every call of every method is confined to the server of its
bot's account. -/
theorem calls_confined (accounts : List BotAccountWithSecret) (version : BotXAuthVersion)
    (calls : List ApiCall) (call : ApiCall) : Confined accounts version calls call := by
  have before := storageAfter_runCalls accounts version calls
  have servers : ∀ outgoing ∈ call.requests (runCalls accounts version calls),
      AtAccount accounts call.env.botId outgoing := by
    intro outgoing member
    have server := requests_atAccount outgoing member
    rw [before.sameAccounts] at server
    exact server
  refine ⟨servers, ?_, ?_, ?_⟩
  · intro outgoing sent
    have address := sends_url sent
    rw [before.sameAccounts] at address
    exact address
  · intro outgoing member header carried
    cases requests_cases member with
    | inl asked =>
        rw [tokenFetch_bare asked] at carried
        cases carried
    | inr sent => exact (run_cases call before).2 outgoing sent header carried
  · intro client agree
    exact execute_withClient fun outgoing member => agree outgoing (servers outgoing member)

end Pybotx
