/-
The part of a BotX method every method shares: the URL it calls, the request it sends and
the two ways of receiving the response.
-/

import Pybotx.Bot.BotAccountsStorage
import Pybotx.Client.Responses

set_option autoImplicit false

namespace Pybotx

/-- `"/".join(part.strip("/") for part in (cts_url, path))`. -/
def joinUrl (ctsUrl path : String) : String :=
  String.ofList (Text.strip (fun c => c = '/') ctsUrl.toList ++
    '/' :: Text.strip (fun c => c = '/') path.toList)

def buildUrl (storage : BotAccountsStorage) (botId : UUID) (path : String) : Result String := do
  let ctsUrl ← storage.getCtsUrl botId
  return joinUrl ctsUrl path

theorem buildUrl_of_accounts {first second : BotAccountsStorage} (botId : UUID) (path : String)
    (same : first.botAccounts = second.botAccounts) :
    buildUrl first botId path = buildUrl second botId path := by
  unfold buildUrl BotAccountsStorage.getCtsUrl BotAccountsStorage.getBotAccount
  rw [same]

inductive FormField where
  | text (value : Json)
  | file (filename : String) (content : List UInt8)

inductive Content where
  | empty
  | json (body : Json)
  | fields (form : List (String × FormField))

/-- The keyword arguments of a call, apart from the headers. -/
structure Payload where
  params : List (String × Json)
  content : Content

structure OutgoingRequest where
  method : String
  url : String
  headers : List (String × String)
  content : Content

def quotePlus (text : String) : String :=
  String.ofList (text.toUTF8.toList.flatMap fun byte =>
    let c := Char.ofNat byte.toNat
    if c.isAlphanum || ['_', '.', '-', '~'].contains c then [c]
    else if c = ' ' then ['+']
    else '%' :: (Text.hexText 2 byte.toNat).map Char.toUpper)

def urlencode (python : Interpreter) (params : List (String × Json)) : String :=
  "&".intercalate (params.map fun param =>
    quotePlus param.1 ++ "=" ++ quotePlus (python.str param.2))

def withQuery (python : Interpreter) (url : String) (params : List (String × Json)) : String :=
  if params.isEmpty then url else url ++ "?" ++ urlencode python params

def Content.headers (headers : List (String × String)) : Content → List (String × String)
  | json _ => Dict.set "Content-Type" "application/json" headers
  | _ => headers

def callRequest (python : Interpreter) (method url : String) (headers : List (String × String))
    (payload : Payload) : OutgoingRequest where
  method := method
  url := withQuery python url payload.params
  headers := payload.content.headers headers
  content := payload.content

/-- Streaming knows no form fields. -/
def streamRequest (python : Interpreter) (method url : String) (headers : List (String × String))
    (payload : Payload) : OutgoingRequest :=
  match payload.content with
  | .fields _ => callRequest python method url headers { payload with content := .empty }
  | _ => callRequest python method url headers payload

/-- What `urllib3` makes of one request, its own retries included. -/
inductive Exchange where
  | failed (description : String)
  | answered (url : String) (status : Nat) (body : Body)

def Exchange.Broken : Exchange → Prop
  | failed _ => True
  | answered _ _ body => body.failure ≠ none

abbrev HttpClient := OutgoingRequest → Exchange

/-- `http_client.request`.  With `preload_content` the body is read before it returns. -/
def HttpClient.request (client : HttpClient) (preloadContent : Bool)
    (outgoing : OutgoingRequest) : Except String HttpResponse :=
  match client outgoing with
  | .failed description => .error description
  | .answered url status body =>
      match preloadContent, body.failure with
      | true, some description => .error description
      | _, _ => .ok { method := some outgoing.method, url := url, status := status, body := body }

def networkMessage (method url description : String) : String :=
  method ++ " " ++ url ++ "\nfailed with network error: " ++ description

def networkError (outgoing : OutgoingRequest) (description : String) : PyError :=
  .client .botXNetwork (networkMessage outgoing.method outgoing.url description)

def botxMethodCall (client : HttpClient) (handlers : StatusHandlers)
    (outgoing : OutgoingRequest) : Result HttpResponse :=
  match client.request true outgoing with
  | .error description => .error (networkError outgoing description)
  | .ok response => do
      raiseForStatus handlers response
      return response

/-- A context manager: `block` is the body of the `with` statement, `state` what it works
on.  Only the request itself stands under the `except` for the transport. -/
def botxMethodStream {σ α : Type} (client : HttpClient) (handlers : StatusHandlers)
    (outgoing : OutgoingRequest) (block : HttpResponse → σ → Result α × σ) (state : σ) :
    Result α × σ :=
  match client.request false outgoing with
  | .error description => (.error (networkError outgoing description), state)
  | .ok response =>
      match raiseForStatus handlers response with
      | .error exc => (.error exc, state)
      | .ok () => block response state

section

variable {client : HttpClient} {outgoing : OutgoingRequest}

theorem HttpClient.request_of_complete (preloadContent : Bool) {url : String} {status : Nat}
    {body : Body} (answered : client outgoing = .answered url status body)
    (complete : body.failure = none) :
    client.request preloadContent outgoing = .ok ⟨some outgoing.method, url, status, body⟩ := by
  unfold HttpClient.request
  rw [answered]
  cases preloadContent <;> simp [complete]

theorem HttpClient.request_of_stream {url : String} {status : Nat} {body : Body}
    (answered : client outgoing = .answered url status body) :
    client.request false outgoing = .ok ⟨some outgoing.method, url, status, body⟩ := by
  unfold HttpClient.request
  rw [answered]

/-- With the content preloaded, a broken exchange fails as a whole. -/
theorem HttpClient.request_of_broken (broken : (client outgoing).Broken) :
    ∃ description, client.request true outgoing = .error description := by
  unfold HttpClient.request
  cases exchange : client outgoing with
  | failed description => exact ⟨description, rfl⟩
  | answered url status body =>
      rw [exchange] at broken
      obtain ⟨description, failure⟩ := Option.ne_none_iff_exists'.mp broken
      exact ⟨description, by simp [failure]⟩

theorem HttpClient.data_of_request {response : HttpResponse}
    (received : client.request true outgoing = .ok response) :
    response.data = .ok response.body.bytes := by
  unfold HttpClient.request at received
  cases exchange : client outgoing with
  | failed description => simp [exchange] at received
  | answered url status body =>
      cases failure : body.failure with
      | some description => simp [exchange, failure] at received
      | none =>
          simp only [exchange, failure, Except.ok.injEq] at received
          rw [← received]
          exact (body.read_eq_ok_iff _).mpr ⟨failure, rfl⟩

theorem HttpClient.answered_of_request {response : HttpResponse}
    (received : client.request true outgoing = .ok response) :
    ∃ url status body, client outgoing = .answered url status body ∧ body.failure = none ∧
      response = ⟨some outgoing.method, url, status, body⟩ := by
  unfold HttpClient.request at received
  cases exchange : client outgoing with
  | failed description =>
      rw [exchange] at received
      cases received
  | answered url status body =>
      cases failure : body.failure with
      | some description =>
          simp only [exchange, failure] at received
          cases received
      | none =>
          simp only [exchange, failure] at received
          cases received
          exact ⟨url, status, body, rfl, failure, rfl⟩

theorem botxMethodCall_of_broken {handlers : StatusHandlers}
    (broken : (client outgoing).Broken) :
    ∃ message, botxMethodCall client handlers outgoing = .error (.client .botXNetwork message) := by
  obtain ⟨description, failed⟩ := HttpClient.request_of_broken broken
  unfold botxMethodCall
  rw [failed]
  exact ⟨_, rfl⟩

theorem botxMethodCall_eq_ok {handlers : StatusHandlers} {response : HttpResponse}
    (returned : botxMethodCall client handlers outgoing = .ok response) :
    client.request true outgoing = .ok response ∧ raiseForStatus handlers response = .ok () := by
  unfold botxMethodCall at returned
  cases received : client.request true outgoing with
  | error description =>
      rw [received] at returned
      cases returned
  | ok first =>
      rw [received] at returned
      obtain ⟨_, passed, same⟩ := (Result.bind_eq_ok _ _ _).mp returned
      cases same
      exact ⟨rfl, passed⟩

theorem data_of_botxMethodCall {handlers : StatusHandlers} {response : HttpResponse}
    (returned : botxMethodCall client handlers outgoing = .ok response) :
    response.data = .ok response.body.bytes :=
  HttpClient.data_of_request (botxMethodCall_eq_ok returned).1

theorem botxMethodCall_quiet (handlers : StatusHandlers) :
    Result.Quiet (botxMethodCall client handlers outgoing) := by
  unfold botxMethodCall
  cases received : client.request true outgoing with
  | error description => exact (Result.raises_error_iff _ _).mpr rfl
  | ok response =>
      exact (raiseForStatus_quiet _ (HttpClient.data_of_request received)).bind
        fun _ _ => Result.raises_ok _ response

end

end Pybotx
