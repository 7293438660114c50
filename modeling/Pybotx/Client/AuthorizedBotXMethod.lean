/-
Authorization of outgoing requests, and the token cache that concurrent V1 requests
share.

`addAuthorizationHeaders` is the code, read as one uninterrupted call.  `Step` cuts it
where another request can come between: around the read of the cache, the fetch, the
write of the cache and the send.  Warnings about the deprecated V1 are left out.
-/

import Pybotx.Foundation.Transition
import Pybotx.Client.BotXMethod

set_option autoImplicit false

namespace Pybotx

structure GetTokenRequest where
  method : String
  url : String
  signature : String
  deriving DecidableEq

abbrev Hmac := List UInt8 → List UInt8 → List UInt8

def getTokenPath (botId : UUID) : String :=
  "/api/v2/botx/bots/" ++ botId.str ++ "/token"

def getTokenRequest (hmacSha256 : Hmac) (storage : BotAccountsStorage) (botId : UUID) :
    Result GetTokenRequest := do
  let signature ← storage.buildSignature hmacSha256 botId
  let url ← buildUrl storage botId (getTokenPath botId)
  return { method := "GET", url := url, signature := signature }

/-- `execute` sends the request and gives the token of a valid answer. -/
def getToken (hmacSha256 : Hmac) (execute : GetTokenRequest → Result String)
    (storage : BotAccountsStorage) (botId : UUID) : Result String := do
  let request ← getTokenRequest hmacSha256 storage botId
  execute request

def bearer (token : String) : String :=
  "Bearer " ++ token

/-- The storage is returned because V1 writes its cache.  An exception leaves it as it
was: nothing can fail after `set_token`. -/
def addAuthorizationHeaders (jwt : PyJWT) (hmacSha256 : Hmac)
    (execute : GetTokenRequest → Result String) (time : Int) (tokenHex : String)
    (storage : BotAccountsStorage) (botId : UUID) (headers : List (String × String)) :
    Result (List (String × String) × BotAccountsStorage) :=
  match storage.authVersion with
  | .v2 => do
      let token ← storage.buildJwtV2 jwt botId time tokenHex
      return (Dict.set "Authorization" (bearer token) headers, storage)
  | .v1 =>
      match storage.getTokenOrNone botId with
      | none => do
          let token ← getToken hmacSha256 execute storage botId
          return (Dict.set "Authorization" (bearer token) headers, storage.setToken botId token)
      | some token => return (Dict.set "Authorization" (bearer token) headers, storage)

/-! ### Interleaved requests -/

inductive Phase where
  | started
  | cacheEmpty
  | awaiting (request : GetTokenRequest)
  | received (token : String)
  | authorized (token : String)
  | finished
  | failed (exc : PyError)

structure Call where
  botId : UUID
  phase : Phase

structure Fetch where
  call : Nat
  request : GetTokenRequest

structure Sent where
  call : Nat
  botId : UUID
  authorization : String

/-- `issued` is the server's own record of the tokens it gave out. -/
structure World where
  storage : BotAccountsStorage
  calls : Nat → Option Call
  fetches : List Fetch
  issued : List (GetTokenRequest × String)
  sent : List Sent

namespace World

def initial (accounts : List BotAccountWithSecret) : World :=
  { storage := .new accounts .v1
    calls := fun _ => none
    fetches := []
    issued := []
    sent := [] }

def cached (world : World) (botId : UUID) : Option String :=
  world.storage.getTokenOrNone botId

def setCall (world : World) (index : Nat) (botId : UUID) (phase : Phase) : World :=
  { world with calls := Function.update world.calls index (some ⟨botId, phase⟩) }

/-- The server issued the token in answer to the request that the storage signs for
the bot. -/
def IssuedFor (hmacSha256 : Hmac) (world : World) (botId : UUID) (token : String) : Prop :=
  ∃ request, getTokenRequest hmacSha256 world.storage botId = .ok request ∧
    (request, token) ∈ world.issued

end World

inductive Step (hmacSha256 : Hmac) : World → World → Prop
  | start (world : World) (index : Nat) (botId : UUID) (fresh : world.calls index = none) :
      Step hmacSha256 world (world.setCall index botId .started)
  | readEmpty (world : World) (index : Nat) (botId : UUID)
      (here : world.calls index = some ⟨botId, .started⟩)
      (empty : world.storage.getTokenOrNone botId = none) :
      Step hmacSha256 world (world.setCall index botId .cacheEmpty)
  | readCached (world : World) (index : Nat) (botId : UUID) (token : String)
      (here : world.calls index = some ⟨botId, .started⟩)
      (present : world.storage.getTokenOrNone botId = some token) :
      Step hmacSha256 world (world.setCall index botId (.authorized token))
  | request (world : World) (index : Nat) (botId : UUID) (request : GetTokenRequest)
      (here : world.calls index = some ⟨botId, .cacheEmpty⟩)
      (built : getTokenRequest hmacSha256 world.storage botId = .ok request) :
      Step hmacSha256 world
        { world.setCall index botId (.awaiting request) with
          fetches := ⟨index, request⟩ :: world.fetches }
  | requestFails (world : World) (index : Nat) (botId : UUID) (exc : PyError)
      (here : world.calls index = some ⟨botId, .cacheEmpty⟩)
      (built : getTokenRequest hmacSha256 world.storage botId = .error exc) :
      Step hmacSha256 world (world.setCall index botId (.failed exc))
  | answer (world : World) (index : Nat) (botId : UUID) (request : GetTokenRequest)
      (token : String) (here : world.calls index = some ⟨botId, .awaiting request⟩) :
      Step hmacSha256 world
        { world.setCall index botId (.received token) with
          issued := (request, token) :: world.issued }
  | answerFails (world : World) (index : Nat) (botId : UUID) (request : GetTokenRequest)
      (exc : PyError) (here : world.calls index = some ⟨botId, .awaiting request⟩) :
      Step hmacSha256 world (world.setCall index botId (.failed exc))
  | store (world : World) (index : Nat) (botId : UUID) (token : String)
      (here : world.calls index = some ⟨botId, .received token⟩) :
      Step hmacSha256 world
        { world.setCall index botId (.authorized token) with
          storage := world.storage.setToken botId token }
  | send (world : World) (index : Nat) (botId : UUID) (token : String)
      (here : world.calls index = some ⟨botId, .authorized token⟩) :
      Step hmacSha256 world
        { world.setCall index botId .finished with
          sent := ⟨index, botId, bearer token⟩ :: world.sent }

variable {hmacSha256 : Hmac}

theorem World.setCall_calls (world : World) (index other : Nat) (botId : UUID) (phase : Phase) :
    (world.setCall index botId phase).calls other =
      if other = index then some ⟨botId, phase⟩ else world.calls other := by
  simp [World.setCall, Function.update_apply]

theorem Step.issuedFor {before after : World} (step : Step hmacSha256 before after)
    (botId : UUID) (token : String) (issued : before.IssuedFor hmacSha256 botId token) :
    after.IssuedFor hmacSha256 botId token := by
  obtain ⟨request, built, listed⟩ := issued
  cases step with
  | answer => exact ⟨request, built, List.mem_cons_of_mem _ listed⟩
  | _ => exact ⟨request, built, listed⟩

/-- Only the write of a received token touches the cache. -/
theorem Step.cached {before after : World} (step : Step hmacSha256 before after)
    (botId : UUID) :
    after.cached botId = before.cached botId ∨
      ∃ index token, before.calls index = some ⟨botId, .received token⟩ ∧
        after.cached botId = some token := by
  cases step with
  | store index other token here =>
      by_cases same : botId = other
      · subst same
        exact Or.inr ⟨index, token, here, by simp [World.cached]⟩
      · exact Or.inl (by simp [World.cached, same])
  | _ => exact Or.inl rfl

theorem Step.cached_isSome {before after : World} (step : Step hmacSha256 before after)
    (botId : UUID) (present : (before.cached botId).isSome = true) :
    (after.cached botId).isSome = true := by
  rcases step.cached botId with unchanged | ⟨_, token, _, written⟩
  · rw [unchanged]
    exact present
  · rw [written]
    rfl

inductive Next : Phase → Phase → Prop
  | miss : Next .started .cacheEmpty
  | hit (token : String) : Next .started (.authorized token)
  | request (request : GetTokenRequest) : Next .cacheEmpty (.awaiting request)
  | requestFails (exc : PyError) : Next .cacheEmpty (.failed exc)
  | answer (request : GetTokenRequest) (token : String) :
      Next (.awaiting request) (.received token)
  | answerFails (request : GetTokenRequest) (exc : PyError) :
      Next (.awaiting request) (.failed exc)
  | store (token : String) : Next (.received token) (.authorized token)
  | send (token : String) : Next (.authorized token) .finished

theorem Step.moves {before after : World} (step : Step hmacSha256 before after) :
    ∃ index botId phase,
      after.calls = (before.setCall index botId phase).calls ∧
      ((before.calls index = none ∧ phase = .started) ∨
        ∃ old, before.calls index = some ⟨botId, old⟩ ∧ Next old phase) := by
  cases step with
  | start index botId fresh => exact ⟨index, botId, _, rfl, Or.inl ⟨fresh, rfl⟩⟩
  | readEmpty index botId here => exact ⟨index, botId, _, rfl, Or.inr ⟨_, here, .miss⟩⟩
  | readCached index botId token here =>
      exact ⟨index, botId, _, rfl, Or.inr ⟨_, here, .hit token⟩⟩
  | request index botId request here =>
      exact ⟨index, botId, _, rfl, Or.inr ⟨_, here, .request request⟩⟩
  | requestFails index botId exc here =>
      exact ⟨index, botId, _, rfl, Or.inr ⟨_, here, .requestFails exc⟩⟩
  | answer index botId request token here =>
      exact ⟨index, botId, _, rfl, Or.inr ⟨_, here, .answer request token⟩⟩
  | answerFails index botId request exc here =>
      exact ⟨index, botId, _, rfl, Or.inr ⟨_, here, .answerFails request exc⟩⟩
  | store index botId token here =>
      exact ⟨index, botId, _, rfl, Or.inr ⟨_, here, .store token⟩⟩
  | send index botId token here =>
      exact ⟨index, botId, _, rfl, Or.inr ⟨_, here, .send token⟩⟩

theorem Step.call {before after : World} (step : Step hmacSha256 before after)
    (index : Nat) (botId : UUID) (old : Phase)
    (here : before.calls index = some ⟨botId, old⟩) :
    ∃ phase, after.calls index = some ⟨botId, phase⟩ ∧ (phase = old ∨ Next old phase) := by
  obtain ⟨changed, changedBot, phase, calls, moved⟩ := step.moves
  rw [calls, World.setCall_calls]
  by_cases same : index = changed
  · subst same
    rw [if_pos rfl]
    rcases moved with ⟨fresh, _⟩ | ⟨previous, atChanged, next⟩
    · rw [here] at fresh
      cases fresh
    · rw [here] at atChanged
      cases atChanged
      exact ⟨phase, rfl, Or.inr next⟩
  · rw [if_neg same]
    exact ⟨old, here, Or.inl rfl⟩

theorem Step.call_before {before after : World} (step : Step hmacSha256 before after)
    (index : Nat) (botId : UUID) (phase : Phase)
    (here : after.calls index = some ⟨botId, phase⟩) :
    (before.calls index = none ∧ phase = .started) ∨
      ∃ old, before.calls index = some ⟨botId, old⟩ ∧ (phase = old ∨ Next old phase) := by
  cases found : before.calls index with
  | some call =>
      rcases call with ⟨otherBot, old⟩
      obtain ⟨now, there, moved⟩ := step.call index otherBot old found
      rw [here] at there
      cases there
      exact Or.inr ⟨old, rfl, moved⟩
  | none =>
      obtain ⟨changed, changedBot, new, calls, moved⟩ := step.moves
      rw [calls, World.setCall_calls] at here
      by_cases same : index = changed
      · subst same
        rw [if_pos rfl] at here
        cases here
        rcases moved with ⟨_, started⟩ | ⟨previous, atChanged, _⟩
        · exact Or.inl ⟨rfl, started⟩
        · rw [found] at atChanged
          cases atChanged
      · rw [if_neg same, found] at here
        cases here

def PhaseIsolated (hmacSha256 : Hmac) (world : World) (botId : UUID) : Phase → Prop
  | .awaiting request => getTokenRequest hmacSha256 world.storage botId = .ok request
  | .received token => world.IssuedFor hmacSha256 botId token
  | .authorized token => world.IssuedFor hmacSha256 botId token
  | _ => True

structure Isolated (hmacSha256 : Hmac) (world : World) : Prop where
  cache : ∀ botId token, world.cached botId = some token →
    world.IssuedFor hmacSha256 botId token
  calls : ∀ index botId phase, world.calls index = some ⟨botId, phase⟩ →
    PhaseIsolated hmacSha256 world botId phase
  sent : ∀ sent ∈ world.sent, ∃ token, sent.authorization = bearer token ∧
    world.IssuedFor hmacSha256 sent.botId token
  fetches : ∀ fetch ∈ world.fetches, world.calls fetch.call ≠ none
  finished : ∀ sent ∈ world.sent,
    world.calls sent.call = some ⟨sent.botId, .finished⟩

theorem isolated_initial (accounts : List BotAccountWithSecret) :
    Isolated hmacSha256 (World.initial accounts) where
  cache := by intro botId token present; cases present
  calls := by intro index botId phase here; cases here
  sent := by intro sent member; cases member
  fetches := by intro fetch member; cases member
  finished := by intro sent member; cases member

theorem Step.getTokenRequest {before after : World} (step : Step hmacSha256 before after)
    (botId : UUID) :
    getTokenRequest hmacSha256 after.storage botId =
      getTokenRequest hmacSha256 before.storage botId := by
  cases step <;> rfl

theorem Step.phaseIsolated {before after : World} (step : Step hmacSha256 before after)
    (botId : UUID) (phase : Phase) (isolated : PhaseIsolated hmacSha256 before botId phase) :
    PhaseIsolated hmacSha256 after botId phase := by
  cases phase with
  | awaiting request => exact (step.getTokenRequest botId).trans isolated
  | received token => exact step.issuedFor botId token isolated
  | authorized token => exact step.issuedFor botId token isolated
  | _ => trivial

private theorem calls_isolated_setCall {before after : World}
    (step : Step hmacSha256 before after) (isolated : Isolated hmacSha256 before)
    (index : Nat) (botId : UUID) (phase : Phase)
    (calls : after.calls = (before.setCall index botId phase).calls)
    (new : PhaseIsolated hmacSha256 after botId phase) :
    ∀ other otherBot otherPhase, after.calls other = some ⟨otherBot, otherPhase⟩ →
      PhaseIsolated hmacSha256 after otherBot otherPhase := by
  intro other otherBot otherPhase here
  rw [calls, World.setCall_calls] at here
  by_cases same : other = index
  · rw [if_pos same] at here
    cases here
    exact new
  · rw [if_neg same] at here
    exact step.phaseIsolated otherBot otherPhase (isolated.calls other otherBot otherPhase here)

theorem Step.calls_isolated {before after : World} (step : Step hmacSha256 before after)
    (isolated : Isolated hmacSha256 before) (index : Nat) (botId : UUID) (phase : Phase)
    (here : after.calls index = some ⟨botId, phase⟩) :
    PhaseIsolated hmacSha256 after botId phase := by
  have only := calls_isolated_setCall step isolated
  cases step with
  | start changed bot fresh => exact only changed bot _ rfl trivial index botId phase here
  | readEmpty changed bot => exact only changed bot _ rfl trivial index botId phase here
  | readCached changed bot token there present =>
      exact only changed bot _ rfl (isolated.cache bot token present) index botId phase here
  | request changed bot request there built =>
      exact only changed bot _ rfl built index botId phase here
  | requestFails changed bot => exact only changed bot _ rfl trivial index botId phase here
  | answer changed bot request token there =>
      have issued : World.IssuedFor hmacSha256
          { before.setCall changed bot (.received token) with
            issued := (request, token) :: before.issued } bot token :=
        ⟨request, isolated.calls changed bot _ there, List.mem_cons_self⟩
      exact only changed bot _ rfl issued index botId phase here
  | answerFails changed bot => exact only changed bot _ rfl trivial index botId phase here
  | store changed bot token there =>
      exact only changed bot _ rfl (isolated.calls changed bot _ there) index botId phase here
  | send changed bot => exact only changed bot _ rfl trivial index botId phase here

theorem Step.sent {before after : World} (step : Step hmacSha256 before after) (sent : Sent)
    (member : sent ∈ after.sent) :
    sent ∈ before.sent ∨ ∃ token,
      before.calls sent.call = some ⟨sent.botId, .authorized token⟩ ∧
      after.calls sent.call = some ⟨sent.botId, .finished⟩ ∧
      sent.authorization = bearer token := by
  cases step with
  | send index botId token here =>
      rcases List.mem_cons.mp member with rfl | earlier
      · exact Or.inr ⟨token, here, by simp [World.setCall_calls], rfl⟩
      · exact Or.inl earlier
  | _ => exact Or.inl member

theorem Step.fetched {before after : World} (step : Step hmacSha256 before after)
    (fetch : Fetch) (member : fetch ∈ after.fetches) :
    fetch ∈ before.fetches ∨
      ∃ botId, before.calls fetch.call = some ⟨botId, .cacheEmpty⟩ := by
  cases step with
  | request index botId request here =>
      rcases List.mem_cons.mp member with rfl | earlier
      · exact Or.inr ⟨botId, here⟩
      · exact Or.inl earlier
  | _ => exact Or.inl member

theorem Step.finished_stays {before after : World} (step : Step hmacSha256 before after)
    (index : Nat) (botId : UUID) (here : before.calls index = some ⟨botId, .finished⟩) :
    after.calls index = some ⟨botId, .finished⟩ := by
  obtain ⟨phase, there, rfl | next⟩ := step.call index botId .finished here
  · exact there
  · cases next

theorem Step.failed_stays {before after : World} (step : Step hmacSha256 before after)
    (index : Nat) (botId : UUID) (exc : PyError)
    (here : before.calls index = some ⟨botId, .failed exc⟩) :
    after.calls index = some ⟨botId, .failed exc⟩ := by
  obtain ⟨phase, there, rfl | next⟩ := step.call index botId (.failed exc) here
  · exact there
  · cases next

theorem isolated_stable : Transition.Stable (Step hmacSha256) (Isolated hmacSha256) := by
  intro before after step isolated
  refine ⟨?_, step.calls_isolated isolated, ?_, ?_, ?_⟩
  · intro botId token present
    rcases step.cached botId with unchanged | ⟨index, written, here, new⟩
    · rw [unchanged] at present
      exact step.issuedFor botId token (isolated.cache botId token present)
    · rw [new] at present
      cases present
      exact step.issuedFor botId token (isolated.calls index botId _ here)
  · intro sent member
    rcases step.sent sent member with earlier | ⟨token, here, _, authorization⟩
    · obtain ⟨token, authorization, issued⟩ := isolated.sent sent earlier
      exact ⟨token, authorization, step.issuedFor sent.botId token issued⟩
    · exact ⟨token, authorization,
        step.issuedFor sent.botId token (isolated.calls sent.call sent.botId _ here)⟩
  · intro fetch member
    have known : ∃ call, before.calls fetch.call = some call := by
      rcases step.fetched fetch member with earlier | ⟨botId, here⟩
      · exact Option.ne_none_iff_exists'.mp (isolated.fetches fetch earlier)
      · exact ⟨_, here⟩
    obtain ⟨⟨botId, old⟩, here⟩ := known
    obtain ⟨phase, there, _⟩ := step.call fetch.call botId old here
    rw [there]
    exact Option.some_ne_none _
  · intro sent member
    rcases step.sent sent member with earlier | ⟨_, _, finished, _⟩
    · exact step.finished_stays sent.call sent.botId (isolated.finished sent earlier)
    · exact finished

/-! ### Calls that start with a cached token -/

inductive Quiet : Phase → Prop
  | started : Quiet .started
  | authorized (token : String) : Quiet (.authorized token)
  | finished : Quiet .finished

/-- The bot has a token in the cache, and the call either belongs to another bot or has
not fetched and will not. -/
structure Served (botId : UUID) (index : Nat) (world : World) : Prop where
  cached : (world.cached botId).isSome = true
  quiet : ∀ phase, world.calls index = some ⟨botId, phase⟩ → Quiet phase
  silent : (∃ other phase, world.calls index = some ⟨other, phase⟩ ∧ other ≠ botId) ∨
    ∀ fetch ∈ world.fetches, fetch.call ≠ index

theorem Step.not_empty {before after : World} (step : Step hmacSha256 before after)
    (index : Nat) (botId : UUID) (cached : (before.cached botId).isSome = true)
    (here : before.calls index = some ⟨botId, .started⟩) :
    after.calls index ≠ some ⟨botId, .cacheEmpty⟩ := by
  intro there
  have changed (other : Nat) (bot : UUID) (phase : Phase)
      (calls : (before.setCall other bot phase).calls index = some ⟨botId, .cacheEmpty⟩) :
      index = other ∧ bot = botId ∧ phase = .cacheEmpty := by
    rw [World.setCall_calls] at calls
    by_cases same : index = other
    · rw [if_pos same] at calls
      cases calls
      exact ⟨same, rfl, rfl⟩
    · rw [if_neg same, here] at calls
      cases calls
  cases step with
  | readEmpty other bot _ empty =>
      obtain ⟨_, rfl, _⟩ := changed other bot _ there
      unfold World.cached at cached
      rw [empty] at cached
      cases cached
  | start other bot => cases (changed other bot _ there).2.2
  | readCached other bot => cases (changed other bot _ there).2.2
  | request other bot => cases (changed other bot _ there).2.2
  | requestFails other bot => cases (changed other bot _ there).2.2
  | answer other bot => cases (changed other bot _ there).2.2
  | answerFails other bot => cases (changed other bot _ there).2.2
  | store other bot => cases (changed other bot _ there).2.2
  | send other bot => cases (changed other bot _ there).2.2

theorem served_stable (botId : UUID) (index : Nat) :
    Transition.Stable (Step hmacSha256) (Served botId index) := by
  intro before after step served
  refine ⟨step.cached_isSome botId served.cached, ?_, ?_⟩
  · intro phase here
    rcases step.call_before index botId phase here with ⟨_, rfl⟩ | ⟨old, earlier, moved⟩
    · exact .started
    · have quiet := served.quiet old earlier
      rcases moved with rfl | next
      · exact quiet
      · cases next with
        | miss => exact absurd here (step.not_empty index botId served.cached earlier)
        | hit token => exact .authorized token
        | send token => exact .finished
        | _ => cases quiet
  · rcases served.silent with ⟨other, phase, here, different⟩ | silent
    · obtain ⟨now, there, _⟩ := step.call index other phase here
      exact Or.inl ⟨other, now, there, different⟩
    · by_cases own : ∃ phase, before.calls index = some ⟨botId, phase⟩
      · right
        intro fetch member same
        rcases step.fetched fetch member with earlier | ⟨fetcher, here⟩
        · exact silent fetch earlier same
        · obtain ⟨phase, atIndex⟩ := own
          have quiet := served.quiet phase atIndex
          rw [same, atIndex] at here
          cases here
          cases quiet
      · cases found : before.calls index with
        | none =>
            right
            intro fetch member same
            rcases step.fetched fetch member with earlier | ⟨fetcher, here⟩
            · exact silent fetch earlier same
            · rw [same, found] at here
              cases here
        | some call =>
            left
            have different : call.botId ≠ botId := by
              intro same
              exact own ⟨call.phase, by rw [found, ← same]⟩
            obtain ⟨now, there, _⟩ := step.call index call.botId call.phase found
            exact ⟨call.botId, now, there, different⟩

theorem World.setCall_self (world : World) (index : Nat) (botId : UUID) (phase : Phase) :
    (world.setCall index botId phase).calls index = some ⟨botId, phase⟩ := by
  rw [World.setCall_calls, if_pos rfl]

private theorem runs_send (hmacSha256 : Hmac) (world : World) (index : Nat) (botId : UUID)
    (token : String)
    (here : world.calls index = some ⟨botId, .authorized token⟩) :
    ∃ last, Transition.Reaches (Step hmacSha256) world last ∧ last.storage = world.storage ∧
      last.sent = ⟨index, botId, bearer token⟩ :: world.sent :=
  ⟨_, .single (.send world index botId token here), rfl, rfl⟩

/-- A request that found no token comes to one, which is cached, or fails. -/
private theorem runs_getToken (hmacSha256 : Hmac) (execute : GetTokenRequest → Result String)
    (world : World) (index : Nat) (botId : UUID)
    (here : world.calls index = some ⟨botId, .cacheEmpty⟩) :
    match getToken hmacSha256 execute world.storage botId with
    | .ok token =>
        ∃ middle, Transition.Reaches (Step hmacSha256) world middle ∧
          middle.storage = world.storage.setToken botId token ∧ middle.sent = world.sent ∧
          middle.calls index = some ⟨botId, .authorized token⟩
    | .error exc =>
        ∃ last, Transition.Reaches (Step hmacSha256) world last ∧
          last.storage = world.storage ∧ last.sent = world.sent ∧
          last.calls index = some ⟨botId, .failed exc⟩ := by
  unfold getToken
  cases built : getTokenRequest hmacSha256 world.storage botId with
  | error exc =>
      exact ⟨_, .single (.requestFails world index botId exc here built), rfl, rfl,
        World.setCall_self _ _ _ _⟩
  | ok request =>
      have ask : Step hmacSha256 world _ := .request world index botId request here built
      have asked := Relation.ReflTransGen.single ask
      have waiting := World.setCall_self world index botId (.awaiting request)
      cases answered : execute request with
      | error exc =>
          simp only [bind, Except.bind, answered]
          exact ⟨_, asked.tail (.answerFails _ index botId request exc waiting), rfl, rfl,
            World.setCall_self _ _ _ _⟩
      | ok token =>
          simp only [bind, Except.bind, answered]
          have answer := asked.tail (.answer _ index botId request token waiting)
          exact ⟨_, answer.tail (.store _ index botId token (World.setCall_self _ _ _ _)), rfl,
            rfl, World.setCall_self _ _ _ _⟩

theorem addAuthorizationHeaders_runs (hmacSha256 : Hmac) (jwt : PyJWT)
    (execute : GetTokenRequest → Result String) (time : Int) (tokenHex : String)
    (headers : List (String × String)) (world : World) (index : Nat) (botId : UUID)
    (here : world.calls index = some ⟨botId, .started⟩)
    (legacy : world.storage.authVersion = .v1) :
    match addAuthorizationHeaders jwt hmacSha256 execute time tokenHex world.storage botId
      headers with
    | .ok (authorized, storage) =>
        ∃ last token, Transition.Reaches (Step hmacSha256) world last ∧
          last.storage = storage ∧
          authorized = Dict.set "Authorization" (bearer token) headers ∧
          last.sent = ⟨index, botId, bearer token⟩ :: world.sent
    | .error exc =>
        ∃ last, Transition.Reaches (Step hmacSha256) world last ∧
          last.storage = world.storage ∧ last.sent = world.sent ∧
          last.calls index = some ⟨botId, .failed exc⟩ := by
  unfold addAuthorizationHeaders
  simp only [legacy]
  cases present : world.storage.getTokenOrNone botId with
  | some token =>
      obtain ⟨last, run, storage, sent⟩ := runs_send hmacSha256
        (world.setCall index botId (.authorized token)) index botId token
        (World.setCall_self _ _ _ _)
      exact ⟨last, token, .head (.readCached world index botId token here present) run, storage,
        rfl, sent⟩
  | none =>
      have read : Step hmacSha256 world (world.setCall index botId .cacheEmpty) :=
        .readEmpty world index botId here present
      have fetched := runs_getToken hmacSha256 execute (world.setCall index botId .cacheEmpty)
        index botId (World.setCall_self _ _ _ _)
      have storage : (world.setCall index botId .cacheEmpty).storage = world.storage := rfl
      rw [storage] at fetched
      cases call : getToken hmacSha256 execute world.storage botId with
      | error exc =>
          rw [call] at fetched
          obtain ⟨last, run, kept⟩ := fetched
          exact ⟨last, .head read run, kept⟩
      | ok token =>
          rw [call] at fetched
          obtain ⟨middle, untilStored, stored, sent, authorized⟩ := fetched
          obtain ⟨last, run, lastStorage, lastSent⟩ := runs_send hmacSha256 middle index botId
            token authorized
          refine ⟨last, token, .head read (untilStored.trans run), lastStorage.trans stored, rfl,
            ?_⟩
          rw [lastSent, sent]
          rfl

/-! ### Isolation in every run -/

structure TokensIsolated (hmacSha256 : Hmac) (world : World) : Prop where
  sent : ∀ sent ∈ world.sent, ∃ token, sent.authorization = bearer token ∧
    world.IssuedFor hmacSha256 sent.botId token
  written : ∀ next botId, Step hmacSha256 world next →
    next.cached botId ≠ world.cached botId →
    ∃ index token, world.calls index = some ⟨botId, .received token⟩ ∧
      world.IssuedFor hmacSha256 botId token ∧ next.cached botId = some token
  failed : ∀ next index botId exc, Step hmacSha256 world next →
    world.calls index ≠ next.calls index →
    next.calls index = some ⟨botId, .failed exc⟩ →
    next.storage = world.storage ∧ next.sent = world.sent ∧
      ∀ later, Transition.Reaches (Step hmacSha256) next later →
        ∀ sent ∈ later.sent, sent.call ≠ index
  served : ∀ botId token, world.cached botId = some token →
    ∀ index, world.calls index = none →
    ∀ later, Transition.Reaches (Step hmacSha256) world later →
    ∀ phase, later.calls index = some ⟨botId, phase⟩ →
    ∀ fetch ∈ later.fetches, fetch.call ≠ index

private theorem Step.failing {before after : World} (step : Step hmacSha256 before after)
    (index : Nat) (botId : UUID) (exc : PyError)
    (changed : before.calls index ≠ after.calls index)
    (failed : after.calls index = some ⟨botId, .failed exc⟩) :
    after.storage = before.storage ∧ after.sent = before.sent := by
  have mover (other : Nat) (bot : UUID) (phase : Phase)
      (calls : after.calls = (before.setCall other bot phase).calls) :
      phase = .failed exc := by
    rw [calls, World.setCall_calls] at changed failed
    by_cases same : index = other
    · rw [if_pos same] at failed
      cases failed
      rfl
    · rw [if_neg same] at changed
      exact absurd rfl changed
  cases step with
  | store index other => cases mover index other _ rfl
  | send index other => cases mover index other _ rfl
  | _ => exact ⟨rfl, rfl⟩

/-- In every interleaving the cache and the requests of a bot only see tokens that the
server issued for that bot. -/
theorem tokens_isolated (hmacSha256 : Hmac) (accounts : List BotAccountWithSecret)
    (world : World)
    (reached : Transition.Reaches (Step hmacSha256) (World.initial accounts) world) :
    TokensIsolated hmacSha256 world := by
  have isolated : Isolated hmacSha256 world :=
    isolated_stable.reaches reached (isolated_initial accounts)
  refine ⟨isolated.sent, ?_, ?_, ?_⟩
  · intro next botId step changed
    rcases step.cached botId with unchanged | ⟨index, token, here, written⟩
    · exact absurd unchanged changed
    · exact ⟨index, token, here, isolated.calls index botId _ here, written⟩
  · intro next index botId exc step changed failed
    obtain ⟨storage, sent⟩ := step.failing index botId exc changed failed
    refine ⟨storage, sent, ?_⟩
    intro later run entry member same
    have stays : Transition.Stable (Step hmacSha256)
        (fun state => state.calls index = some ⟨botId, .failed exc⟩) :=
      fun before after taken here => taken.failed_stays index botId exc here
    have finished := (isolated_stable.reaches run (isolated_stable _ _ step isolated)).finished
      entry member
    rw [same, stays.reaches run failed] at finished
    cases finished
  · intro botId token present index fresh later run phase here fetch member same
    have start : Served botId index world := by
      refine ⟨by rw [present]; rfl, ?_, ?_⟩
      · intro phase here
        rw [fresh] at here
        cases here
      · right
        intro fetch member same
        exact isolated.fetches fetch member (same ▸ fresh)
    rcases ((served_stable botId index).reaches run start).silent with
      ⟨other, otherPhase, there, different⟩ | silent
    · rw [here] at there
      cases there
      exact different rfl
    · exact silent fetch member same

def demoHmac : Hmac := fun _ _ =>
  [0xe0, 0x50, 0xae, 0xea, 0x19, 0x7e, 0x0e, 0xf0, 0xa6, 0xe1, 0x65, 0x3e, 0x18, 0xb7, 0xd4,
    0x1c, 0x7f, 0xde, 0xc0, 0xfc, 0xfb, 0xa4, 0x4c, 0x44, 0xfc, 0xcd, 0x2a, 0x88, 0xce, 0xab,
    0xd1, 0x30]

def secondAccount : BotAccountWithSecret :=
  { id := ⟨⟨0x0c3a2f5e8d414b7a9a5e6f1d2c3b4a59, by decide⟩⟩
    ctsUrl := ⟨"https://second.example.com/", by decide⟩
    secretKey := "bee002" }

/-- HMAC-SHA256 of the id of either account under its key. -/
def demoHmacs : Hmac := fun key message =>
  if key = "bee002".toUTF8.toList then
    [0xf3, 0xcc, 0x4c, 0x1d, 0xea, 0xc1, 0x1f, 0x61, 0xa2, 0xdb, 0xbd, 0xeb, 0xd8, 0x7e, 0x1e,
      0xe3, 0xfe, 0xe4, 0xc2, 0xc4, 0x46, 0x5f, 0xa1, 0x84, 0x8b, 0x79, 0xd0, 0xa8, 0x64, 0x51,
      0x8e, 0x57]
  else demoHmac key message

/-- Two bots fetch their tokens at the same time, and a third call finds the first bot's token in
the cache: no request for it is executed. -/
theorem tokens_isolated_demo :
    ∃ world,
      Transition.Reaches (Step demoHmacs) (World.initial [demoAccount, secondAccount]) world ∧
      world.sent = [⟨9, demoAccount.id, "Bearer first"⟩, ⟨7, demoAccount.id, "Bearer first"⟩,
        ⟨8, secondAccount.id, "Bearer second"⟩] ∧
      TokensIsolated demoHmacs world := by
  let storage := BotAccountsStorage.new [demoAccount, secondAccount] .v1
  obtain ⟨first, firstBuilt⟩ : ∃ request,
      getTokenRequest demoHmacs storage demoAccount.id = .ok request := ⟨_, rfl⟩
  obtain ⟨second, secondBuilt⟩ : ∃ request,
      getTokenRequest demoHmacs storage secondAccount.id = .ok request := ⟨_, rfl⟩
  obtain ⟨started, fetched, here, legacy, present, sent⟩ : ∃ world,
      Transition.Reaches (Step demoHmacs) (World.initial [demoAccount, secondAccount]) world ∧
      world.calls 9 = some ⟨demoAccount.id, .started⟩ ∧ world.storage.authVersion = .v1 ∧
      world.storage.getTokenOrNone demoAccount.id = some "first" ∧
      world.sent = [⟨7, demoAccount.id, "Bearer first"⟩, ⟨8, secondAccount.id, "Bearer second"⟩] :=
    ⟨_, Relation.ReflTransGen.refl
      |>.tail (.start _ 7 demoAccount.id rfl)
      |>.tail (.start _ 8 secondAccount.id rfl)
      |>.tail (.readEmpty _ 7 demoAccount.id rfl rfl)
      |>.tail (.readEmpty _ 8 secondAccount.id rfl rfl)
      |>.tail (.request _ 7 demoAccount.id first rfl firstBuilt)
      |>.tail (.request _ 8 secondAccount.id second rfl secondBuilt)
      |>.tail (.answer _ 8 secondAccount.id second "second" rfl)
      |>.tail (.answer _ 7 demoAccount.id first "first" rfl)
      |>.tail (.store _ 7 demoAccount.id "first" rfl)
      |>.tail (.store _ 8 secondAccount.id "second" rfl)
      |>.tail (.send _ 8 secondAccount.id "second" rfl)
      |>.tail (.send _ 7 demoAccount.id "first" rfl)
      |>.tail (.start _ 9 demoAccount.id rfl), rfl, rfl, rfl, rfl⟩
  -- Were the token not in the cache, the ninth call would fail.
  have served := addAuthorizationHeaders_runs demoHmacs demoJwt (fun _ => .error .typeError) 0 ""
    [] started 9 demoAccount.id here legacy
  simp only [addAuthorizationHeaders, legacy, present] at served
  obtain ⟨world, token, run, _, authorized, last⟩ := served
  have same : bearer token = bearer "first" := by simpa [Dict.set, eq_comm] using authorized
  rw [same, sent] at last
  exact ⟨world, fetched.trans run, last,
    tokens_isolated demoHmacs [demoAccount, secondAccount] world (fetched.trans run)⟩

end Pybotx
