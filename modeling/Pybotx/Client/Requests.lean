/-
What a method sends.

A method sends one request of its own, once the address and the authorization are known;
if these cannot be had, `execute` raises and the payload is not sent.  The time of the call
and the token that an earlier call has cached are seen in the headers only.
-/

import Pybotx.Client.MethodExecution
import Pybotx.Foundation.Returning

set_option autoImplicit false

namespace Pybotx

open Returning

structure Moment where
  time : Int
  tokenHex : String

def Environment.atMoment (env : Environment) (moment : Moment) : Environment :=
  { env with time := moment.time, tokenHex := moment.tokenHex }

/-- The same request but for the headers. -/
structure OutgoingRequest.Same (first second : OutgoingRequest) : Prop where
  method : first.method = second.method
  url : first.url = second.url
  content : first.content = second.content

section

variable {env : Environment} {storage authorized : BotAccountsStorage}
  {added : List (String × String)}

/-- Whether a call can be authorized does not depend on its time. -/
theorem authorize_returns_iff (first second : Moment) (storage : BotAccountsStorage) :
    Returns (authorize (env.atMoment first) storage) ↔
      Returns (authorize (env.atMoment second) storage) := by
  unfold authorize addAuthorizationHeaders
  cases storage.authVersion with
  | v1 => exact Iff.rfl
  | v2 =>
      refine (returns_bind_iff_of_next _ _ fun _ => returns_pure _).trans ?_
      refine Iff.trans ?_ (returns_bind_iff_of_next _ _ fun _ => returns_pure _).symm
      simp only [BotAccountsStorage.buildJwtV2, returns_bind_iff, returns_pure]
      exact Iff.rfl

theorem authorize_of_cached {token : String} (moment : Moment)
    (version : storage.authVersion = .v1)
    (cached : storage.getTokenOrNone env.botId = some token) :
    authorize (env.atMoment moment) storage =
      .ok ([("Authorization", bearer token)], storage) := by
  unfold authorize addAuthorizationHeaders
  have present : storage.getTokenOrNone (env.atMoment moment).botId = some token := cached
  rw [version, present]
  rfl

theorem authorize_of_empty (moment : Moment) (version : storage.authVersion = .v1)
    (empty : storage.getTokenOrNone env.botId = none) :
    authorize (env.atMoment moment) storage = (do
      let token ← getToken env.hmacSha256 (fetchToken env) storage env.botId
      return ([("Authorization", bearer token)], storage.setToken env.botId token)) := by
  unfold authorize addAuthorizationHeaders
  have absent : storage.getTokenOrNone (env.atMoment moment).botId = none := empty
  rw [version, absent]
  rfl

/-- Authorization leaves the accounts as they are, and what it caches is what a later
authorization would have fetched. -/
theorem authorize_again {first : Moment}
    (returned : authorize (env.atMoment first) storage = .ok (added, authorized)) :
    authorized.botAccounts = storage.botAccounts ∧
      ∀ later : Moment,
        authorize (env.atMoment later) authorized = authorize (env.atMoment later) storage := by
  cases version : storage.authVersion with
  | v2 =>
      unfold authorize addAuthorizationHeaders at returned
      rw [version] at returned
      obtain ⟨token, _, returned⟩ := (Result.bind_eq_ok _ _ _).mp returned
      cases returned
      exact ⟨rfl, fun _ => rfl⟩
  | v1 =>
      cases cached : storage.getTokenOrNone env.botId with
      | some token =>
          rw [authorize_of_cached first version cached] at returned
          cases returned
          exact ⟨rfl, fun _ => rfl⟩
      | none =>
          rw [authorize_of_empty first version cached] at returned
          obtain ⟨token, fetched, returned⟩ := (Result.bind_eq_ok _ _ _).mp returned
          cases returned
          refine ⟨rfl, ?_⟩
          intro later
          have present : (storage.setToken env.botId token).getTokenOrNone env.botId =
              some token := by
            rw [BotAccountsStorage.getTokenOrNone_setToken, if_pos rfl]
          rw [authorize_of_empty later version cached, fetched]
          exact authorize_of_cached later version present

end

/-! ### Successes without a handler -/

theorem StatusHandlers.set_of_lt (handlers : StatusHandlers) (handler : StatusHandler)
    {code status : Nat} (smaller : status < code) :
    handlers.set code handler status = handlers status :=
  Function.update_of_ne (Nat.ne_of_lt smaller) _ _

theorem authorizedStatusHandlers_of_success {status : Nat}
    (successful : 200 ≤ status ∧ status < 300) : authorizedStatusHandlers status = none := by
  obtain ⟨_, upper⟩ := successful
  have smaller : status < 401 := by omega
  exact StatusHandlers.set_of_lt .empty _ smaller

namespace BotXMethod

def sends (method : BotXMethod) (env : Environment) (payload : Payload) (session : Session) :
    Option OutgoingRequest :=
  match method.prepare env payload session.storage with
  | .ok (outgoing, _) => some outgoing
  | .error _ => none

variable {method : BotXMethod} {env : Environment} {payload : Payload} {session : Session}

theorem execute_of_not_sent (notSent : method.sends env payload session = none) :
    ∃ exc, method.execute env payload session = (.error exc, session) := by
  unfold sends at notSent
  unfold execute
  split at notSent
  · cases notSent
  · rename_i exc failed
    rw [failed]
    exact ⟨exc, rfl⟩

theorem sends_eq_some_iff {outgoing : OutgoingRequest} :
    method.sends env payload session = some outgoing ↔
      ∃ authorized, method.prepare env payload session.storage = .ok (outgoing, authorized) := by
  unfold sends
  cases method.prepare env payload session.storage with
  | error exc =>
      constructor
      · intro impossible
        cases impossible
      · intro prepared
        obtain ⟨_, impossible⟩ := prepared
        cases impossible
  | ok result =>
      constructor
      · intro sent
        cases sent
        exact ⟨result.2, rfl⟩
      · intro prepared
        obtain ⟨authorized, same⟩ := prepared
        cases same
        rfl

section

variable {Answer : Type} {verb path : String} {handlers : StatusHandlers}
  {reading : ModelReading Answer} {outgoing : OutgoingRequest} {storage : BotAccountsStorage}

theorem prepare_eq_ok_iff (authorized : BotAccountsStorage) :
    (authorizedMethod verb path handlers reading).prepare env payload storage =
        .ok (outgoing, authorized) ↔
      ∃ url headers, buildUrl storage env.botId path = .ok url ∧
        authorize env storage = .ok (headers, authorized) ∧
        outgoing = callRequest env.python verb url headers payload := by
  unfold prepare
  rw [Result.bind_eq_ok]
  constructor
  · intro prepared
    obtain ⟨url, built, prepared⟩ := prepared
    obtain ⟨⟨headers, _⟩, added, prepared⟩ := (Result.bind_eq_ok _ _ _).mp prepared
    cases prepared
    exact ⟨url, headers, built, added, rfl⟩
  · intro prepared
    obtain ⟨url, headers, built, added, rfl⟩ := prepared
    refine ⟨url, built, ?_⟩
    rw [Result.bind_eq_ok]
    exact ⟨(headers, authorized), added, rfl⟩

theorem request_of_sent
    (sent : (authorizedMethod verb path handlers reading).sends env payload session =
      some outgoing) :
    ∃ url headers, outgoing = callRequest env.python verb url headers payload := by
  obtain ⟨authorized, prepared⟩ := sends_eq_some_iff.mp sent
  obtain ⟨url, headers, _, _, same⟩ := (prepare_eq_ok_iff authorized).mp prepared
  exact ⟨url, headers, same⟩

theorem content_of_sent
    (sent : (authorizedMethod verb path handlers reading).sends env payload session =
      some outgoing) : outgoing.content = payload.content := by
  obtain ⟨url, headers, rfl⟩ := request_of_sent sent
  rfl

theorem execute_of_sent
    (sent : (authorizedMethod verb path handlers reading).sends env payload session =
      some outgoing) :
    ((authorizedMethod verb path handlers reading).execute env payload session).1 =
      callAndRead env handlers reading outgoing := by
  unfold sends at sent
  unfold execute
  split at sent
  · rename_i first authorized prepared
    cases sent
    rw [prepared]
    rfl
  · cases sent

theorem execute_of_broken
    (sent : (authorizedMethod verb path handlers reading).sends env payload session =
      some outgoing) (broken : (env.httpClient outgoing).Broken) :
    ∃ message, ((authorizedMethod verb path handlers reading).execute env payload session).1 =
      .error (.client .botXNetwork message) := by
  obtain ⟨message, failed⟩ := callAndRead_of_broken env handlers reading outgoing broken
  exact ⟨message, (execute_of_sent sent).trans failed⟩

theorem execute_of_success {url : String} {status : Nat} {body : Body}
    (sent : (authorizedMethod verb path handlers reading).sends env payload session =
      some outgoing) (answered : env.httpClient outgoing = .answered url status body)
    (complete : body.failure = none) (successful : 200 ≤ status ∧ status < 300)
    (unhandled : handlers status = none) :
    ((authorizedMethod verb path handlers reading).execute env payload session).1 =
      reading.receive env.python ⟨some outgoing.method, url, status, body⟩ := by
  refine (execute_of_sent sent).trans ?_
  have passed : raiseForStatus handlers ⟨some outgoing.method, url, status, body⟩ = .ok () :=
    raiseForStatus_eq_ok_iff.mpr ⟨unhandled, successful⟩
  unfold callAndRead botxMethodCall
  rw [HttpClient.request_of_complete true answered complete]
  simp only [passed]
  rfl

/-- A call leaves the session such that later calls send what they would have sent from
the session before. -/
theorem prepare_after_execute (first later : Moment) (other : Payload) :
    (authorizedMethod verb path handlers reading).prepare (env.atMoment later) other
        ((authorizedMethod verb path handlers reading).execute (env.atMoment first) payload
          session).2.storage =
      (authorizedMethod verb path handlers reading).prepare (env.atMoment later) other
        session.storage := by
  unfold execute
  cases prepared : (authorizedMethod verb path handlers reading).prepare (env.atMoment first)
      payload session.storage with
  | error exc => rfl
  | ok result =>
      obtain ⟨outgoing, authorized⟩ := result
      obtain ⟨url, headers, _, added, _⟩ := (prepare_eq_ok_iff authorized).mp prepared
      obtain ⟨accounts, again⟩ := authorize_again added
      have address := buildUrl_of_accounts (env.atMoment later).botId path accounts
      have headersAgain : (authorizedMethod verb path handlers reading).headers
            (env.atMoment later) authorized =
          (authorizedMethod verb path handlers reading).headers (env.atMoment later)
            session.storage := again later
      change (authorizedMethod verb path handlers reading).prepare (env.atMoment later) other
        authorized = _
      unfold prepare
      rw [headersAgain]
      simp only [authorizedMethod] at address ⊢
      rw [address]

section

variable {Other : Type} {otherHandlers : StatusHandlers} {otherReading : ModelReading Other}

private theorem sends_of_other (first second : Moment)
    (sent : (authorizedMethod verb path handlers reading).sends (env.atMoment first) payload
      session = some outgoing) :
    ∃ other, (authorizedMethod verb path otherHandlers otherReading).sends
        (env.atMoment second) payload session = some other ∧ outgoing.Same other := by
  obtain ⟨authorized, prepared⟩ := sends_eq_some_iff.mp sent
  obtain ⟨url, headers, built, added, rfl⟩ := (prepare_eq_ok_iff authorized).mp prepared
  have returns : Returns (authorize (env.atMoment second) session.storage) :=
    (authorize_returns_iff first second session.storage).mp ⟨_, added⟩
  obtain ⟨⟨otherHeaders, otherAuthorized⟩, otherAdded⟩ := returns
  refine ⟨callRequest env.python verb url otherHeaders payload, ?_, rfl, rfl, rfl⟩
  apply sends_eq_some_iff.mpr
  exact ⟨otherAuthorized, (prepare_eq_ok_iff otherAuthorized).mpr
    ⟨url, otherHeaders, built, otherAdded, rfl⟩⟩

/-- Two methods of one address send a payload as the same request, if at all. -/
theorem sends_same (first second : Moment) :
    Option.Rel OutgoingRequest.Same
      ((authorizedMethod verb path handlers reading).sends (env.atMoment first) payload session)
      ((authorizedMethod verb path otherHandlers otherReading).sends (env.atMoment second)
        payload session) := by
  cases sent : (authorizedMethod verb path handlers reading).sends (env.atMoment first) payload
      session with
  | some outgoing =>
      obtain ⟨other, otherSent, same⟩ := sends_of_other first second sent
      rw [otherSent]
      exact .some same
  | none =>
      cases otherSent : (authorizedMethod verb path otherHandlers otherReading).sends
          (env.atMoment second) payload session with
      | none => exact .none
      | some other =>
          obtain ⟨outgoing, impossible, _⟩ := sends_of_other second first otherSent
          rw [sent] at impossible
          cases impossible

end

end

theorem demo_sends {Answer : Type} (verb path : String) (handlers : StatusHandlers)
    (reading : ModelReading Answer) (exchange : Exchange) (payload : Payload) :
    ∃ outgoing, (authorizedMethod verb path handlers reading).sends (demoEnvironment exchange)
      payload demoSession = some outgoing :=
  ⟨_, rfl⟩

end BotXMethod

end Pybotx
