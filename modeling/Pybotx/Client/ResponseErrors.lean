/-
Which responses end in an error of the client.

Only `InvalidBotXStatusCodeError` and its relatives are promised to callers.  A handler
that looks into the body, a decoding failure that is no `JSONDecodeError`, a validator that
iterates and the assertion about a missing result let something else out.
-/

import Pybotx.Client.ApiMethods

set_option autoImplicit false

namespace Pybotx

/-- The answer comes from a validated model, or the body was streamed. -/
def BotXMethod.Returns (method : BotXMethod) (python : Interpreter) (response : HttpResponse)
    (answer : method.Answer) : Prop :=
  match method.reading with
  | .model reading => ∃ raw model, python.loads response.body.bytes = .ok raw ∧
      reading.check raw = .valid model ∧ reading.unpack response model = .ok answer
  | .stream nothing => nothing = answer

/-- What a caller expects of the outcome for a response. -/
structure ErrorsContained (method : BotXMethod) (python : Interpreter) (response : HttpResponse)
    (outcome : Result method.Answer) : Prop where
  contained : Result.Contained outcome
  validated : ∀ answer, outcome = .ok answer → method.Returns python response answer
  rejected : ¬ response.Successful → ∀ answer, outcome ≠ .ok answer

/-- The body is one the method gets through: the handler of its status finds an object it
understands, and the body of a success decodes, or fails to with a `JSONDecodeError`, to a
value that the model class and the rest of the method handle. -/
structure ResponseHandled (python : Interpreter) (botId : UUID) (m : ApiMethod) (status : Nat)
    (content : List UInt8) : Prop where
  explained : m.explainedStatus = some status →
    ∃ entries, python.loads content = .ok (.obj entries) ∧ m.Explains entries
  undecoded : m.streamed = false → (m.method python botId).statusHandlers status = none →
    200 ≤ status → status < 300 →
    ∀ failure, python.loads content = .error failure → failure = .jsonDecode
  decoded : m.streamed = false → (m.method python botId).statusHandlers status = none →
    200 ≤ status → status < 300 → ∀ raw, python.loads content = .ok raw → m.Handles raw

namespace BotXMethod

variable {method : BotXMethod} {python : Interpreter} {response : HttpResponse}

theorem returns_of_receive {content : List UInt8} (complete : response.data = .ok content)
    {answer : method.Answer} (returned : method.receive python response = .ok answer) :
    method.Returns python response answer := by
  obtain ⟨_, _, reads⟩ := (receive_eq_ok_iff answer).mp returned
  unfold Returns
  cases shape : method.reading with
  | stream nothing =>
      simp only [shape] at reads
      exact reads
  | model reading =>
      simp only [shape] at reads
      obtain ⟨model, extracted, unpacked⟩ := (Result.bind_eq_ok _ _ _).mp reads
      obtain ⟨raw, decoded, checked⟩ := (verifyAndExtractApiModel_eq_ok_iff python reading.check
        response content complete model).mp extracted
      have same := ((response.body.read_eq_ok_iff content).mp complete).2
      rw [← same] at decoded
      exact ⟨raw, model, decoded, checked, unpacked⟩

theorem errorsContained_iff {content : List UInt8} (complete : response.data = .ok content) :
    ErrorsContained method python response (method.receive python response) ↔
      Result.Contained (method.receive python response) := by
  constructor
  · intro expected
    exact expected.contained
  · intro contained
    refine ⟨contained, fun answer => returns_of_receive complete, ?_⟩
    intro failed answer returned
    exact failed ((receive_eq_ok_iff answer).mp returned).2.1

end BotXMethod

theorem receive_contained_iff_handled (python : Interpreter) (botId : UUID) (m : ApiMethod)
    (response : HttpResponse) (content : List UInt8) (complete : response.data = .ok content) :
    Result.Contained ((m.method python botId).receive python response) ↔
      ResponseHandled python botId m response.status content := by
  rw [BotXMethod.receive_contained_iff content complete]
  constructor
  · rintro ⟨handled, read⟩
    have understood (notStreamed : m.streamed = false)
        (absent : (m.method python botId).statusHandlers response.status = none)
        (lower : 200 ≤ response.status) (upper : response.status < 300) :
        ∃ reading, (m.method python botId).reading = .model reading ∧
          reading.Understands python response content ∧
          ∀ raw, reading.Contains response raw ↔ m.Handles raw := by
      obtain ⟨reading, reads, contains⟩ := m.reading_contains_iff python botId notStreamed
      have understands := read absent ⟨lower, upper⟩
      rw [reads] at understands
      exact ⟨reading, reads, understands, fun raw => contains response content raw complete⟩
    refine ⟨?_, ?_, ?_⟩
    · intro explained
      obtain ⟨handler, found, contained⟩ := m.explained_contained_iff python botId
        response.status explained response content complete
      exact contained.mp (handled handler found)
    · intro notStreamed absent lower upper
      obtain ⟨reading, _, understands, _⟩ := understood notStreamed absent lower upper
      exact understands.undecoded
    · intro notStreamed absent lower upper raw decoded
      obtain ⟨reading, _, understands, contains⟩ := understood notStreamed absent lower upper
      exact (contains raw).mp (understands.decoded raw decoded)
  · intro expected
    refine ⟨?_, ?_⟩
    · intro handler found
      by_cases explained : m.explainedStatus = some response.status
      · obtain ⟨own, foundOwn, contained⟩ := m.explained_contained_iff python botId
          response.status explained response content complete
        rw [found] at foundOwn
        cases foundOwn
        exact contained.mpr (expected.explained explained)
      · exact m.handlers_contained python botId response.status handler found (Ne.symm explained)
          response content complete
    · rintro absent ⟨lower, upper⟩
      cases shape : m.streamed with
      | true =>
          cases m with
          | downloadFile => trivial
          | usersAsCsv => trivial
          | _ => cases shape
      | false =>
          obtain ⟨reading, reads, contains⟩ := m.reading_contains_iff python botId shape
          rw [reads]
          refine ⟨expected.undecoded shape absent lower upper, ?_⟩
          intro raw decoded
          exact (contains response content raw complete).mpr
            (expected.decoded shape absent lower upper raw decoded)

/-- `execute` stays inside the client's errors exactly when the method gets through the body
of the response. -/
theorem responseErrors_contained_iff (env : Environment) (m : ApiMethod) (payload : Payload)
    (session : Session) (outgoing : OutgoingRequest) (authorized : BotAccountsStorage)
    (prepared : (m.method env.python env.botId).prepare env payload session.storage =
      .ok (outgoing, authorized))
    (url : String) (status : Nat) (chunks : List (List UInt8))
    (answered : env.httpClient outgoing = .answered url status ⟨chunks, none⟩) :
    ErrorsContained (m.method env.python env.botId) env.python
        ⟨some outgoing.method, url, status, ⟨chunks, none⟩⟩
        ((m.method env.python env.botId).execute env payload session).1 ↔
      ResponseHandled env.python env.botId m status chunks.flatten := by
  have complete : HttpResponse.data ⟨some outgoing.method, url, status, ⟨chunks, none⟩⟩ =
      .ok chunks.flatten := rfl
  rw [(m.method env.python env.botId).execute_of_answer env payload session outgoing authorized
      prepared url status ⟨chunks, none⟩ answered rfl,
    BotXMethod.errorsContained_iff complete]
  exact receive_contained_iff_handled env.python env.botId m _ chunks.flatten complete

def proxyPage : List UInt8 := [0x3c, 0x68, 0x74, 0x6d, 0x6c, 0x3e]

def demoRequest (method : BotXMethod) : OutgoingRequest where
  method := method.verb
  url := joinUrl demoAccount.ctsUrl.text method.path
  headers := [("Authorization", "Bearer token")]
  content := .empty

theorem responseErrors_contained_demo :
    ErrorsContained (addAdminMethod demoPython) demoPython
        ⟨some "POST", "https://cts.example.com", 400, ⟨[emptyObject], none⟩⟩
        ((addAdminMethod demoPython).execute
          (demoEnvironment (.answered "https://cts.example.com" 400 ⟨[emptyObject], none⟩))
          ⟨[], .empty⟩ demoSession).1 := by
  have handled : ResponseHandled demoPython demoAccount.id .addAdmin 400 [emptyObject].flatten := by
    refine ⟨fun _ => ⟨[], rfl, trivial⟩, ?_, ?_⟩
    · intro _ _ _ upper
      cases Nat.not_lt.mpr (by decide : 300 ≤ 400) upper
    · intro _ _ _ upper
      cases Nat.not_lt.mpr (by decide : 300 ≤ 400) upper
  exact (responseErrors_contained_iff
    (demoEnvironment (.answered "https://cts.example.com" 400 ⟨[emptyObject], none⟩)) .addAdmin
    ⟨[], .empty⟩ demoSession (demoRequest (addAdminMethod demoPython)) demoSession.storage rfl
    "https://cts.example.com" 400 [emptyObject] rfl).mpr handled

/-- The handler of `AddAdminMethod` decodes a page that is no JSON. -/
theorem proxyPage_escapes :
    ((addAdminMethod demoPython).execute
        (demoEnvironment (.answered "https://cts.example.com" 400 ⟨[proxyPage], none⟩))
        ⟨[], .empty⟩ demoSession).1 = .error .jsonDecodeError ∧
      ¬ ErrorsContained (addAdminMethod demoPython) demoPython
        ⟨some "POST", "https://cts.example.com", 400, ⟨[proxyPage], none⟩⟩
        ((addAdminMethod demoPython).execute
          (demoEnvironment (.answered "https://cts.example.com" 400 ⟨[proxyPage], none⟩))
          ⟨[], .empty⟩ demoSession).1 := by
  have escapes : ((addAdminMethod demoPython).execute
      (demoEnvironment (.answered "https://cts.example.com" 400 ⟨[proxyPage], none⟩))
      ⟨[], .empty⟩ demoSession).1 = .error .jsonDecodeError := rfl
  refine ⟨escapes, ?_⟩
  intro expected
  cases expected.contained _ escapes

end Pybotx
