/-
How the endpoints answer a request that fails authentication.

An endpoint answers 401 to `UnverifiedRequestError` only, so what escapes from the
verification under another type is not answered by it.
-/

import Pybotx.Bot.CommandDispatch

set_option autoImplicit false

namespace Pybotx

def FailsAuthentication (resource : BaseResource) (jwt : PyJWT) (now : Int)
    (headers : List (String × String)) : Prop :=
  ∀ account, resource.verifyRequest jwt now (lowerKeys headers) ≠ .ok account

def HeadersStayInside (resource : BaseResource) (jwt : PyJWT) (now : Int)
    (headers : List (String × String)) : Prop :=
  StaysInside jwt now (lowerKeys headers) resource.credentials none

section

variable {resource : BaseResource} {jwt : PyJWT} {now : Int}
  {headers : List (String × String)}

/-- A failing verification raises something, and exactly inside the condition it is
`UnverifiedRequestError`. -/
theorem failed_verification (verifies : resource.verifyRequests = true)
    (fails : FailsAuthentication resource jwt now headers) :
    ∃ exc, resource.verifyRequest jwt now (lowerKeys headers) = .error exc ∧
      (HeadersStayInside resource jwt now headers ↔
        ∃ message, exc = .unverifiedRequest message) := by
  have documented := verifyRequest_documented_iff jwt now (lowerKeys headers)
    resource.credentials none
  cases outcome : resource.verifyRequest jwt now (lowerKeys headers) with
  | ok account => exact absurd outcome (fails account)
  | error exc =>
      have raised : verifyRequest jwt now (some (lowerKeys headers)) resource.credentials none =
          .error exc := by
        rw [← outcome, BaseResource.verifyRequest, if_pos verifies]
      refine ⟨exc, rfl, ?_⟩
      rw [HeadersStayInside, ← documented, raised]
      cases exc <;> simp [Documented]

theorem unauthorized_error_iff (exc : PyError) :
    CommandResource.Unauthorized (orUnauthorized (.error exc)) ↔
      ∃ message, exc = .unverifiedRequest message := by
  unfold CommandResource.Unauthorized
  cases exc <;> simp [orUnauthorized]

/-- An endpoint that reads the media and then fails to parse it answers 401 if it has come
so far and the exception is the one that is caught. -/
theorem posted_unauthorized_iff {exc : PyError} (answer : Option Json → Result Response)
    (unread : answer none = orUnauthorized (.error .mediaError))
    (unparsed : ∀ body, answer (some body) = orUnauthorized (.error exc)) (media : Option Json) :
    CommandResource.Unauthorized (answer media) ↔
      media.isSome = true ∧ ∃ message, exc = .unverifiedRequest message := by
  cases media with
  | none =>
      rw [unread, unauthorized_error_iff]
      simp
  | some body =>
      rw [unparsed body, unauthorized_error_iff]
      exact (and_iff_right rfl).symm

end

theorem CommandResource.onPost_unauthorized_iff {Handler : Type}
    (resource : CommandResource Handler) (verifies : resource.verifyRequests = true)
    (jwt : PyJWT) (now : Int) (scalars : Scalars)
    (execute : Handler → BotCommand → Option PyError) (media : Option Json)
    (headers : List (String × String))
    (fails : FailsAuthentication resource.toBaseResource jwt now headers) :
    CommandResource.Unauthorized (resource.onPost jwt now scalars execute media headers).answer ↔
      media.isSome = true ∧ HeadersStayInside resource.toBaseResource jwt now headers := by
  obtain ⟨exc, raised, inside⟩ := failed_verification verifies fails
  rw [inside]
  refine posted_unauthorized_iff
    (fun media => (resource.onPost jwt now scalars execute media headers).answer) rfl ?_ media
  intro body
  have parsed : resource.parseCommand jwt now scalars body (lowerKeys headers) = .error exc := by
    rw [parseCommand, raised]
    rfl
  simp only [onPost, requestMedia, bind, Except.bind, parsed]

theorem CallbackResource.onPost_unauthorized_iff {Callback : Type}
    (resource : CallbackResource Callback) (verifies : resource.verifyRequests = true)
    (jwt : PyJWT) (now : Int) (scalars : Scalars)
    (execute : Callback → BotXMethodCallback → Option PyError) (media : Option Json)
    (headers : List (String × String))
    (fails : FailsAuthentication resource.toBaseResource jwt now headers) :
    CommandResource.Unauthorized (resource.onPost jwt now scalars execute media headers) ↔
      media.isSome = true ∧ HeadersStayInside resource.toBaseResource jwt now headers := by
  obtain ⟨exc, raised, inside⟩ := failed_verification verifies fails
  rw [inside]
  refine posted_unauthorized_iff
    (fun media => resource.onPost jwt now scalars execute media headers) rfl ?_ media
  intro body
  have parsed : resource.parseCallback jwt now scalars body (lowerKeys headers) = .error exc := by
    rw [parseCallback, raised]
    rfl
  simp only [onPost, requestMedia, bind, Except.bind, parsed]

theorem StatusResource.onGet_unauthorized_iff (resource : StatusResource)
    (verifies : resource.verifyRequests = true) (jwt : PyJWT) (now : Int) (scalars : Scalars)
    (params : List (String × ParamValue)) (headers : List (String × String))
    (fails : FailsAuthentication resource.toBaseResource jwt now headers) :
    CommandResource.Unauthorized (resource.onGet jwt now scalars params headers) ↔
      HeadersStayInside resource.toBaseResource jwt now headers := by
  obtain ⟨exc, raised, inside⟩ := failed_verification verifies fails
  have failed : resource.getStatus jwt now scalars
      (params.map fun param => (param.1, param.2.first)) (lowerKeys headers) = .error exc := by
    rw [getStatus, raised]
    rfl
  rw [onGet, failed]
  exact (unauthorized_error_iff exc).trans inside.symm

/-- The verification returns or raises `UnverifiedRequestError` exactly if the token and
its claims are of the kinds listed in `StaysInside`, and the endpoints answer a failing
request with 401 exactly then; the POST endpoints read the media first. -/
theorem verificationFailures_documented_iff (jwt : PyJWT) (now : Int) :
    (∀ headers credentials trustedIssuers,
      Documented (verifyRequest jwt now (some headers) credentials trustedIssuers) ↔
        StaysInside jwt now headers credentials trustedIssuers) ∧
    (∀ (Handler : Type) (resource : CommandResource Handler) scalars execute media headers,
      resource.verifyRequests = true →
      FailsAuthentication resource.toBaseResource jwt now headers →
      (CommandResource.Unauthorized
          (resource.onPost jwt now scalars execute media headers).answer ↔
        media.isSome = true ∧ HeadersStayInside resource.toBaseResource jwt now headers)) ∧
    (∀ (resource : StatusResource) scalars params headers,
      resource.verifyRequests = true →
      FailsAuthentication resource.toBaseResource jwt now headers →
      (CommandResource.Unauthorized (resource.onGet jwt now scalars params headers) ↔
        HeadersStayInside resource.toBaseResource jwt now headers)) ∧
    (∀ (Callback : Type) (resource : CallbackResource Callback) scalars execute media headers,
      resource.verifyRequests = true →
      FailsAuthentication resource.toBaseResource jwt now headers →
      (CommandResource.Unauthorized (resource.onPost jwt now scalars execute media headers) ↔
        media.isSome = true ∧ HeadersStayInside resource.toBaseResource jwt now headers)) := by
  refine ⟨verifyRequest_documented_iff jwt now, ?_, ?_, ?_⟩
  · intro Handler resource scalars execute media headers verifies fails
    exact resource.onPost_unauthorized_iff verifies jwt now scalars execute media headers fails
  · intro resource scalars params headers verifies fails
    exact resource.onGet_unauthorized_iff verifies jwt now scalars params headers fails
  · intro Callback resource scalars execute media headers verifies fails
    exact resource.onPost_unauthorized_iff verifies jwt now scalars execute media headers fails

def forgedJwt : PyJWT :=
  PyJWT.ofToken "header.payload.signature" "bee002" demoClaims

/-- The token decodes and names a known bot and its host, but the signature is not that bot's. -/
theorem verificationFailures_documented_iff_demo :
    verifyRequest forgedJwt 1030 (some (lowerKeys demoHeaders)) [demoAccount] none =
        .error (.unverifiedRequest "Signature verification failed") ∧
      FailsAuthentication demoCommands.toBaseResource forgedJwt 1030 demoHeaders ∧
      HeadersStayInside demoCommands.toBaseResource forgedJwt 1030 demoHeaders ∧
      CommandResource.Unauthorized (demoCommands.onPost forgedJwt 1030 .strict (fun _ _ => none)
        (some (.obj (demoMessage "/start"))) demoHeaders).answer := by
  have refused : verifyRequest forgedJwt 1030 (some (lowerKeys demoHeaders)) [demoAccount] none =
      .error (.unverifiedRequest "Signature verification failed") := rfl
  have fails : FailsAuthentication demoCommands.toBaseResource forgedJwt 1030 demoHeaders := by
    intro account returned
    have accepted : verifyRequest forgedJwt 1030 (some (lowerKeys demoHeaders)) [demoAccount]
        none = .ok account := returned
    rw [refused] at accepted
    cases accepted
  have documented : Documented (verifyRequest forgedJwt 1030 (some (lowerKeys demoHeaders))
      [demoAccount] none) := by
    rw [refused]
    trivial
  have inside : HeadersStayInside demoCommands.toBaseResource forgedJwt 1030 demoHeaders :=
    ((verificationFailures_documented_iff forgedJwt 1030).1 _ [demoAccount] none).mp documented
  refine ⟨refused, fails, inside, ?_⟩
  exact ((verificationFailures_documented_iff forgedJwt 1030).2.1 String demoCommands .strict
    (fun _ _ => none) (some (.obj (demoMessage "/start"))) demoHeaders rfl fails).mpr ⟨rfl, inside⟩

def foreignClaims : Claims :=
  botxJwtV2Payload ⟨⟨7, by decide⟩⟩ "cts.example.com" 1000 "0a1b2c3d4e5f"

def foreignJwt : PyJWT :=
  PyJWT.ofToken "header.payload.signature" "bee001" foreignClaims

/-- A token for an unknown bot is not refused but raises, and nobody answers 401. -/
theorem unknownIssuer_escapes :
    ¬ Documented (verifyRequest foreignJwt 1030 (some (lowerKeys demoHeaders)) [demoAccount]
        none) ∧
      FailsAuthentication demoCommands.toBaseResource foreignJwt 1030 demoHeaders ∧
      ¬ CommandResource.Unauthorized (demoCommands.onPost foreignJwt 1030 .strict
        (fun _ _ => none) (some (.obj (demoMessage "/start"))) demoHeaders).answer := by
  have escaped : verifyRequest foreignJwt 1030 (some (lowerKeys demoHeaders)) [demoAccount] none =
      .error (.unknownBotAccount ⟨⟨7, by decide⟩⟩) := by
    rfl
  have undocumented : ¬ Documented (verifyRequest foreignJwt 1030
      (some (lowerKeys demoHeaders)) [demoAccount] none) := by
    rw [escaped]
    exact id
  have fails : FailsAuthentication demoCommands.toBaseResource foreignJwt 1030 demoHeaders := by
    intro account returned
    have accepted : verifyRequest foreignJwt 1030 (some (lowerKeys demoHeaders)) [demoAccount]
        none = .ok account := returned
    rw [escaped] at accepted
    cases accepted
  refine ⟨undocumented, fails, ?_⟩
  rw [demoCommands.onPost_unauthorized_iff rfl foreignJwt 1030 .strict _ _ demoHeaders fails]
  rintro ⟨_, inside⟩
  exact undocumented ((verifyRequest_documented_iff foreignJwt 1030 (lowerKeys demoHeaders)
    [demoAccount] none).mpr inside)

end Pybotx
