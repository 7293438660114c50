/-
Which requests get in.

PyJWT refuses nothing that passes the requested checks, and then an endpoint lets in
exactly the requests that the holder of an account's key has signed for it.
-/

import Pybotx.Bot.ApplicationRuns

set_option autoImplicit false

namespace Pybotx

open Validator

/-- A verifying decode returns exactly if every requested check passes. -/
structure PyJWT.DecodesExactly (jwt : PyJWT) : Prop extends jwt.DecodeSound where
  accepts : ∀ now token call claims, jwt.decodeUnverified token call.algorithms = .ok claims →
    (∃ algorithm ∈ call.algorithms, jwt.signatureValid algorithm token call.key) →
    ClaimsHold jwt.numericDate now call claims → jwt.decode now token call = .ok claims

theorem PyJWT.ofToken_decodesExactly (token key : String) (claims : Claims) :
    (PyJWT.ofToken token key claims).DecodesExactly where
  toDecodeSound := PyJWT.ofToken_decodeSound token key claims
  accepts := by
    intro now text call returned unverified signed held
    obtain ⟨algorithm, listed, rfl, rfl, sameKey⟩ := signed
    have sameClaims : claims = returned := by
      simpa only [PyJWT.ofToken, if_true, Except.ok.injEq] using unverified
    subst sameClaims
    exact (PyJWT.ofToken_decode_eq_ok_iff _ _ _ now _ call _).mpr ⟨rfl, sameKey, listed, held, rfl⟩

def namesVersion2 (claims : Claims) : Bool :=
  (Dict.get "version" claims).any (Json.equalsInt 2)

/-- The last word of the header is a token of the first account with its id: signed with the key
of that account, within its time, with strings for subject and identifier if it has them, and with
the issuer and the audience of either version. -/
def Admitted (jwt : PyJWT) (now : Int) (headers : List (String × String))
    (credentials : List BotAccountWithSecret) (trustedIssuers : Option (List String))
    (account : BotAccountWithSecret) : Prop :=
  ∃ token claims, TokenRead jwt headers token claims ∧
    firstAccount account.id credentials = some account ∧
    jwt.signatureValid "HS256" token account.secretKey ∧
    TimesHold jwt.numericDate now 1 claims ∧
    stringClaim "sub" claims = true ∧ stringClaim "jti" claims = true ∧
    (AcceptedByV2 claims account ∨
      (AcceptedByV1 claims trustedIssuers account ∧ namesVersion2 claims = false))

section

variable {jwt : PyJWT} {now : Int} {token : String} {claims : Claims}
  {account : BotAccountWithSecret} {credentials : List BotAccountWithSecret}

theorem PyJWT.DecodesExactly.decode_iff (exact : jwt.DecodesExactly) {call : DecodeCall}
    (algorithms : call.algorithms = decodeAlgorithms)
    (unverified : jwt.decodeUnverified token decodeAlgorithms = .ok claims) :
    (∃ verified, jwt.decode now token call = .ok verified) ↔
      jwt.signatureValid "HS256" token call.key ∧ ClaimsHold jwt.numericDate now call claims := by
  constructor
  · intro decodes
    obtain ⟨verified, decoded⟩ := decodes
    have same := exact.samePayload now token call verified decoded
    rw [algorithms, unverified] at same
    cases same
    obtain ⟨algorithm, listed, valid⟩ := exact.signature now token call claims decoded
    rw [algorithms] at listed
    rw [List.mem_singleton.mp listed] at valid
    exact ⟨valid, exact.checks now token call claims decoded⟩
  · intro checked
    obtain ⟨valid, held⟩ := checked
    refine ⟨claims, exact.accepts now token call claims ?_ ⟨"HS256", ?_, valid⟩ held⟩
    · rw [algorithms]
      exact unverified
    · rw [algorithms]
      exact List.mem_singleton.mpr rfl

theorem claimsHold_v2_iff :
    ClaimsHold jwt.numericDate now (decodeCallV2 account account.hostName) claims ↔
      TimesHold jwt.numericDate now 1 claims ∧
        stringClaim "sub" claims = true ∧ stringClaim "jti" claims = true ∧
        Dict.get "iss" claims = some (.str account.id.str) ∧
        audienceChecked (decodeCallV2 account account.hostName) claims = true := by
  constructor
  · intro held
    exact ⟨held.times, held.subject, held.tokenId,
      issuer_of_checked _ claims account.id.str rfl rfl held.issuer, held.audience⟩
  · intro held
    obtain ⟨times, subject, tokenId, issuer, audience⟩ := held
    refine ⟨times, ?_, audience, subject, tokenId⟩
    unfold issuerChecked decodeCallV2
    rw [issuer]
    simp

theorem audienceChecked_of_host
    (audience : Dict.get "aud" claims = some (.str account.hostName)) :
    audienceChecked (decodeCallV2 account account.hostName) claims = true := by
  unfold audienceChecked decodeCallV2
  rw [audience]
  simp [Json.truthy, account.hostName_ne_empty]

theorem isV2Payload_of_acceptedByV2 (accepted : AcceptedByV2 claims account) :
    isV2Payload claims = true := by
  obtain ⟨issuer, audience⟩ := accepted
  unfold isV2Payload
  rw [issuer, audience]
  split
  · rfl
  · simp only [UUID.parse_str, Option.isSome_some]

theorem isV2Payload_of_list {elements : List Json}
    (audience : Dict.get "aud" claims = some (.arr elements)) :
    isV2Payload claims = namesVersion2 claims := by
  unfold isV2Payload namesVersion2
  rw [audience]
  cases (Dict.get "version" claims).any (Json.equalsInt 2) <;> rfl

theorem v2_admits_iff (exact : jwt.DecodesExactly)
    (unverified : jwt.decodeUnverified token decodeAlgorithms = .ok claims) :
    verifyRequestV2 jwt now token claims credentials = .ok account ↔
      firstAccount account.id credentials = some account ∧
        jwt.signatureValid "HS256" token account.secretKey ∧
        TimesHold jwt.numericDate now 1 claims ∧ stringClaim "sub" claims = true ∧
        stringClaim "jti" claims = true ∧ AcceptedByV2 claims account := by
  rw [verifyRequestV2_eq_ok_iff]
  constructor
  · intro returned
    obtain ⟨issuer, botId, verified, issuerIs, parsed, found, audience, decoded⟩ := returned
    have sameId := firstAccount_id botId credentials account found
    subst sameId
    obtain ⟨valid, held⟩ := (exact.decode_iff rfl unverified).mp ⟨verified, decoded⟩
    obtain ⟨times, subject, tokenId, named, _⟩ := claimsHold_v2_iff.mp held
    exact ⟨found, valid, times, subject, tokenId, named, audience⟩
  · intro admitted
    obtain ⟨found, valid, times, subject, tokenId, issuer, audience⟩ := admitted
    have held := claimsHold_v2_iff.mpr
      ⟨times, subject, tokenId, issuer, audienceChecked_of_host audience⟩
    obtain ⟨verified, decoded⟩ := (exact.decode_iff rfl unverified).mpr ⟨valid, held⟩
    exact ⟨account.id.str, account.id, verified, issuer, UUID.parse_str account.id, found, audience,
      decoded⟩

theorem v1_admits_iff (exact : jwt.DecodesExactly) {trustedIssuers : Option (List String)}
    (unverified : jwt.decodeUnverified token decodeAlgorithms = .ok claims) :
    verifyRequestV1 jwt now token claims credentials trustedIssuers = .ok account ↔
      firstAccount account.id credentials = some account ∧
        jwt.signatureValid "HS256" token account.secretKey ∧
        TimesHold jwt.numericDate now 1 claims ∧ stringClaim "sub" claims = true ∧
        stringClaim "jti" claims = true ∧ AcceptedByV1 claims trustedIssuers account := by
  rw [verifyRequestV1_eq_ok_iff]
  constructor
  · intro returned
    obtain ⟨element, botId, verified, audience, parsed, found, decoded, accepted⟩ := returned
    have sameId := firstAccount_id botId credentials account found
    subst sameId
    obtain ⟨valid, held⟩ := (exact.decode_iff rfl unverified).mp ⟨verified, decoded⟩
    exact ⟨found, valid, held.times, held.subject, held.tokenId, ⟨element, audience, parsed⟩,
      accepted⟩
  · intro admitted
    obtain ⟨found, valid, times, subject, tokenId, ⟨element, audience, parsed⟩, accepted⟩ :=
      admitted
    have held : ClaimsHold jwt.numericDate now (decodeCallV1 account account.hostName) claims :=
      ⟨times, rfl, rfl, subject, tokenId⟩
    obtain ⟨verified, decoded⟩ := (exact.decode_iff rfl unverified).mpr ⟨valid, held⟩
    exact ⟨element, account.id, verified, audience, parsed, found, decoded, accepted⟩

end

theorem verifyRequest_admits_iff {jwt : PyJWT} (exact : jwt.DecodesExactly) (now : Int)
    (headers : List (String × String)) (credentials : List BotAccountWithSecret)
    (trustedIssuers : Option (List String)) (account : BotAccountWithSecret) :
    verifyRequest jwt now (some headers) credentials trustedIssuers = .ok account ↔
      Admitted jwt now headers credentials trustedIssuers account := by
  rw [verifyRequest_eq_ok_iff]
  refine exists_congr fun token => exists_congr fun claims => and_congr_right fun read => ?_
  have unverified : jwt.decodeUnverified token decodeAlgorithms = .ok claims := by
    obtain ⟨_, _, _, decoded⟩ := read
    exact decoded
  by_cases version : isV2Payload claims = true
  · rw [if_pos version, v2_admits_iff exact unverified]
    refine and_congr_right fun _ => and_congr_right fun _ => and_congr_right fun _ => ?_
    refine and_congr_right fun _ => and_congr_right fun _ => ?_
    constructor
    · exact .inl
    · intro accepted
      cases accepted with
      | inl second => exact second
      | inr first =>
          obtain ⟨⟨⟨element, audience, _⟩, _⟩, unversioned⟩ := first
          rw [isV2Payload_of_list audience, unversioned] at version
          cases version
  · rw [if_neg version, v1_admits_iff exact unverified]
    refine and_congr_right fun _ => and_congr_right fun _ => and_congr_right fun _ => ?_
    refine and_congr_right fun _ => and_congr_right fun _ => ?_
    constructor
    · intro accepted
      refine .inr ⟨accepted, ?_⟩
      obtain ⟨⟨element, audience, _⟩, _⟩ := accepted
      rw [← isV2Payload_of_list audience]
      exact Bool.not_eq_true _ ▸ version
    · intro accepted
      cases accepted with
      | inl second => exact absurd (isV2Payload_of_acceptedByV2 second) version
      | inr first => exact first.1

def CallbackRead (scalars : Scalars) (raw : Json) (message : BotXMethodCallback) : Prop :=
  ∃ entries, raw = .obj entries ∧
    match message with
    | .successful syncId result =>
        (Dict.get "sync_id" entries).bind scalars.uuid = some syncId ∧
          Dict.get "status" entries = some (.str "ok") ∧
          Dict.get "result" entries = some (.obj result)
    | .failed syncId reason errors errorData =>
        (Dict.get "sync_id" entries).bind scalars.uuid = some syncId ∧
          Dict.get "status" entries = some (.str "error") ∧
          Dict.get "reason" entries = some (.str reason) ∧
          Dict.get "errors" entries = some (.arr (errors.map .str)) ∧
          Dict.get "error_data" entries = some (.obj errorData)

def checkSuccessful (scalars : Scalars) : Scalars.Check BotXMethodCallback :=
  model fun entries => (fun syncId _ result => .successful syncId result) <$>
    required "sync_id" scalars.checkUuid entries <*>
    required "status" (literal "ok") entries <*> required "result" dict entries

def checkFailed (scalars : Scalars) : Scalars.Check BotXMethodCallback :=
  model fun entries => (fun syncId _ reason errors errorData =>
      .failed syncId reason errors errorData) <$>
    required "sync_id" scalars.checkUuid entries <*>
    required "status" (literal "error") entries <*> required "reason" str entries <*>
    required "errors" (list str) entries <*> required "error_data" dict entries

section

variable {scalars : Scalars} {raw : Json} {message : BotXMethodCallback}

theorem required_uuid_iff (key : String) (entries : List (String × Json)) (id : UUID) :
    (required key scalars.checkUuid entries : Validated PyError UUID) = .valid id ↔
      (Dict.get key entries).bind scalars.uuid = some id := by
  rw [required_eq_valid_iff]
  unfold Scalars.checkUuid
  cases Dict.get key entries with
  | none => simp
  | some value => simp [ofOption_eq_valid_iff]

theorem required_exact_iff {α : Type} {inner : Scalars.Check α} {value : α} {json : Json}
    (exact : ∀ raw, inner raw = .valid value ↔ raw = json) (key : String)
    (entries : List (String × Json)) :
    required key inner entries = .valid value ↔ Dict.get key entries = some json := by
  rw [required_eq_valid_iff]
  constructor
  · intro checked
    obtain ⟨raw, given, read⟩ := checked
    rw [(exact raw).mp read] at given
    exact given
  · intro given
    exact ⟨json, given, (exact json).mpr rfl⟩

theorem checkSuccessful_iff :
    checkSuccessful scalars raw = .valid message ↔
      ∃ syncId result, message = .successful syncId result ∧
        CallbackRead scalars raw (.successful syncId result) := by
  unfold checkSuccessful CallbackRead
  rw [model_eq_valid_iff]
  constructor
  · intro checked
    obtain ⟨entries, rfl, checked⟩ := checked
    simp only [Validated.seq_eq_valid_iff, Validated.map_eq_valid_iff] at checked
    obtain ⟨_, result, ⟨_, status, ⟨syncId, sync, rfl⟩, ok, rfl⟩, body, rfl⟩ := checked
    refine ⟨syncId, result, rfl, entries, rfl, (required_uuid_iff _ _ _).mp sync, ?_, ?_⟩
    · exact (required_exact_iff (fun raw => literal_eq_valid_iff "ok" raw) _ _).mp ok
    · exact (required_exact_iff (fun raw => dict_eq_valid_iff raw result) _ _).mp body
  · intro read
    obtain ⟨syncId, result, rfl, entries, rfl, sync, ok, body⟩ := read
    refine ⟨entries, rfl, ?_⟩
    rw [(required_uuid_iff _ _ _).mpr sync,
      (required_exact_iff (fun raw => literal_eq_valid_iff "ok" raw) _ _).mpr ok,
      (required_exact_iff (fun raw => dict_eq_valid_iff raw result) _ _).mpr body]
    rfl

theorem checkFailed_iff :
    checkFailed scalars raw = .valid message ↔
      ∃ syncId reason errors errorData, message = .failed syncId reason errors errorData ∧
        CallbackRead scalars raw (.failed syncId reason errors errorData) := by
  unfold checkFailed CallbackRead
  rw [model_eq_valid_iff]
  constructor
  · intro checked
    obtain ⟨entries, rfl, checked⟩ := checked
    simp only [Validated.seq_eq_valid_iff, Validated.map_eq_valid_iff] at checked
    obtain ⟨_, errorData, ⟨_, errors, ⟨_, reason, ⟨_, status, ⟨syncId, sync, rfl⟩, error, rfl⟩,
      cause, rfl⟩, listed, rfl⟩, extra, rfl⟩ := checked
    refine ⟨syncId, reason, errors, errorData, rfl, entries, rfl,
      (required_uuid_iff _ _ _).mp sync, ?_, ?_, ?_, ?_⟩
    · exact (required_exact_iff (fun raw => literal_eq_valid_iff "error" raw) _ _).mp error
    · exact (required_exact_iff (fun raw => str_eq_valid_iff raw reason) _ _).mp cause
    · exact (required_exact_iff (fun raw => list_str_eq_valid_iff raw errors) _ _).mp listed
    · exact (required_exact_iff (fun raw => dict_eq_valid_iff raw errorData) _ _).mp extra
  · intro read
    obtain ⟨syncId, reason, errors, errorData, rfl, entries, rfl, sync, error, cause, listed,
      extra⟩ := read
    refine ⟨entries, rfl, ?_⟩
    rw [(required_uuid_iff _ _ _).mpr sync,
      (required_exact_iff (fun raw => literal_eq_valid_iff "error" raw) _ _).mpr error,
      (required_exact_iff (fun raw => str_eq_valid_iff raw reason) _ _).mpr cause,
      (required_exact_iff (fun raw => list_str_eq_valid_iff raw errors) _ _).mpr listed,
      (required_exact_iff (fun raw => dict_eq_valid_iff raw errorData) _ _).mpr extra]
    rfl

theorem settled_checkSuccessful (raw : Json) : Validated.Settled (checkSuccessful scalars raw) := by
  refine settled_model (fun entries => ?_) raw
  refine (.seq (.seq (.map _ ?_) ?_) ?_)
  · exact settled_required (settled_ofOption scalars.uuid) "sync_id" entries
  · exact settled_required (settled_literal "ok") "status" entries
  · exact settled_required settled_dict "result" entries

theorem settled_checkFailed (raw : Json) : Validated.Settled (checkFailed scalars raw) := by
  refine settled_model (fun entries => ?_) raw
  refine (.seq (.seq (.seq (.seq (.map _ ?_) ?_) ?_) ?_) ?_)
  · exact settled_required (settled_ofOption scalars.uuid) "sync_id" entries
  · exact settled_required (settled_literal "error") "status" entries
  · exact settled_required settled_str "reason" entries
  · exact settled_required (settled_list settled_str) "errors" entries
  · exact settled_required settled_dict "error_data" entries

theorem callback_check_iff :
    BotXMethodCallback.check scalars raw = .valid message ↔ CallbackRead scalars raw message := by
  constructor
  · intro checked
    obtain ⟨alternative, member, checked⟩ := exists_of_union checked
    cases List.mem_cons.mp member with
    | inl first =>
        rw [first] at checked
        obtain ⟨syncId, result, rfl, read⟩ := checkSuccessful_iff.mp checked
        exact read
    | inr second =>
        rw [List.mem_singleton.mp second] at checked
        obtain ⟨syncId, reason, errors, errorData, rfl, read⟩ := checkFailed_iff.mp checked
        exact read
  · intro read
    change Validated.oneOf [checkSuccessful scalars raw, checkFailed scalars raw] = _
    cases message with
    | successful syncId result =>
        rw [checkSuccessful_iff.mpr ⟨syncId, result, rfl, read⟩]
        cases other : checkFailed scalars raw with
        | raised exc => exact absurd other (settled_checkFailed raw exc)
        | valid failed => rfl
        | invalid => rfl
    | failed syncId reason errors errorData =>
        rw [checkFailed_iff.mpr ⟨syncId, reason, errors, errorData, rfl, read⟩]
        cases other : checkSuccessful scalars raw with
        | raised exc => exact absurd other (settled_checkSuccessful raw exc)
        | invalid => rfl
        | valid first =>
            obtain ⟨_, _, rfl, entries, same, _, ok, _⟩ := checkSuccessful_iff.mp other
            obtain ⟨others, sameOthers, _, error, _⟩ := read
            rw [same] at sameOthers
            cases sameOthers
            rw [ok] at error
            exact absurd (Json.str.inj (Option.some.inj error)) (by decide)

end

/-! ### The endpoints -/

section

variable {jwt : PyJWT} {now : Int} {scalars : Scalars}

theorem orUnauthorized_eq_success_iff (answer : Result Response) (media : Json) :
    orUnauthorized answer = .ok ⟨200, media⟩ ↔ answer = .ok ⟨200, media⟩ := by
  cases answer with
  | ok response => exact Iff.rfl
  | error exc =>
      cases exc <;> simp [orUnauthorized]

theorem StatusResource.onGet_eq_success_iff (resource : StatusResource)
    (params : List (String × ParamValue)) (headers : List (String × String)) (media : Json) :
    resource.onGet jwt now scalars params headers = .ok ⟨200, media⟩ ↔
      ∃ account recipient, resource.verifyRequest jwt now (lowerKeys headers) = .ok account ∧
        BotAPIStatusRecipient.check scalars
          (.obj (params.map fun param => (param.1, .str param.2.first))) = .valid recipient ∧
        recipient.botId = account.id ∧ media = buildBotStatusResponse resource.botMenu := by
  unfold onGet
  rw [orUnauthorized_eq_success_iff, Result.bind_eq_ok]
  unfold getStatus
  rw [List.map_map]
  constructor
  · intro answered
    obtain ⟨status, got, same⟩ := answered
    cases same
    obtain ⟨account, verified, got⟩ := (Result.bind_eq_ok _ _ _).mp got
    obtain ⟨recipient, read, got⟩ := (Result.bind_eq_ok _ _ _).mp got
    have checked := (orValueError_eq_ok_iff _ _ _).mp read
    by_cases same : recipient.botId = account.id
    · have compared : ¬ recipient.toDomain.botId ≠ account.id := not_not.mpr same
      dsimp only at got
      rw [if_neg compared] at got
      cases got
      exact ⟨account, recipient, verified, checked, same, rfl⟩
    · have compared : recipient.toDomain.botId ≠ account.id := same
      dsimp only at got
      rw [if_pos compared] at got
      cases got
  · intro answered
    obtain ⟨account, recipient, verified, checked, same, rfl⟩ := answered
    refine ⟨_, ?_, rfl⟩
    rw [Result.bind_eq_ok]
    refine ⟨account, verified, ?_⟩
    rw [Result.bind_eq_ok]
    refine ⟨recipient, (orValueError_eq_ok_iff _ _ _).mpr checked, ?_⟩
    have compared : ¬ recipient.toDomain.botId ≠ account.id := not_not.mpr same
    dsimp only
    rw [if_neg compared]
    rfl

end

namespace BotxApp

variable {Handler Callback : Type} {app : BotxApp Handler Callback}
  {useCases : UseCases Handler Callback} {runtime : Runtime} {now : Int}

theorem openCallback_eq_running_iff {media : Option Json} {headers : List (String × String)}
    {script : Script} {accepted : Response} :
    app.openCallback useCases runtime now media headers = .running script accepted ↔
      ∃ raw account message, media = some raw ∧
        app.callback.verifyRequest runtime.jwt now (lowerKeys headers) = .ok account ∧
        CallbackRead runtime.python.toScalars raw message ∧
        script = useCases.executeCallback app.callback.callback message ∧
        accepted = ⟨200, .obj [("status", .str "ok")]⟩ := by
  unfold openCallback
  cases media with
  | none =>
      constructor
      · intro impossible
        cases impossible
      · intro opened
        obtain ⟨_, _, _, impossible, _⟩ := opened
        cases impossible
  | some raw =>
      simp only [requestMedia, bind, Except.bind, CallbackResource.parseCallback,
        ← callback_check_iff]
      cases verified : app.callback.verifyRequest runtime.jwt now (lowerKeys headers) with
      | error exc =>
          constructor
          · intro impossible
            cases impossible
          · intro opened
            obtain ⟨_, _, _, _, impossible, _⟩ := opened
            cases impossible
      | ok account =>
          simp only
          cases checked : BotXMethodCallback.check runtime.python.toScalars raw with
          | valid message =>
              constructor
              · intro opened
                cases opened
                exact ⟨raw, account, message, rfl, rfl, checked, rfl, rfl⟩
              · intro opened
                obtain ⟨_, _, other, same, _, otherChecked, rfl, rfl⟩ := opened
                cases same
                rw [checked] at otherChecked
                cases otherChecked
                rfl
          | invalid =>
              constructor
              · intro impossible
                cases impossible
              · intro opened
                obtain ⟨_, _, _, same, _, otherChecked, _⟩ := opened
                cases same
                rw [checked] at otherChecked
                cases otherChecked
          | raised exc =>
              constructor
              · intro impossible
                cases impossible
              · intro opened
                obtain ⟨_, _, _, same, _, otherChecked, _⟩ := opened
                cases same
                rw [checked] at otherChecked
                cases otherChecked

/-- A handler, the callback or the menu is reached by admitted requests with a content that is
read, and by no others.  Only a callback is not compared with the account. -/
structure AdmitsExactly (credentials : List BotAccountWithSecret)
    (app : BotxApp Handler Callback) (useCases : UseCases Handler Callback) (runtime : Runtime)
    (now : Int) : Prop where
  command : ∀ media headers script accepted,
    app.opening useCases runtime now (.command media headers) = .running script accepted ↔
      ∃ rawCommand account command handler, media = some (.obj rawCommand) ∧
        Admitted runtime.jwt now (lowerKeys headers) credentials none account ∧
        parseBotCommand runtime.python.toScalars rawCommand = .ok command ∧
        command.bot.id = account.id ∧ app.command.Registered handler command ∧
        script = useCases.execute handler command ∧
        accepted = ⟨200, buildCommandAcceptedResponse⟩
  callback : ∀ media headers script accepted,
    app.opening useCases runtime now (.callback media headers) = .running script accepted ↔
      ∃ raw account message, media = some raw ∧
        Admitted runtime.jwt now (lowerKeys headers) credentials none account ∧
        CallbackRead runtime.python.toScalars raw message ∧
        script = useCases.executeCallback app.callback.callback message ∧
        accepted = ⟨200, .obj [("status", .str "ok")]⟩
  status : ∀ params headers media,
    app.opening useCases runtime now (.status params headers) = .answered (.ok ⟨200, media⟩) ↔
      ∃ account recipient,
        Admitted runtime.jwt now (lowerKeys headers) credentials none account ∧
        BotAPIStatusRecipient.check runtime.python.toScalars
          (.obj (params.map fun param => (param.1, .str param.2.first))) = .valid recipient ∧
        recipient.botId = account.id ∧ media = buildBotStatusResponse app.status.botMenu

theorem createBotxApp_admitsExactly (runtime : Runtime) (exact : runtime.jwt.DecodesExactly)
    (now : Int) (storage : BotAccountsStorage) (commands : List (String × Handler))
    (callback : Callback) (events : List (SystemEventClass × Handler)) (botMenu : Option BotMenu)
    (useCases : UseCases Handler Callback) :
    AdmitsExactly storage.botAccounts
      (createBotxApp storage commands callback events botMenu true) useCases runtime now := by
  have admits := fun headers account => verifyRequest_admits_iff exact now (lowerKeys headers)
    storage.botAccounts none account
  refine ⟨?_, ?_, ?_⟩
  · intro media headers script accepted
    change openCommand _ _ _ _ _ _ = _ ↔ _
    rw [openCommand_eq_running_iff]
    constructor
    · intro opened
      obtain ⟨rawCommand, command, handler, same, parsed, registered, rfl, rfl⟩ := opened
      obtain ⟨account, verified, read, sameBot⟩ :=
        (CommandResource.parseCommand_eq_ok_iff _ _ _ _ _ _ _).mp parsed
      exact ⟨rawCommand, account, command, handler, same, (admits headers account).mp verified,
        read, sameBot, registered, rfl, rfl⟩
    · intro opened
      obtain ⟨rawCommand, account, command, handler, same, admitted, read, sameBot, registered, rfl,
        rfl⟩ := opened
      refine ⟨rawCommand, command, handler, same, ?_, registered, rfl, rfl⟩
      exact (CommandResource.parseCommand_eq_ok_iff _ _ _ _ _ _ _).mpr
        ⟨account, (admits headers account).mpr admitted, read, sameBot⟩
  · intro media headers script accepted
    change openCallback _ _ _ _ _ _ = _ ↔ _
    rw [openCallback_eq_running_iff]
    refine exists_congr fun raw => exists_congr fun account => exists_congr fun message => ?_
    exact and_congr_right fun _ => and_congr_left fun _ => admits headers account
  · intro params headers media
    change Opening.answered _ = .answered _ ↔ _
    rw [Opening.answered.injEq, StatusResource.onGet_eq_success_iff]
    refine exists_congr fun account => exists_congr fun recipient => ?_
    exact and_congr_left fun _ => admits headers account

theorem createBotxApp_admitsExactly_demo :
    AdmitsExactly [demoAccount]
      (createBotxApp (.new [demoAccount] .v2) [("/start", "start")] () [] none true) demoUseCases
      demoRuntime 1030 :=
  createBotxApp_admitsExactly demoRuntime (PyJWT.ofToken_decodesExactly _ _ demoClaims) 1030
    (.new [demoAccount] .v2) [("/start", "start")] () [] none demoUseCases

end BotxApp

end Pybotx
