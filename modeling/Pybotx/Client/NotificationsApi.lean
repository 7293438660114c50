/-
The methods of the notifications API.

The synchronous method answers a failed delivery with a success code, so it turns the
`reason` of the payload into an error itself.
-/

import Pybotx.Client.MethodExecution

set_option autoImplicit false

namespace Pybotx

open Validator

section

variable (python : Interpreter)

structure BotXAPISyncIdResult where
  syncId : UUID
  deriving DecidableEq

def BotXAPISyncIdResult.check {ε : Type} : Validator ε BotXAPISyncIdResult :=
  model fun entries => BotXAPISyncIdResult.mk <$> required "sync_id" python.checkUuid entries

abbrev BotXAPIDirectNotificationResponsePayload := OkPayload BotXAPISyncIdResult

/-- `status` is "ok" or "error". -/
structure BotXAPIDirectNotificationSyncResponsePayload where
  status : String
  result : Option BotXAPISyncIdResult
  reason : Option String
  errors : Option (List String)
  errorData : Option (List (String × Json))

def BotXAPIDirectNotificationSyncResponsePayload.check {ε : Type} :
    Validator ε BotXAPIDirectNotificationSyncResponsePayload :=
  model fun entries => BotXAPIDirectNotificationSyncResponsePayload.mk <$>
    required "status" (member ["ok", "error"] id) entries <*>
    defaulted "result" none (optional (BotXAPISyncIdResult.check python)) entries <*>
    defaulted "reason" none (optional str) entries <*>
    defaulted "errors" none (optional (list str)) entries <*>
    defaulted "error_data" none (optional dict) entries

def directNotificationSyncErrorMap : List (String × ClientErrorClass) :=
  [("chat_not_found", .chatNotFound), ("bot_is_not_a_chat_member", .botIsNotChatMember),
    ("event_recipients_list_is_empty", .finalRecipientsListEmpty),
    ("stealth_mode_disabled", .stealthModeDisabled)]

def raiseDirectNotificationSyncError (response : HttpResponse) (reason : Option String) :
    Result Unit :=
  match Dict.get (reason.getD "") directNotificationSyncErrorMap with
  | none => raiseFromResponse .invalidBotXResponsePayload response none
  | some excType => raiseFromResponse excType response none

/-- `assert api_model.result is not None` stands after the branch for errors. -/
def unpackDirectNotificationSync (response : HttpResponse)
    (apiModel : BotXAPIDirectNotificationSyncResponsePayload) :
    Result BotXAPIDirectNotificationResponsePayload := do
  if apiModel.status = "error" then
    raiseDirectNotificationSyncError response apiModel.reason
  match apiModel.result with
  | none => throw .assertionError
  | some result => return { result := result }

theorem raiseDirectNotificationSyncError_eq (response : HttpResponse) (reason : Option String) :
    ∃ excType, raiseDirectNotificationSyncError response reason =
      raiseFromResponse excType response none := by
  unfold raiseDirectNotificationSyncError
  cases Dict.get (reason.getD "") directNotificationSyncErrorMap with
  | none => exact ⟨_, rfl⟩
  | some excType => exact ⟨excType, rfl⟩

theorem unpackDirectNotificationSync_of_error (response : HttpResponse)
    (apiModel : BotXAPIDirectNotificationSyncResponsePayload) (content : List UInt8)
    (complete : response.data = .ok content) (failed : apiModel.status = "error") :
    Result.Contained (unpackDirectNotificationSync response apiModel) := by
  obtain ⟨excType, raises⟩ := raiseDirectNotificationSyncError_eq response apiModel.reason
  unfold unpackDirectNotificationSync
  simp only [failed, if_true, raises]
  exact raiseFromResponse_bind_contained _ _ _ content complete _

theorem unpackDirectNotificationSync_of_ok (response : HttpResponse)
    (apiModel : BotXAPIDirectNotificationSyncResponsePayload) (passed : apiModel.status ≠ "error") :
    unpackDirectNotificationSync response apiModel =
      match apiModel.result with
      | none => .error .assertionError
      | some result => .ok { result := result } := by
  unfold unpackDirectNotificationSync
  simp only [if_neg passed]
  cases apiModel.result <;> rfl

theorem unpackDirectNotificationSync_contained_iff (response : HttpResponse)
    (apiModel : BotXAPIDirectNotificationSyncResponsePayload) (content : List UInt8)
    (complete : response.data = .ok content) :
    Result.Contained (unpackDirectNotificationSync response apiModel) ↔
      (apiModel.result = none → apiModel.status = "error") := by
  by_cases failed : apiModel.status = "error"
  · constructor
    · intro _ _
      exact failed
    · intro _
      exact unpackDirectNotificationSync_of_error response apiModel content complete failed
  · rw [unpackDirectNotificationSync_of_ok response apiModel failed]
    cases apiModel.result with
    | none =>
        constructor
        · intro contained
          cases contained _ rfl
        · intro reported
          exact absurd (reported rfl) failed
    | some result =>
        constructor
        · intro _ impossible
          cases impossible
        · intro _
          exact Result.raises_ok _ _

/-- A synchronous answer that is "ok" and valid but has no result. -/
structure AcceptedWithoutResult (entries : List (String × Json)) : Prop where
  status : Dict.get "status" entries = some (.str "ok")
  result : ∀ raw, Dict.get "result" entries = some raw → raw = .null
  reason : ∀ raw, Dict.get "reason" entries = some raw → raw = .null ∨ ∃ text, raw = .str text
  errors : ∀ raw, Dict.get "errors" entries = some raw →
    raw = .null ∨ ∃ texts : List String, raw = .arr (texts.map .str)
  errorData : ∀ raw, Dict.get "error_data" entries = some raw →
    raw = .null ∨ ∃ fields, raw = .obj fields

theorem checkSync_eq_valid_iff (raw : Json)
    (apiModel : BotXAPIDirectNotificationSyncResponsePayload) :
    (BotXAPIDirectNotificationSyncResponsePayload.check python raw : Validated Empty _) =
        .valid apiModel ↔
      ∃ entries, raw = .obj entries ∧
        required "status" (member ["ok", "error"] id) entries =
          (.valid apiModel.status : Validated Empty _) ∧
        defaulted "result" none (optional (BotXAPISyncIdResult.check python)) entries =
          (.valid apiModel.result : Validated Empty _) ∧
        defaulted "reason" none (optional str) entries =
          (.valid apiModel.reason : Validated Empty _) ∧
        defaulted "errors" none (optional (list str)) entries =
          (.valid apiModel.errors : Validated Empty _) ∧
        defaulted "error_data" none (optional dict) entries =
          (.valid apiModel.errorData : Validated Empty _) := by
  rcases apiModel with ⟨status, result, reason, errors, errorData⟩
  unfold BotXAPIDirectNotificationSyncResponsePayload.check
  simp only [model_eq_valid_iff, Validated.seq_eq_valid_iff, Validated.map_eq_valid_iff]
  constructor
  · rintro ⟨entries, rfl, _, _, ⟨_, _, ⟨_, _, ⟨_, _, ⟨_, atStatus, rfl⟩, atResult, rfl⟩, atReason,
      rfl⟩, atErrors, rfl⟩, atData, built⟩
    cases built
    exact ⟨entries, rfl, atStatus, atResult, atReason, atErrors, atData⟩
  · rintro ⟨entries, rfl, atStatus, atResult, atReason, atErrors, atData⟩
    exact ⟨entries, rfl, _, _, ⟨_, _, ⟨_, _, ⟨_, _, ⟨_, atStatus, rfl⟩, atResult, rfl⟩, atReason,
      rfl⟩, atErrors, rfl⟩, atData, rfl⟩

theorem checkStatus_eq_valid_iff (entries : List (String × Json)) (status : String) :
    (required "status" (member ["ok", "error"] id) entries : Validated Empty String) =
        .valid status ↔
      Dict.get "status" entries = some (.str status) ∧ (status = "ok" ∨ status = "error") := by
  have listed (raw : Json) : (member ["ok", "error"] id raw : Validated Empty String) =
      .valid status ↔ raw = .str status ∧ (status = "ok" ∨ status = "error") := by
    cases raw with
    | str text =>
        by_cases ok : text = "ok"
        · simp only [member, ok, eq_comm]
          simpa using Or.inl
        · by_cases error : text = "error"
          · simp only [member, error, eq_comm]
            simpa using Or.inr
          · simp only [member, id, List.find?_cons, List.find?_nil, Json.str.injEq,
              decide_eq_false (Ne.symm ok), decide_eq_false (Ne.symm error), Option.elim]
            constructor
            · intro impossible
              cases impossible
            · rintro ⟨rfl, isOk | isError⟩
              · exact absurd isOk ok
              · exact absurd isError error
    | _ => simp [member]
  rw [required_eq_valid_iff]
  simp only [listed]
  constructor
  · rintro ⟨_, found, rfl, known⟩
    exact ⟨found, known⟩
  · rintro ⟨found, known⟩
    exact ⟨_, found, rfl, known⟩

theorem acceptedWithoutResult_iff (raw : Json) :
    (∃ entries, raw = .obj entries ∧ AcceptedWithoutResult entries) ↔
      ∃ apiModel, (BotXAPIDirectNotificationSyncResponsePayload.check python raw :
          Validated Empty _) = .valid apiModel ∧
        apiModel.result = none ∧ apiModel.status ≠ "error" := by
  have reasons (entries : List (String × Json)) :
      (∃ value, defaulted "reason" none (optional str) entries =
        (.valid value : Validated Empty _)) ↔ _ :=
    exists_defaulted_optional_iff "reason" str entries
  have errors (entries : List (String × Json)) :
      (∃ value, defaulted "errors" none (optional (list str)) entries =
        (.valid value : Validated Empty _)) ↔ _ :=
    exists_defaulted_optional_iff "errors" (list str) entries
  have data (entries : List (String × Json)) :
      (∃ value, defaulted "error_data" none (optional dict) entries =
        (.valid value : Validated Empty _)) ↔ _ :=
    exists_defaulted_optional_iff "error_data" dict entries
  simp only [str_eq_valid_iff] at reasons
  simp only [list_str_eq_valid_iff] at errors
  simp only [dict_eq_valid_iff] at data
  simp only [checkSync_eq_valid_iff, checkStatus_eq_valid_iff]
  constructor
  · rintro ⟨entries, rfl, accepted⟩
    obtain ⟨reason, atReason⟩ := (reasons entries).mpr accepted.reason
    obtain ⟨failures, atErrors⟩ := (errors entries).mpr accepted.errors
    obtain ⟨errorData, atData⟩ := (data entries).mpr accepted.errorData
    have atResult := (defaulted_optional_eq_none_iff "result"
      (BotXAPISyncIdResult.check python : Validator Empty _) entries).mpr accepted.result
    exact ⟨⟨"ok", none, reason, failures, errorData⟩,
      ⟨entries, rfl, ⟨accepted.status, Or.inl rfl⟩, atResult, atReason, atErrors, atData⟩, rfl,
      by simp⟩
  · rintro ⟨apiModel, ⟨entries, rfl, ⟨atStatus, known⟩, atResult, atReason, atErrors, atData⟩,
      withoutResult, passed⟩
    rw [withoutResult] at atResult
    refine ⟨entries, rfl, ?_, ?_, ?_, ?_, ?_⟩
    · rw [atStatus, known.resolve_right passed]
    · exact (defaulted_optional_eq_none_iff "result"
        (BotXAPISyncIdResult.check python : Validator Empty _) entries).mp atResult
    · exact (reasons entries).mp ⟨_, atReason⟩
    · exact (errors entries).mp ⟨_, atErrors⟩
    · exact (data entries).mp ⟨_, atData⟩

def directNotificationSyncReading : ModelReading BotXAPIDirectNotificationResponsePayload where
  Model := BotXAPIDirectNotificationSyncResponsePayload
  check := silent (BotXAPIDirectNotificationSyncResponsePayload.check python)
  unpack := unpackDirectNotificationSync
  checkQuiet := ModelReading.silentQuiet _
  unpackQuiet := by
    intro response content apiModel complete
    by_cases failed : apiModel.status = "error"
    · exact (unpackDirectNotificationSync_of_error response apiModel content complete
        failed).quiet
    · rw [unpackDirectNotificationSync_of_ok response apiModel failed]
      cases apiModel.result with
      | none => exact (Result.raises_error_iff _ _).mpr rfl
      | some result => exact Result.raises_ok _ _

theorem directNotificationSyncReading_contains_iff (response : HttpResponse)
    (content : List UInt8) (raw : Json) (complete : response.data = .ok content) :
    (directNotificationSyncReading python).Contains response raw ↔
      ¬ ∃ entries, raw = .obj entries ∧ AcceptedWithoutResult entries := by
  have unpacks (apiModel : BotXAPIDirectNotificationSyncResponsePayload) :=
    unpackDirectNotificationSync_contained_iff response apiModel content complete
  rw [acceptedWithoutResult_iff python raw]
  constructor
  · rintro contains ⟨apiModel, checked, withoutResult, passed⟩
    have contained := contains.unpacked apiModel
      ((Validated.lift_eq_valid_iff _ apiModel).mpr checked)
    exact passed ((unpacks apiModel).mp contained withoutResult)
  · intro excluded
    refine ⟨fun exc raised => absurd raised (Validated.lift_ne_raised _ exc), ?_⟩
    intro apiModel accepted
    refine (unpacks apiModel).mpr fun withoutResult => ?_
    by_contra passed
    have checked := (Validated.lift_eq_valid_iff _ apiModel).mp accepted
    exact excluded ⟨apiModel, checked, withoutResult, passed⟩

/-! ### Methods -/

def directNotificationMethod : BotXMethod :=
  authorizedMethod "POST" "/api/v4/botx/notifications/direct" authorizedStatusHandlers
    (.returning (okPayload (BotXAPISyncIdResult.check python)))

def directNotificationSyncMethod : BotXMethod :=
  authorizedMethod "POST" "/api/v4/botx/notifications/direct/sync" authorizedStatusHandlers
    (directNotificationSyncReading python)

def internalBotNotificationMethod : BotXMethod :=
  authorizedMethod "POST" "/api/v4/botx/notifications/internal"
    (authorizedStatusHandlers.set 429 (responseExceptionThrower .rateLimitReached none))
    (.returning (okPayload (BotXAPISyncIdResult.check python)))

end

end Pybotx
