/-
The methods of the stickers API.
-/

import Pybotx.Client.MethodExecution

set_option autoImplicit false

namespace Pybotx

open Validator

section

variable (python : Interpreter)

/-- `BotXAPIAddStickerResult` has the same fields. -/
structure BotXAPIGetStickerResult where
  id : UUID
  emoji : String
  link : String

structure BotXAPICreateStickerPackResult where
  id : UUID
  name : String
  isPublic : Bool

structure BotXAPIGetStickerPackResult where
  id : UUID
  name : String
  isPublic : Bool
  stickersOrder : Option (List UUID)
  stickers : List BotXAPIGetStickerResult

/-- `BotXAPIGetStickerPackResult` of a list of packs. -/
structure BotXAPIListedStickerPackResult where
  id : UUID
  name : String
  isPublic : Bool
  stickersCount : Int
  stickersOrder : Option (List UUID)

structure BotXAPIGetPaginationResult where
  after : Option String

structure BotXAPIGetStickerPacksResult where
  packs : List BotXAPIListedStickerPackResult
  pagination : BotXAPIGetPaginationResult

def BotXAPIGetStickerResult.check {ε : Type} : Validator ε BotXAPIGetStickerResult :=
  model fun entries => BotXAPIGetStickerResult.mk <$>
    required "id" python.checkUuid entries <*>
    required "emoji" str entries <*>
    required "link" str entries

def BotXAPICreateStickerPackResult.check {ε : Type} :
    Validator ε BotXAPICreateStickerPackResult :=
  model fun entries => BotXAPICreateStickerPackResult.mk <$>
    required "id" python.checkUuid entries <*>
    required "name" str entries <*>
    required "public" python.checkBool entries

def BotXAPIGetStickerPackResult.check {ε : Type} : Validator ε BotXAPIGetStickerPackResult :=
  model fun entries => BotXAPIGetStickerPackResult.mk <$>
    required "id" python.checkUuid entries <*>
    required "name" str entries <*>
    required "public" python.checkBool entries <*>
    required "stickers_order" (optional (list python.checkUuid)) entries <*>
    required "stickers" (list (BotXAPIGetStickerResult.check python)) entries

def BotXAPIListedStickerPackResult.check {ε : Type} :
    Validator ε BotXAPIListedStickerPackResult :=
  model fun entries => BotXAPIListedStickerPackResult.mk <$>
    required "id" python.checkUuid entries <*>
    required "name" str entries <*>
    required "public" python.checkBool entries <*>
    required "stickers_count" python.checkInt entries <*>
    required "stickers_order" (optional (list python.checkUuid)) entries

def BotXAPIGetPaginationResult.check {ε : Type} : Validator ε BotXAPIGetPaginationResult :=
  model fun entries => BotXAPIGetPaginationResult.mk <$> required "after" (optional str) entries

def BotXAPIGetStickerPacksResult.check {ε : Type} : Validator ε BotXAPIGetStickerPacksResult :=
  model fun entries => BotXAPIGetStickerPacksResult.mk <$>
    required "packs" (list (BotXAPIListedStickerPackResult.check python)) entries <*>
    required "pagination" BotXAPIGetPaginationResult.check entries

/-- What is raised once the reason is not that the pack is missing. -/
def raiseInvalidSticker (response : HttpResponse) (errorData : Json) : Result Empty := do
  let emoji ← getItem "emoji" errorData
  if emoji.equalsStr "invalid" then raiseFromResponse .invalidEmoji response none
  else
    let image ← getItem "image" errorData
    if image.equalsStr "invalid" then raiseFromResponse .invalidImage response none
    else raiseFromResponse .invalidBotXStatusCode response none

def raiseRefusedSticker (response : HttpResponse) (data : Json) : Result Empty := do
  let reason ← getItem "reason" data
  if reason.equalsStr "pack_not_found" then
    raiseFromResponse .stickerPackOrStickerNotFound response none
  else
    let errorData ← getItem "error_data" data
    raiseInvalidSticker response errorData

theorem raiseInvalidSticker_of_object (response : HttpResponse) (content : List UInt8)
    (complete : response.data = .ok content) (entries : List (String × Json)) :
    Result.Contained (raiseInvalidSticker response (.obj entries)) := by
  unfold raiseInvalidSticker
  refine Result.Raises.bind (Result.raises_ok _ _) fun emoji _ => ?_
  by_cases invalidEmoji : emoji.equalsStr "invalid" = true
  · rw [if_pos invalidEmoji]
    exact raiseFromResponse_contained _ _ _ content complete
  · rw [if_neg invalidEmoji]
    refine Result.Raises.bind (Result.raises_ok _ _) fun image _ => ?_
    by_cases invalidImage : image.equalsStr "invalid" = true
    · rw [if_pos invalidImage]
      exact raiseFromResponse_contained _ _ _ content complete
    · rw [if_neg invalidImage]
      exact raiseFromResponse_contained _ _ _ content complete

theorem raiseInvalidSticker_quiet (response : HttpResponse) (content : List UInt8)
    (complete : response.data = .ok content) (errorData : Json) :
    Result.Quiet (raiseInvalidSticker response errorData) := by
  cases errorData with
  | obj entries => exact (raiseInvalidSticker_of_object response content complete entries).quiet
  | _ => exact (Result.raises_error_iff _ _).mpr rfl

theorem raiseRefusedSticker_quiet (response : HttpResponse) (content : List UInt8)
    (complete : response.data = .ok content) (data : Json) :
    Result.Quiet (raiseRefusedSticker response data) := by
  unfold raiseRefusedSticker
  refine (getItem_quiet "reason" data).bind fun reason _ => ?_
  by_cases missing : reason.equalsStr "pack_not_found" = true
  · rw [if_pos missing]
    exact (raiseFromResponse_contained _ _ _ content complete).quiet
  · rw [if_neg missing]
    exact (getItem_quiet "error_data" data).bind fun errorData _ =>
      raiseInvalidSticker_quiet response content complete errorData

def addStickerBadRequestErrorHandler : StatusHandler where
  handle := fun response => do
    let data ← loadsData python response
    raiseRefusedSticker response data
  readsFirst := by
    intro response failure broken
    unfold loadsData
    rw [broken]
    rfl
  quiet := by
    intro response content complete
    exact (loadsData_quiet python response content complete).bind fun data _ =>
      raiseRefusedSticker_quiet response content complete data

/-- The body of a refusal that the handler understands: the pack is missing, or
`error_data` is an object. -/
def RefusalExplained (entries : List (String × Json)) : Prop :=
  Dict.get "reason" entries = some (.str "pack_not_found") ∨
    ∃ errorData, Dict.get "error_data" entries = some (.obj errorData)

theorem raiseRefusedSticker_contained_iff (response : HttpResponse) (content : List UInt8)
    (complete : response.data = .ok content) (entries : List (String × Json)) :
    Result.Contained (raiseRefusedSticker response (.obj entries)) ↔
      RefusalExplained entries := by
  have reason : ((Dict.get "reason" entries).getD .null).equalsStr "pack_not_found" = true ↔
      Dict.get "reason" entries = some (.str "pack_not_found") := by
    rw [Json.equalsStr_iff]
    cases Dict.get "reason" entries <;> simp
  have unfolded : raiseRefusedSticker response (.obj entries) =
      if ((Dict.get "reason" entries).getD .null).equalsStr "pack_not_found" then
        raiseFromResponse .stickerPackOrStickerNotFound response none
      else raiseInvalidSticker response ((Dict.get "error_data" entries).getD .null) := rfl
  rw [unfolded]
  unfold RefusalExplained
  by_cases missing : Dict.get "reason" entries = some (.str "pack_not_found")
  · rw [if_pos (reason.mpr missing)]
    constructor
    · intro _
      exact Or.inl missing
    · intro _
      exact raiseFromResponse_contained _ _ _ content complete
  · rw [if_neg (mt reason.mp missing)]
    constructor
    · intro contained
      cases found : Dict.get "error_data" entries with
      | none =>
          rw [found] at contained
          cases contained _ rfl
      | some errorData =>
          cases errorData with
          | obj inner => exact Or.inr ⟨inner, rfl⟩
          | _ =>
              rw [found] at contained
              cases contained _ rfl
    · rintro (present | ⟨inner, found⟩)
      · exact absurd present missing
      · rw [found]
        exact raiseInvalidSticker_of_object response content complete inner

theorem addStickerBadRequestErrorHandler_contained_iff (response : HttpResponse)
    (content : List UInt8) (complete : response.data = .ok content) :
    Result.Contained ((addStickerBadRequestErrorHandler python).handle response) ↔
      ∃ entries, python.loads content = .ok (.obj entries) ∧ RefusalExplained entries := by
  have handled := loadsData_bind_contained_iff python response content complete
    (raiseRefusedSticker response) (by
      intro raw other
      unfold raiseRefusedSticker
      rw [getItem_of_other "reason" raw other]
      rfl)
  simp only [raiseRefusedSticker_contained_iff response content complete] at handled
  exact handled

/-! ### Methods -/

def stickersPath : String := "/api/v3/botx/stickers/packs"

def stickerPackPath (stickerPackId : UUID) : String :=
  "/api/v3/botx/stickers/packs/" ++ stickerPackId.str

def stickerPath (stickerPackId stickerId : UUID) : String :=
  "/api/v3/botx/stickers/packs/" ++ stickerPackId.str ++ "/stickers/" ++ stickerId.str

def stickerStatusHandlers : StatusHandlers :=
  authorizedStatusHandlers.set 404 (responseExceptionThrower .stickerPackOrStickerNotFound none)

def addStickerMethod (stickerPackId : UUID) : BotXMethod :=
  authorizedMethod "POST" (stickerPackPath stickerPackId ++ "/stickers")
    (authorizedStatusHandlers.set 400 (addStickerBadRequestErrorHandler python))
    (.returning (okPayload (BotXAPIGetStickerResult.check python)))

def createStickerPackMethod : BotXMethod :=
  authorizedMethod "POST" stickersPath authorizedStatusHandlers
    (.returning (okPayload (BotXAPICreateStickerPackResult.check python)))

def deleteStickerMethod (stickerPackId stickerId : UUID) : BotXMethod :=
  authorizedMethod "DELETE" (stickerPath stickerPackId stickerId) stickerStatusHandlers
    (.returningNone okStatus)

/-- The payload has no more than the status; it is returned. -/
def deleteStickerPackMethod (stickerPackId : UUID) : BotXMethod :=
  authorizedMethod "DELETE" (stickerPackPath stickerPackId) stickerStatusHandlers
    (.returning okStatus)

def editStickerPackMethod (stickerPackId : UUID) : BotXMethod :=
  authorizedMethod "PUT" (stickerPackPath stickerPackId) stickerStatusHandlers
    (.returning (okPayload (BotXAPIGetStickerPackResult.check python)))

def getStickerMethod (stickerPackId stickerId : UUID) : BotXMethod :=
  authorizedMethod "GET" (stickerPath stickerPackId stickerId) stickerStatusHandlers
    (.returning (okPayload (BotXAPIGetStickerResult.check python)))

def getStickerPackMethod (stickerPackId : UUID) : BotXMethod :=
  authorizedMethod "GET" (stickerPackPath stickerPackId) stickerStatusHandlers
    (.returning (okPayload (BotXAPIGetStickerPackResult.check python)))

def getStickerPacksMethod : BotXMethod :=
  authorizedMethod "GET" stickersPath authorizedStatusHandlers
    (.returning (okPayload (BotXAPIGetStickerPacksResult.check python)))

end

end Pybotx
