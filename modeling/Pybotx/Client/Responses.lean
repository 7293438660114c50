/-
What the client does with a response: the errors it makes of it, the status handlers of a
method and the reading of a model from the body.

A body is what comes off the connection: the chunks that arrive and, if the transport
breaks, the failure after them.
-/

import Pybotx.Foundation.Text
import Pybotx.Models.Scalars

set_option autoImplicit false

namespace Pybotx

namespace Result

variable {α β : Type}

def Raises (allowed : PyError → Bool) (outcome : Result α) : Prop :=
  ∀ exc, outcome = .error exc → allowed exc = true

/-- Only subclasses of `BaseClientError` come out. -/
abbrev Contained (outcome : Result α) : Prop :=
  Raises PyError.isClientError outcome

/-- No exception of the transport comes out. -/
abbrev Quiet (outcome : Result α) : Prop :=
  Raises (fun exc => !exc.isHttpError) outcome

@[simp] theorem raises_ok (allowed : PyError → Bool) (value : α) :
    Raises allowed (.ok value) := by
  intro exc impossible
  cases impossible

@[simp] theorem raises_error_iff (allowed : PyError → Bool) (exc : PyError) :
    Raises allowed (.error exc : Result α) ↔ allowed exc = true := by
  constructor
  · intro raises
    exact raises exc rfl
  · intro permitted other same
    cases same
    exact permitted

theorem Raises.bind {allowed : PyError → Bool} {call : Result α} {next : α → Result β}
    (first : Raises allowed call)
    (second : ∀ value, call = .ok value → Raises allowed (next value)) :
    Raises allowed (call >>= next) := by
  cases call with
  | error exc => exact (raises_error_iff allowed exc).mpr (first exc rfl)
  | ok value => exact second value rfl

theorem Contained.quiet {outcome : Result α} (contained : Contained outcome) :
    Quiet outcome := by
  intro exc raised
  have client := contained exc raised
  cases exc with
  | client cls message => rfl
  | _ => cases client

end Result

/-- What `json.loads` raises on bytes.  Only the first is a `JSONDecodeError`; the third is
the `ValueError` of an integer with too many digits. -/
inductive DecodingError where
  | jsonDecode
  | unicodeDecode
  | value (message : String)
  | recursion

def DecodingError.exc : DecodingError → PyError
  | jsonDecode => .jsonDecodeError
  | unicodeDecode => .unicodeDecodeError
  | value message => .valueError message
  | recursion => .recursionError

/-- The readings of texts and values that the client leaves to its platform:
`json.loads` of bytes and `str` of a value. -/
structure Interpreter extends Scalars where
  loads : List UInt8 → Except DecodingError Json
  str : Json → String

structure Body where
  chunks : List (List UInt8)
  failure : Option String

namespace Body

def bytes (body : Body) : List UInt8 :=
  body.chunks.flatten

def read (body : Body) : Result (List UInt8) :=
  match body.failure with
  | none => .ok body.bytes
  | some description => .error (.httpError description)

theorem read_eq_ok_iff (body : Body) (content : List UInt8) :
    body.read = .ok content ↔ body.failure = none ∧ body.bytes = content := by
  unfold read
  cases body.failure <;> simp

end Body

/-- `method` is the attribute that the client sets on the response. -/
structure HttpResponse where
  method : Option String
  url : String
  status : Nat
  body : Body

namespace HttpResponse

def data (response : HttpResponse) : Result (List UInt8) :=
  response.body.read

def Successful (response : HttpResponse) : Prop :=
  200 ≤ response.status ∧ response.status < 300

instance (response : HttpResponse) : Decidable response.Successful :=
  inferInstanceAs (Decidable (_ ∧ _))

end HttpResponse

def responseMessage (response : HttpResponse) (content : List UInt8) (comment : Option String) :
    String :=
  let message := response.method.getD "UNKNOWN" ++ " " ++ response.url ++
    "\nfailed with code " ++ toString response.status ++ " and payload:\n" ++
    Text.reprBytes content
  match comment with
  | none => message
  | some text => message ++ "\n\nComment: " ++ text

/-- `raise exc.from_response(response, comment)`; the errors about the status code and the
payload are raised with the same message. -/
def raiseFromResponse {α : Type} (exc : ClientErrorClass) (response : HttpResponse)
    (comment : Option String) : Result α := do
  let content ← response.data
  throw (.client exc (responseMessage response content comment))

theorem raiseFromResponse_of_data {α : Type} (exc : ClientErrorClass) (response : HttpResponse)
    (comment : Option String) (content : List UInt8) (complete : response.data = .ok content) :
    (raiseFromResponse exc response comment : Result α) =
      .error (.client exc (responseMessage response content comment)) := by
  unfold raiseFromResponse
  rw [complete]
  rfl

theorem raiseFromResponse_contained {α : Type} (exc : ClientErrorClass) (response : HttpResponse)
    (comment : Option String) (content : List UInt8) (complete : response.data = .ok content) :
    Result.Contained (raiseFromResponse exc response comment : Result α) := by
  rw [raiseFromResponse_of_data exc response comment content complete]
  exact (Result.raises_error_iff _ _).mpr rfl

theorem raiseFromResponse_ne_ok {α : Type} (exc : ClientErrorClass) (response : HttpResponse)
    (comment : Option String) (value : α) :
    raiseFromResponse exc response comment ≠ .ok value := by
  intro returned
  obtain ⟨content, _, impossible⟩ := (Result.bind_eq_ok _ _ _).mp returned
  cases impossible

theorem raiseFromResponse_bind_contained {α β : Type} (exc : ClientErrorClass)
    (response : HttpResponse) (comment : Option String) (content : List UInt8)
    (complete : response.data = .ok content) (next : α → Result β) :
    Result.Contained (raiseFromResponse exc response comment >>= next) := by
  refine Result.Raises.bind ?_ fun value returned => ?_
  · exact raiseFromResponse_contained exc response comment content complete
  · exact absurd returned (raiseFromResponse_ne_ok exc response comment value)

theorem raiseFromResponse_of_failure {α : Type} (exc : ClientErrorClass) (response : HttpResponse)
    (comment : Option String) (failure : PyError) (broken : response.data = .error failure) :
    (raiseFromResponse exc response comment : Result α) = .error failure := by
  unfold raiseFromResponse
  rw [broken]
  rfl

def loadsData (python : Interpreter) (response : HttpResponse) : Result Json := do
  let content ← response.data
  match python.loads content with
  | .ok raw => return raw
  | .error failure => throw failure.exc

/-- `value.get(key)`: only a dictionary has the method. -/
def getItem (key : String) : Json → Result Json
  | .obj entries => .ok ((Dict.get key entries).getD .null)
  | _ => .error .attributeError

theorem loadsData_of_data (python : Interpreter) (response : HttpResponse) (content : List UInt8)
    (complete : response.data = .ok content) :
    loadsData python response =
      match python.loads content with
      | .ok raw => .ok raw
      | .error failure => .error failure.exc := by
  unfold loadsData
  rw [complete]
  rfl

theorem DecodingError.exc_quiet (failure : DecodingError) :
    (!failure.exc.isHttpError) = true := by
  cases failure <;> rfl

theorem DecodingError.exc_not_client (failure : DecodingError) :
    failure.exc.isClientError = false := by
  cases failure <;> rfl

theorem loadsData_quiet (python : Interpreter) (response : HttpResponse) (content : List UInt8)
    (complete : response.data = .ok content) :
    Result.Quiet (loadsData python response) := by
  rw [loadsData_of_data python response content complete]
  cases python.loads content with
  | ok raw => exact Result.raises_ok _ raw
  | error failure => exact (Result.raises_error_iff _ _).mpr failure.exc_quiet

theorem getItem_of_other (key : String) (value : Json) (other : ∀ entries, value ≠ .obj entries) :
    getItem key value = .error .attributeError := by
  cases value with
  | obj entries => exact absurd rfl (other entries)
  | _ => rfl

theorem getItem_quiet (key : String) (value : Json) : Result.Quiet (getItem key value) := by
  cases value with
  | obj entries => exact Result.raises_ok _ _
  | _ => exact (Result.raises_error_iff _ _).mpr rfl

/-! ### Status handlers -/

/-- A handler never returns.  It reads the body before anything else, and a body that was
read leaves it nothing of the transport to raise. -/
structure StatusHandler where
  handle : HttpResponse → Result Empty
  readsFirst : ∀ response failure, response.data = .error failure →
    handle response = .error failure
  quiet : ∀ response content, response.data = .ok content → Result.Quiet (handle response)

def responseExceptionThrower (exc : ClientErrorClass) (comment : Option String) :
    StatusHandler where
  handle := fun response => raiseFromResponse exc response comment
  readsFirst := fun response failure broken =>
    raiseFromResponse_of_failure exc response comment failure broken
  quiet := fun response content complete =>
    (raiseFromResponse_contained exc response comment content complete).quiet

/-- The handlers that look up the `reason` of the body: the known reasons, each with its
exception and comment, and the exception for any other. -/
def reasonErrorHandler (python : Interpreter)
    (known : List (String × ClientErrorClass × Option String)) (otherwise : ClientErrorClass) :
    StatusHandler where
  handle := fun response => do
    let body ← loadsData python response
    let reason ← getItem "reason" body
    match known.find? (fun entry => reason.equalsStr entry.1) with
    | some (_, exc, comment) => raiseFromResponse exc response comment
    | none => raiseFromResponse otherwise response none
  readsFirst := by
    intro response failure broken
    unfold loadsData
    rw [broken]
    rfl
  quiet := by
    intro response content complete
    refine (loadsData_quiet python response content complete).bind fun body _ => ?_
    refine (getItem_quiet "reason" body).bind fun reason _ => ?_
    cases known.find? (fun entry => reason.equalsStr entry.1) with
    | some entry => exact (raiseFromResponse_contained _ _ _ content complete).quiet
    | none => exact (raiseFromResponse_contained _ _ _ content complete).quiet

theorem responseExceptionThrower_contained (exc : ClientErrorClass) (comment : Option String)
    (response : HttpResponse) (content : List UInt8) (complete : response.data = .ok content) :
    Result.Contained ((responseExceptionThrower exc comment).handle response) :=
  raiseFromResponse_contained exc response comment content complete

/-- What goes on from the decoded body with a look into an object stays inside the client's
errors only if it finds an object. -/
theorem loadsData_bind_contained_iff {α : Type} (python : Interpreter) (response : HttpResponse)
    (content : List UInt8) (complete : response.data = .ok content) (next : Json → Result α)
    (escapes : ∀ raw, (∀ entries, raw ≠ .obj entries) → next raw = .error .attributeError) :
    Result.Contained (loadsData python response >>= next) ↔
      ∃ entries, python.loads content = .ok (.obj entries) ∧
        Result.Contained (next (.obj entries)) := by
  rw [loadsData_of_data python response content complete]
  cases decoded : python.loads content with
  | error failure =>
      constructor
      · intro contained
        have client := contained failure.exc rfl
        rw [failure.exc_not_client] at client
        cases client
      · rintro ⟨entries, impossible, _⟩
        cases impossible
  | ok raw =>
      by_cases object : ∃ entries, raw = .obj entries
      · obtain ⟨entries, rfl⟩ := object
        constructor
        · intro contained
          exact ⟨entries, rfl, contained⟩
        · rintro ⟨_, same, contained⟩
          cases same
          exact contained
      · have escaped := escapes raw (fun entries same => object ⟨entries, same⟩)
        constructor
        · intro contained
          cases contained .attributeError escaped
        · rintro ⟨entries, same, _⟩
          cases same
          exact absurd ⟨entries, rfl⟩ object

theorem reasonErrorHandler_contained_iff (python : Interpreter)
    (known : List (String × ClientErrorClass × Option String)) (otherwise : ClientErrorClass)
    (response : HttpResponse) (content : List UInt8) (complete : response.data = .ok content) :
    Result.Contained ((reasonErrorHandler python known otherwise).handle response) ↔
      ∃ entries, python.loads content = .ok (.obj entries) := by
  refine (loadsData_bind_contained_iff python response content complete _ ?_).trans ?_
  · intro raw other
    rw [getItem_of_other "reason" raw other]
    rfl
  · have looked (entries : List (String × Json)) :
        Result.Contained (do
          let reason ← getItem "reason" (.obj entries)
          match known.find? (fun entry => reason.equalsStr entry.1) with
          | some (_, exc, comment) => raiseFromResponse exc response comment
          | none => raiseFromResponse otherwise response none : Result Empty) := by
      refine Result.Raises.bind (Result.raises_ok _ _) fun reason _ => ?_
      cases known.find? (fun entry => reason.equalsStr entry.1) with
      | some entry => exact raiseFromResponse_contained _ _ _ content complete
      | none => exact raiseFromResponse_contained _ _ _ content complete
    constructor
    · rintro ⟨entries, decoded, _⟩
      exact ⟨entries, decoded⟩
    · rintro ⟨entries, decoded⟩
      exact ⟨entries, decoded, looked entries⟩

abbrev StatusHandlers := Nat → Option StatusHandler

namespace StatusHandlers

def empty : StatusHandlers := fun _ => none

def set (handlers : StatusHandlers) (status : Nat) (handler : StatusHandler) : StatusHandlers :=
  Function.update handlers status (some handler)

/-- Every handler, but the one for the excepted status, stays inside the client's errors. -/
def Contained (excepted : Option Nat) (handlers : StatusHandlers) : Prop :=
  ∀ status handler, handlers status = some handler → some status ≠ excepted →
    ∀ response content, response.data = .ok content →
      Result.Contained (handler.handle response)

variable {excepted : Option Nat} {handlers : StatusHandlers}

theorem contained_empty : Contained excepted empty := by
  intro status handler impossible
  cases impossible

theorem Contained.throws (contained : Contained excepted handlers) (status : Nat)
    (exc : ClientErrorClass) (comment : Option String) :
    Contained excepted (handlers.set status (responseExceptionThrower exc comment)) := by
  intro other handler found allowed response content complete
  unfold set at found
  by_cases same : other = status
  · subst same
    rw [Function.update_self] at found
    cases found
    exact responseExceptionThrower_contained exc comment response content complete
  · rw [Function.update_of_ne same] at found
    exact contained other handler found allowed response content complete

theorem Contained.except {status : Nat} (contained : Contained (some status) handlers)
    (handler : StatusHandler) : Contained (some status) (handlers.set status handler) := by
  intro other found here allowed
  have different : other ≠ status := by
    intro same
    exact allowed (congrArg some same)
  unfold set at here
  rw [Function.update_of_ne different] at here
  exact contained other found here allowed

end StatusHandlers

/-- A handler that is found raises; without one the status code decides. -/
def raiseForStatus (handlers : StatusHandlers) (response : HttpResponse) : Result Unit := do
  match handlers response.status with
  | some handler =>
      let never ← handler.handle response
      nomatch never
  | none => pure ()
  if response.Successful then return ()
  else raiseFromResponse .invalidBotXStatusCode response none

theorem StatusHandler.handle_eq_error (handler : StatusHandler) (response : HttpResponse) :
    ∃ exc, handler.handle response = .error exc := by
  cases handler.handle response with
  | error exc => exact ⟨exc, rfl⟩
  | ok never => cases never

section

variable {handlers : StatusHandlers} {response : HttpResponse}

theorem raiseForStatus_of_handler {handler : StatusHandler} {exc : PyError}
    (found : handlers response.status = some handler)
    (raised : handler.handle response = .error exc) :
    raiseForStatus handlers response = .error exc := by
  unfold raiseForStatus
  simp only [found, raised]
  rfl

theorem raiseForStatus_of_none (absent : handlers response.status = none) :
    raiseForStatus handlers response =
      if response.Successful then .ok ()
      else raiseFromResponse .invalidBotXStatusCode response none := by
  unfold raiseForStatus
  simp only [absent]
  rfl

theorem raiseForStatus_eq_ok_iff :
    raiseForStatus handlers response = .ok () ↔
      handlers response.status = none ∧ response.Successful := by
  cases found : handlers response.status with
  | some handler =>
      obtain ⟨exc, raised⟩ := handler.handle_eq_error response
      rw [raiseForStatus_of_handler found raised]
      simp
  | none =>
      rw [raiseForStatus_of_none found]
      by_cases successful : response.Successful
      · simp [successful]
      · simp [successful, raiseFromResponse_ne_ok]

theorem raiseForStatus_quiet (content : List UInt8) (complete : response.data = .ok content) :
    Result.Quiet (raiseForStatus handlers response) := by
  cases found : handlers response.status with
  | some handler =>
      obtain ⟨exc, raised⟩ := handler.handle_eq_error response
      have quiet := handler.quiet response content complete
      rw [raised] at quiet
      rw [raiseForStatus_of_handler found raised]
      exact (Result.raises_error_iff _ _).mpr ((Result.raises_error_iff _ _).mp quiet)
  | none =>
      rw [raiseForStatus_of_none found]
      by_cases successful : response.Successful
      · rw [if_pos successful]
        exact Result.raises_ok _ ()
      · rw [if_neg successful]
        exact (raiseFromResponse_contained _ _ _ content complete).quiet

/-- A body that cannot be read lets its failure out on every path that raises. -/
theorem raiseForStatus_of_failure (failure : PyError) (broken : response.data = .error failure)
    (rejected : raiseForStatus handlers response ≠ .ok ()) :
    raiseForStatus handlers response = .error failure := by
  cases found : handlers response.status with
  | some handler =>
      exact raiseForStatus_of_handler found (handler.readsFirst response failure broken)
  | none =>
      have failed : ¬ response.Successful := by
        intro successful
        exact rejected (raiseForStatus_eq_ok_iff.mpr ⟨found, successful⟩)
      rw [raiseForStatus_of_none found, if_neg failed]
      exact raiseFromResponse_of_failure _ _ _ failure broken

end

/-! ### Models -/

/-- The body is read inside the `try`, but only a `JSONDecodeError` is caught there. -/
def verifyAndExtractApiModel {Model : Type} (python : Interpreter)
    (check : Scalars.Check Model) (response : HttpResponse) : Result Model :=
  match loadsData python response with
  | .error .jsonDecodeError => raiseFromResponse .invalidBotXResponsePayload response none
  | .error exc => throw exc
  | .ok raw =>
      match check raw with
      | .valid model => return model
      | .invalid => raiseFromResponse .invalidBotXResponsePayload response none
      | .raised exc => throw exc

def DecodingError.extracted {Model : Type} (response : HttpResponse) : DecodingError → Result Model
  | jsonDecode => raiseFromResponse .invalidBotXResponsePayload response none
  | failure => .error failure.exc

section

variable {Model : Type} (python : Interpreter) (check : Scalars.Check Model)
  (response : HttpResponse) (content : List UInt8) (complete : response.data = .ok content)

include complete

theorem verifyAndExtractApiModel_of_decoded (raw : Json)
    (decoded : python.loads content = .ok raw) :
    verifyAndExtractApiModel python check response =
      match check raw with
      | .valid model => .ok model
      | .invalid => raiseFromResponse .invalidBotXResponsePayload response none
      | .raised exc => .error exc := by
  unfold verifyAndExtractApiModel
  rw [loadsData_of_data python response content complete, decoded]
  rfl

theorem verifyAndExtractApiModel_of_undecoded (failure : DecodingError)
    (undecoded : python.loads content = .error failure) :
    verifyAndExtractApiModel python check response = failure.extracted response := by
  unfold verifyAndExtractApiModel
  rw [loadsData_of_data python response content complete, undecoded]
  cases failure <;> rfl

theorem verifyAndExtractApiModel_eq_ok_iff (model : Model) :
    verifyAndExtractApiModel python check response = .ok model ↔
      ∃ raw, python.loads content = .ok raw ∧ check raw = .valid model := by
  cases decoded : python.loads content with
  | error failure =>
      rw [verifyAndExtractApiModel_of_undecoded python check response content complete failure
        decoded]
      cases failure <;> simp [DecodingError.extracted, raiseFromResponse_ne_ok]
  | ok raw =>
      rw [verifyAndExtractApiModel_of_decoded python check response content complete raw decoded]
      cases checked : check raw <;> simp [checked, raiseFromResponse_ne_ok]

theorem verifyAndExtractApiModel_quiet
    (quiet : ∀ raw exc, check raw = .raised exc → (!exc.isHttpError) = true) :
    Result.Quiet (verifyAndExtractApiModel python check response) := by
  cases decoded : python.loads content with
  | error failure =>
      rw [verifyAndExtractApiModel_of_undecoded python check response content complete failure
        decoded]
      cases failure with
      | jsonDecode => exact (raiseFromResponse_contained _ _ _ content complete).quiet
      | _ => exact (Result.raises_error_iff _ _).mpr rfl
  | ok raw =>
      rw [verifyAndExtractApiModel_of_decoded python check response content complete raw decoded]
      cases checked : check raw with
      | valid model => exact Result.raises_ok _ model
      | invalid => exact (raiseFromResponse_contained _ _ _ content complete).quiet
      | raised exc => exact (Result.raises_error_iff _ _).mpr (quiet raw exc checked)

end

end Pybotx
