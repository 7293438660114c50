/-
The log line of an incoming command.

`trim_file_data_in_incoming_json` binds `json_body` to a copy before it assigns into it.
Its run therefore works on two values: the argument, and the copy once there is one.
-/

import Pybotx.Bot.Resources
import Pybotx.Client.Responses
import Pybotx.Foundation.JsonPath
import Pybotx.Foundation.Returning
import Pybotx.Foundation.Stateful

set_option autoImplicit false

namespace Pybotx

open Returning

/-- `copy.deepcopy`: an equal value that shares nothing with the other one, if the value is
not nested too deeply for the interpreter. -/
structure Deepcopy where
  call : Json → Result Json
  equal : ∀ value copied, call value = .ok copied → copied = value

structure Bodies where
  argument : Json
  copied : Option Json

def Bodies.jsonBody (bodies : Bodies) : Json :=
  bodies.copied.getD bodies.argument

abbrev Trimming (α : Type) := ExceptT PyError (StateM Bodies) α

def jsonBody : Trimming Json := fun bodies => (.ok bodies.jsonBody, bodies)

def bindJsonBody (copied : Json) : Trimming Unit := fun bodies =>
  (.ok (), { bodies with copied := some copied })

def changeJsonBody (change : Json → Json) : Trimming Unit := fun bodies =>
  match bodies.copied with
  | some copied => (.ok (), { bodies with copied := some (change copied) })
  | none => (.ok (), { bodies with argument := change bodies.argument })

def subscript (key : String) : Json → Result Json
  | .obj fields =>
      match Dict.get key fields with
      | some value => .ok value
      | none => .error .keyError
  | _ => .error .typeError

def firstItem : Json → Result Json
  | .arr (item :: _) => .ok item
  | .arr [] => .error .indexError
  | .str text =>
      match text.toList with
      | symbol :: _ => .ok (.str (String.singleton symbol))
      | [] => .error .indexError
  -- the keys of a dictionary are strings
  | .obj _ => .error .keyError
  | _ => .error .typeError

def sliceTo (stop : Nat) : Json → Result Json
  | .str text => .ok (.str (String.ofList (text.toList.take stop)))
  | .arr items => .ok (.arr (items.take stop))
  -- a slice is no key of a dictionary; the error is `KeyError` where slices can be hashed
  | _ => .error .typeError

def addText (text : String) : Json → Result Json
  | .str other => .ok (.str (other ++ text))
  | _ => .error .typeError

/-- `value[key] = item` for a value that holds one already. -/
def setItem (key : String) (item : Json) : Json → Json :=
  Json.modifyAt [.key key] fun _ => item

def attachmentData (value : Json) : Result Json := do
  let attachments ← subscript "attachments" value
  let attachment ← firstItem attachments
  subscript "data" attachment

def attachmentDataPath : List Json.Step := [.key "attachments", .index 0, .key "data"]

def maxFileLenInLogs : Nat := 64

def trimMarker : String := "...<trimmed>"

def trimFileDataInIncomingJson (deepcopy : Deepcopy) : Trimming Json := do
  let attachments ← getItem "attachments" (← jsonBody)
  if attachments.truthy then
    let data ← attachmentData (← jsonBody)
    let content ← getItem "content" data
    if content.truthy then
      let copied ← deepcopy.call (← jsonBody)
      bindJsonBody copied
      let data ← attachmentData (← jsonBody)
      let content ← subscript "content" data
      let start ← sliceTo maxFileLenInLogs content
      let trimmed ← addText trimMarker start
      changeJsonBody (Json.modifyAt attachmentDataPath (setItem "content" trimmed))
  jsonBody

def trimIncoming (deepcopy : Deepcopy) (body : Json) : Result Json × Json :=
  let run := trimFileDataInIncomingJson deepcopy ⟨body, none⟩
  (run.1, run.2.argument)

/-- The part of `_parse_command` up to the verification, then the rest.  The line is lazy:
nothing is computed unless commands are logged and somebody listens.  `format` is
`pformat_jsonable_obj`. -/
def CommandResource.parseLogged {Handler : Type} (resource : CommandResource Handler)
    (listening : Bool) (deepcopy : Deepcopy) (format : Json → Result String) (jwt : PyJWT)
    (now : Int) (scalars : Scalars) (rawCommand : Json) (headers : List (String × String)) :
    Result BotCommand :=
  if listening then
    match trimIncoming deepcopy rawCommand with
    | (.error exc, _) => .error exc
    | (.ok logged, rawCommand) => do
        let _ ← format logged
        resource.parseCommand jwt now scalars rawCommand headers
  else resource.parseCommand jwt now scalars rawCommand headers

def trimmedCopy (deepcopy : Deepcopy) (body : Json) : Result Json := do
  let copied ← deepcopy.call body
  let data ← attachmentData copied
  let content ← subscript "content" data
  let start ← sliceTo maxFileLenInLogs content
  let trimmed ← addText trimMarker start
  return copied.modifyAt attachmentDataPath (setItem "content" trimmed)

def loggedBody (deepcopy : Deepcopy) (body : Json) : Result Json := do
  let attachments ← getItem "attachments" body
  if attachments.truthy then
    let data ← attachmentData body
    let content ← getItem "content" data
    if content.truthy then trimmedCopy deepcopy body else return body
  else return body

/-- Everything is computed from the argument, and the argument stays as it is. -/
theorem trimIncoming_eq (deepcopy : Deepcopy) (body : Json) :
    trimIncoming deepcopy body = (loggedBody deepcopy body, body) := by
  have mirrors : Stateful.Mirrors (fun bodies : Bodies => bodies.argument = body) ⟨body, none⟩
      (trimFileDataInIncomingJson deepcopy) (loggedBody deepcopy body) := by
    refine .step rfl (.lift _ rfl fun attachments => .ite _ ?_ (.of_run rfl rfl))
    refine .step rfl (.lift _ rfl fun data => ?_)
    refine .lift _ rfl fun content => .ite _ ?_ (.of_run rfl rfl)
    refine .step rfl (.lift _ rfl fun copied => .step rfl ?_)
    -- from here on `json_body` is the copy
    refine .step rfl (.lift _ rfl fun data => .lift _ rfl fun content => ?_)
    refine .lift _ rfl fun start => .lift _ rfl fun trimmed => ?_
    exact .step rfl (.of_run rfl rfl)
  exact Prod.ext mirrors.same mirrors.keeps

theorem subscript_eq_ok_iff (key : String) (value item : Json) :
    subscript key value = .ok item ↔ value.child (.key key) = some item := by
  cases value with
  | obj fields =>
      change (match Dict.get key fields with | some found => _ | none => _) = _ ↔
        Dict.get key fields = some item
      cases Dict.get key fields <;> simp
  | _ => simp [subscript, Json.child]

theorem child_of_not_truthy (step : Json.Step) (value : Json) (falsy : value.truthy = false) :
    value.child step = none := by
  cases value with
  | arr items =>
      cases items with
      | nil => cases step <;> rfl
      | cons item items => cases falsy
  | obj fields =>
      cases fields with
      | nil => cases step <;> rfl
      | cons field fields => cases falsy
  | _ => cases step <;> rfl

/-- A character of a string has no `data` either. -/
theorem attachmentData_eq_ok_iff (body data : Json) :
    attachmentData body = .ok data ↔ body.valueAt attachmentDataPath = some data := by
  have found (value : Json) : (firstItem value >>= subscript "data") = .ok data ↔
      (value.child (.index 0)).bind (Json.valueAt [.key "data"]) = some data := by
    cases value with
    | arr items =>
        cases items with
        | nil => simp [firstItem, Json.child, bind, Except.bind]
        | cons item items =>
            change subscript "data" item = _ ↔ (item.child (.key "data")).bind some = _
            rw [subscript_eq_ok_iff, Option.bind_fun_some]
    | str text =>
        cases symbols : text.toList <;>
          simp [firstItem, symbols, subscript, Json.child, bind, Except.bind]
    | _ => simp [firstItem, Json.child, bind, Except.bind]
  change (subscript "attachments" body >>= fun attachments =>
    firstItem attachments >>= subscript "data") = _ ↔
      (body.child (.key "attachments")).bind (Json.valueAt [.index 0, .key "data"]) = _
  rw [Result.bind_eq_ok, Option.bind_eq_some_iff]
  simp only [subscript_eq_ok_iff, found]
  rfl

/-! ### Which bodies are logged without harm -/

def contentPath : List Json.Step := attachmentDataPath ++ [.key "content"]

def trimContent : Json → Json
  | .str text =>
      if text = "" then .str text
      else .str (String.ofList (text.toList.take maxFileLenInLogs) ++ trimMarker)
  | other => other

/-- The line shows the body with its content trimmed, and the body stays as it is. -/
structure LoggedHarmlessly (deepcopy : Deepcopy) (body : Json) : Prop where
  logged : (trimIncoming deepcopy body).1 = .ok (body.modifyAt contentPath trimContent)
  kept : (trimIncoming deepcopy body).2 = body

/-- Attachments that are there begin with an object whose `data` is an object.  A content
that is there is a string, and the body can be copied. -/
def Loggable (deepcopy : Deepcopy) (rawCommand : List (String × Json)) : Prop :=
  ∀ attachments, Dict.get "attachments" rawCommand = some attachments →
    attachments.truthy = true →
      ∃ data, Json.valueAt [.index 0, .key "data"] attachments = some (.obj data) ∧
        ∀ content, Dict.get "content" data = some content → content.truthy = true →
          (∃ text, content = .str text) ∧ Returns (deepcopy.call (.obj rawCommand))

theorem trimContent_of_not_truthy (content : Json) (falsy : content.truthy = false) :
    trimContent content = content := by
  cases content with
  | str text =>
      have empty : text = "" := by simpa [Json.truthy] using falsy
      rw [trimContent, if_pos empty]
  | _ => rfl

theorem trimmed_content (body : Json) :
    (body.modifyAt contentPath trimContent).valueAt contentPath =
      (body.valueAt contentPath).map trimContent :=
  Json.valueAt_modifyAt_self contentPath trimContent body

/-- Anywhere but in the content, and in what it lies in, the line shows what was received. -/
theorem trimmed_elsewhere (path : List Json.Step) (body : Json) (notAbove : ¬ path <+: contentPath)
    (notBelow : ¬ contentPath <+: path) :
    (body.modifyAt contentPath trimContent).valueAt path = body.valueAt path :=
  Json.valueAt_modifyAt_of_apart contentPath path trimContent body notAbove notBelow

section

variable {deepcopy : Deepcopy} {body : Json} {data : List (String × Json)}

theorem modifyAt_content (there : body.valueAt attachmentDataPath = some (.obj data))
    {text : String} (found : Dict.get "content" data = some (.str text)) (filled : text ≠ "") :
    body.modifyAt attachmentDataPath (setItem "content"
        (.str (String.ofList (text.toList.take maxFileLenInLogs) ++ trimMarker))) =
      body.modifyAt contentPath trimContent := by
  unfold contentPath setItem
  rw [Json.modifyAt_append]
  apply Json.modifyAt_congr
  intro inner here
  rw [there] at here
  cases here
  apply Json.modifyAt_congr
  intro content here
  change (Dict.get "content" data).bind some = some content at here
  rw [found] at here
  cases here
  rw [trimContent, if_neg filled]

theorem modifyAt_of_no_content (there : body.valueAt attachmentDataPath = some (.obj data))
    (falsy : ((Dict.get "content" data).getD .null).truthy = false) :
    body.modifyAt contentPath trimContent = body := by
  apply Json.modifyAt_of_fixed
  intro content here
  rw [contentPath, Json.valueAt_append, there] at here
  change (Dict.get "content" data).bind some = some content at here
  rw [Option.bind_fun_some] at here
  rw [here] at falsy
  exact trimContent_of_not_truthy content falsy

theorem trimmedCopy_of_string (there : body.valueAt attachmentDataPath = some (.obj data))
    {text : String} (found : Dict.get "content" data = some (.str text)) (filled : text ≠ "")
    (copies : Returns (deepcopy.call body)) :
    trimmedCopy deepcopy body = .ok (body.modifyAt contentPath trimContent) := by
  obtain ⟨copied, copies⟩ := copies
  have same := deepcopy.equal body copied copies
  have read := (attachmentData_eq_ok_iff body (.obj data)).mpr there
  have content := (subscript_eq_ok_iff "content" (.obj data) (.str text)).mpr found
  rw [trimmedCopy, copies, same, ← modifyAt_content there found filled]
  change (attachmentData body >>= _) = _
  rw [read]
  change (subscript "content" (.obj data) >>= _) = _
  rw [content]
  rfl

theorem trimmedCopy_returns (there : body.valueAt attachmentDataPath = some (.obj data))
    {content : Json} (found : Dict.get "content" data = some content)
    (returned : Returns (trimmedCopy deepcopy body)) :
    (∃ text, content = .str text) ∧ Returns (deepcopy.call body) := by
  rw [trimmedCopy, returns_bind_iff] at returned
  obtain ⟨copied, copies, later⟩ := returned
  refine ⟨?_, copied, copies⟩
  have same := deepcopy.equal body copied copies
  have read := (attachmentData_eq_ok_iff body (.obj data)).mpr there
  have known := (subscript_eq_ok_iff "content" (.obj data) content).mpr found
  rw [same, returns_bind_iff] at later
  obtain ⟨other, here, later⟩ := later
  rw [read] at here
  cases here
  rw [returns_bind_iff] at later
  obtain ⟨other, here, later⟩ := later
  rw [known] at here
  cases here
  rw [returns_bind_iff] at later
  obtain ⟨start, sliced, later⟩ := later
  rw [returns_bind_iff] at later
  obtain ⟨trimmed, marked, _⟩ := later
  cases content with
  | str text => exact ⟨text, rfl⟩
  | arr items =>
      cases sliced
      cases marked
  | _ => cases sliced

end

section

variable (deepcopy : Deepcopy) (rawCommand : List (String × Json))

theorem loggedBody_of_loggable (loggable : Loggable deepcopy rawCommand) :
    loggedBody deepcopy (.obj rawCommand) =
      .ok ((Json.obj rawCommand).modifyAt contentPath trimContent) := by
  change (if ((Dict.get "attachments" rawCommand).getD .null).truthy then _ else _) = _
  cases given : ((Dict.get "attachments" rawCommand).getD .null).truthy with
  | false =>
      rw [if_neg Bool.false_ne_true]
      refine congrArg Except.ok (Json.modifyAt_of_fixed _ _ _ ?_).symm
      intro content here
      change ((Dict.get "attachments" rawCommand).bind (Json.valueAt _)) = _ at here
      obtain ⟨attachments, found, here⟩ := Option.bind_eq_some_iff.mp here
      rw [found, Option.getD_some] at given
      change (attachments.child (.index 0)).bind _ = _ at here
      rw [child_of_not_truthy _ _ given] at here
      cases here
  | true =>
      rw [if_pos rfl]
      cases found : Dict.get "attachments" rawCommand with
      | none =>
          rw [found] at given
          cases given
      | some attachments =>
          rw [found, Option.getD_some] at given
          obtain ⟨data, there, contents⟩ := loggable attachments found given
          have reaches : (Json.obj rawCommand).valueAt attachmentDataPath = some (.obj data) := by
            change (Dict.get "attachments" rawCommand).bind _ = _
            rw [found]
            exact there
          rw [(attachmentData_eq_ok_iff _ _).mpr reaches]
          change (if ((Dict.get "content" data).getD .null).truthy then _ else _) = _
          cases filled : ((Dict.get "content" data).getD .null).truthy with
          | false =>
              rw [if_neg Bool.false_ne_true, modifyAt_of_no_content reaches filled]
              rfl
          | true =>
              rw [if_pos rfl]
              cases known : Dict.get "content" data with
              | none =>
                  rw [known] at filled
                  cases filled
              | some content =>
                  rw [known, Option.getD_some] at filled
                  obtain ⟨⟨text, same⟩, copies⟩ := contents content known filled
                  subst same
                  have nonempty : text ≠ "" := by simpa [Json.truthy] using filled
                  exact trimmedCopy_of_string reaches known nonempty copies

theorem loggable_of_returns (returned : Returns (loggedBody deepcopy (.obj rawCommand))) :
    Loggable deepcopy rawCommand := by
  intro attachments found given
  change Returns (if ((Dict.get "attachments" rawCommand).getD .null).truthy then _ else _)
    at returned
  rw [found, Option.getD_some, if_pos given, returns_bind_iff] at returned
  obtain ⟨value, read, returned⟩ := returned
  have reaches := (attachmentData_eq_ok_iff _ _).mp read
  have there := reaches
  change (Dict.get "attachments" rawCommand).bind _ = _ at there
  rw [found, Option.bind_some] at there
  cases value with
  | obj data =>
      refine ⟨data, there, ?_⟩
      intro content known filled
      change Returns (if ((Dict.get "content" data).getD .null).truthy then _ else _) at returned
      rw [known, Option.getD_some, if_pos filled] at returned
      exact trimmedCopy_returns reaches known returned
  | _ => exact absurd returned (not_returns_error _)

/-- The line is harmless for the bodies that look as a command should, and for no others. -/
theorem trimIncoming_harmless_iff :
    LoggedHarmlessly deepcopy (.obj rawCommand) ↔ Loggable deepcopy rawCommand := by
  constructor
  · intro harmless
    have logged := harmless.logged
    rw [trimIncoming_eq] at logged
    exact loggable_of_returns deepcopy rawCommand ⟨_, logged⟩
  · intro loggable
    constructor
    · rw [trimIncoming_eq]
      exact loggedBody_of_loggable deepcopy rawCommand loggable
    · rw [trimIncoming_eq]

end

def demoDeepcopy : Deepcopy where
  call := .ok
  equal := by
    intro value copied same
    cases same
    rfl

example : Loggable demoDeepcopy [("attachments", .arr [.obj [("type", .str "location"),
    ("data", .obj [("location_lat", .int 1)])]])] := by
  intro attachments found _
  cases found
  refine ⟨_, rfl, ?_⟩
  intro content none
  cases none

/-- `{"attachments": [null]}` -/
theorem nullAttachment_raises :
    ¬ LoggedHarmlessly demoDeepcopy (.obj [("attachments", .arr [.null])]) := by
  intro harmless
  have logged := harmless.logged
  cases logged

section

variable {Handler : Type} (resource : CommandResource Handler) (deepcopy : Deepcopy)
  (format : Json → Result String) (jwt : PyJWT) (now : Int) (scalars : Scalars)
  (headers : List (String × String))

/-- What is logged without harm is parsed as if it had not been logged. -/
theorem parseLogged_of_loggable (listening : Bool) {rawCommand : List (String × Json)}
    (loggable : Loggable deepcopy rawCommand) (formats : ∀ value, Returns (format value)) :
    resource.parseLogged listening deepcopy format jwt now scalars (.obj rawCommand) headers =
      resource.parseCommand jwt now scalars (.obj rawCommand) headers := by
  unfold CommandResource.parseLogged
  rw [trimIncoming_eq, loggedBody_of_loggable deepcopy rawCommand loggable]
  cases listening with
  | false => rfl
  | true =>
      obtain ⟨line, formatted⟩ := formats ((Json.obj rawCommand).modifyAt contentPath trimContent)
      rw [if_pos rfl]
      simp only [formatted]
      rfl

/-- Any other is answered with the exception of the line, whatever the headers say. -/
theorem parseLogged_of_not_loggable {rawCommand : List (String × Json)}
    (harmful : ¬ Loggable deepcopy rawCommand) :
    ∃ exc, ∀ headers, resource.parseLogged true deepcopy format jwt now scalars
      (.obj rawCommand) headers = .error exc := by
  cases logged : loggedBody deepcopy (.obj rawCommand) with
  | ok body => exact absurd (loggable_of_returns deepcopy rawCommand ⟨body, logged⟩) harmful
  | error exc =>
      refine ⟨exc, ?_⟩
      intro headers
      unfold CommandResource.parseLogged
      rw [trimIncoming_eq, logged, if_pos rfl]

end

end Pybotx
