/-
The log line of an outgoing request.

The line of a body shows the start of the file's data.  It is made from a copy, and the body
that was given is the one that is sent afterwards.
-/

import Pybotx.Bot.CommandLogging
import Pybotx.Client.MessageReading
import Pybotx.Client.Requests

set_option autoImplicit false

namespace Pybotx

open Returning

def trimFileDataInOutgoingJson (deepcopy : Deepcopy) : Trimming Json := do
  match ← jsonBody with
  | .obj fields =>
      let file ← getItem "file" (.obj fields)
      if file.truthy then
        let copied ← deepcopy.call (← jsonBody)
        bindJsonBody copied
        let file ← subscript "file" (← jsonBody)
        let data ← subscript "data" file
        let start ← sliceTo maxFileLenInLogs data
        let trimmed ← addText trimMarker start
        changeJsonBody (Json.modifyAt [.key "file"] (setItem "data" trimmed))
      jsonBody
  | other => return other

def trimOutgoing (deepcopy : Deepcopy) (body : Json) : Result Json × Json :=
  let run := trimFileDataInOutgoingJson deepcopy ⟨body, none⟩
  (run.1, run.2.argument)

/-- The line is lazy, and everything in it is computed if somebody listens.  `format` is
`pformat_jsonable_obj`. -/
def logOutgoingRequest (listening : Bool) (deepcopy : Deepcopy) (format : Json → Result String)
    (payload : Payload) : Result Unit × Payload :=
  if listening then
    match format (if payload.params.isEmpty then .null else .obj payload.params) with
    | .error exc => (.error exc, payload)
    | .ok _ =>
        match payload.content with
        | .json body =>
            match trimOutgoing deepcopy body with
            | (.error exc, body) => (.error exc, { payload with content := .json body })
            | (.ok line, body) =>
                (format line >>= fun _ => .ok (), { payload with content := .json body })
        | _ => (format .null >>= fun _ => .ok (), payload)
  else (.ok (), payload)

/-- `execute`, with the line between the headers and the request. -/
def BotXMethod.executeLogged (method : BotXMethod) (listening : Bool) (deepcopy : Deepcopy)
    (format : Json → Result String) (env : Environment) (payload : Payload) (session : Session) :
    Result method.Answer × Session :=
  match method.prepare env payload session.storage with
  | .error exc => (.error exc, session)
  | .ok (_, authorized) =>
      match logOutgoingRequest listening deepcopy format payload with
      | (.error exc, _) => (.error exc, { session with storage := authorized })
      | (.ok (), payload) => method.execute env payload session

def outgoingLine (deepcopy : Deepcopy) (body : Json) : Result Json :=
  match body with
  | .obj fields => do
      let file ← getItem "file" (.obj fields)
      if file.truthy then
        let copied ← deepcopy.call body
        let file ← subscript "file" copied
        let data ← subscript "data" file
        let start ← sliceTo maxFileLenInLogs data
        let trimmed ← addText trimMarker start
        return copied.modifyAt [.key "file"] (setItem "data" trimmed)
      else return body
  | other => return other

theorem trimOutgoing_eq (deepcopy : Deepcopy) (body : Json) :
    trimOutgoing deepcopy body = (outgoingLine deepcopy body, body) := by
  have mirrors : Stateful.Mirrors (fun bodies : Bodies => bodies.argument = body) ⟨body, none⟩
      (trimFileDataInOutgoingJson deepcopy) (outgoingLine deepcopy body) := by
    refine .step rfl ?_
    cases body with
    | obj fields =>
        refine .lift _ rfl fun file => .ite _ ?_ (.of_run rfl rfl)
        refine .step rfl (.lift _ rfl fun copied => .step rfl ?_)
        -- from here on `json_body` is the copy
        refine .step rfl (.lift _ rfl fun file => .lift _ rfl fun data => ?_)
        refine .lift _ rfl fun start => .lift _ rfl fun trimmed => ?_
        exact .step rfl (.of_run rfl rfl)
    | _ => exact .of_run rfl rfl
  exact Prod.ext mirrors.same mirrors.keeps

def fileDataPath : List Json.Step := [.key "file", .key "data"]

/-- What the log shows in the place of the data. -/
def trimData : Json → Json
  | .str text => .str (String.ofList (text.toList.take maxFileLenInLogs) ++ trimMarker)
  | other => other

/-- A file that is there is an object with a string for its data, and the body can be copied. -/
def FileLoggable (deepcopy : Deepcopy) (fields : List (String × Json)) : Prop :=
  ∀ file, Dict.get "file" fields = some file → file.truthy = true →
    (∃ entries text, file = .obj entries ∧ Dict.get "data" entries = some (.str text)) ∧
      Returns (deepcopy.call (.obj fields))

section

variable {deepcopy : Deepcopy} {fields : List (String × Json)}

theorem outgoingLine_of_loggable (loggable : FileLoggable deepcopy fields) :
    outgoingLine deepcopy (.obj fields) =
      .ok ((Json.obj fields).modifyAt fileDataPath trimData) := by
  change (if ((Dict.get "file" fields).getD .null).truthy then _ else _) = _
  cases given : ((Dict.get "file" fields).getD .null).truthy with
  | false =>
      rw [if_neg Bool.false_ne_true]
      refine congrArg Except.ok (Json.modifyAt_of_fixed _ _ _ ?_).symm
      intro data here
      change ((Dict.get "file" fields).bind (Json.valueAt _)) = _ at here
      obtain ⟨file, found, here⟩ := Option.bind_eq_some_iff.mp here
      rw [found, Option.getD_some] at given
      change (file.child (.key "data")).bind _ = _ at here
      rw [child_of_not_truthy _ _ given] at here
      cases here
  | true =>
      rw [if_pos rfl]
      cases found : Dict.get "file" fields with
      | none =>
          rw [found] at given
          cases given
      | some file =>
          rw [found, Option.getD_some] at given
          obtain ⟨⟨entries, text, rfl, known⟩, copied, copies⟩ := loggable file found given
          have same := deepcopy.equal _ copied copies
          rw [copies]
          change (subscript "file" copied >>= _) = _
          rw [same, (subscript_eq_ok_iff "file" (.obj fields) (.obj entries)).mpr found]
          change (subscript "data" (.obj entries) >>= _) = _
          rw [(subscript_eq_ok_iff "data" (.obj entries) (.str text)).mpr known]
          refine congrArg Except.ok ?_
          change Json.modifyAt [.key "file"] _ _ =
            Json.modifyAt ([.key "file"] ++ [.key "data"]) _ _
          rw [Json.modifyAt_append]
          apply Json.modifyAt_congr
          intro inner here
          change (Dict.get "file" fields).bind some = some inner at here
          rw [found] at here
          cases here
          apply Json.modifyAt_congr
          intro data here
          change (Dict.get "data" entries).bind some = some data at here
          rw [known] at here
          cases here
          rfl

theorem loggable_of_outgoingLine (returned : Returns (outgoingLine deepcopy (.obj fields))) :
    FileLoggable deepcopy fields := by
  intro file found given
  change Returns (if ((Dict.get "file" fields).getD .null).truthy then _ else _) at returned
  rw [found, Option.getD_some, if_pos given, returns_bind_iff] at returned
  obtain ⟨copied, copies, returned⟩ := returned
  have same := deepcopy.equal _ copied copies
  subst same
  rw [returns_bind_iff] at returned
  obtain ⟨other, read, returned⟩ := returned
  have here := (subscript_eq_ok_iff "file" (.obj fields) other).mp read
  change Dict.get "file" fields = some other at here
  rw [found] at here
  cases here
  rw [returns_bind_iff] at returned
  obtain ⟨data, read, returned⟩ := returned
  rw [returns_bind_iff] at returned
  obtain ⟨start, sliced, returned⟩ := returned
  rw [returns_bind_iff] at returned
  obtain ⟨trimmed, marked, _⟩ := returned
  refine ⟨?_, _, copies⟩
  have known := (subscript_eq_ok_iff "data" file data).mp read
  cases file with
  | obj entries =>
      cases data with
      | str text => exact ⟨entries, text, rfl, known⟩
      | arr items =>
          cases sliced
          cases marked
      | _ => cases sliced
  | _ => cases known

/-- The line raises for no other bodies. -/
theorem trimOutgoing_returns_iff :
    Returns (trimOutgoing deepcopy (.obj fields)).1 ↔ FileLoggable deepcopy fields := by
  rw [trimOutgoing_eq]
  constructor
  · exact loggable_of_outgoingLine
  · intro loggable
    exact ⟨_, outgoingLine_of_loggable loggable⟩

end

/-! ### Outgoing messages -/

def FileOrNull (file : Option Json) : Prop :=
  ∀ value, file = some value → value = .null ∨ ∃ attachment, value = attachmentJson attachment

theorem fileOrNull_of_attachment (file : Missing FileAttachment) :
    FileOrNull (file.toOption.map attachmentJson) := by
  intro value present
  obtain ⟨attachment, _, rfl⟩ := Option.map_eq_some_iff.mp present
  exact Or.inr ⟨attachment, rfl⟩

theorem fields_of_renders {leaves : List (List String × Option Json)} {json : Json}
    {key : String} {value : Json} (file : Option Json) (renders : Sparse.Renders leaves json)
    (required : ([key], some value) ∈ leaves) (given : (["file"], file) ∈ leaves) :
    ∃ fields, json = .obj fields ∧ Dict.get "file" fields = file := by
  have present := renders.placed _ required
  have placed := renders.placed _ given
  cases json with
  | obj fields =>
      refine ⟨fields, rfl, ?_⟩
      change (Dict.get "file" fields).bind some = file at placed
      rw [Option.bind_fun_some] at placed
      exact placed
  | _ => cases present

theorem OutgoingMessage.body_fields {ids : Nat → UUID} {message : OutgoingMessage} {json : Json}
    (made : message.body ids = .ok (some json)) :
    ∃ fields, json = .obj fields ∧ FileOrNull (Dict.get "file" fields) := by
  have renders := OutgoingMessage.body_renders made
  cases message with
  | notification args =>
      obtain ⟨body, mentions, _, renders⟩ := renders
      obtain ⟨fields, rfl, given⟩ := fields_of_renders (args.file.toOption.map attachmentJson)
        renders List.mem_cons_self (by simp [directNotificationLeaves])
      exact ⟨fields, rfl, given ▸ fileOrNull_of_attachment args.file⟩
  | reply args =>
      obtain ⟨body, mentions, _, renders⟩ := renders
      obtain ⟨fields, rfl, given⟩ := fields_of_renders (args.file.toOption.map attachmentJson)
        renders List.mem_cons_self (by simp [replyEventLeaves])
      exact ⟨fields, rfl, given ▸ fileOrNull_of_attachment args.file⟩
  | edit args =>
      obtain ⟨replaced, _, renders⟩ := renders
      obtain ⟨fields, rfl, given⟩ := fields_of_renders
        (args.file.toOption.map fun file => file.elim .null attachmentJson) renders
        List.mem_cons_self (by simp [editEventLeaves])
      refine ⟨fields, rfl, ?_⟩
      rw [given]
      intro value present
      obtain ⟨file, _, rfl⟩ := Option.map_eq_some_iff.mp present
      cases file with
      | none => exact Or.inl rfl
      | some attachment => exact Or.inr ⟨attachment, rfl⟩

theorem fileLoggable_of_fileOrNull {deepcopy : Deepcopy} {fields : List (String × Json)}
    (file : FileOrNull (Dict.get "file" fields)) (copies : Returns (deepcopy.call (.obj fields))) :
    FileLoggable deepcopy fields := by
  intro value found given
  cases file value found with
  | inl null =>
      subst null
      cases given
  | inr attachment =>
      obtain ⟨attachment, rfl⟩ := attachment
      exact ⟨⟨_, _, rfl, rfl⟩, copies⟩

/-- The line of the body shows the data trimmed, and the call goes on with the body as if nobody
had listened. -/
structure LoggedAndSent (body : Json) : Prop where
  logged : ∀ deepcopy : Deepcopy, Returns (deepcopy.call body) →
    trimOutgoing deepcopy body = (.ok (body.modifyAt fileDataPath trimData), body)
  sent : ∀ (method : BotXMethod) (listening : Bool) (deepcopy : Deepcopy)
      (format : Json → Result String) (env : Environment) (params : List (String × Json))
      (session : Session), Returns (deepcopy.call body) → (∀ value, Returns (format value)) →
    method.executeLogged listening deepcopy format env ⟨params, .json body⟩ session =
      method.execute env ⟨params, .json body⟩ session

theorem executeLogged_of_logged {method : BotXMethod} {listening : Bool} {deepcopy : Deepcopy}
    {format : Json → Result String} {env : Environment} {payload : Payload} {session : Session}
    (logged : logOutgoingRequest listening deepcopy format payload = (.ok (), payload)) :
    method.executeLogged listening deepcopy format env payload session =
      method.execute env payload session := by
  unfold BotXMethod.executeLogged
  rw [logged]
  cases prepared : method.prepare env payload session.storage with
  | error exc =>
      unfold BotXMethod.execute
      rw [prepared]
  | ok result => rfl

/-- Every message is logged without harm. -/
theorem outgoingMessages_loggedAndSent (ids : Nat → UUID) (message : OutgoingMessage) (body : Json)
    (made : message.body ids = .ok (some body)) : LoggedAndSent body := by
  obtain ⟨fields, rfl, file⟩ := OutgoingMessage.body_fields made
  have trimmed : ∀ deepcopy : Deepcopy, Returns (deepcopy.call (.obj fields)) →
      trimOutgoing deepcopy (.obj fields) =
        (.ok ((Json.obj fields).modifyAt fileDataPath trimData), .obj fields) := by
    intro deepcopy copies
    rw [trimOutgoing_eq, outgoingLine_of_loggable (fileLoggable_of_fileOrNull file copies)]
  refine ⟨trimmed, ?_⟩
  intro method listening deepcopy format env params session copies formats
  apply executeLogged_of_logged
  unfold logOutgoingRequest
  cases listening with
  | false => rfl
  | true =>
      obtain ⟨query, queryFormatted⟩ := formats (if params.isEmpty then .null else .obj params)
      obtain ⟨line, formatted⟩ := formats ((Json.obj fields).modifyAt fileDataPath trimData)
      rw [if_pos rfl]
      simp only [queryFormatted, trimmed deepcopy copies, formatted]
      rfl

def demoFileMessage : OutgoingMessage :=
  .notification { emptyDirectNotification with
    file := .value ⟨"a.txt", some [1, 2, 3]⟩ }

theorem outgoingMessages_loggedAndSent_demo :
    ∃ body, demoFileMessage.body (fun _ => ⟨0⟩) = .ok (some body) ∧ LoggedAndSent body := by
  obtain ⟨payload, returned⟩ : ∃ payload, BotXAPIDirectNotificationRequestPayload.fromDomain
      (fun _ => ⟨0⟩) { emptyDirectNotification with file := .value ⟨"a.txt", some [1, 2, 3]⟩ } =
        .ok payload := ⟨_, rfl⟩
  obtain ⟨_, _, body, _, encoded, _⟩ := directNotification_renders _ _ payload returned
  have made : demoFileMessage.body (fun _ => ⟨0⟩) = .ok (some body) :=
    (Result.bind_eq_ok _ _ _).mpr ⟨payload, returned, congrArg Except.ok encoded⟩
  exact ⟨body, made, outgoingMessages_loggedAndSent _ demoFileMessage body made⟩

end Pybotx
