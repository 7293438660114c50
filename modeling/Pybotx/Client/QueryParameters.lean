/-
Payloads that travel as a query string: how their values are spelled there, and how the
same values are spelled in a JSON body.

`urlencode` writes what `str` makes of a value, which for a flag is not what `json.dumps`
writes.
-/

import Pybotx.Client.BotXMethod
import Pybotx.Foundation.FormEncoding
import Pybotx.Models.ApiBase

set_option autoImplicit false

namespace Pybotx

inductive QueryValue where
  | str (text : String)
  | int (number : Int)
  | bool (flag : Bool)
  deriving DecidableEq

namespace QueryValue

def toJson : QueryValue → Json
  | str text => .str text
  | int number => .int number
  | bool flag => .bool flag

def pyStr : QueryValue → String
  | str text => text
  | int number => toString number
  | bool flag => if flag then "True" else "False"

/-- The text itself, or what `json.dumps` writes for the scalar. -/
def jsonSpelling : QueryValue → String
  | str text => text
  | int number => toString number
  | bool flag => if flag then "true" else "false"

theorem pyStr_eq_jsonSpelling_iff (value : QueryValue) :
    value.pyStr = value.jsonSpelling ↔ ∀ flag, value ≠ bool flag := by
  cases value with
  | str text =>
      constructor
      · intro _ flag impossible
        cases impossible
      · intro _
        rfl
  | int number =>
      constructor
      · intro _ flag impossible
        cases impossible
      · intro _
        rfl
  | bool flag =>
      constructor
      · intro same
        cases flag with
        | false => exact absurd same (by decide)
        | true => exact absurd same (by decide)
      · intro noFlag
        exact absurd rfl (noFlag flag)

end QueryValue

abbrev QueryFields := List (String × QueryValue)

def QueryFields.jsonable (fields : QueryFields) : List (String × Json) :=
  fields.map fun field => (field.1, field.2.toJson)

/-- `str` of the scalars a flat payload holds. -/
def StrOfScalars (python : Interpreter) : Prop :=
  ∀ value : QueryValue, python.str value.toJson = value.pyStr

/-! ### The query string that is sent -/

def appendedQuery (url sent : String) : String :=
  String.ofList ((sent.toList.drop url.toList.length).drop 1)

theorem urlencode_eq (python : Interpreter) (params : List (String × Json)) :
    urlencode python params =
      FormEncoding.encodeFields (params.map fun param => (param.1, python.str param.2)) := by
  unfold urlencode FormEncoding.encodeFields
  rw [List.map_map]
  rfl

/-- A server reads every key with the `str` of its value, in the order of the payload. -/
theorem decodeFields_withQuery (python : Interpreter) (url : String)
    (params : List (String × Json)) :
    FormEncoding.decodeFields (appendedQuery url (withQuery python url params)) =
      some (params.map fun param => (param.1, python.str param.2)) := by
  unfold withQuery
  cases params with
  | nil =>
      have nothing : appendedQuery url url = "" := by
        unfold appendedQuery
        rw [List.drop_length]
        rfl
      rw [List.isEmpty_nil, if_pos rfl, nothing]
      rfl
  | cons param rest =>
      have query : appendedQuery url (url ++ "?" ++ urlencode python (param :: rest)) =
          urlencode python (param :: rest) := by
        unfold appendedQuery
        rw [String.toList_append, String.toList_append, List.append_assoc, List.drop_left]
        exact String.ofList_toList
      rw [List.isEmpty_cons, if_neg Bool.false_ne_true, query, urlencode_eq,
        FormEncoding.decodeFields_encodeFields]

theorem callRequest_url (python : Interpreter) (method url : String)
    (headers : List (String × String)) (payload : Payload) :
    (callRequest python method url headers payload).url =
      withQuery python url payload.params := rfl

theorem streamRequest_url (python : Interpreter) (method url : String)
    (headers : List (String × String)) (payload : Payload) :
    (streamRequest python method url headers payload).url =
      withQuery python url payload.params := by
  unfold streamRequest
  cases payload.content with
  | empty => rfl
  | json body => rfl
  | fields form => rfl

def paramsOf (dumped : PyValue) : List (String × Json) :=
  match PyValue.jsonableDict dumped with
  | some (.obj params) => params
  | _ => []

/-- Both ways of calling append a query in which the values are spelled as in JSON. -/
def QuerySpelledAsJson (python : Interpreter) (method url : String)
    (headers : List (String × String)) (content : Content) (dumped : PyValue)
    (fields : QueryFields) : Prop :=
  let spelled := fields.map fun field => (field.1, field.2.jsonSpelling)
  let payload : Payload := { params := paramsOf dumped, content := content }
  FormEncoding.decodeFields
      (appendedQuery url (callRequest python method url headers payload).url) = some spelled ∧
    FormEncoding.decodeFields
      (appendedQuery url (streamRequest python method url headers payload).url) = some spelled

theorem map_pyStr_eq_iff (fields : QueryFields) :
    (fields.map fun field => (field.1, field.2.pyStr)) =
        (fields.map fun field => (field.1, field.2.jsonSpelling)) ↔
      ∀ field ∈ fields, ∀ flag, field.2 ≠ .bool flag := by
  rw [List.map_inj_left]
  simp only [Prod.mk.injEq, true_and, QueryValue.pyStr_eq_jsonSpelling_iff]

section

variable {python : Interpreter} {dumped : PyValue} {fields : QueryFields}

theorem querySpelledAsJson_iff_same (scalarStr : StrOfScalars python)
    (flat : PyValue.jsonableDict dumped = some (.obj fields.jsonable)) (method url : String)
    (headers : List (String × String)) (content : Content) :
    QuerySpelledAsJson python method url headers content dumped fields ↔
      (fields.map fun field => (field.1, field.2.pyStr)) =
        fields.map fun field => (field.1, field.2.jsonSpelling) := by
  have params : paramsOf dumped = fields.jsonable := by
    unfold paramsOf
    rw [flat]
  have read : fields.jsonable.map (fun param => (param.1, python.str param.2)) =
      fields.map fun field => (field.1, field.2.pyStr) := by
    unfold QueryFields.jsonable
    rw [List.map_map]
    apply List.map_congr_left
    intro field _
    exact congrArg (Prod.mk field.1) (scalarStr field.2)
  unfold QuerySpelledAsJson
  simp only [callRequest_url, streamRequest_url, decodeFields_withQuery, params, read,
    Option.some.injEq, and_self]

/-- The query spells a payload as JSON does exactly if no value of it is a flag. -/
theorem querySpelledAsJson_iff (scalarStr : StrOfScalars python)
    (flat : PyValue.jsonableDict dumped = some (.obj fields.jsonable)) (method url : String)
    (headers : List (String × String)) (content : Content) :
    QuerySpelledAsJson python method url headers content dumped fields ↔
      ∀ field ∈ fields, ∀ flag, field.2 ≠ .bool flag := by
  rw [querySpelledAsJson_iff_same scalarStr flat, map_pyStr_eq_iff]

end

def scalarPython : Interpreter :=
  { Scalars.strict with
    loads := fun _ => .error .jsonDecode
    str := fun value => match value with
      | .str text => text
      | .int number => toString number
      | .bool flag => if flag then "True" else "False"
      | _ => "None" }

theorem scalarPython_str : StrOfScalars scalarPython := by
  intro value
  cases value with
  | str text => rfl
  | int number => rfl
  | bool flag => rfl

theorem querySpelledAsJson_iff_packs :
    QuerySpelledAsJson scalarPython "GET" "https://cts/packs" [] .empty
        (.dict [("after", .str "a b&c=д"), ("limit", .int (-10))])
        [("after", .str "a b&c=д"), ("limit", .int (-10))] ↔
      ∀ field ∈ ([("after", .str "a b&c=д"), ("limit", .int (-10))] : QueryFields),
        ∀ flag, field.2 ≠ .bool flag :=
  querySpelledAsJson_iff scalarPython_str rfl "GET" "https://cts/packs" [] .empty

structure BotXAPIDownloadFileRequestPayload where
  groupChatId : UUID
  fileId : UUID
  isPreview : Bool

structure BotXAPIUsersAsCSVRequestPayload where
  ctsUser : Bool
  unregistered : Bool
  botx : Bool

structure BotXAPISearchUserByEmailRequestPayload where
  email : String
  trustsSearch : Missing Bool
  partialResponse : Missing Bool

def orUndefined (flag : Bool) : Missing Bool :=
  if flag then .value flag else .undefined

def BotXAPISearchUserByEmailRequestPayload.fromDomain (email : String)
    (trustsSearch partialResponse : Bool) : BotXAPISearchUserByEmailRequestPayload where
  email := email
  trustsSearch := orUndefined trustsSearch
  partialResponse := orUndefined partialResponse

def BotXAPIDownloadFileRequestPayload.modelDump (payload : BotXAPIDownloadFileRequestPayload) :
    PyValue :=
  .dict [("group_chat_id", .str payload.groupChatId.str), ("file_id", .str payload.fileId.str),
    ("is_preview", .bool payload.isPreview)]

def BotXAPIUsersAsCSVRequestPayload.modelDump (payload : BotXAPIUsersAsCSVRequestPayload) :
    PyValue :=
  .dict [("cts_user", .bool payload.ctsUser), ("unregistered", .bool payload.unregistered),
    ("botx", .bool payload.botx)]

def BotXAPIUsersAsCSVRequestPayload.queryFields (payload : BotXAPIUsersAsCSVRequestPayload) :
    QueryFields :=
  [("cts_user", .bool payload.ctsUser), ("unregistered", .bool payload.unregistered),
    ("botx", .bool payload.botx)]

theorem usersAsCsv_flat (payload : BotXAPIUsersAsCSVRequestPayload) :
    PyValue.jsonableDict payload.modelDump = some (.obj payload.queryFields.jsonable) := rfl

section

variable {python : Interpreter} (method url : String) (headers : List (String × String))
  (content : Content)

/-- Every request for a list of users misspells a flag. -/
theorem usersAsCsv_not_spelled (scalarStr : StrOfScalars python)
    (payload : BotXAPIUsersAsCSVRequestPayload) :
    ¬ QuerySpelledAsJson python method url headers content payload.modelDump
      payload.queryFields := by
  rw [querySpelledAsJson_iff_same scalarStr (usersAsCsv_flat payload), map_pyStr_eq_iff]
  intro noFlag
  exact noFlag ("cts_user", .bool payload.ctsUser)
    (by simp [BotXAPIUsersAsCSVRequestPayload.queryFields]) _ rfl

end

/-- `users_as_csv` with the defaults of the client asks for `cts_user=True`. -/
theorem usersAsCsv_misspells_flags :
    ¬ QuerySpelledAsJson scalarPython "GET" "https://cts/api/v3/botx/users/users_as_csv" [] .empty
      (BotXAPIUsersAsCSVRequestPayload.mk true true false).modelDump
      (BotXAPIUsersAsCSVRequestPayload.mk true true false).queryFields :=
  usersAsCsv_not_spelled _ _ _ _ scalarPython_str _

end Pybotx
