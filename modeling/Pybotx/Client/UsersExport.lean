/-
The users of a server as a table.

The server sends the table as comma-separated text, which goes to a temporary file.  The
users are read from the file one after the other, up to the first row that is not one.
-/

import Pybotx.Bot.Resources
import Pybotx.Client.FileTransfers
import Pybotx.Client.UsersApi
import Pybotx.Foundation.Csv
import Pybotx.Models.FilesRoundTrip

set_option autoImplicit false

namespace Pybotx

open Validator

structure UserFromCSV where
  huid : UUID
  adLogin : String
  adDomain : String
  username : String
  syncSource : IncomingSyncSourceTypes
  active : Bool
  userKind : UserKinds
  email : Option String
  company : Option String
  department : Option String
  position : Option String
  avatar : Option String
  avatarPreview : Option String
  office : Option String
  manager : Option String
  managerHuid : Option UUID
  description : Option String
  phone : Option String
  otherPhone : Option String
  ipPhone : Option String
  otherIpPhone : Option String
  personnelNumber : Option String
  deriving DecidableEq

structure BotXAPIUserFromCSVResult where
  huid : UUID
  adLogin : String
  adDomain : String
  email : Option String
  name : String
  syncSource : String
  active : Bool
  userKind : APIUserKinds
  company : Option String
  department : Option String
  position : Option String
  avatar : Option String
  avatarPreview : Option String
  office : Option String
  manager : Option String
  managerHuid : Option UUID
  description : Option String
  phone : Option String
  otherPhone : Option String
  ipPhone : Option String
  otherIpPhone : Option String
  personnelNumber : Option String

namespace BotXAPIUserFromCSVResult

/-- The source of a synchronization stays the text it is: a text is the better match of
`APISyncSourceTypes | str`. -/
def check (scalars : Scalars) : Scalars.Check BotXAPIUserFromCSVResult :=
  model fun entries => BotXAPIUserFromCSVResult.mk <$>
    required "HUID" scalars.checkUuid entries <*>
    required "AD Login" str entries <*>
    required "Domain" str entries <*>
    required "AD E-mail" (replaceEmptyString str) entries <*>
    required "Name" str entries <*>
    required "Sync source" str entries <*>
    required "Active" scalars.checkBool entries <*>
    required "Kind" (member APIUserKinds.members APIUserKinds.value) entries <*>
    required "Company" (replaceEmptyString str) entries <*>
    required "Department" (replaceEmptyString str) entries <*>
    required "Position" (replaceEmptyString str) entries <*>
    defaulted "Avatar" none (replaceEmptyString str) entries <*>
    defaulted "Avatar preview" none (replaceEmptyString str) entries <*>
    defaulted "Office" none (replaceEmptyString str) entries <*>
    required "Manager" (replaceEmptyString str) entries <*>
    required "Manager HUID" (replaceEmptyString scalars.checkUuid) entries <*>
    defaulted "Description" none (replaceEmptyString str) entries <*>
    defaulted "Phone" none (replaceEmptyString str) entries <*>
    defaulted "Other phone" none (replaceEmptyString str) entries <*>
    defaulted "IP phone" none (replaceEmptyString str) entries <*>
    defaulted "Other IP phone" none (replaceEmptyString str) entries <*>
    defaulted "Personnel number" none (replaceEmptyString str) entries

def toDomain (result : BotXAPIUserFromCSVResult) : UserFromCSV where
  huid := result.huid
  adLogin := result.adLogin
  adDomain := result.adDomain
  email := result.email
  username := result.name
  syncSource := convertSyncSourceTypeToDomain result.syncSource
  active := result.active
  userKind := convertUserKindToDomain result.userKind
  company := result.company
  department := result.department
  position := result.position
  avatar := result.avatar
  avatarPreview := result.avatarPreview
  office := result.office
  manager := result.manager
  managerHuid := result.managerHuid
  description := result.description
  phone := result.phone
  otherPhone := result.otherPhone
  ipPhone := result.ipPhone
  otherIpPhone := result.otherIpPhone
  personnelNumber := result.personnelNumber

end BotXAPIUserFromCSVResult

/-! ### The rows of the file -/

def fieldSizeLimit : Nat := 131072

/-- What `DictReader` makes of a row.  Cells beyond the header stand under `None`, which is no
keyword; cells that are missing are `None`. -/
def rowKeywords (header row : List String) : Result (List (String × Json)) :=
  if header.length < row.length then .error .typeError
  else
    .ok (Dict.ofPairs (header.zip (row.map .str) ++
      (header.drop row.length).map fun column => (column, .null)))

def userOfRow (scalars : Scalars) (header row : List String) : Result UserFromCSV := do
  let keywords ← rowKeywords header row
  let user ← orValidationError (BotXAPIUserFromCSVResult.check scalars (.obj keywords))
  return user.toDomain

inductive UsersEnd where
  | exhausted
  | raised (exc : PyError)
  | csvError (failure : Csv.Failure)

structure UsersRead where
  users : List UserFromCSV
  ending : UsersEnd

/-- Blank rows are skipped. -/
def usersOfRows (scalars : Scalars) (header : List String) (ending : UsersEnd) :
    List (List String) → UsersRead
  | [] => ⟨[], ending⟩
  | row :: rows =>
      if row = [] then usersOfRows scalars header ending rows
      else
        match userOfRow scalars header row with
        | .error exc => ⟨[], .raised exc⟩
        | .ok user =>
            let later := usersOfRows scalars header ending rows
            { later with users := user :: later.users }

def usersOfTable (scalars : Scalars) (ending : UsersEnd) : List (List String) → UsersRead
  | [] => ⟨[], ending⟩
  | header :: rows => usersOfRows scalars header ending rows

def readUsers (scalars : Scalars) (text : List Char) : UsersRead :=
  let rows := Csv.read fieldSizeLimit text
  usersOfTable scalars (rows.failure.elim .exhausted .csvError)
    (rows.rows.map fun row => row.map String.ofList)

def usersAsCsvPayload (ctsUser unregistered botx : Bool) : Payload where
  params := paramsOf (BotXAPIUsersAsCSVRequestPayload.mk ctsUser unregistered botx).modelDump
  content := .empty

/-- `Client.users_as_csv` up to the `yield`; the users are read as the caller asks for them.
`decode` is how `open` decodes a file. -/
def usersAsCsv (env : Environment) (decode : List UInt8 → List Char)
    (ctsUser unregistered botx : Bool) (session : Session) : Result UsersRead × Session :=
  let (answer, session, file) := executeDownload usersAsCsvMethod env
    (usersAsCsvPayload ctsUser unregistered botx) ⟨[], 0⟩ session
  (answer.map fun _ => readUsers env.python.toScalars (decode file.content), session)

/-- Users come from the rows in their order, up to the first row that is not a user; blank rows
do not count. -/
def InOrder (scalars : Scalars) (header : List String) (rows : List (List String))
    (ending : UsersEnd) (read : UsersRead) : Prop :=
  ∃ taken rest, rows.filter (fun row => row ≠ []) = taken ++ rest ∧
    List.Forall₂ (fun row user => userOfRow scalars header row = .ok user) taken read.users ∧
    ((rest = [] ∧ read.ending = ending) ∨
      ∃ row later exc, rest = row :: later ∧ userOfRow scalars header row = .error exc ∧
        read.ending = .raised exc)

theorem usersOfRows_inOrder (scalars : Scalars) (header : List String) (ending : UsersEnd)
    (rows : List (List String)) :
    InOrder scalars header rows ending (usersOfRows scalars header ending rows) := by
  induction rows with
  | nil => exact ⟨[], [], rfl, .nil, .inl ⟨rfl, rfl⟩⟩
  | cons row rows ih =>
      rw [usersOfRows]
      by_cases blank : row = []
      · rw [if_pos blank]
        obtain ⟨taken, rest, split, made, ends⟩ := ih
        refine ⟨taken, rest, ?_, made, ends⟩
        rw [List.filter_cons_of_neg (by simpa using blank)]
        exact split
      · rw [if_neg blank]
        have kept : (row :: rows).filter (fun row => row ≠ []) =
            row :: rows.filter fun row => row ≠ [] :=
          List.filter_cons_of_pos (by simpa using blank)
        cases reads : userOfRow scalars header row with
        | error exc =>
            exact ⟨[], _, kept, .nil, .inr ⟨row, _, exc, rfl, reads, rfl⟩⟩
        | ok user =>
            obtain ⟨taken, rest, split, made, ends⟩ := ih
            refine ⟨row :: taken, rest, ?_, .cons reads made, ends⟩
            rw [kept, split, List.cons_append]

def symbols (table : List (List String)) : List (List (List Char)) :=
  table.map fun row => row.map String.toList

def Fits (table : List (List String)) : Prop :=
  ∀ row ∈ table, ∀ cell ∈ row, cell.length ≤ fieldSizeLimit

/-- Whatever the spelling of a table, the users are those of its rows. -/
theorem readUsers_of_spelling (scalars : Scalars) {table : List (List String)} {text : List Char}
    (spelling : Csv.Spelling (symbols table) text) (fits : Fits table) :
    readUsers scalars text = usersOfTable scalars .exhausted table := by
  have short : ∀ row ∈ symbols table, ∀ field ∈ row, field.length ≤ fieldSizeLimit := by
    intro row rowMember field member
    obtain ⟨cells, cellsMember, rfl⟩ := List.mem_map.mp rowMember
    obtain ⟨cell, cellMember, rfl⟩ := List.mem_map.mp member
    exact fits cells cellsMember cell cellMember
  have same : (symbols table).map (fun row => row.map String.ofList) = table := by
    unfold symbols
    rw [List.map_map]
    refine (List.map_congr_left ?_).trans table.map_id
    intro row _
    change (row.map String.toList).map String.ofList = row
    rw [List.map_map]
    exact (List.map_congr_left fun cell _ => String.ofList_toList).trans row.map_id
  unfold readUsers
  rw [Csv.read_spelling spelling short]
  change usersOfTable scalars .exhausted ((symbols table).map fun row => row.map String.ofList) = _
  rw [same]

/-- The server receives the request and begins to send the table. -/
def Exports (env : Environment) (payload : Payload) (session : Session) (body : Body) : Prop :=
  ∃ outgoing url status, usersAsCsvMethod.sends env payload session = some outgoing ∧
    env.httpClient outgoing = .answered url status body ∧ 200 ≤ status ∧ status < 300

theorem usersAsCsv_passes_iff (method : Option String) (url : String) (status : Nat)
    (body : Body) :
    raiseForStatus usersAsCsvMethod.statusHandlers ⟨method, url, status, body⟩ = .ok () ↔
      200 ≤ status ∧ status < 300 := by
  rw [raiseForStatus_eq_ok_iff]
  constructor
  · intro passed
    exact passed.2
  · intro successful
    refine ⟨?_, successful⟩
    have smaller : status < 400 := by omega
    exact (StatusHandlers.set_of_lt authorizedStatusHandlers _ smaller).trans
      (authorizedStatusHandlers_of_success successful)

section

variable {env : Environment} {decode : List UInt8 → List Char} {ctsUser unregistered botx : Bool}
  {session : Session}

theorem usersAsCsv_of_exports {body : Body}
    (exports : Exports env (usersAsCsvPayload ctsUser unregistered botx) session body)
    (complete : body.failure = none) :
    (usersAsCsv env decode ctsUser unregistered botx session).1 =
      .ok (readUsers env.python.toScalars (decode body.bytes)) := by
  obtain ⟨outgoing, url, status, sent, answered, successful⟩ := exports
  have passed := (usersAsCsv_passes_iff (some outgoing.method) url status body).mpr successful
  obtain ⟨answer, file⟩ := executeDownload_of_sent ⟨[], 0⟩ sent
  rw [answered] at answer file
  unfold downloadOutcome at answer file
  simp only [usersAsCsvMethod, streamedMethod] at passed
  simp only [passed, copied, complete] at answer file
  have content : ((Buffer.write 0 ⟨[], 0⟩ body.bytes).rewound).content = body.bytes := by
    rw [Buffer.rewound_content, Buffer.write_content_eq_iff]
    by_cases empty : body.bytes = []
    · rw [if_pos empty]
    · rw [if_neg empty]
      exact ⟨rfl, Nat.zero_le _⟩
  unfold usersAsCsv
  dsimp only
  unfold usersAsCsvMethod
  rw [answer, file, content]
  rfl

theorem exports_of_usersAsCsv {read : UsersRead}
    (returned : (usersAsCsv env decode ctsUser unregistered botx session).1 = .ok read) :
    ∃ body, Exports env (usersAsCsvPayload ctsUser unregistered botx) session body ∧
      body.failure = none := by
  have passed : (executeDownload usersAsCsvMethod env
      (usersAsCsvPayload ctsUser unregistered botx) ⟨[], 0⟩ session).1 = .ok () := by
    unfold usersAsCsv at returned
    dsimp only at returned
    cases answer : (executeDownload usersAsCsvMethod env
        (usersAsCsvPayload ctsUser unregistered botx) ⟨[], 0⟩ session).1 with
    | error exc =>
        rw [answer] at returned
        cases returned
    | ok passedOn => rfl
  cases sent : usersAsCsvMethod.sends env (usersAsCsvPayload ctsUser unregistered botx)
      session with
  | none =>
      obtain ⟨exc, raised, _⟩ := executeDownload_of_not_sent ⟨[], 0⟩ sent
      exact absurd (raised.symm.trans passed) (by simp)
  | some outgoing =>
      have answer := (executeDownload_of_sent ⟨[], 0⟩ sent).1.symm.trans passed
      cases answered : env.httpClient outgoing with
      | failed description =>
          rw [answered] at answer
          cases answer
      | answered url status body =>
          rw [answered] at answer
          unfold downloadOutcome at answer
          cases checked : raiseForStatus usersAsCsvMethod.statusHandlers
              ⟨some outgoing.method, url, status, body⟩ with
          | error exc =>
              simp only [usersAsCsvMethod, streamedMethod] at checked
              simp only [checked] at answer
              cases answer
          | ok passedOn =>
              have successful := (usersAsCsv_passes_iff (some outgoing.method) url status body).mp
                checked
              simp only [usersAsCsvMethod, streamedMethod] at checked
              simp only [checked, copied] at answer
              refine ⟨body, ⟨outgoing, url, status, sent, answered, successful⟩, ?_⟩
              cases failure : body.failure with
              | none => rfl
              | some description =>
                  rw [failure] at answer
                  cases answer

end

/-- The call returns exactly if the table arrives completely.  What is then read depends on the
table alone, not on how it is spelled or in which chunks it comes. -/
structure ExportReads (env : Environment) (decode : List UInt8 → List Char) (payload : Payload)
    (session : Session) (answer : Result UsersRead) : Prop where
  returns : (∃ read, answer = .ok read) ↔
    ∃ body, Exports env payload session body ∧ body.failure = none
  inOrder : ∀ body, Exports env payload session body → body.failure = none →
    ∀ header rows, Csv.Spelling (symbols (header :: rows)) (decode body.bytes) →
      Fits (header :: rows) →
      ∃ read, answer = .ok read ∧
        InOrder env.python.toScalars header rows .exhausted read

theorem usersAsCsv_reads (env : Environment) (decode : List UInt8 → List Char)
    (ctsUser unregistered botx : Bool) (session : Session) :
    ExportReads env decode (usersAsCsvPayload ctsUser unregistered botx) session
      (usersAsCsv env decode ctsUser unregistered botx session).1 := by
  refine ⟨?_, ?_⟩
  · constructor
    · intro returned
      obtain ⟨read, returned⟩ := returned
      exact exports_of_usersAsCsv returned
    · intro exported
      obtain ⟨body, exports, complete⟩ := exported
      exact ⟨_, usersAsCsv_of_exports exports complete⟩
  · intro body exports complete header rows spelling fits
    refine ⟨_, usersAsCsv_of_exports exports complete, ?_⟩
    rw [readUsers_of_spelling env.python.toScalars spelling fits]
    exact usersOfRows_inOrder env.python.toScalars header .exhausted rows

/-! ### Users there and back -/

namespace BotXAPIUserFromCSVResult

def cells (flag : Bool → String) (result : BotXAPIUserFromCSVResult) : List (String × String) :=
  [("HUID", result.huid.str), ("AD Login", result.adLogin), ("Domain", result.adDomain),
    ("AD E-mail", result.email.getD ""), ("Name", result.name),
    ("Sync source", result.syncSource), ("Active", flag result.active),
    ("Kind", result.userKind.value), ("Company", result.company.getD ""),
    ("Department", result.department.getD ""), ("Position", result.position.getD ""),
    ("Avatar", result.avatar.getD ""), ("Avatar preview", result.avatarPreview.getD ""),
    ("Office", result.office.getD ""), ("Manager", result.manager.getD ""),
    ("Manager HUID", (result.managerHuid.map UUID.str).getD ""),
    ("Description", result.description.getD ""), ("Phone", result.phone.getD ""),
    ("Other phone", result.otherPhone.getD ""), ("IP phone", result.ipPhone.getD ""),
    ("Other IP phone", result.otherIpPhone.getD ""),
    ("Personnel number", result.personnelNumber.getD "")]

def texts (result : BotXAPIUserFromCSVResult) : List (Option String) :=
  [result.email, result.company, result.department, result.position, result.avatar,
    result.avatarPreview, result.office, result.manager, result.description, result.phone,
    result.otherPhone, result.ipPhone, result.otherIpPhone, result.personnelNumber]

/-- A row with a cell for each column of the header; `others` has the cells of the columns that
are not known. -/
def row (flag : Bool → String) (others : String → String) (header : List String)
    (result : BotXAPIUserFromCSVResult) : List String :=
  header.map fun column => (Dict.get column (result.cells flag)).getD (others column)

end BotXAPIUserFromCSVResult

def defaultedColumns : List String :=
  ["Avatar", "Avatar preview", "Office", "Description", "Phone", "Other phone", "IP phone",
    "Other IP phone", "Personnel number"]

/-- Identifiers and flags are read from the texts that they are written as. -/
structure ReadsCells (scalars : Scalars) (flag : Bool → String) : Prop where
  uuid : ∀ id : UUID, scalars.uuid (.str id.str) = some id
  bool : ∀ active, scalars.bool (.str (flag active)) = some active

/-- A user that can be written under a header: no text is empty, and a column that the header
lacks is one that a table may lack and that has nothing in it. -/
structure Writable (header : List String) (flag : Bool → String)
    (result : BotXAPIUserFromCSVResult) : Prop where
  texts : some "" ∉ result.texts
  columns : ∀ cell ∈ result.cells flag,
    cell.1 ∈ header ∨ (cell.1 ∈ defaultedColumns ∧ cell.2 = "")

theorem get_ofPairs_of_column (header : List String) (cell : String → Json) (column : String) :
    Dict.get column (Dict.ofPairs (header.map fun name => (name, cell name))) =
      if column ∈ header then some (cell column) else none := by
  unfold Dict.ofPairs
  rw [List.foldl_map]
  induction header using List.reverseRecOn with
  | nil => rfl
  | append_singleton header name ih =>
      rw [List.foldl_append]
      change Dict.get column (Dict.set name (cell name) _) = _
      by_cases same : column = name
      · subst same
        rw [Dict.get_set_self, if_pos (by simp)]
      · rw [Dict.get_set_of_ne _ _ _ same, ih]
        by_cases member : column ∈ header
        · rw [if_pos member, if_pos (List.mem_append_left _ member)]
        · rw [if_neg member, if_neg (by simp [member, same])]

theorem rowKeywords_of_cells (header : List String) (cell : String → String) :
    rowKeywords header (header.map cell) =
      .ok (Dict.ofPairs (header.map fun column => (column, Json.str (cell column)))) := by
  unfold rowKeywords
  rw [if_neg (by simp), List.length_map, List.drop_length, List.map_nil, List.append_nil,
    List.map_map]
  have zipped : header.zip (header.map (Json.str ∘ cell)) =
      header.map fun column => (column, Json.str (cell column)) := by
    induction header with
    | nil => rfl
    | cons column header ih => rw [List.map_cons, List.zip_cons_cons, ih, List.map_cons]; rfl
  rw [zipped]

def Stands (entries : List (String × Json)) (cell : String × String) : Prop :=
  Dict.get cell.1 entries = some (.str cell.2) ∨
    (Dict.get cell.1 entries = none ∧ cell.1 ∈ defaultedColumns ∧ cell.2 = "")

section

variable {entries : List (String × Json)} {name text : String}

theorem Stands.required {α : Type} {inner : Scalars.Check α} {value : α}
    (stands : Stands entries (name, text)) (needed : name ∉ defaultedColumns)
    (reads : inner (.str text) = .valid value) : required name inner entries = .valid value := by
  cases stands with
  | inl found => exact (required_eq_valid_iff name inner entries value).mpr ⟨_, found, reads⟩
  | inr missing => exact absurd missing.2.1 needed

theorem replaceEmptyString_text {value : Option String} (nonempty : some "" ≠ value) :
    replaceEmptyString str (.str (value.getD "")) = .valid value := by
  cases value with
  | none => rfl
  | some text =>
      have other : text ≠ "" := fun same => nonempty (congrArg some same.symm)
      unfold replaceEmptyString
      rw [if_neg (by simpa using other)]
      rfl

theorem uuidStr_ne_empty (id : UUID) : id.str ≠ "" := by
  intro empty
  have same := UUID.parse_str id
  rw [empty] at same
  cases same

theorem replaceEmptyString_uuid {scalars : Scalars} {flag : Bool → String}
    (reads : ReadsCells scalars flag) (value : Option UUID) :
    replaceEmptyString scalars.checkUuid (.str ((value.map UUID.str).getD "")) = .valid value := by
  cases value with
  | none => rfl
  | some id =>
      unfold replaceEmptyString
      rw [if_neg (by simpa using uuidStr_ne_empty id)]
      change some <$> Validator.ofOption scalars.uuid (.str id.str) = _
      rw [Validator.ofOption, reads.uuid]
      rfl

theorem Stands.defaulted {value : Option String} (stands : Stands entries (name, value.getD ""))
    (nonempty : some "" ≠ value) :
    defaulted name none (replaceEmptyString str) entries = .valid value := by
  rw [defaulted_eq_valid_iff]
  cases stands with
  | inl found => exact .inr ⟨_, found, replaceEmptyString_text nonempty⟩
  | inr missing =>
      refine .inl ⟨missing.1, ?_⟩
      cases value with
      | none => rfl
      | some text => exact absurd (congrArg some missing.2.2.symm) nonempty

end

namespace BotXAPIUserFromCSVResult

variable {scalars : Scalars} {flag : Bool → String} {result : BotXAPIUserFromCSVResult}

theorem check_of_stands {entries : List (String × Json)} (reads : ReadsCells scalars flag)
    (nonempty : some "" ∉ result.texts)
    (stands : ∀ cell ∈ result.cells flag, Stands entries cell) :
    check scalars (.obj entries) = .valid result := by
  have needed : ∀ name text, (name, text) ∈ result.cells flag → name ∉ defaultedColumns →
      required name str entries = .valid text :=
    fun name text member column => (stands _ member).required column rfl
  have replaced : ∀ name value, (name, Option.getD value "") ∈ result.cells flag →
      name ∉ defaultedColumns → value ∈ result.texts →
      required name (replaceEmptyString str) entries = .valid value := by
    intro name value member column listed
    refine (stands _ member).required column (replaceEmptyString_text ?_)
    intro empty
    exact nonempty (empty ▸ listed)
  have lacking : ∀ name value, (name, Option.getD value "") ∈ result.cells flag →
      value ∈ result.texts →
      defaulted name none (replaceEmptyString str) entries = .valid value := by
    intro name value member listed
    refine (stands _ member).defaulted ?_
    intro empty
    exact nonempty (empty ▸ listed)
  have huid : required "HUID" scalars.checkUuid entries = .valid result.huid :=
    (stands ("HUID", result.huid.str) (by simp [cells])).required (by decide)
      ((ofOption_eq_valid_iff _ _ _).mpr (reads.uuid result.huid))
  have active : required "Active" scalars.checkBool entries = .valid result.active :=
    (stands ("Active", flag result.active) (by simp [cells])).required (by decide)
      ((ofOption_eq_valid_iff _ _ _).mpr (reads.bool result.active))
  have kind : required "Kind" (member APIUserKinds.members APIUserKinds.value) entries =
      (.valid result.userKind : Validated PyError APIUserKinds) := by
    refine (stands ("Kind", result.userKind.value) (by simp [cells])).required (by decide) ?_
    cases result.userKind <;> rfl
  have managerHuid : required "Manager HUID" (replaceEmptyString scalars.checkUuid) entries =
      .valid result.managerHuid :=
    (stands ("Manager HUID", (result.managerHuid.map UUID.str).getD "")
      (by simp [cells])).required (by decide) (replaceEmptyString_uuid reads _)
  unfold check
  rw [model, huid, active, kind, managerHuid,
    needed "AD Login" result.adLogin (by simp [cells]) (by decide),
    needed "Domain" result.adDomain (by simp [cells]) (by decide),
    needed "Name" result.name (by simp [cells]) (by decide),
    needed "Sync source" result.syncSource (by simp [cells]) (by decide),
    replaced "AD E-mail" result.email (by simp [cells]) (by decide) (by simp [texts]),
    replaced "Company" result.company (by simp [cells]) (by decide) (by simp [texts]),
    replaced "Department" result.department (by simp [cells]) (by decide) (by simp [texts]),
    replaced "Position" result.position (by simp [cells]) (by decide) (by simp [texts]),
    replaced "Manager" result.manager (by simp [cells]) (by decide) (by simp [texts]),
    lacking "Avatar" result.avatar (by simp [cells]) (by simp [texts]),
    lacking "Avatar preview" result.avatarPreview (by simp [cells]) (by simp [texts]),
    lacking "Office" result.office (by simp [cells]) (by simp [texts]),
    lacking "Description" result.description (by simp [cells]) (by simp [texts]),
    lacking "Phone" result.phone (by simp [cells]) (by simp [texts]),
    lacking "Other phone" result.otherPhone (by simp [cells]) (by simp [texts]),
    lacking "IP phone" result.ipPhone (by simp [cells]) (by simp [texts]),
    lacking "Other IP phone" result.otherIpPhone (by simp [cells]) (by simp [texts]),
    lacking "Personnel number" result.personnelNumber (by simp [cells]) (by simp [texts])]
  rfl

end BotXAPIUserFromCSVResult

section

variable {scalars : Scalars} {flag : Bool → String} {header : List String}

theorem BotXAPIUserFromCSVResult.cells_nodup (result : BotXAPIUserFromCSVResult) :
    ((result.cells flag).map Prod.fst).Nodup := by
  change ["HUID", "AD Login", "Domain", "AD E-mail", "Name", "Sync source", "Active", "Kind",
    "Company", "Department", "Position", "Avatar", "Avatar preview", "Office", "Manager",
    "Manager HUID", "Description", "Phone", "Other phone", "IP phone", "Other IP phone",
    "Personnel number"].Nodup
  decide

theorem stands_of_writable {result : BotXAPIUserFromCSVResult}
    (writable : Writable header flag result) (others : String → String) :
    ∀ cell ∈ result.cells flag, Stands
      (Dict.ofPairs (header.map fun column =>
        (column, Json.str ((Dict.get column (result.cells flag)).getD (others column))))) cell := by
  intro cell member
  unfold Stands
  rw [get_ofPairs_of_column header
    (fun column => Json.str ((Dict.get column (result.cells flag)).getD (others column)))]
  have found : Dict.get cell.1 (result.cells flag) = some cell.2 :=
    Dict.get_of_mem _ result.cells_nodup _ _ member
  by_cases column : cell.1 ∈ header
  · rw [if_pos column, found]
    exact .inl rfl
  · rw [if_neg column]
    cases writable.columns cell member with
    | inl present => exact absurd present column
    | inr missing => exact .inr ⟨rfl, missing⟩

/-- A user is read from the row it is written as, wherever the columns stand. -/
theorem userOfRow_row {result : BotXAPIUserFromCSVResult} (reads : ReadsCells scalars flag)
    (writable : Writable header flag result) (others : String → String) :
    userOfRow scalars header (result.row flag others header) = .ok result.toDomain := by
  unfold userOfRow BotXAPIUserFromCSVResult.row
  rw [rowKeywords_of_cells header]
  change orValidationError (BotXAPIUserFromCSVResult.check scalars (.obj _)) >>= _ = _
  rw [BotXAPIUserFromCSVResult.check_of_stands reads writable.texts
    (stands_of_writable writable others)]
  rfl

theorem usersOfRows_of_rows {results : List BotXAPIUserFromCSVResult}
    (reads : ReadsCells scalars flag) (ending : UsersEnd)
    (others : BotXAPIUserFromCSVResult → String → String)
    (writable : ∀ result ∈ results, Writable header flag result) (rows : List (List String))
    (written : rows.filter (fun row => row ≠ []) =
      results.map fun result => result.row flag (others result) header) :
    usersOfRows scalars header ending rows = ⟨results.map (·.toDomain), ending⟩ := by
  induction rows generalizing results with
  | nil =>
      cases results with
      | nil => rfl
      | cons result results => cases written
  | cons row rows ih =>
      rw [usersOfRows]
      by_cases blank : row = []
      · rw [if_pos blank]
        rw [List.filter_cons_of_neg (by simpa using blank)] at written
        exact ih writable written
      · rw [if_neg blank]
        rw [List.filter_cons_of_pos (by simpa using blank)] at written
        cases results with
        | nil => cases written
        | cons result results =>
            rw [List.map_cons] at written
            injection written with first later
            rw [first, userOfRow_row reads (writable result List.mem_cons_self) (others result),
              ih (fun other member => writable other (List.mem_cons_of_mem _ member)) later]
            rfl

end

/-- Users that a server writes as a table come back as they are: under any header with the
columns they need, in any order and among others, with blank rows, however the text is spelled
and in whatever chunks it comes. -/
theorem usersAsCsv_roundTrip (env : Environment) (decode : List UInt8 → List Char)
    (ctsUser unregistered botx : Bool) (session : Session) (flag : Bool → String)
    (reads : ReadsCells env.python.toScalars flag) (header : List String)
    (others : BotXAPIUserFromCSVResult → String → String)
    (results : List BotXAPIUserFromCSVResult)
    (writable : ∀ result ∈ results, Writable header flag result) (rows : List (List String))
    (written : rows.filter (fun row => row ≠ []) =
      results.map fun result => result.row flag (others result) header)
    (fits : Fits (header :: rows)) (body : Body)
    (exports : Exports env (usersAsCsvPayload ctsUser unregistered botx) session body)
    (complete : body.failure = none)
    (spelling : Csv.Spelling (symbols (header :: rows)) (decode body.bytes)) :
    (usersAsCsv env decode ctsUser unregistered botx session).1 =
      .ok ⟨results.map (·.toDomain), .exhausted⟩ := by
  rw [usersAsCsv_of_exports exports complete,
    readUsers_of_spelling env.python.toScalars spelling fits]
  change Except.ok (usersOfRows env.python.toScalars header .exhausted rows) = _
  rw [usersOfRows_of_rows reads .exhausted others writable rows written]

def demoUser : BotXAPIUserFromCSVResult where
  huid := demoAccount.id
  adLogin := "login"
  adDomain := "domain"
  email := none
  name := "A \"B\", C"
  syncSource := "ad"
  active := true
  userKind := .ctsUser
  company := some "Company"
  department := none
  position := none
  avatar := none
  avatarPreview := none
  office := none
  manager := none
  managerHuid := some demoAccount.id
  description := none
  phone := none
  otherPhone := none
  ipPhone := none
  otherIpPhone := none
  personnelNumber := none

def demoHeader : List String :=
  ["Kind", "Note", "HUID", "AD Login", "Domain", "AD E-mail", "Name", "Sync source", "Active",
    "Company", "Department", "Position", "Manager", "Manager HUID"]

def demoFlag (active : Bool) : String :=
  if active then "true" else "false"

def demoTable : List (List String) :=
  [demoHeader, [], demoUser.row demoFlag (fun _ => "line\nline") demoHeader]

def demoBytes : List UInt8 :=
  (Csv.write (symbols demoTable)).map fun c => UInt8.ofNat c.toNat

def demoDecode (content : List UInt8) : List Char :=
  content.map fun byte => Char.ofNat byte.toNat

def demoScalars : Scalars :=
  { Scalars.strict with
    bool := fun value => match value with
      | .str "true" => some true
      | .str "false" => some false
      | _ => none }

/-- A server that sends the table in two chunks. -/
def demoExport : Environment :=
  { demoEnvironment (.answered "" 200 ⟨[demoBytes.take 10, demoBytes.drop 10], none⟩) with
    python := { demoPython with toScalars := demoScalars } }

theorem demoScalars_readsCells : ReadsCells demoScalars demoFlag := by
  have same : demoScalars.uuid = Scalars.strict.uuid := rfl
  constructor
  · rw [same]
    exact strict_readsOwn.uuid
  · intro active
    cases active <;> rfl

theorem usersAsCsv_roundTrip_demo :
    (usersAsCsv demoExport demoDecode true true false demoSession).1 =
      .ok ⟨[demoUser.toDomain], .exhausted⟩ := by
  let body : Body := ⟨[demoBytes.take 10, demoBytes.drop 10], none⟩
  have reads : ReadsCells demoExport.python.toScalars demoFlag := demoScalars_readsCells
  have writable : ∀ result ∈ [demoUser], Writable demoHeader demoFlag result := by
    intro result member
    obtain rfl := List.mem_singleton.mp member
    exact ⟨by decide, by decide⟩
  have fits : Fits demoTable := by
    unfold Fits
    decide +kernel
  have decoded : demoDecode body.bytes = Csv.write (symbols demoTable) := by
    decide +kernel
  refine usersAsCsv_roundTrip demoExport demoDecode true true false demoSession demoFlag reads
    demoHeader (fun _ _ => "line\nline") [demoUser] writable
    [[], demoUser.row demoFlag (fun _ => "line\nline") demoHeader] rfl fits body
    ⟨_, "", 200, rfl, rfl, by decide, by decide⟩ rfl ?_
  rw [decoded]
  exact Csv.spelling_write _

end Pybotx
