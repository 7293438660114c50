/-
Files that are stored on the server, on their way out: the metadata of a file in a payload,
and the same metadata read back.

An optional field is `None` in the domain, `Undefined` in the API model and absent from the
JSON object; reading goes through the same three in the other direction.
-/

import Pybotx.Models.Files

set_option autoImplicit false

namespace Pybotx

open Validator PyValue

def toMissing {α : Type} : Option α → MissingOptional α
  | none => .undefined
  | some value => .value (some value)

def FileBase.toApi (file : FileBase) : APIAsyncFileBase where
  file := file.fileUrl
  fileMimeType := file.fileMimetype
  fileId := file.fileId
  fileName := file.filename
  fileSize := file.size
  fileHash := file.fileHash
  filePreview := toMissing file.filePreview
  filePreviewHeight := toMissing file.filePreviewHeight
  filePreviewWidth := toMissing file.filePreviewWidth
  fileEncryptionAlgo := toMissing file.fileEncryptionAlgo
  chunkSize := toMissing file.chunkSize
  caption := toMissing file.caption

def convertAsyncFileFromDomain : File → APIAsyncFile
  | .image base => .image base.toApi
  | .video base duration => .video base.toApi duration
  | .document base => .document base.toApi
  | .voice base duration => .voice base.toApi duration

def dumpOptional {α : Type} (encode : α → PyValue) (field : MissingOptional α) : PyValue :=
  field.toPyValue fun value => value.elim .null encode

def APIAsyncFileBase.modelDump (type : String) (base : APIAsyncFileBase) :
    List (String × PyValue) :=
  [("type", .str type), ("file", .str base.file), ("file_mime_type", .str base.fileMimeType),
    ("file_id", .str base.fileId.str), ("file_name", .str base.fileName),
    ("file_size", .int base.fileSize), ("file_hash", .str base.fileHash),
    ("file_preview", dumpOptional .str base.filePreview),
    ("file_preview_height", dumpOptional .int base.filePreviewHeight),
    ("file_preview_width", dumpOptional .int base.filePreviewWidth),
    ("file_encryption_algo", dumpOptional .str base.fileEncryptionAlgo),
    ("chunk_size", dumpOptional .int base.chunkSize),
    ("caption", dumpOptional .str base.caption)]

def APIAsyncFile.modelDump : APIAsyncFile → PyValue
  | .image base => .dict (base.modelDump "image")
  | .video base duration => .dict (base.modelDump "video" ++ [("duration", .int duration)])
  | .document base => .dict (base.modelDump "document")
  | .voice base duration => .dict (base.modelDump "voice" ++ [("duration", .int duration)])

theorem toOptional_toMissing {α : Type} (value : Option α) :
    toOptional (toMissing value) = value := by
  cases value with
  | none => rfl
  | some present => rfl

theorem FileBase.toDomain_toApi (file : FileBase) : file.toApi.toDomain = file := by
  simp only [FileBase.toApi, APIAsyncFileBase.toDomain, toOptional_toMissing]

theorem convertAsyncFileToDomain_fromDomain (file : File) :
    convertAsyncFileToDomain (convertAsyncFileFromDomain file) = file := by
  cases file with
  | image base => exact congrArg File.image base.toDomain_toApi
  | video base duration => exact congrArg (File.video · duration) base.toDomain_toApi
  | document base => exact congrArg File.document base.toDomain_toApi
  | voice base duration => exact congrArg (File.voice · duration) base.toDomain_toApi

def FileBase.shapes (type : String) (base : FileBase) : List (String × Sparse) :=
  [("type", .leaf (some (.str type))), ("file", .leaf (some (.str base.fileUrl))),
    ("file_mime_type", .leaf (some (.str base.fileMimetype))),
    ("file_id", .leaf (some (.str base.fileId.str))),
    ("file_name", .leaf (some (.str base.filename))),
    ("file_size", .leaf (some (.int base.size))),
    ("file_hash", .leaf (some (.str base.fileHash))),
    ("file_preview", .leaf (base.filePreview.map .str)),
    ("file_preview_height", .leaf (base.filePreviewHeight.map .int)),
    ("file_preview_width", .leaf (base.filePreviewWidth.map .int)),
    ("file_encryption_algo", .leaf (base.fileEncryptionAlgo.map .str)),
    ("chunk_size", .leaf (base.chunkSize.map .int)),
    ("caption", .leaf (base.caption.map .str))]

def File.shapes : File → List (String × Sparse)
  | .image base => base.shapes "image"
  | .video base duration =>
      base.shapes "video" ++ [("duration", .leaf (some (.int duration)))]
  | .document base => base.shapes "document"
  | .voice base duration =>
      base.shapes "voice" ++ [("duration", .leaf (some (.int duration)))]

/-- An optional field is in the object exactly if it is set, to whatever value. -/
theorem prune_dumpOptional {α : Type} (encode : α → PyValue) (json : α → Json)
    (same : ∀ x, prune (encode x) = some (json x)) (value : Option α) :
    prune (dumpOptional encode (toMissing value)) =
      (Sparse.leaf (value.map json)).render := by
  cases value with
  | none => rfl
  | some present => exact same present

theorem FileBase.dumps (type : String) (base : FileBase) :
    Dumps (base.toApi.modelDump type) (base.shapes type) := by
  unfold APIAsyncFileBase.modelDump FileBase.shapes
  refine .cons rfl (.cons rfl (.cons rfl (.cons rfl (.cons rfl (.cons rfl (.cons rfl
    (.cons ?_ (.cons ?_ (.cons ?_ (.cons ?_ (.cons ?_ (.cons ?_ .nil))))))))))))
  · exact prune_dumpOptional .str .str (fun _ => rfl) base.filePreview
  · exact prune_dumpOptional .int .int (fun _ => rfl) base.filePreviewHeight
  · exact prune_dumpOptional .int .int (fun _ => rfl) base.filePreviewWidth
  · exact prune_dumpOptional .str .str (fun _ => rfl) base.fileEncryptionAlgo
  · exact prune_dumpOptional .int .int (fun _ => rfl) base.chunkSize
  · exact prune_dumpOptional .str .str (fun _ => rfl) base.caption

theorem FileBase.dumps_duration (type : String) (base : FileBase) (duration : Int) :
    Dumps (base.toApi.modelDump type ++ [("duration", .int duration)])
      (base.shapes type ++ [("duration", .leaf (some (.int duration)))]) :=
  List.rel_append (base.dumps type) (Dumps.cons rfl .nil)

private theorem prune_typed {fields : List (String × PyValue)} {type : String}
    {rest : List (String × Sparse)}
    (dumps : Dumps fields (("type", .leaf (some (.str type))) :: rest)) :
    prune (.dict fields) =
      some (.obj (Sparse.renderFields (("type", .leaf (some (.str type))) :: rest))) := by
  have nonempty : fields.length ≠ 0 := by
    rw [List.Forall₂.length_eq dumps]
    exact Nat.succ_ne_zero _
  rw [prune_dict_eq_render nonempty dumps]
  rfl

theorem prune_file (file : File) :
    prune (convertAsyncFileFromDomain file).modelDump =
      some (.obj (Sparse.renderFields file.shapes)) := by
  cases file with
  | image base => exact prune_typed (base.dumps "image")
  | video base duration => exact prune_typed (base.dumps_duration "video" duration)
  | document base => exact prune_typed (base.dumps "document")
  | voice base duration => exact prune_typed (base.dumps_duration "voice" duration)

/-! ### The object read back -/

/-- Identifiers and numbers are read from the JSON they are written as. -/
structure ReadsOwn (scalars : Scalars) : Prop where
  uuid : ∀ id : UUID, scalars.uuid (.str id.str) = some id
  int : ∀ number : Int, scalars.int (.int number) = some number

structure HoldsFile (base : FileBase) (entries : List (String × Json)) : Prop where
  file : Dict.get "file" entries = some (.str base.fileUrl)
  fileMimeType : Dict.get "file_mime_type" entries = some (.str base.fileMimetype)
  fileId : Dict.get "file_id" entries = some (.str base.fileId.str)
  fileName : Dict.get "file_name" entries = some (.str base.filename)
  fileSize : Dict.get "file_size" entries = some (.int base.size)
  fileHash : Dict.get "file_hash" entries = some (.str base.fileHash)
  filePreview : Dict.get "file_preview" entries = base.filePreview.map .str
  filePreviewHeight : Dict.get "file_preview_height" entries = base.filePreviewHeight.map .int
  filePreviewWidth : Dict.get "file_preview_width" entries = base.filePreviewWidth.map .int
  fileEncryptionAlgo : Dict.get "file_encryption_algo" entries = base.fileEncryptionAlgo.map .str
  chunkSize : Dict.get "chunk_size" entries = base.chunkSize.map .int
  caption : Dict.get "caption" entries = base.caption.map .str

def fileKeys : List String :=
  ["type", "file", "file_mime_type", "file_id", "file_name", "file_size", "file_hash",
    "file_preview", "file_preview_height", "file_preview_width", "file_encryption_algo",
    "chunk_size", "caption"]

theorem FileBase.shapes_keys (type : String) (base : FileBase) (rest : List (String × Sparse)) :
    (base.shapes type ++ rest).map Prod.fst = fileKeys ++ rest.map Prod.fst := rfl

theorem holdsFile_shapes (type : String) (base : FileBase) (rest : List (String × Sparse))
    (distinct : (fileKeys ++ rest.map Prod.fst).Nodup) :
    Dict.get "type" (Sparse.renderFields (base.shapes type ++ rest)) = some (.str type) ∧
      HoldsFile base (Sparse.renderFields (base.shapes type ++ rest)) ∧
      Dict.get "duration" (Sparse.renderFields (base.shapes type ++ rest)) =
        (Dict.get "duration" rest).bind Sparse.render := by
  rw [← base.shapes_keys type rest] at distinct
  have get (key : String) := Sparse.get_renderFields _ distinct key
  refine ⟨get "type", ?_, get "duration"⟩
  constructor
  · exact get "file"
  · exact get "file_mime_type"
  · exact get "file_id"
  · exact get "file_name"
  · exact get "file_size"
  · exact get "file_hash"
  · exact get "file_preview"
  · exact get "file_preview_height"
  · exact get "file_preview_width"
  · exact get "file_encryption_algo"
  · exact get "chunk_size"
  · exact get "caption"

section

variable {scalars : Scalars} {ε : Type}

theorem missingOptional_of_get {α : Type} {key : String} {inner : Validator ε α}
    {entries : List (String × Json)} {json : α → Json} {value : Option α}
    (given : Dict.get key entries = value.map json)
    (reads : ∀ x, json x ≠ .null ∧ inner (json x) = .valid x) :
    missingOptional key inner entries = .valid (toMissing value) := by
  unfold missingOptional
  rw [defaulted_eq_valid_iff, given]
  cases value with
  | none => exact Or.inl ⟨rfl, rfl⟩
  | some present =>
      right
      refine ⟨json present, rfl, ?_⟩
      rw [Validated.map_eq_valid_iff]
      refine ⟨some present, ?_, rfl⟩
      rw [optional_eq_valid_iff]
      exact Or.inr ⟨(reads present).1, present, (reads present).2, rfl⟩

theorem required_of_get {α : Type} {key : String} {inner : Validator ε α}
    {entries : List (String × Json)} {raw : Json} {value : α}
    (given : Dict.get key entries = some raw) (reads : inner raw = .valid value) :
    required key inner entries = .valid value :=
  (required_eq_valid_iff _ _ _ _).mpr ⟨raw, given, reads⟩

theorem fields_of_holdsFile (own : ReadsOwn scalars) {base : FileBase}
    {entries : List (String × Json)} (holds : HoldsFile base entries) :
    (APIAsyncFileBase.fields scalars entries : Validated ε _) = .valid base.toApi := by
  have uuid (id : UUID) : (scalars.checkUuid (.str id.str) : Validated ε _) = .valid id :=
    (ofOption_eq_valid_iff _ _ _).mpr (own.uuid id)
  have int (number : Int) : (scalars.checkInt (.int number) : Validated ε _) = .valid number :=
    (ofOption_eq_valid_iff _ _ _).mpr (own.int number)
  have readsStr (text : String) :
      Json.str text ≠ .null ∧ (str (.str text) : Validated ε _) = .valid text :=
    ⟨Json.noConfusion, rfl⟩
  have readsInt (number : Int) :
      Json.int number ≠ .null ∧ (scalars.checkInt (.int number) : Validated ε _) = .valid number :=
    ⟨Json.noConfusion, int number⟩
  unfold APIAsyncFileBase.fields
  rw [required_of_get holds.file (readsStr _).2, required_of_get holds.fileMimeType (readsStr _).2,
    required_of_get holds.fileId (uuid _), required_of_get holds.fileName (readsStr _).2,
    required_of_get holds.fileSize (int _), required_of_get holds.fileHash (readsStr _).2,
    missingOptional_of_get holds.filePreview readsStr,
    missingOptional_of_get holds.filePreviewHeight readsInt,
    missingOptional_of_get holds.filePreviewWidth readsInt,
    missingOptional_of_get holds.fileEncryptionAlgo readsStr,
    missingOptional_of_get holds.chunkSize readsInt,
    missingOptional_of_get holds.caption readsStr]
  rfl

private theorem typed_of_get {type : String} {entries : List (String × Json)}
    (given : Dict.get "type" entries = some (.str type)) (kind : String) :
    (required "type" (literal kind) entries : Validated ε Unit) =
      if type = kind then .valid () else .invalid := by
  unfold required
  rw [given, Option.elim_some, literal, Json.equalsStr]
  by_cases same : type = kind
  · simp [same]
  · simp [same]

private theorem duration_of_absent {entries : List (String × Json)}
    (absent : Dict.get "duration" entries = none) :
    (required "duration" scalars.checkInt entries : Validated ε Int) = .invalid := by
  unfold required
  rw [absent]
  rfl

private theorem duration_of_get (own : ReadsOwn scalars) {entries : List (String × Json)}
    {duration : Int} (given : Dict.get "duration" entries = some (.int duration)) :
    (required "duration" scalars.checkInt entries : Validated ε Int) = .valid duration :=
  required_of_get given ((ofOption_eq_valid_iff _ _ _).mpr (own.int duration))

private theorem check_plain (own : ReadsOwn scalars) (base : FileBase) :
    (APIAsyncFile.check scalars (.obj (Sparse.renderFields (base.shapes "image"))) :
        Validated ε _) = .valid (.image base.toApi) ∧
      (APIAsyncFile.check scalars (.obj (Sparse.renderFields (base.shapes "document"))) :
        Validated ε _) = .valid (.document base.toApi) := by
  have facts (type : String) := holdsFile_shapes type base [] (by decide)
  simp only [List.append_nil] at facts
  constructor
  · obtain ⟨given, holds, absent⟩ := facts "image"
    simp only [APIAsyncFile.check, union, List.map_cons, List.map_nil, model, typed_of_get given,
      fields_of_holdsFile own holds, duration_of_absent absent]
    rfl
  · obtain ⟨given, holds, absent⟩ := facts "document"
    simp only [APIAsyncFile.check, union, List.map_cons, List.map_nil, model, typed_of_get given,
      fields_of_holdsFile own holds, duration_of_absent absent]
    rfl

private theorem check_lasting (own : ReadsOwn scalars) (base : FileBase) (duration : Int) :
    (APIAsyncFile.check scalars (.obj (Sparse.renderFields
        (base.shapes "video" ++ [("duration", .leaf (some (.int duration)))]))) :
          Validated ε _) = .valid (.video base.toApi duration) ∧
      (APIAsyncFile.check scalars (.obj (Sparse.renderFields
        (base.shapes "voice" ++ [("duration", .leaf (some (.int duration)))]))) :
          Validated ε _) = .valid (.voice base.toApi duration) := by
  have distinct : (fileKeys ++ ["duration"]).Nodup := by decide
  have facts (type : String) := holdsFile_shapes type base
    [("duration", .leaf (some (.int duration)))] distinct
  constructor
  · obtain ⟨given, holds, lasts⟩ := facts "video"
    simp only [APIAsyncFile.check, union, List.map_cons, List.map_nil, model, typed_of_get given,
      fields_of_holdsFile own holds, duration_of_get own lasts]
    rfl
  · obtain ⟨given, holds, lasts⟩ := facts "voice"
    simp only [APIAsyncFile.check, union, List.map_cons, List.map_nil, model, typed_of_get given,
      fields_of_holdsFile own holds, duration_of_get own lasts]
    rfl

/-- The union picks the class the file came from. -/
theorem check_file (own : ReadsOwn scalars) (file : File) :
    (APIAsyncFile.check scalars (.obj (Sparse.renderFields file.shapes)) : Validated ε _) =
      .valid (convertAsyncFileFromDomain file) := by
  cases file with
  | image base => exact (check_plain own base).1
  | video base duration => exact (check_lasting own base duration).1
  | document base => exact (check_plain own base).2
  | voice base duration => exact (check_lasting own base duration).2

end

def smartappApiVersion : Int := 1

structure BotXAPISmartAppEventRequestPayload where
  ref : MissingOptional UUID
  smartappId : UUID
  groupChatId : UUID
  data : List (String × PyValue)
  opts : Missing (List (String × PyValue))
  smartappApiVersion : Int
  asyncFiles : Missing (List APIAsyncFile)
  encrypted : Bool

/-- An empty list of files is as good as none. -/
def BotXAPISmartAppEventRequestPayload.fromDomain (ref : MissingOptional UUID)
    (smartappId chatId : UUID) (data : List (String × PyValue))
    (opts : Missing (List (String × PyValue))) (files : Missing (List File)) (encrypted : Bool) :
    BotXAPISmartAppEventRequestPayload where
  ref := ref
  smartappId := smartappId
  groupChatId := chatId
  data := data
  opts := opts
  smartappApiVersion := Pybotx.smartappApiVersion
  asyncFiles :=
    match files with
    | .undefined | .value [] => .undefined
    | .value files => .value (files.map convertAsyncFileFromDomain)
  encrypted := encrypted

def BotXAPISmartAppEventRequestPayload.modelDump
    (payload : BotXAPISmartAppEventRequestPayload) : List (String × PyValue) :=
  [("ref", dumpOptional (fun id => .str id.str) payload.ref),
    ("smartapp_id", .str payload.smartappId.str),
    ("group_chat_id", .str payload.groupChatId.str), ("data", .dict payload.data),
    ("opts", payload.opts.toPyValue .dict),
    ("smartapp_api_version", .int payload.smartappApiVersion),
    ("async_files", payload.asyncFiles.toPyValue fun files =>
      .list (files.map APIAsyncFile.modelDump)),
    ("encrypted", .bool payload.encrypted)]

/-- The body `SmartAppEventMethod.execute` sends. -/
def BotXAPISmartAppEventRequestPayload.body (payload : BotXAPISmartAppEventRequestPayload) :
    Option Json :=
  match jsonableDict (.dict payload.modelDump) with
  | some (.obj json) =>
      some (.obj (Dict.set "opts" ((Dict.get "opts" json).getD (.obj [])) json))
  | other => other

structure BotAPISyncSmartAppEventResultResponse where
  data : PyValue
  files : List APIAsyncFile

def BotAPISyncSmartAppEventResultResponse.fromDomain (data : PyValue)
    (files : Missing (List File)) : BotAPISyncSmartAppEventResultResponse where
  data := data
  files :=
    match files with
    | .undefined => []
    | .value files => files.map convertAsyncFileFromDomain

def BotAPISyncSmartAppEventResultResponse.modelDump
    (response : BotAPISyncSmartAppEventResultResponse) : List (String × PyValue) :=
  [("data", response.data), ("files", .list (response.files.map APIAsyncFile.modelDump))]

def BotAPISyncSmartAppEventResultResponse.body
    (response : BotAPISyncSmartAppEventResultResponse) : Option Json :=
  (jsonableDict (.dict response.modelDump)).map fun result =>
    .obj [("status", .str "ok"), ("result", result)]

/-- At a path of the body stands a list that is read as these files. -/
def FilesComeBack (scalars : Scalars) (body : Option Json) (path : List String)
    (files : List File) : Prop :=
  ∃ items received, body.bind (Json.atPath path) = some (.arr items) ∧
    (list (APIAsyncFile.check scalars) (.arr items) : Validated PyError _) = .valid received ∧
      received.map convertAsyncFileToDomain = files

private theorem prune_files (files : List File) :
    prune (.list ((files.map convertAsyncFileFromDomain).map APIAsyncFile.modelDump)) =
      some (.arr (files.map fun file => .obj (Sparse.renderFields file.shapes))) := by
  rw [List.map_map]
  exact prune_list_of_kept files _ _ fun file _ => prune_file file

private theorem filesComeBack_of_body {scalars : Scalars} (own : ReadsOwn scalars)
    {body : Option Json} {path : List String} {files : List File}
    (placed : body.bind (Json.atPath path) =
      some (.arr (files.map fun file => .obj (Sparse.renderFields file.shapes)))) :
    FilesComeBack scalars body path files := by
  refine ⟨_, files.map convertAsyncFileFromDomain, placed, ?_, ?_⟩
  · apply (list_eq_valid_iff _ _ _).mpr
    refine ⟨_, rfl, ?_⟩
    rw [List.forall₂_map_left_iff, List.forall₂_map_right_iff, List.forall₂_same]
    exact fun file _ => check_file own file
  · rw [List.map_map]
    apply List.map_id''
    exact convertAsyncFileToDomain_fromDomain

theorem eventBody_files (ref : MissingOptional UUID) (smartappId chatId : UUID)
    (data : List (String × PyValue)) (opts : Missing (List (String × PyValue)))
    (files : List File) (nonempty : files ≠ []) (encrypted : Bool) :
    (BotXAPISmartAppEventRequestPayload.fromDomain ref smartappId chatId data opts
        (.value files) encrypted).body.bind (Json.atPath ["async_files"]) =
      some (.arr (files.map fun file => .obj (Sparse.renderFields file.shapes))) := by
  obtain ⟨first, rest, rfl⟩ := List.exists_cons_of_ne_nil nonempty
  let payload := BotXAPISmartAppEventRequestPayload.fromDomain ref smartappId chatId data opts
    (.value (first :: rest)) encrypted
  have distinct : (payload.modelDump.map Prod.fst).Nodup := by
    change ["ref", "smartapp_id", "group_chat_id", "data", "opts", "smartapp_api_version",
      "async_files", "encrypted"].Nodup
    decide
  have given : Dict.get "async_files" payload.modelDump =
      some (.list (((first :: rest).map convertAsyncFileFromDomain).map APIAsyncFile.modelDump)) :=
    rfl
  have body : payload.body = some (.obj (Dict.set "opts"
      ((Dict.get "opts" (pruneFields payload.modelDump)).getD (.obj []))
        (pruneFields payload.modelDump))) := by
    unfold BotXAPISmartAppEventRequestPayload.body
    rw [jsonableDict_dict]
  change payload.body.bind (Json.atPath ["async_files"]) = _
  rw [body, Option.bind_some, Json.atPath, Dict.get_set_of_ne _ _ _ (by decide),
    get_pruneFields _ distinct, given, Option.bind_some, prune_files]
  rfl

theorem resultBody_files (data : PyValue) (files : List File) :
    (BotAPISyncSmartAppEventResultResponse.fromDomain data (.value files)).body.bind
        (Json.atPath ["result", "files"]) =
      some (.arr (files.map fun file => .obj (Sparse.renderFields file.shapes))) := by
  let response := BotAPISyncSmartAppEventResultResponse.fromDomain data (.value files)
  have distinct : (response.modelDump.map Prod.fst).Nodup := by
    change ["data", "files"].Nodup
    decide
  have given : Dict.get "files" response.modelDump =
      some (.list ((files.map convertAsyncFileFromDomain).map APIAsyncFile.modelDump)) := rfl
  have inResult : Dict.get "files" (pruneFields response.modelDump) =
      some (.arr (files.map fun file => .obj (Sparse.renderFields file.shapes))) := by
    rw [get_pruneFields _ distinct, given, Option.bind_some, prune_files]
  have body : response.body = some (.obj [("status", .str "ok"),
      ("result", .obj (pruneFields response.modelDump))]) := by
    unfold BotAPISyncSmartAppEventResultResponse.body
    rw [jsonableDict_dict]
    rfl
  change response.body.bind (Json.atPath ["result", "files"]) = _
  rw [body]
  change (Dict.get "files" (pruneFields response.modelDump)).bind (Json.atPath []) = _
  rw [inResult]
  rfl

/-- A file comes back as it was: alone, from the body of a SmartApp event and from the answer
to a synchronous one. -/
theorem asyncFiles_come_back (scalars : Scalars) (own : ReadsOwn scalars) (files : List File) :
    (∀ file ∈ files, ∃ json received,
      prune (convertAsyncFileFromDomain file).modelDump = some json ∧
        (APIAsyncFile.check scalars json : Validated PyError _) = .valid received ∧
          convertAsyncFileToDomain received = file) ∧
      (∀ ref smartappId chatId data opts encrypted, files ≠ [] →
        FilesComeBack scalars (BotXAPISmartAppEventRequestPayload.fromDomain ref smartappId chatId
          data opts (.value files) encrypted).body ["async_files"] files) ∧
      ∀ data, FilesComeBack scalars
        (BotAPISyncSmartAppEventResultResponse.fromDomain data (.value files)).body
        ["result", "files"] files := by
  refine ⟨?_, ?_, ?_⟩
  · intro file _
    exact ⟨_, _, prune_file file, check_file own file, convertAsyncFileToDomain_fromDomain file⟩
  · intro ref smartappId chatId data opts encrypted nonempty
    exact filesComeBack_of_body own
      (eventBody_files ref smartappId chatId data opts files nonempty encrypted)
  · intro data
    exact filesComeBack_of_body own (resultBody_files data files)

theorem strict_uuid (value : String) : Scalars.strict.uuid (.str value) = UUID.parse value := by
  simp only [Scalars.strict]

theorem strict_readsOwn : ReadsOwn .strict := by
  constructor
  · intro id
    rw [strict_uuid]
    exact UUID.parse_str id
  · intro number
    rfl

def demoVoice : File :=
  .voice
    { filename := "record.mp3"
      size := 0
      fileId := ⟨⟨0xa619fcfaa19b5256a5929b0e75ca0896, by decide⟩⟩
      fileUrl := "https://link.to/file"
      fileMimetype := "audio/mpeg"
      fileHash := ""
      filePreview := none
      filePreviewHeight := some 0
      filePreviewWidth := none
      fileEncryptionAlgo := some "stream"
      chunkSize := some 2097152
      caption := some "" } 0

theorem asyncFiles_come_back_demo :
    (∀ file ∈ [demoVoice], ∃ json received,
      prune (convertAsyncFileFromDomain file).modelDump = some json ∧
        (APIAsyncFile.check .strict json : Validated PyError _) = .valid received ∧
          convertAsyncFileToDomain received = file) ∧
      (∀ ref smartappId chatId data opts encrypted, [demoVoice] ≠ [] →
        FilesComeBack .strict (BotXAPISmartAppEventRequestPayload.fromDomain ref smartappId chatId
          data opts (.value [demoVoice]) encrypted).body ["async_files"] [demoVoice]) ∧
      ∀ data, FilesComeBack .strict
        (BotAPISyncSmartAppEventResultResponse.fromDomain data (.value [demoVoice])).body
        ["result", "files"] [demoVoice] :=
  asyncFiles_come_back .strict strict_readsOwn [demoVoice]

end Pybotx
