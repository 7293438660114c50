/-
Files on their way to the server and back.

An upload takes what is left of a buffer, in chunks, and leaves the buffer at its end.  A
download writes the chunks of the body over what the buffer holds and rewinds it at last.
-/

import Pybotx.Client.EventsApi
import Pybotx.Client.QueryParameters
import Pybotx.Client.Requests
import Pybotx.Client.SmartappsApi
import Pybotx.Foundation.Buffer

set_option autoImplicit false

namespace Pybotx

def chunkSize : Nat := 1024 * 1024

/-- The chunks of the buffer go to a temporary file, which is then read from its start. -/
def spool (buffer : Buffer UInt8) : List UInt8 × Buffer UInt8 :=
  let (chunks, after) := buffer.readChunks chunkSize
  let tmpFile := chunks.foldl (Buffer.write 0) ⟨[], 0⟩
  ((Buffer.read none tmpFile.rewound).1, after)

def uploadPayload (fields : List (String × FormField)) (filename : String)
    (content : List UInt8) : Payload where
  params := []
  content := .fields (fields ++ [("content", .file filename content)])

/-- `execute` of both `UploadFileMethod`s; the buffer is read before anything else. -/
def executeUpload (method : BotXMethod) (env : Environment) (fields : List (String × FormField))
    (filename : String) (buffer : Buffer UInt8) (session : Session) :
    Result method.Answer × Session × Buffer UInt8 :=
  let (content, after) := spool buffer
  let (answer, session) := method.execute env (uploadPayload fields filename content) session
  (answer, session, after)

def uploadRequest (method : BotXMethod) (env : Environment) (fields : List (String × FormField))
    (filename : String) (buffer : Buffer UInt8) (session : Session) : Option OutgoingRequest :=
  method.sends env (uploadPayload fields filename (spool buffer).1) session

structure BotXAPIUploadFileMeta where
  duration : Missing Int
  caption : Missing String

def BotXAPIUploadFileMeta.modelDump (info : BotXAPIUploadFileMeta) : PyValue :=
  .dict [("duration", info.duration.toPyValue .int), ("caption", info.caption.toPyValue .str)]

structure BotXAPIUploadFileRequestPayload where
  groupChatId : UUID
  info : String

namespace BotXAPIUploadFileRequestPayload

/-- `dumps` is `json.dumps`; a dictionary is always left of a dictionary. -/
def fromDomain (dumps : Json → String) (chatId : UUID) (duration : Missing Int)
    (caption : Missing String) : BotXAPIUploadFileRequestPayload where
  groupChatId := chatId
  info := ((BotXAPIUploadFileMeta.mk duration caption).modelDump.jsonableDict.map dumps).getD ""

def modelDump (payload : BotXAPIUploadFileRequestPayload) : PyValue :=
  .dict [("group_chat_id", .str payload.groupChatId.str), ("meta", .str payload.info)]

def fields (payload : BotXAPIUploadFileRequestPayload) : List (String × FormField) :=
  (paramsOf payload.modelDump).map fun field => (field.1, .text field.2)

end BotXAPIUploadFileRequestPayload

def uploadFile (env : Environment) (dumps : Json → String) (chatId : UUID) (filename : String)
    (duration : Missing Int) (caption : Missing String) (buffer : Buffer UInt8)
    (session : Session) : Result File × Session × Buffer UInt8 :=
  let payload := BotXAPIUploadFileRequestPayload.fromDomain dumps chatId duration caption
  let (answer, session, after) := executeUpload (uploadFileMethod env.python) env payload.fields
    filename buffer session
  (answer.map fun uploaded : OkPayload APIAsyncFile => convertAsyncFileToDomain uploaded.result,
    session, after)

def uploadStaticFile (env : Environment) (filename : String) (buffer : Buffer UInt8)
    (session : Session) : Result String × Session × Buffer UInt8 :=
  let (answer, session, after) := executeUpload smartAppUploadFileMethod env [] filename buffer
    session
  (answer.map fun uploaded : OkPayload BotXAPIUploadFileResult => uploaded.result.link, session,
    after)

def uploadFileRequest (env : Environment) (dumps : Json → String) (chatId : UUID)
    (filename : String) (duration : Missing Int) (caption : Missing String)
    (buffer : Buffer UInt8) (session : Session) : Option OutgoingRequest :=
  uploadRequest (uploadFileMethod env.python) env
    (BotXAPIUploadFileRequestPayload.fromDomain dumps chatId duration caption).fields filename
    buffer session

def uploadStaticFileRequest (env : Environment) (filename : String) (buffer : Buffer UInt8)
    (session : Session) : Option OutgoingRequest :=
  uploadRequest smartAppUploadFileMethod env [] filename buffer session

def BufferCall.apply (buffer : Buffer UInt8) : BufferCall → Buffer UInt8
  | .write chunk => buffer.write 0 chunk
  | .seek position => { buffer with position := position }

def executeDownload (method : BotXMethod) (env : Environment) (payload : Payload)
    (buffer : Buffer UInt8) (session : Session) :
    Result method.Answer × Session × Buffer UInt8 :=
  let (answer, after) := method.execute env payload { session with buffer := [] }
  (answer, { after with buffer := session.buffer }, after.buffer.foldl BufferCall.apply buffer)

def downloadPayload (chatId fileId : UUID) (isPreview : Bool) : Payload where
  params := paramsOf (BotXAPIDownloadFileRequestPayload.mk chatId fileId isPreview).modelDump
  content := .empty

def downloadFile (env : Environment) (chatId fileId : UUID) (isPreview : Bool)
    (buffer : Buffer UInt8) (session : Session) : Result Unit × Session × Buffer UInt8 :=
  executeDownload (downloadFileMethod env.python) env (downloadPayload chatId fileId isPreview)
    buffer session

/-- The temporary file holds what was left of the buffer, which is then at its end. -/
theorem spool_eq (buffer : Buffer UInt8) :
    spool buffer =
      (buffer.remaining,
        { buffer with position := buffer.position + buffer.remaining.length }) := by
  obtain ⟨chunks, after⟩ := buffer.readChunks_eq chunkSize (by decide)
  refine Prod.ext ?_ after
  change (Buffer.read none (Buffer.rewound _)).1 = _
  rw [Buffer.foldl_write, chunks, Buffer.rewound_write_empty]
  rfl

theorem remaining_of_spooled (buffer : Buffer UInt8) : (spool buffer).2.remaining = [] := by
  rw [spool_eq]
  change buffer.content.drop (buffer.position + (buffer.content.drop buffer.position).length) = []
  rw [← List.drop_drop, List.drop_length]

def uploadMetaJson (duration : Missing Int) (caption : Missing String) : Json :=
  .obj (((duration.toOption.map fun seconds => ("duration", Json.int seconds)).toList) ++
    ((caption.toOption.map fun text => ("caption", Json.str text)).toList))

theorem fromDomain_fields (dumps : Json → String) (chatId : UUID) (duration : Missing Int)
    (caption : Missing String) :
    (BotXAPIUploadFileRequestPayload.fromDomain dumps chatId duration caption).fields =
      [("group_chat_id", .text (.str chatId.str)),
        ("meta", .text (.str (dumps (uploadMetaJson duration caption))))] := by
  cases duration <;> cases caption <;> rfl

/-- An upload carries what is left of the buffer, and whatever comes of it, the buffer is at
its end and a second upload is empty. -/
structure UploadsRest (request : Buffer UInt8 → Session → Option OutgoingRequest)
    (after : Buffer UInt8 → Session → Buffer UInt8) (fields : List (String × FormField))
    (filename : String) (buffer : Buffer UInt8) (session : Session) : Prop where
  carries : ∀ outgoing, request buffer session = some outgoing →
    outgoing.content = .fields (fields ++ [("content", .file filename buffer.remaining)])
  leaves : after buffer session =
    { buffer with position := buffer.position + buffer.remaining.length }
  again : ∀ later outgoing, request (after buffer session) later = some outgoing →
    outgoing.content = .fields (fields ++ [("content", .file filename [])])

theorem uploadsRest {Answer : Type} (verb path : String) (handlers : StatusHandlers)
    (reading : ModelReading Answer) (env : Environment) (fields : List (String × FormField))
    (filename : String) (buffer : Buffer UInt8) (session : Session) :
    UploadsRest (uploadRequest (authorizedMethod verb path handlers reading) env fields filename)
      (fun buffer _ => (spool buffer).2) fields filename buffer session := by
  refine ⟨?_, ?_, ?_⟩
  · intro outgoing sent
    rw [BotXMethod.content_of_sent sent, spool_eq]
    rfl
  · rw [spool_eq]
  · intro later outgoing sent
    rw [BotXMethod.content_of_sent sent, spool_eq (spool buffer).2, remaining_of_spooled]
    rfl

theorem uploadFile_rest (env : Environment) (dumps : Json → String) (chatId : UUID)
    (filename : String) (duration : Missing Int) (caption : Missing String)
    (buffer : Buffer UInt8) (session : Session) :
    UploadsRest (uploadFileRequest env dumps chatId filename duration caption)
      (fun buffer session =>
        (uploadFile env dumps chatId filename duration caption buffer session).2.2)
      [("group_chat_id", .text (.str chatId.str)),
        ("meta", .text (.str (dumps (uploadMetaJson duration caption))))]
      filename buffer session := by
  have rest := uploadsRest "POST" "/api/v3/botx/files/upload"
    (authorizedStatusHandlers.set 404 (responseExceptionThrower .chatNotFound none))
    (.returning (okPayload (APIAsyncFile.check env.python.toScalars))) env
    (BotXAPIUploadFileRequestPayload.fromDomain dumps chatId duration caption).fields filename
    buffer session
  rw [fromDomain_fields] at rest
  refine ⟨?_, rest.leaves, ?_⟩
  · intro outgoing sent
    unfold uploadFileRequest at sent
    rw [fromDomain_fields] at sent
    exact rest.carries outgoing sent
  · intro later outgoing sent
    unfold uploadFileRequest at sent
    rw [fromDomain_fields] at sent
    exact rest.again later outgoing sent

/-- However many chunks it takes and whatever was read of the buffer before, both ways of
uploading a file send what is left of it. -/
theorem uploads_carryTheRest (env : Environment) (dumps : Json → String) (chatId : UUID)
    (filename : String) (duration : Missing Int) (caption : Missing String)
    (buffer : Buffer UInt8) (session : Session) :
    UploadsRest (uploadFileRequest env dumps chatId filename duration caption)
        (fun buffer session =>
          (uploadFile env dumps chatId filename duration caption buffer session).2.2)
        [("group_chat_id", .text (.str chatId.str)),
          ("meta", .text (.str (dumps (uploadMetaJson duration caption))))]
        filename buffer session ∧
      UploadsRest (uploadStaticFileRequest env filename)
        (fun buffer session => (uploadStaticFile env filename buffer session).2.2) [] filename
        buffer session :=
  ⟨uploadFile_rest env dumps chatId filename duration caption buffer session,
    uploadsRest "POST" "/api/v3/botx/smartapps/upload_file"
      (authorizedStatusHandlers.set 400 (responseExceptionThrower .fileTypeNotAllowed none))
      (.returning (okPayload BotXAPIUploadFileResult.check)) env [] filename buffer session⟩

/-! ### What a download leaves -/

def copied (buffer : Buffer UInt8) (body : Body) : Result Unit × Buffer UInt8 :=
  match body.failure with
  | none => (.ok (), (buffer.write 0 body.bytes).rewound)
  | some description => (.error (.httpError description), buffer.write 0 body.bytes)

def downloadOutcome (handlers : StatusHandlers) (outgoing : OutgoingRequest)
    (buffer : Buffer UInt8) : Exchange → Result Unit × Buffer UInt8
  | .failed description => (.error (networkError outgoing description), buffer)
  | .answered url status body =>
      match raiseForStatus handlers ⟨some outgoing.method, url, status, body⟩ with
      | .error exc => (.error exc, buffer)
      | .ok () => copied buffer body

theorem foldl_apply_write (chunks : List (List UInt8)) (buffer : Buffer UInt8) :
    (chunks.map BufferCall.write).foldl BufferCall.apply buffer =
      buffer.write 0 chunks.flatten := by
  rw [List.foldl_map]
  exact buffer.foldl_write 0 chunks

section

variable {verb path : String} {handlers : StatusHandlers} {env : Environment} {payload : Payload}
  {buffer : Buffer UInt8} {session : Session}

variable (buffer) in
theorem executeDownload_of_not_sent
    (notSent : (streamedMethod verb path handlers).sends env payload session = none) :
    ∃ exc, (executeDownload (streamedMethod verb path handlers) env payload buffer session).1 =
        .error exc ∧
      (executeDownload (streamedMethod verb path handlers) env payload buffer session).2.2 =
        buffer := by
  have unsent : (streamedMethod verb path handlers).sends env payload
      { session with buffer := [] } = none := notSent
  obtain ⟨exc, raised⟩ := BotXMethod.execute_of_not_sent unsent
  refine ⟨exc, ?_, ?_⟩
  · exact congrArg Prod.fst raised
  · unfold executeDownload
    rw [raised]
    rfl

variable (buffer) in
theorem executeDownload_of_sent {outgoing : OutgoingRequest}
    (sent : (streamedMethod verb path handlers).sends env payload session = some outgoing) :
    (executeDownload (streamedMethod verb path handlers) env payload buffer session).1 =
        (downloadOutcome handlers outgoing buffer (env.httpClient outgoing)).1 ∧
      (executeDownload (streamedMethod verb path handlers) env payload buffer session).2.2 =
        (downloadOutcome handlers outgoing buffer (env.httpClient outgoing)).2 := by
  obtain ⟨authorized, prepared⟩ := BotXMethod.sends_eq_some_iff.mp sent
  have prepared : (streamedMethod verb path handlers).prepare env payload
      { session with buffer := [] }.storage = .ok (outgoing, authorized) := prepared
  unfold executeDownload BotXMethod.execute downloadOutcome
  rw [prepared]
  simp only [streamedMethod, botxMethodStream, HttpClient.request]
  cases env.httpClient outgoing with
  | failed description => exact ⟨rfl, rfl⟩
  | answered url status body =>
      simp only
      cases raiseForStatus handlers ⟨some outgoing.method, url, status, body⟩ with
      | error exc => exact ⟨rfl, rfl⟩
      | ok passed =>
          simp only [copyChunks_eq, List.nil_append, copied]
          cases body.failure with
          | none =>
              refine ⟨rfl, ?_⟩
              simp only [Session.call, List.foldl_append, foldl_apply_write]
              rfl
          | some description => exact ⟨rfl, foldl_apply_write body.chunks buffer⟩

end

/-- The server takes the request for a file and begins to send it. -/
def Arrives (env : Environment) (payload : Payload) (session : Session) (body : Body) : Prop :=
  ∃ outgoing url status, (downloadFileMethod env.python).sends env payload session =
      some outgoing ∧
    env.httpClient outgoing = .answered url status body ∧ (200 ≤ status ∧ status < 300) ∧
    status ≠ 204

theorem downloadStatusHandlers_of_success (python : Interpreter) {status : Nat}
    (successful : 200 ≤ status ∧ status < 300) :
    (downloadFileMethod python).statusHandlers status = none ↔ status ≠ 204 := by
  obtain ⟨lower, upper⟩ := successful
  change ((authorizedStatusHandlers.set 204 _).set 404 _) status = none ↔ _
  rw [StatusHandlers.set_of_lt _ _ (by omega)]
  by_cases deleted : status = 204
  · subst deleted
    constructor
    · intro impossible
      change Function.update authorizedStatusHandlers 204 (some _) 204 = none at impossible
      rw [Function.update_self] at impossible
      cases impossible
    · intro impossible
      exact absurd rfl impossible
  · have same : authorizedStatusHandlers.set 204 (responseExceptionThrower .fileDeleted none)
        status = authorizedStatusHandlers status := Function.update_of_ne deleted _ _
    rw [same, authorizedStatusHandlers_of_success ⟨lower, upper⟩]
    exact ⟨fun _ => deleted, fun _ => rfl⟩

theorem passes_iff (python : Interpreter) (method : Option String) (url : String) (status : Nat)
    (body : Body) :
    raiseForStatus (downloadFileMethod python).statusHandlers ⟨method, url, status, body⟩ =
        .ok () ↔ (200 ≤ status ∧ status < 300) ∧ status ≠ 204 := by
  rw [raiseForStatus_eq_ok_iff]
  constructor
  · intro passed
    obtain ⟨unhandled, successful⟩ := passed
    exact ⟨successful, (downloadStatusHandlers_of_success python successful).mp unhandled⟩
  · intro passed
    obtain ⟨successful, kept⟩ := passed
    exact ⟨(downloadStatusHandlers_of_success python successful).mpr kept, successful⟩

section

variable {env : Environment} {chatId fileId : UUID} {isPreview : Bool} (buffer : Buffer UInt8)
  {session : Session}

theorem downloadFile_of_arrives {body : Body}
    (arrives : Arrives env (downloadPayload chatId fileId isPreview) session body) :
    (downloadFile env chatId fileId isPreview buffer session).1 = (copied buffer body).1 ∧
      (downloadFile env chatId fileId isPreview buffer session).2.2 = (copied buffer body).2 := by
  obtain ⟨outgoing, url, status, sent, answered, passes⟩ := arrives
  have passed := (passes_iff env.python (some outgoing.method) url status body).mpr passes
  have outcome := executeDownload_of_sent buffer sent
  rw [answered] at outcome
  unfold downloadOutcome at outcome
  simp only [downloadFileMethod, streamedMethod] at passed
  simp only [passed] at outcome
  exact outcome

theorem downloadFile_of_not_arrives
    (nothing : ∀ body, ¬ Arrives env (downloadPayload chatId fileId isPreview) session body) :
    (∃ exc, (downloadFile env chatId fileId isPreview buffer session).1 = .error exc) ∧
      (downloadFile env chatId fileId isPreview buffer session).2.2 = buffer := by
  cases sent : (downloadFileMethod env.python).sends env (downloadPayload chatId fileId isPreview)
      session with
  | none =>
      obtain ⟨exc, raised, same⟩ := executeDownload_of_not_sent buffer sent
      exact ⟨⟨exc, raised⟩, same⟩
  | some outgoing =>
      have outcome := executeDownload_of_sent buffer sent
      unfold downloadOutcome at outcome
      cases answered : env.httpClient outgoing with
      | failed description =>
          rw [answered] at outcome
          exact ⟨⟨_, outcome.1⟩, outcome.2⟩
      | answered url status body =>
          rw [answered] at outcome
          cases checked : raiseForStatus (downloadFileMethod env.python).statusHandlers
              ⟨some outgoing.method, url, status, body⟩ with
          | ok passed =>
              have passes := (passes_iff env.python (some outgoing.method) url status body).mp
                checked
              exact absurd ⟨outgoing, url, status, sent, answered, passes⟩ (nothing body)
          | error exc =>
              simp only [downloadFileMethod, streamedMethod] at checked
              simp only [checked] at outcome
              exact ⟨⟨exc, outcome.1⟩, outcome.2⟩

end

/-- A download returns exactly if the file arrives completely.  The buffer then gives back
the file exactly if nothing was in it before the position and nothing is left after the file;
if the transport breaks, the buffer has what has come so far, and otherwise it is as before. -/
structure DownloadEnds (env : Environment) (payload : Payload) (session : Session)
    (buffer : Buffer UInt8) (answer : Result Unit) (after : Buffer UInt8) : Prop where
  returns : answer = .ok () ↔ ∃ body, Arrives env payload session body ∧ body.failure = none
  complete : ∀ body, Arrives env payload session body → body.failure = none →
    after.position = 0 ∧
      ((Buffer.read none after).1 = body.bytes ↔
        if body.bytes = [] then buffer.content = []
        else buffer.position = 0 ∧ buffer.content.length ≤ body.bytes.length)
  broken : ∀ body description, Arrives env payload session body →
    body.failure = some description →
    answer = .error (.httpError description) ∧ after = buffer.write 0 body.bytes
  untouched : (∀ body, ¬ Arrives env payload session body) →
    (∃ exc, answer = .error exc) ∧ after = buffer

theorem downloadFile_ends (env : Environment) (chatId fileId : UUID) (isPreview : Bool)
    (buffer : Buffer UInt8) (session : Session) :
    DownloadEnds env (downloadPayload chatId fileId isPreview) session buffer
      (downloadFile env chatId fileId isPreview buffer session).1
      (downloadFile env chatId fileId isPreview buffer session).2.2 := by
  refine ⟨?_, ?_, ?_, downloadFile_of_not_arrives buffer⟩
  · constructor
    · intro returned
      by_contra incomplete
      push Not at incomplete
      by_cases arrives : ∃ body, Arrives env (downloadPayload chatId fileId isPreview) session body
      · obtain ⟨body, arrives⟩ := arrives
        have answer := (downloadFile_of_arrives buffer arrives).1
        obtain ⟨description, failure⟩ :=
          Option.ne_none_iff_exists'.mp (incomplete body arrives)
        rw [returned, copied, failure] at answer
        cases answer
      · push Not at arrives
        obtain ⟨⟨exc, raised⟩, _⟩ := downloadFile_of_not_arrives buffer arrives
        rw [returned] at raised
        cases raised
    · intro arrived
      obtain ⟨body, arrives, complete⟩ := arrived
      rw [(downloadFile_of_arrives _ arrives).1, copied, complete]
  · intro body arrives complete
    rw [(downloadFile_of_arrives _ arrives).2, copied, complete]
    refine ⟨rfl, ?_⟩
    rw [Buffer.read_all_of_rewound]
    exact buffer.write_content_eq_iff 0 body.bytes
  · intro body description arrives failure
    rw [(downloadFile_of_arrives _ arrives).1, (downloadFile_of_arrives _ arrives).2, copied,
      failure]
    exact ⟨rfl, rfl⟩

/-! ### There and back -/

/-- A file that was uploaded from anywhere in a buffer and that the server sends back, in
whatever chunks, is what an empty buffer then has from its start. -/
theorem uploaded_comesBack (env : Environment) (dumps : Json → String) (chatId : UUID)
    (filename : String) (duration : Missing Int) (caption : Missing String)
    (source : Buffer UInt8) (session : Session) (outgoing : OutgoingRequest)
    (sent : uploadFileRequest env dumps chatId filename duration caption source session =
      some outgoing)
    (form : List (String × FormField)) (carried : outgoing.content = .fields form)
    (name : String) (uploaded : List UInt8) (stored : ("content", .file name uploaded) ∈ form)
    (later : Environment) (fileId : UUID) (isPreview : Bool) (laterSession : Session)
    (body : Body)
    (arrives : Arrives later (downloadPayload chatId fileId isPreview) laterSession body)
    (complete : body.failure = none) (served : body.bytes = uploaded) :
    (downloadFile later chatId fileId isPreview ⟨[], 0⟩ laterSession).1 = .ok () ∧
      (Buffer.read none
        (downloadFile later chatId fileId isPreview ⟨[], 0⟩ laterSession).2.2).1 =
        source.remaining := by
  have rest := (uploadFile_rest env dumps chatId filename duration caption source session).carries
    outgoing sent
  have same : uploaded = source.remaining := by
    rw [carried] at rest
    injection rest with rest
    rw [rest] at stored
    simp only [List.cons_append, List.nil_append, List.mem_cons, Prod.mk.injEq, reduceCtorEq,
      and_false, false_or, List.not_mem_nil, or_false, FormField.file.injEq, true_and] at stored
    exact stored.2
  refine ⟨?_, ?_⟩
  · rw [(downloadFile_of_arrives _ arrives).1, copied, complete]
  · rw [(downloadFile_of_arrives _ arrives).2, copied, complete]
    dsimp only
    rw [Buffer.rewound_write_empty, served, same]
    rfl

/-- A server that sends the last two bytes of the upload back one by one. -/
def demoDownload : Environment :=
  demoEnvironment (.answered "" 200 ⟨[[2], [3]], none⟩)

theorem uploaded_comesBack_demo :
    ∃ outgoing, uploadFileRequest (demoEnvironment (.failed "")) (fun _ => "\x7b\x7d")
        demoAccount.id "a.bin" .undefined .undefined ⟨[1, 2, 3], 1⟩ demoSession = some outgoing ∧
      (downloadFile demoDownload demoAccount.id demoAccount.id false ⟨[], 0⟩ demoSession).1 =
        .ok () ∧
      (Buffer.read none
        (downloadFile demoDownload demoAccount.id demoAccount.id false ⟨[], 0⟩
          demoSession).2.2).1 = [2, 3] := by
  let env := demoEnvironment (.failed "")
  let dumps : Json → String := fun _ => "\x7b\x7d"
  let source : Buffer UInt8 := ⟨[1, 2, 3], 1⟩
  obtain ⟨outgoing, sent⟩ : ∃ outgoing, uploadFileRequest env dumps demoAccount.id "a.bin"
      .undefined .undefined source demoSession = some outgoing := by
    unfold uploadFileRequest uploadRequest uploadFileMethod
    exact BotXMethod.demo_sends _ _ _ _ _ _
  have carried := (uploadFile_rest env dumps demoAccount.id "a.bin" .undefined .undefined source
    demoSession).carries outgoing sent
  have arrives : Arrives demoDownload (downloadPayload demoAccount.id demoAccount.id false)
      demoSession ⟨[[2], [3]], none⟩ := ⟨_, "", 200, rfl, rfl, by decide, by decide⟩
  refine ⟨outgoing, sent, uploaded_comesBack env dumps demoAccount.id "a.bin" .undefined
    .undefined source demoSession outgoing sent _ carried "a.bin" [2, 3] ?_ demoDownload
    demoAccount.id false demoSession _ arrives rfl rfl⟩
  simp [source, Buffer.remaining]

end Pybotx
