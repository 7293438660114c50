/-
Opening files: what the block of a `with` statement finds in its temporary file.

A file that the server keeps is downloaded to a temporary file of its own, so that nothing
else is ever in it.  The image of a sticker is fetched from its link by a bare request, outside
the methods of the client.
-/

import Pybotx.Client.FileTransfers
import Pybotx.Client.StickerUpload

set_option autoImplicit false

namespace Pybotx

def File.base : File → FileBase
  | .image base => base
  | .video base _ => base
  | .document base => base
  | .voice base _ => base

def FileBase.open {α : Type} (env : Environment) (chatId : UUID) (isPreview : Bool)
    (block : Buffer UInt8 → Session → Result α × Session) (file : FileBase)
    (session : Session) : Result α × Session :=
  match downloadFile env chatId file.fileId isPreview ⟨[], 0⟩ session with
  | (.ok (), session, tmpFile) => block tmpFile session
  | (.error exc, session, _) => (.error exc, session)

/-- A file is opened whole or not at all: the block runs exactly if the file arrives completely,
and then has just the file before it, from its start. -/
structure OpensWhole (env : Environment) (chatId : UUID) (isPreview : Bool) (file : FileBase)
    (session : Session) : Prop where
  opened : ∀ body, Arrives env (downloadPayload chatId file.fileId isPreview) session body →
    body.failure = none →
    ∃ after : Session, ∀ (α : Type) (block : Buffer UInt8 → Session → Result α × Session),
      file.open env chatId isPreview block session = block ⟨body.bytes, 0⟩ after
  refused : (∀ body, Arrives env (downloadPayload chatId file.fileId isPreview) session body →
      body.failure ≠ none) →
    ∃ (exc : PyError) (after : Session),
      ∀ (α : Type) (block : Buffer UInt8 → Session → Result α × Session),
        file.open env chatId isPreview block session = (.error exc, after)

section

variable {env : Environment} {chatId : UUID} {isPreview : Bool} {file : FileBase}
  {session : Session}

theorem FileBase.open_of_downloaded {after : Session} {tmpFile : Buffer UInt8}
    (downloaded : downloadFile env chatId file.fileId isPreview ⟨[], 0⟩ session =
      (.ok (), after, tmpFile)) {α : Type}
    (block : Buffer UInt8 → Session → Result α × Session) :
    file.open env chatId isPreview block session = block tmpFile after := by
  unfold FileBase.open
  rw [downloaded]

theorem FileBase.open_of_failed {exc : PyError} {after : Session} {tmpFile : Buffer UInt8}
    (failed : downloadFile env chatId file.fileId isPreview ⟨[], 0⟩ session =
      (.error exc, after, tmpFile)) {α : Type}
    (block : Buffer UInt8 → Session → Result α × Session) :
    file.open env chatId isPreview block session = (.error exc, after) := by
  unfold FileBase.open
  rw [failed]

theorem Arrives.unique {payload : Payload} {first second : Body}
    (arrives : Arrives env payload session first) (again : Arrives env payload session second) :
    first = second := by
  obtain ⟨outgoing, url, status, sent, answered, _⟩ := arrives
  obtain ⟨other, otherUrl, otherStatus, otherSent, otherAnswered, _⟩ := again
  rw [sent] at otherSent
  cases otherSent
  rw [answered] at otherAnswered
  cases otherAnswered
  rfl

theorem downloadFile_of_complete {body : Body}
    (arrives : Arrives env (downloadPayload chatId file.fileId isPreview) session body)
    (complete : body.failure = none) :
    downloadFile env chatId file.fileId isPreview ⟨[], 0⟩ session =
      (.ok (), (downloadFile env chatId file.fileId isPreview ⟨[], 0⟩ session).2.1,
        ⟨body.bytes, 0⟩) := by
  have outcome := downloadFile_of_arrives ⟨[], 0⟩ arrives
  unfold copied at outcome
  rw [complete] at outcome
  refine Prod.ext outcome.1 (Prod.ext rfl ?_)
  exact outcome.2.trans (Buffer.rewound_write_empty 0 body.bytes)

theorem FileBase.open_whole (env : Environment) (chatId : UUID) (isPreview : Bool)
    (file : FileBase) (session : Session) : OpensWhole env chatId isPreview file session := by
  constructor
  · intro body arrives complete
    exact ⟨_, fun α block =>
      FileBase.open_of_downloaded (downloadFile_of_complete arrives complete) block⟩
  · intro incomplete
    have ends := downloadFile_ends env chatId file.fileId isPreview ⟨[], 0⟩ session
    cases downloaded : downloadFile env chatId file.fileId isPreview ⟨[], 0⟩ session with
    | mk answer left =>
        cases answer with
        | ok done =>
            rw [downloaded] at ends
            obtain ⟨body, arrives, complete⟩ := ends.returns.mp rfl
            exact absurd complete (incomplete body arrives)
        | error exc => exact ⟨exc, left.1, fun α block => FileBase.open_of_failed downloaded block⟩

end

structure Upload where
  env : Environment
  dumps : Json → String
  chatId : UUID
  filename : String
  duration : Missing Int
  caption : Missing String

namespace Upload

def request (upload : Upload) (buffer : Buffer UInt8) (session : Session) :
    Option OutgoingRequest :=
  uploadFileRequest upload.env upload.dumps upload.chatId upload.filename upload.duration
    upload.caption buffer session

/-- The upload as a block, which returns its request as well. -/
def run (upload : Upload) (buffer : Buffer UInt8) (session : Session) :
    Result (File × Option OutgoingRequest) × Session :=
  let (answer, after, _) := uploadFile upload.env upload.dumps upload.chatId upload.filename
    upload.duration upload.caption buffer session
  (answer.map fun file => (file, upload.request buffer session), after)

end Upload

def OutgoingRequest.CarriesFile (outgoing : OutgoingRequest) (content : List UInt8) : Prop :=
  ∃ fields filename, outgoing.content = .fields (fields ++ [("content", .file filename content)])

theorem OutgoingRequest.CarriesFile.unique {outgoing : OutgoingRequest}
    {first second : List UInt8} (carries : outgoing.CarriesFile first)
    (again : outgoing.CarriesFile second) : first = second := by
  obtain ⟨fields, filename, same⟩ := carries
  obtain ⟨otherFields, otherFilename, other⟩ := again
  rw [same, Content.fields.injEq, List.append_singleton_inj] at other
  obtain ⟨_, last⟩ := other
  cases last
  rfl

theorem Upload.carries_of_run {upload : Upload} {buffer : Buffer UInt8}
    {session after : Session} {file : File} {outgoing : OutgoingRequest}
    (uploads : upload.run buffer session = (.ok (file, some outgoing), after)) :
    outgoing.CarriesFile buffer.remaining := by
  have sent : upload.request buffer session = some outgoing := by
    unfold Upload.run at uploads
    cases uploaded : uploadFile upload.env upload.dumps upload.chatId upload.filename
        upload.duration upload.caption buffer session with
    | mk answer left =>
        rw [uploaded] at uploads
        cases answer with
        | error exc => cases uploads
        | ok received => exact (Prod.mk.inj (Except.ok.inj (Prod.mk.inj uploads).1)).2
  have rest := (uploadFile_rest upload.env upload.dumps upload.chatId upload.filename
    upload.duration upload.caption buffer session).carries outgoing sent
  exact ⟨_, _, rest⟩

/-- A file and the request that it was uploaded by: from a buffer, or from what a file that was
passed on before is opened as, once the server sends what it was given. -/
inductive PassedOn (source : Buffer UInt8) : File → OutgoingRequest → Prop
  | uploaded (upload : Upload) (session after : Session) (file : File)
      (outgoing : OutgoingRequest)
      (uploads : upload.run source session = (.ok (file, some outgoing), after)) :
      PassedOn source file outgoing
  | opened (file : File) (given : OutgoingRequest) (earlier : PassedOn source file given)
      (env : Environment) (chatId : UUID) (session after : Session) (body : Body)
      (arrives : Arrives env (downloadPayload chatId file.base.fileId false) session body)
      (kept : given.CarriesFile body.bytes) (upload : Upload) (next : File)
      (outgoing : OutgoingRequest)
      (uploads : file.base.open env chatId false upload.run session =
        (.ok (next, some outgoing), after)) :
      PassedOn source next outgoing

theorem PassedOn.carries {source : Buffer UInt8} {file : File} {outgoing : OutgoingRequest}
    (passed : PassedOn source file outgoing) : outgoing.CarriesFile source.remaining := by
  induction passed with
  | uploaded upload session after file outgoing uploads => exact Upload.carries_of_run uploads
  | opened file given earlier env chatId session after body arrives kept upload next outgoing
      uploads ih =>
      have same : body.bytes = source.remaining := kept.unique ih
      have whole := file.base.open_whole env chatId false session
      by_cases complete : body.failure = none
      · obtain ⟨middle, opened⟩ := whole.opened body arrives complete
        rw [opened, same] at uploads
        have carried := Upload.carries_of_run uploads
        exact carried
      · obtain ⟨exc, left, refused⟩ := whole.refused fun other otherArrives =>
          arrives.unique otherArrives ▸ complete
        rw [refused] at uploads
        cases uploads

/-- What was left of the first buffer is what every request has carried and what the file is
opened as. -/
structure KeptWhole (source : Buffer UInt8) (file : File) (outgoing : OutgoingRequest) :
    Prop where
  carried : outgoing.CarriesFile source.remaining
  opened : ∀ (env : Environment) (chatId : UUID) (session : Session) (body : Body),
    Arrives env (downloadPayload chatId file.base.fileId false) session body →
    outgoing.CarriesFile body.bytes → body.failure = none →
    ∃ after : Session, ∀ (α : Type) (block : Buffer UInt8 → Session → Result α × Session),
      file.base.open env chatId false block session = block ⟨source.remaining, 0⟩ after
  refused : ∀ (env : Environment) (chatId : UUID) (session : Session),
    (∀ body, Arrives env (downloadPayload chatId file.base.fileId false) session body →
      body.failure ≠ none) →
    ∃ (exc : PyError) (after : Session),
      ∀ (α : Type) (block : Buffer UInt8 → Session → Result α × Session),
        file.base.open env chatId false block session = (.error exc, after)

/-- However often a file is passed on, by whatever bots and to whatever chats. -/
theorem passedOn_keptWhole (source : Buffer UInt8) (file : File) (outgoing : OutgoingRequest)
    (passed : PassedOn source file outgoing) : KeptWhole source file outgoing := by
  have carried := passed.carries
  refine ⟨carried, ?_, ?_⟩
  · intro env chatId session body arrives sends complete
    obtain ⟨after, opened⟩ :=
      (file.base.open_whole env chatId false session).opened body arrives complete
    rw [sends.unique carried] at opened
    exact ⟨after, opened⟩
  · intro env chatId session incomplete
    exact (file.base.open_whole env chatId false session).refused incomplete

def demoFileBody : List UInt8 :=
  ("\x7b\"status\": \"ok\", \"result\": \x7b\"type\": \"document\", \"file\": \"/a.bin\", " ++
    "\"file_mime_type\": \"application/octet-stream\", \"file_name\": \"a.bin\", " ++
    "\"file_id\": \"6f40a492-4b5f-54f3-87ee-77126d825b51\", \"file_size\": 2, " ++
    "\"file_hash\": \"hash\"\x7d\x7d").toList.map fun c => UInt8.ofNat c.toNat

def demoKeeper : Environment :=
  { demoEnvironment (.answered "" 200 ⟨[demoFileBody], none⟩) with
    python := { demoPython with
      loads := fun content =>
        if content = demoFileBody then
          .ok (.obj [("status", .str "ok"),
            ("result", .obj [("type", .str "document"), ("file", .str "/a.bin"),
              ("file_mime_type", .str "application/octet-stream"), ("file_name", .str "a.bin"),
              ("file_id", .str "6f40a492-4b5f-54f3-87ee-77126d825b51"), ("file_size", .int 2),
              ("file_hash", .str "hash")])])
        else .error .jsonDecode } }

def demoUpload : Upload :=
  ⟨demoKeeper, fun _ => "\x7b\x7d", demoAccount.id, "a.bin", .undefined, .undefined⟩

set_option maxRecDepth 4000 in
/-- A file is uploaded from the second byte of a buffer and passed on once. -/
theorem passedOn_keptWhole_demo :
    ∃ file outgoing, PassedOn ⟨[1, 2, 3], 1⟩ file outgoing ∧
      KeptWhole ⟨[1, 2, 3], 1⟩ file outgoing := by
  let source : Buffer UInt8 := ⟨[1, 2, 3], 1⟩
  obtain ⟨file, given, after, uploads⟩ : ∃ file given after,
      demoUpload.run source demoSession = (.ok (file, some given), after) := ⟨_, _, _, rfl⟩
  have uploaded : PassedOn source file given := .uploaded demoUpload _ _ _ _ uploads
  let body : Body := ⟨[[2], [3]], none⟩
  have arrives : Arrives demoDownload (downloadPayload demoAccount.id file.base.fileId false)
      demoSession body := ⟨_, "", 200, rfl, rfl, by decide, by decide⟩
  have kept : given.CarriesFile body.bytes := uploaded.carries
  obtain ⟨next, outgoing, last, again⟩ : ∃ next outgoing last,
      file.base.open demoDownload demoAccount.id false demoUpload.run demoSession =
        (.ok (next, some outgoing), last) := ⟨_, _, _, rfl⟩
  have passed : PassedOn source next outgoing :=
    .opened file given uploaded demoDownload demoAccount.id demoSession last body arrives kept
      demoUpload next outgoing again
  exact ⟨next, outgoing, passed, passedOn_keptWhole source next outgoing passed⟩

/-! ### Images of stickers -/

/-- `client.request("GET", self.image_link, preload_content=True)`. -/
def Sticker.downloadRequest (sticker : Sticker) : OutgoingRequest where
  method := "GET"
  url := sticker.imageLink
  headers := []
  content := .empty

/-- `Sticker.download`.  The errors of the transport are not caught here. -/
def Sticker.download (client : HttpClient) (sticker : Sticker) (buffer : Buffer UInt8) :
    Result Unit × Buffer UInt8 :=
  match client.request true sticker.downloadRequest with
  | .error description => (.error (.httpError description), buffer)
  | .ok response =>
      if response.Successful then
        match response.data with
        | .error exc => (.error exc, buffer)
        | .ok content => (.ok (), (buffer.write 0 content).rewound)
      else (raiseFromResponse .invalidBotXStatusCode response none, buffer)

/-- What an exchange comes to: a complete success is written as a whole, and nothing else touches
the buffer.  The caller sees the transport's own error if the transport breaks, and an error about
the status for any other failure. -/
inductive Sticker.Downloaded (buffer : Buffer UInt8) :
    Exchange → Result Unit × Buffer UInt8 → Prop
  | unanswered (description : String) :
      Downloaded buffer (.failed description) (.error (.httpError description), buffer)
  | cut (url : String) (status : Nat) (body : Body) (description : String)
      (failure : body.failure = some description) :
      Downloaded buffer (.answered url status body) (.error (.httpError description), buffer)
  | refused (url : String) (status : Nat) (body : Body) (complete : body.failure = none)
      (unsuccessful : ¬ (200 ≤ status ∧ status < 300)) :
      Downloaded buffer (.answered url status body)
        (.error (.client .invalidBotXStatusCode
          (responseMessage ⟨some "GET", url, status, body⟩ body.bytes none)), buffer)
  | written (url : String) (status : Nat) (body : Body) (complete : body.failure = none)
      (successful : 200 ≤ status ∧ status < 300) :
      Downloaded buffer (.answered url status body) (.ok (), (buffer.write 0 body.bytes).rewound)

theorem Sticker.download_outcome (client : HttpClient) (sticker : Sticker)
    (buffer : Buffer UInt8) :
    Sticker.Downloaded buffer (client sticker.downloadRequest)
      (sticker.download client buffer) := by
  unfold Sticker.download
  cases exchange : client sticker.downloadRequest with
  | failed description =>
      unfold HttpClient.request
      rw [exchange]
      exact .unanswered description
  | answered url status body =>
      cases failure : body.failure with
      | some description =>
          unfold HttpClient.request
          rw [exchange]
          simp only [failure]
          exact .cut url status body description failure
      | none =>
          let response : HttpResponse := ⟨some "GET", url, status, body⟩
          have data : response.data = .ok body.bytes :=
            (body.read_eq_ok_iff body.bytes).mpr ⟨failure, rfl⟩
          have received : client.request true sticker.downloadRequest = .ok response :=
            HttpClient.request_of_complete true exchange failure
          rw [received]
          by_cases successful : 200 ≤ status ∧ status < 300
          · have passed : response.Successful := successful
            simp only [if_pos passed, data]
            exact .written url status body failure successful
          · have unsuccessful : ¬ response.Successful := successful
            simp only [if_neg unsuccessful]
            rw [raiseFromResponse_of_data _ _ _ _ data]
            exact .refused url status body failure successful

/-- An image is written as a whole or not at all, as the exchange has it.  From the buffer that a
download leaves, the image can be added to another pack: what is checked there is what is
uploaded. -/
structure Sticker.DownloadEnds (client : HttpClient) (sticker : Sticker)
    (buffer : Buffer UInt8) : Prop where
  outcome : Sticker.Downloaded buffer (client sticker.downloadRequest)
    (sticker.download client buffer)
  copied : (sticker.download client buffer).1 = .ok () →
    UploadsChecked (sticker.download client buffer).2

theorem Sticker.download_ends (client : HttpClient) (sticker : Sticker)
    (buffer : Buffer UInt8) : sticker.DownloadEnds client buffer := by
  have outcome := Sticker.download_outcome client sticker buffer
  refine ⟨outcome, ?_⟩
  -- only a written image is returned from
  generalize client sticker.downloadRequest = exchange at outcome
  generalize sticker.download client buffer = downloaded at outcome ⊢
  intro returned
  cases outcome with
  | written url status body complete successful => exact uploadsChecked_of_start _
  | _ => cases returned

end Pybotx
