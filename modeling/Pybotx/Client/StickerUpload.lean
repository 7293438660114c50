/-
Adding a sticker: the checks of the image and its upload.

The three steps share the position of one buffer.  The check of the signature reads from
wherever the buffer stands; the other two go through the whole content.
-/

import Pybotx.Client.Requests
import Pybotx.Client.StickersApi
import Pybotx.Foundation.Buffer
import Pybotx.Foundation.Stateful
import Pybotx.Models.AttachmentsRoundTrip

set_option autoImplicit false

namespace Pybotx

abbrev BufferReading (α : Type) := ExceptT PyError (StateM (Buffer UInt8)) α

def pngMagicBytes : List UInt8 := [0x89, 0x50, 0x4e, 0x47, 0x0d, 0x0a, 0x1a, 0x0a]

def stickerImageMaxSize : Nat := 512 * 1024

def getFileSize : StateM (Buffer UInt8) Nat := do
  Buffer.seek 0 .fromEnd
  let fileSize ← Buffer.tell
  Buffer.seek 0 .start
  return fileSize

def ensureFileContentIsPng : BufferReading Unit := do
  let magicBytes ← ExceptT.lift (Buffer.read (some 8))
  ExceptT.lift (Buffer.seek 0 .start)
  if magicBytes ≠ pngMagicBytes then
    throw (.valueError "Passed file is not PNG")

def ensureStickerImageSizeValid : BufferReading Unit := do
  let fileSize ← ExceptT.lift getFileSize
  if fileSize > stickerImageMaxSize then
    throw (.valueError "Passed file size is greater than 0.5 Mb")

structure BotXAPIAddStickerRequestPayload where
  stickerPackId : UUID
  emoji : String
  image : String

namespace BotXAPIAddStickerRequestPayload

def fromDomain (stickerPackId : UUID) (emoji : String) :
    BufferReading BotXAPIAddStickerRequestPayload := do
  let content ← ExceptT.lift (Buffer.read none)
  return ⟨stickerPackId, emoji, encodeRfc2397 content "image/png"⟩

/-- `jsonable_dict()` without the `sticker_pack_id` that goes into the path. -/
def body (payload : BotXAPIAddStickerRequestPayload) : Json :=
  .obj [("emoji", .str payload.emoji), ("image", .str payload.image)]

def request (env : Environment) (payload : BotXAPIAddStickerRequestPayload)
    (session : Session) : Option OutgoingRequest :=
  (addStickerMethod env.python payload.stickerPackId).sends env ⟨[], .json payload.body⟩ session

end BotXAPIAddStickerRequestPayload

def BotXAPIGetStickerResult.toDomain (result : BotXAPIGetStickerResult) (packId : UUID) :
    Sticker where
  id := result.id
  emoji := result.emoji
  imageLink := result.link
  packId := packId

def addStickerPayload (stickerPackId : UUID) (emoji : String) :
    BufferReading BotXAPIAddStickerRequestPayload := do
  ensureFileContentIsPng
  ensureStickerImageSizeValid
  BotXAPIAddStickerRequestPayload.fromDomain stickerPackId emoji

def addSticker (env : Environment) (stickerPackId : UUID) (emoji : String)
    (buffer : Buffer UInt8) (session : Session) : Result Sticker × Session :=
  match addStickerPayload stickerPackId emoji buffer with
  | (.error exc, _) => (.error exc, session)
  | (.ok payload, _) =>
      match (addStickerMethod env.python stickerPackId).execute env ⟨[], .json payload.body⟩
        session with
      | (.ok added, session) => (.ok (added.result.toDomain stickerPackId), session)
      | (.error exc, session) => (.error exc, session)

def addStickerRequest (env : Environment) (stickerPackId : UUID) (emoji : String)
    (buffer : Buffer UInt8) (session : Session) : Option OutgoingRequest :=
  match addStickerPayload stickerPackId emoji buffer with
  | (.error _, _) => none
  | (.ok payload, _) => payload.request env session

theorem ensureFileContentIsPng_run (buffer : Buffer UInt8) :
    ensureFileContentIsPng buffer =
      (if buffer.remaining.take 8 = pngMagicBytes then .ok ()
        else .error (.valueError "Passed file is not PNG"), buffer.rewound) := by
  change ((if buffer.remaining.take 8 ≠ pngMagicBytes then throw _ else pure () :
    BufferReading Unit)) buffer.rewound = _
  by_cases same : buffer.remaining.take 8 = pngMagicBytes
  · rw [if_neg (not_not.mpr same), if_pos same]
    rfl
  · rw [if_pos same, if_neg same]
    rfl

theorem ensureStickerImageSizeValid_run (buffer : Buffer UInt8) :
    ensureStickerImageSizeValid buffer =
      (if buffer.content.length ≤ stickerImageMaxSize then .ok ()
        else .error (.valueError "Passed file size is greater than 0.5 Mb"), buffer.rewound) := by
  change ((if buffer.content.length > stickerImageMaxSize then throw _ else pure () :
    BufferReading Unit)) buffer.rewound = _
  by_cases small : buffer.content.length ≤ stickerImageMaxSize
  · rw [if_neg (Nat.not_lt.mpr small), if_pos small]
    rfl
  · rw [if_pos (Nat.lt_of_not_le small), if_neg small]
    rfl

theorem BotXAPIAddStickerRequestPayload.fromDomain_run (stickerPackId : UUID) (emoji : String)
    (buffer : Buffer UInt8) :
    (fromDomain stickerPackId emoji buffer.rewound).1 =
      .ok ⟨stickerPackId, emoji, encodeRfc2397 buffer.content "image/png"⟩ := by
  have content := congrArg Prod.fst buffer.read_all_of_rewound
  change Except.ok (BotXAPIAddStickerRequestPayload.mk stickerPackId emoji
    (encodeRfc2397 (Buffer.read none buffer.rewound).1 "image/png")) = _
  rw [content]

/-- What the calls come to: the signature is looked for at the position of the buffer, the
size and the payload are those of the whole content. -/
theorem addStickerPayload_run (stickerPackId : UUID) (emoji : String) (buffer : Buffer UInt8) :
    (addStickerPayload stickerPackId emoji buffer).1 =
      if buffer.remaining.take 8 = pngMagicBytes then
        if buffer.content.length ≤ stickerImageMaxSize then
          .ok ⟨stickerPackId, emoji, encodeRfc2397 buffer.content "image/png"⟩
        else .error (.valueError "Passed file size is greater than 0.5 Mb")
      else .error (.valueError "Passed file is not PNG") := by
  have png := ensureFileContentIsPng_run buffer
  have size := ensureStickerImageSizeValid_run buffer.rewound
  unfold addStickerPayload
  by_cases signed : buffer.remaining.take 8 = pngMagicBytes
  · rw [if_pos signed] at png ⊢
    rw [Stateful.bind_of_ok _ png]
    by_cases small : buffer.content.length ≤ stickerImageMaxSize
    · rw [Buffer.rewound_content, if_pos small] at size
      rw [if_pos small, Stateful.bind_of_ok _ size]
      exact BotXAPIAddStickerRequestPayload.fromDomain_run stickerPackId emoji buffer
    · rw [Buffer.rewound_content, if_neg small] at size
      rw [if_neg small, Stateful.bind_of_error _ size]
  · rw [if_neg signed] at png ⊢
    rw [Stateful.bind_of_error _ png]

/-! ### What is uploaded -/

def IsStickerImage (content : List UInt8) : Prop :=
  pngMagicBytes <+: content ∧ content.length ≤ stickerImageMaxSize

/-- The bytes that are checked are the bytes that are uploaded: the method gets the whole
content if it is an image, and is not executed otherwise. -/
structure UploadsChecked (buffer : Buffer UInt8) : Prop where
  uploads : IsStickerImage buffer.content → ∀ env stickerPackId emoji session,
    ∃ image, decodeRfc2397 image = .ok buffer.content ∧
      addStickerRequest env stickerPackId emoji buffer session =
        (addStickerMethod env.python stickerPackId).sends env
          ⟨[], .json (.obj [("emoji", .str emoji), ("image", .str image)])⟩ session
  refuses : ¬ IsStickerImage buffer.content → ∀ env stickerPackId emoji session,
    addStickerRequest env stickerPackId emoji buffer session = none ∧
      ∃ message, addSticker env stickerPackId emoji buffer session =
        (.error (.valueError message), session)

theorem pngMagicBytes_prefix_iff (content : List UInt8) :
    pngMagicBytes <+: content ↔ content.take 8 = pngMagicBytes := by
  rw [List.prefix_iff_eq_take, eq_comm]
  rfl

def pngMedia : MediaType :=
  ⟨"image", "png", by simp, by simp⟩

theorem decode_pngImage (content : List UInt8) :
    decodeRfc2397 (encodeRfc2397 content "image/png") = .ok content :=
  decodeRfc2397_encodeRfc2397 content pngMedia

section

variable (env : Environment) {stickerPackId : UUID} {emoji : String} {buffer : Buffer UInt8}
  (session : Session)

theorem addStickerRequest_of_payload {payload : BotXAPIAddStickerRequestPayload}
    (built : (addStickerPayload stickerPackId emoji buffer).1 = .ok payload) :
    addStickerRequest env stickerPackId emoji buffer session = payload.request env session := by
  unfold addStickerRequest
  split
  · rename_i exc after failed
    rw [failed] at built
    cases built
  · rename_i other after returned
    rw [returned] at built
    cases built
    rfl

theorem addSticker_of_error {exc : PyError}
    (raised : (addStickerPayload stickerPackId emoji buffer).1 = .error exc) :
    addStickerRequest env stickerPackId emoji buffer session = none ∧
      addSticker env stickerPackId emoji buffer session = (.error exc, session) := by
  unfold addStickerRequest addSticker
  split
  · rename_i other after failed
    rw [failed] at raised
    cases raised
    exact ⟨rfl, rfl⟩
  · rename_i payload after returned
    rw [returned] at raised
    cases raised

end

/-- What the code accepts: it looks for the signature at the position of the buffer. -/
def Accepted (buffer : Buffer UInt8) : Prop :=
  buffer.remaining.take 8 = pngMagicBytes ∧ buffer.content.length ≤ stickerImageMaxSize

theorem addStickerPayload_of_accepted {buffer : Buffer UInt8} (accepted : Accepted buffer)
    (stickerPackId : UUID) (emoji : String) :
    (addStickerPayload stickerPackId emoji buffer).1 =
      .ok ⟨stickerPackId, emoji, encodeRfc2397 buffer.content "image/png"⟩ := by
  rw [addStickerPayload_run, if_pos accepted.1, if_pos accepted.2]

theorem addStickerPayload_of_not_accepted {buffer : Buffer UInt8} (refused : ¬ Accepted buffer)
    (stickerPackId : UUID) (emoji : String) :
    ∃ message, (addStickerPayload stickerPackId emoji buffer).1 = .error (.valueError message) := by
  rw [addStickerPayload_run]
  by_cases signed : buffer.remaining.take 8 = pngMagicBytes
  · have large : ¬ buffer.content.length ≤ stickerImageMaxSize := fun small =>
      refused ⟨signed, small⟩
    rw [if_pos signed, if_neg large]
    exact ⟨_, rfl⟩
  · rw [if_neg signed]
    exact ⟨_, rfl⟩

theorem uploadsChecked_iff_accepted (buffer : Buffer UInt8) :
    UploadsChecked buffer ↔ (Accepted buffer ↔ IsStickerImage buffer.content) := by
  have sends (payload : BotXAPIAddStickerRequestPayload) :=
    BotXMethod.demo_sends "POST" (stickerPackPath payload.stickerPackId ++ "/stickers")
      (authorizedStatusHandlers.set 400 (addStickerBadRequestErrorHandler demoPython))
      (.returning (okPayload (BotXAPIGetStickerResult.check demoPython))) (.failed "")
      ⟨[], .json payload.body⟩
  constructor
  · intro checked
    by_cases accepted : Accepted buffer
    · refine iff_of_true accepted ?_
      by_contra notImage
      have built := addStickerPayload_of_accepted accepted ⟨0⟩ ""
      obtain ⟨outgoing, sent⟩ := sends ⟨⟨0⟩, "", encodeRfc2397 buffer.content "image/png"⟩
      have nothing := (checked.refuses notImage (demoEnvironment (.failed "")) ⟨0⟩ ""
        demoSession).1
      rw [addStickerRequest_of_payload _ _ built] at nothing
      have impossible := nothing.symm.trans sent
      cases impossible
    · refine iff_of_false accepted ?_
      intro isImage
      obtain ⟨message, raised⟩ := addStickerPayload_of_not_accepted accepted ⟨0⟩ ""
      obtain ⟨image, _, same⟩ := checked.uploads isImage (demoEnvironment (.failed "")) ⟨0⟩ ""
        demoSession
      obtain ⟨outgoing, sent⟩ := sends ⟨⟨0⟩, "", image⟩
      rw [(addSticker_of_error _ _ raised).1] at same
      have impossible := same.trans sent
      cases impossible
  · intro agree
    constructor
    · intro isImage env stickerPackId emoji session
      have built := addStickerPayload_of_accepted (agree.mpr isImage) stickerPackId emoji
      refine ⟨encodeRfc2397 buffer.content "image/png", decode_pngImage buffer.content, ?_⟩
      rw [addStickerRequest_of_payload env session built,
        BotXAPIAddStickerRequestPayload.request, BotXAPIAddStickerRequestPayload.body]
    · intro notImage env stickerPackId emoji session
      obtain ⟨message, raised⟩ :=
        addStickerPayload_of_not_accepted (mt agree.mp notImage) stickerPackId emoji
      obtain ⟨nothing, failed⟩ := addSticker_of_error env session raised
      exact ⟨nothing, message, failed⟩

/-- The signature at the position of the buffer decides, the one at the start should. -/
theorem addSticker_uploadsChecked_iff (buffer : Buffer UInt8) :
    UploadsChecked buffer ↔
      buffer.content.length > stickerImageMaxSize ∨
        ((buffer.content.drop buffer.position).take 8 = pngMagicBytes ↔
          buffer.content.take 8 = pngMagicBytes) := by
  rw [uploadsChecked_iff_accepted, Accepted, IsStickerImage, pngMagicBytes_prefix_iff,
    Buffer.remaining, gt_iff_lt, ← Nat.not_le]
  tauto

theorem uploadsChecked_of_start (content : List UInt8) : UploadsChecked ⟨content, 0⟩ := by
  rw [uploadsChecked_iff_accepted, Accepted, IsStickerImage, pngMagicBytes_prefix_iff]
  rfl

/-- A buffer with a PNG signature after eight other bytes, from which those were read. -/
def advancedBuffer : Buffer UInt8 :=
  ⟨[0x47, 0x49, 0x46, 0x38, 0x39, 0x61, 0x01, 0x00] ++ pngMagicBytes, 8⟩

theorem advancedBuffer_uploaded : ¬ UploadsChecked advancedBuffer := by
  intro checked
  have accepted : Accepted advancedBuffer := by
    refine ⟨rfl, ?_⟩
    decide
  have isImage := ((uploadsChecked_iff_accepted advancedBuffer).mp checked).mp accepted
  exact absurd ((pngMagicBytes_prefix_iff _).mp isImage.1) (by decide)

end Pybotx
