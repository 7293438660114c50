/-
Attachments that come back: what is encoded for an outgoing message is read as an incoming
attachment, and a received voice message is sent again.

The media type is written by one function and looked for by two others, which know it only
as the text between a colon, a slash, a semicolon and a comma.
-/

import Pybotx.Models.ApiAttachments
import Pybotx.Models.Attachments

set_option autoImplicit false

namespace Pybotx

structure MediaType where
  type : String
  subtype : String
  typePlain : ∀ c ∈ type.toList, c ≠ ',' ∧ c ≠ ';' ∧ c ≠ '/'
  subtypePlain : ∀ c ∈ subtype.toList, c ≠ ',' ∧ c ≠ ';'

namespace MediaType

def text (media : MediaType) : String :=
  media.type ++ "/" ++ media.subtype

def extension (media : MediaType) : String :=
  String.ofList (media.subtype.toList.takeWhile fun c => c ≠ '/')

theorem text_toList (media : MediaType) :
    media.text.toList = media.type.toList ++ '/' :: media.subtype.toList := by
  simp [text]

theorem text_plain (media : MediaType) : ∀ c ∈ media.text.toList, c ≠ ',' ∧ c ≠ ';' := by
  intro c member
  rw [media.text_toList] at member
  rcases List.mem_append.mp member with inType | later
  · exact ⟨(media.typePlain c inType).1, (media.typePlain c inType).2.1⟩
  · rcases List.mem_cons.mp later with slash | inSubtype
    · rw [slash]
      decide
    · exact media.subtypePlain c inSubtype

end MediaType

theorem afterFirst_append (separator : Char) (before after : List Char)
    (absent : separator ∉ before) :
    afterFirst separator (before ++ separator :: after) = .ok after := by
  have passed : ∀ c ∈ before, decide (c ≠ separator) = true := by
    intro c member
    apply decide_eq_true
    intro same
    exact absent (same ▸ member)
  unfold afterFirst
  rw [List.dropWhile_append_of_pos passed, List.dropWhile_cons_of_neg (by simp)]

theorem encodeRfc2397_toList (content : List UInt8) (mimetype : String) :
    (encodeRfc2397 content mimetype).toList =
      "data:".toList ++ mimetype.toList ++ ";base64".toList ++
        ',' :: (Base64.encode content).toList := by
  simp [encodeRfc2397]

theorem encodeRfc2397_ne_empty (content : List UInt8) (mimetype : String) :
    encodeRfc2397 content mimetype ≠ "" := by
  intro empty
  have letters := congrArg String.toList empty
  rw [encodeRfc2397_toList] at letters
  simp at letters

theorem decodeRfc2397_encodeRfc2397 (content : List UInt8) (media : MediaType) :
    decodeRfc2397 (encodeRfc2397 content media.text) = .ok content := by
  have absent : ',' ∉ "data:".toList ++ media.text.toList ++ ";base64".toList := by
    intro member
    rcases List.mem_append.mp member with early | late
    · rcases List.mem_append.mp early with scheme | inMedia
      · exact absurd scheme (by decide)
      · exact (media.text_plain ',' inMedia).1 rfl
    · exact absurd late (by decide)
  unfold decodeRfc2397
  rw [if_neg (encodeRfc2397_ne_empty content media.text), encodeRfc2397_toList]
  apply (Result.bind_eq_ok _ _ _).mpr
  refine ⟨_, afterFirst_append ',' _ _ absent, ?_⟩
  rw [String.ofList_toList, Base64.decode_encode]

theorem getAttachmentExtension_encodeRfc2397 (content : List UInt8) (media : MediaType) :
    getAttachmentExtensionFromEncodedContent (encodeRfc2397 content media.text) =
      .ok media.extension := by
  have passed : ∀ c ∈ "data:".toList ++ media.text.toList, decide (c ≠ ';') = true := by
    intro c member
    apply decide_eq_true
    rcases List.mem_append.mp member with scheme | inMedia
    · intro same
      rw [same] at scheme
      exact absurd scheme (by decide)
    · exact (media.text_plain c inMedia).2
  have mediaType : (encodeRfc2397 content media.text).toList.takeWhile (fun c => c ≠ ';') =
      ("data:".toList ++ media.type.toList) ++ '/' :: media.subtype.toList := by
    have parts : (encodeRfc2397 content media.text).toList =
        ("data:".toList ++ media.text.toList) ++
          ';' :: ("base64".toList ++ ',' :: (Base64.encode content).toList) := by
      simp [encodeRfc2397]
    rw [parts, List.takeWhile_append_of_pos passed, List.takeWhile_cons_of_neg (by simp),
      List.append_nil, media.text_toList, List.append_assoc]
  have absent : '/' ∉ "data:".toList ++ media.type.toList := by
    intro member
    rcases List.mem_append.mp member with scheme | inType
    · exact absurd scheme (by decide)
    · exact (media.typePlain '/' inType).2.2 rfl
  unfold getAttachmentExtensionFromEncodedContent
  rw [mediaType]
  apply (Result.bind_eq_ok _ _ _).mpr
  exact ⟨_, afterFirst_append '/' _ _ absent, rfl⟩

namespace BotAPIAttachment

def fileContent : BotAPIAttachment → Option String
  | image data => some data.content
  | video data => some data.content
  | document data => some data.content
  | voice data => some data.content
  | location _ | contact _ | link _ | sticker _ => none

def IsVoice : BotAPIAttachment → Prop
  | voice _ => True
  | _ => False

end BotAPIAttachment

def IncomingFileAttachment.base : IncomingFileAttachment → FileAttachmentBase
  | image file => file
  | video file _ => file
  | document file => file
  | voice file _ => file

def SameClass : BotAPIAttachment → IncomingFileAttachment → Prop
  | .image _, .image _ => True
  | .video _, .video _ _ => True
  | .document _, .document _ => True
  | .voice _, .voice _ _ => True
  | _, _ => False

/-- The conversion returns an attachment of the same class with these bytes. -/
def ConvertsTo (apiAttachment : BotAPIAttachment) (messageBody : String)
    (content : List UInt8) : Prop :=
  ∃ file, convertApiAttachmentToDomain apiAttachment messageBody = .ok (.file file) ∧
    SameClass apiAttachment file ∧ file.base.content = content ∧
    file.base.size = content.length

theorem convertsTo_of_decoded {apiAttachment : BotAPIAttachment} {encodedContent : String}
    {content : List UInt8} (messageBody : String)
    (carries : apiAttachment.fileContent = some encodedContent)
    (decoded : decodeRfc2397 encodedContent = .ok content) (quiet : ¬ apiAttachment.IsVoice) :
    ConvertsTo apiAttachment messageBody content := by
  cases apiAttachment with
  | image data =>
      cases carries
      exact ⟨.image ⟨data.fileName, content.length, content⟩,
        (Result.bind_eq_ok _ _ _).mpr ⟨content, decoded, rfl⟩, trivial, rfl, rfl⟩
  | video data =>
      cases carries
      exact ⟨.video ⟨data.fileName, content.length, content⟩ data.duration,
        (Result.bind_eq_ok _ _ _).mpr ⟨content, decoded, rfl⟩, trivial, rfl, rfl⟩
  | document data =>
      cases carries
      exact ⟨.document ⟨data.fileName, content.length, content⟩,
        (Result.bind_eq_ok _ _ _).mpr ⟨content, decoded, rfl⟩, trivial, rfl, rfl⟩
  | voice data => exact absurd trivial quiet
  | location data | contact data | link data | sticker data => cases carries

theorem convertVoice_of_decoded {data : BotAPIAttachmentVoiceData} {content : List UInt8}
    {attachmentExtension : String} (messageBody : String)
    (decoded : decodeRfc2397 data.content = .ok content)
    (named : getAttachmentExtensionFromEncodedContent data.content = .ok attachmentExtension) :
    convertApiAttachmentToDomain (.voice data) messageBody =
      .ok (.file (.voice ⟨"record." ++ attachmentExtension, content.length, content⟩
        data.duration)) := by
  apply (Result.bind_eq_ok _ _ _).mpr
  refine ⟨content, decoded, ?_⟩
  apply (Result.bind_eq_ok _ _ _).mpr
  exact ⟨attachmentExtension, named, rfl⟩

theorem convertVoice_of_empty (duration : Int) (messageBody : String) :
    convertApiAttachmentToDomain (.voice ⟨"", duration⟩) messageBody = .error .indexError := rfl

/-! ### Well-formed content -/

/-- The empty text, or the data URL of some bytes. -/
inductive WellFormedContent : String → List UInt8 → Prop where
  | empty : WellFormedContent "" []
  | encoded (content : List UInt8) (media : MediaType) :
      WellFormedContent (encodeRfc2397 content media.text) content

theorem WellFormedContent.decoded {encodedContent : String} {content : List UInt8}
    (wellFormed : WellFormedContent encodedContent content) :
    decodeRfc2397 encodedContent = .ok content := by
  cases wellFormed with
  | empty => rfl
  | encoded content media => exact decodeRfc2397_encodeRfc2397 content media

/-- Well-formed content converts, except when a voice message has none. -/
theorem wellFormed_convertsTo_iff (apiAttachment : BotAPIAttachment) (messageBody : String)
    (encodedContent : String) (content : List UInt8)
    (carries : apiAttachment.fileContent = some encodedContent)
    (wellFormed : WellFormedContent encodedContent content) :
    ConvertsTo apiAttachment messageBody content ↔
      ¬ (apiAttachment.IsVoice ∧ encodedContent = "") := by
  constructor
  · intro converts failing
    obtain ⟨isVoice, empty⟩ := failing
    obtain ⟨file, converted, _⟩ := converts
    cases apiAttachment with
    | voice data =>
        rcases data with ⟨given, duration⟩
        cases carries
        change given = "" at empty
        rw [empty, convertVoice_of_empty] at converted
        cases converted
    | _ => cases isVoice
  · intro readable
    by_cases isVoice : apiAttachment.IsVoice
    · cases apiAttachment with
      | voice data =>
          rcases data with ⟨given, duration⟩
          cases carries
          cases wellFormed with
          | empty => exact absurd ⟨trivial, rfl⟩ readable
          | encoded content media =>
              exact ⟨_, convertVoice_of_decoded messageBody
                (decodeRfc2397_encodeRfc2397 content media)
                (getAttachmentExtension_encodeRfc2397 content media), trivial, rfl, rfl⟩
      | _ => cases isVoice
    · exact convertsTo_of_decoded messageBody carries wellFormed.decoded isVoice

def demoMedia : MediaType :=
  ⟨"audio", "ogg", by simp, by simp⟩

/-- `data:audio/ogg;base64,aGVsbG8=` -/
def demoContent : String :=
  encodeRfc2397 [104, 101, 108, 108, 111] demoMedia.text

theorem wellFormed_convertsTo_iff_demo :
    ConvertsTo (.voice ⟨demoContent, 3⟩) "" [104, 101, 108, 108, 111] ↔
      ¬ ((BotAPIAttachment.voice ⟨demoContent, 3⟩).IsVoice ∧ demoContent = "") :=
  wellFormed_convertsTo_iff _ _ _ _ rfl (.encoded [104, 101, 108, 108, 111] demoMedia)

/-- A voice message without content has no media type to name it after. -/
theorem emptyVoice_fails :
    WellFormedContent "" [] ∧
      convertApiAttachmentToDomain (.voice ⟨"", 0⟩) "" = .error .indexError ∧
      ¬ ConvertsTo (.voice ⟨"", 0⟩) "" [] := by
  refine ⟨.empty, rfl, ?_⟩
  intro converts
  obtain ⟨file, impossible, _⟩ := converts
  cases impossible

def plainMimetype (mimetype : String) : Bool :=
  mimetype.toList.count '/' == 1 && mimetype.toList.all fun c => c != ',' && c != ';'

def subtypeOf (mimetype : String) : String :=
  String.ofList (((mimetype.toList.dropWhile fun c => c ≠ '/').drop 1).takeWhile fun c => c ≠ '/')

theorem subtypeOf_toList (mimetype : String) :
    (subtypeOf mimetype).toList =
      ((mimetype.toList.dropWhile fun c => c ≠ '/').drop 1).takeWhile fun c => c ≠ '/' :=
  String.toList_ofList

theorem extensionsToMimetypes_plain :
    ∀ mimetype ∈ defaultMimetype :: extensionsToMimetypes.map Prod.snd,
      plainMimetype mimetype = true := by
  decide +kernel

def fileExtension (filename : String) : String :=
  String.ofList ((filename.toList.rtakeWhile fun c => c ≠ '.').map lowerForTable)

theorem getMimetypeByFilename_eq (filename : String) :
    getMimetypeByFilename filename =
      (Dict.get (fileExtension filename) extensionsToMimetypes).getD defaultMimetype := rfl

theorem getMimetypeByFilename_mem (filename : String) :
    getMimetypeByFilename filename ∈ defaultMimetype :: extensionsToMimetypes.map Prod.snd := by
  rw [getMimetypeByFilename_eq]
  cases found : Dict.get (fileExtension filename) extensionsToMimetypes with
  | none => exact List.mem_cons_self
  | some mimetype =>
      apply List.mem_cons_of_mem
      exact List.mem_map_of_mem (Dict.mem_of_get _ _ _ found)

theorem exists_media_of_plain (mimetype : String) (plain : plainMimetype mimetype = true) :
    ∃ media : MediaType, media.text = mimetype ∧ media.extension = subtypeOf mimetype ∧
      media.subtype = subtypeOf mimetype := by
  obtain ⟨oneSlash, noDelimiters⟩ := Bool.and_eq_true_iff.mp plain
  have slashes : mimetype.toList.count '/' = 1 := beq_iff_eq.mp oneSlash
  have isThere : '/' ∈ mimetype.toList := List.count_pos_iff.mp (by omega)
  obtain ⟨before, after, split⟩ := List.append_of_mem isThere
  rw [split, List.count_append, List.count_cons_self] at slashes
  have absentBefore : '/' ∉ before := List.count_eq_zero.mp (by omega)
  have absentAfter : '/' ∉ after := List.count_eq_zero.mp (by omega)
  have delimiters : ∀ c ∈ mimetype.toList, c ≠ ',' ∧ c ≠ ';' := by
    intro c member
    have here := List.all_eq_true.mp noDelimiters c member
    simpa using here
  have plainBefore : ∀ c ∈ (String.ofList before).toList, c ≠ ',' ∧ c ≠ ';' ∧ c ≠ '/' := by
    intro c member
    rw [String.toList_ofList] at member
    have outside := delimiters c (split ▸ List.mem_append_left _ member)
    exact ⟨outside.1, outside.2, fun same => absentBefore (same ▸ member)⟩
  have plainAfter : ∀ c ∈ (String.ofList after).toList, c ≠ ',' ∧ c ≠ ';' := by
    intro c member
    rw [String.toList_ofList] at member
    exact delimiters c (split ▸ List.mem_append_right _ (List.mem_cons_of_mem _ member))
  have whole : after.takeWhile (fun c => c ≠ '/') = after := by
    rw [List.takeWhile_eq_self_iff]
    intro c member
    apply decide_eq_true
    intro same
    exact absentAfter (same ▸ member)
  have rest : (mimetype.toList.dropWhile fun c => c ≠ '/') = '/' :: after := by
    have passed : ∀ c ∈ before, decide (c ≠ '/') = true := by
      intro c member
      apply decide_eq_true
      intro same
      exact absentBefore (same ▸ member)
    rw [split, List.dropWhile_append_of_pos passed, List.dropWhile_cons_of_neg (by simp)]
  refine ⟨⟨String.ofList before, String.ofList after, plainBefore, plainAfter⟩, ?_, ?_, ?_⟩
  · apply String.toList_inj.mp
    rw [MediaType.text_toList, split, String.toList_ofList, String.toList_ofList]
  · unfold MediaType.extension subtypeOf
    rw [rest, String.toList_ofList, List.drop_one, List.tail_cons]
  · unfold subtypeOf
    rw [rest, List.drop_one, List.tail_cons, whole]

theorem exists_media (filename : String) :
    ∃ media : MediaType, media.text = getMimetypeByFilename filename ∧
      media.extension = subtypeOf (getMimetypeByFilename filename) ∧
      media.subtype = subtypeOf (getMimetypeByFilename filename) :=
  exists_media_of_plain _ (extensionsToMimetypes_plain _ (getMimetypeByFilename_mem filename))

/-! ### From a file to a message and back -/

theorem fromFileAttachment_data {filename : String} {content : List UInt8}
    {sent : BotXAPIAttachment}
    (built : BotXAPIAttachment.fromFileAttachment ⟨filename, some content⟩ = .ok sent) :
    sent.data = encodeRfc2397 content (getMimetypeByFilename filename) := by
  cases built
  rfl

theorem convertVoice_of_sent {filename : String} {content : List UInt8}
    {data : BotAPIAttachmentVoiceData} (messageBody : String)
    (carries : data.content = encodeRfc2397 content (getMimetypeByFilename filename)) :
    convertApiAttachmentToDomain (.voice data) messageBody =
      .ok (.file (.voice ⟨"record." ++ subtypeOf (getMimetypeByFilename filename),
        content.length, content⟩ data.duration)) := by
  obtain ⟨media, text, extension, _⟩ := exists_media filename
  rw [← text] at carries
  rw [← extension]
  apply convertVoice_of_decoded messageBody
  · rw [carries]
    exact decodeRfc2397_encodeRfc2397 content media
  · rw [carries]
    exact getAttachmentExtension_encodeRfc2397 content media

/-- The bytes that were sent come back, in a voice message under a name that ends with the
subtype of the media type. -/
theorem attachment_comes_back (filename : String) (content : List UInt8)
    (sent : BotXAPIAttachment) (apiAttachment : BotAPIAttachment) (messageBody : String)
    (built : BotXAPIAttachment.fromFileAttachment ⟨filename, some content⟩ = .ok sent)
    (carries : apiAttachment.fileContent = some sent.data) :
    ConvertsTo apiAttachment messageBody content ∧
      (apiAttachment.IsVoice → ∃ (media : MediaType) (file : IncomingFileAttachment),
        media.text = getMimetypeByFilename filename ∧ '/' ∉ media.subtype.toList ∧
          convertApiAttachmentToDomain apiAttachment messageBody = .ok (.file file) ∧
            file.base.filename = "record." ++ media.subtype) := by
  have data := fromFileAttachment_data built
  by_cases isVoice : apiAttachment.IsVoice
  · cases apiAttachment with
    | voice voiceData =>
        have given : voiceData.content =
            encodeRfc2397 content (getMimetypeByFilename filename) :=
          (Option.some.inj carries).trans data
        have converted := convertVoice_of_sent messageBody given
        obtain ⟨media, text, extension, subtype⟩ := exists_media filename
        refine ⟨⟨_, converted, trivial, rfl, rfl⟩, ?_⟩
        intro _
        refine ⟨media, _, text, ?_, converted, ?_⟩
        · rw [subtype, subtypeOf_toList]
          intro member
          have passed := List.mem_takeWhile_imp member
          simp at passed
        · rw [subtype]
          rfl
    | _ => cases isVoice
  · refine ⟨?_, fun impossible => absurd impossible isVoice⟩
    obtain ⟨media, text, _, _⟩ := exists_media filename
    apply convertsTo_of_decoded messageBody carries _ isVoice
    rw [data, ← text]
    exact decodeRfc2397_encodeRfc2397 content media

theorem attachment_comes_back_demo :
    ConvertsTo (.voice ⟨encodeRfc2397 [1, 2] "audio/mpeg", 7⟩) "" [1, 2] ∧
      ((BotAPIAttachment.voice ⟨encodeRfc2397 [1, 2] "audio/mpeg", 7⟩).IsVoice →
        ∃ (media : MediaType) (file : IncomingFileAttachment),
          media.text = getMimetypeByFilename "my.song.MP3" ∧ '/' ∉ media.subtype.toList ∧
            convertApiAttachmentToDomain
              (.voice ⟨encodeRfc2397 [1, 2] "audio/mpeg", 7⟩) "" = .ok (.file file) ∧
              file.base.filename = "record." ++ media.subtype) :=
  attachment_comes_back "my.song.MP3" [1, 2] ⟨"my.song.MP3", encodeRfc2397 [1, 2] "audio/mpeg"⟩
    (.voice ⟨encodeRfc2397 [1, 2] "audio/mpeg", 7⟩) "" rfl rfl

/-- The extensions whose media type has a subtype that is no extension of it. -/
def changedExtensions : List String :=
  ["7z", "abw", "ai", "arc", "azw", "bz", "bz2", "cda", "csh", "doc", "docx", "eot", "eps",
    "epub", "gz", "jar", "json-api", "json-patch", "jsonld", "mdb", "mpkg", "odp", "ods", "odt",
    "ogx", "php", "ppt", "pptx", "ps", "sh", "swf", "tar", "vsd", "webmanifest", "xhtml", "xls",
    "xlsx", "xul", "mp3", "oga", "weba", "ico", "svg", "svgz", "ics", "js", "mjs", "txt", "text",
    "3g2", "3gp", "avi", "mov", "ogv", "ts", "wmv"]

def IncomingFileAttachment.outgoing (file : IncomingFileAttachment) : FileAttachment where
  filename := file.base.filename
  content := some file.base.content

/-- A file is sent, received as a voice message and sent again under the same data URL. -/
def ResendsAlike (filename : String) (content : List UInt8) (duration : Int)
    (messageBody : String) : Prop :=
  ∃ sent file again,
    BotXAPIAttachment.fromFileAttachment ⟨filename, some content⟩ = .ok sent ∧
      convertApiAttachmentToDomain (.voice ⟨sent.data, duration⟩) messageBody = .ok (.file file) ∧
        BotXAPIAttachment.fromFileAttachment file.outgoing = .ok again ∧ again.data = sent.data

theorem encodeRfc2397_inj (content : List UInt8) (first second : String) :
    encodeRfc2397 content first = encodeRfc2397 content second ↔ first = second := by
  constructor
  · intro same
    have letters := congrArg String.toList same
    simp only [encodeRfc2397, String.toList_append, List.append_assoc] at letters
    exact String.toList_inj.mp
      (List.append_cancel_right (List.append_cancel_left letters))
  · intro same
    rw [same]

theorem resendsAlike_iff_mimetype (filename : String) (content : List UInt8) (duration : Int)
    (messageBody : String) :
    ResendsAlike filename content duration messageBody ↔
      getMimetypeByFilename ("record." ++ subtypeOf (getMimetypeByFilename filename)) =
        getMimetypeByFilename filename := by
  have converted : convertApiAttachmentToDomain
      (.voice ⟨encodeRfc2397 content (getMimetypeByFilename filename), duration⟩) messageBody =
        .ok (.file (.voice ⟨"record." ++ subtypeOf (getMimetypeByFilename filename),
          content.length, content⟩ duration)) :=
    convertVoice_of_sent messageBody rfl
  rw [← encodeRfc2397_inj content]
  constructor
  · intro alike
    obtain ⟨sent, file, again, built, received, rebuilt, same⟩ := alike
    rw [fromFileAttachment_data built, converted] at received
    cases received
    rw [fromFileAttachment_data rebuilt, fromFileAttachment_data built] at same
    exact same
  · intro same
    exact ⟨_, _, _, rfl, converted, rfl, same⟩

theorem fileExtension_record (name : String) :
    fileExtension ("record." ++ name) =
      String.ofList (((['r', 'e', 'c', 'o', 'r', 'd', '.'] ++ name.toList).rtakeWhile
        fun c => c ≠ '.').map lowerForTable) := by
  unfold fileExtension
  rw [String.toList_append]
  rfl

theorem relookup_table : ∀ entry ∈ extensionsToMimetypes,
    (getMimetypeByFilename ("record." ++ subtypeOf entry.2) = entry.2 ↔
      entry.1 ∉ changedExtensions) := by
  -- Characters are compared here: evaluating the names as texts would encode each of them.
  simp only [getMimetypeByFilename_eq, fileExtension_record, subtypeOf_toList]
  decide +kernel

theorem relookup_default :
    getMimetypeByFilename ("record." ++ subtypeOf defaultMimetype) = defaultMimetype := by
  decide +kernel

theorem changedExtensions_known :
    ∀ extension ∈ changedExtensions, Dict.get extension extensionsToMimetypes ≠ none := by
  decide +kernel

/-- A voice message sent again keeps its data URL exactly if the extension it was first sent
under is none of those whose media type is not found again. -/
theorem resendsAlike_iff (filename : String) (content : List UInt8) (duration : Int)
    (messageBody : String) :
    ResendsAlike filename content duration messageBody ↔
      fileExtension filename ∉ changedExtensions := by
  rw [resendsAlike_iff_mimetype, getMimetypeByFilename_eq filename]
  cases found : Dict.get (fileExtension filename) extensionsToMimetypes with
  | none =>
      have unknown : fileExtension filename ∉ changedExtensions := by
        intro known
        exact changedExtensions_known _ known found
      rw [Option.getD_none]
      exact iff_of_true relookup_default unknown
  | some mimetype =>
      rw [Option.getD_some]
      have listed : (fileExtension filename, mimetype) ∈ extensionsToMimetypes :=
        Dict.mem_of_get _ _ _ found
      exact relookup_table (fileExtension filename, mimetype) listed

/-- A song goes out as `audio/mpeg`, comes back as `record.mpeg` and goes out as a video. -/
theorem song_resent_as_video : ¬ ResendsAlike "song.mp3" [1, 2] 7 "" := by
  rw [resendsAlike_iff_mimetype]
  decide +kernel

end Pybotx
