/-
Attachments of incoming messages: the API models and their conversion to the domain.
-/

import Pybotx.Models.Scalars
import Pybotx.Foundation.Base64

set_option autoImplicit false

namespace Pybotx

structure Sticker where
  id : UUID
  emoji : String
  imageLink : String
  packId : UUID

structure Location where
  name : String
  address : String
  latitude : String
  longitude : String

structure Contact where
  name : String

structure Link where
  url : String
  title : String
  preview : String
  text : String

/-- The fields of `FileAttachmentBase` that are not constants of the class. -/
structure FileAttachmentBase where
  filename : String
  size : Nat
  content : List UInt8

inductive IncomingFileAttachment where
  | image (file : FileAttachmentBase)
  | video (file : FileAttachmentBase) (duration : Int)
  | document (file : FileAttachmentBase)
  | voice (file : FileAttachmentBase) (duration : Int)

inductive IncomingAttachment where
  | file (attachment : IncomingFileAttachment)
  | location (attachment : Location)
  | contact (attachment : Contact)
  | link (attachment : Link)
  | sticker (attachment : Sticker)

structure BotAPIAttachmentImageData where
  content : String
  fileName : String

structure BotAPIAttachmentVideoData where
  content : String
  fileName : String
  duration : Int

structure BotAPIAttachmentDocumentData where
  content : String
  fileName : String

structure BotAPIAttachmentVoiceData where
  content : String
  duration : Int

/-- The coordinates are texts or floats; they are kept as the texts `str` makes of them. -/
structure BotAPIAttachmentLocationData where
  locationName : String
  locationAddress : String
  locationLat : String
  locationLng : String

structure BotAPIAttachmentContactData where
  contactName : String

structure BotAPIAttachmentLinkData where
  url : String
  urlTitle : String
  urlPreview : String
  urlText : String

structure BotAPIAttachmentStickerData where
  id : UUID
  link : String
  pack : UUID

/-- The alternatives of the union; each has a `type` of its own. -/
inductive BotAPIAttachment where
  | video (data : BotAPIAttachmentVideoData)
  | image (data : BotAPIAttachmentImageData)
  | document (data : BotAPIAttachmentDocumentData)
  | voice (data : BotAPIAttachmentVoiceData)
  | location (data : BotAPIAttachmentLocationData)
  | contact (data : BotAPIAttachmentContactData)
  | link (data : BotAPIAttachmentLinkData)
  | sticker (data : BotAPIAttachmentStickerData)

namespace BotAPIAttachment

open Validator Scalars

variable (scalars : Scalars)

/-- A model with a literal `type` and the `data` that goes with it. -/
def typed {α : Type} (type : String)
    (data : List (String × Json) → Validated PyError α) : Check α :=
  model fun entries =>
    (fun _ value => value) <$> required "type" (literal type) entries <*>
      required "data" (model data) entries

def checkVideo : Check BotAPIAttachment :=
  typed "video" fun data =>
    (fun content fileName duration => video ⟨content, fileName, duration⟩) <$>
    required "content" str data <*> required "file_name" str data <*>
    required "duration" scalars.checkInt data

def checkImage : Check BotAPIAttachment :=
  typed "image" fun data => (fun content fileName => image ⟨content, fileName⟩) <$>
    required "content" str data <*> required "file_name" str data

def checkDocument : Check BotAPIAttachment :=
  typed "document" fun data => (fun content fileName => document ⟨content, fileName⟩) <$>
    required "content" str data <*> required "file_name" str data

def checkVoice : Check BotAPIAttachment :=
  typed "voice" fun data => (fun content duration => voice ⟨content, duration⟩) <$>
    required "content" str data <*> required "duration" scalars.checkInt data

def checkLocation : Check BotAPIAttachment :=
  typed "location" fun data =>
    (fun name address lat lng => location ⟨name, address, lat, lng⟩) <$>
    required "location_name" str data <*> required "location_address" str data <*>
    required "location_lat" scalars.checkStrOrFloat data <*>
    required "location_lng" scalars.checkStrOrFloat data

def checkContact : Check BotAPIAttachment :=
  typed "contact" fun data => (fun name => contact ⟨name⟩) <$> required "contact_name" str data

def checkLink : Check BotAPIAttachment :=
  typed "link" fun data => (fun url title preview text => link ⟨url, title, preview, text⟩) <$>
    required "url" str data <*> required "url_title" str data <*>
    required "url_preview" str data <*> required "url_text" str data

def checkSticker : Check BotAPIAttachment :=
  typed "sticker" fun data => (fun id link pack => sticker ⟨id, link, pack⟩) <$>
    required "id" scalars.checkUuid data <*> required "link" str data <*>
    required "pack" scalars.checkUuid data

def check : Check BotAPIAttachment :=
  union [checkVideo scalars, checkImage, checkDocument, checkVoice scalars,
    checkLocation scalars, checkContact, checkLink, checkSticker scalars]

end BotAPIAttachment

/-- `text.split(separator, 1)[1]`. -/
def afterFirst (separator : Char) (text : List Char) : Result (List Char) :=
  match text.dropWhile fun c => c ≠ separator with
  | [] => .error .indexError
  | _ :: rest => .ok rest

def decodeRfc2397 (encodedContent : String) : Result (List UInt8) :=
  if encodedContent = "" then .ok []
  else do
    let encoded ← afterFirst ',' encodedContent.toList
    match Base64.decode (String.ofList encoded) with
    | some content => .ok content
    -- `binascii.Error` is a `ValueError`.
    | none => .error (.valueError "Incorrect padding")

/-- `encoded_content.split(";")[0].split("/")[1]`. -/
def getAttachmentExtensionFromEncodedContent (encodedContent : String) : Result String := do
  let mediaType := encodedContent.toList.takeWhile fun c => c ≠ ';'
  let rest ← afterFirst '/' mediaType
  return String.ofList (rest.takeWhile fun c => c ≠ '/')

def convertApiAttachmentToDomain (apiAttachment : BotAPIAttachment) (messageBody : String) :
    Result IncomingAttachment :=
  match apiAttachment with
  | .image data => do
      let content ← decodeRfc2397 data.content
      return .file (.image ⟨data.fileName, content.length, content⟩)
  | .video data => do
      let content ← decodeRfc2397 data.content
      return .file (.video ⟨data.fileName, content.length, content⟩ data.duration)
  | .document data => do
      let content ← decodeRfc2397 data.content
      return .file (.document ⟨data.fileName, content.length, content⟩)
  | .voice data => do
      let content ← decodeRfc2397 data.content
      let attachmentExtension ← getAttachmentExtensionFromEncodedContent data.content
      return .file (.voice ⟨"record." ++ attachmentExtension, content.length, content⟩
        data.duration)
  | .location data => return .location ⟨data.locationName, data.locationAddress, data.locationLat,
      data.locationLng⟩
  | .contact data => return .contact ⟨data.contactName⟩
  | .link data => return .link ⟨data.url, data.urlTitle, data.urlPreview, data.urlText⟩
  | .sticker data => return .sticker ⟨data.id, messageBody, data.link, data.pack⟩

end Pybotx
