/-
Files attached to outgoing messages: the guess of the media type from the file name and
the data URL.

Only the file name and the content of an attachment are read when it is sent.
-/

import Pybotx.Foundation.Base64
import Pybotx.Models.ApiBase
import Pybotx.Errors

set_option autoImplicit false

namespace Pybotx

/-- `IncomingFileAttachment` or `OutgoingAttachment`.  The content is declared as bytes;
that it might be `None` is what the assertion of `from_file_attachment` guards. -/
structure FileAttachment where
  filename : String
  content : Option (List UInt8)

def extensionsToMimetypes : List (String × String) :=
  [("7z", "application/x-7z-compressed"),
    ("abw", "application/x-abiword"),
    ("ai", "application/postscript"),
    ("arc", "application/x-freearc"),
    ("azw", "application/vnd.amazon.ebook"),
    ("bin", "application/octet-stream"),
    ("bz", "application/x-bzip"),
    ("bz2", "application/x-bzip2"),
    ("cda", "application/x-cdf"),
    ("csh", "application/x-csh"),
    ("doc", "application/msword"),
    ("docx", "application/vnd.openxmlformats-officedocument.wordprocessingml.document"),
    ("eot", "application/vnd.ms-fontobject"),
    ("eps", "application/postscript"),
    ("epub", "application/epub+zip"),
    ("gz", "application/gzip"),
    ("jar", "application/java-archive"),
    ("json-api", "application/vnd.api+json"),
    ("json-patch", "application/json-patch+json"),
    ("json", "application/json"),
    ("jsonld", "application/ld+json"),
    ("mdb", "application/x-msaccess"),
    ("mpkg", "application/vnd.apple.installer+xml"),
    ("odp", "application/vnd.oasis.opendocument.presentation"),
    ("ods", "application/vnd.oasis.opendocument.spreadsheet"),
    ("odt", "application/vnd.oasis.opendocument.text"),
    ("ogx", "application/ogg"),
    ("pdf", "application/pdf"),
    ("php", "application/x-httpd-php"),
    ("ppt", "application/vnd.ms-powerpoint"),
    ("pptx", "application/vnd.openxmlformats-officedocument.presentationml.presentation"),
    ("ps", "application/postscript"),
    ("rar", "application/vnd.rar"),
    ("rtf", "application/rtf"),
    ("sh", "application/x-sh"),
    ("swf", "application/x-shockwave-flash"),
    ("tar", "application/x-tar"),
    ("vsd", "application/vnd.visio"),
    ("wasm", "application/wasm"),
    ("webmanifest", "application/manifest+json"),
    ("xhtml", "application/xhtml+xml"),
    ("xls", "application/vnd.ms-excel"),
    ("xlsx", "application/vnd.openxmlformats-officedocument.spreadsheetml.sheet"),
    ("xul", "application/vnd.mozilla.xul+xml"),
    ("zip", "application/zip"),
    ("aac", "audio/aac"),
    ("mid", "audio/midi"),
    ("midi", "audio/midi"),
    ("mp3", "audio/mpeg"),
    ("oga", "audio/ogg"),
    ("opus", "audio/opus"),
    ("wav", "audio/wav"),
    ("weba", "audio/webm"),
    ("otf", "font/otf"),
    ("ttf", "font/ttf"),
    ("woff", "font/woff"),
    ("woff2", "font/woff2"),
    ("avif", "image/avif"),
    ("bmp", "image/bmp"),
    ("gif", "image/gif"),
    ("ico", "image/vnd.microsoft.icon"),
    ("jpeg", "image/jpeg"),
    ("jpg", "image/jpeg"),
    ("png", "image/png"),
    ("svg", "image/svg+xml"),
    ("svgz", "image/svg+xml"),
    ("tif", "image/tiff"),
    ("tiff", "image/tiff"),
    ("webp", "image/webp"),
    ("css", "text/css"),
    ("csv", "text/csv"),
    ("htm", "text/html"),
    ("html", "text/html"),
    ("ics", "text/calendar"),
    ("js", "text/javascript"),
    ("mjs", "text/javascript"),
    ("txt", "text/plain"),
    ("text", "text/plain"),
    ("xml", "text/xml"),
    ("3g2", "video/3gpp2"),
    ("3gp", "video/3gpp"),
    ("avi", "video/x-msvideo"),
    ("mov", "video/quicktime"),
    ("mp4", "video/mp4"),
    ("mpeg", "video/mpeg"),
    ("mpg", "video/mpeg"),
    ("ogv", "video/ogg"),
    ("ts", "video/mp2t"),
    ("webm", "video/webm"),
    ("wmv", "video/x-ms-wmv")]

def defaultMimetype : String := "application/octet-stream"

def encodeRfc2397 (content : List UInt8) (mimetype : String) : String :=
  "data:" ++ mimetype ++ ";base64," ++ Base64.encode content

/-- `str.lower` as far as the table can tell: the Kelvin sign is the only character
outside ASCII whose lower case is in ASCII. -/
def lowerForTable (c : Char) : Char :=
  if c.toNat = 0x212A then 'k' else c.toLower

def getMimetypeByFilename (filename : String) : String :=
  let extension := (filename.toList.rtakeWhile (fun c => c ≠ '.')).map lowerForTable
  (Dict.get (String.ofList extension) extensionsToMimetypes).getD defaultMimetype

structure BotXAPIAttachment where
  fileName : String
  data : String

namespace BotXAPIAttachment

def fromFileAttachment (attachment : FileAttachment) : Result BotXAPIAttachment :=
  match attachment.content with
  | none => .error .assertionError
  | some content =>
      let mimetype := getMimetypeByFilename attachment.filename
      .ok { fileName := attachment.filename, data := encodeRfc2397 content mimetype }

def modelDump (attachment : BotXAPIAttachment) : PyValue :=
  .dict [("file_name", .str attachment.fileName), ("data", .str attachment.data)]

end BotXAPIAttachment

def attachmentJson (attachment : FileAttachment) : Json :=
  .obj [("file_name", .str attachment.filename),
    ("data", .str (encodeRfc2397 (attachment.content.getD [])
      (getMimetypeByFilename attachment.filename)))]

theorem prune_fromFileAttachment (attachment : FileAttachment) (sent : BotXAPIAttachment)
    (returned : BotXAPIAttachment.fromFileAttachment attachment = .ok sent) :
    PyValue.prune sent.modelDump = some (attachmentJson attachment) := by
  unfold BotXAPIAttachment.fromFileAttachment at returned
  split at returned
  · cases returned
  · rename_i content present
    cases returned
    simp [BotXAPIAttachment.modelDump, PyValue.prune_dict, PyValue.pruneFields, attachmentJson,
      present]

end Pybotx
