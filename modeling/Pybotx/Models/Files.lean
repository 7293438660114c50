/-
Files that are stored on the server: their metadata in a SmartApp event.
-/

import Pybotx.Models.ApiBase
import Pybotx.Models.Scalars

set_option autoImplicit false

namespace Pybotx

open Validator

abbrev MissingOptional (α : Type) := Missing (Option α)

/-- The fields of `FileBase` that are not constants of the class. -/
structure FileBase where
  filename : String
  size : Int
  fileId : UUID
  fileUrl : String
  fileMimetype : String
  fileHash : String
  filePreview : Option String
  filePreviewHeight : Option Int
  filePreviewWidth : Option Int
  fileEncryptionAlgo : Option String
  chunkSize : Option Int
  caption : Option String
  deriving DecidableEq

inductive File where
  | image (base : FileBase)
  | video (base : FileBase) (duration : Int)
  | document (base : FileBase)
  | voice (base : FileBase) (duration : Int)
  deriving DecidableEq

structure APIAsyncFileBase where
  file : String
  fileMimeType : String
  fileId : UUID
  fileName : String
  fileSize : Int
  fileHash : String
  filePreview : MissingOptional String
  filePreviewHeight : MissingOptional Int
  filePreviewWidth : MissingOptional Int
  fileEncryptionAlgo : MissingOptional String
  chunkSize : MissingOptional Int
  caption : MissingOptional String

inductive APIAsyncFile where
  | image (base : APIAsyncFileBase)
  | video (base : APIAsyncFileBase) (duration : Int)
  | document (base : APIAsyncFileBase)
  | voice (base : APIAsyncFileBase) (duration : Int)

section

variable (scalars : Scalars) {ε : Type}

/-- A field of type `MissingOptional`, `Undefined` unless it is given. -/
def missingOptional {α : Type} (key : String) (inner : Validator ε α)
    (entries : List (String × Json)) : Validated ε (MissingOptional α) :=
  defaulted key .undefined (fun value => .value <$> optional inner value) entries

def APIAsyncFileBase.fields (entries : List (String × Json)) :
    Validated ε APIAsyncFileBase :=
  APIAsyncFileBase.mk <$> required "file" str entries <*>
    required "file_mime_type" str entries <*>
    required "file_id" scalars.checkUuid entries <*>
    required "file_name" str entries <*>
    required "file_size" scalars.checkInt entries <*>
    required "file_hash" str entries <*>
    missingOptional "file_preview" str entries <*>
    missingOptional "file_preview_height" scalars.checkInt entries <*>
    missingOptional "file_preview_width" scalars.checkInt entries <*>
    missingOptional "file_encryption_algo" str entries <*>
    missingOptional "chunk_size" scalars.checkInt entries <*>
    missingOptional "caption" str entries

def APIAsyncFile.check : Validator ε APIAsyncFile :=
  union
    [model fun entries => (fun _ base => .image base) <$>
        required "type" (literal "image") entries <*> APIAsyncFileBase.fields scalars entries,
      model fun entries => (fun _ base duration => .video base duration) <$>
        required "type" (literal "video") entries <*> APIAsyncFileBase.fields scalars entries <*>
        required "duration" scalars.checkInt entries,
      model fun entries => (fun _ base => .document base) <$>
        required "type" (literal "document") entries <*> APIAsyncFileBase.fields scalars entries,
      model fun entries => (fun _ base duration => .voice base duration) <$>
        required "type" (literal "voice") entries <*> APIAsyncFileBase.fields scalars entries <*>
        required "duration" scalars.checkInt entries]

end

def toOptional {α : Type} : MissingOptional α → Option α
  | .undefined => none
  | .value value => value

def APIAsyncFileBase.toDomain (asyncFile : APIAsyncFileBase) : FileBase where
  filename := asyncFile.fileName
  size := asyncFile.fileSize
  fileId := asyncFile.fileId
  fileUrl := asyncFile.file
  fileMimetype := asyncFile.fileMimeType
  fileHash := asyncFile.fileHash
  filePreview := toOptional asyncFile.filePreview
  filePreviewHeight := toOptional asyncFile.filePreviewHeight
  filePreviewWidth := toOptional asyncFile.filePreviewWidth
  fileEncryptionAlgo := toOptional asyncFile.fileEncryptionAlgo
  chunkSize := toOptional asyncFile.chunkSize
  caption := toOptional asyncFile.caption

def convertAsyncFileToDomain : APIAsyncFile → File
  | .image base => .image base.toDomain
  | .video base duration => .video base.toDomain duration
  | .document base => .document base.toDomain
  | .voice base duration => .voice base.toDomain duration

end Pybotx
