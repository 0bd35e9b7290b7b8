import DtoScaffold.Container
import DtoScaffold.Reference
import DtoScaffold.Registry
import DtoScaffold.Storage.Basic

/-!
# Placing artifacts

An artifact lies below its container, in the root directory and the directories of its class. A
file is written only where nothing is; the directories above it are created first and stay when
the writing fails.
-/
namespace DtoScaffold

open Text

inductive GenerationError
  | unknownContainer (error : UnknownContainer)
  | targetExists (path : Path)
  | writeFailed (path : Path) (cause : StorageError)
  deriving DecidableEq, Repr

def GenerationError.message : GenerationError → String
  | unknownContainer error => error.message
  | targetExists path => s!"\"{path.text}\" already exists"
  | writeFailed path cause => s!"Failed to write \"{path.text}\": {cause.message}"

def filePreamble : String :=
  "<?php\n\n"

def withPreamble (text : String) : String :=
  filePreamble ++ text

def placeOf (container : Container) (identity : ClassIdentity) (rootDirectory fileName : String) :
    Path :=
  container.basePath.pushAll (segments rootDirectory ++ identity.directories ++ [fileName])

def checkFree (taken : Path → Bool) (path : Path) : Except GenerationError Unit :=
  if taken path then .error (.targetExists path) else .ok ()

/-- Create the directories above a path unless they are there. -/
def makeRoom {σ : Type} [Storage σ] (storage : σ) (path : Path) :
    Except GenerationError Unit × σ :=
  match path.parent? with
  | none => (.ok (), storage)
  | some parent =>
    if parent.text.isEmpty || Storage.taken storage parent then (.ok (), storage)
    else
      match Storage.createDirectories storage parent with
      | (.ok (), left) => (.ok (), left)
      | (.error cause, left) => (.error (.writeFailed parent cause), left)

/-- Write a text with the start of its file to a path where nothing is. -/
def writeFile {σ : Type} [Storage σ] (storage : σ) (path : Path) (text : String) :
    Except GenerationError Unit × σ :=
  match makeRoom storage path with
  | (.error error, left) => (.error error, left)
  | (.ok (), ready) =>
    match Storage.writeNew ready path (withPreamble text).toUTF8 with
    | (.ok (), left) => (.ok (), left)
    | (.error cause, left) =>
      (.error (if cause.kind = .alreadyExists then .targetExists path
        else .writeFailed path cause), left)

end DtoScaffold
