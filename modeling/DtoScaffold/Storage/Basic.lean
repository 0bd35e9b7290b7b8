import DtoScaffold.Path

/-!
# Storage for generated files

A storage answers whether a path is taken, creates directories and writes new files. It never
writes over a file. A failed operation may have changed the storage, so every operation returns the
storage it leaves.
-/
namespace DtoScaffold

inductive FailureKind
  | alreadyExists
  | notFound
  | notADirectory
  | isADirectory
  | permissionDenied
  | storageFull
  | interrupted
  | invalidInput
  /-- A name or a path is too long. -/
  | invalidFilename
  | invalidData
  | other
  deriving DecidableEq, Repr

inductive StorageError
  /-- The storage was told to fail. -/
  | simulated (kind : FailureKind)
  /-- A file was to be written where one is. -/
  | taken (path : Path)
  /-- The system below refused. -/
  | system (kind : FailureKind)
  deriving DecidableEq, Repr

namespace StorageError

def kind : StorageError → FailureKind
  | simulated kind => kind
  | taken _ => .alreadyExists
  | system kind => kind

def systemMessage : FailureKind → String
  | .alreadyExists => "File exists (os error 17)"
  | .notFound => "No such file or directory (os error 2)"
  | .notADirectory => "Not a directory (os error 20)"
  | .isADirectory => "Is a directory (os error 21)"
  | .permissionDenied => "Permission denied (os error 13)"
  | .storageFull => "No space left on device (os error 28)"
  | .interrupted => "Interrupted system call (os error 4)"
  | .invalidInput => "file name contained an unexpected NUL byte"
  | .invalidFilename => "File name too long (os error 36)"
  | .invalidData => "stream did not contain valid UTF-8"
  | .other => "other error"

def message : StorageError → String
  | simulated _ => "simulated write failure"
  | taken path => s!"{path.text} already exists"
  | system kind => systemMessage kind

end StorageError

def directoryMode : Nat :=
  0o775

def fileMode : Nat :=
  0o644

/-- The storages: states of type `σ` with operations on files and directories. -/
class Storage (σ : Type) where
  taken : σ → Path → Bool
  /-- Create a directory and the missing ones above it. -/
  createDirectories : σ → Path → Except StorageError Unit × σ
  /-- Write a file where nothing is yet, wholly or not at all. -/
  writeNew : σ → Path → ByteArray → Except StorageError Unit × σ

end DtoScaffold
