import DtoScaffold.Storage.Basic

/-!
# Storages made of calls to the system

A storage of real files asks the system below it for every change. Missing directories are created
from the top down. A new file is prepared under a drawn name in the directory that it is for and
gets its own name when its content is complete; when a call fails, the prepared file is removed.
-/
namespace DtoScaffold

/-- A place in a tree of files: the names from the root down. -/
abbrev Location :=
  List String

/-- The calls to a system of files. Each gives its answer and leaves a system. -/
class System (σ : Type) where
  taken : σ → Path → Bool
  isDirectory : σ → Path → Bool
  /-- Create one directory with a mode. The directory above it has to exist. -/
  makeDirectory : σ → Path → Nat → Except FailureKind Unit × σ
  /-- Create an empty file under a drawn name in a directory. -/
  stage : σ → Path → Except FailureKind Location × σ
  /-- Write the content of a staged file. -/
  fill : σ → Location → ByteArray → Except FailureKind Unit × σ
  /-- Wait until the content of a staged file is on the medium. -/
  sync : σ → Location → Except FailureKind Unit × σ
  setMode : σ → Location → Nat → Except FailureKind Unit × σ
  /-- Move a staged file to a path where nothing is. -/
  publish : σ → Location → Path → Except FailureKind Unit × σ
  /-- Remove a staged file. -/
  discard : σ → Location → σ

namespace System

variable {σ : Type} [System σ]

/-- A directory that cannot be created because it is there is no failure. -/
def unlessDirectory (path : Path) : Except FailureKind Unit × σ → Except StorageError Unit × σ
  | (.ok (), left) => (.ok (), left)
  | (.error kind, left) =>
    (if System.isDirectory left path then .ok () else .error (.system kind), left)

/-- Create the first path as a directory; the others are the paths above it, the nearest first, and
are created when the first is missing its parent. -/
def makeDirectories (system : σ) : List Path → Except StorageError Unit × σ
  | [] => (.error (.system .other), system)
  | path :: above =>
    if path.text.isEmpty then (.ok (), system)
    else
      match System.makeDirectory system path directoryMode with
      | (.error .notFound, left) =>
        match makeDirectories left above with
        | (.ok (), ready) => unlessDirectory path (System.makeDirectory ready path directoryMode)
        | (.error error, left) => (.error error, left)
      | answer => unlessDirectory path answer

def createDirectories (system : σ) (path : Path) : Except StorageError Unit × σ :=
  makeDirectories system (path :: path.parents)

/-- Make calls one after the other until one fails. -/
def inOrder (system : σ) :
    List (σ → Except FailureKind Unit × σ) → Except FailureKind Unit × σ
  | [] => (.ok (), system)
  | call :: rest =>
    match call system with
    | (.ok (), left) => inOrder left rest
    | (.error kind, left) => (.error kind, left)

/-- The directory in which a new file is prepared before it gets its name. -/
def stagingDirectory (path : Path) : Path :=
  match path.parent? with
  | some parent => if parent.text.isEmpty then ⟨"."⟩ else parent
  | none => ⟨"."⟩

/-- What is done to a staged file. -/
def completion (staged : Location) (path : Path) (content : ByteArray) :
    List (σ → Except FailureKind Unit × σ) :=
  [(System.fill · staged content), (System.sync · staged), (System.setMode · staged fileMode),
    (System.publish · staged path)]

def writeNew (system : σ) (path : Path) (content : ByteArray) : Except StorageError Unit × σ :=
  match System.stage system (stagingDirectory path) with
  | (.error kind, left) => (.error (.system kind), left)
  | (.ok staged, ready) =>
    match inOrder ready (completion staged path content) with
    | (.ok (), written) => (.ok (), written)
    | (.error kind, left) => (.error (.system kind), System.discard left staged)

instance : Storage σ :=
  ⟨System.taken, createDirectories, writeNew⟩

end System

end DtoScaffold
