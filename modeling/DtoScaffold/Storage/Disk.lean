import DtoScaffold.Storage.System

/-!
# A disk

A disk is a tree of directories and files with a current directory that relative paths start from.
A path is walked name by name: every name but the last has to be a directory, `.` stays, `..` goes
up, and a separator at the end asks for a directory. A path with a NUL, an empty one and one that is
too long are never walked, and no name that is too long is looked up.
-/
namespace DtoScaffold

open Text

inductive DiskEntry
  | directory
  | file (content : ByteArray)

def DiskEntry.isDirectory : DiskEntry → Bool
  | directory => true
  | file _ => false

structure Disk where
  /-- All places below the root with what is there. -/
  entries : List (Location × DiskEntry)
  current : Location

namespace Disk

/-- A disk with nothing but its current directory and those above it. -/
def fresh (current : Location) : Disk :=
  ⟨(List.range current.length).map fun depth => (current.take (depth + 1), .directory), current⟩

def entry? (disk : Disk) (location : Location) : Option DiskEntry :=
  if location.isEmpty then some .directory else disk.entries.lookup location

def hasDirectory (disk : Disk) (location : Location) : Bool :=
  (disk.entry? location).any DiskEntry.isDirectory

def longestName : Nat :=
  255

def longestPath : Nat :=
  4095

/-- Whether there is something of the given name in a directory. -/
def lookUp (disk : Disk) (directory : Location) (name : String) : Except FailureKind Bool :=
  if longestName < name.utf8ByteSize then .error .invalidFilename
  else .ok (disk.entry? (directory ++ [name])).isSome

def walk (disk : Disk) (location : Location) : List String → Except FailureKind Location
  | [] => .ok location
  | name :: rest =>
    match disk.entry? location with
    | none => .error .notFound
    | some (.file _) => .error .notADirectory
    | some .directory =>
      if name == "." then walk disk location rest
      else if name == ".." then walk disk location.dropLast rest
      else
        match disk.lookUp location name with
        | .error kind => .error kind
        | .ok false => .error .notFound
        | .ok true => walk disk (location ++ [name]) rest

def start (disk : Disk) (path : Path) : Location :=
  if path.isAbsolute then [] else disk.current

def namesOf (path : Path) : List String :=
  (runs (· == '/') path.text).map Run.text

/-- Refuse a path that is never walked. -/
def checkWalkable (path : Path) : Except FailureKind Unit :=
  if path.text.toList.contains '\x00' then .error .invalidInput
  else if path.text.isEmpty then .error .notFound
  else if longestPath < path.text.utf8ByteSize then .error .invalidFilename
  else .ok ()

/-- The place that a path denotes, if something is there. -/
def locate (disk : Disk) (path : Path) : Except FailureKind Location := do
  checkWalkable path
  disk.walk (disk.start path) (namesOf path ++ if path.endsInSlash then ["."] else [])

def taken (disk : Disk) (path : Path) : Bool :=
  (disk.locate path).isOk

def isDirectory (disk : Disk) (path : Path) : Bool :=
  match disk.locate path with
  | .ok location => disk.hasDirectory location
  | .error _ => false

/-- The free place for a new last name of a path: its directory exists and nothing is there. -/
def freePlace (disk : Disk) (path : Path) : Except FailureKind Location := do
  checkWalkable path
  match (namesOf path).getLast? with
  | none => throw .alreadyExists
  | some last =>
    let directory ← disk.walk (disk.start path) ((namesOf path).dropLast ++ ["."])
    if last == "." || last == ".." then throw .alreadyExists
    if ← disk.lookUp directory last then throw .alreadyExists
    return directory ++ [last]

def addEntry (disk : Disk) (location : Location) (entry : DiskEntry) : Disk :=
  { disk with entries := disk.entries ++ [(location, entry)] }

/-- The disk with another entry where there is one. -/
def replaceEntry (disk : Disk) (location : Location) (entry : DiskEntry) : Disk :=
  { disk with
    entries := disk.entries.map fun old => if old.1 == location then (location, entry) else old }

def removeEntry (disk : Disk) (location : Location) : Disk :=
  { disk with entries := disk.entries.filter (·.1 != location) }

/-- Create one directory, whose parent has to exist. Modes are not recorded. -/
def makeDirectory (disk : Disk) (path : Path) (_ : Nat) : Except FailureKind Unit × Disk :=
  match disk.freePlace path with
  | .ok place => (.ok (), disk.addEntry place .directory)
  | .error kind => (.error kind, disk)

/-- The name that an attempt draws for a staged file; six letters of it vary. -/
def stagingName (attempt : Nat) : String :=
  ".tmp" ++ String.ofList
    ((List.range 6).map fun place => Nat.digitChar (attempt / Nat.pow 10 place % 10))

/-- The number of names that are tried for a staged file. -/
def stagingAttempts : Nat :=
  65536

/-- A free name for a staged file in a directory, if one of the attempts draws it. -/
def freeStagingName? (disk : Disk) (directory : Location) : Nat → Option String
  | 0 => none
  | attempt + 1 =>
    let name := stagingName attempt
    if (disk.entry? (directory ++ [name])).isNone then some name
    else freeStagingName? disk directory attempt

/-- The path that starts from the root and denotes what the given one denotes. -/
def absolute (disk : Disk) (path : Path) : Path :=
  ((⟨"/"⟩ : Path).pushAll disk.current).push path

/-- A free place for a staged file in a directory. Its path from the root must not be too long. -/
def stagingPlace (disk : Disk) (directory : Path) : Except FailureKind Location := do
  checkWalkable ((disk.absolute directory).push ⟨stagingName 0⟩)
  let place ← disk.locate directory
  if !disk.hasDirectory place then throw .notADirectory
  match disk.freeStagingName? place stagingAttempts with
  | none => throw .alreadyExists
  | some name => return place ++ [name]

def stage (disk : Disk) (directory : Path) : Except FailureKind Location × Disk :=
  match disk.stagingPlace directory with
  | .ok staged => (.ok staged, disk.addEntry staged (.file .empty))
  | .error kind => (.error kind, disk)

def fill (disk : Disk) (staged : Location) (content : ByteArray) : Except FailureKind Unit × Disk :=
  (.ok (), disk.replaceEntry staged (.file content))

/-- The place of a new file. A separator at the end of its path asks for a directory, which a file
is not. -/
def newFilePlace (disk : Disk) (path : Path) : Except FailureKind Location := do
  let place ← disk.freePlace path
  if path.endsInSlash then throw .notADirectory
  return place

def publish (disk : Disk) (staged : Location) (path : Path) : Except FailureKind Unit × Disk :=
  match disk.newFilePlace path with
  | .error kind => (.error kind, disk)
  | .ok place =>
    match disk.entry? staged with
    | none => (.error .notFound, disk)
    | some entry => (.ok (), (disk.removeEntry staged).addEntry place entry)

instance : System Disk where
  taken := taken
  isDirectory := isDirectory
  makeDirectory := makeDirectory
  stage := stage
  fill := fill
  sync disk _ := (.ok (), disk)
  setMode disk _ _ := (.ok (), disk)
  publish := publish
  discard := removeEntry

/-- Create a directory and the missing ones above it. -/
def createDirectories (disk : Disk) (path : Path) : Except StorageError Unit × Disk :=
  Storage.createDirectories disk path

def read (disk : Disk) (path : Path) : Except StorageError ByteArray :=
  match disk.locate path with
  | .error kind => .error (.system kind)
  | .ok location =>
    match disk.entry? location with
    | some (.file content) => .ok content
    | _ => .error (.system .isADirectory)

/-- Write a file, over the one that is there if there is one. -/
def overwrite (disk : Disk) (path : Path) (content : ByteArray) : Except StorageError Unit × Disk :=
  match disk.locate path with
  | .ok location =>
    if disk.hasDirectory location then (.error (.system .isADirectory), disk)
    else (.ok (), disk.replaceEntry location (.file content))
  | .error .notFound =>
    match disk.freePlace path with
    | .ok location =>
      if path.endsInSlash then (.error (.system .isADirectory), disk)
      else (.ok (), disk.addEntry location (.file content))
    | .error kind => (.error (.system kind), disk)
  | .error kind => (.error (.system kind), disk)

/-- The text of an entry below a directory; a directory ends in a separator. -/
def entryText (below : Location) : DiskEntry → String
  | .directory => "/".intercalate below ++ "/"
  | .file _ => "/".intercalate below

/-- Everything below the current directory with its content, in the order of the texts. -/
def listing (disk : Disk) : List (String × Option ByteArray) :=
  let below := disk.entries.filterMap fun (location, entry) =>
    if disk.current.isPrefixOf location && disk.current.length < location.length then
      let content := match entry with
        | .directory => none
        | .file content => some content
      some (entryText (location.drop disk.current.length) entry, content)
    else none
  below.mergeSort fun a b => !(b.1 < a.1)

end Disk

end DtoScaffold
