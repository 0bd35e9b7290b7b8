import DtoScaffold.Json.Record
import DtoScaffold.Json.Value
import DtoScaffold.Php.Artifact
import DtoScaffold.Registry
import DtoScaffold.Storage.Basic

/-!
# The configuration of a project

The configuration names the containers of a project and the defaults of the generator. A field that
is left out has its default, and a project without a configuration file has the default
configuration. Paths of containers start from the project's directory.
-/
namespace DtoScaffold

open Json

structure ContainerEntry where
  path : String
  namespaceText : String
  deriving DecidableEq, Repr

structure Config where
  /-- The containers in ascending order of their names, each name once. -/
  containers : List (String × ContainerEntry)
  rootDirectory : String
  assemblerDomainType : String
  deriving DecidableEq, Repr

inductive ConfigError
  | unreadable (cause : StorageError)
  | notText
  | invalid (fault : Fault)
  deriving DecidableEq, Repr

def ConfigError.message : ConfigError → String
  | unreadable cause => cause.message
  | notText => StorageError.systemMessage .invalidData
  | invalid .malformed => "the configuration is not valid JSON"
  | invalid .wrongShape => "the configuration has a field of another shape"
  | invalid .truncated => "the configuration ends too early"

namespace Config

def fileName : String :=
  "dtogen.config.json"

def initial : Config :=
  ⟨[], defaultRootDirectory, defaultDomainType⟩

/-- Put a container into its place; a later one replaces an earlier one of the same name. -/
def placeEntry (name : String) (entry : ContainerEntry) :
    List (String × ContainerEntry) → List (String × ContainerEntry)
  | [] => [(name, entry)]
  | other :: rest =>
    if name < other.1 then (name, entry) :: other :: rest
    else if name == other.1 then (name, entry) :: rest
    else other :: placeEntry name entry rest

def toJson (config : Config) : Value :=
  .object [("containers", .object (config.containers.map fun (name, entry) =>
      (name, .object [("path", .text entry.path), ("namespace", .text entry.namespaceText)]))),
    ("rootDirectory", .text config.rootDirectory),
    ("assemblerDomainType", .text config.assemblerDomainType)]

structure EntryDraft where
  path : Option String
  namespaceText : Option String

def entryFields : List (RecordField EntryDraft) :=
  [⟨"path", (·.path.isSome), fun draft cs =>
      (textValue cs).map fun (value, rest) => ({ draft with path := some value }, rest)⟩,
    ⟨"namespace", (·.namespaceText.isSome), fun draft cs =>
      (textValue cs).map fun (value, rest) => ({ draft with namespaceText := some value }, rest)⟩]

def EntryDraft.complete (draft : EntryDraft) : Except Fault ContainerEntry :=
  match draft.path, draft.namespaceText with
  | some path, some namespaceText => .ok ⟨path, namespaceText⟩
  | _, _ => .error .wrongShape

/-- Read the container that follows its name and put it into its place. -/
def containerMember (name : String) (containers : List (String × ContainerEntry))
    (cs : List Char) : Except Fault (List (String × ContainerEntry) × List Char) := do
  let (draft, rest) ← record entryFields ⟨none, none⟩ (← colon cs)
  return (placeEntry name (← draft.complete) containers, rest)

structure Draft where
  containers : Option (List (String × ContainerEntry))
  rootDirectory : Option String
  assemblerDomainType : Option String

def fields : List (RecordField Draft) :=
  [⟨"containers", (·.containers.isSome), fun draft cs =>
      (object containerMember [] cs).map fun (value, rest) =>
        ({ draft with containers := some value }, rest)⟩,
    ⟨"rootDirectory", (·.rootDirectory.isSome), fun draft cs =>
      (textValue cs).map fun (value, rest) => ({ draft with rootDirectory := some value }, rest)⟩,
    ⟨"assemblerDomainType", (·.assemblerDomainType.isSome), fun draft cs =>
      (textValue cs).map fun (value, rest) =>
        ({ draft with assemblerDomainType := some value }, rest)⟩]

/-- The configuration of a draft, defaults in place of what was not read. -/
def Draft.complete (draft : Draft) : Config :=
  ⟨draft.containers.getD initial.containers, draft.rootDirectory.getD initial.rootDirectory,
    draft.assemblerDomainType.getD initial.assemblerDomainType⟩

def read (cs : List Char) : Except Fault (Config × List Char) :=
  (record fields ⟨none, none, none⟩ cs).map fun (draft, rest) => (draft.complete, rest)

def ofJson (source : String) : Except Fault Config :=
  document read source

/-- The configuration of a project whose configuration file has the given content, if there is
one. -/
def load (content : Option ByteArray) : Except ConfigError Config :=
  match content with
  | none => .ok initial
  | some bytes =>
    match String.fromUTF8? bytes with
    | none => .error .notText
    | some source => (ofJson source).mapError .invalid

/-- The container that an entry describes in a project's directory. -/
def containerOf (directory : Path) (name : String) (entry : ContainerEntry) : Container :=
  .named name (directory.push ⟨entry.path⟩) entry.namespaceText

def registry (config : Config) (directory : Path) : Registry :=
  .ofList (config.containers.map fun (name, entry) => containerOf directory name entry)

end Config

end DtoScaffold
