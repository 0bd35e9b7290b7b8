import DtoScaffold.Php.Artifact
import DtoScaffold.Placement

/-!
# Generating a class

A request is planned first: its container is looked up, every target is checked, and only then the
texts are made. Nothing is written for a request that cannot be planned. The artifacts of a plan
are written in order and the first failure ends the writing.
-/
namespace DtoScaffold

structure Request where
  identity : ClassIdentity
  properties : PropertyList
  options : Options
  deriving DecidableEq, Repr

structure PlannedArtifact where
  kind : ArtifactKind
  path : Path
  content : String
  deriving DecidableEq, Repr

structure Plan where
  container : Container
  artifacts : List PlannedArtifact
  deriving DecidableEq, Repr

def ArtifactKind.target (kind : ArtifactKind) (container : Container) (identity : ClassIdentity)
    (rootDirectory : String) : Path :=
  placeOf container identity rootDirectory (kind.fileName identity.className)

/-- The container of a class and the paths of the artifacts that the options ask for. -/
def targets (resolve : Resolver) (identity : ClassIdentity) (options : Options) :
    Except UnknownContainer (Container × List (ArtifactKind × Path)) :=
  (resolve identity.container).map fun container =>
    (container, (ArtifactKind.requested options).map fun kind =>
      (kind, kind.target container identity options.rootDirectory))

def plannedArtifacts (container : Container) (request : Request)
    (paths : List (ArtifactKind × Path)) : List PlannedArtifact :=
  (render request.identity container request.properties request.options).zipWith
    (fun artifact (kind, path) => ⟨kind, path, artifact.content⟩) paths

/-- Plan a request when its container is known and none of its paths is taken. -/
def prepare (resolve : Resolver) (taken : Path → Bool) (request : Request) :
    Except GenerationError Plan :=
  match targets resolve request.identity request.options with
  | .error error => .error (.unknownContainer error)
  | .ok (container, paths) =>
    match paths.forM fun (_, path) => checkFree taken path with
    | .error error => .error error
    | .ok _ => .ok ⟨container, plannedArtifacts container request paths⟩

def writeArtifact {σ : Type} [Storage σ] (storage : σ) (artifact : PlannedArtifact) :
    Except GenerationError Unit × σ :=
  writeFile storage artifact.path artifact.content

def writeArtifacts {σ : Type} [Storage σ] (storage : σ) :
    List PlannedArtifact → Except GenerationError Unit × σ
  | [] => (.ok (), storage)
  | artifact :: rest =>
    match writeArtifact storage artifact with
    | (.ok (), left) => writeArtifacts left rest
    | (.error error, left) => (.error error, left)

def generate {σ : Type} [Storage σ] (resolve : Resolver) (storage : σ) (request : Request) :
    Except GenerationError Plan × σ :=
  match prepare resolve (Storage.taken storage) request with
  | .error error => (.error error, storage)
  | .ok plan =>
    match writeArtifacts storage plan.artifacts with
    | (.ok (), left) => (.ok plan, left)
    | (.error error, left) => (.error error, left)

end DtoScaffold
