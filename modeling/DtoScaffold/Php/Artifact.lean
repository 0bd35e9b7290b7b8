import DtoScaffold.Container
import DtoScaffold.Php.Class
import DtoScaffold.Reference

/-!
# Artifacts

What is generated for a class: its own file, and with the option the file of its assembler. Both
stand in the namespace of the container, the root directory and the directories of the class.
-/
namespace DtoScaffold

open Text

structure Options where
  withAssembler : Bool
  /-- The directory below the container for generated classes. -/
  rootDirectory : String
  /-- The type that the assembler converts from and to. -/
  domainType : String
  deriving DecidableEq, Repr

def defaultRootDirectory : String :=
  "Model"

def defaultDomainType : String :=
  "mixed"

inductive ArtifactKind
  | main
  | assembler
  deriving DecidableEq, Repr

namespace ArtifactKind

/-- The kinds that the options ask for, the class first. -/
def requested (options : Options) : List ArtifactKind :=
  if options.withAssembler then [main, assembler] else [main]

def className (kind : ArtifactKind) (dtoName : String) : String :=
  match kind with
  | main => dtoName
  | assembler => dtoName ++ Php.assemblerSuffix

end ArtifactKind

def fileExtension : String :=
  "php"

def ArtifactKind.fileName (kind : ArtifactKind) (dtoName : String) : String :=
  kind.className dtoName ++ "." ++ fileExtension

/-- A generated text with its file name; the start of the file is not part of the text. -/
structure Artifact where
  kind : ArtifactKind
  fileName : String
  content : String
  deriving DecidableEq, Repr

/-- The namespace of a class below a root directory. -/
def namespaceOf (identity : ClassIdentity) (container : Container) (rootDirectory : String) :
    String :=
  "\\".intercalate (container.namespaceSegments ++ segments rootDirectory ++ identity.directories)

def Artifact.contentOf (identity : ClassIdentity) (container : Container)
    (properties : PropertyList) (options : Options) (kind : ArtifactKind) : String :=
  let namespaceText := namespaceOf identity container options.rootDirectory
  match kind with
  | .main => Php.dtoClass namespaceText identity.className properties
  | .assembler => Php.assemblerClass namespaceText identity.className options.domainType

def render (identity : ClassIdentity) (container : Container) (properties : PropertyList)
    (options : Options) : List Artifact :=
  (ArtifactKind.requested options).map fun kind =>
    ⟨kind, kind.fileName identity.className,
      Artifact.contentOf identity container properties options kind⟩

end DtoScaffold
