import DtoScaffold.Path

/-!
# Containers

A container is the module that generated classes belong to. It gives them a directory and the start
of their namespace.
-/
namespace DtoScaffold

open Text

structure Container where
  name : String
  basePath : Path
  /-- The namespace above all classes of the container. -/
  rootNamespace : String
  deriving DecidableEq, Repr

/-- A namespace with single backslashes between its segments and none around them. -/
def normalizeNamespace (text : String) : String :=
  "\\".intercalate (segments text)

namespace Container

def named (name : String) (basePath : Path) (rootNamespace : String) : Container :=
  ⟨name, basePath, normalizeNamespace rootNamespace⟩

/-- The segments of the root namespace, which only backslashes separate. -/
def namespaceSegments (container : Container) : List String :=
  (runs (· == '\\') container.rootNamespace).map Run.text

end Container

end DtoScaffold
