import DtoScaffold.Container
import DtoScaffold.Json.Record
import DtoScaffold.Json.Value
import DtoScaffold.Property.Basic
import DtoScaffold.Reference

/-!
# JSON forms of the model

Properties, property lists, class identities and containers as JSON values, and containers read
back from them.
-/
namespace DtoScaffold

open Json

def Property.toJson (property : Property) : Value :=
  .object [("name", .text property.name), ("type", .text property.type)]

/-- A property list as an object from names to types. -/
def PropertyList.toJson (list : PropertyList) : Value :=
  .object (list.entries.map fun property => (property.name, .text property.type))

def ClassIdentity.toJson (identity : ClassIdentity) : Value :=
  .object [("container_name", .text identity.container),
    ("relative_name", .text identity.relativeName)]

namespace Container

def toJson (container : Container) : Value :=
  .object [("name", .text container.name), ("base_path", .text container.basePath.text),
    ("namespace_prefix", .text container.rootNamespace)]

structure Draft where
  name : Option String
  basePath : Option String
  rootNamespace : Option String

def fields : List (RecordField Draft) :=
  [⟨"name", (·.name.isSome), fun draft cs =>
      (textValue cs).map fun (value, rest) => ({ draft with name := some value }, rest)⟩,
    ⟨"base_path", (·.basePath.isSome), fun draft cs =>
      (textValue cs).map fun (value, rest) => ({ draft with basePath := some value }, rest)⟩,
    ⟨"namespace_prefix", (·.rootNamespace.isSome), fun draft cs =>
      (textValue cs).map fun (value, rest) => ({ draft with rootNamespace := some value }, rest)⟩]

/-- The container of a draft, which needs all its fields. -/
def Draft.complete (draft : Draft) : Except Fault Container :=
  match draft.name, draft.basePath, draft.rootNamespace with
  | some name, some basePath, some rootNamespace => .ok ⟨name, ⟨basePath⟩, rootNamespace⟩
  | _, _, _ => .error .wrongShape

def read (cs : List Char) : Except Fault (Container × List Char) := do
  let (draft, rest) ← record fields ⟨none, none, none⟩ cs
  return (← draft.complete, rest)

/-- Read a container's document. Its namespace is taken as it stands. -/
def ofJson (source : String) : Except Fault Container :=
  document read source

end Container

end DtoScaffold
