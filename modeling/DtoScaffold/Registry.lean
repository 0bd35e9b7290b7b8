import DtoScaffold.Container

/-!
# Registries of containers

A registry holds at most one container of each name, in the order of the names. Registering a
container replaces the one of the same name.
-/
namespace DtoScaffold

/-- A name without a container, with the names that have one. -/
structure UnknownContainer where
  name : String
  known : List String
  deriving DecidableEq, Repr

def UnknownContainer.message (error : UnknownContainer) : String :=
  let known := ", ".intercalate error.known
  s!"Bundle \"{error.name}\" does not exist (known bundles: {known})"

abbrev Resolver :=
  String → Except UnknownContainer Container

/-- Containers in ascending order of their names. -/
structure Registry where
  containers : List Container
  deriving DecidableEq, Repr

namespace Registry

def empty : Registry :=
  ⟨[]⟩

def place (container : Container) : List Container → List Container
  | [] => [container]
  | other :: rest =>
    if container.name < other.name then container :: other :: rest
    else if container.name == other.name then container :: rest
    else other :: place container rest

def register (registry : Registry) (container : Container) : Registry :=
  ⟨place container registry.containers⟩

def ofList (containers : List Container) : Registry :=
  containers.foldl register empty

def names (registry : Registry) : List String :=
  registry.containers.map Container.name

def size (registry : Registry) : Nat :=
  registry.containers.length

def isEmpty (registry : Registry) : Bool :=
  registry.containers.isEmpty

def resolve (registry : Registry) : Resolver := fun name =>
  match registry.containers.find? (·.name == name) with
  | some container => .ok container
  | none => .error ⟨name, registry.names⟩

private theorem find?_place (container : Container) (name : String) (containers : List Container) :
    (place container containers).find? (·.name == name) =
      if container.name = name then some container else containers.find? (·.name == name) := by
  induction containers with
  | nil => by_cases same : container.name = name <;> simp [place, same]
  | cons other rest ih =>
    by_cases less : container.name < other.name
    · have step : place container (other :: rest) = container :: other :: rest := by
        simp [place, less]
      by_cases same : container.name = name <;> simp [step, same]
    · by_cases taken : container.name = other.name
      · by_cases same : other.name = name <;> simp [place, taken, same]
      · have step : place container (other :: rest) = other :: place container rest := by
          simp [place, less, taken]
        by_cases first : other.name = name
        · have apart : container.name ≠ name := fun same => taken (same.trans first.symm)
          simp [step, first, apart]
        · simp [step, first, ih]

/-- A registered container is found under its name; other names keep what they had. -/
theorem find?_register (registry : Registry) (container : Container) (name : String) :
    (registry.register container).containers.find? (·.name == name) =
      if container.name = name then some container
      else registry.containers.find? (·.name == name) :=
  find?_place container name registry.containers

end Registry

end DtoScaffold
