import DtoScaffold.Answer
import DtoScaffold.Dialog
import DtoScaffold.Generator
import DtoScaffold.Property.Inference

/-!
# The wizard

The wizard asks for the root directory, the class, its properties and the assembler, in this order.
Each line of input answers one question; an answer that is not accepted leaves the wizard at the
same question. Containers are looked up with `resolve`, and `taken` tells which paths are in use.
-/
namespace DtoScaffold

open Text

/-- The question that the wizard is at. -/
inductive Phase
  | root
  | reference
  /-- The name of the next property or, once a name was given, its type. -/
  | properties (pending : Option String)
  | assembler
  | done
  deriving DecidableEq, Repr

structure Defaults where
  root : String
  reference : Option String
  properties : PropertyList
  withAssembler : Bool
  deriving DecidableEq, Repr

structure Wizard where
  phase : Phase
  root : String
  defaultReference : Option String
  identity : Option ClassIdentity
  properties : PropertyList
  withAssembler : Bool
  deriving DecidableEq, Repr

structure Outcome where
  root : String
  identity : ClassIdentity
  properties : PropertyList
  withAssembler : Bool
  deriving DecidableEq, Repr

inductive InputRejection
  | invalid (rejection : Rejection)
  | reference (error : ReferenceError)
  | property (error : PropertyError)
  | unknownContainer (error : UnknownContainer)
  | alreadyExists (shortcut : String)
  deriving DecidableEq, Repr

def existsMessage (shortcut : String) : String :=
  s!"DTO \"{shortcut}\" already exists."

def InputRejection.message : InputRejection → String
  | invalid rejection => rejection.message
  | reference error => error.message
  | property error => error.message
  | unknownContainer error => error.message
  | alreadyExists shortcut => existsMessage shortcut

namespace Wizard

def start (defaults : Defaults) : Wizard :=
  ⟨.root, defaults.root, defaults.reference, none, defaults.properties, defaults.withAssembler⟩

def prompt (colored : Bool) (wizard : Wizard) : String :=
  match wizard.phase with
  | .root => questionText colored "Enter the root directory" (some wizard.root) ":"
  | .reference => questionText colored "Enter the DTO name" wizard.defaultReference ":"
  | .properties none =>
    questionText colored "New property name (press <return> to stop adding properties)" none ":"
  | .properties (some name) =>
    questionText colored "Property type" (some (inferType name)) ":"
  | .assembler =>
    questionText colored "Do you want to generate a Skeleton Assembler class"
      (some (if wizard.withAssembler then "yes" else "no")) "?"
  | .done => ""

/-- The class that an answer denotes: a reference to a known container, to a class whose file does
not exist. An empty answer stands for the default. -/
def acceptReference (resolve : Resolver) (taken : Path → Bool) (wizard : Wizard)
    (answer : String) : Except InputRejection ClassIdentity := do
  let chosen := if answer.isEmpty then wizard.defaultReference.getD answer else answer
  let reference ← (acceptDtoName chosen).mapError .invalid
  let identity ← (ClassIdentity.parse reference).mapError .reference
  let container ← (resolve identity.container).mapError .unknownContainer
  if taken (ArtifactKind.main.target container identity wizard.root) then
    throw (.alreadyExists identity.shortcut)
  return identity

def advance (resolve : Resolver) (taken : Path → Bool) (wizard : Wizard) (line : String) :
    Except InputRejection Unit × Wizard :=
  let answer := trim line
  match wizard.phase with
  | .root =>
    let root := if answer.isEmpty then wizard.root else answer
    (.ok (), { wizard with root, phase := .reference })
  | .reference =>
    match wizard.acceptReference resolve taken answer with
    | .ok identity =>
      (.ok (), { wizard with identity := some identity, phase := .properties none })
    | .error rejection => (.error rejection, wizard)
  | .properties none =>
    if answer.isEmpty then (.ok (), { wizard with phase := .assembler })
    else
      match acceptPropertyName wizard.properties answer with
      | .ok name => (.ok (), { wizard with phase := .properties (some name) })
      | .error rejection => (.error (.invalid rejection), wizard)
  | .properties (some name) =>
    match wizard.properties.add name (if answer.isEmpty then inferType name else answer) with
    | .ok properties => (.ok (), { wizard with properties, phase := .properties none })
    | .error error => (.error (.property error), { wizard with phase := .properties none })
  | .assembler =>
    match acceptConfirmation answer wizard.withAssembler with
    | .ok withAssembler => (.ok (), { wizard with withAssembler, phase := .done })
    | .error rejection => (.error (.invalid rejection), wizard)
  | .done => (.ok (), wizard)

/-- The collected answers, once every question is answered. -/
def outcome? (wizard : Wizard) : Option Outcome :=
  match wizard.phase, wizard.identity with
  | .done, some identity =>
    some ⟨wizard.root, identity, wizard.properties, wizard.withAssembler⟩
  | _, _ => none

end Wizard

end DtoScaffold
