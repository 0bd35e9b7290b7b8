import DtoScaffold.Text.Blank
import DtoScaffold.Text.Cut
import DtoScaffold.Text.Identifier
import DtoScaffold.Text.Run

/-!
# Class references

A reference `Container:Dir/Name` denotes a class: the container it belongs to and its place below
the container's root directory. The place is a list of segments, written with `/` between them;
the last segment is the class name and those before it are directories.
-/
namespace DtoScaffold

open Text

/-- Where a generated class belongs. -/
structure ClassIdentity where
  container : String
  /-- The segments of the class with `/` between them. -/
  relativeName : String
  deriving DecidableEq, Repr

namespace ClassIdentity

/-- The identity of a class whose place is given with slashes of either kind. Nothing is checked. -/
def ofPath (container path : String) : ClassIdentity :=
  ⟨container, "/".intercalate (segments path)⟩

def segments (identity : ClassIdentity) : List String :=
  Text.segments identity.relativeName

/-- The last segment, empty when there is none. -/
def className (identity : ClassIdentity) : String :=
  identity.segments.getLast?.getD ""

/-- The segments before the class name. -/
def directories (identity : ClassIdentity) : List String :=
  identity.segments.dropLast

def shortcut (identity : ClassIdentity) : String :=
  identity.container ++ ":" ++ identity.relativeName

/-- An identity is displayed in the same form. -/
instance : ToString ClassIdentity where
  toString identity := s!"{identity.container}:{identity.relativeName}"

end ClassIdentity

inductive ReferenceFault
  | missingColon
  | missingContainer
  | missingClass
  | invalidSegment (segment : String)
  deriving DecidableEq, Repr

def ReferenceFault.message : ReferenceFault → String
  | missingColon =>
    "the name must contain a : (expecting something like AcmeBlogBundle:Blog/PostDTO)"
  | missingContainer => "missing container name"
  | missingClass => "missing class name"
  | invalidSegment segment => s!"\"{segment}\" is not a valid class or namespace name"

/-- A text, without the blanks around it, that does not denote a class. -/
structure ReferenceError where
  reference : String
  fault : ReferenceFault
  deriving DecidableEq, Repr

def ReferenceError.message (error : ReferenceError) : String :=
  s!"Invalid DTO reference \"{error.reference}\": {error.fault.message}"

/-- The class that a trimmed reference denotes. The first colon ends the container's name, which
can be any text; each segment after it has to be an identifier. -/
def ClassIdentity.ofReference (reference : String) : Except ReferenceFault ClassIdentity :=
  match cutAt? ':' reference with
  | none => .error .missingColon
  | some (container, path) =>
    if container.isEmpty then .error .missingContainer
    else if (Text.segments path).isEmpty then .error .missingClass
    else
      match (Text.segments path).find? (!isIdentifier ·) with
      | some segment => .error (.invalidSegment segment)
      | none => .ok (ofPath container path)

/-- Read a reference; the blanks around it do not count. -/
def ClassIdentity.parse (raw : String) : Except ReferenceError ClassIdentity :=
  (ofReference (trim raw)).mapError (⟨trim raw, ·⟩)

end DtoScaffold
