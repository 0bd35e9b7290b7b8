/-!
# Guessing a property's type from its name

The naming conventions are tried in order and the first that fits decides, whatever the case of the
letters: `createdAt` is a time, `userId` a number, `isActive` and `hasChildren` are truth values.
-/
namespace DtoScaffold

/-- A convention on one end of a name. -/
inductive NameEnd
  | starting (letters : String)
  | ending (letters : String)
  deriving DecidableEq, Repr

def NameEnd.fits (lower : List Char) : NameEnd → Bool
  | starting letters => letters.toList.isPrefixOf lower
  | ending letters => letters.toList.isSuffixOf lower

/-- The conventions with the types they suggest, the stronger first. -/
def typeConventions : List (NameEnd × String) :=
  [(.ending "at", "datetime"), (.ending "id", "integer"), (.starting "is", "boolean"),
   (.starting "has", "boolean")]

/-- The type that a name suggests, `string` when no convention fits. -/
def inferType (name : String) : String :=
  let lower := name.toList.map Char.toLower
  match typeConventions.find? fun (convention, _) => convention.fits lower with
  | some (_, type) => type
  | none => "string"

end DtoScaffold
