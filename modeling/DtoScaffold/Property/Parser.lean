import DtoScaffold.Property.Basic
import DtoScaffold.Text.Blank
import DtoScaffold.Text.Cut
import DtoScaffold.Text.Run

/-!
# Property lists as text

A property list is written as tokens `type:name` between blanks. The first colon of a token splits
it, so a type holds no colon. Reading stops at the first token that is not a property; a repeated
name is no fault, its last type wins.
-/
namespace DtoScaffold

open Text

def Property.token (property : Property) : String :=
  property.type ++ ":" ++ property.name

/-- The property that a token denotes. Of two faults the leftmost is given. -/
def Property.ofToken (token : String) : Except TokenFault Property :=
  match cutAt? ':' token with
  | none => .error .missingColon
  | some (type, name) =>
    if type.isEmpty then .error .missingType
    else if !isPropertyName name then .error (.invalidName name)
    else .ok ⟨name, type⟩

namespace PropertyList

def insertToken (list : PropertyList) (token : Run) : Except PropertyError PropertyList :=
  match Property.ofToken token.text with
  | .ok property => .ok (list.insert property)
  | .error fault => .error (.malformed token.text token.offset fault)

/-- Read a text of `type:name` tokens. -/
def parse (raw : String) : Except PropertyError PropertyList :=
  (runs isBlank raw).foldlM insertToken empty

end PropertyList

end DtoScaffold
