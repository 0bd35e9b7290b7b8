/-!
# Identifiers

Class names, namespace segments and property names are ASCII identifiers.
-/
namespace DtoScaffold.Text

/-- A letter or the low line, the characters that an identifier may start with. -/
def isIdentifierStart (c : Char) : Bool :=
  c.isAlpha || c == '_'

/-- A character that may follow in an identifier: a start character or a digit. -/
def isIdentifierRest (c : Char) : Bool :=
  c.isAlphanum || c == '_'

/-- `[A-Za-z_][A-Za-z0-9_]*` -/
def isIdentifier (name : String) : Bool :=
  match name.toList with
  | [] => false
  | first :: rest => isIdentifierStart first && rest.all isIdentifierRest

end DtoScaffold.Text
