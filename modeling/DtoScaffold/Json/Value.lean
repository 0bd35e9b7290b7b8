/-!
# Writing JSON

The written form of the values in use: texts, lists and objects whose members keep their order.
There is a compact form without blanks and an indented one with a member on each line.
-/
namespace DtoScaffold.Json

inductive Value
  | text (value : String)
  | list (items : List Value)
  | object (members : List (String × Value))

/-- A digit from 0 to 15 in lower-case hexadecimal. -/
def hexDigit (n : Nat) : Char :=
  if n < 10 then Char.ofNat (0x30 + n) else Char.ofNat (0x61 + (n - 10))

/-- The written form of a character in a text. Only quotes, backslashes and control characters
below U+0020 are escaped. -/
def escaped (c : Char) : List Char :=
  if c = '"' then ['\\', '"']
  else if c = '\\' then ['\\', '\\']
  else if c = '\x08' then ['\\', 'b']
  else if c = '\x0c' then ['\\', 'f']
  else if c = '\n' then ['\\', 'n']
  else if c = '\r' then ['\\', 'r']
  else if c = '\t' then ['\\', 't']
  else if c.toNat < 0x20 then
    ['\\', 'u', '0', '0', hexDigit (c.toNat / 16), hexDigit (c.toNat % 16)]
  else [c]

def quoted (text : String) : String :=
  String.ofList ('"' :: text.toList.flatMap escaped ++ ['"'])

mutual

def Value.compact : Value → String
  | .text value => quoted value
  | .list items => "[" ++ ",".intercalate (compactItems items) ++ "]"
  | .object members => "\x7b" ++ ",".intercalate (compactMembers members) ++ "\x7d"

def compactItems : List Value → List String
  | [] => []
  | item :: rest => item.compact :: compactItems rest

def compactMembers : List (String × Value) → List String
  | [] => []
  | (key, value) :: rest => (quoted key ++ ":" ++ value.compact) :: compactMembers rest

end

/-- A bracketed block with each entry on a line of its own, two blanks deeper than the brackets. -/
def indentedBlock (depth : Nat) (opening closing : String) (entries : List String) : String :=
  if entries.isEmpty then opening ++ closing
  else
    let blanks := fun count => String.ofList (List.replicate (2 * count) ' ')
    let lines := entries.map (blanks (depth + 1) ++ ·)
    opening ++ "\n" ++ ",\n".intercalate lines ++ "\n" ++ blanks depth ++ closing

mutual

/-- The indented form of a value that stands at a depth. -/
def Value.indentedAt (depth : Nat) : Value → String
  | .text value => quoted value
  | .list items => indentedBlock depth "[" "]" (indentedItems (depth + 1) items)
  | .object members => indentedBlock depth "\x7b" "\x7d" (indentedMembers (depth + 1) members)

def indentedItems (depth : Nat) : List Value → List String
  | [] => []
  | item :: rest => item.indentedAt depth :: indentedItems depth rest

def indentedMembers (depth : Nat) : List (String × Value) → List String
  | [] => []
  | (key, value) :: rest =>
    (quoted key ++ ": " ++ value.indentedAt depth) :: indentedMembers depth rest

end

/-- The form with a member on each line. -/
def Value.indented (value : Value) : String :=
  value.indentedAt 0

end DtoScaffold.Json
