/-!
# Texts in JSON

A document is read from left to right and the first fault ends the reading. A reader takes the
characters still to be read and gives its value with the rest.

A text that is read has to be made of characters; one that is skipped may hold lone surrogates.
-/
namespace DtoScaffold.Json

inductive Fault
  | malformed
  /-- A value has another shape than its field, or a field is missing or repeated. -/
  | wrongShape
  /-- The document ends too early. -/
  | truncated
  deriving DecidableEq, Repr

/-- From the characters still to be read to a value and the rest. -/
abbrev Reader (α : Type) :=
  List Char → Except Fault (α × List Char)

def isSpace (c : Char) : Bool :=
  c == ' ' || c == '\n' || c == '\t' || c == '\r'

def skipSpace (cs : List Char) : List Char :=
  cs.dropWhile isSpace

def hexValue? (c : Char) : Option Nat :=
  if '0' ≤ c && c ≤ '9' then some (c.toNat - 0x30)
  else if 'a' ≤ c && c ≤ 'f' then some (c.toNat - 0x61 + 10)
  else if 'A' ≤ c && c ≤ 'F' then some (c.toNat - 0x41 + 10)
  else none

/-- The number that four hexadecimal digits denote. Fewer than four bytes are a document that ends
too early, whatever they are. -/
def hexUnit (cs : List Char) : Except Fault Nat :=
  match cs with
  | a :: b :: c :: d :: _ =>
    match hexValue? a, hexValue? b, hexValue? c, hexValue? d with
    | some a, some b, some c, some d => .ok (((a * 16 + b) * 16 + c) * 16 + d)
    | _, _, _, _ => .error .malformed
  | _ => .error (if (String.ofList cs).utf8ByteSize < 4 then .truncated else .malformed)

def simpleEscape? (c : Char) : Option Char :=
  if c = '"' || c = '\\' || c = '/' then some c
  else if c = 'b' then some '\x08'
  else if c = 'f' then some '\x0c'
  else if c = 'n' then some '\n'
  else if c = 'r' then some '\r'
  else if c = 't' then some '\t'
  else none

def isHighSurrogate (unit : Nat) : Bool :=
  0xD800 ≤ unit && unit ≤ 0xDBFF

def isLowSurrogate (unit : Nat) : Bool :=
  0xDC00 ≤ unit && unit ≤ 0xDFFF

/-- The character of a `\u` escape and the number of characters after the `u` that denote it. A
character beyond U+FFFF takes two escapes, a high surrogate and a low one. -/
def unicodeEscape (cs : List Char) : Except Fault (Char × Nat) := do
  let unit ← hexUnit cs
  if isLowSurrogate unit then throw .malformed
  if !isHighSurrogate unit then return (Char.ofNat unit, 4)
  match cs.drop 4 with
  | [] | ['\\'] => throw .truncated
  | '\\' :: 'u' :: rest =>
    let second ← hexUnit rest
    if !isLowSurrogate second then throw .malformed
    return (Char.ofNat ((unit - 0xD800) * 0x400 + (second - 0xDC00) + 0x10000), 10)
  | _ => throw .malformed

/-- The character of an escape and the number of characters after the backslash that denote it. -/
def escape (cs : List Char) : Except Fault (Char × Nat) :=
  match cs with
  | [] => .error .truncated
  | 'u' :: rest => (unicodeEscape rest).map fun (c, count) => (c, count + 1)
  | c :: _ =>
    match simpleEscape? c with
    | some value => .ok (value, 1)
    | none => .error .malformed

/-- The characters of a text after its opening quote. -/
def textChars (cs : List Char) : Except Fault (List Char × List Char) :=
  match cs with
  | [] => .error .truncated
  | '"' :: rest => .ok ([], rest)
  | '\\' :: rest =>
    match escape rest with
    | .error fault => .error fault
    | .ok (c, count) => (textChars (rest.drop count)).map fun (text, after) => (c :: text, after)
  | c :: rest =>
    if c.toNat < 0x20 then .error .malformed
    else (textChars rest).map fun (text, after) => (c :: text, after)
termination_by cs.length
decreasing_by
  · simp only [List.length_drop, List.length_cons]
    omega
  · simp

def text (cs : List Char) : Except Fault (String × List Char) :=
  (textChars cs).map fun (chars, rest) => (String.ofList chars, rest)

/-- Skip a text after its opening quote. -/
def skipText (cs : List Char) : Except Fault (List Char) :=
  match cs with
  | [] => .error .truncated
  | '"' :: rest => .ok rest
  | ['\\'] => .error .truncated
  | '\\' :: 'u' :: rest =>
    match hexUnit rest with
    | .error fault => .error fault
    | .ok _ => skipText (rest.drop 4)
  | '\\' :: c :: rest => if (simpleEscape? c).isSome then skipText rest else .error .malformed
  | c :: rest => if c.toNat < 0x20 then .error .malformed else skipText rest
termination_by cs.length
decreasing_by
  · simp only [List.length_drop, List.length_cons]
    omega
  · simp only [List.length_cons]
    omega
  · simp

end DtoScaffold.Json
