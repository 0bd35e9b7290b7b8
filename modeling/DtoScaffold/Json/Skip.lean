import DtoScaffold.Json.Number

/-!
# JSON that no field asks for

A skipped value has to be JSON, however deep its brackets are nested. The open brackets are kept in
a list, so the depth costs no recursion.
-/
namespace DtoScaffold.Json

/-- Skip a word, a number or a text whose first character was read. -/
def skipScalar (c : Char) (rest : List Char) : Except Fault (List Char) :=
  match wordAfter? c with
  | some expected => word expected rest
  | none =>
    if c == '"' then skipText rest
    else if c == '-' then (number .malformed rest).map Prod.snd
    else if c.isDigit then (number .malformed (c :: rest)).map Prod.snd
    else .error .malformed

/-- What may follow at a place inside a value. -/
inductive Expected
  | value
  /-- Right after an opening bracket. -/
  | first
  | key
  /-- After a value: a comma, or the end of the bracket. -/
  | next
  deriving DecidableEq, Repr

def isClosing (opening c : Char) : Bool :=
  c == if opening == '[' then ']' else '\x7d'

/-- What follows a comma, or an opening bracket that is not closed at once. -/
def entryOf (opening : Char) : Expected :=
  if opening == '[' then .value else .key

/-- Skip the rest of a value inside brackets that are open, the innermost first. Each step reads a
character, or passes from the start of a bracket to its first entry. -/
def skipFrom (steps : Nat) (expected : Expected) (brackets : List Char) (cs : List Char) :
    Except Fault (List Char) :=
  match steps with
  | 0 => .error .truncated
  | steps + 1 =>
    match expected, brackets, skipSpace cs with
    | .next, [], _ => .ok cs
    | _, _, [] => .error .truncated
    | .value, _, c :: rest =>
      if c == '[' || c == '\x7b' then skipFrom steps .first (c :: brackets) rest
      else
        match skipScalar c rest with
        | .ok rest => skipFrom steps .next brackets rest
        | .error fault => .error fault
    | .key, _, c :: rest =>
      if c == '"' then
        match skipText rest with
        | .error fault => .error fault
        | .ok rest =>
          match skipSpace rest with
          | [] => .error .truncated
          | ':' :: rest => skipFrom steps .value brackets rest
          | _ => .error .malformed
      else .error .malformed
    | .first, [], _ => .error .malformed
    | .first, opening :: outer, c :: rest =>
      if isClosing opening c then skipFrom steps .next outer rest
      else skipFrom steps (entryOf opening) brackets (c :: rest)
    | .next, opening :: outer, c :: rest =>
      if isClosing opening c then skipFrom steps .next outer rest
      else if c == ',' then skipFrom steps (entryOf opening) brackets rest
      else .error .malformed

def skipValue (cs : List Char) : Except Fault (List Char) :=
  skipFrom (2 * cs.length + 2) .value [] cs

end DtoScaffold.Json
