import DtoScaffold.Json.Skip

/-!
# Records in JSON

A record is an object with named fields, or the list of their values in order. Unknown keys are
skipped and a repeated field is refused at once. A value of the wrong shape is read before it is
refused, so that a fault inside it comes first.
-/
namespace DtoScaffold.Json

/-- The fault of a value that has another shape than its field. A word, a number or a text is read
first, so its own fault comes before its shape. -/
def refusal (cs : List Char) : Fault :=
  let outcome : Except Fault (List Char) := match cs with
    | [] => .error .truncated
    | c :: rest =>
      match wordAfter? c with
      | some expected => word expected rest
      | none =>
        if c == '"' then (textChars rest).map Prod.snd
        else if c == '-' || c.isDigit then
          match number .truncated (if c == '-' then rest else c :: rest) with
          | .error fault => .error fault
          | .ok (parts, rest) => if parts.tooLarge then .error .malformed else .ok rest
        else if c == '[' || c == '\x7b' then .ok rest
        else .error .malformed
  match outcome with
  | .error fault => fault
  | .ok _ => .wrongShape

def textValue (cs : List Char) : Except Fault (String × List Char) :=
  match skipSpace cs with
  | [] => .error .truncated
  | '"' :: rest => text rest
  | start => .error (refusal start)

def colon (cs : List Char) : Except Fault (List Char) :=
  match skipSpace cs with
  | [] => .error .truncated
  | ':' :: rest => .ok rest
  | _ => .error .malformed

/-- Read the members of an object after its opening brace. `member` reads what follows a key and
adds it to the state. Each step reads a member. -/
def members {σ : Type} (member : String → σ → Reader σ) (steps : Nat) (first : Bool) (state : σ)
    (cs : List Char) : Except Fault (σ × List Char) :=
  match steps with
  | 0 => .error .truncated
  | steps + 1 =>
    match skipSpace cs with
    | [] => .error .truncated
    | '\x7d' :: rest => .ok (state, rest)
    | c :: rest =>
      let start : Except Fault (List Char) :=
        if first then .ok (c :: rest)
        else if c == ',' then .ok (skipSpace rest)
        else .error .malformed
      match start with
      | .error fault => .error fault
      | .ok [] => .error .truncated
      | .ok ('"' :: rest) => do
        let (key, rest) ← text rest
        let (state, rest) ← member key state rest
        members member steps false state rest
      | .ok _ => .error .malformed

/-- Read an object, or refuse what is none. -/
def object {σ : Type} (member : String → σ → Reader σ) (state : σ) (cs : List Char) :
    Except Fault (σ × List Char) :=
  match skipSpace cs with
  | [] => .error .truncated
  | '\x7b' :: rest => members member (rest.length + 1) true state rest
  | start => .error (refusal start)

/-- A field of a record that is read into a draft `ρ`. -/
structure RecordField (ρ : Type) where
  key : String
  isSet : ρ → Bool
  read : ρ → Reader ρ

/-- Read the member of a key: a field once, and any other key's value is skipped. -/
def fieldMember {ρ : Type} (fields : List (RecordField ρ)) (key : String) (draft : ρ)
    (cs : List Char) : Except Fault (ρ × List Char) :=
  match fields.find? (·.key == key) with
  | none => do
    let rest ← skipValue (← colon cs)
    return (draft, rest)
  | some field => do
    if field.isSet draft then throw .wrongShape
    field.read draft (← colon cs)

/-- Read the fields of a record written as a list of their values. It may end early, but hold
nothing after the last field. -/
def elements {ρ : Type} (fields : List (RecordField ρ)) (first : Bool) (draft : ρ)
    (cs : List Char) : Except Fault (ρ × List Char) :=
  match fields, skipSpace cs with
  | _, [] => .error .truncated
  | _, ']' :: rest => .ok (draft, rest)
  | [], _ => .error .malformed
  | field :: fields, c :: rest =>
    let start : Except Fault (List Char) :=
      if first then .ok (c :: rest)
      else if c == ',' then
        match skipSpace rest with
        | [] => .error .truncated
        | ']' :: _ => .error .malformed
        | start => .ok start
      else .error .malformed
    match start with
    | .error fault => .error fault
    | .ok start => do
      let (draft, rest) ← field.read draft start
      elements fields false draft rest

/-- Read a record: an object with its fields, or the list of their values. -/
def record {ρ : Type} (fields : List (RecordField ρ)) (draft : ρ) (cs : List Char) :
    Except Fault (ρ × List Char) :=
  match skipSpace cs with
  | '[' :: rest => elements fields true draft rest
  | start => object (fieldMember fields) draft start

/-- Read a whole document. Nothing but blanks may follow its value. -/
def document {α : Type} (read : Reader α) (source : String) : Except Fault α :=
  match read source.toList with
  | .error fault => .error fault
  | .ok (value, rest) => if (skipSpace rest).isEmpty then .ok value else .error .malformed

end DtoScaffold.Json
