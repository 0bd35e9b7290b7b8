import DtoScaffold.Json.Text

/-!
# Numbers and words in JSON

The grammar of numbers is the same wherever one stands. A number that a field asks for has to fit
into a double as well; a skipped one may have any size.
-/
namespace DtoScaffold.Json

/-- A number in parts: its digits before the point, after it, and its exponent with a sign. -/
structure NumberParts where
  whole : List Char
  fraction : List Char
  negativeExponent : Bool
  exponent : List Char
  deriving DecidableEq, Repr

/-- At least one digit. `cutOff` is the fault of a document that ends where the digit should be. -/
def digits (cutOff : Fault) (cs : List Char) : Except Fault (List Char × List Char) :=
  match cs with
  | [] => .error cutOff
  | c :: _ =>
    if c.isDigit then .ok (cs.takeWhile Char.isDigit, cs.dropWhile Char.isDigit)
    else .error .malformed

/-- The digits before the point; a zero stands alone. -/
def wholeDigits (cutOff : Fault) (cs : List Char) : Except Fault (List Char × List Char) :=
  match cs with
  | '0' :: c :: rest => if c.isDigit then .error .malformed else .ok (['0'], c :: rest)
  | _ => digits cutOff cs

/-- The digits after the point, if there is one. -/
def fractionDigits (cutOff : Fault) (cs : List Char) : Except Fault (List Char × List Char) :=
  match cs with
  | '.' :: rest => digits cutOff rest
  | _ => .ok ([], cs)

/-- The exponent with its sign, if there is one. -/
def exponentDigits (cutOff : Fault) (cs : List Char) :
    Except Fault ((Bool × List Char) × List Char) :=
  match cs with
  | c :: rest =>
    if c == 'e' || c == 'E' then
      let (negative, rest) := match rest with
        | '+' :: rest => (false, rest)
        | '-' :: rest => (true, rest)
        | _ => (false, rest)
      (digits cutOff rest).map fun (exponent, rest) => ((negative, exponent), rest)
    else .ok ((false, []), cs)
  | [] => .ok ((false, []), cs)

/-- The parts of a number after its sign. -/
def number (cutOff : Fault) (cs : List Char) : Except Fault (NumberParts × List Char) := do
  let (whole, rest) ← wholeDigits cutOff cs
  let (fraction, rest) ← fractionDigits cutOff rest
  let ((negativeExponent, exponent), rest) ← exponentDigits cutOff rest
  return (⟨whole, fraction, negativeExponent, exponent⟩, rest)

def decimalValue (digits : List Char) : Nat :=
  digits.foldl (fun value digit => value * 10 + (digit.toNat - 0x30)) 0

def twoTo (exponent : Nat) : Nat :=
  1 <<< exponent

/-- The nearest number with at most 53 significant bits, of two the one with an even last bit. -/
def roundToDouble (n : Nat) : Nat :=
  let shift := n.log2 + 1 - 53
  let low := n % twoTo shift
  let high := n / twoTo shift
  let up := twoTo shift < 2 * low || (twoTo shift == 2 * low && high % 2 == 1)
  (if up then high + 1 else high) * twoTo shift

/-- Digits read into a number of 64 bits, as long as it fits: the number and the digits left. -/
def significant (value : Nat) : List Char → Nat × List Char
  | [] => (value, [])
  | digit :: rest =>
    let next := value * 10 + (digit.toNat - 0x30)
    if next < twoTo 64 then significant next rest else (value, digit :: rest)

/-- Whether the number is too large for a double. The digits that fit into 64 bits are rounded and
scaled by a rounded power of ten. -/
def NumberParts.tooLarge (parts : NumberParts) : Bool :=
  let (whole, wholeLeft) := significant 0 parts.whole
  let (value, fractionLeft) := significant whole parts.fraction
  let scale : Int := wholeLeft.length - (parts.fraction.length - fractionLeft.length : Nat)
  let exponent := decimalValue parts.exponent
  if value = 0 then false
  else if twoTo 31 ≤ exponent then !parts.negativeExponent
  else
    let power := if parts.negativeExponent then scale - exponent else scale + exponent
    if power < 0 then false
    else if 308 < power then true
    else
      let powerOfTen := roundToDouble (Nat.pow 10 power.toNat)
      twoTo 1024 ≤ roundToDouble (roundToDouble value * powerOfTen)

def word (expected : List Char) (cs : List Char) : Except Fault (List Char) :=
  match expected, cs with
  | [], cs => .ok cs
  | _ :: _, [] => .error .truncated
  | e :: expected, c :: cs => if c == e then word expected cs else .error .malformed

/-- The rest of the word that a character starts. -/
def wordAfter? (c : Char) : Option (List Char) :=
  if c = 'n' then some ['u', 'l', 'l']
  else if c = 't' then some ['r', 'u', 'e']
  else if c = 'f' then some ['a', 'l', 's', 'e']
  else none

end DtoScaffold.Json
