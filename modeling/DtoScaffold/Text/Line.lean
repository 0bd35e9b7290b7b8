/-!
# Lines of a source text

Eight sequences end a line: LF, CR, CR LF, VT, FF, U+0085, U+2028 and U+2029. A line keeps its
ending, so the lines of a text join to the text, and a text that ends with a line ending has no
empty line after it.
-/
namespace DtoScaffold.Text

/-- The characters that end a line on their own. -/
def endsLine (c : Char) : Bool :=
  let n := c.toNat
  (0x0A ≤ n && n ≤ 0x0D) || n == 0x85 || n == 0x2028 || n == 0x2029

def sourceLines : List Char → List (List Char)
  | [] => []
  | '\r' :: '\n' :: rest => ['\r', '\n'] :: sourceLines rest
  | c :: rest =>
    if endsLine c then [c] :: sourceLines rest
    else
      match sourceLines rest with
      | [] => [[c]]
      | line :: lines => (c :: line) :: lines

/-- No character of a text is lost or moved when it is divided into lines. -/
theorem flatten_sourceLines (cs : List Char) : (sourceLines cs).flatten = cs := by
  fun_induction sourceLines cs with
  | case1 => rfl
  | case2 rest ih => simp [ih]
  | case3 c rest notBreak ends ih => simp [ih]
  | case4 c rest notBreak inside none ih => simp_all
  | case5 c rest notBreak inside line lines more ih => simp_all

/-- A line with its number, counted from one, and the number of characters before it. -/
structure SourceLine where
  number : Nat
  start : Nat
  chars : List Char
  deriving DecidableEq, Repr

def SourceLine.stop (line : SourceLine) : Nat :=
  line.start + line.chars.length

/-- Number lines that follow `start` characters. -/
def numberLines (number start : Nat) : List (List Char) → List SourceLine
  | [] => []
  | chars :: rest =>
    ⟨number, start, chars⟩ :: numberLines (number + 1) (start + chars.length) rest

/-- The line of a character position: the last one that starts at it or before. -/
def lineAt? (source : List Char) (position : Nat) : Option SourceLine :=
  ((numberLines 1 0 (sourceLines source)).filter (·.start ≤ position)).getLast?

/-- The number of characters in the first `size` bytes, if a character ends there. -/
def charsBefore? (size : Nat) : List Char → Option Nat
  | [] => if size = 0 then some 0 else none
  | c :: rest =>
    if size = 0 then some 0
    else if size < c.utf8Size then none
    else (charsBefore? (size - c.utf8Size) rest).map (· + 1)

end DtoScaffold.Text
