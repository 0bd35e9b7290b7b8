/-!
# Painted text

Output for a terminal is painted with ANSI codes: one code before the text, a reset after it. A
reset inside the text would end the paint early, so the code is given again after each.
-/
namespace DtoScaffold.Text

inductive Paint
  | green
  | yellow
  | red
  /-- White on blue. -/
  | banner
  /-- White on red. -/
  | alarm
  deriving DecidableEq, Repr

/-- The characters that end every paint. -/
def resetCode : List Char :=
  ['\x1b', '[', '0', 'm']

namespace Paint

def parameters : Paint → String
  | green => "32"
  | yellow => "33"
  | red => "31"
  | banner => "44;37"
  | alarm => "41;37"

def code (paint : Paint) : List Char :=
  ['\x1b', '['] ++ paint.parameters.toList ++ ['m']

end Paint

/-- The characters with `code` after each reset among them. -/
def repaint (code : List Char) : List Char → List Char
  | '\x1b' :: '[' :: '0' :: 'm' :: rest => resetCode ++ code ++ repaint code rest
  | c :: rest => c :: repaint code rest
  | [] => []

/-- The text in the given paint; without `colored` the text as it is. -/
def painted (colored : Bool) (paint : Paint) (text : String) : String :=
  if colored then
    String.ofList (paint.code ++ repaint paint.code text.toList ++ resetCode)
  else text

/-- The text followed by blanks up to `width` characters. -/
def padded (width : Nat) (text : String) : String :=
  text ++ String.ofList (List.replicate (width - text.length) ' ')

end DtoScaffold.Text
