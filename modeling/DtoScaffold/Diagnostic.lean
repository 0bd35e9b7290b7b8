import DtoScaffold.Property.Basic
import DtoScaffold.Text.Blank
import DtoScaffold.Text.CellWidth
import DtoScaffold.Text.Line

/-!
# Reports on a source text

A report shows the source line of a malformed token with the token underlined and the fault below
it. A token that reaches over several lines has a bracket in front of them instead. Positions count
characters; the rows below a source line count terminal cells, so that the marks stand under the
characters they belong to.
-/
namespace DtoScaffold

open Text

/-- A stretch of characters of a source and the remark on it. -/
structure Label where
  start : Nat
  stop : Nat
  remark : String
  deriving DecidableEq, Repr

namespace Label

/-- The character of the source that the arrow leaves from. -/
def middle (label : Label) : Nat :=
  (label.start + label.stop) / 2

/-- The last character of the label; an empty label stands at its start. -/
def last (label : Label) : Nat :=
  max label.start (label.stop - 1)

/-- Whether the label lies inside a text of `size` characters. A label may start at the end. -/
def within (label : Label) (size : Nat) : Bool :=
  0 < size && label.last ≤ size

end Label

/-- The cells that a character takes in column `column` of a line. A tab ends at the next multiple
of four columns; any other blank takes one cell. -/
def cellsOf (column : Nat) (c : Char) : Nat :=
  if c = '\t' then (column / 4 + 1) * 4 - column
  else if isBlank c then 1
  else cellWidth c

/-- The cells of a column; beyond the end of the line every column has one. -/
def cellsAt (chars : List Char) (column : Nat) : Nat :=
  match chars[column]? with
  | some c => cellsOf column c
  | none => 1

/-- A character as it is shown: blanks as spaces, the others as they are. -/
def shownChar (column : Nat) (c : Char) : List Char :=
  if isBlank c then List.replicate (cellsOf column c) ' ' else [c]

def shownLine (line : List Char) : List Char :=
  (line.zipIdx.map fun (c, column) => shownChar column c).flatten

/-- A source line behind its number, without the blanks at its end. The margin of a report takes
`width` cells, and `bracket` stands between the number and the line. -/
def numberedRow (width : Nat) (bracket : String) (source : SourceLine) : String :=
  let number := toString source.number
  let blanks := String.ofList (List.replicate (width - 1 - number.length) ' ')
  s!"{blanks}{number} │ {bracket}{String.ofList (shownLine (trimEnd source.chars))}"

/-- The cells of a column: `first` in its first cell and `others` in the rest. -/
def markCells (line : List Char) (column : Nat) (first others : Char) : List Char :=
  match cellsAt line column with
  | 0 => []
  | cells + 1 => first :: List.replicate cells others

/-- The columns that the rows below a source line cover: two more than the label reaches. -/
def markedColumns (source : SourceLine) (label : Label) : List Nat :=
  List.range (label.stop - source.start + 2)

/-- The row that underlines the label. An empty label is a single mark. -/
def underlineRow (line : List Char) (source : SourceLine) (label : Label) : List Char :=
  (markedColumns source label).flatMap fun column =>
    let position := source.start + column
    if position = label.middle then
      if label.start = label.stop then markCells line column '│' ' '
      else markCells line column '┬' '─'
    else if label.start ≤ position && position < label.stop then markCells line column '─' '─'
    else markCells line column ' ' ' '

/-- The row that leads from the label to its remark. -/
def arrowRow (line : List Char) (source : SourceLine) (label : Label) : List Char :=
  (markedColumns source label).flatMap fun column =>
    let position := source.start + column
    if position < label.middle then markCells line column ' ' ' '
    else if position = label.middle then markCells line column '╰' '─'
    else markCells line column '─' '─'

def propertyAdvice : String :=
  "properties are entered as type:name, e.g. \"string:title integer:userId\""

/-- The rows of a label on one line: the line, the underline and the arrow. A label that reaches
beyond the end of the source is not shown. -/
def lineRows (width : Nat) (source : SourceLine) (label : Label) : List String :=
  let margin := String.ofList (List.replicate width ' ')
  if source.stop < label.stop then [s!"{margin}│ "]
  else
    let line := trimEnd source.chars
    [numberedRow width "" source,
      s!"{margin}│ {String.ofList (underlineRow line source label)}",
      s!"{margin}│ {String.ofList (arrowRow line source label)} {label.remark}"]

/-- A mark in each cell of a line and of its ending, and two more. -/
def cellMarks (source : SourceLine) (mark : Char) : String :=
  String.ofList ((List.range (source.chars.length + 2)).flatMap fun column =>
    markCells (trimEnd source.chars) column mark mark)

/-- The rows of a label on several lines: a bracket leads from the first line to the last one and
on to the remark. The lines between them are left out. The bracket stays open when the label
reaches beyond the end of the source. -/
def bracketRows (width : Nat) (first last : SourceLine) (label : Label) : List String :=
  let margin := String.ofList (List.replicate width ' ')
  let closed := label.stop ≤ last.stop
  let start := numberedRow width "╭─▶ " first
  let gap := if closed && last.number = first.number + 1 then [] else [s!"{margin}┆ ┆   "]
  let finish :=
    if closed then
      let blanks := cellMarks last ' '
      let arrow := cellMarks last '─'
      [numberedRow width "├─▶ " last, s!"{margin}│ │   {blanks}",
        s!"{margin}│ ╰───{arrow} {label.remark}"]
    else []
  [start] ++ gap ++ finish

/-- What stands before the advice below a bracket. The bracket's bar runs on through it when the
label starts right where the first line of the source ends. -/
def adviceIndent (first : SourceLine) (label : Label) : String :=
  if first.number = 2 && label.start = first.start then "│   " else "    "

/-- The rows of a report below its title. The label starts on the first of the two lines and ends
on the last. -/
def reportRows (sourceName : String) (first last : SourceLine) (label : Label) : List String :=
  let width := (toString last.number).length + 2
  let margin := String.ofList (List.replicate width ' ')
  let column := label.start - first.start + 1
  let onOneLine := first.number = last.number
  let rows := if onOneLine then lineRows width first label else bracketRows width first last label
  let indent := if onOneLine then "" else adviceIndent first label
  [s!"{margin}╭─[{sourceName}:{first.number}:{column}]", s!"{margin}│"] ++ rows ++
    [s!"{margin}│ {indent}", s!"{margin}│ {indent}Help: {propertyAdvice}",
      String.ofList (List.replicate width '─') ++ "╯"]

/-- The label of a token that stands at a byte position of a source. A position inside a character
or beyond the source is taken as it is. -/
def Label.ofToken (source : List Char) (token : String) (offset : Nat) (remark : String) : Label :=
  let start := (charsBefore? offset source).getD offset
  ⟨start, start + token.length, remark⟩

/-- The report on a malformed token. When the label lies outside the source, the title stands
alone. -/
def tokenReport (sourceName source token : String) (offset : Nat) (remark : String) : String :=
  let label := Label.ofToken source.toList token offset remark
  let title := s!"Error: malformed property \"{token}\""
  let rows :=
    if label.within source.length then
      match lineAt? source.toList label.start, lineAt? source.toList label.last with
      | some first, some last => reportRows sourceName first last label
      | _, _ => []
    else []
  String.join ((title :: rows).map (· ++ "\n"))

/-- An error against the source it came from: a malformed token as a report, any other error as its
plain message. -/
def PropertyError.report (error : PropertyError) (sourceName source : String) : String :=
  match error with
  | .malformed token offset fault => tokenReport sourceName source token offset fault.message
  | .duplicate _ => error.message

end DtoScaffold
