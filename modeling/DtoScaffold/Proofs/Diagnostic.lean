import DtoScaffold.Diagnostic
import DtoScaffold.Proofs.Property.Grammar
import DtoScaffold.Proofs.Text.Blank
import DtoScaffold.Proofs.Text.Lines

/-!
# Reports point at their tokens

Every character that ends a line is blank, so a token lies on one line of its source. Main
statement: the report on a text that cannot be read is complete, and its label covers the characters
of the token at fault.
-/
namespace DtoScaffold

open Text

/-- The cells that a character takes in a column. A tab reaches to the next multiple of four, and
any other blank takes one cell. -/
def characterCells (column : Nat) (c : Char) : Nat :=
  if c = '\t' then 4 - column % 4 else if isBlank c then 1 else cellWidth c

/-- The cells of a column of a line. Columns behind the line take one cell each. -/
def columnCells (chars : List Char) (column : Nat) : Nat :=
  chars[column]?.elim 1 (characterCells column)

/-- A line as it is drawn: every blank as spaces in all its cells. -/
def drawn (line : List Char) : List Char :=
  (line.mapIdx fun column c =>
    if isBlank c then List.replicate (characterCells column c) ' ' else [c]).flatten

/-- A mark in all cells of `count` columns. -/
def fill (line : List Char) (mark : Char) (first count : Nat) : List Char :=
  (List.range' first count).flatMap fun column => List.replicate (columnCells line column) mark

/-- The cells of a column, the first one with a mark of its own. -/
def lead (line : List Char) (mark : Char) (column : Nat) : List Char :=
  (List.replicate (columnCells line column) '─').set 0 mark

/-- The row below a line whose characters `indent` to `indent + size` are underlined: the mark in
the middle of the line leads to the remark. -/
def underline (line : List Char) (indent size : Nat) : List Char :=
  fill line ' ' 0 indent ++ fill line '─' indent (size / 2) ++
    lead line '┬' (indent + size / 2) ++
    fill line '─' (indent + size / 2 + 1) (size - size / 2 - 1) ++ fill line ' ' (indent + size) 2

/-- The row from the middle of the underlined characters to two columns behind them. -/
def arrow (line : List Char) (indent size : Nat) : List Char :=
  fill line ' ' 0 (indent + size / 2) ++ lead line '╰' (indent + size / 2) ++
    fill line '─' (indent + size / 2 + 1) (size - size / 2 + 1)

/-- A place where a token stands on a line of a source. -/
structure Place (source token : String) where
  above : List (List Char)
  indent : List Char
  rest : List Char
  below : List (List Char)
  divided : sourceLines source.toList = above ++ (indent ++ token.toList ++ rest) :: below

namespace Place

variable {source token : String} (place : Place source token)

/-- What stands before the token in the source. -/
def before : List Char :=
  place.above.flatten ++ place.indent

def line : SourceLine :=
  ⟨place.above.length + 1, place.above.flatten.length, place.indent ++ token.toList ++ place.rest⟩

/-- The column of the token's first character, counted from one. -/
def column : Nat :=
  place.indent.length + 1

/-- The line of the token without the blanks at its end. -/
def shown : List Char :=
  place.indent ++ token.toList ++ trimEnd place.rest

/-- The rows of a report that shows the place and a remark in full. -/
def rows (sourceName remark : String) : List String :=
  let number := toString place.line.number
  let margin := String.ofList (List.replicate (number.length + 2) ' ')
  [s!"Error: malformed property \"{token}\"",
    s!"{margin}╭─[{sourceName}:{number}:{place.column}]",
    s!"{margin}│",
    s!" {number} │ {String.ofList (drawn place.shown)}",
    s!"{margin}│ {String.ofList (underline place.shown place.indent.length token.length)}",
    s!"{margin}│ {String.ofList (arrow place.shown place.indent.length token.length)} {remark}",
    s!"{margin}│ ",
    s!"{margin}│ Help: properties are entered as type:name, e.g. \"string:title integer:userId\"",
    String.ofList (List.replicate (number.length + 2) '─') ++ "╯"]

def completeReport (sourceName remark : String) : String :=
  String.join ((place.rows sourceName remark).map (· ++ "\n"))

end Place

/-! ### Cells -/

theorem cellsOf_eq (column : Nat) (c : Char) : cellsOf column c = characterCells column c := by
  have tab : (column / 4 + 1) * 4 - column = 4 - column % 4 := by omega
  rw [cellsOf, characterCells, tab]

theorem cellsAt_eq (chars : List Char) (column : Nat) :
    cellsAt chars column = columnCells chars column := by
  rw [cellsAt, columnCells]
  cases chars[column]? with
  | none => rfl
  | some c => exact cellsOf_eq column c

theorem shownLine_eq (line : List Char) : shownLine line = drawn line := by
  simp only [shownLine, drawn, shownChar, cellsOf_eq, List.mapIdx_eq_zipIdx_map]

theorem markCells_eq_replicate (line : List Char) (column : Nat) (mark : Char) :
    markCells line column mark mark = List.replicate (columnCells line column) mark := by
  rw [markCells, cellsAt_eq]
  cases columnCells line column <;> rfl

theorem markCells_eq_lead (line : List Char) (column : Nat) (mark : Char) :
    markCells line column mark '─' = lead line mark column := by
  rw [markCells, lead, cellsAt_eq]
  cases columnCells line column <;> rfl

/-- Columns that are marked alike are filled. -/
private theorem flatMap_range'_eq_fill (line : List Char) (mark : Char) (first count : Nat)
    {cells : Nat → List Char} (same : ∀ column, first ≤ column → column < first + count →
      cells column = markCells line column mark mark) :
    (List.range' first count).flatMap cells = fill line mark first count := by
  refine List.flatMap_congr fun column member => ?_
  obtain ⟨lower, upper⟩ := List.mem_range'_1.mp member
  rw [same column lower upper, markCells_eq_replicate]

section Rows

variable {source : SourceLine} {label : Label} {indent size : Nat}

private theorem middle_eq (start : label.start = source.start + indent)
    (stop : label.stop = label.start + size) :
    label.middle = source.start + (indent + size / 2) := by
  rw [Label.middle]
  omega

/-- The marked columns up to the middle of the label and behind it. -/
private theorem markedColumns_eq (start : label.start = source.start + indent)
    (stop : label.stop = label.start + size) :
    markedColumns source label = List.range' 0 (indent + size / 2) ++
      (indent + size / 2) :: List.range' (indent + size / 2 + 1) (size - size / 2 + 1) := by
  have columns : label.stop - source.start + 2 =
      indent + size / 2 + (size - size / 2 + 1 + 1) := by omega
  have divided := List.range'_append_1 (s := 0) (m := indent + size / 2)
    (n := size - size / 2 + 1 + 1)
  rw [markedColumns, List.range_eq_range', columns, ← divided, Nat.zero_add, List.range'_succ]

theorem arrowRow_eq (start : label.start = source.start + indent)
    (stop : label.stop = label.start + size) (line : List Char) :
    arrowRow line source label = arrow line indent size := by
  have middle := middle_eq start stop
  rw [arrowRow, markedColumns_eq start stop, List.flatMap_append, List.flatMap_cons, arrow,
    flatMap_range'_eq_fill line ' ' 0 (indent + size / 2),
    flatMap_range'_eq_fill line '─' (indent + size / 2 + 1) (size - size / 2 + 1)]
  · simp [middle, markCells_eq_lead]
  · intro column lower upper
    rw [if_neg (by omega), if_neg (by omega)]
  · intro column lower upper
    rw [if_pos (by omega)]

theorem underlineRow_eq (start : label.start = source.start + indent)
    (stop : label.stop = label.start + size) (filled : 0 < size) (line : List Char) :
    underlineRow line source label = underline line indent size := by
  have middle := middle_eq start stop
  have before := List.range'_append_1 (s := 0) (m := indent) (n := size / 2)
  have behind := List.range'_append_1 (s := indent + size / 2 + 1) (m := size - size / 2 - 1)
    (n := 2)
  rw [show size - size / 2 - 1 + 2 = size - size / 2 + 1 by omega,
    show indent + size / 2 + 1 + (size - size / 2 - 1) = indent + size by omega] at behind
  -- The marks change at the start of the label and at its end, apart from the one in its middle.
  rw [underlineRow, markedColumns_eq start stop, ← before, ← behind, Nat.zero_add]
  simp only [List.flatMap_append, List.flatMap_cons, underline]
  rw [flatMap_range'_eq_fill line ' ' 0 indent,
    flatMap_range'_eq_fill line '─' indent (size / 2),
    flatMap_range'_eq_fill line '─' (indent + size / 2 + 1) (size - size / 2 - 1),
    flatMap_range'_eq_fill line ' ' (indent + size) 2]
  · rw [if_pos middle.symm, if_neg (by omega), markCells_eq_lead]
    simp
  · intro column lower upper
    rw [if_neg (by omega), if_neg (by simp; omega)]
  · intro column lower upper
    rw [if_neg (by omega), if_pos (by simp; omega)]
  · intro column lower upper
    rw [if_neg (by omega), if_pos (by simp; omega)]
  · intro column lower upper
    rw [if_neg (by omega), if_neg (by simp; omega)]

end Rows

private theorem numberedRow_eq (line : SourceLine) :
    numberedRow ((toString line.number).length + 2) "" line =
      s!" {line.number} │ {String.ofList (drawn (trimEnd line.chars))}" := by
  rw [← shownLine_eq]
  unfold numberedRow
  generalize toString line.number = digits
  have blanks : digits.length + 2 - 1 - digits.length = 1 := by omega
  change String.ofList (List.replicate (digits.length + 2 - 1 - digits.length) ' ') ++ digits ++
    " │ " ++ "" ++ _ = " " ++ digits ++ " │ " ++ _
  rw [blanks, String.append_empty]
  rfl

namespace Place

variable {source token : String} (place : Place source token)

private theorem source_eq :
    source.toList = place.before ++ token.toList ++ (place.rest ++ place.below.flatten) := by
  rw [← flatten_sourceLines source.toList, place.divided, before]
  simp only [List.flatten_append, List.flatten_cons, List.append_assoc]

theorem take_drop_source :
    (source.toList.drop place.before.length).take token.length = token.toList := by
  rw [place.source_eq, List.append_assoc, List.drop_left, ← String.length_toList, List.take_left]

theorem length_le : place.before.length + token.length ≤ source.length := by
  rw [← String.length_toList, ← String.length_toList, place.source_eq, List.length_append,
    List.length_append]
  omega

private theorem length_before : place.before.length = place.line.start + place.indent.length :=
  List.length_append

private theorem length_line :
    place.line.chars.length = place.indent.length + token.length + place.rest.length := by
  rw [line, List.length_append, List.length_append, String.length_toList]

theorem onLine : place.line.start ≤ place.before.length ∧
    place.before.length + token.length ≤ place.line.stop := by
  have start := place.length_before
  have length := place.length_line
  rw [SourceLine.stop]
  omega

/-- All characters of the token are on its line. -/
theorem lineAt?_eq {position : Nat} (started : place.before.length ≤ position)
    (unfinished : position < place.before.length + token.length) :
    lineAt? source.toList position = some place.line := by
  obtain ⟨start, stop⟩ := place.onLine
  exact Text.lineAt?_eq place.divided (start.trans started) (unfinished.trans_le stop)

variable (filled : token.toList ≠ []) (gapless : ∀ c ∈ token.toList, isBlank c = false)
include filled

omit place in
private theorem length_pos : 0 < token.length := by
  rw [← String.length_toList]
  exact List.length_pos_of_ne_nil filled

include gapless

private theorem rows_eq {label : Label} (start : label.start = place.before.length)
    (stop : label.stop = label.start + token.length) (sourceName : String) :
    s!"Error: malformed property \"{token}\"" ::
        reportRows sourceName place.line place.line label =
      place.rows sourceName label.remark := by
  have moved := start.trans place.length_before
  have enclosed : ¬ place.line.stop < label.stop := by
    have onLine := place.onLine
    omega
  have column : label.start - place.line.start + 1 = place.column := by
    rw [Place.column]
    omega
  have shown : trimEnd place.line.chars = place.shown :=
    trimEnd_append_of_gapless filled gapless place.indent place.rest
  have numbered := numberedRow_eq place.line
  rw [shown] at numbered
  have help (margin : String) : margin ++ "│ " ++ "Help: " ++ propertyAdvice = margin ++
      "│ Help: properties are entered as type:name, e.g. \"string:title integer:userId\"" := by
    simp only [String.append_assoc]
    rfl
  simp only [reportRows, lineRows, if_neg enclosed, if_true, column, shown, numbered,
    underlineRow_eq moved stop (length_pos filled), arrowRow_eq moved stop, rows,
    List.cons_append, List.nil_append]
  simp only [toString, String.append_empty, help]

/-- The report on a token whose place is known is complete. -/
theorem tokenReport_eq {offset : Nat}
    (placed : charsBefore? offset source.toList = some place.before.length)
    (sourceName remark : String) :
    tokenReport sourceName source token offset remark =
      place.completeReport sourceName remark := by
  have size := length_pos filled
  have fits := place.length_le
  -- Only the ends of the label matter below, not how they were found.
  unfold tokenReport
  generalize same : Label.ofToken source.toList token offset remark = label
  rw [Label.ofToken, placed, Option.getD_some] at same
  have start : label.start = place.before.length := by rw [← same]
  have stop : label.stop = label.start + token.length := by rw [← same]
  have remarked : label.remark = remark := by rw [← same]
  have last : label.last = label.stop - 1 := by
    rw [Label.last]
    omega
  have within : label.within source.length = true := by
    simp only [Label.within, Bool.and_eq_true, decide_eq_true_eq]
    omega
  have first := place.lineAt?_eq (show _ ≤ label.start by omega) (by omega)
  have final := place.lineAt?_eq (show _ ≤ label.last by omega) (by omega)
  simp only [if_pos within, first, final]
  rw [place.rows_eq filled gapless start stop, remarked]
  rfl

end Place

/-- A token of a text stands on one of its lines. -/
theorem exists_place {raw : String} {token : Run} (member : token ∈ runs isBlank raw) :
    ∃ place : Place raw token.text, place.before = token.before := by
  obtain ⟨filled, gapless, after, whole, _, _⟩ := mem_runs_iff.mp member
  have inside : ∀ c ∈ token.chars, endsLine c = false := by
    intro c inToken
    by_contra ends
    -- A line ending would be a blank in the token.
    have blank := isBlank_of_endsLine (by simpa using ends)
    rw [gapless c inToken] at blank
    cases blank
  obtain ⟨above, indent, rest, below, divided, start⟩ :=
    exists_line_of_inside filled inside token.before after
  rw [← whole, ← String.toList_ofList (l := token.chars)] at divided
  exact ⟨⟨above, indent, rest, below, divided⟩, start.symm⟩

/-- The report on an error shows the token that violates a rule: its label covers the characters of
the token, it reaches over no end of a line, and no part of the report is left out. -/
structure PointsAt (error : PropertyError) (sourceName raw : String) {token : String}
    (place : Place raw token) (fault : TokenFault) : Prop where
  violated : Violates token fault
  malformed : error = .malformed token (String.ofList place.before).utf8ByteSize fault
  label : Label.ofToken raw.toList token (String.ofList place.before).utf8ByteSize fault.message =
    ⟨place.before.length, place.before.length + token.length, fault.message⟩
  covered : (raw.toList.drop place.before.length).take token.length = token.toList
  onLine : place.line.start ≤ place.before.length ∧
    place.before.length + token.length ≤ place.line.stop
  complete : error.report sourceName raw = place.completeReport sourceName fault.message

/-- When a text cannot be read, the report shows the line of the token at fault in full, with the
token underlined. -/
theorem report_points_at_token {raw : String} {error : PropertyError}
    (failed : PropertyList.parse raw = .error error) (sourceName : String) :
    ∃ token, ∃ place : Place raw token, ∃ fault, PointsAt error sourceName raw place fault := by
  obtain ⟨token, member, fault, violated, rfl⟩ :=
    PropertyList.exists_violates_of_foldlM_error failed
  obtain ⟨filled, gapless, after, whole, _, _⟩ := mem_runs_iff.mp member
  obtain ⟨place, start⟩ := exists_place member
  have offset : token.offset = (String.ofList place.before).utf8ByteSize := by
    rw [start, Run.offset]
  -- The offset is the size of whole characters, so the label starts where the token does.
  have placed : charsBefore? (String.ofList place.before).utf8ByteSize raw.toList =
      some place.before.length := by
    rw [start, whole, List.append_assoc, charsBefore?_utf8ByteSize]
  rw [offset]
  refine ⟨token.text, place, fault, violated, rfl, ?_, place.take_drop_source, place.onLine, ?_⟩
  · rw [Label.ofToken, placed, Option.getD_some]
  · exact place.tokenReport_eq (by simpa [Run.text] using filled)
      (by simpa [Run.text] using gapless) placed sourceName fault.message

theorem report_points_at_invalid_name :
    PropertyList.parse "string:title\u2003\r\nübung:größe_ok integer:7x" =
        .error (.malformed "übung:größe_ok" 17 (.invalidName "größe_ok")) ∧
      ∃ token, ∃ place : Place "string:title\u2003\r\nübung:größe_ok integer:7x" token, ∃ fault,
        PointsAt (.malformed "übung:größe_ok" 17 (.invalidName "größe_ok")) "--properties"
          "string:title\u2003\r\nübung:größe_ok integer:7x" place fault := by
  have failed : PropertyList.parse "string:title\u2003\r\nübung:größe_ok integer:7x" =
      .error (.malformed "übung:größe_ok" 17 (.invalidName "größe_ok")) := by decide +kernel
  exact ⟨failed, report_points_at_token failed "--properties"⟩

/-- The report on a text of one line, as it is printed. -/
example :
    (PropertyError.malformed "oops" 12 .missingColon).report "--properties" "string:name oops" =
    "Error: malformed property \"oops\"\n" ++
    "   ╭─[--properties:1:13]\n" ++
    "   │\n" ++
    " 1 │ string:name oops\n" ++
    "   │             ──┬─  \n" ++
    "   │               ╰─── properties must be entered in the format type:name\n" ++
    "   │ \n" ++
    "   │ Help: properties are entered as type:name, e.g. \"string:title integer:userId\"\n" ++
    "───╯\n" := by decide +kernel

end DtoScaffold
