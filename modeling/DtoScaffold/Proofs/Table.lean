import DtoScaffold.Dialog
import DtoScaffold.Proofs.Php.Recovery

/-!
# The shape of the property table

Both columns are as wide as the widest of their cells, the header included, and every cell is filled
up to this width. So all rows and borders are divided at the same positions and none is cut short.
-/
namespace DtoScaffold

open Text

theorem length_le_widest {text : String} {texts : List String} (member : text ∈ texts) :
    text.length ≤ widest texts := by
  rw [widest, List.foldl_max]
  exact Nat.le_trans (List.le_max?_getD_of_mem (List.mem_map_of_mem member)) (Nat.le_max_right _ _)

theorem length_padded {width : Nat} {text : String} (fits : text.length ≤ width) :
    (padded width text).toList.length = width := by
  rw [String.length_toList, padded, String.length_append, String.length_ofList,
    List.length_replicate]
  omega

/-- A cell behind its bar: a blank, the text, and blanks. -/
def Cell (text : String) (cs : List Char) : Prop :=
  ∃ blanks, cs = ' ' :: (text.toList ++ List.replicate blanks ' ')

theorem cell_padded (width : Nat) (text : String) :
    Cell text (' ' :: ((padded width text).toList ++ [' '])) := by
  refine ⟨width - text.length + 1, ?_⟩
  rw [padded, String.toList_append, String.toList_ofList, List.append_assoc,
    ← List.replicate_succ']

/-- A line that a mark divides into two stretches. -/
def framed (mark : Char) (first second : List Char) : List Char :=
  mark :: (first ++ mark :: (second ++ [mark]))

/-- The line is as long as `last` tells, and its mark stands at the start, at `middle` and at the
end. -/
structure Divided (middle last : Nat) (cs : List Char) : Prop where
  length : cs.length = last + 1
  marked : ∃ mark, (mark = '|' ∨ mark = '+') ∧ cs[0]? = some mark ∧ cs[middle]? = some mark ∧
    cs[last]? = some mark

section Framed

variable {mark : Char} {first second : List Char} {middle last : Nat}

theorem divided_framed (isMark : mark = '|' ∨ mark = '+') (firstLength : first.length + 1 = middle)
    (secondLength : middle + second.length + 1 = last) :
    Divided middle last (framed mark first second) := by
  subst firstLength secondLength
  refine ⟨by simp [framed]; omega, mark, isMark, rfl, ?_, ?_⟩
  · simp [framed]
  · have behind : first.length + 1 + second.length + 1 =
        first.length + (second.length + 1) + 1 := by omega
    simp [framed, behind]

theorem extract_framed_first (firstLength : first.length + 1 = middle) :
    (framed mark first second).extract 1 middle = first := by
  subst firstLength
  simp [framed, List.extract_eq_take_drop]

theorem extract_framed_second (firstLength : first.length + 1 = middle)
    (secondLength : middle + second.length + 1 = last) :
    (framed mark first second).extract (middle + 1) last = second := by
  subst firstLength secondLength
  have between : first.length + 1 + second.length + 1 - (first.length + 1 + 1) = second.length := by
    omega
  simp [framed, List.extract_eq_take_drop, between]

end Framed

namespace Table

variable {list : PropertyList} {property : Property}

/-! ### Rows and borders -/

/-- The position of the bar between the columns. -/
def middle (table : Table) : Nat :=
  table.nameWidth + 3

/-- The position of the last bar. -/
def last (table : Table) : Nat :=
  table.nameWidth + table.typeWidth + 6

theorem toList_border (table : Table) :
    table.border.toList = framed '+' (List.replicate (table.nameWidth + 2) '-')
      (List.replicate (table.typeWidth + 2) '-') := by
  have dashes (count : Nat) :
      List.replicate (count + 2) '-' = '-' :: (List.replicate count '-' ++ ['-']) := by
    rw [← List.replicate_succ', ← List.replicate_succ]
  rw [dashes, dashes]
  simp [border, framed]

theorem toList_row (table : Table) (name type : String) :
    (table.row name type).toList =
      framed '|' (' ' :: ((padded table.nameWidth name).toList ++ [' ']))
        (' ' :: ((padded table.typeWidth type).toList ++ [' '])) := by
  simp [row, framed]

theorem divided_border (table : Table) : Divided table.middle table.last table.border.toList := by
  rw [toList_border]
  apply divided_framed (.inr rfl)
  · simp [middle]
  · simp only [middle, last, List.length_replicate]
    omega

section Row

variable {table : Table} {name type : String}

private theorem length_nameCell (nameFits : name.length ≤ table.nameWidth) :
    (' ' :: ((padded table.nameWidth name).toList ++ [' '])).length + 1 = table.middle := by
  simp [middle, length_padded nameFits]

private theorem length_typeCell (typeFits : type.length ≤ table.typeWidth) :
    table.middle + (' ' :: ((padded table.typeWidth type).toList ++ [' '])).length + 1 =
      table.last := by
  simp only [middle, last, List.length_cons, List.length_append, length_padded typeFits,
    List.length_nil]
  omega

theorem nameCell_row (nameFits : name.length ≤ table.nameWidth) :
    Cell name ((table.row name type).toList.extract 1 table.middle) := by
  rw [toList_row, extract_framed_first (length_nameCell nameFits)]
  exact cell_padded table.nameWidth name

theorem typeCell_row (nameFits : name.length ≤ table.nameWidth)
    (typeFits : type.length ≤ table.typeWidth) :
    Cell type ((table.row name type).toList.extract (table.middle + 1) table.last) := by
  rw [toList_row, extract_framed_second (length_nameCell nameFits) (length_typeCell typeFits)]
  exact cell_padded table.typeWidth type

theorem divided_row (nameFits : name.length ≤ table.nameWidth)
    (typeFits : type.length ≤ table.typeWidth) :
    Divided table.middle table.last (table.row name type).toList := by
  rw [toList_row]
  exact divided_framed (.inl rfl) (length_nameCell nameFits) (length_typeCell typeFits)

end Row

/-! ### The table that fits a list -/

theorem nameHeader_fits (list : PropertyList) :
    nameHeader.length ≤ (fitting list).nameWidth :=
  length_le_widest List.mem_cons_self

theorem typeHeader_fits (list : PropertyList) :
    typeHeader.length ≤ (fitting list).typeWidth :=
  length_le_widest List.mem_cons_self

theorem name_fits (member : property ∈ list.entries) :
    property.name.length ≤ (fitting list).nameWidth :=
  length_le_widest (List.mem_cons_of_mem _ (List.mem_map_of_mem member))

theorem type_fits (member : property ∈ list.entries) :
    property.type.length ≤ (fitting list).typeWidth :=
  length_le_widest (List.mem_cons_of_mem _ (List.mem_map_of_mem member))

theorem mem_rows_iff {table : Table} {line : String} :
    line ∈ table.rows list ↔ line = table.border ∨ line = table.row nameHeader typeHeader ∨
      ∃ property ∈ list.entries, line = table.row property.name property.type := by
  simp only [rows, List.mem_append, List.mem_cons, List.not_mem_nil, List.mem_map, eq_comm]
  grind

theorem divided_rows {line : String} (member : line ∈ (fitting list).rows list) :
    Divided (fitting list).middle (fitting list).last line.toList := by
  rcases mem_rows_iff.mp member with rfl | rfl | ⟨property, inside, rfl⟩
  · exact divided_border _
  · exact divided_row (nameHeader_fits list) (typeHeader_fits list)
  · exact divided_row (name_fits inside) (type_fits inside)

theorem length_rows (table : Table) (list : PropertyList) :
    (table.rows list).length = list.size + 4 := by
  simp [rows, PropertyList.size]

theorem getElem?_rows (table : Table) {index : Nat} (found : list.entries[index]? = some property) :
    (table.rows list)[index + 3]? = some (table.row property.name property.type) := by
  obtain ⟨inside, rfl⟩ := List.getElem?_eq_some_iff.mp found
  simp [rows, List.getElem?_append, inside]

end Table

namespace PropertyList

/-- No type holds a line feed. -/
def Unbroken (list : PropertyList) : Prop :=
  ∀ property ∈ list.entries, '\n' ∉ property.type.toList

/-- A table of a list, line by line: the borders and rows are equally long and divided at the same
positions, and behind the three lines of the header is a row for each property, with the whole name
in the first column and the whole type in the second one. -/
structure Tabulated (list : PropertyList) (middle last : Nat) (lines : List (List Char)) : Prop where
  count : lines.length = list.size + 4
  apart : 0 < middle ∧ middle < last
  divided : ∀ line ∈ lines, Divided middle last line
  cells : ∀ index property, list.entries[index]? = some property →
    ∃ line, lines[index + 3]? = some line ∧ Cell property.name (line.extract 1 middle) ∧
      Cell property.type (line.extract (middle + 1) last)

theorem tabulated_rows (list : PropertyList) :
    let table := Table.fitting list
    list.Tabulated table.middle table.last ((table.rows list).map String.toList) := by
  intro table
  refine ⟨?_, ?_, ?_, ?_⟩
  · rw [List.length_map, Table.length_rows]
  · simp only [Table.middle, Table.last]
    omega
  · intro line member
    obtain ⟨row, inside, rfl⟩ := List.mem_map.mp member
    exact Table.divided_rows inside
  · intro index property found
    have member := List.mem_of_getElem? found
    refine ⟨(table.row property.name property.type).toList, ?_, ?_, ?_⟩
    · rw [List.getElem?_map, Table.getElem?_rows table found, Option.map_some]
    · exact Table.nameCell_row (Table.name_fits member)
    · exact Table.typeCell_row (Table.name_fits member) (Table.type_fits member)

theorem feedless_rows {list : PropertyList} (wellNamed : list.WellNamed) (unbroken : list.Unbroken)
    (table : Table) : Php.Feedless (table.rows list) := by
  have row {name type : String} (name_whole : '\n' ∉ name.toList)
      (type_whole : '\n' ∉ type.toList) : '\n' ∉ (table.row name type).toList := by
    simp [Table.row, padded, name_whole, type_whole]
  intro line member
  rcases Table.mem_rows_iff.mp member with rfl | rfl | ⟨property, inside, rfl⟩
  · simp [Table.border]
  · exact row (by decide) (by decide)
  · have valid := wellNamed.valid property.name (List.mem_map_of_mem inside)
    have name : '\n' ∉ property.name.toList :=
      not_mem_of_isIdentifier (isPropertyName_iff.mp valid).1 (by decide)
    exact row name (unbroken property inside)

end PropertyList

end DtoScaffold
