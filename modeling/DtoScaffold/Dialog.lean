import DtoScaffold.Property.Basic
import DtoScaffold.Text.Paint

/-!
# Parts of a dialog

Questions, highlighted sections, the table of properties and the closing message, each as the text
that is shown. With `colored` they are painted; widths count characters before painting.
-/
namespace DtoScaffold

open Text

/-- A question with its default in brackets; an empty default is none. -/
def questionText (colored : Bool) (text : String) (default : Option String) (separator : String) :
    String :=
  let asked := painted colored .green text
  match default with
  | none | some "" => s!"{asked}{separator} "
  | some default =>
    let shown := painted colored .yellow default
    s!"{asked} [{shown}]{separator} "

def asLine (text : String) : String :=
  text ++ "\n"

def widest (texts : List String) : Nat :=
  (texts.map String.length).foldl max 0

/-- A highlighted block of lines with an empty line above and below it. -/
def sectionText (colored : Bool) (paint : Paint) (lines : List String) : String :=
  let width := widest lines + 2
  let rows := ([""] ++ lines ++ [""]).map fun line =>
    painted colored paint ("  " ++ padded width line)
  String.join (([""] ++ rows ++ [""]).map asLine)

structure Table where
  nameWidth : Nat
  typeWidth : Nat
  deriving DecidableEq, Repr

namespace Table

def nameHeader : String :=
  "Property Name"

def typeHeader : String :=
  "Property Type"

def fitting (properties : PropertyList) : Table :=
  ⟨widest (nameHeader :: properties.names),
    widest (typeHeader :: properties.entries.map Property.type)⟩

def border (table : Table) : String :=
  let dashes := fun count => String.ofList (List.replicate count '-')
  "+-" ++ dashes table.nameWidth ++ "-+-" ++ dashes table.typeWidth ++ "-+"

def row (table : Table) (name type : String) : String :=
  "| " ++ padded table.nameWidth name ++ " | " ++ padded table.typeWidth type ++ " |"

/-- The rows between the borders and the borders themselves. -/
def rows (table : Table) (properties : PropertyList) : List String :=
  [table.border, table.row nameHeader typeHeader, table.border] ++
    properties.entries.map (fun property => table.row property.name property.type) ++
    [table.border]

end Table

/-- The names and types of a list in two columns. -/
def propertyTable (properties : PropertyList) : String :=
  String.join (((Table.fitting properties).rows properties).map asLine)

def closingText (colored : Bool) (failures : List String) : String :=
  if failures.isEmpty then
    sectionText colored .banner ["You can now start using the generated code!"]
  else
    sectionText colored .alarm
        ["The command was not able to configure everything automatically.",
          "You must do the following changes manually."] ++
      String.join (failures.map asLine)

end DtoScaffold
