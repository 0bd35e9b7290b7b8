/-!
# Printing blocks

The printer appends to a text and keeps the depth of the open blocks. Lines are indented by four
blanks for each open block, empty lines by none. A member that follows another member or a block is
separated from it by an empty line.

`Item` is what gets printed: a tree of lines, doc comments, member marks and blocks.
-/
namespace DtoScaffold.Php

structure Printer where
  text : String
  depth : Nat
  /-- Whether the next member has to be separated from what precedes it. -/
  separate : Bool
  deriving DecidableEq, Repr

namespace Printer

def empty : Printer :=
  ⟨"", 0, false⟩

def indentation (depth : Nat) : String :=
  String.ofList (List.replicate (4 * depth) ' ')

def add (printer : Printer) (text : String) : Printer :=
  { printer with text := printer.text ++ text }

def addIndented (printer : Printer) (text : String) : Printer :=
  (printer.add (indentation printer.depth)).add text

def line (printer : Printer) (text : String) : Printer :=
  if text.isEmpty then printer.add "\n" else (printer.addIndented text).add "\n"

def indent (printer : Printer) : Printer :=
  { printer with depth := printer.depth + 1 }

/-- One level less; the outermost level stays. -/
def dedent (printer : Printer) : Printer :=
  { printer with depth := printer.depth - 1 }

/-- An opening brace on its own line. -/
def openBlock (printer : Printer) : Printer :=
  { (printer.line "\x7b").indent with separate := false }

/-- The closing brace of the block, which counts as a member of the block around it. -/
def closeBlock (printer : Printer) : Printer :=
  { printer.dedent.line "\x7d" with separate := true }

def beginMember (printer : Printer) : Printer :=
  { (if printer.separate then printer.add "\n" else printer) with separate := true }

def docLine (text : String) : String :=
  if text.isEmpty then " *" else " * " ++ text

def docBlock (printer : Printer) (lines : List String) : Printer :=
  (lines.foldl (fun printer text => printer.line (docLine text)) (printer.line "/**")).line " */"

end Printer

inductive Item
  | line (text : String)
  | doc (lines : List String)
  | member
  | block (items : List Item)

mutual

def Printer.item (printer : Printer) : Item → Printer
  | .line text => printer.line text
  | .doc lines => printer.docBlock lines
  | .member => printer.beginMember
  | .block items => (printer.openBlock.items items).closeBlock

def Printer.items (printer : Printer) : List Item → Printer
  | [] => printer
  | item :: rest => (printer.item item).items rest

end

def print (items : List Item) : String :=
  (Printer.empty.items items).text

end DtoScaffold.Php
