import DtoScaffold.Php.Printer

/-!
# Code and doc blocks of a printed text

A printer only appends. What an item appends depends on the depth and on the separation that is due,
not on the text so far, so a printed text falls into stretches: the doc blocks, and the code between
them. The items without their doc blocks print exactly the code.
-/
namespace DtoScaffold.Php

namespace Printer

/-- What a line appends. -/
def lineText (depth : Nat) (text : String) : String :=
  if text.isEmpty then "\n" else indentation depth ++ text ++ "\n"

/-- What a doc block appends. -/
def docText (depth : Nat) (lines : List String) : String :=
  lineText depth "/**" ++ String.join (lines.map fun text => lineText depth (docLine text)) ++
    lineText depth " */"

theorem line_eq (printer : Printer) (text : String) :
    printer.line text = printer.add (lineText printer.depth text) := by
  unfold line lineText addIndented
  split <;> simp [add, String.append_assoc]

theorem docBlock_eq (printer : Printer) (lines : List String) :
    printer.docBlock lines = printer.add (docText printer.depth lines) := by
  have inner (start : Printer) :
      lines.foldl (fun printer text => printer.line (docLine text)) start =
        start.add (String.join (lines.map fun text => lineText start.depth (docLine text))) := by
    induction lines generalizing start with
    | nil => simp [add]
    | cons text rest ih =>
      rw [List.foldl_cons, ih, line_eq]
      simp [add, String.append_assoc, String.join_cons]
  rw [docBlock, inner, line_eq, line_eq]
  simp [add, docText, String.append_assoc]

end Printer

/-- A part of a printed text: a doc block, or code. -/
inductive Stretch
  | code (text : String)
  | docBlock (text : String)

namespace Stretch

def text : Stretch → String
  | code text => text
  | docBlock text => text

def code? : Stretch → Option String
  | code text => some text
  | docBlock _ => none

def docBlock? : Stretch → Option String
  | code _ => none
  | docBlock text => some text

end Stretch

def textOf (stretches : List Stretch) : String :=
  String.join (stretches.map Stretch.text)

def codeOf (stretches : List Stretch) : String :=
  String.join (stretches.filterMap Stretch.code?)

def docBlocksOf (stretches : List Stretch) : List String :=
  stretches.filterMap Stretch.docBlock?

/-- Whether the next member has to be separated from the item. -/
def Item.separateAfter (separate : Bool) : Item → Bool
  | .line _ => separate
  | .doc _ => separate
  | .member => true
  | .block _ => true

mutual

/-- What an item appends at a depth, where `separate` says whether a member has to be separated from
what precedes it. -/
def Item.stretches (depth : Nat) (separate : Bool) : Item → List Stretch
  | .line text => [.code (Printer.lineText depth text)]
  | .doc lines => [.docBlock (Printer.docText depth lines)]
  | .member => [.code (if separate then "\n" else "")]
  | .block items =>
    [.code (Printer.lineText depth "\x7b")] ++ stretches (depth + 1) false items ++
      [.code (Printer.lineText depth "\x7d")]

def stretches (depth : Nat) (separate : Bool) : List Item → List Stretch
  | [] => []
  | item :: rest =>
    item.stretches depth separate ++ stretches depth (item.separateAfter separate) rest

end

mutual

/-- An item without its doc blocks. -/
def Item.undocumented : Item → List Item
  | .line text => [.line text]
  | .doc _ => []
  | .member => [.member]
  | .block items => [.block (undocumented items)]

def undocumented : List Item → List Item
  | [] => []
  | item :: rest => item.undocumented ++ undocumented rest

end

theorem textOf_append (first second : List Stretch) :
    textOf (first ++ second) = textOf first ++ textOf second := by
  simp [textOf, String.join_append]

theorem codeOf_append (first second : List Stretch) :
    codeOf (first ++ second) = codeOf first ++ codeOf second := by
  simp [codeOf, String.join_append]

theorem docBlocksOf_append (first second : List Stretch) :
    docBlocksOf (first ++ second) = docBlocksOf first ++ docBlocksOf second :=
  List.filterMap_append

mutual

/-- What printing an item does: it appends the item's stretches and keeps the depth. -/
theorem Printer.item_eq (printer : Printer) : (item : Item) →
    printer.item item = ⟨printer.text ++ textOf (item.stretches printer.depth printer.separate),
      printer.depth, item.separateAfter printer.separate⟩
  | .line text => by
    rw [Printer.item, line_eq]
    simp [Item.stretches, Item.separateAfter, textOf, Stretch.text, add]
  | .doc lines => by
    rw [Printer.item, docBlock_eq]
    simp [Item.stretches, Item.separateAfter, textOf, Stretch.text, add]
  | .member => by
    -- Whether an empty line is printed depends on what is due.
    cases due : printer.separate <;>
      simp [Printer.item, beginMember, Item.stretches, Item.separateAfter, textOf, Stretch.text,
        add, due]
  | .block items => by
    -- The items of the block leave its depth as it is, so the closing brace stands at the outer one.
    have inner := printer.openBlock.items_eq items
    rw [Printer.item, inner, closeBlock, line_eq]
    simp [openBlock, line_eq, indent, dedent, add, Item.stretches, Item.separateAfter, textOf,
      Stretch.text, String.append_assoc, String.join_cons, String.join_append]

theorem Printer.items_eq (printer : Printer) : (items : List Item) →
    printer.items items = ⟨printer.text ++ textOf (stretches printer.depth printer.separate items),
      printer.depth, items.foldl Item.separateAfter printer.separate⟩
  | [] => by simp [Printer.items, stretches, textOf]
  | item :: rest => by
    rw [Printer.items, printer.item_eq item, Printer.items_eq _ rest]
    simp [stretches, textOf_append, String.append_assoc]

end

theorem textOf_stretches (items : List Item) : textOf (stretches 0 false items) = print items := by
  simp [print, Printer.items_eq, Printer.empty]

theorem stretches_append (depth : Nat) (separate : Bool) (first second : List Item) :
    stretches depth separate (first ++ second) = stretches depth separate first ++
      stretches depth (first.foldl Item.separateAfter separate) second := by
  induction first generalizing separate with
  | nil => rfl
  | cons item rest ih => simp [stretches, ih]

theorem undocumented_eq_flatMap (items : List Item) :
    undocumented items = items.flatMap Item.undocumented := by
  induction items with
  | nil => rfl
  | cons item rest ih => rw [undocumented, List.flatMap_cons, ih]

theorem undocumented_append (first second : List Item) :
    undocumented (first ++ second) = undocumented first ++ undocumented second := by
  simp only [undocumented_eq_flatMap, List.flatMap_append]

theorem undocumented_flatMap {α : Type} (entries : List α) (items : α → List Item) :
    undocumented (entries.flatMap items) =
      entries.flatMap fun entry => undocumented (items entry) := by
  simp only [undocumented_eq_flatMap, List.flatMap_assoc]

/-- Doc blocks do not count for the separation of members. -/
theorem Item.foldl_separateAfter_undocumented (separate : Bool) (item : Item) :
    item.undocumented.foldl Item.separateAfter separate = item.separateAfter separate := by
  cases item <;> rfl

mutual

theorem Item.codeOf_stretches (depth : Nat) (separate : Bool) : (item : Item) →
    codeOf (item.stretches depth separate) = textOf (Php.stretches depth separate item.undocumented)
  | .line text => by rfl
  | .doc lines => by rfl
  | .member => by rfl
  | .block items => by
    have inner := Php.codeOf_stretches (depth + 1) false items
    have alone : Php.stretches depth separate [.block (undocumented items)] =
        (Item.block (undocumented items)).stretches depth separate := List.append_nil _
    rw [Item.undocumented, alone]
    simp only [Item.stretches, codeOf_append, textOf_append, inner]
    rfl

/-- The code of items is what they print without their doc blocks. -/
theorem codeOf_stretches (depth : Nat) (separate : Bool) : (items : List Item) →
    codeOf (stretches depth separate items) = textOf (stretches depth separate (undocumented items))
  | [] => by rfl
  | item :: rest => by
    -- The rest starts with the same separation due, with and without the item's doc block.
    rw [stretches, undocumented, stretches_append, codeOf_append, textOf_append,
      item.codeOf_stretches, item.foldl_separateAfter_undocumented, codeOf_stretches _ _ rest]

end

end DtoScaffold.Php
