import DtoScaffold.Proofs.Php.Stretches

/-!
# The lines of printed items

What items print is a text of lines, and the lines of a block are the lines of its items moved to
the right between two braces. So the lines do not depend on the depth: a depth only moves them.
Items that fall into members print the members with exactly one empty line between neighbours.
-/
namespace DtoScaffold.Php

/-- A text of lines, each of which ends in a line feed. -/
def unlines (lines : List String) : String :=
  String.join (lines.map (· ++ "\n"))

/-- A line moved to the right by as many blanks. An empty line stays empty. -/
def indentedLine (blanks : Nat) (line : String) : String :=
  if line = "" then "" else String.ofList (List.replicate blanks ' ') ++ line

/-- Lines moved to the right by four blanks. -/
def indented (lines : List String) : List String :=
  lines.map (indentedLine 4)

mutual

/-- The lines of an item, where `separate` says whether a member has to be separated from what
precedes it. -/
def Item.layout (separate : Bool) : Item → List String
  | .line text => [text]
  | .doc lines => ["/**"] ++ lines.map Printer.docLine ++ [" */"]
  | .member => if separate then [""] else []
  | .block items => ["\x7b"] ++ indented (layout false items) ++ ["\x7d"]

def layout (separate : Bool) : List Item → List String
  | [] => []
  | item :: rest => item.layout separate ++ layout (item.separateAfter separate) rest

end

@[simp] theorem unlines_nil : unlines [] = "" :=
  rfl

@[simp] theorem unlines_cons (line : String) (lines : List String) :
    unlines (line :: lines) = line ++ "\n" ++ unlines lines := by
  simp [unlines]

@[simp] theorem unlines_append (first second : List String) :
    unlines (first ++ second) = unlines first ++ unlines second := by
  simp [unlines, String.join_append]

@[simp] theorem indentedLine_empty (blanks : Nat) : indentedLine blanks "" = "" := by
  simp [indentedLine]

theorem indentedLine_zero (line : String) : indentedLine 0 line = line := by
  unfold indentedLine
  split
  next empty => exact empty.symm
  · simp

/-- Moving a line twice moves it by all blanks together. -/
theorem indentedLine_indentedLine (outer inner : Nat) (line : String) :
    indentedLine outer (indentedLine inner line) = indentedLine (outer + inner) line := by
  by_cases empty : line = ""
  · simp [empty]
  · simp [indentedLine, empty, ← List.replicate_append_replicate, String.append_assoc]

/-- A block moves its lines by one level and the depth around it moves them by the rest. -/
theorem map_indented (depth : Nat) (lines : List String) :
    (indented lines).map (indentedLine (4 * depth)) =
      lines.map (indentedLine (4 * (depth + 1))) := by
  simp [indented, indentedLine_indentedLine, Nat.mul_add]

theorem map_indentedLine_outermost (lines : List String) :
    lines.map (indentedLine (4 * 0)) = lines := by
  have unmoved : indentedLine (4 * 0) = id := funext indentedLine_zero
  rw [unmoved, List.map_id]

theorem lineText_eq (depth : Nat) (text : String) :
    Printer.lineText depth text = indentedLine (4 * depth) text ++ "\n" := by
  simp only [Printer.lineText, indentedLine, Printer.indentation, String.isEmpty_iff]
  split
  · rfl
  · rfl

theorem docText_eq_unlines (depth : Nat) (lines : List String) :
    Printer.docText depth lines = unlines
      ((["/**"] ++ lines.map Printer.docLine ++ [" */"]).map (indentedLine (4 * depth))) := by
  simp [Printer.docText, lineText_eq, unlines, Function.comp_def, String.append_assoc]

mutual

theorem Item.textOf_stretches (depth : Nat) (separate : Bool) : (item : Item) →
    textOf (item.stretches depth separate) =
      unlines ((item.layout separate).map (indentedLine (4 * depth)))
  | .line text => by simp [Item.stretches, Item.layout, textOf, Stretch.text, lineText_eq]
  | .doc lines => by
    rw [Item.layout, ← docText_eq_unlines]
    simp [Item.stretches, textOf, Stretch.text]
  | .member => by cases separate <;> simp [Item.stretches, Item.layout, textOf, Stretch.text]
  | .block items => by
    have inner := textOf_stretches_eq_unlines (depth + 1) false items
    simp only [Item.stretches, Item.layout, textOf_append, inner, List.map_append, map_indented]
    simp [textOf, Stretch.text, lineText_eq, String.append_assoc]

/-- What items print at a depth are their lines, moved to the right by four blanks for each open
block. -/
theorem textOf_stretches_eq_unlines (depth : Nat) (separate : Bool) : (items : List Item) →
    textOf (stretches depth separate items) =
      unlines ((layout separate items).map (indentedLine (4 * depth)))
  | [] => rfl
  | item :: rest => by
    have later := textOf_stretches_eq_unlines depth (item.separateAfter separate) rest
    rw [stretches, layout, textOf_append, item.textOf_stretches, later]
    simp

end

theorem print_eq_unlines (items : List Item) : print items = unlines (layout false items) := by
  rw [← textOf_stretches, textOf_stretches_eq_unlines, map_indentedLine_outermost]

/-! ## Members -/

theorem foldl_separateAfter_true (items : List Item) :
    items.foldl Item.separateAfter true = true := by
  induction items with
  | nil => rfl
  | cons item rest ih => cases item <;> exact ih

theorem layout_append (separate : Bool) (first second : List Item) :
    layout separate (first ++ second) =
      layout separate first ++ layout (first.foldl Item.separateAfter separate) second := by
  induction first generalizing separate with
  | nil => rfl
  | cons item rest ih => simp [layout, ih]

/-- Only the empty line before its first member tells whether a member precedes a list of items. -/
theorem layout_true_of_marked {items : List Item} (marked : items.head? = some .member) :
    layout true items = "" :: layout false items := by
  obtain ⟨rest, rfl⟩ := List.head?_eq_some_iff.mp marked
  rfl

/-- Members are printed one after the other, with one empty line between neighbours. -/
theorem layout_members {members : List (List Item)}
    (marked : ∀ items ∈ members, items.head? = some .member) :
    layout false members.flatten = [""].intercalate (members.map (layout false)) := by
  induction members with
  | nil => rfl
  | cons first rest ih =>
    have later := ih fun items member => marked items (List.mem_cons_of_mem _ member)
    have firstMarked := marked first List.mem_cons_self
    -- Whatever follows its mark, a member leaves a separation due.
    have due : first.foldl Item.separateAfter false = true := by
      obtain ⟨items, rfl⟩ := List.head?_eq_some_iff.mp firstMarked
      exact foldl_separateAfter_true items
    rw [List.flatten_cons, layout_append, due]
    cases rest with
    | nil =>
      -- Nothing follows that the separation could be printed before.
      simp [layout]
    | cons second others =>
      have secondMarked : (second :: others).flatten.head? = some .member := by
        simp [marked second (by simp)]
      rw [layout_true_of_marked secondMarked, later]
      simp [List.intercalate_cons_cons]

end DtoScaffold.Php
