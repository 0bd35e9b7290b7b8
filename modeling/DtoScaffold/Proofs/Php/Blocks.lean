import DtoScaffold.Proofs.Php.Recovery

/-!
# Printing block by block

What items print can be told without a printer: each line stands at the depth of its block, and a
member is separated when its own block holds a member or a block before it. The printer keeps no
such record for each open block. It has one flag for all of them, cleared where a block opens and
set where it closes. That is enough: a block starts with nothing before its items, and behind a
block the flag has to be set whatever it was before, since the block counts as a member.
-/
namespace DtoScaffold.Php

/-- A line and how many blocks are open around it. -/
structure PlacedLine where
  depth : Nat
  text : String
  deriving DecidableEq, Repr

/-- Four blanks for each open block stand before a line, and none before an empty one. -/
def PlacedLine.shown (line : PlacedLine) : String :=
  indentedLine (4 * line.depth) line.text

/-- What a later member of the same block is separated from. -/
def Item.isMember : Item → Bool
  | .line _ => false
  | .doc _ => false
  | .member => true
  | .block _ => true

mutual

/-- The lines of an item, where `before` are the items before it in its block. -/
def Item.placedLines (depth : Nat) (before : List Item) : Item → List PlacedLine
  | .line text => [⟨depth, text⟩]
  | .doc lines =>
    [⟨depth, "/**"⟩] ++
      lines.map (fun text => ⟨depth, if text = "" then " *" else " * " ++ text⟩) ++
      [⟨depth, " */"⟩]
  | .member => if before.any Item.isMember then [⟨depth, ""⟩] else []
  | .block items =>
    [⟨depth, "\x7b"⟩] ++ placedLines (depth + 1) [] items ++ [⟨depth, "\x7d"⟩]

def placedLines (depth : Nat) (before : List Item) : List Item → List PlacedLine
  | [] => []
  | item :: rest => item.placedLines depth before ++ placedLines depth (before ++ [item]) rest

end

/-! ## The flag of the printer -/

theorem Item.separateAfter_any (before : List Item) (item : Item) :
    item.separateAfter (before.any Item.isMember) = (before ++ [item]).any Item.isMember := by
  cases item <;> simp [Item.separateAfter, Item.isMember]

/-- The flag tells of the items of the block so far whether a member is among them. -/
theorem foldl_separateAfter_any (before items : List Item) :
    items.foldl Item.separateAfter (before.any Item.isMember) =
      (before ++ items).any Item.isMember := by
  induction items generalizing before with
  | nil => simp
  | cons item rest ih =>
    -- The item joins those before the rest, as the flag joins it to them.
    rw [List.foldl_cons, item.separateAfter_any, ih, List.append_assoc, List.singleton_append]

mutual

theorem Item.map_layout (depth : Nat) (before : List Item) : (item : Item) →
    (item.layout (before.any Item.isMember)).map (indentedLine (4 * depth)) =
      (item.placedLines depth before).map PlacedLine.shown
  | .line text => rfl
  | .doc lines => by
    simp [Item.layout, Item.placedLines, PlacedLine.shown, Printer.docLine]
  | .member => by
    rw [Item.layout, Item.placedLines]
    split <;> simp [PlacedLine.shown]
  | .block items => by
    -- Nothing stands before the first item of the block, whatever stands before the block.
    have inside := map_layout (depth + 1) [] items
    rw [List.any_nil] at inside
    rw [Item.layout, Item.placedLines, List.map_append, List.map_append, map_indented, inside]
    simp [PlacedLine.shown]

/-- The lines that items print at a depth are their lines in the blocks, each with its blanks. -/
theorem map_layout (depth : Nat) (before : List Item) : (items : List Item) →
    (layout (before.any Item.isMember) items).map (indentedLine (4 * depth)) =
      (placedLines depth before items).map PlacedLine.shown
  | [] => rfl
  | item :: rest => by
    -- The rest is printed with the flag that the item leaves, which tells of the item as well.
    have later := map_layout depth (before ++ [item]) rest
    rw [layout, placedLines, List.map_append, List.map_append, item.map_layout,
      item.separateAfter_any, later]

end

/-- What printing does inside a block, when the flag tells of the items before: it appends the lines
of the items, keeps the depth, and the flag tells of these items too. -/
theorem Printer.items_eq_placedLines {printer : Printer} {before : List Item}
    (told : printer.separate = before.any Item.isMember) (items : List Item) :
    printer.items items =
      ⟨printer.text ++ unlines ((placedLines printer.depth before items).map PlacedLine.shown),
        printer.depth, (before ++ items).any Item.isMember⟩ := by
  rw [Printer.items_eq, textOf_stretches_eq_unlines, told, map_layout, foldl_separateAfter_any]

/-! ## Lines without line feeds -/

mutual

/-- The texts that are printed for an item, at any depth. -/
def Item.texts : Item → List String
  | .line text => [text]
  | .doc lines => lines
  | .member => []
  | .block items => textsIn items

def textsIn : List Item → List String
  | [] => []
  | item :: rest => item.texts ++ textsIn rest

end

theorem feedless_append {first second : List String} :
    Feedless (first ++ second) ↔ Feedless first ∧ Feedless second :=
  List.forall_mem_append

/-- Lines between an opening and a closing line, as in a doc block or between two braces. -/
theorem Feedless.between {lines : List String} (feedless : Feedless lines)
    {opening closing : String} (first : '\n' ∉ opening.toList) (last : '\n' ∉ closing.toList) :
    Feedless ([opening] ++ lines ++ [closing]) := by
  refine feedless_append.mpr ⟨feedless_append.mpr ⟨?_, feedless⟩, ?_⟩
  · exact List.forall_mem_singleton.mpr first
  · exact List.forall_mem_singleton.mpr last

mutual

theorem Item.feedless_layout {separate : Bool} : (item : Item) → Feedless item.texts →
    Feedless (item.layout separate)
  | .line text, feedless => feedless
  | .doc lines, feedless => by
    have inside : Feedless (lines.map Printer.docLine) := by
      refine List.forall_mem_map.mpr fun text member => ?_
      unfold Printer.docLine
      split
      · decide
      · simpa using feedless text member
    exact inside.between (by decide) (by decide)
  | .member, _ => by cases separate <;> simp [Feedless, Item.layout]
  | .block items, feedless => by
    have inside : Feedless (layout false items) := feedless_layout items feedless
    exact inside.indented.between (by decide) (by decide)

theorem feedless_layout {separate : Bool} : (items : List Item) → Feedless (textsIn items) →
    Feedless (layout separate items)
  | [], _ => nofun
  | item :: rest, feedless => by
    obtain ⟨first, later⟩ := feedless_append.mp feedless
    exact feedless_append.mpr ⟨item.feedless_layout first, feedless_layout rest later⟩

end

/-- At the outermost level no line is moved. -/
theorem layout_eq_placedLines (items : List Item) :
    layout false items = (placedLines 0 [] items).map PlacedLine.shown := by
  rw [← map_layout, map_indentedLine_outermost, List.any_nil]

/-- A fresh printer prints any items block by block: its text is that of their lines, each moved to
the right by four blanks for each block around it, and the depth is the outermost one again. Texts
without line feeds stand in lines of their own, so the printed text has no other lines than these.
-/
theorem prints_block_by_block (items : List Item) :
    let printed := Printer.empty.items items
    printed.text = unlines ((placedLines 0 [] items).map PlacedLine.shown) ∧
      printed.depth = 0 ∧
      (Feedless (textsIn items) → printed.text.toList.splitOn '\n' =
        (placedLines 0 [] items).map (fun line => line.shown.toList) ++ [[]]) := by
  intro printed
  -- Before the first item there is nothing, and the flag of a fresh printer is not set.
  have fresh : Printer.empty.separate = ([] : List Item).any Item.isMember := rfl
  have whole : printed = _ := Printer.items_eq_placedLines fresh items
  have text : printed.text = unlines ((placedLines 0 [] items).map PlacedLine.shown) := by
    rw [whole]
    exact String.empty_append
  refine ⟨text, by rw [whole]; rfl, fun feedless => ?_⟩
  have divided : Feedless ((placedLines 0 [] items).map PlacedLine.shown) :=
    layout_eq_placedLines items ▸ feedless_layout items feedless
  rw [text, splitOn_unlines divided, List.map_map]
  rfl

/-- A mark that starts a block is not separated, though a member stands before the block; marks
behind a member or a block of their own block are. -/
theorem prints_block_by_block_nested :
    let items : List Item :=
      [.line "class A", .block [.member, .doc ["", "b"], .line "",
        .block [.member, .line "one", .member], .line "two", .member, .line "three"]]
    Feedless (textsIn items) ∧ (Printer.empty.items items).text.toList.splitOn '\n' =
      ["class A", "\x7b", "    /**", "     *", "     * b", "     */", "", "    \x7b", "        one",
        "", "    \x7d", "    two", "", "    three", "\x7d", ""].map String.toList := by
  intro items
  have feedless : Feedless (textsIn items) := by simp [items, textsIn, Item.texts, Feedless]
  obtain ⟨_, _, lines⟩ := prints_block_by_block items
  exact ⟨feedless, (lines feedless).trans (by decide +kernel)⟩

end DtoScaffold.Php
