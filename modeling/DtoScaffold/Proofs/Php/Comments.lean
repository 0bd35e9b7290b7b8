import DtoScaffold.Php.Artifact
import DtoScaffold.Proofs.Php.Stretches
import DtoScaffold.Proofs.Property.Tokens
import DtoScaffold.Proofs.Reference

/-!
# Types in doc blocks

The types of properties stand in doc blocks only; the code of a class does not depend on them. A doc
block ends where `*/` stands first, and types are written as they are: a type that holds `*/` ends
its doc blocks early. With other types each doc block ends in its closing line.
-/
namespace DtoScaffold

namespace Php

open Text

/-- How often `*/` stands in a text. -/
def closingsIn : List Char → Nat
  | '*' :: '/' :: rest => closingsIn rest + 1
  | _ :: rest => closingsIn rest
  | [] => 0

def closings (text : String) : Nat :=
  closingsIn text.toList

@[simp] theorem closings_empty : closings "" = 0 := by
  rfl

theorem closingsIn_cons {c : Char} (other : c ≠ '*') (rest : List Char) :
    closingsIn (c :: rest) = closingsIn rest := by
  rw [closingsIn]
  rintro _ rfl
  exact absurd rfl other

theorem closingsIn_star_cons {c : Char} (other : c ≠ '/') (rest : List Char) :
    closingsIn ('*' :: c :: rest) = closingsIn (c :: rest) := by
  rw [closingsIn]
  rintro _ _ same
  exact absurd (List.cons.inj same).1 other

/-- A character that is no part of `*/` divides the places where it stands. -/
theorem closingsIn_append_cons {c : Char} (notStar : c ≠ '*') (notSlash : c ≠ '/')
    (before after : List Char) :
    closingsIn (before ++ c :: after) = closingsIn before + closingsIn after := by
  fun_induction closingsIn before with
  | case1 rest ih =>
    rw [List.cons_append, List.cons_append, closingsIn, ih]
    omega
  | case2 first rest plain ih =>
    -- The end of the first part does not make a pair with the dividing character either.
    have stillPlain : ∀ later, first = '*' → rest ++ c :: after = '/' :: later → False := by
      intro later star slash
      cases rest with
      | nil => exact notSlash (List.cons.inj slash).1
      | cons second rest =>
        have second_eq : second = '/' := (List.cons.inj slash).1
        exact plain rest star (by rw [second_eq])
    rw [List.cons_append, closingsIn, ih]
    exact stillPlain
  | case3 => simp [closingsIn_cons notStar]

theorem closingsIn_append_of_not_mem {cs : List Char} (plain : '*' ∉ cs) (rest : List Char) :
    closingsIn (cs ++ rest) = closingsIn rest := by
  induction cs with
  | nil => rfl
  | cons c cs ih =>
    obtain ⟨other, later⟩ := not_or.mp (fun either => plain (List.mem_cons.mpr either))
    rw [List.cons_append, closingsIn_cons (Ne.symm other), ih later]

theorem closings_append_of_not_mem {first : String} (plain : '*' ∉ first.toList)
    (second : String) : closings (first ++ second) = closings second := by
  rw [closings, String.toList_append]
  exact closingsIn_append_of_not_mem plain second.toList

theorem closings_of_isIdentifier {name : String} (valid : isIdentifier name = true) :
    closings name = 0 := by
  have plain : '*' ∉ name.toList := not_mem_of_isIdentifier valid (by decide)
  have alone := closings_append_of_not_mem plain ""
  rwa [String.append_empty] at alone

theorem closings_append_identifier {label name : String} (plain : '*' ∉ label.toList)
    (valid : isIdentifier name = true) : closings (label ++ name) = 0 := by
  rw [closings_append_of_not_mem plain, closings_of_isIdentifier valid]

theorem closings_append_blank (first second : String) :
    closings (first ++ " " ++ second) = closings first + closings second := by
  have divided := closingsIn_append_cons (show ' ' ≠ '*' by decide) (show ' ' ≠ '/' by decide)
    first.toList second.toList
  simpa [closings] using divided

namespace Printer

/-- A line of a text holds the marks that stand in it, whatever follows. -/
theorem closings_lineText_append (depth : Nat) (text rest : String) :
    closings (lineText depth text ++ rest) = closings text + closings rest := by
  have divided := closingsIn_append_cons (show '\n' ≠ '*' by decide) (show '\n' ≠ '/' by decide)
    text.toList rest.toList
  unfold lineText
  split
  next empty =>
    have none : text = "" := by simpa using empty
    subst none
    simpa [closings] using divided
  next =>
    have indented : '*' ∉ (indentation depth).toList := by simp [indentation]
    rw [String.append_assoc, String.append_assoc, closings_append_of_not_mem indented]
    simpa [closings] using divided

theorem closings_docLine (text : String) : closings (docLine text) = closings text := by
  unfold docLine
  split
  next empty =>
    have none : text = "" := by simpa using empty
    subst none
    rfl
  next =>
    simp [closings, closingsIn_cons, closingsIn_star_cons]

/-- Of the marks in a doc block one stands in its closing line, the others in its text. -/
theorem closings_docText (depth : Nat) (lines : List String) :
    closings (docText depth lines) = lines.foldr (fun text count => closings text + count) 1 := by
  have opening : closings "/**" = 0 := by decide
  have closing : closings (lineText depth " */") = 1 := by
    have alone := closings_lineText_append depth " */" ""
    rw [String.append_empty] at alone
    exact alone.trans (by decide)
  rw [docText, String.append_assoc, closings_lineText_append, opening, Nat.zero_add]
  induction lines with
  | nil => simpa using closing
  | cons text later ih =>
    rw [List.map_cons, String.join_cons, String.append_assoc, closings_lineText_append,
      closings_docLine, ih, List.foldr_cons]

/-- A doc block is a comment that opens in its first line, and all marks but that of its closing
line stand between these two. -/
theorem docText_eq (depth : Nat) (lines : List String) :
    ∃ inside, docText depth lines = indentation depth ++ "/**\n" ++ inside ++ " */\n" ∧
      closings (docText depth lines) = closings inside + 1 := by
  have markLine (mark : String) (filled : mark.isEmpty = false) :
      lineText depth mark = indentation depth ++ mark ++ "\n" := by
    simp [lineText, filled]
  have opening : lineText depth "/**" = indentation depth ++ "/**\n" := by
    rw [markLine "/**" (by decide), String.append_assoc]
    rfl
  have closingLine : lineText depth " */" = indentation depth ++ " */\n" := by
    rw [markLine " */" (by decide), String.append_assoc]
    rfl
  have ending (inside : String) : closings (inside ++ " */\n") = closings inside + 1 := by
    have divided := closings_append_blank inside "*/\n"
    rw [String.append_assoc] at divided
    exact divided
  refine ⟨String.join (lines.map fun text => lineText depth (docLine text)) ++ indentation depth,
    ?_, ?_⟩
  · rw [docText, opening, closingLine]
    simp [String.append_assoc]
  · rw [docText, closingLine, ← String.append_assoc, ending, String.append_assoc,
      closings_lineText_append]
    simp [closings, closingsIn]

end Printer

mutual

/-- Every doc block of a printed text comes from a doc item, at any depth. -/
theorem Item.docText_of_mem {depth : Nat} {separate : Bool} {block : String} : (item : Item) →
    block ∈ docBlocksOf (item.stretches depth separate) →
    ∃ depth lines, block = Printer.docText depth lines
  | .line text, member => by cases member
  | .doc lines, member => ⟨depth, lines, List.mem_singleton.mp member⟩
  | .member, member => by cases member
  | .block items, member => by
    have inner : block ∈ docBlocksOf (stretches (depth + 1) false items) := by
      simpa [Item.stretches, docBlocksOf, Stretch.docBlock?] using member
    exact docText_of_mem items inner

theorem docText_of_mem {depth : Nat} {separate : Bool} {block : String} : (items : List Item) →
    block ∈ docBlocksOf (stretches depth separate items) →
    ∃ depth lines, block = Printer.docText depth lines
  | [], member => by cases member
  | item :: rest, member => by
    rw [stretches, docBlocksOf_append] at member
    rcases List.mem_append.mp member with first | later
    · exact item.docText_of_mem first
    · exact docText_of_mem rest later

end

/-- How often `*/` stands in each doc block. -/
def closingsOf (stretches : List Stretch) : List Nat :=
  (docBlocksOf stretches).map closings

theorem closingsOf_append (first second : List Stretch) :
    closingsOf (first ++ second) = closingsOf first ++ closingsOf second := by
  simp [closingsOf, docBlocksOf_append]

theorem closingsOf_flatMap {α : Type} {entries : List α} {items : α → List Item}
    {counts : α → List Nat} {depth : Nat}
    (each : ∀ entry ∈ entries, ∀ separate,
      closingsOf (stretches depth separate (items entry)) = counts entry) (separate : Bool) :
    closingsOf (stretches depth separate (entries.flatMap items)) = entries.flatMap counts := by
  induction entries generalizing separate with
  | nil => rfl
  | cons entry rest ih =>
    rw [List.flatMap_cons, List.flatMap_cons, stretches_append, closingsOf_append,
      each entry List.mem_cons_self]
    rw [ih fun other member => each other (List.mem_cons_of_mem _ member)]

/-! ## The doc blocks of a class -/

section
variable (depth : Nat) (separate : Bool)

theorem closingsOf_fieldItems (property : Property) :
    closingsOf (stretches depth separate (fieldItems property)) = [closings property.type + 1] := by
  have shown : closings ("@var " ++ property.type) = closings property.type :=
    closings_append_of_not_mem (by decide) property.type
  have block : closingsOf (stretches depth separate (fieldItems property)) =
      [closings (Printer.docText depth ["@var " ++ property.type])] := by rfl
  rw [block, Printer.closings_docText]
  simp [shown]

variable {property : Property} (valid : isPropertyName property.name = true)

include valid

theorem closingsOf_getterItems :
    closingsOf (stretches depth separate (getterItems property)) =
      [closings property.type + 1] := by
  have title : closings ("Get " ++ property.name) = 0 :=
    closings_append_identifier (by decide) (isPropertyName_iff.mp valid).1
  have shown : closings ("@return " ++ property.type) = closings property.type :=
    closings_append_of_not_mem (by decide) property.type
  have block : closingsOf (stretches depth separate (getterItems property)) =
      [closings (Printer.docText depth
        ["Get " ++ property.name, "", "@return " ++ property.type])] := by rfl
  rw [block, Printer.closings_docText]
  simp [title, shown]

theorem closingsOf_setterItems {className : String} (validClass : isIdentifier className = true) :
    closingsOf (stretches depth separate (setterItems className property)) =
      [closings property.type + 1] := by
  have name := (isPropertyName_iff.mp valid).1
  have title : closings ("Set " ++ property.name) = 0 :=
    closings_append_identifier (by decide) name
  have parameter : closings ("@param " ++ property.type ++ " $" ++ property.name) =
      closings property.type := by
    -- The blank before the variable keeps the end of the type apart from it.
    have divided : "@param " ++ property.type ++ " $" ++ property.name =
        "@param " ++ (property.type ++ " " ++ ("$" ++ property.name)) := by
      apply String.toList_inj.mp
      simp
    rw [divided, closings_append_of_not_mem (by decide), closings_append_blank,
      closings_append_identifier (by decide) name, Nat.add_zero]
  have result : closings ("@return " ++ className) = 0 :=
    closings_append_identifier (by decide) validClass
  have block : closingsOf (stretches depth separate (setterItems className property)) =
      [closings (Printer.docText depth ["Set " ++ property.name, "",
        "@param " ++ property.type ++ " $" ++ property.name, "@return " ++ className])] := by rfl
  rw [block, Printer.closings_docText]
  simp [title, parameter, result]

end

/-- How often `*/` stands in the doc block of a class and in those of its fields and accessors: once
in each, and as often as in the type that it shows. -/
def closingCounts (list : PropertyList) : List Nat :=
  1 :: (list.entries.map (fun property => closings property.type + 1) ++
    list.entries.flatMap fun property =>
      [closings property.type + 1, closings property.type + 1])

theorem forall_mem_closingCounts_iff (list : PropertyList) :
    (∀ count ∈ closingCounts list, count = 1) ↔
      ∀ property ∈ list.entries, closings property.type = 0 := by
  constructor
  · intro once property member
    have shown : closings property.type + 1 ∈ closingCounts list := by
      apply List.mem_cons_of_mem
      apply List.mem_append_left
      exact List.mem_map.mpr ⟨property, member, rfl⟩
    have single := once _ shown
    omega
  · intro clean count member
    rcases List.mem_cons.mp member with rfl | shown
    · rfl
    · rcases List.mem_append.mp shown with inField | inAccessor
      · obtain ⟨property, inList, rfl⟩ := List.mem_map.mp inField
        rw [clean property inList]
      · obtain ⟨property, inList, same⟩ := List.mem_flatMap.mp inAccessor
        simpa [clean property inList] using same

theorem closingsOf_classItems {list : PropertyList} (wellNamed : list.WellNamed)
    {className : String} (validClass : isIdentifier className = true) (namespaceText : String) :
    closingsOf (stretches 0 false (classItems namespaceText className (dtoBody className list))) =
      closingCounts list := by
  have accessors : ∀ property ∈ list.entries, ∀ separate,
      closingsOf (stretches 1 separate (getterItems property ++ setterItems className property)) =
        [closings property.type + 1, closings property.type + 1] := by
    intro property member separate
    have valid := wellNamed.valid property.name (List.mem_map_of_mem member)
    rw [stretches_append, closingsOf_append, closingsOf_getterItems _ _ valid,
      closingsOf_setterItems _ _ valid validClass]
    rfl
  have own : closings (Printer.docText 0 [className]) = 1 := by
    simp [Printer.closings_docText, closings_of_isIdentifier validClass]
  have header : ∀ separate, closingsOf (stretches 0 separate
      (if namespaceText.isEmpty then [] else [.line s!"namespace {namespaceText};", .line ""])) =
        [] := by
    intro separate
    split <;> rfl
  -- The class line and the braces around the body are code.
  have documented : ∀ separate, closingsOf (stretches 0 separate
      [.doc [className], .line s!"class {className}", .block (dtoBody className list)]) =
        closings (Printer.docText 0 [className]) ::
          closingsOf (stretches 1 false (dtoBody className list)) := by
    intro separate
    simp [stretches, Item.stretches, closingsOf, docBlocksOf, List.filterMap_cons,
      Stretch.docBlock?]
  rw [classItems, stretches_append, closingsOf_append, header, documented, own, dtoBody,
    stretches_append, closingsOf_append, closingsOf_flatMap accessors,
    closingsOf_flatMap fun property _ separate => closingsOf_fieldItems 1 separate property,
    List.nil_append, closingCounts, List.map_eq_flatMap]

/-! ## The code of a class -/

theorem undocumented_dtoBody (className : String) {first second : PropertyList}
    (sameNames : first.names = second.names) :
    undocumented (dtoBody className first) = undocumented (dtoBody className second) := by
  -- The items that are left show names only, so they are those of any other type.
  have ofNames (list : PropertyList) : undocumented (dtoBody className list) =
      list.names.flatMap (fun name => undocumented (fieldItems ⟨name, ""⟩)) ++
        list.names.flatMap fun name =>
          undocumented (getterItems ⟨name, ""⟩ ++ setterItems className ⟨name, ""⟩) := by
    rw [dtoBody, undocumented_append, undocumented_flatMap, undocumented_flatMap,
      PropertyList.names, List.flatMap_map, List.flatMap_map]
    rfl
  rw [ofNames, ofNames, sameNames]

theorem undocumented_classItems (namespaceText className : String) {first second : List Item}
    (sameBodies : undocumented first = undocumented second) :
    undocumented (classItems namespaceText className first) =
      undocumented (classItems namespaceText className second) := by
  have documented (body : List Item) :
      undocumented [.doc [className], .line s!"class {className}", .block body] =
        [.line s!"class {className}", .block (undocumented body)] := by rfl
  rw [classItems, classItems, undocumented_append, undocumented_append, documented, documented,
    sameBodies]

end Php

open Php

/-- The stretches of the class that is generated for an identity. -/
def classStretches (identity : ClassIdentity) (container : Container) (properties : PropertyList)
    (options : Options) : List Stretch :=
  stretches 0 false (classItems (namespaceOf identity container options.rootDirectory)
    identity.className (dtoBody identity.className properties))

theorem head?_render (identity : ClassIdentity) (container : Container) (properties : PropertyList)
    (options : Options) :
    (render identity container properties options).head? =
      some ⟨.main, ArtifactKind.main.fileName identity.className,
        textOf (classStretches identity container properties options)⟩ := by
  have content : Artifact.contentOf identity container properties options .main =
      textOf (classStretches identity container properties options) := by
    rw [classStretches, textOf_stretches]
    rfl
  unfold render ArtifactKind.requested
  split <;> simp [content]

/-- The code of a generated class shows the names of its properties, not their types. -/
theorem codeOf_classStretches (identity : ClassIdentity) (container : Container) (options : Options)
    {first second : PropertyList} (sameNames : first.names = second.names) :
    codeOf (classStretches identity container first options) =
      codeOf (classStretches identity container second options) := by
  rw [classStretches, classStretches, codeOf_stretches, codeOf_stretches,
    undocumented_classItems _ _ (undocumented_dtoBody identity.className sameNames)]

/-- The generated class consists of code, which does not depend on the types of the properties, and
doc blocks. Each doc block opens with `/**` and ends in a closing line of its own; `*/` stands in it
once more for each time that it stands in the type that the block shows. So it stands in every doc
block exactly once when no type holds it, and only then. -/
theorem doc_blocks_close_once_iff {raw reference : String} {list : PropertyList}
    {identity : ClassIdentity} (read : PropertyList.parse raw = .ok list)
    (denoted : ClassIdentity.parse reference = .ok identity) (container : Container)
    (options : Options) :
    let printed := classStretches identity container list options
    (render identity container list options).head? =
        some ⟨.main, ArtifactKind.main.fileName identity.className, textOf printed⟩ ∧
      (∀ block ∈ docBlocksOf printed, ∃ depth inside,
        block = Printer.indentation depth ++ "/**\n" ++ inside ++ " */\n" ∧
          closings block = closings inside + 1) ∧
      (docBlocksOf printed).map closings = closingCounts list ∧
      ((∀ block ∈ docBlocksOf printed, closings block = 1) ↔
        ∀ property ∈ list.entries, closings property.type = 0) ∧
      ∀ other : PropertyList, other.names = list.names →
        codeOf (classStretches identity container other options) = codeOf printed := by
  intro printed
  have counts : closingsOf printed = closingCounts list :=
    closingsOf_classItems (PropertyList.wellNamed_of_parse read)
      (ClassIdentity.isIdentifier_className denoted) _
  refine ⟨head?_render identity container list options, ?_, counts, ?_, ?_⟩
  · intro block member
    obtain ⟨depth, lines, rfl⟩ := docText_of_mem _ member
    exact ⟨depth, Printer.docText_eq depth lines⟩
  · rw [← forall_mem_closingCounts_iff, ← counts, closingsOf, List.forall_mem_map]
  · intro other sameNames
    exact codeOf_classStretches identity container options sameNames

theorem post_doc_blocks_close_once :
    let list : PropertyList := ⟨[⟨"title", "string"⟩, ⟨"tags", "/*"⟩]⟩
    let identity : ClassIdentity := ⟨"App", "Blog/PostDTO"⟩
    let container : Container := ⟨"App", ⟨"/srv/app"⟩, "App"⟩
    let options : Options := ⟨false, "Model", "mixed"⟩
    PropertyList.parse "string:title /*:tags" = .ok list ∧
      ClassIdentity.parse "App:Blog/PostDTO" = .ok identity ∧
      ∀ block ∈ docBlocksOf (classStretches identity container list options),
        closings block = 1 := by
  intro list identity container options
  have read : PropertyList.parse "string:title /*:tags" = .ok list := by decide +kernel
  have denoted : ClassIdentity.parse "App:Blog/PostDTO" = .ok identity := by decide +kernel
  obtain ⟨_, _, _, onceIff, _⟩ := doc_blocks_close_once_iff read denoted container options
  exact ⟨read, denoted, onceIff.mpr (by decide)⟩

/-- The type `*/` ends each doc block of its property before the closing line. -/
theorem closing_mark_as_type :
    let list : PropertyList := ⟨[⟨"title", "*/"⟩]⟩
    let identity : ClassIdentity := ⟨"App", "PostDTO"⟩
    let container : Container := ⟨"App", ⟨"/srv/app"⟩, "App"⟩
    let options : Options := ⟨false, "Model", "mixed"⟩
    PropertyList.parse "*/:title" = .ok list ∧
      ClassIdentity.parse "App:PostDTO" = .ok identity ∧
      (docBlocksOf (classStretches identity container list options)).map closings = [1, 2, 2, 2] ∧
      ¬ ∀ block ∈ docBlocksOf (classStretches identity container list options),
        closings block = 1 := by
  intro list identity container options
  have read : PropertyList.parse "*/:title" = .ok list := by decide +kernel
  have denoted : ClassIdentity.parse "App:PostDTO" = .ok identity := by decide +kernel
  have counts : closingsOf (classStretches identity container list options) = [1, 2, 2, 2] :=
    closingsOf_classItems (PropertyList.wellNamed_of_parse read)
      (ClassIdentity.isIdentifier_className denoted) _
  refine ⟨read, denoted, counts, fun once => ?_⟩
  have single : ∀ count ∈ [1, 2, 2, 2], count = 1 := counts ▸ List.forall_mem_map.mpr once
  cases single 2 (by decide)

end DtoScaffold
