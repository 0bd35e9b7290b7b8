import DtoScaffold.Proofs.Php.Header

/-!
# The lines of a generated class

A generated class is written from a template: its header, and between two braces a field for each
property and then a getter and a setter for each, in the order of the list. The members are moved to
the right by four blanks and the bodies of the accessors by eight. One empty line stands between two
members and none before the first or after the last.
-/
namespace DtoScaffold.Php

def fieldLines (property : Property) : List String :=
  ["/**", " * @var " ++ property.type, " */", "private $" ++ property.name ++ ";"]

/-- A method with its comment, its signature and, between two braces, its body. -/
def methodLines (comment : List String) (signature : String) (body : List String) : List String :=
  ["/**"] ++ comment ++ [" */", signature, "\x7b"] ++ indented body ++ ["\x7d"]

def getterBody (property : Property) : List String :=
  ["return $this->" ++ property.name ++ ";"]

def getterLines (property : Property) : List String :=
  methodLines [" * Get " ++ property.name, " *", " * @return " ++ property.type]
    ("public function " ++ getterName property.name ++ "()") (getterBody property)

/-- A setter assigns its parameter to the field of the same name. -/
def setterBody (property : Property) : List String :=
  ["$this->" ++ property.name ++ " = $" ++ property.name ++ ";", "", "return $this;"]

def setterLines (className : String) (property : Property) : List String :=
  methodLines [" * Set " ++ property.name, " *",
      " * @param " ++ property.type ++ " $" ++ property.name, " * @return " ++ className]
    ("public function " ++ setterName property.name ++ "($" ++ property.name ++ ")")
    (setterBody property)

/-- One entry for the field of each property, then two for the getter and the setter of each. -/
def inMemberOrder {α : Type} (field getter setter : Property → α) (list : PropertyList) : List α :=
  list.entries.map field ++ list.entries.flatMap fun property => [getter property, setter property]

/-- The members of a class, each with its lines. -/
def memberLines (className : String) (list : PropertyList) : List (List String) :=
  inMemberOrder fieldLines getterLines (setterLines className) list

/-- The lines between the braces of a class. -/
def bodyLines (className : String) (list : PropertyList) : List String :=
  indented ([""].intercalate (memberLines className list))

theorem forall_mem_inMemberOrder_iff {α : Type} {field getter setter : Property → α}
    {list : PropertyList} {Holds : α → Prop} :
    (∀ entry ∈ inMemberOrder field getter setter list, Holds entry) ↔
      ∀ property ∈ list.entries,
        Holds (field property) ∧ Holds (getter property) ∧ Holds (setter property) := by
  simp only [inMemberOrder, List.forall_mem_append, List.forall_mem_map, List.forall_mem_flatMap,
    List.forall_mem_cons, List.not_mem_nil, false_imp_iff, implies_true, and_true, imp_and,
    forall_and]

theorem map_inMemberOrder {α β : Type} (field getter setter : Property → α) (list : PropertyList)
    (change : α → β) : (inMemberOrder field getter setter list).map change =
      inMemberOrder (change ∘ field) (change ∘ getter) (change ∘ setter) list := by
  simp [inMemberOrder, List.map_flatMap]

theorem docLine_append {label : String} (filled : label ≠ "") (text : String) :
    Printer.docLine (label ++ text) = " * " ++ label ++ text := by
  simp [Printer.docLine, filled, String.append_assoc]

theorem layout_fieldItems (property : Property) :
    layout false (fieldItems property) = fieldLines property := by
  have shown : Printer.docLine ("@var " ++ property.type) = " * @var " ++ property.type :=
    docLine_append (by simp) property.type
  -- The mark prints nothing, so a doc block of one line and the declaration are left.
  change ["/**", Printer.docLine ("@var " ++ property.type), " */",
    "private $" ++ property.name ++ ";"] = _
  rw [shown, fieldLines]

/-- What items with the mark of a member, a doc block, a line and a block print. -/
theorem layout_method (comment : List String) (signature : String) (body : List String) :
    layout false [.member, .doc comment, .line signature, .block (body.map Item.line)] =
      methodLines (comment.map Printer.docLine) signature body := by
  have inside : layout false (body.map Item.line) = body := by
    induction body with
    | nil => rfl
    | cons text rest ih => simp [layout, Item.layout, Item.separateAfter, ih]
  simp [layout, Item.layout, methodLines, inside]

theorem layout_getterItems (property : Property) :
    layout false (getterItems property) = getterLines property := by
  have items : getterItems property =
      [.member, .doc ["Get " ++ property.name, "", "@return " ++ property.type],
        .line ("public function " ++ getterName property.name ++ "()"),
        .block ((getterBody property).map Item.line)] := rfl
  have title : Printer.docLine ("Get " ++ property.name) = " * Get " ++ property.name :=
    docLine_append (by simp) property.name
  have result : Printer.docLine ("@return " ++ property.type) = " * @return " ++ property.type :=
    docLine_append (by simp) property.type
  have between : Printer.docLine "" = " *" := rfl
  rw [items, layout_method]
  simp only [List.map_cons, List.map_nil, title, between, result, getterLines]

theorem layout_setterItems (className : String) (property : Property) :
    layout false (setterItems className property) = setterLines className property := by
  have items : setterItems className property =
      [.member, .doc ["Set " ++ property.name, "",
          "@param " ++ property.type ++ " $" ++ property.name, "@return " ++ className],
        .line ("public function " ++ setterName property.name ++ "($" ++ property.name ++ ")"),
        .block ((setterBody property).map Item.line)] := rfl
  have title : Printer.docLine ("Set " ++ property.name) = " * Set " ++ property.name :=
    docLine_append (by simp) property.name
  have parameter : Printer.docLine ("@param " ++ property.type ++ " $" ++ property.name) =
      " * @param " ++ property.type ++ " $" ++ property.name := by
    -- The label is the part before the type; what follows it is moved into the text.
    rw [String.append_assoc, String.append_assoc, docLine_append (by simp)]
    simp only [String.append_assoc]
    rfl
  have result : Printer.docLine ("@return " ++ className) = " * @return " ++ className :=
    docLine_append (by simp) className
  have between : Printer.docLine "" = " *" := rfl
  rw [items, layout_method]
  simp only [List.map_cons, List.map_nil, title, between, parameter, result, setterLines]

/-- The items of a class body fall into its members. -/
theorem layout_dtoBody (className : String) (list : PropertyList) :
    layout false (dtoBody className list) = [""].intercalate (memberLines className list) := by
  -- Each member starts with its mark, so its lines do not depend on the members before it.
  let members := inMemberOrder fieldItems getterItems (setterItems className) list
  have whole : dtoBody className list = members.flatten := by
    simp [dtoBody, members, inMemberOrder, List.flatten_eq_flatMap, List.flatMap_map,
      List.flatMap_assoc]
  have marked : ∀ items ∈ members, items.head? = some .member :=
    forall_mem_inMemberOrder_iff.mpr fun property _ => ⟨rfl, rfl, rfl⟩
  have lines : members.map (layout false) = memberLines className list := by
    have fields : layout false ∘ fieldItems = fieldLines := funext layout_fieldItems
    have getters : layout false ∘ getterItems = getterLines := funext layout_getterItems
    have setters : layout false ∘ setterItems className = setterLines className :=
      funext (layout_setterItems className)
    rw [map_inMemberOrder, fields, getters, setters, memberLines]
  rw [whole, layout_members marked, lines]

theorem dtoClass_eq_unlines (namespaceText className : String) (list : PropertyList) :
    dtoClass namespaceText className list =
      unlines (headerLines namespaceText className ++ ["\x7b"] ++ bodyLines className list ++
        ["\x7d"]) := by
  rw [dtoClass, print_eq_unlines, layout_classItems, layout_dtoBody, bodyLines]

/-! ## The shape of the template -/

/-- Neither the first nor the last line is empty. -/
structure Framed (member : List String) : Prop where
  first : ∃ line ∈ member.head?, line ≠ ""
  last : ∃ line ∈ member.getLast?, line ≠ ""

/-- Every line is empty, without blanks, or it starts with so many blanks and holds more. -/
def Indents (blanks : Nat) (lines : List String) : Prop :=
  ∀ line ∈ lines, line = "" ∨
    ∃ text, text ≠ "" ∧ line = String.ofList (List.replicate blanks ' ') ++ text

theorem indents_map (blanks : Nat) (lines : List String) :
    Indents blanks (lines.map (indentedLine blanks)) := by
  intro line member
  obtain ⟨text, _, rfl⟩ := List.mem_map.mp member
  by_cases empty : text = ""
  · exact Or.inl (by simp [empty])
  · exact Or.inr ⟨text, empty, by simp [indentedLine, empty]⟩

theorem indents_indented (lines : List String) : Indents 4 (indented lines) :=
  indents_map 4 lines

theorem indents_indented_indented (lines : List String) :
    Indents 8 (indented (indented lines)) := by
  have twice : indented (indented lines) = lines.map (indentedLine 8) := by
    simp [indented, indentedLine_indentedLine]
  rw [twice]
  exact indents_map 8 lines

theorem framed_fieldLines (property : Property) : Framed (fieldLines property) :=
  ⟨⟨"/**", rfl, by simp⟩, ⟨"private $" ++ property.name ++ ";", rfl, by simp⟩⟩

theorem framed_methodLines (comment : List String) (signature : String) (body : List String) :
    Framed (methodLines comment signature body) := by
  refine ⟨⟨"/**", by simp [methodLines], by simp⟩, ⟨"\x7d", ?_, by simp⟩⟩
  rw [methodLines]
  exact List.getLast?_concat

/-- A generated class is its header, a brace, its members with one empty line between neighbours,
and a brace. No member starts or ends with an empty line. The members are moved to the right by four
blanks and the bodies of their accessors by eight, but for empty lines, which hold no blank. -/
theorem dtoClass_follows_template (namespaceText className : String) (list : PropertyList) :
    let members := memberLines className list
    dtoClass namespaceText className list =
        unlines (headerLines namespaceText className ++ ["\x7b"] ++
          indented ([""].intercalate members) ++ ["\x7d"]) ∧
      (∀ member ∈ members, Framed member ∧ Indents 4 (indented member)) ∧
      ∀ property ∈ list.entries,
        Indents 8 (indented (indented (getterBody property))) ∧
          Indents 8 (indented (indented (setterBody property))) ∧
          (setterBody property).head? =
            some ("$this->" ++ property.name ++ " = $" ++ property.name ++ ";") ∧
          (setterBody property).getLast? = some "return $this;" := by
  intro members
  refine ⟨dtoClass_eq_unlines namespaceText className list, ?_, ?_⟩
  · have framed : ∀ member ∈ members, Framed member :=
      forall_mem_inMemberOrder_iff.mpr fun property _ =>
        ⟨framed_fieldLines property, framed_methodLines _ _ _, framed_methodLines _ _ _⟩
    exact fun member isMember => ⟨framed member isMember, indents_indented member⟩
  · exact fun property _ => ⟨indents_indented_indented _, indents_indented_indented _, rfl, rfl⟩

end DtoScaffold.Php
