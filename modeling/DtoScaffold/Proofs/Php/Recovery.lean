import DtoScaffold.Proofs.Php.Methods
import DtoScaffold.Proofs.Php.Template
import DtoScaffold.Proofs.Property.Spelling

/-!
# Reading properties off a generated class

Each property has a field, which shows its type in its comment and its name in its declaration, and
no other line of the class looks like these two. Types and names hold no line feed, so the text of a
class is divided into its lines again, and the lines of the fields give back the list. Two lists
with the same class are therefore the same.
-/
namespace DtoScaffold.Php

open Text

/-! ## Lines -/

/-- No line holds a line feed. -/
def Feedless (lines : List String) : Prop :=
  ∀ line ∈ lines, '\n' ∉ line.toList

theorem splitOn_unlines {lines : List String} (feedless : Feedless lines) :
    (unlines lines).toList.splitOn '\n' = lines.map String.toList ++ [[]] := by
  induction lines with
  | nil => rfl
  | cons line rest ih =>
    have later := ih fun other member => feedless other (List.mem_cons_of_mem _ member)
    have whole : (unlines (line :: rest)).toList =
        line.toList ++ '\n' :: (unlines rest).toList := by simp
    rw [whole, List.splitOn_append_cons_self_of_not_mem (feedless line List.mem_cons_self), later,
      List.map_cons, List.cons_append]

/-- Lines without line feeds are the lines of their text. -/
theorem unlines_inj {first second : List String} (feedlessFirst : Feedless first)
    (feedlessSecond : Feedless second) : unlines first = unlines second ↔ first = second := by
  constructor
  · intro same
    have split := splitOn_unlines feedlessFirst
    rw [same, splitOn_unlines feedlessSecond, List.append_left_inj] at split
    have injective : Function.Injective String.toList := fun _ _ => String.toList_injective
    exact (List.map_injective_iff.mpr injective split).symm
  · intro same
    rw [same]

theorem indentedLine_injective (blanks : Nat) : Function.Injective (indentedLine blanks) := by
  intro first second same
  by_cases emptyFirst : first = ""
  · by_cases emptySecond : second = ""
    · rw [emptyFirst, emptySecond]
    · simp [indentedLine, emptyFirst, emptySecond] at same
  · by_cases emptySecond : second = ""
    · simp [indentedLine, emptyFirst, emptySecond] at same
    · simpa [indentedLine, emptyFirst, emptySecond] using same

theorem indented_inj {first second : List String} :
    indented first = indented second ↔ first = second :=
  (List.map_injective_iff.mpr (indentedLine_injective 4)).eq_iff

/-- A reader that takes nothing from an empty line reads the pieces one after the other. -/
theorem filterMap_intercalate {α : Type} {read : String → Option α} (empty : read "" = none)
    (pieces : List (List String)) :
    ([""].intercalate pieces).filterMap read = pieces.flatMap (·.filterMap read) := by
  induction pieces with
  | nil => rfl
  | cons piece rest ih =>
    cases rest with
    | nil => simp
    | cons next rest =>
      rw [List.intercalate_cons_cons, List.filterMap_append, List.filterMap_append, ih]
      simp [empty]

/-! ## The lines of fields -/

/-- What follows a label at the start of a line. -/
def after? (label line : String) : Option String :=
  (line.toList.dropPrefix? label.toList).map String.ofList

/-- The type that the comment of a field shows. -/
def shownType? (line : String) : Option String :=
  after? " * @var " line

/-- The name that a field declares. -/
def shownName? (line : String) : Option String :=
  (after? "private $" line).bind fun rest => (cutAt? ';' rest).map Prod.fst

theorem after?_append (label rest : String) : after? label (label ++ rest) = some rest := by
  have dropped : (label ++ rest).toList.dropPrefix? label.toList = some rest.toList := by
    apply List.dropPrefix?_eq_some_iff.mpr
    exact ⟨label.toList, by simp, by simp⟩
  rw [after?, dropped, Option.map_some, String.ofList_toList]

/-- A field is read from the line that shows its type and the line that declares its name. -/
theorem shown_fieldLines {property : Property} (valid : isIdentifier property.name = true) :
    (fieldLines property).filterMap shownType? = [property.type] ∧
      (fieldLines property).filterMap shownName? = [property.name] := by
  have type : shownType? (" * @var " ++ property.type) = some property.type :=
    after?_append " * @var " property.type
  have name : shownName? ("private $" ++ property.name ++ ";") = some property.name := by
    have absent : ';' ∉ property.name.toList := not_mem_of_isIdentifier valid (by decide)
    have cut : cutAt? ';' (property.name ++ ";") = some (property.name, "") :=
      cutAt?_eq_some_iff.mpr ⟨absent, (String.append_empty).symm⟩
    rw [shownName?, String.append_assoc, after?_append, Option.bind_some, cut, Option.map_some]
  -- The other lines start with characters of their own, up to the type or the name.
  have typeOnly : shownType? ("private $" ++ property.name ++ ";") = none := by
    simp [shownType?, after?, List.dropPrefix?]
  have nameOnly : shownName? (" * @var " ++ property.type) = none := by
    simp [shownName?, after?, List.dropPrefix?]
  have noMark : ∀ line ∈ ["/**", " */"], shownType? line = none ∧ shownName? line = none := by
    decide
  simp [fieldLines, type, name, typeOnly, nameOnly, noMark]

/-- No line of a getter looks like one of a field. -/
theorem shown_getterLines (property : Property) :
    (getterLines property).filterMap shownType? = [] ∧
      (getterLines property).filterMap shownName? = [] := by
  simp [getterLines, methodLines, getterBody, indented, indentedLine, List.replicate_succ,
    shownType?, shownName?, after?, List.dropPrefix?]

theorem shown_setterLines (className : String) (property : Property) :
    (setterLines className property).filterMap shownType? = [] ∧
      (setterLines className property).filterMap shownName? = [] := by
  simp [setterLines, methodLines, setterBody, indented, indentedLine, List.replicate_succ,
    shownType?, shownName?, after?, List.dropPrefix?]

/-- A reader that takes one thing from each field and nothing from an accessor reads one thing for
each property. -/
theorem filterMap_memberLines {className : String} {list : PropertyList}
    {read : String → Option String} {shown : Property → String} (empty : read "" = none)
    (fields : ∀ property ∈ list.entries, (fieldLines property).filterMap read = [shown property])
    (getters : ∀ property, (getterLines property).filterMap read = [])
    (setters : ∀ property, (setterLines className property).filterMap read = []) :
    ([""].intercalate (memberLines className list)).filterMap read = list.entries.map shown := by
  have own : (list.entries.map fieldLines).flatMap (·.filterMap read) = list.entries.map shown := by
    rw [List.flatMap_map, List.map_eq_flatMap]
    exact List.flatMap_congr fields
  have accessors : (list.entries.flatMap fun property =>
      [getterLines property, setterLines className property]).flatMap (·.filterMap read) = [] := by
    rw [List.flatMap_assoc, List.flatMap_eq_nil_iff]
    intro property _
    simp [getters, setters]
  -- The empty lines between the members show nothing either.
  rw [filterMap_intercalate empty, memberLines, inMemberOrder, List.flatMap_append, own, accessors,
    List.append_nil]

/-! ## The list of a class -/

theorem entries_eq_zipWith (list : PropertyList) :
    list.entries = List.zipWith Property.mk list.names (list.entries.map Property.type) := by
  simp [PropertyList.names, List.zipWith_map, List.zipWith_self]

theorem Feedless.indented {lines : List String} (feedless : Feedless lines) :
    Feedless (Php.indented lines) := by
  intro line member
  obtain ⟨text, inside, rfl⟩ := List.mem_map.mp member
  unfold indentedLine
  split
  · simp
  · simpa using feedless text inside

theorem feedless_methodLines {comment body : List String} {signature : String}
    (feedlessComment : Feedless comment) (feedlessSignature : '\n' ∉ signature.toList)
    (feedlessBody : Feedless body) : Feedless (methodLines comment signature body) := by
  have inside := feedlessBody.indented
  simp only [Feedless, methodLines, List.forall_mem_append, List.forall_mem_cons,
    List.not_mem_nil, false_imp_iff, implies_true, and_true]
  exact ⟨⟨⟨⟨by decide, feedlessComment⟩, by decide, feedlessSignature, by decide⟩, inside⟩,
    by decide⟩

theorem feedless_memberLines {className : String} (valid : isIdentifier className = true)
    {list : PropertyList} (writable : ∀ property ∈ list.entries, property.Writable) :
    ∀ member ∈ memberLines className list, Feedless member := by
  refine forall_mem_inMemberOrder_iff.mpr fun property member => ?_
  have identifier := (isPropertyName_iff.mp (writable property member).valid).1
  have name : '\n' ∉ property.name.toList := not_mem_of_isIdentifier identifier (by decide)
  have getter : '\n' ∉ (getterName property.name).toList :=
    not_mem_of_isIdentifier (isIdentifier_getterName identifier) (by decide)
  have setter : '\n' ∉ (setterName property.name).toList :=
    not_mem_of_isIdentifier (isIdentifier_setterName identifier) (by decide)
  have result : '\n' ∉ className.toList := not_mem_of_isIdentifier valid (by decide)
  -- A line feed is a blank, and no blank is in a type.
  have type : '\n' ∉ property.type.toList := by
    intro inside
    cases (writable property member).solid.gapless _ inside
  -- Of an accessor remain its comment, its signature and its body.
  refine ⟨?field, feedless_methodLines ?_ ?_ ?_, feedless_methodLines ?_ ?_ ?_⟩
  case field => simp [Feedless, fieldLines, name, type]
  · simp [Feedless, name, type]
  · simp [getter]
  · simp [Feedless, getterBody, name]
  · simp [Feedless, name, type, result]
  · simp [setter, name]
  · simp [Feedless, setterBody, name]

/-- No line between the braces of a class holds a line feed. -/
theorem feedless_bodyLines {className : String} (valid : isIdentifier className = true)
    {list : PropertyList} (writable : ∀ property ∈ list.entries, property.Writable) :
    Feedless (bodyLines className list) := by
  have inside : Feedless ([""].intercalate (memberLines className list)) :=
    forall_mem_intercalate (by simp) (feedless_memberLines valid writable)
  exact inside.indented

/-- The lines between the braces hold the types and the names of the list, in its order. -/
theorem shown_memberLines (className : String) {list : PropertyList}
    (writable : ∀ property ∈ list.entries, property.Writable) :
    ([""].intercalate (memberLines className list)).filterMap shownType? =
        list.entries.map Property.type ∧
      ([""].intercalate (memberLines className list)).filterMap shownName? = list.names := by
  have fields := fun property member =>
    shown_fieldLines (isPropertyName_iff.mp (writable property member).valid).1
  constructor
  · exact filterMap_memberLines (by decide) (fun property member => (fields property member).1)
      (fun property => (shown_getterLines property).1)
      (fun property => (shown_setterLines className property).1)
  · exact filterMap_memberLines (by decide) (fun property member => (fields property member).2)
      (fun property => (shown_getterLines property).2)
      (fun property => (shown_setterLines className property).2)

theorem bodyLines_inj {className : String} {first second : PropertyList}
    (writableFirst : ∀ property ∈ first.entries, property.Writable)
    (writableSecond : ∀ property ∈ second.entries, property.Writable) :
    bodyLines className first = bodyLines className second ↔ first = second := by
  constructor
  · intro same
    -- A depth moves all lines alike, so the same lines are read at the outermost level.
    have lines := indented_inj.mp same
    obtain ⟨typesFirst, namesFirst⟩ := shown_memberLines className writableFirst
    obtain ⟨typesSecond, namesSecond⟩ := shown_memberLines className writableSecond
    have types : first.entries.map Property.type = second.entries.map Property.type := by
      rw [← typesFirst, lines, typesSecond]
    have names : first.names = second.names := by
      rw [← namesFirst, lines, namesSecond]
    have entries : first.entries = second.entries := by
      rw [entries_eq_zipWith first, names, types, ← entries_eq_zipWith second]
    exact congrArg PropertyList.mk entries
  · intro same
    rw [same]

/-- Two lists that were read are told apart by the text of their classes: it shows the same names
with the same types in the same order only if the lists are the same. -/
theorem dtoClass_eq_iff {rawFirst rawSecond className : String} {first second : PropertyList}
    (valid : isIdentifier className = true) (readFirst : PropertyList.parse rawFirst = .ok first)
    (readSecond : PropertyList.parse rawSecond = .ok second) (namespaceText : String) :
    dtoClass namespaceText className first = dtoClass namespaceText className second ↔
      first = second := by
  have writableFirst : ∀ property ∈ first.entries, property.Writable :=
    fun _ member => PropertyList.writable_of_parse readFirst member
  have writableSecond : ∀ property ∈ second.entries, property.Writable :=
    fun _ member => PropertyList.writable_of_parse readSecond member
  -- The header is the same text in both classes, so the bodies are compared.
  calc dtoClass namespaceText className first = dtoClass namespaceText className second
      ↔ unlines (bodyLines className first) = unlines (bodyLines className second) := by
        simp only [dtoClass_eq_unlines, unlines_append, String.append_right_inj,
          String.append_left_inj]
    _ ↔ bodyLines className first = bodyLines className second :=
        unlines_inj (feedless_bodyLines valid writableFirst)
          (feedless_bodyLines valid writableSecond)
    _ ↔ first = second := bodyLines_inj writableFirst writableSecond

/-- Lists of different lengths, with a type that looks like the start of a field's comment. -/
theorem classes_of_title_differ :
    let first : PropertyList := ⟨[⟨"title", "string"⟩, ⟨"tags", "/**"⟩]⟩
    let second : PropertyList := ⟨[⟨"title", "string"⟩]⟩
    PropertyList.parse "string:title /**:tags" = .ok first ∧
      PropertyList.parse "string:title" = .ok second ∧ isIdentifier "PostDTO" = true ∧
      dtoClass "App\\Model" "PostDTO" first ≠ dtoClass "App\\Model" "PostDTO" second := by
  intro first second
  have readFirst : PropertyList.parse "string:title /**:tags" = .ok first := by decide +kernel
  have readSecond : PropertyList.parse "string:title" = .ok second := by decide +kernel
  have valid : isIdentifier "PostDTO" = true := by decide
  have different : first ≠ second := by decide
  exact ⟨readFirst, readSecond, valid,
    fun same => different ((dtoClass_eq_iff valid readFirst readSecond "App\\Model").mp same)⟩

end DtoScaffold.Php
