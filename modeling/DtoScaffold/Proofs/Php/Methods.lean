import DtoScaffold.Php.Class
import DtoScaffold.Proofs.Property.Tokens
import DtoScaffold.Proofs.Text.Uppercase
import Mathlib.Data.List.Nodup

/-!
# The methods of a generated class

A class declares two methods for each property, and their names capitalize the property's name.
Property lists tell names apart by case, method names do not tell the case of the first letter, so
two properties can share their methods. No others do: a getter is never a setter, and names that
differ in more than the case of their first letters have accessors of their own.
-/
namespace DtoScaffold.Php

open Text

/-- The name of the method that a line declares. -/
def methodName? (line : String) : Option String :=
  (line.toList.dropPrefix? "public function ".toList).bind fun signature =>
    (cutAt? '(' (String.ofList signature)).map Prod.fst

/-- The name of the method that an item of a class body declares. -/
def Item.methodName? : Item → Option String
  | .line text => Php.methodName? text
  | _ => none

def methodNames (body : List Item) : List String :=
  body.filterMap Item.methodName?

/-- The methods of a property. -/
def accessorNames (property : String) : List String :=
  [getterName property, setterName property]

theorem isIdentifier_getterName {property : String} (valid : isIdentifier property = true) :
    isIdentifier (getterName property) = true :=
  isIdentifier_append (by decide) (isIdentifier_capitalize valid)

theorem isIdentifier_setterName {property : String} (valid : isIdentifier property = true) :
    isIdentifier (setterName property) = true :=
  isIdentifier_append (by decide) (isIdentifier_capitalize valid)

theorem methodName?_signature {name parameters : String} (valid : isIdentifier name = true)
    (opens : parameters.toList.head? = some '(') :
    methodName? ("public function " ++ name ++ parameters) = some name := by
  have absent : '(' ∉ name.toList := not_mem_of_isIdentifier valid (by decide)
  have dropped : ("public function " ++ name ++ parameters).toList.dropPrefix?
      "public function ".toList = some (name ++ parameters).toList := by
    apply List.dropPrefix?_eq_some_iff.mpr
    exact ⟨"public function ".toList, by simp, by simp⟩
  obtain ⟨rest, chars⟩ := List.head?_eq_some_iff.mp opens
  have same : parameters = String.singleton '(' ++ String.ofList rest := by
    apply String.toList_inj.mp
    simp [chars]
  rw [methodName?, dropped, Option.bind_some, String.ofList_toList, same, ← String.append_assoc,
    cutAt?_append absent, Option.map_some]

theorem methodNames_append (first second : List Item) :
    methodNames (first ++ second) = methodNames first ++ methodNames second :=
  List.filterMap_append

theorem methodNames_flatMap {α : Type} (entries : List α) (items : α → List Item) :
    methodNames (entries.flatMap items) =
      entries.flatMap fun entry => methodNames (items entry) :=
  List.filterMap_flatMap

theorem methodNames_fieldItems (property : Property) : methodNames (fieldItems property) = [] := by
  have declaresNone : methodName? s!"private ${property.name};" = none := by
    rw [methodName?, String.toList_append, String.toList_append]
    rfl
  simp only [methodNames, fieldItems, List.filterMap_cons, List.filterMap_nil, Item.methodName?,
    declaresNone]

/-- A method is declared by the line between its comment and its body. -/
theorem methodNames_method {signature name : String} (declared : methodName? signature = some name)
    (comment : List String) (body : List Item) :
    methodNames [.member, .doc comment, .line signature, .block body] = [name] := by
  simp only [methodNames, List.filterMap_cons, List.filterMap_nil, Item.methodName?, declared]

section
variable {property : Property} (valid : isPropertyName property.name = true)

include valid

theorem methodNames_getterItems :
    methodNames (getterItems property) = [getterName property.name] := by
  have getter := isIdentifier_getterName (isPropertyName_iff.mp valid).1
  exact methodNames_method (methodName?_signature getter (by rfl)) _ _

theorem methodNames_setterItems (className : String) :
    methodNames (setterItems className property) = [setterName property.name] := by
  have setter := isIdentifier_setterName (isPropertyName_iff.mp valid).1
  apply methodNames_method
  have opens : ("($" ++ (property.name ++ ")")).toList.head? = some '(' := by simp
  rw [String.append_assoc, String.append_assoc]
  exact methodName?_signature setter opens

end

/-- The class declares a getter and a setter for each property, in the order of the list. -/
theorem methodNames_dtoBody {list : PropertyList} (wellNamed : list.WellNamed)
    (className : String) :
    methodNames (dtoBody className list) = list.names.flatMap accessorNames := by
  have accessors : ∀ property ∈ list.entries,
      methodNames (getterItems property ++ setterItems className property) =
        accessorNames property.name := by
    intro property member
    have valid := wellNamed.valid property.name (List.mem_map_of_mem member)
    rw [methodNames_append, methodNames_getterItems valid, methodNames_setterItems valid]
    rfl
  have fields : list.entries.flatMap (fun property => methodNames (fieldItems property)) = [] := by
    simp [methodNames_fieldItems]
  rw [dtoBody, methodNames_append, methodNames_flatMap, methodNames_flatMap, fields,
    List.nil_append, PropertyList.names, List.flatMap_map]
  exact List.flatMap_congr accessors

theorem getterName_ne_setterName (first second : String) :
    getterName first ≠ setterName second := by
  intro same
  have chars := String.toList_inj.mpr same
  simp [getterName, setterName] at chars

theorem nodup_accessorNames (property : String) : (accessorNames property).Nodup := by
  simp [accessorNames, getterName_ne_setterName]

/-- Two properties share no method exactly when their capitalized names differ. -/
theorem disjoint_accessorNames_iff {first second : String} :
    (accessorNames first).Disjoint (accessorNames second) ↔
      capitalize first ≠ capitalize second := by
  constructor
  · intro disjoint same
    have shared : getterName first = getterName second := by rw [getterName, getterName, same]
    exact disjoint List.mem_cons_self (shared ▸ List.mem_cons_self)
  · intro different name ofFirst ofSecond
    simp only [accessorNames, List.mem_cons, List.not_mem_nil, or_false] at ofFirst ofSecond
    -- A name in both lists is a getter in both or a setter in both.
    rcases ofFirst with rfl | rfl <;> rcases ofSecond with same | same
    · exact different ((String.append_right_inj _).mp same)
    · exact getterName_ne_setterName first second same
    · exact getterName_ne_setterName second first same.symm
    · exact different ((String.append_right_inj _).mp same)

/-- A class declares the getter and the setter of each of its properties, in the order of the list.
All these methods have names of their own exactly when no two properties have names that are the
same but for the case of the first letter. -/
theorem methods_distinct_iff {list : PropertyList} (reachable : list.Reachable)
    (className : String) :
    methodNames (dtoBody className list) = list.names.flatMap accessorNames ∧
      ((methodNames (dtoBody className list)).Nodup ↔
        list.names.Pairwise fun first second => ¬ SameButFirstCase first second) := by
  have wellNamed := reachable.wellNamed
  have declared := methodNames_dtoBody wellNamed className
  refine ⟨declared, ?_⟩
  -- Only valid names are told apart by their capitals, so the members of the list matter here.
  have apart : ∀ {first second : String}, first ∈ list.names → second ∈ list.names →
      (Function.onFun List.Disjoint accessorNames first second ↔
        ¬ SameButFirstCase first second) := by
    intro first second memberFirst memberSecond
    have validFirst := (isPropertyName_iff.mp (wellNamed.valid first memberFirst)).1
    have validSecond := (isPropertyName_iff.mp (wellNamed.valid second memberSecond)).1
    exact disjoint_accessorNames_iff.trans (not_congr (capitalize_eq_iff validFirst validSecond))
  calc (methodNames (dtoBody className list)).Nodup
      ↔ list.names.Pairwise (Function.onFun List.Disjoint accessorNames) := by
        rw [declared, List.nodup_flatMap]
        exact and_iff_right fun name _ => nodup_accessorNames name
    _ ↔ list.names.Pairwise fun first second => ¬ SameButFirstCase first second :=
        List.Pairwise.iff_of_mem apart

theorem methods_distinct_name_names :
    PropertyList.parse "string:name array:names" = .ok ⟨[⟨"name", "string"⟩, ⟨"names", "array"⟩]⟩ ∧
      (methodNames (dtoBody "PostDTO" ⟨[⟨"name", "string"⟩, ⟨"names", "array"⟩]⟩)).Nodup := by
  have read : PropertyList.parse "string:name array:names" =
      .ok ⟨[⟨"name", "string"⟩, ⟨"names", "array"⟩]⟩ := by decide +kernel
  refine ⟨read, (methods_distinct_iff (.parsed read) "PostDTO").2.mpr ?_⟩
  simp [PropertyList.names, SameButFirstCase]

/-- A list can hold `name` and `Name`; both have the methods `getName` and `setName`. -/
theorem name_and_Name_share_methods :
    PropertyList.Reachable ⟨[⟨"name", "string"⟩, ⟨"Name", "string"⟩]⟩ ∧
      ¬ (methodNames (dtoBody "PostDTO" ⟨[⟨"name", "string"⟩, ⟨"Name", "string"⟩]⟩)).Nodup := by
  have first : PropertyList.empty.add "name" "string" = .ok ⟨[⟨"name", "string"⟩]⟩ := by decide
  have second : PropertyList.add ⟨[⟨"name", "string"⟩]⟩ "Name" "string" =
      .ok ⟨[⟨"name", "string"⟩, ⟨"Name", "string"⟩]⟩ := by decide
  have reachable := (PropertyList.Reachable.empty.added first).added second
  refine ⟨reachable, ?_⟩
  rw [methodNames_dtoBody reachable.wellNamed]
  decide

end DtoScaffold.Php
