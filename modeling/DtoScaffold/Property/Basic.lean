import DtoScaffold.Text.Identifier

/-!
# Properties and property lists

A property list keeps its properties in the order in which their names were first seen; generated
fields and accessors follow it. There are two ways to extend a list. `insert` lets the last type
of a name win and keeps the name's place; `add` refuses a name that is taken.
-/
namespace DtoScaffold

open Text

structure Property where
  name : String
  type : String
  deriving DecidableEq, Repr

/-- An identifier other than `this`, which a setter could not take as its parameter. -/
def isPropertyName (name : String) : Bool :=
  isIdentifier name && name != "this"

inductive TokenFault
  | missingColon
  | missingType
  | invalidName (name : String)
  deriving DecidableEq, Repr

def TokenFault.message : TokenFault → String
  | missingColon => "properties must be entered in the format type:name"
  | missingType => "missing property type"
  | invalidName name => s!"\"{name}\" is not a valid property name"

inductive PropertyError
  /-- A token at a byte position of its source is at fault. -/
  | malformed (token : String) (offset : Nat) (fault : TokenFault)
  | duplicate (name : String)
  deriving DecidableEq, Repr

def PropertyError.message : PropertyError → String
  | malformed token offset fault => s!"Malformed property \"{token}\" at {offset}: {fault.message}"
  | duplicate name => s!"Property \"{name}\" is already defined"

/-- Properties in the order of their first appearance. -/
structure PropertyList where
  entries : List Property
  deriving DecidableEq, Repr

namespace PropertyList

def empty : PropertyList :=
  ⟨[]⟩

def size (list : PropertyList) : Nat :=
  list.entries.length

def isEmpty (list : PropertyList) : Bool :=
  list.entries.isEmpty

def names (list : PropertyList) : List String :=
  list.entries.map Property.name

def get? (list : PropertyList) (name : String) : Option Property :=
  list.entries.find? (·.name == name)

def contains (list : PropertyList) (name : String) : Bool :=
  (list.get? name).isSome

/-- Replace the first entry of the property's name, or append the property. -/
def insertInto (property : Property) : List Property → List Property
  | [] => [property]
  | entry :: rest =>
    if entry.name == property.name then property :: rest else entry :: insertInto property rest

/-- The last type of a name wins, in the place where the name was first seen. -/
def insert (list : PropertyList) (property : Property) : PropertyList :=
  ⟨insertInto property list.entries⟩

/-- Append a new property; a name that is taken keeps its entry. -/
def add (list : PropertyList) (name type : String) : Except PropertyError PropertyList :=
  if !isPropertyName name then .error (.malformed name 0 (.invalidName name))
  else if list.contains name then .error (.duplicate name)
  else .ok ⟨list.entries ++ [⟨name, type⟩]⟩

theorem contains_iff {list : PropertyList} {name : String} :
    list.contains name = true ↔ name ∈ list.names := by
  simp [contains, get?, names]

private theorem find?_insertInto (property : Property) (name : String) (entries : List Property) :
    (insertInto property entries).find? (·.name == name) =
      if property.name = name then some property else entries.find? (·.name == name) := by
  induction entries with
  | nil => by_cases same : property.name = name <;> simp [insertInto, same]
  | cons entry rest ih =>
    by_cases taken : entry.name = property.name
    · by_cases same : property.name = name <;> simp [insertInto, taken, same]
    · have step : insertInto property (entry :: rest) = entry :: insertInto property rest := by
        simp [insertInto, taken]
      by_cases first : entry.name = name
      · have other : property.name ≠ name := fun same => taken (first.trans same.symm)
        simp [step, first, other]
      · simp [step, first, ih]

theorem get?_insert (list : PropertyList) (property : Property) (name : String) :
    (list.insert property).get? name =
      if property.name = name then some property else list.get? name :=
  find?_insertInto property name list.entries

private theorem map_name_insertInto (property : Property) (entries : List Property) :
    (insertInto property entries).map Property.name =
      if property.name ∈ entries.map Property.name then entries.map Property.name
      else entries.map Property.name ++ [property.name] := by
  induction entries with
  | nil => simp [insertInto]
  | cons entry rest ih =>
    by_cases taken : entry.name = property.name
    · simp [insertInto, taken]
    · have other : property.name ≠ entry.name := fun same => taken same.symm
      by_cases later : property.name ∈ rest.map Property.name <;>
        simp_all [insertInto]

theorem names_insert (list : PropertyList) (property : Property) :
    (list.insert property).names =
      if property.name ∈ list.names then list.names else list.names ++ [property.name] :=
  map_name_insertInto property list.entries

end PropertyList

end DtoScaffold
