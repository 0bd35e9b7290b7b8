import DtoScaffold.Php.Printer
import DtoScaffold.Property.Basic
import DtoScaffold.Text.Uppercase

/-!
# Generated classes

A generated class holds a field for each property and then a getter and a setter for each, both in
the order of the list. Its assembler holds a conversion in each direction, to be filled in.
-/
namespace DtoScaffold.Php

open Text

def getterName (property : String) : String :=
  "get" ++ capitalize property

def setterName (property : String) : String :=
  "set" ++ capitalize property

/-- A class with its namespace declaration; classes without a namespace declare none. -/
def classItems (namespaceText className : String) (body : List Item) : List Item :=
  (if namespaceText.isEmpty then [] else [.line s!"namespace {namespaceText};", .line ""]) ++
    [.doc [className], .line s!"class {className}", .block body]

def fieldItems (property : Property) : List Item :=
  [.member, .doc [s!"@var {property.type}"], .line s!"private ${property.name};"]

def getterItems (property : Property) : List Item :=
  [.member, .doc [s!"Get {property.name}", "", s!"@return {property.type}"],
    .line s!"public function {getterName property.name}()",
    .block [.line s!"return $this->{property.name};"]]

/-- A setter returns its receiver, so that calls can be chained. -/
def setterItems (className : String) (property : Property) : List Item :=
  [.member,
    .doc [s!"Set {property.name}", "", s!"@param {property.type} ${property.name}",
      s!"@return {className}"],
    .line s!"public function {setterName property.name}(${property.name})",
    .block [.line s!"$this->{property.name} = ${property.name};", .line "", .line "return $this;"]]

def dtoBody (className : String) (properties : PropertyList) : List Item :=
  properties.entries.flatMap fieldItems ++
    properties.entries.flatMap fun property =>
      getterItems property ++ setterItems className property

def dtoClass (namespaceText className : String) (properties : PropertyList) : String :=
  print (classItems namespaceText className (dtoBody className properties))

def assemblerSuffix : String :=
  "Assembler"

def assemblerBody (dtoName domainType : String) : List Item :=
  [.member,
    .doc [s!"Converts a domain object into a {dtoName}", "", s!"@param {domainType} $domain",
      s!"@return {dtoName}"],
    .line "public function toDTO($domain)",
    .block [.line s!"$dto = new {dtoName}();", .line "", .line "return $dto;"],
    .member,
    .doc [s!"Converts a {dtoName} into a domain object", "", s!"@param {dtoName} $dto",
      s!"@return {domainType}"],
    .line s!"public function fromDTO({dtoName} $dto)",
    .block [.line "return null;"]]

def assemblerClass (namespaceText dtoName domainType : String) : String :=
  print (classItems namespaceText (dtoName ++ assemblerSuffix) (assemblerBody dtoName domainType))

end DtoScaffold.Php
