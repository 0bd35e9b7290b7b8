import DtoScaffold.Property.Basic
import DtoScaffold.Text.Blank

/-!
# Answers to questions

Each check takes the answer as it was typed and gives the accepted value or the reason why it is
asked again. Blanks around an answer do not count.
-/
namespace DtoScaffold

open Text

inductive Rejection
  | missingContainerSeparator (given : String)
  | missingDtoSuffix (given : String)
  | invalidPropertyName (given : String)
  | duplicateProperty (given : String)
  | notAConfirmation (given : String)
  deriving DecidableEq, Repr

namespace Rejection

def given : Rejection → String
  | missingContainerSeparator given => given
  | missingDtoSuffix given => given
  | invalidPropertyName given => given
  | duplicateProperty given => given
  | notAConfirmation given => given

def referenceHint : String :=
  "expecting something like AcmeBlogBundle:Blog/PostDTO"

def message : Rejection → String
  | missingContainerSeparator given =>
    s!"The name must contain a : (\"{given}\" given, {referenceHint})"
  | missingDtoSuffix given =>
    s!"The name must be suffixed with DTO (\"{given}\" given, {referenceHint})"
  | invalidPropertyName given => s!"\"{given}\" is not a valid property name"
  | duplicateProperty given => s!"Property \"{given}\" is already defined."
  | notAConfirmation given => s!"Please answer yes or no (\"{given}\" given)"

end Rejection

/-- The end of every class name that the dialog accepts. -/
def dtoSuffix : String :=
  "DTO"

/-- Accept a reference with a container that ends in `dtoSuffix`. -/
def acceptDtoName (answer : String) : Except Rejection String :=
  let reference := trim answer
  if !reference.toList.contains ':' then .error (.missingContainerSeparator reference)
  else if !dtoSuffix.toList.isSuffixOf reference.toList then .error (.missingDtoSuffix reference)
  else .ok reference

/-- Accept the name of a property that is not in the list yet. -/
def acceptPropertyName (list : PropertyList) (answer : String) : Except Rejection String :=
  let name := trim answer
  if !isPropertyName name then .error (.invalidPropertyName name)
  else if list.contains name then .error (.duplicateProperty name)
  else .ok name

/-- Accept yes or no in letters of any case; an empty answer keeps `default`. -/
def acceptConfirmation (answer : String) (default : Bool) : Except Rejection Bool :=
  let lower := String.ofList ((trim answer).toList.map Char.toLower)
  if lower == "" then .ok default
  else if lower == "y" || lower == "yes" then .ok true
  else if lower == "n" || lower == "no" then .ok false
  else .error (.notAConfirmation (trim answer))

end DtoScaffold
