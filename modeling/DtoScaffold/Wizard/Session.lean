import DtoScaffold.Text.Bytes
import DtoScaffold.Wizard.Basic

/-!
# A session with the wizard

A session asks the wizard's questions and answers them with the lines of an input until the wizard
is done. It stops at once when a line is not UTF-8, and when the input ends too early.
-/
namespace DtoScaffold

open Text

inductive SessionError
  | unexpectedEnd
  | notText
  deriving DecidableEq, Repr

def SessionError.message : SessionError → String
  | unexpectedEnd => "Input ended before the DTO was fully described"
  | notText => StorageError.systemMessage .invalidData

/-- How a session ended, what it showed and how many bytes of the input it read. -/
structure Session where
  result : Except SessionError Outcome
  output : String
  consumed : Nat

namespace Wizard

def introduction (colored : Bool) : String :=
  sectionText colored .banner ["Welcome to the DTOGen DTO generator"] ++
    asLine "This command helps you generate Data Transfer Objects (DTOs)." ++
    asLine "" ++
    asLine "First, you need to specify the root directory for the objects." ++
    asLine ("Then specify the DTO name in shortcut notation like " ++
      painted colored .yellow "AcmeBlogBundle:PostDTO" ++ ".") ++
    asLine ""

def isDone (wizard : Wizard) : Bool :=
  wizard.phase == .done

def isCollecting (wizard : Wizard) : Bool :=
  match wizard.phase with
  | .properties _ => true
  | _ => false

/-- What is shown after an answer: the reason of a rejection, and a heading before the first
property. -/
def remark (colored : Bool) (before : Wizard) (verdict : Except InputRejection Unit)
    (after : Wizard) : String :=
  match verdict with
  | .error rejection => asLine (painted colored .red rejection.message)
  | .ok () =>
    if after.isCollecting && !before.isCollecting then
      asLine "" ++ asLine "Start adding properties to the DTO" ++ asLine ""
    else ""

/-- The end of a session with a wizard that asks no more. -/
def finish (wizard : Wizard) : Except SessionError Outcome :=
  match wizard.outcome? with
  | some outcome => .ok outcome
  | none => .error .unexpectedEnd

def converse (resolve : Resolver) (taken : Path → Bool) (colored : Bool) (wizard : Wizard) :
    List (List UInt8) → Session
  | [] =>
    if wizard.isDone then ⟨wizard.finish, "", 0⟩
    else ⟨.error .unexpectedEnd, wizard.prompt colored, 0⟩
  | line :: rest =>
    if wizard.isDone then ⟨wizard.finish, "", 0⟩
    else
      match String.fromUTF8? ⟨line.toArray⟩ with
      | none => ⟨.error .notText, wizard.prompt colored, line.length⟩
      | some text =>
        let (verdict, next) := wizard.advance resolve taken text
        let later := converse resolve taken colored next rest
        { later with
          output := wizard.prompt colored ++ wizard.remark colored verdict next ++ later.output
          consumed := line.length + later.consumed }

def run (resolve : Resolver) (taken : Path → Bool) (colored : Bool) (wizard : Wizard)
    (input : ByteArray) : Session :=
  let session := wizard.converse resolve taken colored (inputLines input.toList)
  { session with output := introduction colored ++ session.output }

end Wizard

end DtoScaffold
