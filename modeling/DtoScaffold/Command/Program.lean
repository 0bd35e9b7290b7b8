import DtoScaffold.Command.Help
import DtoScaffold.Command.Init

/-!
# The program

The program reads its arguments, runs the command they ask for on a disk and turns the outcome into
an exit code and texts. It asks no questions, so it suits an input that is not a terminal.
-/
namespace DtoScaffold.Command

structure ProgramResult where
  code : Nat
  stdout : String
  stderr : String
  disk : Disk

def failureText (message : String) : String :=
  asLine "" ++ asLine ("Error: " ++ message) ++ asLine ""

/-- The content of the configuration file of a directory on a disk, if there is one. -/
def configFile? (disk : Disk) (directory : Path) : Except ConfigError (Option ByteArray) :=
  let path := configPath directory
  if disk.taken path then
    match disk.read path with
    | .ok content => .ok (some content)
    | .error error => .error (.unreadable error)
  else .ok none

/-- Run the generate command on a disk that holds the configuration file as well. -/
def generateOnDisk (directory : Path) (colored : Bool) (arguments : GenerateArguments)
    (input : Option ByteArray) (disk : Disk) : Execution Disk :=
  match configFile? disk directory with
  | .error error => ⟨.error (.config error), "", disk⟩
  | .ok configFile => generate configFile directory colored arguments input disk

def invoke (directory : Path) (invocation : Invocation) (disk : Disk) : Execution Disk :=
  match invocation with
  | .init arguments => init directory arguments disk
  | .generate arguments => generateOnDisk directory false arguments none disk

def program (directory : Path) (arguments : List String) (disk : Disk) : ProgramResult :=
  match parse [] arguments with
  | .error .usage => ⟨2, "", Stop.usage.text, disk⟩
  | .error stop => ⟨0, stop.text, "", disk⟩
  | .ok invocation =>
    let execution := invoke directory invocation disk
    match execution.result with
    | .ok () => ⟨0, execution.output, "", execution.storage⟩
    | .error error => ⟨1, execution.output, failureText error.message, execution.storage⟩

end DtoScaffold.Command
