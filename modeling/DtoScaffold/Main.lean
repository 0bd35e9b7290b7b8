import DtoScaffold.Command.Program
import DtoScaffold.Storage.Memory

/-!
# The dtogen program

The outer layer of the command line. Commands run on a storage in memory that knows which of the
paths in question are taken; what they write there is then written to the disk, and what they show
is shown when that succeeded. The wizard is asked line by line.
-/
namespace DtoScaffold.Shell

open Command

def isThere (path : Path) : IO Bool := do
  try
    discard (IO.FS.realPath path.text)
    return true
  catch _ => return false

def contentOf? (path : Path) : IO (Option ByteArray) := do
  if ← isThere path then return some (← IO.FS.readBinFile path.text) else return none

def fail (error : CommandError) : IO UInt32 := do
  IO.eprint (failureText error.message)
  return 1

partial def converse (resolve : Resolver) (colored : Bool) (wizard : Wizard) :
    IO (Except SessionError Outcome) := do
  if wizard.isDone then return wizard.finish
  IO.print (wizard.prompt colored)
  (← IO.getStdout).flush
  let line ← (← IO.getStdin).getLine
  if line.isEmpty then return .error .unexpectedEnd
  let target? := do
    let identity ← (wizard.advance resolve (fun _ => false) line).2.identity
    let container ← (resolve identity.container).toOption
    return ArtifactKind.main.target container identity wizard.root
  let taken ← match target? with
    | some target => isThere target
    | none => pure false
  let (verdict, next) := wizard.advance resolve (fun _ => taken) line
  IO.print (wizard.remark colored verdict next)
  converse resolve colored next

/-- The memory that knows which of some paths and the paths just above them are taken. -/
def memoryOf (paths : List Path) : IO Memory := do
  let known ← (paths ++ paths.filterMap Path.parent?).filterM isThere
  return known.foldl Memory.addFile Memory.empty

/-- Write to the disk what was written to a memory. -/
def commit (memory : Memory) : IO Unit := do
  for directory in memory.createdDirectories do
    IO.FS.createDirAll directory.text
  for (path, content) in memory.written do
    let handle ← IO.FS.Handle.mk path.text .writeNew
    handle.write content

/-- The request of a command, from its arguments or from the wizard. -/
def requestOf (config : Config) (resolve : Resolver) (colored : Bool)
    (arguments : GenerateArguments) (properties : PropertyList) :
    IO (Except CommandError Request) := do
  if arguments.noInteraction || !(← (← IO.getStdin).isTty) then
    return requestFromArguments config arguments properties
  IO.print (Wizard.introduction colored)
  let result ← converse resolve colored (wizardFor config arguments properties)
  return (result.map (requestFromOutcome config arguments)).mapError .session

def generate (directory : Path) (arguments : GenerateArguments) : IO UInt32 := do
  let colored ← (← IO.getStdout).isTty
  match Config.load (← contentOf? (configPath directory)) with
  | .error error => fail (.config error)
  | .ok config =>
    let resolve := (config.registry directory).resolve
    match givenProperties arguments with
    | .error (error, shown) =>
      IO.print shown
      fail error
    | .ok properties =>
      match ← requestOf config resolve colored arguments properties with
      | .error error => fail error
      | .ok request =>
        let paths := match targets resolve request.identity request.options with
          | .ok (_, targets) => targets.map Prod.snd
          | .error _ => []
        let memory ← memoryOf paths
        match planRequest resolve memory.taken request with
        | .error error => fail error
        | .ok plan =>
          let execution := carryOut colored memory arguments request plan
          commit execution.storage
          IO.print execution.output
          match execution.result with
          | .ok () => return 0
          | .error error => fail error

def init (directory : Path) (arguments : InitArguments) : IO UInt32 := do
  let path := configPath directory
  let location := Disk.namesOf directory
  let content? ← contentOf? path
  let disk := match content? with
    | some content => ((Disk.fresh location).overwrite path content).2
    | none => Disk.fresh location
  let execution := Command.init directory arguments disk
  match execution.result with
  | .error error => fail error
  | .ok () =>
    match execution.storage.read path with
    | .ok content => if content? != some content then IO.FS.writeBinFile path.text content
    | .error _ => pure ()
    IO.print execution.output
    return 0

def run (invocation : Invocation) : IO UInt32 := do
  let directory : Path := ⟨(← IO.currentDir).toString⟩
  match invocation with
  | .init arguments => init directory arguments
  | .generate arguments => generate directory arguments

end DtoScaffold.Shell

def main (arguments : List String) : IO UInt32 := do
  match DtoScaffold.Command.parse [] arguments with
  | .error .usage =>
    IO.eprint DtoScaffold.Command.Stop.usage.text
    return 2
  | .error stop =>
    IO.print stop.text
    return 0
  | .ok invocation =>
    try DtoScaffold.Shell.run invocation
    catch failure =>
      IO.eprint (DtoScaffold.Command.failureText (toString failure))
      return 1
