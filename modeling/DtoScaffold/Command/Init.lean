import DtoScaffold.Command.Generate
import DtoScaffold.Storage.Disk

/-!
# The init command

The command writes a configuration with one container into a project's directory. It keeps a
configuration file that is there unless it is told to force.
-/
namespace DtoScaffold.Command

/-- The configuration with the one container that the arguments describe. -/
def starterConfig (arguments : InitArguments) : Config :=
  { Config.initial with
    containers := [(arguments.container, ⟨arguments.path, arguments.namespaceText⟩)] }

/-- The reference of a class in the new container. -/
def exampleReference (arguments : InitArguments) : String :=
  arguments.container ++ ":ExampleDTO"

def configPath (directory : Path) : Path :=
  directory.push ⟨Config.fileName⟩

def createdText (arguments : InitArguments) : String :=
  asLine s!"  OK Created {Config.fileName}" ++ asLine "" ++ asLine "Next steps:" ++
    asLine s!"  Run: dtogen generate --dto {exampleReference arguments}"

def keptText : String :=
  asLine s!"{Config.fileName} already exists" ++ asLine "Use --force to overwrite"

def init (directory : Path) (arguments : InitArguments) (disk : Disk) : Execution Disk :=
  let path := configPath directory
  if disk.taken path && !arguments.force then ⟨.ok (), keptText, disk⟩
  else
    match disk.overwrite path (starterConfig arguments).toJson.indented.toUTF8 with
    | (.ok (), left) => ⟨.ok (), createdText arguments, left⟩
    | (.error error, left) => ⟨.error (.storage error), "", left⟩

end DtoScaffold.Command
