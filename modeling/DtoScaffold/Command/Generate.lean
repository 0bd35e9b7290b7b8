import DtoScaffold.Command.Arguments
import DtoScaffold.Config
import DtoScaffold.Diagnostic
import DtoScaffold.Property.Parser
import DtoScaffold.Wizard.Session

/-!
# The generate command

The command makes a request from its arguments or from a session with the wizard, plans it, and then
either shows the files or writes them with a report on each. Whatever goes wrong before the first
file is written leaves the storage as it was.
-/
namespace DtoScaffold.Command

open Text

inductive CommandError
  | config (error : ConfigError)
  | malformedProperties (error : PropertyError)
  | missingClass
  | session (error : SessionError)
  | reference (error : ReferenceError)
  | generation (error : GenerationError)
  | classExists (shortcut : String)
  | writeFailed (error : GenerationError)
  /-- A file of the command itself cannot be written. -/
  | storage (error : StorageError)
  deriving DecidableEq, Repr

def CommandError.message : CommandError → String
  | config error => error.message
  | malformedProperties error => s!"invalid value for --properties: {error.message}"
  | missingClass => "The DTO name is required (use --dto)"
  | session error => error.message
  | reference error => error.message
  | generation error => error.message
  | classExists shortcut => existsMessage shortcut
  | writeFailed error => error.message
  | storage error => error.message

/-- What a command did: its result, what it showed and the storage it left. -/
structure Execution (σ : Type) where
  result : Except CommandError Unit
  output : String
  storage : σ

/-- The options of a request, from the arguments before the configuration. -/
def optionsFor (config : Config) (arguments : GenerateArguments) (rootDirectory : String)
    (withAssembler : Bool) : Options :=
  ⟨withAssembler, rootDirectory, arguments.domainType.getD config.assemblerDomainType⟩

/-- The root directory that the arguments or the configuration name. -/
def rootFor (config : Config) (arguments : GenerateArguments) : String :=
  arguments.rootDirectory.getD config.rootDirectory

def requestFromArguments (config : Config) (arguments : GenerateArguments)
    (properties : PropertyList) : Except CommandError Request :=
  match arguments.dto with
  | none => .error .missingClass
  | some reference =>
    match ClassIdentity.parse reference with
    | .error error => .error (.reference error)
    | .ok identity =>
      .ok ⟨identity, properties,
        optionsFor config arguments (rootFor config arguments) arguments.withAssembler⟩

def wizardFor (config : Config) (arguments : GenerateArguments) (properties : PropertyList) :
    Wizard :=
  .start ⟨rootFor config arguments, arguments.dto, properties, arguments.withAssembler⟩

def requestFromOutcome (config : Config) (arguments : GenerateArguments) (outcome : Outcome) :
    Request :=
  ⟨outcome.identity, outcome.properties,
    optionsFor config arguments outcome.root outcome.withAssembler⟩

/-- The properties among the arguments. With an error comes what is shown for it. -/
def givenProperties (arguments : GenerateArguments) :
    Except (CommandError × String) PropertyList :=
  let raw := arguments.properties.getD ""
  (PropertyList.parse raw).mapError fun error =>
    (.malformedProperties error, asLine (error.report "--properties" raw))

/-- The request of a command, with what was shown to get it. The wizard is asked when there is an
input to answer it. -/
def chooseRequest (config : Config) (resolve : Resolver) (taken : Path → Bool) (colored : Bool)
    (arguments : GenerateArguments) (input : Option ByteArray) :
    Except CommandError Request × String :=
  match givenProperties arguments with
  | .error (error, shown) => (.error error, shown)
  | .ok properties =>
    match input with
    | none => (requestFromArguments config arguments properties, "")
    | some bytes =>
      let session := (wizardFor config arguments properties).run resolve taken colored bytes
      match session.result with
      | .ok outcome => (.ok (requestFromOutcome config arguments outcome), session.output)
      | .error error => (.error (.session error), session.output)

/-- Plan the request of a command. An existing file is reported by the class it belongs to. -/
def planRequest (resolve : Resolver) (taken : Path → Bool) (request : Request) :
    Except CommandError Plan :=
  match prepare resolve taken request with
  | .ok plan => .ok plan
  | .error (.targetExists _) => .error (.classExists request.identity.shortcut)
  | .error error => .error (.generation error)

/-- The file of an artifact under a heading with its path. -/
def shownFile (artifact : PlannedArtifact) : String :=
  asLine ("// " ++ artifact.path.text) ++ withPreamble artifact.content

/-- The files of a plan with an empty line between them. -/
def shownFiles (plan : Plan) : String :=
  "\n".intercalate (plan.artifacts.map shownFile)

def summaryText (colored : Bool) (request : Request) : String :=
  let shortcut := painted colored .yellow request.identity.shortcut
  sectionText colored .banner ["Summary before generation"] ++
    asLine s!"You are going to generate a \"{shortcut}\" DTO" ++
    (if request.options.withAssembler then asLine "with an Assembler class" else "") ++
    asLine "" ++
    (if request.properties.isEmpty then ""
      else propertyTable request.properties ++ asLine "")

structure Progress (σ : Type) where
  failure : Option GenerationError
  output : String
  storage : σ

def artifactReport (colored : Bool) (artifact : PlannedArtifact) (written : Bool) : String :=
  let outcome := if written then painted colored .green "OK" else painted colored .red "FAILED"
  asLine s!"Generating {artifact.path.text}: {outcome}"

/-- Write artifacts in order with a report on each, until one fails. -/
def writeReporting {σ : Type} [Storage σ] (colored : Bool) (storage : σ) :
    List PlannedArtifact → Progress σ
  | [] => ⟨none, "", storage⟩
  | artifact :: rest =>
    match writeArtifact storage artifact with
    | (.ok (), left) =>
      let later := writeReporting colored left rest
      { later with output := artifactReport colored artifact true ++ later.output }
    | (.error error, left) => ⟨some error, artifactReport colored artifact false, left⟩

/-- Show the files of a planned request or write them. -/
def carryOut {σ : Type} [Storage σ] (colored : Bool) (storage : σ)
    (arguments : GenerateArguments) (request : Request) (plan : Plan) : Execution σ :=
  if arguments.stdout then ⟨.ok (), shownFiles plan, storage⟩
  else
    let progress := writeReporting colored storage plan.artifacts
    let failures := progress.failure.toList
    let output := summaryText colored request ++ progress.output ++
      closingText colored (failures.map GenerationError.message)
    match progress.failure with
    | none => ⟨.ok (), output, progress.storage⟩
    | some error => ⟨.error (.writeFailed error), output, progress.storage⟩

/-- Run the command in a project's directory with the content of its configuration file. -/
def generate {σ : Type} [Storage σ] (configFile : Option ByteArray) (directory : Path)
    (colored : Bool) (arguments : GenerateArguments) (input : Option ByteArray) (storage : σ) :
    Execution σ :=
  match Config.load configFile with
  | .error error => ⟨.error (.config error), "", storage⟩
  | .ok config =>
    let resolve := (config.registry directory).resolve
    let taken := Storage.taken storage
    match chooseRequest config resolve taken colored arguments input with
    | (.error error, shown) => ⟨.error error, shown, storage⟩
    | (.ok request, shown) =>
      match planRequest resolve taken request with
      | .error error => ⟨.error error, shown, storage⟩
      | .ok plan =>
        let execution := carryOut colored storage arguments request plan
        { execution with output := shown ++ execution.output }

end DtoScaffold.Command
