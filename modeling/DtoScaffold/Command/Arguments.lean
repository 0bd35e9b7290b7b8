import DtoScaffold.Text.Cut

/-!
# The command line

Arguments are read from left to right and the first problem decides: a request for help or the
version, or a usage error. An option that takes a value finds it after an equals sign, in the rest
of a group of short options, or in the next argument, which must not look like an option. No option
may be given twice.
-/
namespace DtoScaffold.Command

open Text

inductive OptionKind
  | flag
  /-- Takes a value and may have one when it is not given. -/
  | value (default : Option String)
  /-- Ends the reading with the help of the command. -/
  | help
  /-- Ends the reading with the version of the program. -/
  | version
  deriving DecidableEq, Repr

/-- An option of a command by its long name, with its short name if it has one. -/
structure OptionSpec where
  long : String
  short : Option Char
  kind : OptionKind
  description : String
  deriving DecidableEq, Repr

/-- What can be asked of the program as a whole or of one of its commands. -/
structure CommandSpec where
  description : String
  /-- How it is called, after the name of the program. -/
  usage : String
  /-- The commands below it with their descriptions. -/
  commands : List (String × String)
  options : List OptionSpec
  deriving DecidableEq, Repr

/-- Why reading arguments stops early. -/
inductive Stop
  /-- Help on a command is asked for. -/
  | help (command : CommandSpec)
  /-- The version is asked for. -/
  | version
  | usage
  deriving DecidableEq, Repr

/-- The options found so far, each with its value if it takes one. -/
abbrev Found :=
  List (String × Option String)

def record (found : Found) (long : String) (value : Option String) : Except Stop Found :=
  if found.any (·.1 == long) then .error .usage else .ok (found ++ [(long, value)])

/-- Read a group of short options. The last one may wait for a value in the next argument. -/
def shortGroup (command : CommandSpec) (found : Found) :
    List Char → Except Stop (Found × Option String)
  | [] => .ok (found, none)
  | c :: rest =>
    match command.options.find? (·.short == some c) with
    | none => .error .usage
    | some spec =>
      match spec.kind, rest with
      | .help, _ => .error (.help command)
      | .version, _ => .error .version
      | .flag, _ =>
        match record found spec.long none with
        | .ok found => shortGroup command found rest
        | .error stop => .error stop
      | .value _, [] => .ok (found, some spec.long)
      | .value _, '=' :: value | .value _, value =>
        (record found spec.long (some (String.ofList value))).map (·, none)

/-- Read a long option with its name after the two dashes. -/
def longOption (command : CommandSpec) (found : Found) (name : String) :
    Except Stop (Found × Option String) :=
  let (long, value) := match cutAt? '=' name with
    | some (long, value) => (long, some value)
    | none => (name, none)
  match command.options.find? (·.long == long) with
  | none => .error .usage
  | some spec =>
    match spec.kind, value with
    | .value _, some value => (record found long (some value)).map (·, none)
    | .value _, none => .ok (found, some long)
    | .flag, none => (record found long none).map (·, none)
    | .help, none => .error (.help command)
    | .version, none => .error .version
    | _, some _ => .error .usage

/-- Whether an argument can only be an option, and so is no value of the option before it. -/
def looksLikeOption (argument : String) : Bool :=
  argument.toList.head? == some '-' && 1 < argument.length

/-- Read the options of a command, which takes no other arguments. `waiting` is an option whose
value is the next argument. -/
def options (command : CommandSpec) (found : Found) (waiting : Option String) :
    List String → Except Stop Found
  | [] => if waiting.isSome then .error .usage else .ok found
  | argument :: rest =>
    match waiting with
    | some long =>
      if looksLikeOption argument then .error .usage
      else
        match record found long (some argument) with
        | .ok found => options command found none rest
        | .error stop => .error stop
    | none =>
      let read : Except Stop (Found × Option String) := match argument.toList with
        | ['-', '-'] => if rest.isEmpty then .ok (found, none) else .error .usage
        | '-' :: '-' :: name => longOption command found (String.ofList name)
        | '-' :: c :: group => shortGroup command found (c :: group)
        | _ => .error .usage
      match read with
      | .ok (found, waiting) => options command found waiting rest
      | .error stop => .error stop

def flag (found : Found) (long : String) : Bool :=
  found.any (·.1 == long)

def value? (found : Found) (long : String) : Option String :=
  (found.lookup long).join

def verboseSpec : OptionSpec :=
  ⟨"verbose", some 'v', .flag, "Log pipeline steps to stderr"⟩

def helpSpec : OptionSpec :=
  ⟨"help", some 'h', .help, "Print help"⟩

def versionSpec : OptionSpec :=
  ⟨"version", some 'V', .version, "Print version"⟩

structure InitArguments where
  container : String
  path : String
  namespaceText : String
  force : Bool
  deriving DecidableEq, Repr

namespace InitArguments

def defaults : InitArguments :=
  ⟨"AppBundle", "src/AppBundle", "AppBundle", false⟩

def command : CommandSpec where
  description := "Write a starter dtogen.config.json"
  usage := "init [OPTIONS]"
  commands := []
  options :=
    [⟨"container", some 'c', .value defaults.container, "Name of the first bundle"⟩,
      verboseSpec,
      ⟨"path", some 'p', .value defaults.path, "Bundle directory, relative to the project"⟩,
      ⟨"namespace", none, .value defaults.namespaceText, "Namespace prefix of the bundle"⟩,
      ⟨"force", some 'f', .flag, "Force overwrite existing config"⟩,
      helpSpec]

def ofFound (found : Found) : InitArguments :=
  ⟨(value? found "container").getD defaults.container,
    (value? found "path").getD defaults.path,
    (value? found "namespace").getD defaults.namespaceText, flag found "force"⟩

end InitArguments

structure GenerateArguments where
  dto : Option String
  properties : Option String
  rootDirectory : Option String
  withAssembler : Bool
  domainType : Option String
  noInteraction : Bool
  /-- Show the files instead of writing them. -/
  stdout : Bool
  deriving DecidableEq, Repr

namespace GenerateArguments

def command : CommandSpec where
  description := "Generate a DTO class, and optionally its assembler"
  usage := "generate [OPTIONS]"
  commands := []
  options :=
    [⟨"dto", none, .value none, "The DTO shortcut name, e.g. AcmeBlogBundle:Blog/PostDTO"⟩,
      verboseSpec,
      ⟨"properties", none, .value none, "Properties as space separated type:name pairs"⟩,
      ⟨"root", none, .value none,
        "Directory under the bundle where DTOs are placed (overrides config)"⟩,
      ⟨"with-assembler", none, .flag, "Also generate an assembler skeleton"⟩,
      ⟨"domain-type", none, .value none,
        "Domain type used by the assembler (overrides config)"⟩,
      ⟨"no-interaction", some 'n', .flag, "Do not ask any question"⟩,
      ⟨"stdout", none, .flag, "Print generated files instead of writing them"⟩,
      helpSpec]

def ofFound (found : Found) : GenerateArguments :=
  ⟨value? found "dto", value? found "properties", value? found "root",
    flag found "with-assembler", value? found "domain-type", flag found "no-interaction",
    flag found "stdout"⟩

end GenerateArguments

inductive Invocation
  | init (arguments : InitArguments)
  | generate (arguments : GenerateArguments)
  deriving DecidableEq, Repr

def helpCommand : CommandSpec where
  description := "Print this message or the help of the given subcommand(s)"
  usage := "help [COMMAND]"
  commands := []
  options := []

def commandTable : List (String × CommandSpec) :=
  [("init", InitArguments.command), ("generate", GenerateArguments.command),
    ("help", helpCommand)]

def programCommand : CommandSpec where
  description := "DTOGen CLI - scaffold Data Transfer Objects and their assemblers"
  usage := "[OPTIONS] <COMMAND>"
  commands := commandTable.map fun (name, command) => (name, command.description)
  options := [verboseSpec, helpSpec, versionSpec]

/-- A request for help: on the program, or on one command by its name. -/
def helpOn : List String → Stop
  | [] => .help programCommand
  | [name] => (commandTable.lookup name).elim .usage .help
  | _ => .usage

def leading (found : Found) (argument : String) : Except Stop Found :=
  match argument.toList with
  | '-' :: '-' :: name => (longOption programCommand found (String.ofList name)).map Prod.fst
  | '-' :: c :: group => (shortGroup programCommand found (c :: group)).map Prod.fst
  | _ => .error .usage

def parse (found : Found) : List String → Except Stop Invocation
  | [] => .error .usage
  | argument :: rest =>
    if argument == "init" then
      (options InitArguments.command [] none rest).map (.init <| .ofFound ·)
    else if argument == "generate" then
      (options GenerateArguments.command [] none rest).map (.generate <| .ofFound ·)
    else if argument == "help" then .error (helpOn rest)
    else
      match leading found argument with
      | .ok found => parse found rest
      | .error stop => .error stop

end DtoScaffold.Command
