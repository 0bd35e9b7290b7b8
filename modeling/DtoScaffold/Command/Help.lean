import DtoScaffold.Command.Arguments
import DtoScaffold.Dialog

/-!
# Help

The help of a command says what the command is for and how it is called, and lists the commands and
options that it takes. A list has two columns, and the first is as wide as its longest entry needs.
-/
namespace DtoScaffold.Command

open Text

namespace OptionSpec

def placeholder (spec : OptionSpec) : String :=
  spec.long.map fun c => if c == '-' then '_' else c.toUpper

/-- How the option is given. Long names stand in one column, whether a short one precedes or not. -/
def synopsis (spec : OptionSpec) : String :=
  let short := match spec.short with
    | some c => String.ofList ['-', c, ',', ' ']
    | none => "    "
  match spec.kind with
  | .value _ => short ++ "--" ++ spec.long ++ " <" ++ spec.placeholder ++ ">"
  | _ => short ++ "--" ++ spec.long

/-- What the option is for, and its value when it is not given. -/
def explanation (spec : OptionSpec) : String :=
  match spec.kind with
  | .value (some default) => spec.description ++ " [default: " ++ default ++ "]"
  | _ => spec.description

end OptionSpec

/-- A list of entries with explanations below a heading; nothing without entries. -/
def helpList (heading : String) (entries : List (String × String)) : String :=
  if entries.isEmpty then ""
  else
    let width := widest (entries.map Prod.fst) + 2
    let rows := entries.map fun (entry, explanation) =>
      asLine ("  " ++ padded width entry ++ explanation)
    asLine "" ++ asLine (heading ++ ":") ++ String.join rows

def CommandSpec.helpText (command : CommandSpec) : String :=
  asLine command.description ++ asLine "" ++ asLine ("Usage: dtogen " ++ command.usage) ++
    helpList "Commands" command.commands ++
    helpList "Options" (command.options.map fun spec => (spec.synopsis, spec.explanation))

/-- What is shown when reading the arguments stops early. -/
def Stop.text : Stop → String
  | help command => command.helpText
  | version => asLine "dtogen 0.1.0"
  | usage => programCommand.helpText

end DtoScaffold.Command
