import OrderDesk.CommandLine

/-!
# Help

What a reader is told who asks for help, or whose arguments cannot be read.
-/

namespace OrderDesk

/-- The wording of a usage error. -/
def UsageError.message : UsageError → String
  | helpRequested => "help requested"
  | versionRequested => "version requested"
  | unknownArgument => "unexpected argument"
  | repeatedOption => "an option is given more than once"
  | invalidValue => "a value is missing or is none of those to choose from"
  | invalidNumber => "a value is not a number in range"
  | unexpectedValue => "a value stands where none is taken"

/-- The wording of a refusal. -/
def Refusal.message : Refusal → String
  | usage error => s!"error: {error.message}"
  | settings error => s!"error: invalid configuration: {error.message}"

/-- What is told about one option. -/
def Key.helpLine (key : Key) : String :=
  s!"  --{key.name} <VALUE>  {key.help} [env: {key.environmentName}]"

/-- What is told about all options. -/
def CommandLine.help : String :=
  String.intercalate "\n" ("Usage: order-desk [OPTIONS]" :: "" :: Key.all.map Key.helpLine)

end OrderDesk
