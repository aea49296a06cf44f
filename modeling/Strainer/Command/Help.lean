import Strainer.Command.Arg

/-!
# Help and usage text

The help lists every argument on a line of its own: the short spelling, the long spelling with
its placeholder padded to the widest of them, and the help with its notes (the environment
variable and its value, the default, the choices). A usage line names the command and the
arguments a message is about; without any, it shows the options placeholder and the required
arguments.
-/

namespace Strainer.Command

/-- The command's name. -/
def commandName : String := "rowsift"

/-- The version line. -/
def versionText : String := commandName ++ " 0.1.0\n"

namespace Arg

/-- The help of an argument, with its notes; `env` is the value of its environment variable. -/
def helpLine (env : Option String) : Arg → String
  | input => "Input file (.jsonl, .parquet)"
  | filter => "Filter expression, e.g. \"([Name] == 'a') || ([Number] > 2)\""
  | name => "Name of a filter defined in the filters file"
  | filters => "Filter configuration file (YAML) [env: ROWSIFT_FILTERS=" ++ env.getD "" ++ "]"
  | output => "Output file (.jsonl, .parquet), or - for stdout [default: -]"
  | format => "Output format (auto-detected if omitted) [possible values: jsonl, parquet]"
  | inputFormat => "Input format (auto-detected if omitted) [possible values: jsonl, parquet]"
  | grammar => "Operator table: compatible (bare `<` reads as `<=`) or strict"
  | batchSize => "Rows read and evaluated per batch"
  | limit => "Stop after this many matching rows"
  | threads => "Number of threads (default: all cores)"
  | verbose => "Enable verbose output"
  | help => "Print help"
  | version => "Print version"

/-- The long spelling with its placeholder, as the help lists it. -/
def spec (a : Arg) : String := a.display

end Arg

/-- The usage of the command with the options placeholder and the required arguments. -/
def generalUsage : String :=
  commandName ++ " [OPTIONS]" ++ String.join (Arg.required.map fun a => " " ++ a.display)

/-- The arguments a usage line names: those `required` needs and the required ones themselves,
then `included`, each once, leaving out those `present` says are given. -/
def usageArgs (required included : List Arg) (present : Arg → Bool) : List Arg :=
  let wanted := required.flatMap (fun a => a.requires ++ [a]) ++ included
  (wanted.foldl (fun acc a => if acc.contains a then acc else acc ++ [a]) []).filter (!present ·)

/-- A usage line naming `used` after what is required. -/
def usageNaming (required used : List Arg) : String :=
  commandName ++ String.join ((usageArgs required used fun _ => false).map fun a => " " ++ a.display)

/-- The full help; `env` is the value of the filters file's environment variable. -/
def helpText (env : Option String) : String :=
  let width := (Arg.all.map fun a => a.spec.length).foldl max 0
  let line (a : Arg) : String :=
    let shortPart := match a.short? with
      | some c => "-" ++ String.singleton c ++ ", "
      | none => "    "
    "  " ++ shortPart ++ a.spec ++ String.ofList (List.replicate (width - a.spec.length + 2) ' ') ++
      a.helpLine env ++ "\n"
  "Usage: " ++ generalUsage ++ "\n\nOptions:\n" ++ String.join (Arg.all.map line)

end Strainer.Command
