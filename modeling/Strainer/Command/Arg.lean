/-!
# The arguments of the command line

The options the command accepts, in the order its help lists them: each with its short and long
spelling, the placeholder of the value it takes (flags take none), its line of help, and the
rules between them: `--filter` cannot be used with `--name`, and `--name` needs `--filters`.
The filters file may also be given by an environment variable, and the output defaults to the
standard output. An argument is shown by its long spelling and placeholder, `--input <INPUT>`.
-/

namespace Strainer.Command

/-- An argument of the command line. -/
inductive Arg where
  | input
  | filter
  | name
  | filters
  | output
  | format
  | inputFormat
  | grammar
  | batchSize
  | limit
  | threads
  | verbose
  | help
  | version
  deriving DecidableEq, Repr

namespace Arg

/-- Every argument, in the order of the help. -/
def all : List Arg :=
  [input, filter, name, filters, output, format, inputFormat, grammar, batchSize, limit, threads,
    verbose, help, version]

def short? : Arg → Option Char
  | input => some 'i'
  | filter => some 'e'
  | name => some 'n'
  | filters => some 'f'
  | output => some 'o'
  | threads => some 't'
  | verbose => some 'v'
  | help => some 'h'
  | version => some 'V'
  | _ => none

def long : Arg → String
  | input => "input"
  | filter => "filter"
  | name => "name"
  | filters => "filters"
  | output => "output"
  | format => "format"
  | inputFormat => "input-format"
  | grammar => "grammar"
  | batchSize => "batch-size"
  | limit => "limit"
  | threads => "threads"
  | verbose => "verbose"
  | help => "help"
  | version => "version"

/-- The placeholder of the value an option takes; flags take none. -/
def placeholder? : Arg → Option String
  | input => some "INPUT"
  | filter => some "FILTER"
  | name => some "NAME"
  | filters => some "FILTERS"
  | output => some "OUTPUT"
  | format => some "FORMAT"
  | inputFormat => some "INPUT_FORMAT"
  | grammar => some "GRAMMAR"
  | batchSize => some "BATCH_SIZE"
  | limit => some "LIMIT"
  | threads => some "THREADS"
  | _ => none

/-- Does the argument take a value? -/
def takesValue (a : Arg) : Bool := a.placeholder?.isSome

/-- The argument as messages show it: `--input <INPUT>`, or `--verbose` for a flag. -/
def display (a : Arg) : String :=
  match a.placeholder? with
  | some p => "--" ++ a.long ++ " <" ++ p ++ ">"
  | none => "--" ++ a.long

/-- The arguments this one cannot be used with. -/
def conflicts : Arg → List Arg
  | filter => [name]
  | _ => []

/-- The arguments this one needs. -/
def requires : Arg → List Arg
  | name => [filters]
  | _ => []

/-- The arguments that must always be given. -/
def required : List Arg := [input]

/-- The environment variable an argument may be taken from. -/
def envVar? : Arg → Option String
  | filters => some "ROWSIFT_FILTERS"
  | _ => none

/-- The value an argument has when it is not given. -/
def default? : Arg → Option String
  | output => some "-"
  | _ => none

/-- The names a choice takes, as the help lists them, with the other spellings each accepts. -/
def choices? : Arg → Option (List (String × List String))
  | format => some [("jsonl", ["json"]), ("parquet", [])]
  | inputFormat => some [("jsonl", []), ("parquet", [])]
  | _ => none

/-- The argument with this long spelling. -/
def ofLong? (s : String) : Option Arg := all.find? (·.long == s)

/-- The argument with this short spelling. -/
def ofShort? (c : Char) : Option Arg := all.find? (·.short? == some c)

end Arg

end Strainer.Command
