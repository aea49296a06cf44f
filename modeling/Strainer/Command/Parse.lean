import Strainer.Command.Error
import Strainer.Command.Similar
import Strainer.Filter.Operator
import Strainer.Pipeline.Format

/-!
# Reading the command line

The arguments are read left to right. `--name value`, `--name=value`, `-n value`, `-nvalue` and
`-n=value` give an option its value; flags can be grouped (`-vh`). An option waiting for its
value takes the next token unless that token looks like an argument itself (a leading `-`,
negative numbers included). `--` ends the arguments; the command takes no other values, so any
token after it is refused, as is a value that no option waits for. The value an
option took is read when the next argument is met, or at the end: so a bad value is reported
before a later unknown argument only when that argument is known. Help and the version stop the
reading when they are met.

After the tokens, the filters file is taken from its environment variable and the output from
its default when they were not given. Then the arguments are checked: no two that exclude each
other (the first given is named), then every required argument, including those that given ones
need.
-/

namespace Strainer.Command

open Strainer.Filter Pipeline

/-- A value read for an argument. -/
inductive Setting where
  | text (s : String)
  | count (n : Nat)
  | grammar (g : Grammar)
  | inputFormat (f : InputFormat)
  | outputFormat (f : OutputFormat)
  | flag
  deriving DecidableEq, Repr

/-- Where an argument came from. -/
inductive Source where
  | commandLine
  | environment
  | default
  deriving DecidableEq, Repr

/-- An argument met, and its value once read. -/
structure Entry where
  arg : Arg
  source : Source
  setting : Option Setting := none
  deriving DecidableEq, Repr

/-- The arguments met so far, in the order first met, and the option waiting for its value. -/
structure Matches where
  entries : List Entry := []
  pending : Option (Arg × List String) := none
  deriving DecidableEq, Repr

/-- Where the reader stands between tokens. -/
inductive Mode where
  | free
  | expecting (a : Arg)
  deriving DecidableEq, Repr

/-- A count as unsigned 64-bit text: digits after an optional `+`, read left to right. -/
def readCount (s : String) : Except String Nat :=
  match s.toList with
  | [] => .error "cannot parse integer from empty string"
  | ['+'] | ['-'] => .error "invalid digit found in string"
  | cs =>
    let ds := match cs with
      | '+' :: r => r
      | r => r
    ds.foldlM (fun acc c =>
      if c.isDigit then
        let n := 10 * acc + (c.toNat - '0'.toNat)
        if n ≥ Nat.pow 2 64 then .error "number too large to fit in target type" else .ok n
      else .error "invalid digit found in string") 0

/-- The choice named by `v`, by its name or another spelling. -/
def pickChoice (choices : List (String × List String)) (v : String) : Option String :=
  (choices.find? fun (n, others) => n == v || others.contains v).map (·.1)

/-- Reads the value of an option. -/
def readValue (a : Arg) (v : String) : Except ArgError Setting :=
  match a with
  | .input | .filters | .output => if v.isEmpty then .error (.noValue a) else .ok (.text v)
  | .filter | .name => .ok (.text v)
  | .format | .inputFormat =>
    let choices := (a.choices?).getD []
    match pickChoice choices v with
    | some "parquet" => .ok (if a = .format then .outputFormat .parquet else .inputFormat .parquet)
    | some _ => .ok (if a = .format then .outputFormat .jsonl else .inputFormat .jsonl)
    | none =>
      if v.isEmpty then .error (.noValue a)
      else .error (.badChoice a v (closestWord? v (choices.map (·.1))))
  | .grammar => match Grammar.parse v with
    | .ok g => .ok (.grammar g)
    | .error m => .error (.badValue a v m)
  | .batchSize | .limit | .threads => match readCount v with
    | .ok n => .ok (.count n)
    | .error m => .error (.badValue a v m)
  | .verbose | .help | .version => .ok .flag

namespace Matches

def has (m : Matches) (a : Arg) : Bool := m.entries.any (·.arg == a)

/-- The arguments given, on the command line or by the environment, in the order met. -/
def given (m : Matches) : List Arg :=
  (m.entries.filter (·.source != .default)).map (·.arg)

def isGiven (m : Matches) (a : Arg) : Bool := m.given.contains a

/-- The matches with `a` met, keeping its place if it was met before. -/
def start (m : Matches) (a : Arg) (src : Source) : Matches :=
  if m.has a then { m with entries := m.entries.map fun e => if e.arg == a then { e with source := src } else e }
  else { m with entries := m.entries ++ [{ arg := a, source := src }] }

def setValue (m : Matches) (a : Arg) (s : Setting) : Matches :=
  { m with entries := m.entries.map fun e => if e.arg == a then { e with setting := some s } else e }

def remove (m : Matches) (a : Arg) : Matches :=
  { m with entries := m.entries.filter (·.arg != a) }

/-- The value of an argument, if it was read. -/
def setting? (m : Matches) (a : Arg) : Option Setting :=
  (m.entries.find? (·.arg == a)).bind (·.setting)

end Matches

/-- Takes in an argument with its values, the pending option already settled. The matches are
returned also when it fails, as they then stand. -/
def take (env : Option String) (m : Matches) (a : Arg) (src : Source) (vals : List String) :
    Matches × Except ArgError Unit :=
  if src = .commandLine ∧ a.takesValue ∧ vals.isEmpty then (m, .error (.noValue a))
  else match a with
    | .help => (m, .error (.help (helpText env)))
    | .version => (m, .error .version)
    | _ =>
      if m.has a then (m.remove a, .error (.repeated a))
      else
        let m := m.start a src
        if a.takesValue then
          match readValue a (vals.headD "") with
          | .ok s => (m.setValue a s, .ok ())
          | .error e => (m, .error e)
        else (m.setValue a .flag, .ok ())

/-- Settles the option waiting for its value. -/
def settle (env : Option String) (m : Matches) : Matches × Except ArgError Unit :=
  match m.pending with
  | none => (m, .ok ())
  | some (a, vals) => take env { m with pending := none } a .commandLine vals

/-- Settles the pending option, then takes in an argument. -/
def react (env : Option String) (m : Matches) (a : Arg) (src : Source) (vals : List String) :
    Matches × Except ArgError Unit :=
  match settle env m with
  | (m, .error e) => (m, .error e)
  | (m, .ok ()) => take env m a src vals

/-- The usage line naming the given arguments, or the general one when none is given. -/
def usageOfGiven (given : List Arg) : String :=
  if given.isEmpty then generalUsage else usageNaming Arg.required given

/-- The error for an unknown long argument: a similar argument is offered and counted as
given for the usage line. -/
def unknownLong (env : Option String) (m : Matches) (name : String) : ArgError :=
  let (m, _) := settle env m
  let tip := closestWord? name (Arg.all.map (·.long))
  let m := match tip.bind Arg.ofLong? with
    | some a => m.start a .commandLine
    | none => m
  .unknown ("--" ++ name) (tip.map ("--" ++ ·)) (usageOfGiven m.given)

/-- The state of reading between tokens. -/
structure Reader where
  found : Matches := {}
  mode : Mode := .free
  /-- After `--`: no token is an argument. -/
  trailing : Bool := false

/-- Reads grouped short flags after their `-`. -/
def readShorts (env : Option String) (r : Reader) : List Char → Except ArgError Reader
  | [] => .ok { r with mode := .free }
  | c :: rest =>
    match Arg.ofShort? c with
    | none => .error (.unknown ("-" ++ String.singleton c) none generalUsage)
    | some a =>
      if a.takesValue then
        let attached := match rest with
          | '=' :: v => v
          | v => v
        if attached.isEmpty then
          match settle env r.found with
          | (_, .error e) => .error e
          | (m, .ok ()) => .ok { r with found := { m with pending := some (a, []) }, mode := .expecting a }
        else
          match react env r.found a .commandLine [String.ofList attached] with
          | (_, .error e) => .error e
          | (m, .ok ()) => .ok { r with found := m, mode := .free }
      else
        match react env r.found a .commandLine [] with
        | (_, .error e) => .error e
        | (m, .ok ()) => readShorts env { r with found := m } rest

/-- Reads a long argument `--name` or `--name=value`. -/
def readLong (env : Option String) (r : Reader) (name : String) (value : Option String) :
    Except ArgError Reader :=
  if name.isEmpty then .error (.internal "internal error: entered unreachable code: `to_long` always has the flag specified")
  else match Arg.ofLong? name with
    | none => .error (unknownLong env r.found name)
    | some a =>
      if a.takesValue then
        match value with
        | some v =>
          match react env r.found a .commandLine [v] with
          | (_, .error e) => .error e
          | (m, .ok ()) => .ok { r with found := m, mode := .free }
        | none =>
          match settle env r.found with
          | (_, .error e) => .error e
          | (m, .ok ()) => .ok { r with found := { m with pending := some (a, []) }, mode := .expecting a }
      else
        match value with
        | some v =>
          let used := r.found.given ++ [a]
          .error (.extraValue a v (usageOfGiven used))
        | none =>
          match react env r.found a .commandLine [] with
          | (_, .error e) => .error e
          | (m, .ok ()) => .ok { r with found := m, mode := .free }

/-- Reads a token that is a value. -/
def readValueToken (r : Reader) (t : String) : Except ArgError Reader :=
  match r.mode with
  | .expecting a =>
    let vals := match r.found.pending with
      | some (_, vs) => vs
      | none => []
    .ok { r with found := { r.found with pending := some (a, vals ++ [t]) }, mode := .free }
  | .free => .error (.unknown t none generalUsage)

/-- Reads one token. -/
def readToken (env : Option String) (r : Reader) (t : String) : Except ArgError Reader :=
  if r.trailing then .error (.unknown t none generalUsage)
  else if t = "--" then .ok { r with trailing := true }
  else
    match t.toList with
    | '-' :: '-' :: rest =>
      let name := String.ofList (rest.takeWhile (· ≠ '='))
      let value := if rest.contains '=' then some (String.ofList ((rest.dropWhile (· ≠ '=')).drop 1)) else none
      readLong env r name value
    | '-' :: c :: rest => readShorts env r (c :: rest)
    | _ => readValueToken r t

/-- Reads every token. -/
def readTokens (env : Option String) (r : Reader) : List String → Except ArgError Reader
  | [] => .ok r
  | t :: ts => do readTokens env (← readToken env r t) ts

/-- The arguments that given ones need, with the required ones first. -/
def neededArgs (m : Matches) : List Arg :=
  let extra := (m.given.flatMap Arg.requires).filter fun a => !Arg.required.contains a
  Arg.required ++ extra.foldl (fun acc a => if acc.contains a then acc else acc ++ [a]) []

/-- The first given argument that excludes, or is excluded by, another given one. -/
def firstConflict (m : Matches) : Option (Arg × Arg) :=
  m.given.findSome? fun a =>
    (m.given.find? fun b => b != a && (a.conflicts.contains b || b.conflicts.contains a)).map (a, ·)

/-- Checks exclusions and requirements. -/
def check (m : Matches) : Except ArgError Unit :=
  match firstConflict m with
  | some (a, b) =>
    let used := m.given.filter (· != b)
    let needs := (used.flatMap Arg.requires).filter fun x => !used.contains x && x != b
    .error (.conflict a b (usageNaming Arg.required (needs ++ used)))
  | none =>
    let needed := neededArgs m
    let missing := needed.filter fun a => !m.isGiven a
    if missing.isEmpty then .ok ()
    else
      let listed := usageArgs needed missing m.isGiven
      .error (.missing listed (usageNaming needed (m.given ++ missing)))

/-- The settings after the tokens: the pending option settled, the environment and the defaults
applied, and the checks passed. -/
def finishMatches (env : Option String) (m : Matches) : Except ArgError Matches := do
  let m ← match settle env m with
    | (_, .error e) => throw e
    | (m, .ok ()) => pure m
  let m ← match env with
    | some v =>
      if m.has .filters then pure m
      else match react env m .filters .environment [v] with
        | (_, .error e) => throw e
        | (m, .ok ()) => pure m
    | none => pure m
  let m ← if m.has .output then pure m
    else match react env m .output .default [(Arg.output.default?).getD "-"] with
      | (_, .error e) => throw e
      | (m, .ok ()) => pure m
  check m
  pure m

/-- Reads the command line; `env` is the value of the filters file's environment variable. -/
def readMatches (env : Option String) (args : List String) : Except ArgError Matches := do
  let r ← readTokens env {} args
  finishMatches env r.found

/-- The settings of a run, as the command line gives them. -/
structure Options where
  input : String
  filter : Option String := none
  name : Option String := none
  filters : Option String := none
  output : String := "-"
  format : Option OutputFormat := none
  inputFormat : Option InputFormat := none
  grammar : Option Grammar := none
  batchSize : Option Nat := none
  limit : Option Nat := none
  threads : Option Nat := none
  verbose : Bool := false
  deriving DecidableEq, Repr

namespace Options

def textOf (m : Matches) (a : Arg) : Option String :=
  match m.setting? a with
  | some (.text s) => some s
  | _ => none

def countOf (m : Matches) (a : Arg) : Option Nat :=
  match m.setting? a with
  | some (.count n) => some n
  | _ => none

/-- The settings the matches hold. -/
def ofMatches (m : Matches) : Options where
  input := (textOf m .input).getD ""
  filter := textOf m .filter
  name := textOf m .name
  filters := textOf m .filters
  output := (textOf m .output).getD "-"
  format := match m.setting? .format with
    | some (.outputFormat f) => some f
    | _ => none
  inputFormat := match m.setting? .inputFormat with
    | some (.inputFormat f) => some f
    | _ => none
  grammar := match m.setting? .grammar with
    | some (.grammar g) => some g
    | _ => none
  batchSize := countOf m .batchSize
  limit := countOf m .limit
  threads := countOf m .threads
  verbose := m.has .verbose

/-- Reads the command line (the arguments after the command's name); `env` is the value of the
filters file's environment variable, if it is set. -/
def parse (env : Option String) (args : List String) : Except ArgError Options :=
  (readMatches env args).map ofMatches

end Options

end Strainer.Command
