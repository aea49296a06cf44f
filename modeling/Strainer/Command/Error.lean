import Strainer.Command.Help

/-!
# Errors of the command line

Why the arguments were not accepted, or the request for help or the version that stops reading
them. Each error is shown as `error: ` and what went wrong, then any tip, the usage line when the
error has one, and a pointer to the help; help and the version are shown as their own text.
-/

namespace Strainer.Command

/-- Why reading the arguments stopped. -/
inductive ArgError where
  /-- Help was asked for; the help text. -/
  | help (text : String)
  /-- The version was asked for. -/
  | version
  /-- A token is no known argument; a similar argument, and the usage line. -/
  | unknown (token : String) (tip : Option String) (usage : String)
  /-- An option got no value, or an empty one where that is not allowed. -/
  | noValue (a : Arg)
  /-- A choice got a value it does not offer; a similar choice. -/
  | badChoice (a : Arg) (value : String) (tip : Option String)
  /-- A value could not be read; the reason. -/
  | badValue (a : Arg) (value : String) (reason : String)
  /-- An argument was given twice. -/
  | repeated (a : Arg)
  /-- Two arguments that exclude each other were given; the usage line. -/
  | conflict (a b : Arg) (usage : String)
  /-- Required arguments are missing; the usage line. -/
  | missing (args : List Arg) (usage : String)
  /-- A flag was given a value; the usage line. -/
  | extraValue (a : Arg) (value : String) (usage : String)
  /-- The reader met a case it has no rule for; its text. -/
  | internal (text : String)
  deriving DecidableEq, Repr

namespace ArgError

/-- The name of the kind of error. -/
def kind : ArgError → String
  | help _ => "DisplayHelp"
  | version => "DisplayVersion"
  | unknown .. => "UnknownArgument"
  | noValue _ | badChoice .. => "InvalidValue"
  | badValue .. => "ValueValidation"
  | repeated _ | conflict .. => "ArgumentConflict"
  | missing .. => "MissingRequiredArgument"
  | extraValue .. => "TooManyValues"
  | internal _ => "Internal"

/-- Does the error only carry text asked for, to be shown as the normal output? -/
def isRequestedText : ArgError → Bool
  | help _ | version => true
  | _ => false

/-- The choices of an option, as an error lists them. -/
def choiceList (a : Arg) : String :=
  match a.choices? with
  | some cs => "\n  [possible values: " ++ ", ".intercalate (cs.map (·.1)) ++ "]"
  | none => ""

def tipText (what : String) : Option String → String
  | some s => "\n\n  tip: a similar " ++ what ++ " exists: '" ++ s ++ "'"
  | none => ""

def usageText (usage : String) : String := "\n\nUsage: " ++ usage

/-- What went wrong, with tips and usage. -/
def body : ArgError → String
  | help t => t
  | version => versionText
  | unknown t tip usage =>
    "unexpected argument '" ++ t ++ "' found" ++ tipText "argument" tip ++ usageText usage
  | noValue a => "a value is required for '" ++ a.display ++ "' but none was supplied" ++ choiceList a
  | badChoice a v tip =>
    "invalid value '" ++ v ++ "' for '" ++ a.display ++ "'" ++ choiceList a ++ tipText "value" tip
  | badValue a v reason => "invalid value '" ++ v ++ "' for '" ++ a.display ++ "': " ++ reason
  | repeated a =>
    "the argument '" ++ a.display ++ "' cannot be used multiple times" ++ usageText generalUsage
  | conflict a b usage =>
    "the argument '" ++ a.display ++ "' cannot be used with '" ++ b.display ++ "'" ++ usageText usage
  | missing args usage =>
    "the following required arguments were not provided:" ++
      String.join (args.map fun a => "\n  " ++ a.display) ++ usageText usage
  | extraValue a v usage =>
    "unexpected value '" ++ v ++ "' for '" ++ a.display ++ "' found; no more were expected" ++
      usageText usage
  | internal t => t

/-- The error as it is shown. -/
def render (e : ArgError) : String :=
  if e.isRequestedText then e.body
  else if let internal t := e then t
  else "error: " ++ e.body ++ "\n\nFor more information, try '--help'.\n"

end ArgError

end Strainer.Command
