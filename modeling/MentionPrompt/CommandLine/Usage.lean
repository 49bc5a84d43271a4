/-!
Why a command line is not carried out: it asks for help or for the version, or it is at fault.
-/

namespace MentionPrompt

/-- Why a command line is not carried out. -/
inductive Usage where
  | help
  | version
  | nothingAsked
  | missingCommand
  | unknownCommand
  | unknownArgument
  | missingArgument
  | conflict
  | badValue
  | surplusValue
  deriving DecidableEq, Repr

namespace Usage

/-- Asking for help or for the version is no fault. -/
def isAnswer : Usage → Bool
  | .help | .version => true
  | _ => false

/-- The exit code of a run that ends so. -/
def exitCode (usage : Usage) : Nat := if usage.isAnswer then 0 else 2

/-- What the user is told. -/
def message : Usage → String
  | .help | .nothingAsked =>
    "commands: parse, nodes, candidates, validate, resolve, compose\n" ++
      "options: --config FILE, --events FILE, -v, --help, --version"
  | .version => "0.1.0"
  | .missingCommand => "a command is missing"
  | .unknownCommand => "there is no such command"
  | .unknownArgument => "there is no such argument"
  | .missingArgument => "an argument is missing"
  | .conflict => "an argument cannot be used with another"
  | .badValue => "the value of an option is missing or not allowed"
  | .surplusValue => "an option takes no value"

end Usage

end MentionPrompt
