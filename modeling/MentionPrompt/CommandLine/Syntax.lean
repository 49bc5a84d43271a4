import MentionPrompt.CommandLine.Command
import MentionPrompt.CommandLine.Usage

/-!
The options of each command, and what is required of them.

Some options belong to every command and may also stand before it. An option is given at most once;
paths are not empty. A command that shows or checks a template takes it from exactly one source.
-/

namespace MentionPrompt

/-- An option that takes a value. -/
inductive ValueOption where | config | events | text | template | workflow | answers | keys | out
  deriving DecidableEq, Repr

namespace ValueOption

/-- The name of the option, after two hyphens. -/
def name : ValueOption → String
  | .config => "config"
  | .events => "events"
  | .text => "text"
  | .template => "template"
  | .workflow => "workflow"
  | .answers => "answers"
  | .keys => "keys"
  | .out => "out"

/-- The value of the option is a path. -/
def isPath : ValueOption → Bool
  | .text | .keys => false
  | _ => true

end ValueOption

/-- An option without a value. -/
inductive Flag where | json | verbose | help | version
  deriving DecidableEq, Repr

namespace Flag

/-- The name of the flag, after two hyphens. -/
def name : Flag → String
  | .json => "json"
  | .verbose => "verbose"
  | .help => "help"
  | .version => "version"

/-- The flag of a letter, after one hyphen. -/
def ofLetter? : Char → Option Flag
  | 'v' => some .verbose
  | 'h' => some .help
  | 'V' => some .version
  | _ => none

end Flag

/-- The word for a command. -/
inductive CommandWord where | parse | nodes | candidates | validate | resolve | compose
  deriving DecidableEq, Repr

namespace CommandWord

/-- All words for commands. -/
def all : List CommandWord := [.parse, .nodes, .candidates, .validate, .resolve, .compose]

/-- The word as it is written. -/
def name : CommandWord → String
  | .parse => "parse"
  | .nodes => "nodes"
  | .candidates => "candidates"
  | .validate => "validate"
  | .resolve => "resolve"
  | .compose => "compose"

/-- The command that a word names. -/
def ofName? (word : String) : Option CommandWord := all.find? (·.name == word)

end CommandWord

/-- The word that asks for help on a command. -/
def helpWord : String := "help"

/-- What may be given at one level of a command line: before a command, or after it. -/
structure LineSyntax where
  options : List ValueOption
  flags : List Flag
  takesQuery : Bool := false
  takesCommand : Bool := false
  deriving DecidableEq, Repr

namespace LineSyntax

/-- The options that belong to every command. -/
def sharedOptions : List ValueOption := [.config, .events]

/-- The flags that belong to every command. -/
def sharedFlags : List Flag := [.verbose, .help, .version]

/-- What may be given before a command. -/
def beforeCommand : LineSyntax :=
  { options := sharedOptions, flags := sharedFlags, takesCommand := true }

/-- The options of a command of its own. -/
def ownOptions : CommandWord → List ValueOption
  | .parse => [.text, .template]
  | .nodes => [.text, .template, .workflow]
  | .candidates => [.template, .workflow]
  | .validate => [.template, .workflow]
  | .resolve => [.template, .workflow, .answers]
  | .compose => [.keys, .template, .workflow, .out]

/-- What may be given after a command. -/
def afterCommand (word : CommandWord) : LineSyntax :=
  { options := sharedOptions ++ ownOptions word
    flags := sharedFlags ++ (if word = .nodes then [.json] else [])
    takesQuery := word = .candidates }

/-- The option of a name. -/
def option? (line : LineSyntax) (name : String) : Option ValueOption :=
  line.options.find? (·.name == name)

/-- The flag of a name. -/
def flag? (line : LineSyntax) (name : String) : Option Flag := line.flags.find? (·.name == name)

/-- The word is taken as a command here. -/
def isCommand (line : LineSyntax) (word : String) : Bool :=
  line.takesCommand && (word == helpWord || (CommandWord.ofName? word).isSome)

end LineSyntax

/-- What was given at one level. -/
structure LineValues where
  values : List (ValueOption × String) := []
  json : Bool := false
  verbosity : Option Nat := none
  query : Option String := none
  deriving DecidableEq, Repr

namespace LineValues

/-- The value of an option. -/
def value? (given : LineValues) (option : ValueOption) : Option String :=
  given.values.lookup option

/-- Nothing was given. -/
def isEmpty (given : LineValues) : Bool := given.values.isEmpty && given.verbosity.isNone

/-- Adds the value of an option. -/
def addValue (given : LineValues) (option : ValueOption) (value : String) :
    Except Usage LineValues :=
  if (given.value? option).isSome then .error .conflict
  else if option.isPath && value.isEmpty then .error .badValue
  else .ok { given with values := (option, value) :: given.values }

/-- How often verbosity can be asked for. -/
def verbosityLimit : Nat := 255

/-- Adds a flag. -/
def addFlag (given : LineValues) : Flag → Except Usage LineValues
  | .json => if given.json then .error .conflict else .ok { given with json := true }
  | .verbose =>
    let count := given.verbosity.getD 0
    .ok { given with verbosity := some (min (count + 1) verbosityLimit) }
  | .help => .error .help
  | .version => .error .version

/-- An option that must be given. -/
def required (given : LineValues) (option : ValueOption) : Except Usage String :=
  match given.value? option with
  | some value => .ok value
  | none => .error .missingArgument

/-- The one source of a template. -/
def source (given : LineValues) : Except Usage TemplateSource :=
  match given.value? .text, given.value? .template with
  | some _, some _ => .error .conflict
  | some text, none => .ok (.inline text)
  | none, some path => .ok (.file path)
  | none, none => .error .missingArgument

/-- The command that a word and what was given after it make. -/
def command (given : LineValues) (word : CommandWord) : Except Usage Command := do
  let template := given.value? .template
  let workflow := given.value? .workflow
  match word with
  | .parse => return .parse (← given.source)
  | .nodes => return .nodes (← given.source) workflow given.json
  | .candidates => return .candidates (given.query.getD "") template workflow
  | .validate => return .validate (← given.required .template) workflow
  | .resolve => return .resolve (← given.required .template) workflow (given.value? .answers)
  | .compose => return .compose (← given.required .keys) template workflow (given.value? .out)

end LineValues

end MentionPrompt
