import MentionPrompt.CommandLine.Syntax

/-!
Reading a command line.

The arguments are read from left to right, first those before the command and then those after it. An
option takes its value after an equals sign, or else from the next argument, unless that looks like an
option; the value is looked at when the next option or the end is reached, so a fault in between is
reported first. After two hyphens nothing looks like an option. Of an option before and after the
command, the later one counts.
-/

namespace MentionPrompt

/-- An option whose value was not looked at yet. -/
structure PendingOption where
  option : ValueOption
  value : Option String := none
  deriving DecidableEq, Repr

/-- One level of a command line, partly read. -/
structure LineReader where
  line : LineSyntax
  given : LineValues := {}
  pending : Option PendingOption := none
  pastHyphens : Bool := false

namespace LineReader

/-- The next argument is the value of an option. -/
def awaitsValue (reader : LineReader) : Bool := reader.pending.any (·.value.isNone)

/-- Looks at the value that is pending. -/
def settle (reader : LineReader) : Except Usage LineReader :=
  match reader.pending with
  | none => .ok reader
  | some ⟨_, none⟩ => .error .badValue
  | some ⟨option, some value⟩ => do
    return { reader with given := ← reader.given.addValue option value, pending := none }

/-- A flag. -/
def takeFlag (reader : LineReader) (flag : Flag) : Except Usage LineReader := do
  let reader ← reader.settle
  return { reader with given := ← reader.given.addFlag flag }

/-- An option by its name, perhaps with its value. -/
def takeOption (reader : LineReader) (name : String) (value : Option String) :
    Except Usage LineReader :=
  match reader.line.option? name, reader.line.flag? name, value with
  | some option, _, some value => do
    let reader ← reader.settle
    return { reader with given := ← reader.given.addValue option value }
  | some option, _, none => do
    return { (← reader.settle) with pending := some { option } }
  | none, some flag, none => reader.takeFlag flag
  | none, some _, some _ => .error .surplusValue
  | none, none, _ => .error .unknownArgument

/-- Flags by their letters. -/
def takeLetters (reader : LineReader) (letters : List Char) : Except Usage LineReader :=
  letters.foldlM
    (fun reader letter =>
      match Flag.ofLetter? letter with
      | some flag => reader.takeFlag flag
      | none => .error .unknownArgument)
    reader

/-- A word that is no value of an option. -/
def takePlain (reader : LineReader) (word : String) : Except Usage LineReader :=
  if reader.line.takesQuery && reader.given.query.isNone then do
    let reader ← reader.settle
    return { reader with given := { reader.given with query := some word } }
  else if reader.line.takesCommand && !(reader.pastHyphens && reader.line.isCommand word) then
    .error .unknownCommand
  else .error .unknownArgument

/-- An argument that does not look like an option. -/
def takeWord (reader : LineReader) (word : String) : Except Usage LineReader :=
  match reader.pending with
  | some ⟨option, none⟩ =>
    if reader.pastHyphens then reader.takePlain word
    else .ok { reader with pending := some ⟨option, some word⟩ }
  | _ => reader.takePlain word

/-- Any argument that is no command. -/
def take (reader : LineReader) (argument : String) : Except Usage LineReader :=
  if reader.pastHyphens then reader.takeWord argument
  else match argument.toList with
    | ['-', '-'] => .ok { reader with pastHyphens := true }
    | '-' :: '-' :: rest =>
      let name := String.ofList (rest.takeWhile (· != '='))
      let value := match rest.dropWhile (· != '=') with
        | _ :: value => some (String.ofList value)
        | [] => none
      reader.takeOption name value
    | '-' :: letter :: letters => reader.takeLetters (letter :: letters)
    | _ => reader.takeWord argument

/-- The argument is a command. -/
def startsCommand (reader : LineReader) (argument : String) : Bool :=
  !reader.pastHyphens && !reader.awaitsValue && reader.line.isCommand argument

/-- Reads up to a command: the arguments before it, and those from it on. -/
def readToCommand (reader : LineReader) : List String → Except Usage (LineReader × List String)
  | [] => .ok (reader, [])
  | argument :: rest =>
    if reader.startsCommand argument then .ok (reader, argument :: rest)
    else do (← reader.take argument).readToCommand rest

end LineReader

namespace Invocation

/-- The answer to a request for help, which may name a command. -/
def helpUsage : List String → Usage
  | [] => .help
  | [word] => if LineSyntax.beforeCommand.isCommand word then .help else .unknownCommand
  | _ => .unknownCommand

/-- Reads the arguments of a command. -/
def readCommand (word : CommandWord) (arguments : List String) :
    Except Usage (LineValues × Command) := do
  let (reader, _) ←
    LineReader.readToCommand { line := LineSyntax.afterCommand word } arguments
  let given := (← reader.settle).given
  return (given, ← given.command word)

/-- Reads a command line, without the name of the program. -/
def ofArguments (arguments : List String) : Except Usage Invocation := do
  let (reader, rest) ← LineReader.readToCommand { line := LineSyntax.beforeCommand } arguments
  match rest with
  | [] =>
    let given := (← reader.settle).given
    .error (if given.isEmpty then .nothingAsked else .missingCommand)
  | word :: rest =>
    match CommandWord.ofName? word with
    | none => .error (helpUsage rest)
    | some word =>
      let (own, command) ← readCommand word rest
      let shared := (← reader.settle).given
      let value (option : ValueOption) := own.value? option <|> shared.value? option
      return {
        config := value .config
        events := value .events
        verbosity := (own.verbosity <|> shared.verbosity).getD 0
        command }

end Invocation

end MentionPrompt
