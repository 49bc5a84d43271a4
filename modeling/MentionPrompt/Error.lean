import MentionPrompt.Resolution.Prompt
import MentionPrompt.Storage.FileError
import MentionPrompt.Text.Blank
import MentionPrompt.Validation.Report

/-!
Everything that can go wrong in a run, its class, its wording and its exit code.

There are four classes: mistakes of the user, templates that do not validate, prompts that cannot be
resolved, and files that cannot be written. Each class has an exit code of its own.
-/

namespace MentionPrompt

/-- The class of an error. -/
inductive ErrorClass where | user | validation | resolution | io
  deriving DecidableEq, Repr

/-- The exit code of a run that fails so. -/
def ErrorClass.exitCode : ErrorClass → Nat
  | .user => 1
  | .validation => 2
  | .resolution => 3
  | .io => 4

/-- An error of the class for the user. -/
def ErrorClass.message (cls : ErrorClass) (detail : String) : String :=
  match cls with
  | .user => detail
  | .validation => "Validation failed: " ++ detail
  | .resolution => "Resolution failed:\n" ++ detail
  | .io => "I/O failed: " ++ detail

/-- The documents that a run reads. -/
inductive DocumentKind where | template | workflow | answers | config
  deriving DecidableEq, Repr

/-- The name of the document. -/
def DocumentKind.name : DocumentKind → String
  | .template => "template"
  | .workflow => "workflow"
  | .answers => "answers"
  | .config => "config"

/-- The actions that look at a whole template, and fail if its report is not clean. -/
inductive Gate where | validate | resolve
  deriving DecidableEq, Repr

/-- The steps of writing a file or a log. -/
inductive WriteStep where
  | createParent
  | createTemporary
  | writeTemporary
  | replace
  | createLogDirectory
  | openLog
  | writeLog
  | syncLog
  deriving DecidableEq, Repr

/-- What failed, up to the path. -/
def WriteStep.attempt : WriteStep → String
  | .createParent => "failed to create parent directory"
  | .createTemporary => "failed to create temporary file"
  | .writeTemporary => "failed to write temporary file"
  | .replace => "failed to atomically replace"
  | .createLogDirectory => "failed to create events directory"
  | .openLog => "failed to open events file"
  | .writeLog => "failed to write event to"
  | .syncLog => "failed to sync events file"

/-- What can go wrong. -/
inductive PromptError where
  | unreadable (kind : DocumentKind) (path : String) (cause : FileError)
  | malformed (kind : DocumentKind)
  | unwritableStep (stepName : String)
  | unwritableMedia (mediaId : String)
  | mediaAttached (mediaId : String)
  | displayNameTaken (name mediaId : String)
  | emptySeparator
  | zeroCandidates
  | blankEventsLog
  | badCandidateIndex (tag : String)
  | noCandidate (index : UInt64) (query : String)
  | pickWhileIdle (index : UInt64)
  | invalidPath (path : String)
  | invalid (gate : Gate) (path : String) (report : Report)
  | unresolved (failures : List ResolutionFailure)
  | unwritten (step : WriteStep) (path : String) (cause : FileError)
  deriving DecidableEq, Repr

namespace PromptError

/-- The class of the error. -/
def cls : PromptError → ErrorClass
  | invalid .. => .validation
  | unresolved _ => .resolution
  | unwritten .. => .io
  | _ => .user

/-- What went wrong. -/
def detail : PromptError → String
  | unreadable kind path cause =>
    "failed to read " ++ kind.name ++ " file '" ++ path ++ "': " ++ cause.message
  | malformed kind => "failed to parse " ++ kind.name ++ " YAML"
  | unwritableStep stepName =>
    "workflow step name '" ++ stepName ++
      "' is not a valid identifier (allowed: A-Z a-z 0-9 _ -)"
  | unwritableMedia mediaId =>
    "media id '" ++ mediaId ++ "' is not a valid identifier (allowed: A-Z a-z 0-9 _ -)"
  | mediaAttached mediaId => "media '" ++ mediaId ++ "' is already attached to this template"
  | displayNameTaken name mediaId =>
    "display name '" ++ name ++ "' is already used by media '" ++ mediaId ++
      "'. Rename one of them before attaching."
  | emptySeparator => "config validation failed: multi_select_separator must be non-empty"
  | zeroCandidates =>
    "config validation failed: max_candidates must be greater than 0 (omit it for no limit)"
  | blankEventsLog => "config validation failed: events_log must be a non-empty path"
  | badCandidateIndex tag =>
    "invalid candidate index in '<" ++ tag ++ ">': expected a number"
  | noCandidate index query =>
    "no candidate " ++ toString index ++ " for query '@" ++ query ++ "'"
  | pickWhileIdle index =>
    "<pick:" ++ toString index ++ "> used while no mention is being typed"
  | invalidPath path => "invalid file path '" ++ path ++ "'"
  | invalid gate path report =>
    let findings := Text.trimEnd report.message
    match gate with
    | .validate => "template '" ++ path ++ "'\n\n" ++ findings
    | .resolve => "template '" ++ path ++ "' cannot be resolved\n\n" ++ findings
  | unresolved failures => ResolutionFailure.punchList failures
  | unwritten step path cause => step.attempt ++ " '" ++ path ++ "': " ++ cause.message

/-- The error for the user. -/
def message (error : PromptError) : String := error.cls.message error.detail

/-- The exit code of a run that fails so. -/
def exitCode (error : PromptError) : Nat := error.cls.exitCode

end PromptError

end MentionPrompt
