import MentionPrompt.Resolution.Json
import MentionPrompt.Run.Viewing
import MentionPrompt.Validation.Json

/-!
The commands that check a template: validating it, and resolving it for a run.

A template is resolved only if its report is clean, so a resolution that starts can fail for missing
answers alone. Every run that gets as far as the check is logged.
-/

namespace MentionPrompt

/-! ### Validating -/

/-- The error for a report with findings. -/
def Report.error? (report : Report) (gate : Gate) (path : String) : Option PromptError :=
  if report.isClean then none else some (.invalid gate path report)

/-- How many findings a report has. -/
def Report.counts (report : Report) : Json :=
  .object [("uniqueness_violations", .nat report.nameClashes.length),
    ("dangling_references", .nat report.dangling.length)]

/-- Shows the report on a template, and fails if it is not clean. -/
def runValidate (session : Session) (path : String) (workflow : Option String) :
    FileTask Outcome := do
  let template ← FileTask.loadTemplate path
  let steps ← FileTask.loadSteps workflow
  let report := template.validate steps
  let error := report.error? .validate path
  let notices ← session.record <|
    session.event .validate (.ofError error) (some path) report.counts
  return { Outcome.ofJson report.toJson with notices, error }

/-! ### Resolving -/

/-- What became of a template in a run: it was not valid, or else it was resolved or not. -/
inductive RunResult where
  | invalid (report : Report)
  | unresolved (failures : List ResolutionFailure)
  | resolved (prompt : ResolvedPrompt)
  deriving DecidableEq, Repr

/-- What a template is resolved against: its own media, and the steps and answers of the run. -/
def Template.runContext (template : Template) (steps : Option (List Step)) (answers : Answers) :
    RunContext :=
  { answers, steps := steps.getD [], catalog := template.mediaCatalog }

/-- Resolves a template for a run, once it is valid. -/
def Template.resolve (template : Template) (steps : Option (List Step)) (answers : Answers)
    (separator : String) : RunResult :=
  let report := template.validateForRun steps
  if report.isClean then
    match (template.runContext steps answers).resolve template.segments separator with
    | .ok prompt => .resolved prompt
    | .error failures => .unresolved failures
  else .invalid report

namespace RunResult

/-- The error in which the run ends. -/
def error? (result : RunResult) (path : String) : Option PromptError :=
  match result with
  | .invalid report => some (.invalid .resolve path report)
  | .unresolved failures => some (.unresolved failures)
  | .resolved _ => none

/-- What the log holds about the run. -/
def details : RunResult → Json
  | .invalid report => .object [("validation", report.toJson)]
  | .unresolved failures => .object [("errors", .array (failures.map ResolutionFailure.toJson))]
  | .resolved prompt =>
    .object [("chars", .nat prompt.text.utf8ByteSize), ("attached_media", .nat prompt.media.length)]

/-- What the run shows. -/
def outcome : RunResult → Outcome
  | .resolved prompt => .ofJson prompt.toJson
  | .invalid _ | .unresolved _ => {}

/-- The segments were gone through. -/
def wasTried : RunResult → Bool
  | .invalid _ => false
  | .unresolved _ | .resolved _ => true

end RunResult

/-- Shows the prompt that a template makes with the answers of a run. -/
def runResolve (session : Session) (path : String) (workflow answers : Option String) :
    FileTask Outcome := do
  let template ← FileTask.loadTemplate path
  let steps ← FileTask.loadSteps? workflow
  let answers ← match answers with
    | some path => FileTask.loadAnswers path
    | none => pure {}
  let result := template.resolve steps answers session.config.multiSelectSeparator
  let tried :=
    if result.wasTried then (template.runContext steps answers).notices template.segments else []
  let error := result.error? path
  let unlogged ← session.record <|
    session.event .resolve (.ofError error) (some path) result.details
  return { result.outcome with notices := tried ++ unlogged, error }

end MentionPrompt
