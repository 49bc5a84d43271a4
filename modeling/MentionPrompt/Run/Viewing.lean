import MentionPrompt.Editing.Json
import MentionPrompt.Mention.Json
import MentionPrompt.Run.Basic
import MentionPrompt.Storage.Documents

/-!
The commands that only look: the segments of a template, its view in an editor, and the candidates for
a query. They log nothing.
-/

namespace MentionPrompt

/-- The template of a source; one given inline has no media. -/
def TemplateSource.load : TemplateSource → FileTask Template
  | .inline text => return { canonicalText := text }
  | .file path => FileTask.loadTemplate path

/-- The step catalog of a workflow, if one is given. -/
def FileTask.loadSteps? (workflow : Option String) : FileTask (Option (List Step)) :=
  workflow.mapM fun path => Workflow.steps <$> FileTask.loadWorkflow path

/-- The step catalog of a workflow, empty unless one is given. -/
def FileTask.loadSteps (workflow : Option String) : FileTask (List Step) :=
  return (← FileTask.loadSteps? workflow).getD []

/-- The template of a file, empty unless one is given. -/
def FileTask.loadTemplateOrEmpty (template : Option String) : FileTask Template :=
  match template with
  | some path => FileTask.loadTemplate path
  | none => return {}

/-- The remark on missing mentions. -/
def Tree.missingRemark (tree : Tree) : String :=
  let count := tree.missing.length
  if count = 0 then ""
  else "\n" ++ toString count ++
    " mention(s) reference missing steps or media (marked with ?)\n"

/-- Shows the segments of a template. -/
def runParse (source : TemplateSource) : FileTask Outcome := do
  let template ← source.load
  return .ofJson (.array (template.segments.map Segment.toJson))

/-- Shows a template as in an editor, as a line of text or as data. -/
def runNodes (source : TemplateSource) (workflow : Option String) (json : Bool) :
    FileTask Outcome := do
  let template ← source.load
  let steps ← FileTask.loadSteps? workflow
  let tree := template.tree steps
  return if json then .ofJson (.array (tree.render.map Rendered.toJson))
    else { Outcome.ofText tree.line with remarks := tree.missingRemark }

/-- Shows the candidates for a query. -/
def runCandidates (session : Session) (query : String) (template workflow : Option String) :
    FileTask Outcome := do
  let steps ← FileTask.loadSteps workflow
  let template ← FileTask.loadTemplateOrEmpty template
  let found :=
    Candidate.search query steps template.mediaCatalog session.config.candidateLimit
  return .ofJson (.array (found.map Candidate.toJson))

end MentionPrompt
