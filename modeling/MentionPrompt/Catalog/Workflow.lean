import MentionPrompt.Catalog.Step
import MentionPrompt.Error

/-!
Workflows: the steps of one document. A prompt mentions a step by its name, so a workflow is refused if
a token cannot hold the name of one of its steps.
-/

namespace MentionPrompt

/-- The steps of one workflow document. -/
structure Workflow where
  steps : List Step := []
  deriving DecidableEq, Repr

namespace Workflow

/-- The first step whose name no token can hold. -/
def unwritableStep? (workflow : Workflow) : Option Step :=
  workflow.steps.find? fun step => !isIdentifier step.stepName

/-- The workflow, if tokens can hold all its step names. -/
def checked (workflow : Workflow) : Except PromptError Workflow :=
  match workflow.unwritableStep? with
  | some step => .error (.unwritableStep step.stepName)
  | none => .ok workflow

end Workflow

end MentionPrompt
