import MentionPrompt.Catalog.Media
import MentionPrompt.Identifier

/-!
Steps of a workflow: the questions whose answers a prompt can mention. A step offers options; an
option can say what it adds to the prompt and bring a medium with it.
-/

namespace MentionPrompt

/-- How a step is answered. -/
inductive StepType where | singleSelect | multiSelect | freeText
  deriving DecidableEq, Repr, Inhabited

/-- Only multiple choice takes several values. -/
def StepType.allowsMultiple : StepType → Bool
  | .multiSelect => true
  | .singleSelect | .freeText => false

/-- The name of the type in data. -/
def StepType.name : StepType → String
  | .singleSelect => "single_select"
  | .multiSelect => "multi_select"
  | .freeText => "free_text"

/-- The type of a name. -/
def StepType.ofName? (name : String) : Option StepType :=
  [StepType.singleSelect, .multiSelect, .freeText].find? (·.name == name)

/-- One choice of a step. -/
structure StepOption where
  value : String
  promptFragment : Option String := none
  promptMedia : Option Media := none
  deriving DecidableEq, Repr

/-- What the option adds to the prompt in place of its value; an empty fragment counts as none. -/
def StepOption.fragment? (option : StepOption) : Option String :=
  option.promptFragment.filter (!·.isEmpty)

/-- A question of the workflow. -/
structure Step where
  stepName : String
  stepType : StepType := .singleSelect
  options : List StepOption := []
  deriving DecidableEq, Repr

/-- The first option of the step with the value. -/
def Step.option? (step : Step) (value : String) : Option StepOption :=
  step.options.find? (·.value == value)

/-- The first step of the catalog with the name. -/
def Step.find? (steps : List Step) (stepName : String) : Option Step :=
  steps.find? (·.stepName == stepName)

end MentionPrompt
