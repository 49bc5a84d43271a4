import MentionPrompt.Config.Yaml
import MentionPrompt.Resolution.Yaml
import MentionPrompt.Storage.Writing
import MentionPrompt.Template.Yaml

/-!
Loading documents from files, and finding the configuration of a run.
-/

namespace MentionPrompt

namespace FileTask

/-- The text of a document. -/
def readText (kind : DocumentKind) (path : String) : FileTask String :=
  .mk do
    return match ← FileProgram.read path with
      | .error cause => .error (.unreadable kind path cause)
      | .ok content =>
        match String.fromUTF8? content with
        | some text => .ok text
        | none => .error (.unreadable kind path .notText)

/-- Loads a document. -/
def load {α : Type} (kind : DocumentKind) (ofYaml : String → Except PromptError α)
    (path : String) : FileTask α := do
  let text ← readText kind path
  ofYaml text

/-- Loads a template. -/
def loadTemplate (path : String) : FileTask Template := load .template Template.ofYaml path

/-- Loads a workflow. -/
def loadWorkflow (path : String) : FileTask Workflow := load .workflow Workflow.ofYaml path

/-- Loads answers. -/
def loadAnswers (path : String) : FileTask Answers := load .answers Answers.ofYaml path

/-- Loads a configuration. -/
def loadConfig (path : String) : FileTask Config := load .config Config.ofYaml path

/-- Where a configuration is looked for last. -/
def defaultConfigPath : String := "promptref.yaml"

/-- The configuration of a run: from the path that is given, or else from the one that the environment
names, or else from the usual place if there is a file; failing all these, the plain one. -/
def discoverConfig (explicit fromEnvironment : Option String) : FileTask Config :=
  match explicit <|> fromEnvironment.filter (!·.isEmpty) with
  | some path => loadConfig path
  | none => do
    if ← FileProgram.isFile defaultConfigPath then loadConfig defaultConfigPath
    else return {}

end FileTask

end MentionPrompt
