import MentionPrompt.Editing.KeyScript
import MentionPrompt.Run.Viewing

/-!
The command that carries out a key script.

The text is written only if the whole script was carried out. Every run that gets as far as the script
is logged, whether a pick, the script or the writing fails.
-/

namespace MentionPrompt

/-- Writes the text of a session to a file or shows it. -/
def Composer.deliver (composer : Composer) (tag : String) (out : Option String) :
    FileTask Outcome :=
  match out with
  | some path => do
    FileTask.writeFile tag path composer.text
    return { remarks := "Wrote " ++ path ++ "\n" }
  | none => return .ofText composer.text

/-- What the log holds about a session that was delivered. -/
def Composer.details (composer : Composer) : Json :=
  .object [("chars", .nat composer.text.utf8ByteSize),
    ("mentions", .nat (Segment.references composer.tree.segments).length)]

/-- What the log holds about a session that failed. -/
def PromptError.details (error : PromptError) : Json :=
  .object [("error", .string error.message)]

/-- Carries out a script and delivers the text; gives the outcome with what the log is to hold. -/
def Composer.perform (composer : Composer) (script : List ScriptStep) (tag : String)
    (out : Option String) : FileProgram (Outcome × Json) := do
  let notices := composer.replayNotices script
  match composer.replay script with
  | .error error => return ({ error := some error, notices }, error.details)
  | .ok composer =>
    match ← (composer.deliver tag out).run with
    | .error error => return ({ error := some error, notices }, error.details)
    | .ok outcome => return ({ outcome with notices }, composer.details)

/-- Carries out a key script, on from a template if one is given. -/
def runCompose (session : Session) (keys : String) (template workflow out : Option String) :
    FileTask Outcome := do
  let steps ← FileTask.loadSteps workflow
  let start ← FileTask.loadTemplateOrEmpty template
  let script ← ScriptStep.parse keys
  let composer :=
    Composer.ofText start.canonicalText steps start.mediaCatalog session.config.captureOptions
  let (outcome, details) ←
    composer.perform script session.surroundings.processTag out
  let notices ← session.record <|
    session.event .compose (.ofError outcome.error) template details
  return { outcome with notices := outcome.notices ++ notices }

end MentionPrompt
