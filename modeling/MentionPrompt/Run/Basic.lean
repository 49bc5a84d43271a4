import MentionPrompt.CommandLine.Command
import MentionPrompt.Config.Basic
import MentionPrompt.Storage.Writing

/-!
What a run works with, and what comes of it.

A run is a program over files. What it prints and remarks on is part of its result, so a run that fails
has still shown what it showed before.
-/

namespace MentionPrompt

/-- What a run finds around it. -/
structure Surroundings where
  processTag : String
  actor : String
  now : Timestamp
  configPath : Option String := none

/-- What comes of a run: the texts it prints for its answer and beside it, what it remarks on, and the
error in which it ends, if it does. -/
structure Outcome where
  output : String := ""
  remarks : String := ""
  notices : List Notice := []
  error : Option PromptError := none
  deriving DecidableEq, Repr

/-- The exit code of a run. -/
def Outcome.exitCode (outcome : Outcome) : Nat := (outcome.error.map PromptError.exitCode).getD 0

/-- The outcome that shows one text on lines of its own. -/
def Outcome.ofText (text : String) : Outcome := { output := text ++ "\n" }

/-- The outcome that shows a value. -/
def Outcome.ofJson (value : Json) : Outcome := .ofText value.pretty

/-- What the commands of one run share. -/
structure Session where
  surroundings : Surroundings
  config : Config := {}
  eventsPath : Option String := none

namespace Session

/-- An event of the run. -/
def event (session : Session) (action : EventAction) (outcome : EventOutcome)
    (template : Option String) (details : Json) : Event :=
  { ts := session.surroundings.now, action, actor := session.surroundings.actor, template, outcome,
    details }

/-- Logs an event, if the run keeps a log. A failure is only remarked on. -/
def record (session : Session) (event : Event) : FileProgram (List Notice) :=
  match session.eventsPath with
  | none => return []
  | some path => do
    match ← (FileTask.appendEvent path event).run with
    | .ok () => return []
    | .error error => return [.unloggedEvent event.action.name error.message]

end Session

/-- How an action ended, given its error. -/
def EventOutcome.ofError : Option PromptError → EventOutcome
  | none => .ok
  | some _ => .failed

end MentionPrompt
