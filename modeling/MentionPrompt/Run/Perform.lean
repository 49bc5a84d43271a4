import MentionPrompt.Run.Checking
import MentionPrompt.Run.Composing

/-!
Carrying out a command: its configuration is found first, then the command itself is run.
-/

namespace MentionPrompt

/-- Carries out a command in a session. -/
def Command.perform (session : Session) : Command → FileTask Outcome
  | .parse source => runParse source
  | .nodes source workflow json => runNodes source workflow json
  | .candidates query template workflow => runCandidates session query template workflow
  | .validate template workflow => runValidate session template workflow
  | .resolve template workflow answers => runResolve session template workflow answers
  | .compose keys template workflow out => runCompose session keys template workflow out

/-- Finds the configuration and carries out the command; the log that is named by the call counts
before that of the configuration. -/
def Invocation.attempt (invocation : Invocation) (surroundings : Surroundings) :
    FileTask Outcome := do
  let config ← FileTask.discoverConfig invocation.config surroundings.configPath
  let session : Session :=
    { surroundings, config, eventsPath := invocation.events <|> config.eventsLog }
  invocation.command.perform session

/-- Carries out a call of the program. -/
def Invocation.perform (invocation : Invocation) (surroundings : Surroundings) :
    FileProgram Outcome := do
  match ← (invocation.attempt surroundings).run with
  | .ok outcome => return outcome
  | .error error => return { error := some error }

end MentionPrompt
