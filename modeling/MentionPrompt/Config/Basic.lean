import MentionPrompt.Editing.Composer
import MentionPrompt.Error

/-!
The configuration of a run. Its separator is not empty, its cap on candidates is not zero, and its
events log is not blank; of several faults the first of these is reported.
-/

namespace MentionPrompt

/-- The configuration of a run. -/
structure Config where
  multiSelectSeparator : String := RunContext.defaultSeparator
  insertTrailingSpace : Bool := true
  maxCandidates : Option UInt64 := none
  eventsLog : Option String := none
  deriving DecidableEq, Repr

namespace Config

/-- The first fault of the configuration. -/
def fault? (config : Config) : Option PromptError :=
  if config.multiSelectSeparator.isEmpty then some .emptySeparator
  else if config.maxCandidates = some 0 then some .zeroCandidates
  else if config.eventsLog.any Text.isBlankText then some .blankEventsLog
  else none

/-- The configuration, if it has no fault. -/
def checked (config : Config) : Except PromptError Config :=
  match config.fault? with
  | some fault => .error fault
  | none => .ok config

/-- The cap on candidates. -/
def candidateLimit (config : Config) : Option Nat := config.maxCandidates.map UInt64.toNat

/-- How an editing session behaves under the configuration. -/
def captureOptions (config : Config) : CaptureOptions :=
  { insertTrailingSpace := config.insertTrailingSpace, maxCandidates := config.candidateLimit }

end Config

end MentionPrompt
