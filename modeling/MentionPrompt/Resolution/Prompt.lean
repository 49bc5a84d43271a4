import MentionPrompt.Catalog.Step
import MentionPrompt.Notice
import MentionPrompt.Resolution.Answers
import MentionPrompt.Segment.Basic

/-!
Resolving a prompt for a run.

One walk over the segments gathers text, media and failures. A literal adds its text; a medium adds
its entry; a step adds the fragments of the selected options, with the media that the options bring;
a segment that lacks its supply adds a failure. Media are listed once, by the ids seen so far, and the
list carries the proof that these are the ids of its entries. If there are no failures, the prompt is
what was gathered; else it is dropped, and all failures are given.
-/

namespace MentionPrompt

/-- What a run resolves against. -/
structure RunContext where
  answers : Answers := {}
  steps : List Step := []
  catalog : List Media := []
  deriving DecidableEq, Repr

/-- Why a segment cannot be resolved. -/
inductive ResolutionFailure where
  | missingAnswer (index : Nat) (stepName : String)
  | danglingMedia (index : Nat) (mediaId : String)
  deriving DecidableEq, Repr

/-- A resolved prompt: its text, and the media that go with it. -/
structure ResolvedPrompt where
  text : String := ""
  media : List Media := []
  deriving DecidableEq, Repr

namespace ResolutionFailure

/-- The position of the segment that failed. -/
def index : ResolutionFailure → Nat
  | missingAnswer index _ => index
  | danglingMedia index _ => index

/-- The failure for the user. -/
def message : ResolutionFailure → String
  | missingAnswer index stepName =>
    "segment " ++ toString index ++ ": step '" ++ stepName ++ "' has no answer in this run"
  | danglingMedia index mediaId =>
    "segment " ++ toString index ++ ": media '" ++ mediaId ++ "' is not in the media catalog"

/-- All failures for the user, one a line. -/
def punchList (failures : List ResolutionFailure) : String :=
  "\n".intercalate (failures.map fun failure => "  - " ++ failure.message)

end ResolutionFailure

/-- Media to attach, in the order in which they came, and the ids that were seen. -/
structure MediaList where
  entries : List Media := []
  seen : List String := []
  mem_seen : ∀ id, id ∈ seen ↔ id ∈ entries.map Media.mediaId := by simp

/-- Lists an entry, unless its id was seen. -/
def MediaList.attach (list : MediaList) (entry : Media) : MediaList :=
  if entry.mediaId ∈ list.seen then list
  else
    { entries := list.entries ++ [entry]
      seen := entry.mediaId :: list.seen
      mem_seen := by simp [list.mem_seen, or_comm] }

theorem MediaList.entries_attach (list : MediaList) (entry : Media) :
    (list.attach entry).entries =
      list.entries ++ if entry.mediaId ∈ list.entries.map Media.mediaId then [] else [entry] := by
  unfold attach
  split
  · rename_i hseen
    rw [if_pos ((list.mem_seen _).1 hseen), List.append_nil]
  · rename_i hnew
    rw [if_neg (mt (list.mem_seen _).2 hnew)]

/-- What the walk over the segments has gathered so far. -/
structure PromptDraft where
  text : String := ""
  media : MediaList := {}
  failures : List ResolutionFailure := []

namespace RunContext

/-- Only the first of several values counts: the step is known and takes one answer. -/
def takesOne (ctx : RunContext) (stepName : String) : Bool :=
  (Step.find? ctx.steps stepName).any (!·.stepType.allowsMultiple)

/-- The selected values of a step that count. -/
def usedValues (ctx : RunContext) (stepName : String) : List String :=
  let values := ((ctx.answers.find? stepName).map Answer.values).getD []
  if ctx.takesOne stepName then values.take 1 else values

/-- The option of a known step that a value selects. -/
def option? (ctx : RunContext) (stepName value : String) : Option StepOption :=
  (Step.find? ctx.steps stepName).bind (·.option? value)

/-- The text that a selected value stands for: the option's fragment, or else the value itself. -/
def valueText (ctx : RunContext) (stepName value : String) : String :=
  ((ctx.option? stepName value).bind StepOption.fragment?).getD value

/-- The medium that a selected value brings with it. -/
def valueMedia? (ctx : RunContext) (stepName value : String) : Option Media :=
  (ctx.option? stepName value).bind StepOption.promptMedia

/-- Takes in a selected value: its text is one more piece, and its medium is attached. -/
def takeValue (ctx : RunContext) (stepName : String) :
    List String × MediaList → String → List String × MediaList
  | (pieces, media), value =>
    (pieces ++ [ctx.valueText stepName value],
      match ctx.valueMedia? stepName value with
      | some entry => media.attach entry
      | none => media)

/-- The text of a step, and the media with those that its options bring; nothing if no value is
selected. -/
def stepText? (ctx : RunContext) (separator stepName : String) (media : MediaList) :
    Option (String × MediaList) :=
  match ctx.usedValues stepName with
  | [] => none
  | values =>
    let (pieces, media) := values.foldl (ctx.takeValue stepName) ([], media)
    some (separator.intercalate pieces, media)

/-- Takes in a segment, given with its position. -/
def takeSegment (ctx : RunContext) (separator : String) (draft : PromptDraft) :
    Segment × Nat → PromptDraft
  | (.literal text, _) => { draft with text := draft.text ++ text }
  | (.reference .step stepName, index) =>
    match ctx.stepText? separator stepName draft.media with
    | some (text, media) => { draft with text := draft.text ++ text, media }
    | none => { draft with failures := draft.failures ++ [.missingAnswer index stepName] }
  | (.reference .media mediaId, index) =>
    match Media.find? ctx.catalog mediaId with
    | some entry => { draft with media := draft.media.attach entry }
    | none => { draft with failures := draft.failures ++ [.danglingMedia index mediaId] }

/-- What separates the values of a multiple choice, unless a run says otherwise. -/
def defaultSeparator : String := ", "

/-- The prompt that the segments make in the run, or every failure. -/
def resolve (ctx : RunContext) (segments : List Segment) (separator : String) :
    Except (List ResolutionFailure) ResolvedPrompt :=
  let draft := segments.zipIdx.foldl (ctx.takeSegment separator) {}
  if draft.failures.isEmpty then .ok ⟨draft.text, draft.media.entries⟩ else .error draft.failures

/-- What resolving a step remarks on. -/
def stepNotices (ctx : RunContext) (stepName : String) : List Notice :=
  let count := ((ctx.answers.find? stepName).map (·.values.length)).getD 0
  let several :=
    if ctx.takesOne stepName && 1 < count then [.severalValues stepName count] else []
  let closed := (Step.find? ctx.steps stepName).any fun step =>
    step.stepType != .freeText && !step.options.isEmpty
  let undeclared := (ctx.usedValues stepName).filter fun value =>
    closed && (ctx.option? stepName value).isNone
  several ++ undeclared.map (.undeclaredValue stepName)

/-- What resolving the segments remarks on, in segment order. -/
def notices (ctx : RunContext) (segments : List Segment) : List Notice :=
  segments.flatMap fun
    | .reference .step stepName => ctx.stepNotices stepName
    | _ => []

end RunContext

end MentionPrompt
