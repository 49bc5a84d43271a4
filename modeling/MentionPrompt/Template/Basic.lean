import MentionPrompt.Error
import MentionPrompt.Mention.Tree
import MentionPrompt.Validation.Checks

/-!
Templates: a canonical text and the media attached to it.

Attached media have writable ids that differ, and are shown under names that differ. Detaching an
entry frees its id and its name. The text can be edited as a tree and taken back from it.
-/

namespace MentionPrompt

/-- A prompt template. -/
structure Template where
  canonicalText : String := ""
  mediaCatalog : List Media := []
  deriving DecidableEq, Repr

namespace Template

/-- The segments of the text. -/
def segments (template : Template) : List Segment := Segment.parse template.canonicalText

/-- Why an entry cannot be attached, if it cannot. -/
def attachError? (template : Template) (entry : Media) : Option PromptError :=
  if !isIdentifier entry.mediaId then some (.unwritableMedia entry.mediaId)
  else if (Media.find? template.mediaCatalog entry.mediaId).isSome then
    some (.mediaAttached entry.mediaId)
  else match template.mediaCatalog.find? (·.effectiveName == entry.effectiveName) with
    | some holder => some (.displayNameTaken entry.effectiveName holder.mediaId)
    | none => none

/-- The template with one more entry. -/
def attach (template : Template) (entry : Media) : Except PromptError Template :=
  match template.attachError? entry with
  | some error => .error error
  | none => .ok { template with mediaCatalog := template.mediaCatalog ++ [entry] }

/-- Takes the first entry with the id out. -/
def detach (template : Template) (mediaId : String) : Option Media × Template :=
  (Media.find? template.mediaCatalog mediaId,
    { template with mediaCatalog := template.mediaCatalog.eraseP (·.mediaId == mediaId) })

/-- The template under edit. -/
def tree (template : Template) (steps : Option (List Step)) : Tree :=
  Tree.ofText template.canonicalText steps template.mediaCatalog

/-- The template with the text of an edited tree. -/
def update (template : Template) (tree : Tree) : Template :=
  { template with canonicalText := tree.text }

/-- The report on the template against a step catalog and its own media. -/
def validate (template : Template) (steps : List Step) : Report :=
  Validation.validate template.segments steps template.mediaCatalog

/-- The report before a run. Without a step catalog no reference to a step counts as dangling. -/
def validateForRun (template : Template) (steps : Option (List Step)) : Report :=
  match steps with
  | some steps => template.validate steps
  | none =>
    let report := template.validate []
    { report with dangling := report.dangling.filter (·.kind != .step) }

end Template

end MentionPrompt
