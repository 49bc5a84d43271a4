import MentionPrompt.Catalog.Step
import MentionPrompt.Segment.Basic

/-!
Nodes of an editable prompt: text, and mentions of steps and media shown as pills.

A mention knows whether its step or medium is missing from the catalogs, and a medium's mention
keeps the name to show. None of this reaches the canonical text, which is that of the segment.
-/

namespace MentionPrompt

/-- One node of an editable prompt. -/
inductive Node where
  | text (text : String)
  | step (stepName : String) (missing : Bool)
  | media (mediaId : String) (cachedName : Option String) (missing : Bool)
  deriving DecidableEq, Repr

/-- What a mention looks like. -/
structure Pill where
  category : RefKind
  label : String
  missing : Bool
  deriving DecidableEq, Repr

/-- What a node looks like. -/
inductive Rendered where
  | text (text : String)
  | pill (pill : Pill)
  deriving DecidableEq, Repr

/-- The pill on a text line: its label in brackets, with a question mark when missing. -/
def Pill.display (pill : Pill) : String :=
  "[@" ++ pill.label ++ (if pill.missing then "?]" else "]")

/-- The node on a text line. -/
def Rendered.display : Rendered → String
  | .text t => t
  | .pill p => p.display

namespace Node

/-- The mention of a step. Without a step catalog no step counts as missing. -/
def ofStep (stepName : String) (steps : Option (List Step)) : Node :=
  .step stepName (steps.any fun steps => (Step.find? steps stepName).isNone)

/-- The mention of a medium. -/
def ofMedia (mediaId : String) (catalog : List Media) : Node :=
  match Media.find? catalog mediaId with
  | some entry => .media mediaId (some entry.effectiveName) false
  | none => .media mediaId none true

/-- The mention of a step or a medium. -/
def ofReference (kind : RefKind) (identifier : String) (steps : Option (List Step))
    (catalog : List Media) : Node :=
  match kind with
  | .step => ofStep identifier steps
  | .media => ofMedia identifier catalog

/-- The node that shows a segment. -/
def ofSegment (segment : Segment) (steps : Option (List Step)) (catalog : List Media) : Node :=
  match segment with
  | .literal t => .text t
  | .reference kind identifier => ofReference kind identifier steps catalog

/-- The segment that the node stands for. -/
def segment : Node → Segment
  | .text t => .literal t
  | .step stepName _ => .reference .step stepName
  | .media mediaId _ _ => .reference .media mediaId

/-- The canonical text of the node. -/
def exportText (node : Node) : String := node.segment.text

/-- The mention points at nothing in the catalogs. -/
def isMissing : Node → Bool
  | .text _ => false
  | .step _ missing => missing
  | .media _ _ missing => missing

/-- The name that a medium's mention keeps to show. -/
def cachedName? : Node → Option String
  | .media _ cachedName _ => cachedName
  | .text _ | .step _ _ => none

/-- What the node looks like. -/
def render : Node → Rendered
  | .text t => .text t
  | .step stepName missing => .pill ⟨.step, stepName, missing⟩
  | .media mediaId cachedName missing => .pill ⟨.media, cachedName.getD mediaId, missing⟩

/-- The node looked up afresh in the catalogs; text stays as it is. -/
def refresh (node : Node) (steps : Option (List Step)) (catalog : List Media) : Node :=
  ofSegment node.segment steps catalog

@[simp] theorem segment_ofSegment (segment : Segment) (steps : Option (List Step))
    (catalog : List Media) : (ofSegment segment steps catalog).segment = segment := by
  cases segment with
  | literal t => rfl
  | reference kind identifier =>
    cases kind with
    | step => rfl
    | media =>
      simp only [ofSegment, ofReference, ofMedia]
      split <;> rfl

@[simp] theorem segment_refresh (node : Node) (steps : Option (List Step)) (catalog : List Media) :
    (node.refresh steps catalog).segment = node.segment := segment_ofSegment ..

end Node

end MentionPrompt
