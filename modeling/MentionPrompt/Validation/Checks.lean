import MentionPrompt.Catalog.Step
import MentionPrompt.Validation.Report

/-!
The two checks of a validation.

Uniqueness goes through the media once and groups them by the name under which they are shown, names
in the order of their first entry. It notes at which position the group of a name stands, and finds
the group of a later entry by that. The groups of more than one are kept. Existence keeps the
references that the catalogs do not resolve.
-/

namespace MentionPrompt.Validation

/-- The groups made so far, and for each name that came up the position of its group. -/
structure Grouping where
  groups : List NameClash := []
  positions : List (String × Nat) := []
  deriving DecidableEq, Repr

/-- Files an entry into the group of its name, or starts a group at the end. -/
def Grouping.file (grouping : Grouping) (entry : Media) : Grouping :=
  match grouping.positions.lookup entry.effectiveName with
  | some index =>
    { grouping with
      groups := grouping.groups.modify index fun group =>
        { group with mediaIds := group.mediaIds ++ [entry.mediaId] } }
  | none =>
    { groups := grouping.groups ++ [⟨entry.effectiveName, [entry.mediaId]⟩]
      positions := (entry.effectiveName, grouping.groups.length) :: grouping.positions }

/-- The media grouped by the name under which they are shown. -/
def groupByName (catalog : List Media) : Grouping := catalog.foldl Grouping.file {}

/-- The names that more than one entry carries. -/
def nameClashes (catalog : List Media) : List NameClash :=
  (groupByName catalog).groups.filter (1 < ·.mediaIds.length)

/-- The catalogs hold what the reference points at. -/
def resolves (steps : List Step) (catalog : List Media) (reference : Reference) : Bool :=
  match reference.kind with
  | .step => (Step.find? steps reference.identifier).isSome
  | .media => (Media.find? catalog reference.identifier).isSome

/-- The references that point at nothing in the catalogs. -/
def dangling (segments : List Segment) (steps : List Step) (catalog : List Media) :
    List Reference :=
  (Segment.references segments).filter (!resolves steps catalog ·)

/-- Both checks. -/
def validate (segments : List Segment) (steps : List Step) (catalog : List Media) : Report :=
  ⟨nameClashes catalog, dangling segments steps catalog⟩

end MentionPrompt.Validation
