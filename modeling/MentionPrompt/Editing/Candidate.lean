import MentionPrompt.Catalog.Step
import MentionPrompt.Editing.Capture
import MentionPrompt.Text.LetterCase
import MentionPrompt.Text.Search

/-!
Candidates for a query: the steps and media whose label contains it, both sides in lower case. Steps
come before media, each in catalog order; what no token can hold is left out.
-/

namespace MentionPrompt

/-- The candidate that a step makes. -/
def Step.candidate (step : Step) : Candidate := ⟨.step, step.stepName, step.stepName⟩

/-- The candidate that a media entry makes. -/
def Media.candidate (entry : Media) : Candidate := ⟨.media, entry.mediaId, entry.effectiveName⟩

namespace Candidate

/-- The label contains the query, letter case aside. -/
def matchesQuery (candidate : Candidate) (query : String) : Bool :=
  Text.contains (Text.lower query).toList (Text.lower candidate.label).toList

/-- Everything that the catalogs offer for mentioning. -/
def offers (steps : List Step) (catalog : List Media) : List Candidate :=
  (steps.map Step.candidate ++ catalog.map Media.candidate).filter (isIdentifier ·.identifier)

/-- The first `limit` candidates for a query, or all of them. -/
def search (query : String) (steps : List Step) (catalog : List Media) (limit : Option Nat) :
    List Candidate :=
  let found := (offers steps catalog).filter (·.matchesQuery query)
  match limit with
  | some limit => found.take limit
  | none => found

end Candidate

end MentionPrompt
