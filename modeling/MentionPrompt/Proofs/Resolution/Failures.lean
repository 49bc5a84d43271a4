import MentionPrompt.Proofs.Catalog.Snapshot
import MentionPrompt.Proofs.Resolution.Pieces
import MentionPrompt.Proofs.Segment.Findings

/-!
The failures of a resolution.

What a run must supply is said segment by segment: an answer with a selected value for a step, an
entry of the catalog for a medium, and nothing for text. Main statement: a prompt comes out exactly
when everything is supplied; else every segment that lacks its supply is on the list of failures,
once and at its position, and no other segment is.
-/

namespace MentionPrompt

/-- The answers hold at least one selected value for the step. -/
def Answers.Selects (answers : Answers) (stepName : String) : Prop :=
  ∃ answer ∈ answers.find? stepName, answer.values ≠ []

instance (answers : Answers) (stepName : String) : Decidable (answers.Selects stepName) :=
  inferInstanceAs (Decidable (∃ answer ∈ answers.find? stepName, answer.values ≠ []))

/-- The segment that failed. -/
def ResolutionFailure.segment : ResolutionFailure → Segment
  | .missingAnswer _ stepName => .reference .step stepName
  | .danglingMedia _ mediaId => .reference .media mediaId

/-- A failure says no more than which segment failed, and where. -/
theorem ResolutionFailure.eq_of_segment {a b : ResolutionFailure} (hindex : a.index = b.index)
    (hsegment : a.segment = b.segment) : a = b := by
  cases a <;> cases b <;> simp_all [index, segment]

namespace RunContext

variable {ctx : RunContext} {separator : String} {segments : List Segment}

/-- The run has what the segment needs. -/
def Supplies (ctx : RunContext) : Segment → Prop
  | .literal _ => True
  | .reference .step stepName => ctx.answers.Selects stepName
  | .reference .media mediaId => mediaId ∈ ctx.catalog.map Media.mediaId

/-- The failure is that of a segment whose supply is missing, at the position of the segment. -/
def Fails (ctx : RunContext) (segments : List Segment) (failure : ResolutionFailure) : Prop :=
  segments[failure.index]? = some failure.segment ∧ ¬ ctx.Supplies failure.segment

/-! ### One segment -/

/-- Dropping all values but the first leaves no step without a value. -/
theorem usedValues_eq_nil_iff {stepName : String} :
    ctx.usedValues stepName = [] ↔ ¬ ctx.answers.Selects stepName := by
  have hvalues : ((ctx.answers.find? stepName).map Answer.values).getD [] = []
      ↔ ¬ ctx.answers.Selects stepName := by
    cases hanswer : ctx.answers.find? stepName <;> simp [Answers.Selects, hanswer]
  rw [← hvalues, usedValues]
  split
  · simp [List.take_eq_nil_iff]
  · rfl

/-- A segment contributes exactly when it is supplied, and else fails in its own name. -/
theorem contribution_cases (ctx : RunContext) (separator : String) (segment : Segment)
    (index : Nat) :
    (ctx.Supplies segment ∧ ∃ piece, ctx.contribution separator segment index = .ok piece) ∨
    (¬ ctx.Supplies segment ∧ ∃ failure, failure.index = index ∧ failure.segment = segment ∧
      ctx.contribution separator segment index = .error failure) := by
  cases segment with
  | literal text => exact .inl ⟨trivial, _, rfl⟩
  | reference kind identifier =>
    cases kind with
    | step =>
      by_cases hselects : ctx.answers.Selects identifier
      · obtain ⟨value, values, hvalues⟩ :=
          List.exists_cons_of_ne_nil (mt usedValues_eq_nil_iff.1 (not_not_intro hselects))
        exact .inl ⟨hselects, _, by simp only [contribution, hvalues]; rfl⟩
      · have hvalues := usedValues_eq_nil_iff.2 hselects
        exact .inr ⟨hselects, .missingAnswer index identifier, rfl, rfl,
          by simp only [contribution, hvalues]⟩
    | media =>
      have hlisted : _ ↔ identifier ∈ ctx.catalog.map Media.mediaId := Media.isSome_find?
      cases hentry : Media.find? ctx.catalog identifier with
      | some entry =>
        rw [hentry] at hlisted
        exact .inl ⟨hlisted.1 rfl, _, by simp only [contribution, hentry]; rfl⟩
      | none =>
        rw [hentry] at hlisted
        exact .inr ⟨fun hmem => absurd (hlisted.2 hmem) (by simp), .danglingMedia index identifier,
          rfl, rfl, by simp only [contribution, hentry]⟩

/-! ### All segments -/

theorem failure?_eq_some_iff {segment : Segment} {index : Nat} {failure : ResolutionFailure} :
    ctx.failure? separator segment index = some failure ↔
      failure.index = index ∧ failure.segment = segment ∧ ¬ ctx.Supplies segment := by
  rcases ctx.contribution_cases separator segment index with
    ⟨hsupplies, piece, hok⟩ | ⟨hlacks, failure', hindex, hsegment, herror⟩
  · simp [failure?, hok, hsupplies]
  · simp only [failure?, herror, Option.some.injEq]
    constructor
    · rintro rfl
      exact ⟨hindex, hsegment, hlacks⟩
    · rintro ⟨rfl, rfl, -⟩
      exact ResolutionFailure.eq_of_segment hindex hsegment

theorem findings_failures (ctx : RunContext) (separator : String) (segments : List Segment) :
    Findings ResolutionFailure.index (ctx.Fails segments) (ctx.failures separator segments) := by
  refine (Findings.filterMap_zipIdx (ctx.failure? separator)
    (fun h => (failure?_eq_some_iff.1 h).1) segments).of_iff ?_
  intro failure
  constructor
  · rintro ⟨segment, hsegment, hfailure⟩
    obtain ⟨-, rfl, hlacks⟩ := failure?_eq_some_iff.1 hfailure
    exact ⟨hsegment, hlacks⟩
  · rintro ⟨hsegment, hlacks⟩
    exact ⟨_, hsegment, failure?_eq_some_iff.2 ⟨rfl, rfl, hlacks⟩⟩

/-- No segment fails exactly when each has its supply. -/
theorem failures_eq_nil_iff :
    ctx.failures separator segments = [] ↔ ∀ segment ∈ segments, ctx.Supplies segment := by
  rw [(ctx.findings_failures separator segments).eq_nil_iff]
  constructor
  · intro hnone segment hmem
    obtain ⟨index, hindex⟩ := List.mem_iff_getElem?.1 hmem
    rcases ctx.contribution_cases separator segment index with
      ⟨hsupplies, -⟩ | ⟨hlacks, failure, rfl, rfl, -⟩
    · exact hsupplies
    · exact absurd ⟨hindex, hlacks⟩ (hnone failure)
  · rintro hall failure ⟨hsegment, hlacks⟩
    exact hlacks (hall _ (List.mem_of_getElem? hsegment))

/-- Either everything is supplied and a prompt comes out, or the failures come out. -/
theorem resolve_cases (ctx : RunContext) (segments : List Segment) (separator : String) :
    ((∀ segment ∈ segments, ctx.Supplies segment) ∧
      ∃ prompt, ctx.resolve segments separator = .ok prompt) ∨
    ((∃ segment ∈ segments, ¬ ctx.Supplies segment) ∧
      ∃ failures, ctx.resolve segments separator = .error failures ∧
        Findings ResolutionFailure.index (ctx.Fails segments) failures) := by
  rw [resolve_eq]
  split
  · rename_i hempty
    exact .inl ⟨failures_eq_nil_iff.1 (List.isEmpty_iff.1 hempty), _, rfl⟩
  · rename_i hsome
    rw [List.isEmpty_iff, failures_eq_nil_iff] at hsome
    exact .inr ⟨by simpa using hsome, _, rfl, ctx.findings_failures separator segments⟩

/-- CORRECT: a prompt comes out exactly when the run supplies every segment. Else the failures come
out, one for each segment without its supply and none for any other, in the order of the segments. -/
theorem resolve_ok_or_all_failures (ctx : RunContext) (segments : List Segment)
    (separator : String) :
    ((∃ prompt, ctx.resolve segments separator = .ok prompt) ↔
        ∀ segment ∈ segments, ctx.Supplies segment) ∧
      ((∃ segment ∈ segments, ¬ ctx.Supplies segment) ↔
        ∃ failures, ctx.resolve segments separator = .error failures ∧
          Findings ResolutionFailure.index (ctx.Fails segments) failures) := by
  rcases ctx.resolve_cases segments separator with
    ⟨hall, prompt, hok⟩ | ⟨⟨segment, hmem, hlacks⟩, failures, herror, hfindings⟩
  · refine ⟨⟨fun _ => hall, fun _ => ⟨prompt, hok⟩⟩, ?_, ?_⟩
    · rintro ⟨segment, hmem, hlacks⟩
      exact absurd (hall segment hmem) hlacks
    · rintro ⟨failures, herror, -⟩
      rw [hok] at herror
      cases herror
  · refine ⟨⟨?_, fun hall => absurd (hall segment hmem) hlacks⟩,
      fun _ => ⟨failures, herror, hfindings⟩, fun _ => ⟨segment, hmem, hlacks⟩⟩
    rintro ⟨prompt, hok⟩
    rw [herror] at hok
    cases hok

/-- A step without a selected value is reported each time that it is mentioned. -/
example :
    let ctx : RunContext := { answers := .ofList [("pet", .multiple [])] }
    let segments : List Segment :=
      [.reference .step "pet", .reference .media "a", .literal " and ", .reference .step "pet"]
    ctx.resolve segments ", "
      = .error [.missingAnswer 0 "pet", .danglingMedia 1 "a", .missingAnswer 3 "pet"] := by
  rfl

end RunContext

end MentionPrompt
