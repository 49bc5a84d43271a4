import MentionPrompt.Proofs.Json.Printed
import MentionPrompt.Proofs.Resolution.Failures
import MentionPrompt.Proofs.Run.Recording
import MentionPrompt.Proofs.Validation.Dangling
import MentionPrompt.Run.Checking

/-!
The gate before a resolution.

A template is resolved only if its report for the run is clean. Main statement: the report alone
settles whether a run is refused, and the answers alone whether one that is not refused comes out; the
prompt that comes out is read back from what the run prints. A medium that is not there is found by the
report, so the resolution never meets one.

        report not clean ──▶ exit 2, the report
        report clean, a step without a selected value ──▶ exit 3, the references to such steps
        report clean, all steps answered ──▶ exit 0, the prompt
-/

namespace MentionPrompt

namespace Template

variable {template : Template} {steps : Option (List Step)} {answers : Answers}

/-! ### What a clean report rules out -/

/-- Every step that the text mentions has a selected value. -/
def IsAnswered (template : Template) (answers : Answers) : Prop :=
  ∀ stepName, .reference .step stepName ∈ template.segments → answers.Selects stepName

/-- The failure is that of a reference to a step without a selected value. -/
def LacksAnswer (template : Template) (answers : Answers) : ResolutionFailure → Prop
  | .missingAnswer index stepName =>
    template.segments[index]? = some (.reference .step stepName) ∧ ¬ answers.Selects stepName
  | .danglingMedia _ _ => False

theorem supplies_iff_of_isClean (h : (template.validateForRun steps).isClean = true) :
    (∀ segment ∈ template.segments, (template.runContext steps answers).Supplies segment) ↔
      template.IsAnswered answers := by
  constructor
  · intro hall stepName hmem
    exact hall _ hmem
  · intro hanswered segment hmem
    cases segment with
    | literal text => trivial
    | reference kind identifier =>
      cases kind with
      | step => exact hanswered identifier hmem
      | media => exact mem_catalog_of_isClean h hmem

theorem fails_iff_of_isClean (h : (template.validateForRun steps).isClean = true)
    (failure : ResolutionFailure) :
    (template.runContext steps answers).Fails template.segments failure ↔
      template.LacksAnswer answers failure := by
  cases failure with
  | missingAnswer index stepName => rfl
  | danglingMedia index mediaId =>
    refine iff_of_false ?_ id
    rintro ⟨hindex, hlacks⟩
    exact hlacks (mem_catalog_of_isClean h (List.mem_of_getElem? hindex))

/-- The three ways in which a template is resolved or not. -/
theorem resolve_cases (template : Template) (steps : Option (List Step)) (answers : Answers)
    (separator : String) :
    ((template.validateForRun steps).isClean = false ∧
      template.resolve steps answers separator = .invalid (template.validateForRun steps)) ∨
    ((template.validateForRun steps).isClean = true ∧ ¬ template.IsAnswered answers ∧
      ∃ failures, template.resolve steps answers separator = .unresolved failures ∧
        Findings ResolutionFailure.index (template.LacksAnswer answers) failures) ∨
    ((template.validateForRun steps).isClean = true ∧ template.IsAnswered answers ∧
      ∃ prompt, template.resolve steps answers separator = .resolved prompt ∧
        (template.runContext steps answers).resolve template.segments separator = .ok prompt) := by
  cases hclean : (template.validateForRun steps).isClean with
  | false => exact .inl ⟨rfl, by simp [resolve, hclean]⟩
  | true =>
    refine .inr ?_
    rcases (template.runContext steps answers).resolve_cases template.segments separator with
      ⟨hall, prompt, hok⟩ | ⟨⟨segment, hmem, hlacks⟩, failures, herror, hfindings⟩
    · exact .inr ⟨rfl, (supplies_iff_of_isClean hclean).1 hall, prompt,
        by simp [resolve, hclean, hok], hok⟩
    · refine .inl ⟨rfl, fun hanswered => ?_, failures, by simp [resolve, hclean, herror],
        hfindings.of_iff (fails_iff_of_isClean hclean)⟩
      exact hlacks ((supplies_iff_of_isClean hclean).2 hanswered segment hmem)

end Template

/-! ### Runs on a disk -/

/-- The report on the documents of a run. -/
def RunDocuments.report (docs : RunDocuments) : Report := docs.template.validateForRun docs.steps

end MentionPrompt
