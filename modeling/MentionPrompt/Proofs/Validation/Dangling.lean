import MentionPrompt.Proofs.Mention.Refresh
import MentionPrompt.Proofs.Segment.Findings
import MentionPrompt.Template.Basic

/-!
What the editor marks as missing, and what the validator reports as dangling.

The editor looks each mention up when it builds the tree. The validator goes through the references
of the text, and without a workflow it leaves out those to steps afterwards. Main statement: both
point at the same references in the same order, and these are the ones that the catalogs lack.
-/

namespace MentionPrompt

/-- The reference is one of the segments, and the catalogs lack what it points at. -/
def Reference.Dangles (now : Snapshot) (segments : List Segment) (reference : Reference) : Prop :=
  segments[reference.index]? = some (.reference reference.kind reference.identifier) ∧
    now.Lacks reference.kind reference.identifier

/-- The references that the catalogs lack, in the order of the segments. -/
def Snapshot.lacking (now : Snapshot) (segments : List Segment) : List Reference :=
  (Segment.references segments).filter fun reference => now.Lacks reference.kind reference.identifier

theorem Snapshot.findings_lacking (now : Snapshot) (segments : List Segment) :
    Findings Reference.index (Reference.Dangles now segments) (now.lacking segments) := by
  refine ((Segment.findings_references segments).filter _).of_iff fun reference => ?_
  rw [decide_eq_true_iff, Reference.Dangles]

theorem Report.isClean_iff {report : Report} :
    report.isClean = true ↔ report.nameClashes = [] ∧ report.dangling = [] := by
  simp [isClean]

/-! ### The editor -/

/-- The missing mentions of a tree as references; text is none. -/
def Tree.missingReferences (tree : Tree) : List (Option Reference) :=
  tree.missing.map fun (node, index) => node.segment.reference? index

/-- Member by member: text is never missing, and a mention exactly if its reference is lacking. -/
theorem Tree.missingReferences_ofSegments (now : Snapshot) (segments : List Segment) :
    (ofSegments segments now.steps now.catalog).missingReferences
      = (now.lacking segments).map some := by
  simp only [missingReferences, missing, ofSegments, List.zipIdx_map, Snapshot.lacking,
    Segment.references]
  induction segments.zipIdx with
  | nil => rfl
  | cons member members ih =>
    obtain ⟨segment, index⟩ := member
    cases segment with
    | literal text => exact ih
    | reference kind identifier =>
      have hsegment := Node.segment_ofSegment (.reference kind identifier) now.steps now.catalog
      have hreference : Segment.reference? (.reference kind identifier) index
          = some ⟨index, kind, identifier⟩ := rfl
      have hmissing : (Node.ofSegment (.reference kind identifier) now.steps now.catalog).isMissing
          = decide (now.Lacks kind identifier) := by
        rw [Bool.eq_iff_iff, decide_eq_true_iff]
        exact Node.isMissing_ofReference now kind identifier
      simp only [List.map_cons, List.filter_cons, List.filterMap_cons, Prod.map_apply, id, hreference,
        hmissing]
      split
      · rw [List.map_cons, List.map_cons, ih, hsegment, hreference]
      · exact ih

/-! ### The validator -/

namespace Validation

theorem not_resolves_iff (steps : List Step) (catalog : List Media) (reference : Reference) :
    (!resolves steps catalog reference) = true ↔
      Snapshot.Lacks ⟨some steps, catalog⟩ reference.kind reference.identifier := by
  obtain ⟨index, kind, identifier⟩ := reference
  cases kind with
  | step => simp [resolves, Snapshot.Lacks, ← Step.isSome_find?]
  | media => simp [resolves, Snapshot.Lacks, ← Media.isSome_find?]

theorem not_resolves_iff_of_no_steps (catalog : List Media) (reference : Reference) :
    (reference.kind != .step && !resolves [] catalog reference) = true ↔
      Snapshot.Lacks ⟨none, catalog⟩ reference.kind reference.identifier := by
  obtain ⟨index, kind, identifier⟩ := reference
  cases kind with
  | step => simp [Snapshot.Lacks]
  | media => simp [resolves, Snapshot.Lacks, ← Media.isSome_find?]

/-- With a step catalog, the check reports just what the catalogs lack. -/
theorem dangling_eq_lacking (segments : List Segment) (steps : List Step) (catalog : List Media) :
    dangling segments steps catalog = Snapshot.lacking ⟨some steps, catalog⟩ segments := by
  refine List.filter_congr fun reference _ => ?_
  rw [Bool.eq_iff_iff, decide_eq_true_iff]
  exact not_resolves_iff ..

end Validation

namespace Template

theorem dangling_validateForRun (template : Template) (steps : Option (List Step)) :
    (template.validateForRun steps).dangling
      = Snapshot.lacking ⟨steps, template.mediaCatalog⟩ template.segments := by
  cases steps with
  | some steps => exact Validation.dangling_eq_lacking template.segments steps _
  | none =>
    refine (List.filter_filter ..).trans (List.filter_congr fun reference _ => ?_)
    rw [Bool.eq_iff_iff, decide_eq_true_iff]
    exact Validation.not_resolves_iff_of_no_steps ..

theorem nameClashes_validateForRun (template : Template) (steps : Option (List Step)) :
    (template.validateForRun steps).nameClashes
      = Validation.nameClashes template.mediaCatalog := by
  cases steps <;> rfl

/-- The media that a template with a clean report mentions are in its catalog. -/
theorem mem_catalog_of_isClean {template : Template} {steps : Option (List Step)}
    (h : (template.validateForRun steps).isClean = true) {mediaId : String}
    (hmem : .reference .media mediaId ∈ template.segments) :
    mediaId ∈ template.mediaCatalog.map Media.mediaId := by
  have hdangling := (Report.isClean_iff.1 h).2
  obtain ⟨index, hindex⟩ := List.mem_iff_getElem?.1 hmem
  have hfindings := Snapshot.findings_lacking ⟨steps, template.mediaCatalog⟩ template.segments
  rw [← dangling_validateForRun, hdangling] at hfindings
  by_contra hlacks
  exact hfindings.eq_nil_iff.1 rfl ⟨index, .media, mediaId⟩ ⟨hindex, hlacks⟩

/-- CORRECT: the references that the validator reports are the missing mentions of the editor, in
the same order. They are the references of the text that the catalogs lack, each with its position. -/
theorem dangling_eq_missing (template : Template) (steps : Option (List Step)) :
    (template.tree steps).missingReferences = (template.validateForRun steps).dangling.map some ∧
      Findings Reference.index
        (Reference.Dangles ⟨steps, template.mediaCatalog⟩ (Segment.parse template.canonicalText))
        (template.validateForRun steps).dangling := by
  rw [dangling_validateForRun]
  exact ⟨Tree.missingReferences_ofSegments ⟨steps, template.mediaCatalog⟩ template.segments,
    Snapshot.findings_lacking _ _⟩

/-- A step and a medium of one name: without a step catalog only the medium counts as missing. -/
example :
    let template : Template := { canonicalText := "@\x7bstep:a\x7d and @\x7bref:a\x7d" }
    (template.validateForRun none).dangling = [⟨2, .media, "a"⟩] ∧
      (template.validateForRun (some [])).dangling = [⟨0, .step, "a"⟩, ⟨2, .media, "a"⟩] := by
  decide +kernel

end Template

end MentionPrompt
