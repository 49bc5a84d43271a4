import MentionPrompt.Segment.Json
import MentionPrompt.Validation.Report

/-!
Validation reports as JSON. Main statement: a report is read back as it was.
-/

namespace MentionPrompt

/-- The fields of a clash. -/
def NameClash.toJson (clash : NameClash) : Json :=
  .object [("display_name", .string clash.displayName), ("media_ids", .strings clash.mediaIds)]

/-- A clash, with its name and all its ids. -/
def NameClash.ofJson? (value : Json) : Option NameClash := do
  let fields ← value.asRecord? ["display_name", "media_ids"]
  return {
    displayName := ← Json.required? fields "display_name" Json.asString?
    mediaIds := ← Json.required? fields "media_ids" (Json.asList? Json.asString?) }

theorem NameClash.ofJson?_toJson (clash : NameClash) : ofJson? clash.toJson = some clash := by
  have hids := Json.asList?_strings clash.mediaIds
  simp [toJson, ofJson?, Json.asRecord?, Json.required?, Json.field, Json.asString?, hids]

/-- The fields of a dangling reference. -/
def Reference.toJson (reference : Reference) : Json :=
  .object [("segment_index", .nat reference.index), ("kind", reference.kind.toJson),
    ("identifier", .string reference.identifier)]

/-- A dangling reference, with its position, its kind and its identifier. -/
def Reference.ofJson? (value : Json) : Option Reference := do
  let fields ← value.asRecord? ["segment_index", "kind", "identifier"]
  return {
    index := ← Json.required? fields "segment_index" Json.asNat?
    kind := ← Json.required? fields "kind" RefKind.ofJson?
    identifier := ← Json.required? fields "identifier" Json.asString? }

theorem Reference.ofJson?_toJson (reference : Reference) :
    ofJson? reference.toJson = some reference := by
  have hindex := Json.asNat?_nat reference.index
  have hkind := RefKind.ofJson?_toJson reference.kind
  simp [toJson, ofJson?, Json.asRecord?, Json.required?, Json.field, Json.asString?, hindex, hkind]

/-- The fields of a report. -/
def Report.toJson (report : Report) : Json :=
  .object [("uniqueness_violations", .array (report.nameClashes.map NameClash.toJson)),
    ("dangling_references", .array (report.dangling.map Reference.toJson))]

/-- A report, with all its clashes and dangling references. -/
def Report.ofJson? (value : Json) : Option Report := do
  let fields ← value.asRecord? ["uniqueness_violations", "dangling_references"]
  return {
    nameClashes := ← Json.required? fields "uniqueness_violations" (Json.asList? NameClash.ofJson?)
    dangling := ← Json.required? fields "dangling_references" (Json.asList? Reference.ofJson?) }

theorem Report.ofJson?_toJson (report : Report) : ofJson? report.toJson = some report := by
  have hclashes := Json.asList?_array_map NameClash.ofJson?_toJson report.nameClashes
  have hdangling := Json.asList?_array_map Reference.ofJson?_toJson report.dangling
  simp [toJson, ofJson?, Json.asRecord?, Json.required?, Json.field, hclashes, hdangling]

end MentionPrompt
