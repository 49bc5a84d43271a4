import MentionPrompt.Event.Basic
import MentionPrompt.Proofs.Event.Timestamp
import MentionPrompt.Proofs.Json.ReadBack
import MentionPrompt.Resolution.Json
import MentionPrompt.Validation.Json

/-!
What a run prints, and what it logs, is read back.

Main statements: a printed prompt is read back as the prompt, a printed report as the report, and the
line of an event as the event. Positions and counts have to fit a 64-bit word, as they do in any list
that fits in memory.
-/

namespace MentionPrompt

namespace Json

theorem hasWords_strings (texts : List String) : (strings texts).HasWords := by
  refine .array fun item hitem => ?_
  obtain ⟨text, -, rfl⟩ := List.mem_map.1 hitem
  exact .string text

theorem hasWords_field? (name : String) (text : Option String) :
    ∀ field ∈ field? name (text.map .string), field.2.HasWords := by
  cases text with
  | none => exact fun _ hfield => absurd hfield List.not_mem_nil
  | some text => simp [field?, HasWords.string]

/-! ### Sorted fields -/

theorem mem_insertField {name : String} {value : Json} {fields : List (String × Json)}
    {field : String × Json} (h : field ∈ insertField name value fields) :
    field = (name, value) ∨ field ∈ fields := by
  induction fields with
  | nil => exact .inl (List.mem_singleton.1 h)
  | cons other rest ih =>
    unfold insertField at h
    split at h
    · exact List.mem_cons.1 h
    split at h
    · exact (List.mem_cons.1 h).imp_right (List.mem_cons_of_mem _)
    · rcases List.mem_cons.1 h with hother | hmem
      · exact .inr (List.mem_cons.2 (.inl hother))
      · exact (ih hmem).imp_right (List.mem_cons_of_mem _)

theorem sortedItems_eq (items : List Json) : sortedItems items = items.map sorted := by
  induction items with
  | nil => rw [sortedItems, List.map_nil]
  | cons item rest ih => rw [sortedItems, ih, List.map_cons]

theorem mem_sortedFields {fields before : List (String × Json)} {field : String × Json}
    (h : field ∈ sortedFields fields before) :
    field ∈ before ∨ ∃ given ∈ fields, field = (given.1, given.2.sorted) := by
  induction fields generalizing before with
  | nil => exact .inl (by rwa [sortedFields] at h)
  | cons given rest ih =>
    rw [sortedFields] at h
    rcases ih h with hbefore | ⟨other, hother, hfield⟩
    · rcases mem_insertField hbefore with hgiven | hbefore
      · exact .inr ⟨given, List.mem_cons_self, hgiven⟩
      · exact .inl hbefore
    · exact .inr ⟨other, List.mem_cons_of_mem _ hother, hfield⟩

theorem HasWords.sorted {value : Json} (h : value.HasWords) : value.sorted.HasWords := by
  induction h with
  | null => rw [Json.sorted]; exact .null
  | bool b => rw [Json.sorted]; exact .bool b
  | word hfits => exact .word hfits
  | string s => rw [Json.sorted]; exact .string s
  | array hitems ih =>
    rw [Json.sorted, sortedItems_eq]
    exact .array (List.forall_mem_map.2 ih)
  | object hfields ih =>
    rw [Json.sorted]
    refine .object fun field hfield => ?_
    rcases mem_sortedFields hfield with hnone | ⟨given, hgiven, rfl⟩
    · exact absurd hnone List.not_mem_nil
    · exact ih given hgiven

end Json

/-! ### Prompts -/

theorem Media.hasWords_toJson (entry : Media) : entry.toJson.HasWords := by
  refine .object (List.forall_mem_append.2 ⟨?_, Json.hasWords_field? "display_name" entry.displayName⟩)
  simp [Json.HasWords.string]

theorem Reference.hasWords_toJson {reference : Reference} (h : reference.index < Number.wordLimit) :
    reference.toJson.HasWords :=
  .object (by simp [Json.HasWords.string, Json.HasWords.word h, RefKind.toJson])

theorem Report.hasWords_toJson {report : Report}
    (h : ∀ reference ∈ report.dangling, reference.index < Number.wordLimit) :
    report.toJson.HasWords := by
  have hclash : ∀ clash : NameClash, clash.toJson.HasWords := fun clash =>
    .object (by simp [Json.HasWords.string, Json.hasWords_strings])
  have hclashes : (Json.array (report.nameClashes.map NameClash.toJson)).HasWords :=
    .array (List.forall_mem_map.2 fun clash _ => hclash clash)
  have hdangling : (Json.array (report.dangling.map Reference.toJson)).HasWords :=
    .array (List.forall_mem_map.2 fun reference hmem => Reference.hasWords_toJson (h reference hmem))
  exact .object (by simp [hclashes, hdangling])

theorem Event.hasWords_toJson {event : Event} (h : event.details.HasWords) :
    event.toJson.HasWords := by
  refine .object (List.forall_mem_append.2 ⟨List.forall_mem_append.2 ⟨?_, ?_⟩, ?_⟩)
  · simp [Json.HasWords.string]
  · exact Json.hasWords_field? "template" event.template
  · simp [Json.HasWords.string, h.sorted]

/-- The line is JSON with the fields of the event. It is read back as the event, its details sorted,
if the time is proper and the numbers in the details are words. -/
structure Event.ToldBy (event : Event) (line : String) : Prop where
  fields : ∃ fields, line = (Json.object fields).compact ∧ event.Tells fields
  readBack : event.ts.IsProper → event.details.HasWords →
    (Json.read? line).bind ofJson? = some { event with details := event.details.sorted }

theorem Event.toldBy_line (event : Event) : event.ToldBy event.line := by
  obtain ⟨fields, hfields, htells⟩ := event.tells_toJson
  refine ⟨⟨fields, congrArg Json.compact hfields, htells⟩, fun hproper hwords => ?_⟩
  rw [line, Json.read?_compact (hasWords_toJson hwords), Option.bind_some, hfields,
    ofJson?_of_tells htells, hproper.read?_text, Option.map_some]

end MentionPrompt
