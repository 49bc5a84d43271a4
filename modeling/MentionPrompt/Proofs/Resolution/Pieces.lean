import Mathlib.Data.List.Induction
import MentionPrompt.Resolution.Prompt

/-!
The walk of a resolution, piece by piece.

        segments    @ref a     @step pet      @ref x         @step pet
        walk        a          a b            a b, 2 fails   a b, 2 fails
        by itself   lists a    lists a, b     fails          lists a, b

The walk lists a medium only if no segment before brought its id. Main statement: it still comes to
what the segments give each by itself, put together: a segment gives a piece or a failure whatever
stands before it, and leaving out the repeated ids at the end leaves the same media as on the way.
-/

namespace MentionPrompt

/-! ### Media that are listed one by one -/

namespace Media

/-- The list without the entries whose id occurs earlier. -/
def firstOccurrences : List Media → List Media
  | [] => []
  | entry :: rest => entry :: (firstOccurrences rest).filter (·.mediaId != entry.mediaId)

theorem mem_map_firstOccurrences {list : List Media} {id : String} :
    id ∈ (firstOccurrences list).map mediaId ↔ id ∈ list.map mediaId := by
  induction list with
  | nil => rfl
  | cons first list ih =>
    rw [firstOccurrences, List.map_cons, List.map_cons, List.mem_cons, List.mem_cons, ← ih]
    by_cases hfirst : id = first.mediaId
    · simp [hfirst]
    · simp only [hfirst, false_or, List.mem_map, List.mem_filter, bne_iff_ne]
      constructor
      · rintro ⟨entry, ⟨hmem, -⟩, hid⟩
        exact ⟨entry, hmem, hid⟩
      · rintro ⟨entry, hmem, rfl⟩
        exact ⟨entry, ⟨hmem, hfirst⟩, rfl⟩

/-- One more entry comes in: it is kept if its id is new, and the others stay as they are. -/
theorem firstOccurrences_concat (list : List Media) (entry : Media) :
    firstOccurrences (list ++ [entry]) = firstOccurrences list ++
      if entry.mediaId ∈ list.map mediaId then [] else [entry] := by
  induction list with
  | nil => rfl
  | cons first list ih =>
    rw [List.cons_append, firstOccurrences, ih, List.filter_append, firstOccurrences,
      List.cons_append]
    by_cases hfirst : entry.mediaId = first.mediaId
    · simp [hfirst, apply_ite (List.filter _)]
    · by_cases hmem : entry.mediaId ∈ list.map mediaId <;> simp [hmem, hfirst]

end Media

/-- Lists entries one after the other. -/
def MediaList.attachAll (list : MediaList) (entries : List Media) : MediaList :=
  entries.foldl MediaList.attach list

theorem MediaList.attachAll_append (list : MediaList) (first second : List Media) :
    list.attachAll (first ++ second) = (list.attachAll first).attachAll second :=
  List.foldl_append

/-- The ids seen on the way keep out just what the ids before an entry keep out. -/
theorem MediaList.entries_attachAll (entries : List Media) :
    (MediaList.attachAll {} entries).entries = Media.firstOccurrences entries := by
  induction entries using List.reverseRecOn with
  | nil => rfl
  | append_singleton entries entry ih =>
    rw [attachAll_append, Media.firstOccurrences_concat]
    change ((attachAll {} entries).attach entry).entries = _
    rw [entries_attach, ih]
    simp only [Media.mem_map_firstOccurrences]

namespace RunContext

variable {ctx : RunContext} {separator : String} {segments : List Segment}

/-! ### One segment -/

/-- What a segment contributes to the prompt; media may still repeat. -/
def contribution (ctx : RunContext) (separator : String) (segment : Segment) (index : Nat) :
    Except ResolutionFailure ResolvedPrompt :=
  match segment with
  | .literal text => .ok ⟨text, []⟩
  | .reference .media mediaId =>
    match Media.find? ctx.catalog mediaId with
    | some entry => .ok ⟨"", [entry]⟩
    | none => .error (.danglingMedia index mediaId)
  | .reference .step stepName =>
    match ctx.usedValues stepName with
    | [] => .error (.missingAnswer index stepName)
    | values =>
      .ok ⟨separator.intercalate (values.map (ctx.valueText stepName)),
        values.filterMap (ctx.valueMedia? stepName)⟩

theorem foldl_takeValue (ctx : RunContext) (stepName : String) (values pieces : List String)
    (media : MediaList) :
    values.foldl (ctx.takeValue stepName) (pieces, media) =
      (pieces ++ values.map (ctx.valueText stepName),
        media.attachAll (values.filterMap (ctx.valueMedia? stepName))) := by
  induction values generalizing pieces media with
  | nil => simp [MediaList.attachAll]
  | cons value values ih =>
    rw [List.foldl_cons, takeValue, ih]
    cases hentry : ctx.valueMedia? stepName value <;> simp [MediaList.attachAll, hentry]

/-- The walk takes in what the segment contributes by itself. -/
theorem takeSegment_eq (ctx : RunContext) (separator : String) (draft : PromptDraft)
    (segment : Segment) (index : Nat) :
    ctx.takeSegment separator draft (segment, index) =
      match ctx.contribution separator segment index with
      | .ok piece =>
        { draft with text := draft.text ++ piece.text, media := draft.media.attachAll piece.media }
      | .error failure => { draft with failures := draft.failures ++ [failure] } := by
  cases segment with
  | literal text => rfl
  | reference kind identifier =>
    cases kind with
    | media =>
      cases hentry : Media.find? ctx.catalog identifier <;>
        simp [takeSegment, contribution, hentry, MediaList.attachAll]
    | step =>
      cases hvalues : ctx.usedValues identifier with
      | nil => simp [takeSegment, stepText?, contribution, hvalues]
      | cons value values =>
        simp only [takeSegment, stepText?, contribution, hvalues, foldl_takeValue, List.nil_append]

/-! ### All segments -/

/-- The failure of a segment, if it fails. -/
def failure? (ctx : RunContext) (separator : String) (segment : Segment) (index : Nat) :
    Option ResolutionFailure :=
  match ctx.contribution separator segment index with
  | .error failure => some failure
  | .ok _ => none

/-- The failures of all segments, in order. -/
def failures (ctx : RunContext) (separator : String) (segments : List Segment) :
    List ResolutionFailure :=
  segments.zipIdx.filterMap fun (segment, index) => ctx.failure? separator segment index

/-- What all segments contribute that do not fail, in order. -/
def pieces (ctx : RunContext) (separator : String) (segments : List Segment) :
    List ResolvedPrompt :=
  segments.zipIdx.filterMap fun (segment, index) =>
    (ctx.contribution separator segment index).toOption

/-- The walk over members of a prompt, from whatever was gathered before. -/
theorem foldl_takeSegment (ctx : RunContext) (separator : String) (draft : PromptDraft)
    (members : List (Segment × Nat)) :
    let pieces := members.filterMap fun (segment, index) =>
      (ctx.contribution separator segment index).toOption
    members.foldl (ctx.takeSegment separator) draft =
      { text := draft.text ++ String.join (pieces.map (·.text))
        media := draft.media.attachAll (pieces.flatMap (·.media))
        failures := draft.failures ++
          members.filterMap fun (segment, index) => ctx.failure? separator segment index } := by
  intro pieces
  induction members generalizing draft with
  | nil => simp [pieces, MediaList.attachAll]
  | cons member members ih =>
    obtain ⟨segment, index⟩ := member
    rw [List.foldl_cons, takeSegment_eq, ih]
    cases hpiece : ctx.contribution separator segment index with
    | ok piece =>
      simp [pieces, failure?, hpiece, Except.toOption, String.append_assoc,
        MediaList.attachAll_append]
    | error failure => simp [pieces, failure?, hpiece, Except.toOption]

/-- The walk comes to the failures of the segments, or else to their pieces put together. -/
theorem resolve_eq (ctx : RunContext) (segments : List Segment) (separator : String) :
    ctx.resolve segments separator =
      if (ctx.failures separator segments).isEmpty then
        .ok ⟨String.join ((ctx.pieces separator segments).map (·.text)),
          Media.firstOccurrences ((ctx.pieces separator segments).flatMap (·.media))⟩
      else .error (ctx.failures separator segments) := by
  rw [resolve, foldl_takeSegment, ← MediaList.entries_attachAll]
  simp only [String.empty_append, List.nil_append]
  rfl

end RunContext

end MentionPrompt
