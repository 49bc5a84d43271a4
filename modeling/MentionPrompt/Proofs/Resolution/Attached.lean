import Mathlib.Data.List.Basic
import MentionPrompt.Proofs.Resolution.Failures

/-!
The media that a resolved prompt attaches.

        segments    @ref a    @step pet, answered cat and dog    @ref b
        brought       a              b1            a1               b
        attached      a              b1

Walking through the segments brings media in, those of the catalog and those of selected options,
and an id may come in several times. Main statement: the prompt attaches what was brought in, each
id once, by the entry that came first, and in the order in which the ids came in.
-/

namespace MentionPrompt

/-! ### The first of each id -/

namespace Media

/-- The entries of a list whose id no entry before them has. -/
def newcomers (list : List Media) : List Media :=
  list.zipIdx.filterMap fun (entry, index) =>
    if entry.mediaId ∈ (list.take index).map mediaId then none else some entry

theorem newcomers_concat (list : List Media) (entry : Media) :
    newcomers (list ++ [entry]) = newcomers list ++
      if entry.mediaId ∈ list.map mediaId then [] else [entry] := by
  have hbefore : ∀ member ∈ list.zipIdx,
      (list ++ [entry]).take member.2 = list.take member.2 := by
    rintro ⟨other, index⟩ hmember
    have hindex : index < list.length := by simpa using List.snd_lt_of_mem_zipIdx hmember
    exact List.take_append_of_le_length (Nat.le_of_lt hindex)
  rw [newcomers, newcomers, List.zipIdx_append, List.filterMap_append]
  congr 1
  · refine List.filterMap_congr fun member hmember => ?_
    simp only [hbefore member hmember]
  · by_cases hmem : entry.mediaId ∈ list.map mediaId <;> simp [hmem]

theorem firstOccurrences_eq_newcomers (list : List Media) :
    firstOccurrences list = newcomers list := by
  induction list using List.reverseRecOn with
  | nil => rfl
  | append_singleton list entry ih => rw [firstOccurrences_concat, newcomers_concat, ih]

/-- The entry that is found under an id stays the one that is found. -/
theorem find?_firstOccurrences (list : List Media) (id : String) :
    find? (firstOccurrences list) id = find? list id := by
  induction list with
  | nil => rfl
  | cons first list ih =>
    by_cases hfirst : first.mediaId = id
    · simp [find?, firstOccurrences, hfirst]
    · have hkeep : (fun entry : Media => decide ((entry.mediaId != first.mediaId) = true ∧
          (entry.mediaId == id) = true)) = (·.mediaId == id) := by
        funext entry
        by_cases hentry : entry.mediaId = id
        · simp [hentry, Ne.symm hfirst]
        · simp [hentry]
      simp only [find?, firstOccurrences, List.find?_cons, List.find?_filter] at ih ⊢
      rw [hkeep, ih]

theorem nodup_firstOccurrences (list : List Media) :
    ((firstOccurrences list).map mediaId).Nodup := by
  induction list with
  | nil => exact List.nodup_nil
  | cons first list ih =>
    rw [firstOccurrences, List.map_cons, List.nodup_cons]
    refine ⟨?_, ih.sublist (List.filter_sublist.map mediaId)⟩
    simp

end Media

/-! ### What the segments bring -/

namespace RunContext

variable {ctx : RunContext} {segments : List Segment} {separator : String} {prompt : ResolvedPrompt}

/-- The media that a segment brings in: the entry of the catalog that it refers to, or those of the
options that are selected. A step that takes one answer has only its first value count, and one that
the workflow does not know has no options. -/
def brought (ctx : RunContext) : Segment → List Media
  | .literal _ => []
  | .reference .media mediaId => (Media.find? ctx.catalog mediaId).toList
  | .reference .step stepName =>
    match ctx.answers.find? stepName, Step.find? ctx.steps stepName with
    | some answer, some step =>
      let used := if step.stepType = .multiSelect then answer.values else answer.values.take 1
      used.filterMap fun value => (step.option? value).bind StepOption.promptMedia
    | _, _ => []

theorem filterMap_valueMedia? (ctx : RunContext) (stepName : String) :
    (ctx.usedValues stepName).filterMap (ctx.valueMedia? stepName)
      = ctx.brought (.reference .step stepName) := by
  cases hanswer : ctx.answers.find? stepName with
  | none => simp [usedValues, brought, hanswer]
  | some answer =>
    cases hstep : Step.find? ctx.steps stepName with
    | none =>
      have hmedia : ctx.valueMedia? stepName = fun _ => none := by
        funext value
        simp [valueMedia?, option?, hstep]
      simp [brought, hanswer, hstep, hmedia]
    | some step =>
      have hmedia : ctx.valueMedia? stepName
          = fun value => (step.option? value).bind StepOption.promptMedia := by
        funext value
        simp [valueMedia?, option?, hstep]
      have hone : ctx.takesOne stepName = !step.stepType.allowsMultiple := by
        simp [takesOne, hstep]
      rw [hmedia, usedValues, hone, hanswer]
      cases htype : step.stepType <;> simp [brought, hanswer, hstep, htype, StepType.allowsMultiple]

/-- A segment contributes the media that it brings in; one that fails brings none. -/
theorem media_contribution (ctx : RunContext) (separator : String) (segment : Segment)
    (index : Nat) :
    (ctx.contribution separator segment index).toOption.elim [] (·.media)
      = ctx.brought segment := by
  cases segment with
  | literal text => rfl
  | reference kind identifier =>
    cases kind with
    | media =>
      cases hentry : Media.find? ctx.catalog identifier <;>
        simp [contribution, brought, hentry, Except.toOption]
    | step =>
      rw [← filterMap_valueMedia?]
      cases hvalues : ctx.usedValues identifier with
      | nil => simp [contribution, hvalues, Except.toOption]
      | cons value values => simp [contribution, hvalues, Except.toOption]

theorem media_pieces (ctx : RunContext) (separator : String) (segments : List Segment) :
    (ctx.pieces separator segments).flatMap (·.media) = segments.flatMap ctx.brought := by
  have hsegments : segments.flatMap ctx.brought
      = segments.zipIdx.flatMap fun member => ctx.brought member.1 := by
    rw [← List.flatMap_map Prod.fst, List.zipIdx_map_fst]
  rw [hsegments, pieces]
  induction segments.zipIdx with
  | nil => rfl
  | cons member members ih =>
    obtain ⟨segment, index⟩ := member
    rw [List.flatMap_cons, ← media_contribution ctx separator segment index, ← ih]
    cases hpiece : (ctx.contribution separator segment index).toOption <;>
      simp [hpiece]

theorem media_of_resolve (h : ctx.resolve segments separator = .ok prompt) :
    prompt.media = Media.firstOccurrences (segments.flatMap ctx.brought) := by
  rw [resolve_eq] at h
  split at h
  · cases h
    exact congrArg Media.firstOccurrences (ctx.media_pieces separator segments)
  · cases h

/-- CORRECT: a prompt attaches, of the media that its segments bring in, those whose id did not come
in before, and nothing else. So no id is attached twice, every id that came in is attached, and what
is attached under it is the entry that came in first. -/
theorem attached_media (h : ctx.resolve segments separator = .ok prompt) :
    let brought := segments.flatMap ctx.brought
    prompt.media = Media.newcomers brought ∧ (prompt.media.map Media.mediaId).Nodup ∧
      ∀ id, Media.find? prompt.media id = Media.find? brought id := by
  intro brought
  rw [media_of_resolve h]
  exact ⟨Media.firstOccurrences_eq_newcomers brought, Media.nodup_firstOccurrences brought,
    Media.find?_firstOccurrences brought⟩

/-- Two options and the catalog bring in the ids `a` and `b`, each in two versions, and a step that
takes one answer is given two values. -/
theorem attached_media_of_overlap :
    let media (id url : String) : Media := { mediaId := id, url }
    let option (value : String) (entry : Media) : StepOption := { value, promptMedia := some entry }
    let ctx : RunContext :=
      { answers := .ofList
          [("pet", .multiple ["dog", "cat", "dog"]), ("hat", .multiple ["red", "blue"])]
        steps :=
          [{ stepName := "pet", stepType := .multiSelect
             options := [option "cat" (media "a" "option"), option "dog" (media "b" "option")] },
           { stepName := "hat"
             options := [option "red" (media "b" "hat"), option "blue" (media "c" "hat")] }]
        catalog := [media "a" "catalog", media "b" "catalog"] }
    let segments : List Segment :=
      [.reference .media "a", .reference .step "pet", .literal " and ", .reference .step "hat",
        .reference .media "b"]
    let prompt : ResolvedPrompt :=
      { text := "dog, cat, dog and red", media := [media "a" "catalog", media "b" "option"] }
    ctx.resolve segments ", " = .ok prompt ∧
      prompt.media = Media.newcomers (segments.flatMap ctx.brought) ∧
      (prompt.media.map Media.mediaId).Nodup ∧
      ∀ id, Media.find? prompt.media id = Media.find? (segments.flatMap ctx.brought) id := by
  intro media option ctx segments prompt
  have hok : ctx.resolve segments ", " = .ok prompt := by rfl
  exact ⟨hok, attached_media hok⟩

end RunContext

end MentionPrompt
