import MentionPrompt.Proofs.Catalog.Snapshot
import MentionPrompt.Proofs.Resolution.Pieces

/-!
What a resolution depends on.

        segments    @step pet    @ref a
        seen        the answer to pet, the step pet with its options, the entry a
        not seen    any other answer, step or entry, and where in its catalog each stands

Each segment looks one name or id up. Main statement: two runs in which these look-ups agree come to
the same outcome, and remark on the same. So what the segments do not mention can be taken out, and
catalogs without repeated names and ids can be put in any order.
-/

namespace MentionPrompt.RunContext

variable {a b ctx : RunContext} {segments : List Segment} {segment : Segment}
  {stepName separator : String}

/-- To the segments, the runs look the same: on each step that these mention both have the same
answer and the same definition, or none, and on each medium the same entry, or none. -/
structure AgreeOn (segments : List Segment) (a b : RunContext) : Prop where
  answers : ∀ stepName, .reference .step stepName ∈ segments →
    a.answers.find? stepName = b.answers.find? stepName
  steps : ∀ stepName, .reference .step stepName ∈ segments →
    Step.find? a.steps stepName = Step.find? b.steps stepName
  catalog : ∀ mediaId, .reference .media mediaId ∈ segments →
    Media.find? a.catalog mediaId = Media.find? b.catalog mediaId

/-- The run without the answers, steps and media that the segments do not mention. -/
def onlyMentioned (ctx : RunContext) (segments : List Segment) : RunContext where
  answers := ⟨ctx.answers.entries.filter fun entry => .reference .step entry.1 ∈ segments⟩
  steps := ctx.steps.filter fun step => .reference .step step.stepName ∈ segments
  catalog := ctx.catalog.filter fun entry => .reference .media entry.mediaId ∈ segments

/-! ### One segment -/

theorem option?_congr (hstep : Step.find? a.steps stepName = Step.find? b.steps stepName) :
    a.option? stepName = b.option? stepName := by
  funext value
  rw [option?, option?, hstep]

theorem takesOne_congr (hstep : Step.find? a.steps stepName = Step.find? b.steps stepName) :
    a.takesOne stepName = b.takesOne stepName := by
  rw [takesOne, takesOne, hstep]

theorem usedValues_congr (hanswer : a.answers.find? stepName = b.answers.find? stepName)
    (hstep : Step.find? a.steps stepName = Step.find? b.steps stepName) :
    a.usedValues stepName = b.usedValues stepName := by
  rw [usedValues, usedValues, hanswer, takesOne_congr hstep]

/-- A segment of a run that looks the same contributes the same, or fails in the same way. -/
theorem AgreeOn.contribution_eq (h : AgreeOn segments a b) (hmem : segment ∈ segments)
    (separator : String) (index : Nat) :
    a.contribution separator segment index = b.contribution separator segment index := by
  cases segment with
  | literal text => rfl
  | reference kind identifier =>
    cases kind with
    | media => simp only [contribution, h.catalog identifier hmem]
    | step =>
      have hoption := option?_congr (h.steps identifier hmem)
      have hused := usedValues_congr (h.answers identifier hmem) (h.steps identifier hmem)
      have htext : a.valueText identifier = b.valueText identifier := by
        funext value
        rw [valueText, valueText, hoption]
      have hmedia : a.valueMedia? identifier = b.valueMedia? identifier := by
        funext value
        rw [valueMedia?, valueMedia?, hoption]
      simp only [contribution, hused, htext, hmedia]

theorem AgreeOn.stepNotices_eq (h : AgreeOn segments a b)
    (hmem : .reference .step stepName ∈ segments) :
    a.stepNotices stepName = b.stepNotices stepName := by
  have hanswer := h.answers stepName hmem
  have hstep := h.steps stepName hmem
  simp only [stepNotices, hanswer, hstep, takesOne_congr hstep, usedValues_congr hanswer hstep,
    option?_congr hstep]

/-! ### All segments -/

theorem resolve_congr (h : ∀ segment ∈ segments, ∀ index,
      a.contribution separator segment index = b.contribution separator segment index) :
    a.resolve segments separator = b.resolve segments separator := by
  have hmember : ∀ member ∈ segments.zipIdx,
      a.contribution separator member.1 member.2 = b.contribution separator member.1 member.2 :=
    fun member hmem => h member.1 (List.fst_mem_of_mem_zipIdx hmem) member.2
  have hpieces : a.pieces separator segments = b.pieces separator segments :=
    List.filterMap_congr fun member hmem => congrArg Except.toOption (hmember member hmem)
  have hfailures : a.failures separator segments = b.failures separator segments :=
    List.filterMap_congr fun member hmem => by simp only [failure?, hmember member hmem]
  rw [resolve_eq, resolve_eq, hpieces, hfailures]

theorem AgreeOn.resolve_eq (h : AgreeOn segments a b) (separator : String) :
    a.resolve segments separator = b.resolve segments separator :=
  resolve_congr fun _ hmem => h.contribution_eq hmem separator

theorem AgreeOn.notices_eq (h : AgreeOn segments a b) :
    a.notices segments = b.notices segments := by
  refine List.flatMap_congr fun segment hmem => ?_
  cases segment with
  | literal text => rfl
  | reference kind identifier =>
    cases kind with
    | media => rfl
    | step => exact h.stepNotices_eq hmem

/-! ### Runs that agree -/

/-- Entries that are looked up for no mention make no difference. -/
theorem find?_filter_of_imp {α : Type} {list : List α} {wanted keep : α → Bool}
    (h : ∀ member, wanted member = true → keep member = true) :
    (list.filter keep).find? wanted = list.find? wanted := by
  rw [List.find?_filter]
  congr 1
  funext member
  by_cases hwanted : wanted member = true
  · simp [hwanted, h member hwanted]
  · simp [hwanted]

theorem agreeOn_onlyMentioned (ctx : RunContext) (segments : List Segment) :
    AgreeOn segments (ctx.onlyMentioned segments) ctx where
  answers stepName hmem := by
    refine congrArg (Option.map Prod.snd) (find?_filter_of_imp fun entry hentry => ?_)
    simpa [of_decide_eq_true hentry] using hmem
  steps stepName hmem := find?_filter_of_imp fun step hstep => by
    simpa [eq_of_beq hstep] using hmem
  catalog mediaId hmem := find?_filter_of_imp fun entry hentry => by
    simpa [eq_of_beq hentry] using hmem

theorem agreeOn_of_perm {steps : List Step} {catalog : List Media}
    (hnames : (ctx.steps.map Step.stepName).Nodup) (hids : (ctx.catalog.map Media.mediaId).Nodup)
    (hsteps : steps.Perm ctx.steps) (hcatalog : catalog.Perm ctx.catalog) :
    AgreeOn segments { ctx with steps, catalog } ctx where
  answers _ _ := rfl
  steps stepName _ := find?_eq_of_perm hnames hsteps stepName
  catalog mediaId _ := find?_eq_of_perm hids hcatalog mediaId

/-- CORRECT: runs that look the same to the segments come to the same outcome, prompt or failures,
and remark on the same. So a run comes to the same without the answers, steps and media that the
segments do not mention, and with its catalogs in any other order, if no name and no id repeats. -/
theorem resolution_sees_only_mentions (segments : List Segment) (separator : String) :
    (∀ a b : RunContext, AgreeOn segments a b →
      a.resolve segments separator = b.resolve segments separator ∧
        a.notices segments = b.notices segments) ∧
    (∀ ctx : RunContext,
      (ctx.onlyMentioned segments).resolve segments separator = ctx.resolve segments separator) ∧
    ∀ (ctx : RunContext) (steps : List Step) (catalog : List Media),
      (ctx.steps.map Step.stepName).Nodup → (ctx.catalog.map Media.mediaId).Nodup →
      steps.Perm ctx.steps → catalog.Perm ctx.catalog →
      { ctx with steps, catalog }.resolve segments separator = ctx.resolve segments separator := by
  refine ⟨fun a b h => ⟨h.resolve_eq separator, h.notices_eq⟩, fun ctx => ?_, ?_⟩
  · exact (agreeOn_onlyMentioned ctx segments).resolve_eq separator
  · intro ctx steps catalog hnames hids hsteps hcatalog
    exact (agreeOn_of_perm hnames hids hsteps hcatalog).resolve_eq separator

/-- The second run answers another step, keeps its catalogs in another order, and has an entry with
the id of a medium that an option brings. -/
theorem sees_only_mentions_of_two_runs :
    let brought : Media := { mediaId := "m", url := "option" }
    let sky : Media := { mediaId := "sky", url := "u" }
    let cat : StepOption :=
      { value := "cat", promptFragment := some "a cat", promptMedia := some brought }
    let pet : Step := { stepName := "pet", stepType := .multiSelect, options := [cat] }
    let hat : Step := { stepName := "hat" }
    let answer : Answer := .multiple ["cat", "dog"]
    let a : RunContext :=
      { answers := .ofList [("pet", answer)], steps := [pet, hat], catalog := [sky] }
    let b : RunContext :=
      { answers := .ofList [("hat", .single "red"), ("pet", answer)]
        steps := [hat, pet], catalog := [{ mediaId := "m", url := "catalog" }, sky] }
    let segments : List Segment :=
      [.literal "For ", .reference .step "pet", .reference .media "sky"]
    let prompt : ResolvedPrompt := { text := "For a cat, dog", media := [brought, sky] }
    AgreeOn segments a b ∧
      a.resolve segments ", " = .ok prompt ∧ b.resolve segments ", " = .ok prompt := by
  intro brought sky cat pet hat answer a b segments prompt
  have hagree : AgreeOn segments a b := by
    refine ⟨fun stepName hmem => ?_, fun stepName hmem => ?_, fun mediaId hmem => ?_⟩
    · obtain rfl : stepName = "pet" := by simpa [segments] using hmem
      rfl
    · obtain rfl : stepName = "pet" := by simpa [segments] using hmem
      rfl
    · obtain rfl : mediaId = "sky" := by simpa [segments] using hmem
      rfl
  have hprompt : b.resolve segments ", " = .ok prompt := by rfl
  have hsame := ((resolution_sees_only_mentions segments ", ").1 a b hagree).1
  exact ⟨hagree, hsame.trans hprompt, hprompt⟩

end MentionPrompt.RunContext
