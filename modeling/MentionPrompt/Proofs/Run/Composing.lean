import MentionPrompt.Proofs.Editing.Replay
import MentionPrompt.Proofs.Mention.Refresh
import MentionPrompt.Proofs.Run.Recording

/-!
Composing a text with a script, on a disk.

Main statement: either every pick of the script finds its candidate, and the text of the session is
delivered as a whole, or the run ends in the error of the first pick that finds none, and nothing is
delivered.

        a pick without a candidate ──▶ its error; no output, the file as it was
        all picks with a candidate ──▶ the text, in the file or as the output
-/

namespace MentionPrompt

namespace Composer

variable {composer : Composer} {script : List ScriptStep} {tag : String} {disk : Disk}

/-! ### Performing a script -/

theorem run_perform_of_error {error : PromptError} (h : composer.replay script = .error error)
    (out : Option String) :
    (composer.perform script tag out).run disk =
      (({ error := some error, notices := composer.replayNotices script }, error.details), disk) := by
  unfold perform
  rw [h]
  rfl

theorem run_perform_of_ok {played : Composer} (h : composer.replay script = .ok played) :
    (composer.perform script tag none).run disk =
      (({ Outcome.ofText played.text with notices := composer.replayNotices script },
        played.details), disk) := by
  unfold perform
  rw [h]
  rfl

theorem run_perform_of_written {played : Composer} {path : String} {after : Disk}
    (h : composer.replay script = .ok played)
    (hwritten : (FileTask.writeFile tag path played.text).runOn disk = (.ok (), after)) :
    (composer.perform script tag (some path)).run disk =
      (({ remarks := "Wrote " ++ path ++ "\n", notices := composer.replayNotices script },
        played.details), after) := by
  have hdelivered : (played.deliver tag (some path)).runOn disk =
      (.ok { remarks := "Wrote " ++ path ++ "\n" }, after) := FileTask.runOn_bind_ok hwritten
  have hrun : FileProgram.run disk (played.deliver tag (some path)).run =
      (.ok { remarks := "Wrote " ++ path ++ "\n" }, after) := hdelivered
  unfold perform
  rw [h]
  dsimp only
  rw [FileProgram.run_bind, hrun]
  rfl

end Composer

/-! ### Runs on a disk -/

/-- What the documents of a run that composes hold, and its script. -/
structure ComposeInputs where
  template : Template
  steps : List Step
  script : List ScriptStep

namespace ComposeInputs

/-- The documents load from the disk, and the script can be read. -/
structure LoadFrom (inputs : ComposeInputs) (disk : Disk) (keys : String)
    (template workflow : Option String) : Prop where
  steps : ((FileTask.loadSteps workflow).runOn disk).1 = .ok inputs.steps
  template : ((FileTask.loadTemplateOrEmpty template).runOn disk).1 = .ok inputs.template
  script : ScriptStep.parse keys = .ok inputs.script

/-- The session that the script is carried out in. -/
def first (inputs : ComposeInputs) (config : Config) : Composer :=
  .ofText inputs.template.canonicalText inputs.steps inputs.template.mediaCatalog
    config.captureOptions

/-- The session after the whole script. -/
def last (inputs : ComposeInputs) (config : Config) : Composer :=
  (inputs.first config).runScript inputs.script

variable {inputs : ComposeInputs} {disk : Disk} {keys : String} {template workflow : Option String}

theorem text_last_of_nil (h : inputs.script = []) (config : Config) :
    (inputs.last config).text = inputs.template.canonicalText := by
  rw [last, h]
  exact Tree.text_ofText _ _ _

/-- What the run has done when it comes to the log. -/
def work (inputs : ComposeInputs) (session : Session) (template out : Option String) (disk : Disk) :
    Work :=
  (inputs.first session.config).replayed inputs.script out template session.surroundings disk

theorem runOn_compose (h : inputs.LoadFrom disk keys template workflow) (session : Session)
    (out : Option String) :
    (runCompose session keys template workflow out).runOn disk =
      (inputs.work session template out disk).result session.eventsPath :=
  MentionPrompt.runOn_compose ((FileTask.readsOnly_loadSteps workflow).runOn_eq h.steps)
    ((FileTask.readsOnly_loadTemplateOrEmpty template).runOn_eq h.template) h.script

/-- The run ended at the first pick without a candidate, and nothing was delivered. -/
structure Refuses (inputs : ComposeInputs) (config : Config) (out : Option String)
    (disk : Disk) (outcome : Outcome) (after : Disk) : Prop where
  error : ∃ front index back, inputs.script = front ++ .pick index :: back ∧
    (inputs.first config).HitsAll front ∧
    ¬ ((inputs.first config).runScript front).Hits (.pick index) ∧
    outcome.error = some (((inputs.first config).runScript front).missError index)
  user : ∀ error ∈ outcome.error, error.cls = .user
  output : outcome.output = ""
  remarks : outcome.remarks = ""
  file : ∀ path ∈ out, ∀ content, after.get? (disk.place path) = some (.file content) ↔
    disk.get? (disk.place path) = some (.file content)

/-- The run ended well, and the text of the session was delivered as it is. -/
structure Delivers (inputs : ComposeInputs) (config : Config) (out : Option String)
    (disk : Disk) (outcome : Outcome) (after : Disk) : Prop where
  error : outcome.error = none
  output : outcome.output = if out.isSome then "" else (inputs.last config).text ++ "\n"
  file : ∀ path ∈ out,
    after.get? (disk.place path) = some (.file (inputs.last config).text.toUTF8)

section Ends

variable {session : Session} {out : Option String}

theorem refuses_of_not_hitsAll (h : inputs.LoadFrom disk keys template workflow)
    (hlog : ∀ log ∈ session.eventsPath, ∀ path ∈ out, disk.place log ≠ disk.place path)
    (hmiss : ¬ (inputs.first session.config).HitsAll inputs.script) :
    ∃ outcome, ((runCompose session keys template workflow out).runOn disk).1 = .ok outcome ∧
      inputs.Refuses session.config out disk outcome
        ((runCompose session keys template workflow out).runOn disk).2 := by
  obtain ⟨front, index, back, hscript, hfront, hpick, herror⟩ :=
    Composer.replay_of_not_hitsAll hmiss
  have hrun := runOn_compose h session out
  have hwork : (inputs.work session template out disk).outcome =
      { error := some (((inputs.first session.config).runScript front).missError index)
        notices := (inputs.first session.config).replayNotices inputs.script } ∧
      (inputs.work session template out disk).disk = disk := by
    rw [work, Composer.replayed, Composer.run_perform_of_error herror out]
    exact ⟨rfl, rfl⟩
  generalize inputs.work session template out disk = work at hrun hwork
  obtain ⟨notices, hclosed⟩ := work.outcome_close session.eventsPath
  rw [hrun, Work.result]
  refine ⟨_, rfl, ?_⟩
  rw [hclosed, hwork.1]
  refine ⟨⟨front, index, back, hscript, hfront, hpick, rfl⟩, ?_, rfl, rfl, ?_⟩
  · rintro _ ⟨⟩
    exact Composer.cls_missError _ index
  · intro path hpath content
    have hplaces : ∀ log ∈ session.eventsPath.toList, work.disk.place log ≠ disk.place path := by
      intro log hmem
      rw [hwork.2]
      exact hlog log (Option.mem_toList.1 hmem) path hpath
    rcases (work.changesOnly_close session.eventsPath).elsewhere _ hplaces with
      hsame | ⟨hnone, hmade⟩
    · rw [hsame, hwork.2]
    · rw [hwork.2] at hnone
      simp [hnone, hmade]

theorem delivers_of_hitsAll (h : inputs.LoadFrom disk keys template workflow)
    (hlog : ∀ log ∈ session.eventsPath, ∀ path ∈ out, disk.place log ≠ disk.place path)
    (hwrites : ∀ path ∈ out, ((FileTask.writeFile session.surroundings.processTag path
      (inputs.last session.config).text).runOn disk).1 = .ok ())
    (hhits : (inputs.first session.config).HitsAll inputs.script) :
    ∃ outcome, ((runCompose session keys template workflow out).runOn disk).1 = .ok outcome ∧
      inputs.Delivers session.config out disk outcome
        ((runCompose session keys template workflow out).runOn disk).2 := by
  have hreplay := Composer.replay_of_hitsAll hhits
  have hrun := runOn_compose h session out
  cases out with
  | none =>
    have hwork : (inputs.work session template none disk).outcome =
        { Outcome.ofText (inputs.last session.config).text with
          notices := (inputs.first session.config).replayNotices inputs.script } := by
      rw [work, Composer.replayed, Composer.run_perform_of_ok hreplay]
      rfl
    generalize inputs.work session template none disk = work at hrun hwork
    obtain ⟨notices, hclosed⟩ := work.outcome_close session.eventsPath
    rw [hrun, Work.result]
    refine ⟨_, rfl, ?_⟩
    rw [hclosed, hwork]
    exact ⟨rfl, rfl, by simp⟩
  | some path =>
    have hwritten : (FileTask.writeFile session.surroundings.processTag path
        (inputs.last session.config).text).runOn disk = (.ok (), _) :=
      Prod.ext (hwrites path rfl) rfl
    have hwork : (inputs.work session template (some path) disk).outcome =
        { remarks := "Wrote " ++ path ++ "\n"
          notices := (inputs.first session.config).replayNotices inputs.script } ∧
        (inputs.work session template (some path) disk).disk =
          ((FileTask.writeFile session.surroundings.processTag path
            (inputs.last session.config).text).runOn disk).2 := by
      rw [work, Composer.replayed, Composer.run_perform_of_written hreplay hwritten]
      exact ⟨rfl, rfl⟩
    generalize inputs.work session template (some path) disk = work at hrun hwork
    obtain ⟨notices, hclosed⟩ := work.outcome_close session.eventsPath
    rw [hrun, Work.result]
    refine ⟨_, rfl, ?_⟩
    rw [hclosed, hwork.1]
    refine ⟨rfl, rfl, ?_⟩
    rintro _ ⟨⟩
    have hplaces : ∀ log ∈ session.eventsPath.toList, work.disk.place log ≠ disk.place path := by
      intro log hmem
      rw [hwork.2, FileTask.place_of_runOn hwritten]
      exact hlog log (Option.mem_toList.1 hmem) path rfl
    refine (work.changesOnly_close session.eventsPath).get?_eq hplaces ?_
    rw [hwork.2]
    exact FileTask.get?_of_writeFile hwritten

end Ends

end ComposeInputs

/-- CORRECT: if the documents load and the script can be read, then either every pick finds its
candidate in the session that the steps before it lead to, and, if a file is asked for and can be
written, the run ends well and delivers the text of the session after the whole script; or the run
ends in the error of the first pick that finds none, and neither the output nor the file receives
anything. The text that an empty script delivers is that of the template. -/
theorem compose_all_or_nothing (disk : Disk) (session : Session) (keys : String)
    (template workflow out : Option String) (inputs : ComposeInputs)
    (h : inputs.LoadFrom disk keys template workflow)
    (hlog : ∀ log ∈ session.eventsPath, ∀ path ∈ out, disk.place log ≠ disk.place path) :
    ∃ outcome, ((runCompose session keys template workflow out).runOn disk).1 = .ok outcome ∧
      (¬ (inputs.first session.config).HitsAll inputs.script →
        inputs.Refuses session.config out disk outcome
          ((runCompose session keys template workflow out).runOn disk).2) ∧
      ((inputs.first session.config).HitsAll inputs.script →
        (∀ path ∈ out, ((FileTask.writeFile session.surroundings.processTag path
          (inputs.last session.config).text).runOn disk).1 = .ok ()) →
        inputs.Delivers session.config out disk outcome
          ((runCompose session keys template workflow out).runOn disk).2) ∧
      (inputs.script = [] → (inputs.last session.config).text = inputs.template.canonicalText) := by
  obtain ⟨outcome, hrun⟩ : ∃ outcome,
      ((runCompose session keys template workflow out).runOn disk).1 = .ok outcome :=
    ⟨_, congrArg Prod.fst (ComposeInputs.runOn_compose h session out)⟩
  refine ⟨outcome, hrun, fun hmiss => ?_, fun hhits hwrites => ?_,
    fun hempty => ComposeInputs.text_last_of_nil hempty _⟩
  · obtain ⟨other, hother, hrefuses⟩ := ComposeInputs.refuses_of_not_hitsAll h hlog hmiss
    obtain rfl : other = outcome := Except.ok.inj (hother.symm.trans hrun)
    exact hrefuses
  · obtain ⟨other, hother, hdelivers⟩ := ComposeInputs.delivers_of_hitsAll h hlog hwrites hhits
    obtain rfl : other = outcome := Except.ok.inj (hother.symm.trans hrun)
    exact hdelivers

/-- A script that goes on from a template, once with a pick that finds its candidate and once with one
that finds none, with a log and a file. -/
theorem compose_delivers_or_refuses :
    let disk : Disk :=
      { entries := [(["t.yaml"], .file "canonical_text: 'Draw '\n".toUTF8),
          (["w.yaml"], .file "steps: [\x7bstep_name: pet\x7d]\n".toUTF8),
          (["o.txt"], .file "held".toUTF8)] }
    let session : Session :=
      { surroundings := { processTag := "1", actor := "a", now := .ofSeconds 0 0 }
        eventsPath := "log" }
    let run (keys : String) := (runCompose session keys "t.yaml" "w.yaml" "o.txt").runOn disk
    (∃ outcome, (run "@pe<pick:0>").1 = .ok outcome ∧ outcome.error = none ∧
      (run "@pe<pick:0>").2.get? ["o.txt"] = some (.file "Draw @\x7bstep:pet\x7d ".toUTF8)) ∧
    ∃ outcome, (run "@pe<pick:1>").1 = .ok outcome ∧
      (∃ error, outcome.error = some error ∧ error.cls = .user) ∧ outcome.output = "" ∧
      (run "@pe<pick:1>").2.get? ["o.txt"] = some (.file "held".toUTF8) := by
  intro disk session run
  let inputs (index : UInt64) : ComposeInputs :=
    { template := { canonicalText := "Draw " }
      steps := [{ stepName := "pet" }]
      script := [.key (.char '@'), .key (.char 'p'), .key (.char 'e'), .pick index] }
  have hlog : ∀ log ∈ session.eventsPath, ∀ path ∈ some "o.txt",
      disk.place log ≠ disk.place path := by
    rintro _ ⟨⟩ _ ⟨⟩
    decide +kernel
  have hfinds : (inputs 0).LoadFrom disk "@pe<pick:0>" "t.yaml" "w.yaml" :=
    ⟨by decide +kernel, by decide +kernel, by decide +kernel⟩
  have hmisses : (inputs 1).LoadFrom disk "@pe<pick:1>" "t.yaml" "w.yaml" :=
    ⟨by decide +kernel, by decide +kernel, by decide +kernel⟩
  obtain ⟨outcome, hrun, -, hdelivers, -⟩ := compose_all_or_nothing disk session "@pe<pick:0>"
    "t.yaml" "w.yaml" "o.txt" (inputs 0) hfinds hlog
  obtain ⟨outcome', hrun', hrefuses, -, -⟩ := compose_all_or_nothing disk session "@pe<pick:1>"
    "t.yaml" "w.yaml" "o.txt" (inputs 1) hmisses hlog
  refine ⟨⟨outcome, hrun, ?_⟩, outcome', hrun', ?_⟩
  · have htext : ((inputs 0).last session.config).text = "Draw @\x7bstep:pet\x7d " := by
      decide +kernel
    have hends := hdelivers (by decide +kernel) (by rintro _ ⟨⟩; decide +kernel)
    have hfile := hends.file "o.txt" rfl
    rw [htext] at hfile
    exact ⟨hends.error, hfile⟩
  · have hends := hrefuses (by decide +kernel)
    obtain ⟨front, index, back, -, -, -, herror⟩ := hends.error
    exact ⟨⟨_, herror, hends.user _ herror⟩, hends.output,
      (hends.file "o.txt" rfl "held".toUTF8).2 (by rfl)⟩

end MentionPrompt
