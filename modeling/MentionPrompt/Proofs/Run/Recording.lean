import MentionPrompt.Proofs.Run.Loading
import MentionPrompt.Proofs.Storage.Logs
import MentionPrompt.Run.Perform

/-!
What a command does with the log of its run.

A command starts its work once its documents load. Main statements: one that does not start leaves the
disk as it is and ends in the same way whatever log is kept; one that starts does the same work
whatever log is kept, and at last adds one event to the log.
-/

namespace MentionPrompt

namespace Command

/-- The command that is audited under an action; the commands that only look are not audited. -/
def action? : Command → Option EventAction
  | .parse _ | .nodes _ _ _ | .candidates _ _ _ => none
  | .validate _ _ => some .validate
  | .resolve _ _ _ => some .resolve
  | .compose _ _ _ _ => some .compose

/-- The documents of an audited command load, and its script can be read if it has one. -/
def Starts (disk : Disk) : Command → Prop
  | .parse _ | .nodes _ _ _ | .candidates _ _ _ => False
  | .validate template workflow =>
    (FileTask.loadTemplate template).Loads disk ∧ (FileTask.loadSteps workflow).Loads disk
  | .resolve template workflow answers =>
    (FileTask.loadTemplate template).Loads disk ∧ (FileTask.loadSteps? workflow).Loads disk ∧
      (FileTask.loadAnswersOrNone answers).Loads disk
  | .compose keys template workflow _ =>
    (FileTask.loadSteps workflow).Loads disk ∧ (FileTask.loadTemplateOrEmpty template).Loads disk ∧
      ∃ script, ScriptStep.parse keys = .ok script

/-- The file that the command writes, and its temporary file. -/
def outputs (tag : String) : Command → List String
  | .compose _ _ _ (some path) => path :: (FileTask.temporaryPath? tag path).toList
  | _ => []

end Command

/-! ### Commands that do not start -/

section Silent

variable {Log α β : Type} {disk : Disk}

/-- Whatever log is kept, the task ends in the same way and leaves the disk as it is. -/
def Silent (disk : Disk) (task : Log → FileTask α) : Prop :=
  ∃ result, ∀ log, (task log).runOn disk = (result, disk)

theorem silent_of_readsOnly {task : FileTask α} (h : task.ReadsOnly) (disk : Disk) :
    Silent disk fun _ : Log => task :=
  ⟨_, fun _ => Prod.ext rfl (h disk)⟩

theorem Silent.bind {task : FileTask α} {next : Log → α → FileTask β} (h : task.ReadsOnly)
    (hnext : ∀ value, task.runOn disk = (.ok value, disk) → Silent disk fun log => next log value) :
    Silent disk fun log => task >>= next log := by
  have hdisk := h disk
  rcases htask : task.runOn disk with ⟨error | value, after⟩
  · rw [htask] at hdisk
    refine ⟨.error error, fun log => ?_⟩
    rw [FileTask.runOn_bind, htask, ← hdisk]
  · rw [htask] at hdisk
    obtain rfl : after = disk := hdisk
    obtain ⟨result, hresult⟩ := hnext value htask
    refine ⟨result, fun log => ?_⟩
    rw [FileTask.runOn_bind_ok htask, hresult]

end Silent

theorem Command.silent {command : Command} {disk : Disk} (h : ¬ command.Starts disk)
    (surroundings : Surroundings) (config : Config) :
    Silent disk fun log => command.perform { surroundings, config, eventsPath := log } := by
  cases command with
  | parse source =>
    exact silent_of_readsOnly (source.readsOnly_load.bind fun _ => FileTask.readsOnly_pure _) disk
  | nodes source workflow json =>
    refine silent_of_readsOnly (source.readsOnly_load.bind fun _ => ?_) disk
    exact (FileTask.readsOnly_loadSteps? workflow).bind fun _ => FileTask.readsOnly_pure _
  | candidates query template workflow =>
    have hreads : (runCandidates { surroundings, config } query template workflow).ReadsOnly :=
      (FileTask.readsOnly_loadSteps workflow).bind fun _ =>
        (FileTask.readsOnly_loadTemplateOrEmpty template).bind fun _ => FileTask.readsOnly_pure _
    exact silent_of_readsOnly hreads disk
  | validate path workflow =>
    refine Silent.bind (FileTask.readsOnly_loadTemplate path) fun template htemplate => ?_
    refine Silent.bind (FileTask.readsOnly_loadSteps workflow) fun steps hsteps => ?_
    exact absurd ⟨FileTask.loads_of_runOn htemplate, FileTask.loads_of_runOn hsteps⟩ h
  | resolve path workflow answers =>
    refine Silent.bind (FileTask.readsOnly_loadTemplate path) fun template htemplate => ?_
    refine Silent.bind (FileTask.readsOnly_loadSteps? workflow) fun steps hsteps => ?_
    have hreads := FileTask.readsOnly_loadAnswersOrNone answers
    have hrefused : ∀ value, (FileTask.loadAnswersOrNone answers).runOn disk ≠ (.ok value, disk) :=
      fun value hanswers => h ⟨FileTask.loads_of_runOn htemplate, FileTask.loads_of_runOn hsteps,
        FileTask.loads_of_runOn hanswers⟩
    cases answers with
    | none => exact Silent.bind hreads fun value hanswers => absurd hanswers (hrefused value)
    | some document =>
      exact Silent.bind hreads fun value hanswers => absurd hanswers (hrefused value)
  | compose keys template workflow out =>
    refine Silent.bind (FileTask.readsOnly_loadSteps workflow) fun steps hsteps => ?_
    refine Silent.bind (FileTask.readsOnly_loadTemplateOrEmpty template) fun start htemplate => ?_
    refine Silent.bind (fun disk => rfl) fun script hscript => ?_
    exact absurd ⟨FileTask.loads_of_runOn hsteps, FileTask.loads_of_runOn htemplate,
      script, congrArg Prod.fst hscript⟩ h

/-! ### Commands that start -/

/-- What a command has done when it comes to the log: its outcome so far, the event, and the disk. -/
structure Work where
  outcome : Outcome
  event : Event
  disk : Disk

/-- What comes of the work with a log and without one: an event that cannot be added is remarked on. -/
def Work.close (work : Work) : Option String → Outcome × Disk
  | none => (work.outcome, work.disk)
  | some path =>
    match (FileTask.appendEvent path work.event).runOn work.disk with
    | (.ok (), after) => (work.outcome, after)
    | (.error error, after) =>
      let notice := Notice.unloggedEvent work.event.action.name error.message
      ({ work.outcome with notices := work.outcome.notices ++ [notice] }, after)

/-- The same as the result of a task: a command that starts has an outcome. -/
def Work.result (work : Work) (log : Option String) : Except PromptError Outcome × Disk :=
  (.ok (work.close log).1, (work.close log).2)

section Close

variable {work : Work} {path : String} {after : Disk}

theorem Work.close_of_ok
    (h : (FileTask.appendEvent path work.event).runOn work.disk = (.ok (), after)) :
    work.close (some path) = (work.outcome, after) := by
  simp only [close, h]

theorem Work.close_of_error {error : PromptError}
    (h : (FileTask.appendEvent path work.event).runOn work.disk = (.error error, after)) :
    let notice := Notice.unloggedEvent work.event.action.name error.message
    work.close (some path) =
      ({ work.outcome with notices := work.outcome.notices ++ [notice] }, after) := by
  simp only [close, h]

/-- The log has no part in what comes of the work, but for the remarks. -/
theorem Work.outcome_close (work : Work) (log : Option String) :
    ∃ notices, (work.close log).1 = { work.outcome with notices } := by
  cases log with
  | none => exact ⟨work.outcome.notices, rfl⟩
  | some path =>
    rcases hadded : (FileTask.appendEvent path work.event).runOn work.disk with ⟨error | ⟨⟩, after⟩
    · exact ⟨_, congrArg Prod.fst (close_of_error hadded)⟩
    · exact ⟨_, congrArg Prod.fst (close_of_ok hadded)⟩

theorem Work.changesOnly_close (work : Work) (log : Option String) :
    Disk.ChangesOnly log.toList work.disk (work.close log).2 := by
  cases log with
  | none => exact .refl _ _
  | some path =>
    have hkeeps := FileTask.keepsTo_appendContent path (work.event.line ++ "\n").toUTF8 work.disk
    rw [← FileTask.appendEvent_eq] at hkeeps
    rcases hadded : (FileTask.appendEvent path work.event).runOn work.disk with ⟨error | ⟨⟩, after⟩
    · rw [close_of_error hadded]
      rwa [hadded] at hkeeps
    · rw [close_of_ok hadded]
      rwa [hadded] at hkeeps

end Close

/-- Carried out on a disk the command does this work, whatever log is kept. -/
structure Command.Works (command : Command) (surroundings : Surroundings) (config : Config)
    (disk : Disk) (work : Work) : Prop where
  action : command.action? = some work.event.action
  verdict : work.event.outcome = .ofError work.outcome.error
  changes : Disk.ChangesOnly (command.outputs surroundings.processTag) disk work.disk
  closes : ∀ log, (command.perform { surroundings, config, eventsPath := log }).runOn disk =
    work.result log

theorem run_record (session : Session) (event : Event) (disk : Disk) :
    (session.record event).run disk = match session.eventsPath with
      | none => ([], disk)
      | some path =>
        match (FileTask.appendEvent path event).runOn disk with
        | (.ok (), after) => ([], after)
        | (.error error, after) => ([.unloggedEvent event.action.name error.message], after) := by
  unfold Session.record
  cases session.eventsPath with
  | none => rfl
  | some path =>
    dsimp only
    rw [FileProgram.run_bind]
    unfold FileTask.runOn
    rcases FileProgram.run disk (ExceptT.run (FileTask.appendEvent path event)) with
      ⟨error | ⟨⟩, after⟩
    · rfl
    · rfl

/-- The last part of every audited command: the event is logged, and remarks on that come last. -/
theorem runOn_record (work : Work) (session : Session) :
    (liftM (session.record work.event) >>= fun notices =>
      (pure { work.outcome with notices := work.outcome.notices ++ notices } :
        FileTask Outcome)).runOn work.disk = work.result session.eventsPath := by
  rw [FileTask.runOn_bind_ok (FileTask.runOn_lift ..), run_record, Work.result]
  have hnone : { work.outcome with notices := work.outcome.notices ++ [] } = work.outcome := by
    rw [List.append_nil]
  cases session.eventsPath with
  | none => exact congrArg (fun outcome => (Except.ok outcome, work.disk)) hnone
  | some path =>
    dsimp only
    rcases hadded : (FileTask.appendEvent path work.event).runOn work.disk with ⟨error | ⟨⟩, after⟩
    · rw [Work.close_of_error hadded]
      rfl
    · rw [Work.close_of_ok hadded]
      exact congrArg (fun outcome => (Except.ok outcome, after)) hnone

/-- What a validation has done when it comes to the log. -/
def Template.validation (template : Template) (steps : List Step) (path : String)
    (surroundings : Surroundings) (disk : Disk) : Work :=
  let report := template.validate steps
  let error := report.error? .validate path
  { outcome := { Outcome.ofJson report.toJson with error }
    event := ({ surroundings } : Session).event .validate (.ofError error) (some path) report.counts
    disk }

/-- What a resolution has done when it comes to the log. -/
def RunDocuments.resolution (docs : RunDocuments) (path : String) (surroundings : Surroundings)
    (config : Config) (disk : Disk) : Work :=
  let result := docs.template.resolve docs.steps docs.answers config.multiSelectSeparator
  let context := docs.template.runContext docs.steps docs.answers
  let error := result.error? path
  { outcome := { result.outcome with
      notices := if result.wasTried then context.notices docs.template.segments else []
      error }
    event := ({ surroundings } : Session).event .resolve (.ofError error) (some path) result.details
    disk }

/-- What the replay of a script has done when it comes to the log. -/
def Composer.replayed (composer : Composer) (script : List ScriptStep) (out : Option String)
    (template : Option String) (surroundings : Surroundings) (disk : Disk) : Work :=
  let performed := (composer.perform script surroundings.processTag out).run disk
  let error := performed.1.1.error
  { outcome := performed.1.1
    event := ({ surroundings } : Session).event .compose (.ofError error) template performed.1.2
    disk := performed.2 }

section Closing

variable {session : Session} {disk : Disk}

theorem runOn_validate {path : String} {workflow : Option String} {template : Template}
    {steps : List Step} (htemplate : (FileTask.loadTemplate path).runOn disk = (.ok template, disk))
    (hsteps : (FileTask.loadSteps workflow).runOn disk = (.ok steps, disk)) :
    let work := template.validation steps path session.surroundings disk
    (runValidate session path workflow).runOn disk = work.result session.eventsPath := by
  intro work
  unfold runValidate
  rw [FileTask.runOn_bind_ok htemplate, FileTask.runOn_bind_ok hsteps]
  exact runOn_record work session

theorem runOn_resolve {path : String} {workflow answers : Option String} {docs : RunDocuments}
    (htemplate : (FileTask.loadTemplate path).runOn disk = (.ok docs.template, disk))
    (hsteps : (FileTask.loadSteps? workflow).runOn disk = (.ok docs.steps, disk))
    (hanswers : (FileTask.loadAnswersOrNone answers).runOn disk = (.ok docs.answers, disk)) :
    let work := docs.resolution path session.surroundings session.config disk
    (runResolve session path workflow answers).runOn disk = work.result session.eventsPath := by
  intro work
  unfold runResolve
  rw [FileTask.runOn_bind_ok htemplate, FileTask.runOn_bind_ok hsteps]
  cases answers with
  | none =>
    have hnone : FileTask.runOn (pure {}) disk = (.ok docs.answers, disk) := hanswers
    dsimp only
    rw [FileTask.runOn_bind_ok hnone]
    exact runOn_record work session
  | some document =>
    have hsome : (FileTask.loadAnswers document).runOn disk = (.ok docs.answers, disk) := hanswers
    dsimp only
    rw [FileTask.runOn_bind_ok hsome]
    exact runOn_record work session

theorem runOn_compose {keys : String} {template workflow out : Option String} {start : Template}
    {steps : List Step} {script : List ScriptStep}
    (hsteps : (FileTask.loadSteps workflow).runOn disk = (.ok steps, disk))
    (htemplate : (FileTask.loadTemplateOrEmpty template).runOn disk = (.ok start, disk))
    (hscript : ScriptStep.parse keys = .ok script) :
    let composer :=
      Composer.ofText start.canonicalText steps start.mediaCatalog session.config.captureOptions
    let work := composer.replayed script out template session.surroundings disk
    (runCompose session keys template workflow out).runOn disk = work.result session.eventsPath := by
  intro composer work
  have hparsed : FileTask.runOn (liftM (ScriptStep.parse keys)) disk = (.ok script, disk) := by
    rw [FileTask.runOn_ofExcept, hscript]
  unfold runCompose
  rw [FileTask.runOn_bind_ok hsteps, FileTask.runOn_bind_ok htemplate,
    FileTask.runOn_bind_ok hparsed]
  dsimp only
  rw [FileTask.runOn_bind_ok (FileTask.runOn_lift ..)]
  exact runOn_record work session

end Closing

/-! ### What the work changes -/

theorem Composer.keepsTo_deliver (composer : Composer) (tag keys : String)
    (template workflow out : Option String) :
    (composer.deliver tag out).KeepsTo
      ((Command.compose keys template workflow out).outputs tag) := by
  cases out with
  | none => exact (FileTask.readsOnly_pure (Outcome.ofText composer.text)).keepsTo
  | some path =>
    exact (FileTask.keepsTo_writeFile tag path composer.text).bind fun _ =>
      (FileTask.readsOnly_pure _).keepsTo

theorem Composer.keepsTo_perform (composer : Composer) (script : List ScriptStep)
    (tag keys : String) (template workflow out : Option String) :
    (composer.perform script tag out).KeepsTo
      ((Command.compose keys template workflow out).outputs tag) := by
  unfold Composer.perform
  split
  · exact .done _
  · rename_i played _
    refine FileProgram.KeepsTo.bind (played.keepsTo_deliver tag keys template workflow out) ?_
    rintro (error | outcome)
    · exact .done _
    · exact .done _

/-- A command that starts does the same work whatever log is kept. -/
theorem Command.works {command : Command} {disk : Disk} (h : command.Starts disk)
    (surroundings : Surroundings) (config : Config) :
    ∃ work, command.Works surroundings config disk work := by
  cases command with
  | parse source | nodes source workflow json | candidates query template workflow => exact h.elim
  | validate path workflow =>
    obtain ⟨template, htemplate⟩ := (FileTask.readsOnly_loadTemplate path).loads h.1
    obtain ⟨steps, hsteps⟩ := (FileTask.readsOnly_loadSteps workflow).loads h.2
    exact ⟨template.validation steps path surroundings disk, rfl, rfl, .refl _ disk,
      fun _ => runOn_validate htemplate hsteps⟩
  | resolve path workflow answers =>
    obtain ⟨template, htemplate⟩ := (FileTask.readsOnly_loadTemplate path).loads h.1
    obtain ⟨steps, hsteps⟩ := (FileTask.readsOnly_loadSteps? workflow).loads h.2.1
    obtain ⟨answered, hanswers⟩ := (FileTask.readsOnly_loadAnswersOrNone answers).loads h.2.2
    let docs : RunDocuments := { template, steps, answers := answered }
    exact ⟨docs.resolution path surroundings config disk, rfl, rfl, .refl _ disk,
      fun _ => runOn_resolve htemplate hsteps hanswers⟩
  | compose keys template workflow out =>
    obtain ⟨steps, hsteps⟩ := (FileTask.readsOnly_loadSteps workflow).loads h.1
    obtain ⟨start, htemplate⟩ := (FileTask.readsOnly_loadTemplateOrEmpty template).loads h.2.1
    obtain ⟨script, hscript⟩ := h.2.2
    let composer :=
      Composer.ofText start.canonicalText steps start.mediaCatalog config.captureOptions
    exact ⟨composer.replayed script out template surroundings disk, rfl, rfl,
      composer.keepsTo_perform script _ keys template workflow out disk,
      fun _ => runOn_compose hsteps htemplate hscript⟩

end MentionPrompt
