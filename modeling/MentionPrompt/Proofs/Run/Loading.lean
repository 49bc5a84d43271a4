import MentionPrompt.Proofs.Storage.Running

/-!
The documents of a run.

Main statement: whatever is loaded, and whether it loads or not, the disk stays as it is.
-/

namespace MentionPrompt

/-- The answers of a document, none at all unless one is given. -/
def FileTask.loadAnswersOrNone (answers : Option String) : FileTask Answers :=
  match answers with
  | some path => loadAnswers path
  | none => pure {}

/-- What the documents of a run hold. -/
structure RunDocuments where
  template : Template
  steps : Option (List Step)
  answers : Answers

/-- The documents that a run names load from the disk. -/
structure RunDocuments.LoadFrom (docs : RunDocuments) (disk : Disk) (path : String)
    (workflow answers : Option String) : Prop where
  template : ((FileTask.loadTemplate path).runOn disk).1 = .ok docs.template
  steps : ((FileTask.loadSteps? workflow).runOn disk).1 = .ok docs.steps
  answers : ((FileTask.loadAnswersOrNone answers).runOn disk).1 = .ok docs.answers

/-! ### Loading leaves the disk as it is -/

namespace FileTask

theorem readsOnly_loadSteps (workflow : Option String) : (loadSteps workflow).ReadsOnly :=
  (readsOnly_loadSteps? workflow).bind fun _ => readsOnly_pure _

theorem readsOnly_loadTemplateOrEmpty (template : Option String) :
    (loadTemplateOrEmpty template).ReadsOnly := by
  cases template with
  | none => exact readsOnly_pure ({} : Template)
  | some path => exact readsOnly_loadTemplate path

theorem readsOnly_discoverConfig (explicit fromEnvironment : Option String) :
    (discoverConfig explicit fromEnvironment).ReadsOnly := by
  unfold discoverConfig
  split
  · exact readsOnly_load _ _ _
  · refine ReadsOnly.bind (fun disk => by rw [runOn_lift]; rfl) fun found => ?_
    split
    · exact readsOnly_load _ _ _
    · exact readsOnly_pure ({} : Config)

theorem readsOnly_loadAnswersOrNone (answers : Option String) :
    (loadAnswersOrNone answers).ReadsOnly := by
  cases answers with
  | none => exact readsOnly_pure ({} : Answers)
  | some path => exact readsOnly_load _ _ path

end FileTask

theorem TemplateSource.readsOnly_load (source : TemplateSource) : source.load.ReadsOnly := by
  cases source with
  | inline text => exact FileTask.readsOnly_pure _
  | file path => exact FileTask.readsOnly_loadTemplate path

end MentionPrompt
