import MentionPrompt.Run.Viewing
import MentionPrompt.Storage.Disk

/-!
Tasks carried out on a disk.

Main statements: a task goes on with what its first part gives and the disk that this leaves, and the
tasks that load documents leave the disk as it is.
-/

namespace MentionPrompt.FileTask

variable {α β : Type}

/-- What a task comes to on a disk, and the disk after it. -/
def runOn (task : FileTask α) (disk : Disk) : Except PromptError α × Disk :=
  FileProgram.run disk (ExceptT.run task)

theorem runOn_lift (program : FileProgram α) (disk : Disk) :
    runOn (liftM program) disk = (.ok (program.run disk).1, (program.run disk).2) :=
  FileProgram.run_bind disk program _

theorem runOn_ofExcept (value : Except PromptError α) (disk : Disk) :
    runOn (liftM value : FileTask α) disk = (value, disk) := rfl

theorem runOn_bind (task : FileTask α) (next : α → FileTask β) (disk : Disk) :
    (task >>= next).runOn disk = match task.runOn disk with
      | (.ok value, after) => (next value).runOn after
      | (.error error, after) => (.error error, after) := by
  unfold runOn
  rw [ExceptT.run_bind, FileProgram.run_bind]
  rcases FileProgram.run disk (ExceptT.run task) with ⟨error | value, after⟩
  · rfl
  · rfl

theorem runOn_bind_ok {task : FileTask α} {next : α → FileTask β} {disk after : Disk} {value : α}
    (h : task.runOn disk = (.ok value, after)) :
    (task >>= next).runOn disk = (next value).runOn after := by
  rw [runOn_bind, h]

theorem runOn_bind_eq_ok {task : FileTask α} {next : α → FileTask β} {disk after : Disk}
    {result : β} :
    (task >>= next).runOn disk = (.ok result, after) ↔
      ∃ value between, task.runOn disk = (.ok value, between) ∧
        (next value).runOn between = (.ok result, after) := by
  rw [runOn_bind]
  rcases task.runOn disk with ⟨error | value, between⟩
  · simp
  · constructor
    · exact fun h => ⟨value, between, rfl, h⟩
    · rintro ⟨_, _, ⟨⟩, h⟩
      exact h

/-! ### Loading -/

/-- The task leaves every disk as it is. -/
def ReadsOnly (task : FileTask α) : Prop := ∀ disk, (task.runOn disk).2 = disk

theorem ReadsOnly.runOn_eq {task : FileTask α} (h : task.ReadsOnly) {disk : Disk} {value : α}
    (hvalue : (task.runOn disk).1 = .ok value) : task.runOn disk = (.ok value, disk) :=
  Prod.ext hvalue (h disk)

/-- The task gives a value on the disk. -/
def Loads (task : FileTask α) (disk : Disk) : Prop := ∃ value, (task.runOn disk).1 = .ok value

theorem loads_of_runOn {task : FileTask α} {disk after : Disk} {value : α}
    (h : task.runOn disk = (.ok value, after)) : task.Loads disk := ⟨value, congrArg Prod.fst h⟩

theorem ReadsOnly.loads {task : FileTask α} (h : task.ReadsOnly) {disk : Disk}
    (hloads : task.Loads disk) : ∃ value, task.runOn disk = (.ok value, disk) :=
  hloads.imp fun _ hvalue => h.runOn_eq hvalue

theorem readsOnly_pure (value : α) : ReadsOnly (pure value) := fun _ => rfl

theorem ReadsOnly.bind {task : FileTask α} {next : α → FileTask β} (h : task.ReadsOnly)
    (hnext : ∀ value, (next value).ReadsOnly) : (task >>= next).ReadsOnly := by
  intro disk
  rw [runOn_bind]
  have hdisk := h disk
  split
  · rename_i value after heq
    rw [heq] at hdisk
    rw [hnext value after, ← hdisk]
  · rename_i error after heq
    rwa [heq] at hdisk

theorem ReadsOnly.map {task : FileTask α} (f : α → β) (h : task.ReadsOnly) :
    (f <$> task).ReadsOnly := by
  rw [map_eq_pure_bind]
  exact h.bind fun value => readsOnly_pure (f value)

theorem readsOnly_readText (kind : DocumentKind) (path : String) :
    (readText kind path).ReadsOnly := by
  intro disk
  unfold readText runOn
  rw [ExceptT.run_mk, FileProgram.run_bind]
  split
  · rfl
  · split <;> rfl

theorem readsOnly_load (kind : DocumentKind) (ofYaml : String → Except PromptError α)
    (path : String) : (load kind ofYaml path).ReadsOnly :=
  (readsOnly_readText kind path).bind fun _ _ => rfl

theorem readsOnly_loadTemplate (path : String) : (loadTemplate path).ReadsOnly :=
  readsOnly_load _ _ path

theorem readsOnly_loadSteps? (workflow : Option String) : (loadSteps? workflow).ReadsOnly := by
  cases workflow with
  | none => exact readsOnly_pure none
  | some path => exact ((readsOnly_load _ _ path).map Workflow.steps).map some

end MentionPrompt.FileTask
