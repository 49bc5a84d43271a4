import MentionPrompt.Proofs.Storage.Frame
import MentionPrompt.Proofs.Storage.Running

/-!
What a task leaves alone on a disk.

Main statement: writing a file changes nothing but what stands in the places of the file and of its
temporary file; elsewhere directories appear at most, and none goes away.
-/

namespace MentionPrompt

/-- No program moves to another working directory, so a path leads to one place all along. -/
theorem FileProgram.place_run {α : Type} (program : FileProgram α) (disk : Disk) (path : String) :
    (program.run disk).2.place path = disk.place path := by
  induction program generalizing disk with
  | done result => rfl
  | call c next ih => exact (ih _ _).trans ((disk.changesOnly_answer c).place path)

theorem FileTask.place_of_runOn {α : Type} {task : FileTask α} {disk after : Disk}
    {result : Except PromptError α} (h : task.runOn disk = (result, after)) (path : String) :
    after.place path = disk.place path := by
  have hplace := FileProgram.place_run (ExceptT.run task) disk path
  rwa [show FileProgram.run disk (ExceptT.run task) = (result, after) from h] at hplace

/-- On every disk the program changes nothing but what stands where the paths lead to. -/
def FileProgram.KeepsTo {α : Type} (paths : List String) (program : FileProgram α) : Prop :=
  ∀ disk, Disk.ChangesOnly paths disk (program.run disk).2

namespace FileProgram.KeepsTo

variable {α β : Type} {paths : List String}

theorem done (result : α) : KeepsTo paths (.done result) := fun disk => .refl paths disk

theorem ask {call : FileCall} (h : call.changed ⊆ paths) : KeepsTo paths (.ask call) :=
  fun disk => (disk.changesOnly_answer call).mono h

theorem bind {program : FileProgram α} {next : α → FileProgram β} (h : program.KeepsTo paths)
    (hnext : ∀ value, (next value).KeepsTo paths) : (program >>= next).KeepsTo paths := by
  intro disk
  rw [FileProgram.run_bind]
  exact (h disk).trans (hnext _ _)

end FileProgram.KeepsTo

namespace FileTask

variable {α β : Type} {paths : List String}

/-- On every disk the task changes nothing but what stands where the paths lead to. -/
def KeepsTo (paths : List String) (task : FileTask α) : Prop :=
  ∀ disk, Disk.ChangesOnly paths disk (task.runOn disk).2

theorem KeepsTo.bind {task : FileTask α} {next : α → FileTask β} (h : task.KeepsTo paths)
    (hnext : ∀ value, (next value).KeepsTo paths) : (task >>= next).KeepsTo paths := by
  intro disk
  rw [runOn_bind]
  have htask := h disk
  split
  · rename_i value after heq
    rw [heq] at htask
    exact htask.trans (hnext value after)
  · rename_i error after heq
    rwa [heq] at htask

theorem ReadsOnly.keepsTo {task : FileTask α} (h : task.ReadsOnly) : task.KeepsTo paths := by
  intro disk
  rw [h disk]
  exact .refl paths disk

theorem keepsTo_lift {program : FileProgram α} (h : program.KeepsTo paths) :
    (liftM program : FileTask α).KeepsTo paths := by
  intro disk
  rw [runOn_lift]
  exact h disk

theorem keepsTo_step {program : FileProgram (Except FileError Unit)} (h : program.KeepsTo paths)
    (writeStep : WriteStep) (path : String) : (step writeStep path program).KeepsTo paths :=
  h.bind fun _ => .done _

theorem keepsTo_stepOrRemove {program : FileProgram (Except FileError Unit)} {temporary : String}
    (h : program.KeepsTo paths) (hmem : temporary ∈ paths) (writeStep : WriteStep)
    (path : String) : (stepOrRemove writeStep path temporary program).KeepsTo paths := by
  refine keepsTo_step (h.bind fun reply => ?_) writeStep path
  have hremove : FileProgram.KeepsTo paths (FileProgram.remove temporary) :=
    .ask (by simpa [FileCall.changed])
  cases reply with
  | ok => exact .done _
  | error cause => exact hremove.bind fun _ => .done _

theorem keepsTo_createParent (writeStep : WriteStep) (path : String) :
    (createParent writeStep path).KeepsTo paths := by
  unfold createParent
  split
  · exact (readsOnly_pure ()).keepsTo
  · rename_i parent _
    have hcreate : FileProgram.KeepsTo paths (FileProgram.createDirectories parent) :=
      .ask (by simp [FileCall.changed])
    have hpresent : FileProgram.KeepsTo paths (FileProgram.isPresent parent) :=
      .ask (by simp [FileCall.changed])
    refine (keepsTo_lift hpresent).bind fun present => ?_
    split
    · exact (readsOnly_pure ()).keepsTo
    · exact keepsTo_step hcreate _ _

theorem keepsTo_appendAndSync {path : String} (hmem : path ∈ paths) (content : ByteArray) :
    (appendAndSync path content).KeepsTo paths := by
  have happend : FileProgram.KeepsTo paths (FileProgram.append path content) :=
    .ask (by simpa [FileCall.changed])
  refine happend.bind fun reply => ?_
  cases reply with
  | ok => exact .ask (by simp [FileCall.changed])
  | error cause => exact .done _

/-- Writing a file keeps to the file and its temporary file. -/
theorem keepsTo_writeFile (tag path text : String) :
    (writeFile tag path text).KeepsTo (path :: (temporaryPath? tag path).toList) := by
  unfold writeFile
  refine (keepsTo_createParent _ path).bind fun _ => ?_
  split
  · exact (fun disk => .refl _ disk)
  · rename_i temporary htemporary
    rw [htemporary]
    have hcreate : FileProgram.KeepsTo [path, temporary] (FileProgram.create temporary) :=
      .ask (by simp [FileCall.changed])
    have hrename : FileProgram.KeepsTo [path, temporary] (FileProgram.rename temporary path) :=
      .ask (by simp [FileCall.changed])
    refine (keepsTo_step hcreate _ _).bind fun _ => ?_
    refine (keepsTo_stepOrRemove (keepsTo_appendAndSync (by simp) _) (by simp) _ _).bind fun _ => ?_
    exact keepsTo_stepOrRemove hrename (by simp) _ _

end FileTask

end MentionPrompt
