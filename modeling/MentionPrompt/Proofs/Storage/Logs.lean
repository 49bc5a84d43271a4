import MentionPrompt.Proofs.Storage.Writes

/-!
Logs on a disk.

A log is writable if adding nothing to it succeeds. Main statements: what is added to a log stands
after what the log held; to a writable log anything can be added; and a regular file is a writable
log, whatever else changed on the disk.
-/

namespace MentionPrompt

namespace FileTask

/-! ### Adding to a log -/

/-- Adds content to a log. -/
def appendContent (path : String) (content : ByteArray) : FileTask Unit := do
  createParent .createLogDirectory path
  step .openLog path (FileProgram.openLog path)
  step .writeLog path (FileProgram.append path content)
  step .syncLog path (FileProgram.sync path)

/-- An event is added on a line of its own. -/
theorem appendEvent_eq (path : String) (event : Event) :
    appendEvent path event = appendContent path (event.line ++ "\n").toUTF8 := rfl

theorem keepsTo_appendContent (path : String) (content : ByteArray) :
    (appendContent path content).KeepsTo [path] := by
  unfold appendContent
  refine (keepsTo_createParent _ path).bind fun _ => ?_
  refine (keepsTo_step (.ask (by simp [FileCall.changed])) _ _).bind fun _ => ?_
  refine (keepsTo_step (.ask (by simp [FileCall.changed])) _ _).bind fun _ => ?_
  exact keepsTo_step (.ask (by simp [FileCall.changed])) _ _

section Steps

variable {writeStep : WriteStep} {path : String} {content : ByteArray} {disk after : Disk}

theorem step_openLog :
    (step writeStep path (FileProgram.openLog path)).runOn disk = (.ok (), after) ↔
      disk.openFile path id = .ok after :=
  step_eq_ok.trans Disk.settle_eq_ok

theorem step_append :
    (step writeStep path (FileProgram.append path content)).runOn disk = (.ok (), after) ↔
      disk.append path content = .ok after :=
  step_eq_ok.trans Disk.settle_eq_ok

theorem step_sync :
    (step writeStep path (FileProgram.sync path)).runOn disk = (.ok (), after) ↔
      disk.sync path = .ok () ∧ disk = after :=
  step_eq_ok.trans (iff_of_eq (Prod.mk.injEq ..))

end Steps

/-- The steps of adding to a log, if they all succeed. -/
theorem appendContent_eq_ok {path : String} {content : ByteArray} {disk after : Disk} :
    (appendContent path content).runOn disk = (.ok (), after) ↔
      ∃ made opened, (createParent .createLogDirectory path).runOn disk = (.ok (), made) ∧
        made.openFile path id = .ok opened ∧ opened.append path content = .ok after ∧
        after.sync path = .ok () := by
  unfold appendContent
  constructor
  · intro h
    obtain ⟨⟨⟩, made, hmade, h⟩ := runOn_bind_eq_ok.1 h
    obtain ⟨⟨⟩, opened, hopened, h⟩ := runOn_bind_eq_ok.1 h
    obtain ⟨⟨⟩, appended, happended, h⟩ := runOn_bind_eq_ok.1 h
    obtain ⟨hsync, rfl⟩ := step_sync.1 h
    exact ⟨made, opened, hmade, step_openLog.1 hopened, step_append.1 happended, hsync⟩
  · rintro ⟨made, opened, hmade, hopened, happended, hsync⟩
    rw [runOn_bind_ok hmade, runOn_bind_ok (step_openLog.2 hopened),
      runOn_bind_ok (step_append.2 happended)]
    exact step_sync.2 ⟨hsync, rfl⟩

/-- What was added to a log stands after what the log held. -/
theorem get?_of_appendContent {path : String} {content : ByteArray} {disk after : Disk}
    (h : (appendContent path content).runOn disk = (.ok (), after)) :
    after.get? (disk.place path) =
      some (.file (disk.contentAt (disk.place path) ++ content)) := by
  obtain ⟨made, opened, hmade, hopened, happended, hsync⟩ := appendContent_eq_ok.1 h
  have hheld : opened.contentAt (disk.place path) = disk.contentAt (disk.place path) := by
    rw [← (changesOnly_of_createParent hmade).contentAt (by simp), ← place_of_runOn hmade]
    rcases Disk.get?_of_openFile hopened with hfile | ⟨device, -, rfl⟩
    · exact Disk.contentAt_of_get? hfile
    · rfl
  have hplace : opened.place path = disk.place path := by
    rw [(Disk.changesOnly_openFile hopened).place, place_of_runOn hmade]
  have hadded := Disk.get?_of_append_of_sync happended hsync
  rwa [hplace, hheld] at hadded

end FileTask

namespace Disk

/-! ### Writable logs -/

/-- A log can be written to: adding nothing to it succeeds. -/
def IsWritableLog (disk : Disk) (path : String) : Prop :=
  ((FileTask.appendContent path ByteArray.empty).runOn disk).1 = .ok ()

theorem append_of_lookup {disk : Disk} {path : String} {location : Location}
    {held content : ByteArray} (h : disk.lookup path = .ok (location, .file held)) :
    disk.append path content = .ok (disk.insert location (.file (held ++ content))) := by
  rw [append, h]
  rfl

theorem sync_of_lookup {disk : Disk} {path : String} {location : Location} {held : ByteArray}
    (h : disk.lookup path = .ok (location, .file held)) : disk.sync path = .ok () := by
  rw [sync, h]
  rfl

/-- A path that leads to a file leads to it also after the file was replaced. -/
theorem lookup_insert {disk : Disk} {path : String} {location : Location} {held : ByteArray}
    (h : disk.lookup path = .ok (location, .file held)) (entry : DiskEntry) :
    (disk.insert location entry).lookup path = .ok (location, entry) := by
  obtain ⟨hplace, hheld⟩ := lookup_eq_ok h
  have hplain : disk.get? location ≠ some .directory := by simp [hheld]
  exact (changesOnly_insert hplace hplain).lookup h (by simp) (get?_insert_self hplain)

/-- A file that can be found can be opened, and holds what it held. -/
theorem openFile_of_lookup {disk : Disk} {path : String} {location : Location} {held : ByteArray}
    (h : disk.lookup path = .ok (location, .file held)) :
    disk.openFile path id = .ok (disk.insert location (.file held)) := by
  obtain ⟨target, htarget, rfl, hheld, hany⟩ := lookup_eq_ok_iff.1 h
  have hfile : target.asDirectory = false := hany.resolve_left (by simp)
  refine bind_eq_ok.2 ⟨target, htarget, ?_⟩
  simp [hfile, hheld]

/-- To a file that can be found anything can be added. -/
theorem append_then_sync {disk : Disk} {path : String} {location : Location} {held : ByteArray}
    (h : disk.lookup path = .ok (location, .file held)) (content : ByteArray) :
    ∃ after, disk.append path content = .ok after ∧ after.sync path = .ok () :=
  ⟨_, append_of_lookup h, sync_of_lookup (lookup_insert h _)⟩

end Disk

namespace FileTask

/-- To a writable log anything can be added. -/
theorem appendContent_of_isWritableLog {disk : Disk} {path : String} (h : disk.IsWritableLog path)
    (content : ByteArray) : ∃ after, (appendContent path content).runOn disk = (.ok (), after) := by
  obtain ⟨made, opened, hmade, hopened, happended, hsync⟩ :=
    appendContent_eq_ok.1 (Prod.ext h rfl)
  rcases Disk.append_cases happended with ⟨held, hheld, -⟩ | ⟨device, hdevice, rfl⟩
  · obtain ⟨⟨location, entry⟩, hlookup, -⟩ := bind_eq_ok.1 happended
    obtain ⟨rfl, hentry⟩ := Disk.lookup_eq_ok hlookup
    obtain rfl : entry = .file held := Option.some.inj (hentry.symm.trans hheld)
    obtain ⟨after, hafter, hstored⟩ := Disk.append_then_sync hlookup content
    exact ⟨after, appendContent_eq_ok.2 ⟨made, opened, hmade, hopened, hafter, hstored⟩⟩
  · exact absurd hdevice (Disk.not_device_of_sync hsync device)

/-- The directory that the last component stands in need not be created if the path can be
followed. -/
theorem createParent_of_target {writeStep : WriteStep} {path : String} {disk : Disk}
    {target : Disk.Target} (h : disk.target path = .ok target) :
    (createParent writeStep path).runOn disk = (.ok (), disk) := by
  unfold createParent
  split
  · rfl
  · rename_i parent hparent
    have hask : (FileProgram.isPresent parent).run disk = (disk.isPresent parent, disk) := rfl
    rw [runOn_bind_ok (runOn_lift ..), hask, if_pos]
    · rfl
    · by_cases hne : parent = ""
      · simp [hne]
      · simp [Disk.isPresent_parent h hparent hne]

/-- A regular file is a writable log. -/
theorem isWritableLog_of_isFile {disk : Disk} {path : String} (h : disk.isFile path = true) :
    disk.IsWritableLog path := by
  obtain ⟨held, hlookup⟩ := Disk.isFile_iff.1 h
  obtain ⟨target, htarget, -⟩ := Disk.lookup_eq_ok_iff.1 hlookup
  obtain ⟨after, hafter, hstored⟩ :=
    Disk.append_then_sync (Disk.lookup_insert hlookup (.file held)) ByteArray.empty
  have hadded := appendContent_eq_ok.2
    ⟨disk, _, createParent_of_target htarget, Disk.openFile_of_lookup hlookup, hafter, hstored⟩
  exact congrArg Prod.fst hadded

/-- A regular file is still one after something was added to it. -/
theorem isFile_of_appendContent {disk after : Disk} {path : String} {content : ByteArray}
    (h : disk.isFile path = true)
    (hadded : (appendContent path content).runOn disk = (.ok (), after)) :
    after.isFile path = true := by
  obtain ⟨held, hlookup⟩ := Disk.isFile_iff.1 h
  have hchanges : Disk.ChangesOnly [path] disk after := by
    have hkeeps := keepsTo_appendContent path content disk
    rwa [hadded] at hkeeps
  have hlater := hchanges.lookup hlookup (by simp) (get?_of_appendContent hadded)
  exact Disk.isFile_iff.2 ⟨_, (hchanges.place path).symm ▸ hlater⟩

end FileTask

end MentionPrompt
