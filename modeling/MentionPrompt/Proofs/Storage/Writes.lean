import MentionPrompt.Proofs.Storage.Keeping

/-!
What a disk holds after files were opened, added to and written.

Main statement: a file that was written holds the text and nothing else.
-/

namespace MentionPrompt

namespace Disk

/-- What the file in a place holds, nothing if no file is there. -/
def contentAt (disk : Disk) (location : Location) : ByteArray :=
  match disk.get? location with
  | some (.file content) => content
  | _ => ByteArray.empty

theorem contentAt_of_get? {disk : Disk} {location : Location} {content : ByteArray}
    (h : disk.get? location = some (.file content)) : disk.contentAt location = content := by
  rw [contentAt, h]

/-- A place that is left alone holds what it held. -/
theorem ChangesOnly.contentAt {paths : List String} {before after : Disk} {location : Location}
    (h : ChangesOnly paths before after) (hplaces : ∀ path ∈ paths, before.place path ≠ location) :
    after.contentAt location = before.contentAt location := by
  rcases h.elsewhere location hplaces with hsame | ⟨hnone, hmade⟩
  · rw [Disk.contentAt, Disk.contentAt, hsame]
  · rw [Disk.contentAt, Disk.contentAt, hnone, hmade]

theorem get?_insert_self {disk : Disk} {location : Location} {entry : DiskEntry}
    (h : disk.get? location ≠ some .directory) :
    (disk.insert location entry).get? location = some entry := by
  rw [get?_insert _ _ _ _ (ne_root_of_get? h), if_pos rfl]

theorem settle_eq_ok {disk after : Disk} {change : Change} :
    disk.settle change = (.ok (), after) ↔ change = .ok after := by
  cases change <;> simp [settle]

/-- A file that was opened holds what opening makes of it; a device stays one. -/
theorem get?_of_openFile {disk after : Disk} {path : String} {content : ByteArray → ByteArray}
    (h : disk.openFile path content = .ok after) :
    after.get? (disk.place path) = some (.file (content (disk.contentAt (disk.place path)))) ∨
      ∃ device, disk.get? (disk.place path) = some (.device device) ∧ after = disk := by
  rcases openFile_cases h with ⟨hnone, rfl⟩ | ⟨held, hheld, rfl⟩ | ⟨device, hdevice, rfl⟩
  · rw [get?_insert_self (by simp [hnone]), contentAt, hnone]
    exact .inl rfl
  · rw [get?_insert_self (by simp [hheld]), contentAt, hheld]
    exact .inl rfl
  · exact .inr ⟨device, hdevice, rfl⟩

/-- A file that was added to holds what it held and what was added; a device stays one. -/
theorem get?_of_append {disk after : Disk} {path : String} {content : ByteArray}
    (h : disk.append path content = .ok after) :
    after.get? (disk.place path) = some (.file (disk.contentAt (disk.place path) ++ content)) ∨
      ∃ device, after.get? (disk.place path) = some (.device device) := by
  rcases append_cases h with ⟨held, hheld, rfl⟩ | ⟨device, hdevice, rfl⟩
  · rw [get?_insert_self (by simp [hheld]), contentAt, hheld]
    exact .inl rfl
  · exact .inr ⟨device, hdevice⟩

/-- No device is stored for good. -/
theorem not_device_of_sync {disk : Disk} {path : String} (h : disk.sync path = .ok ())
    (device : Device) : disk.get? (disk.place path) ≠ some (.device device) := by
  intro hdevice
  obtain ⟨⟨location, entry⟩, hlookup, h⟩ := bind_eq_ok.1 h
  obtain ⟨rfl, hentry⟩ := lookup_eq_ok hlookup
  obtain rfl : entry = .device device := Option.some.inj (hentry.symm.trans hdevice)
  cases h

/-- A file that was added to and stored holds what it held and what was added; so it is no device. -/
theorem get?_of_append_of_sync {disk appended : Disk} {path : String} {content : ByteArray}
    (happend : disk.append path content = .ok appended) (hsync : appended.sync path = .ok ()) :
    appended.get? (disk.place path) =
      some (.file (disk.contentAt (disk.place path) ++ content)) := by
  rcases get?_of_append happend with hfile | ⟨device, hdevice⟩
  · exact hfile
  · rw [← (changesOnly_append happend).place path] at hdevice
    exact absurd hdevice (not_device_of_sync hsync device)

end Disk

namespace FileTask

/-! ### Steps of writing -/

theorem step_eq_ok {writeStep : WriteStep} {path : String}
    {program : FileProgram (Except FileError Unit)} {disk after : Disk} :
    (step writeStep path program).runOn disk = (.ok (), after) ↔
      program.run disk = (.ok (), after) := by
  unfold step runOn
  rw [ExceptT.run_mk, FileProgram.run_bind]
  rcases program.run disk with ⟨error | value, between⟩
  · simp [Except.mapError]
  · simp [Except.mapError]

theorem stepOrRemove_eq_ok {writeStep : WriteStep} {path temporary : String}
    {program : FileProgram (Except FileError Unit)} {disk after : Disk} :
    (stepOrRemove writeStep path temporary program).runOn disk = (.ok (), after) ↔
      program.run disk = (.ok (), after) := by
  unfold stepOrRemove
  rw [step_eq_ok, FileProgram.run_bind]
  rcases program.run disk with ⟨error | value, between⟩
  · simp [Except.isOk, Except.toBool]
  · simp [Except.isOk, Except.toBool]

theorem changesOnly_of_createParent {writeStep : WriteStep} {path : String}
    {disk after : Disk} (h : (createParent writeStep path).runOn disk = (.ok (), after)) :
    Disk.ChangesOnly [] disk after := by
  have hkeeps : Disk.ChangesOnly [] disk ((createParent writeStep path).runOn disk).2 :=
    keepsTo_createParent writeStep path disk
  rwa [h] at hkeeps

/-! ### Writing a file -/

theorem get?_of_appendAndSync {path : String} {content : ByteArray} {disk after : Disk}
    (h : (appendAndSync path content).run disk = (.ok (), after)) :
    after.get? (disk.place path) =
      some (.file (disk.contentAt (disk.place path) ++ content)) := by
  have hask : (FileProgram.append path content).run disk = disk.settle (disk.append path content) :=
    rfl
  rw [appendAndSync, FileProgram.run_bind, hask] at h
  cases happend : disk.append path content with
  | error cause =>
    rw [happend] at h
    cases h
  | ok appended =>
    rw [happend] at h
    obtain ⟨hsync, rfl⟩ : appended.sync path = .ok () ∧ appended = after := Prod.mk.inj h
    exact Disk.get?_of_append_of_sync happend hsync

/-- A file that was written holds the text and nothing else. -/
theorem get?_of_writeFile {tag path text : String} {disk after : Disk}
    (h : (writeFile tag path text).runOn disk = (.ok (), after)) :
    after.get? (disk.place path) = some (.file text.toUTF8) := by
  unfold writeFile at h
  obtain ⟨⟨⟩, made, hmade, h⟩ := runOn_bind_eq_ok.1 h
  split at h
  · cases h
  · rename_i temporary _
    obtain ⟨⟨⟩, created, hcreated, h⟩ := runOn_bind_eq_ok.1 h
    obtain ⟨⟨⟩, written, hwritten, h⟩ := runOn_bind_eq_ok.1 h
    -- a new file is empty, and so is what a device holds
    have hempty : created.contentAt (created.place temporary) = ByteArray.empty := by
      rw [place_of_runOn hcreated, Disk.contentAt]
      rcases Disk.get?_of_openFile (Disk.settle_eq_ok.1 (step_eq_ok.1 hcreated)) with
        hfile | ⟨device, hdevice, rfl⟩
      · rw [hfile]
      · rw [hdevice]
    have htext := get?_of_appendAndSync (stepOrRemove_eq_ok.1 hwritten)
    rw [hempty, ByteArray.empty_append, ← place_of_runOn hwritten] at htext
    obtain ⟨entry, hentry, hplain, htarget, rfl⟩ :=
      Disk.rename_cases (Disk.settle_eq_ok.1 (stepOrRemove_eq_ok.1 h))
    obtain rfl := Option.some.inj (hentry.symm.trans htext)
    rw [← place_of_runOn hmade, ← place_of_runOn hcreated, ← place_of_runOn hwritten,
      Disk.get?_insert _ _ _ _ (Disk.ne_root_of_get? htarget), if_pos rfl]

end FileTask

end MentionPrompt
