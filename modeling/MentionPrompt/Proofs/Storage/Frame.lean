import MentionPrompt.Proofs.Storage.Places

/-!
What a call leaves alone on a disk.

A call can change what stands where its paths lead to; elsewhere directories appear at most, and none
goes away. Main statements: so it is for every call, and a path that could be followed before can be
followed after.
-/

namespace MentionPrompt

namespace Disk

/-! ### What changes -/

/-- From one disk to another, nothing changes but what stands where the paths lead to: elsewhere
directories appear at most, and none goes away. -/
structure ChangesOnly (paths : List String) (before after : Disk) : Prop where
  workingDirectory : after.workingDirectory = before.workingDirectory
  directory : ∀ location, before.get? location = some .directory →
    after.get? location = some .directory
  elsewhere : ∀ location, (∀ path ∈ paths, before.place path ≠ location) →
    after.get? location = before.get? location ∨
      before.get? location = none ∧ after.get? location = some .directory

namespace ChangesOnly

variable {paths others : List String} {before between after : Disk}

theorem refl (paths : List String) (disk : Disk) : ChangesOnly paths disk disk :=
  ⟨rfl, fun _ h => h, fun _ _ => .inl rfl⟩

theorem place (h : ChangesOnly paths before after) (path : String) :
    after.place path = before.place path := place_congr h.workingDirectory path

theorem trans (h : ChangesOnly paths before between) (h' : ChangesOnly paths between after) :
    ChangesOnly paths before after where
  workingDirectory := h'.workingDirectory.trans h.workingDirectory
  directory location hdirectory := h'.directory location (h.directory location hdirectory)
  elsewhere location hplaces := by
    have hplaces' : ∀ path ∈ paths, between.place path ≠ location := fun path hmem =>
      (h.place path).symm ▸ hplaces path hmem
    rcases h.elsewhere location hplaces with hsame | ⟨hnone, hmade⟩
    · rw [← hsame]
      exact h'.elsewhere location hplaces'
    · exact .inr ⟨hnone, h'.directory location hmade⟩

theorem mono (h : ChangesOnly paths before after) (hsub : paths ⊆ others) :
    ChangesOnly others before after :=
  ⟨h.workingDirectory, h.directory,
    fun location hplaces => h.elsewhere location fun path hmem => hplaces path (hsub hmem)⟩

/-- What is no directory and stands elsewhere stays. -/
theorem get?_eq (h : ChangesOnly paths before after) {location : Location} {entry : DiskEntry}
    (hplaces : ∀ path ∈ paths, before.place path ≠ location)
    (hentry : before.get? location = some entry) : after.get? location = some entry := by
  rcases h.elsewhere location hplaces with hsame | ⟨hnone, -⟩
  · rw [hsame, hentry]
  · rw [hentry] at hnone
    cases hnone

end ChangesOnly

/-! ### Following a path later -/

namespace ChangesOnly

variable {paths : List String} {before after : Disk}

theorem enter (h : ChangesOnly paths before after) {location reached : Location} {name : String}
    (henter : before.enter location name = .ok reached) :
    after.enter location name = .ok reached := by
  obtain ⟨hshort, hdirectory, hreached⟩ := enter_eq_ok.1 henter
  exact enter_eq_ok.2 ⟨hshort, h.directory _ hdirectory, hreached⟩

theorem descend (h : ChangesOnly paths before after) {location reached : Location}
    {names : List String} (hdescend : before.descend location names = .ok reached) :
    after.descend location names = .ok reached := by
  induction names generalizing location with
  | nil => exact hdescend
  | cons name rest ih =>
    obtain ⟨henter, hrest⟩ := descend_cons.1 hdescend
    exact descend_cons.2 ⟨h.enter henter, ih hrest⟩

theorem target (h : ChangesOnly paths before after) {path : String} {target : Target}
    (htarget : before.target path = .ok target) : after.target path = .ok target := by
  have hstart : after.start path = before.start path := by
    simp only [start, h.workingDirectory]
  obtain ⟨hpath, hparts⟩ := target_eq_ok_iff.1 htarget
  refine target_eq_ok_iff.2 ⟨hpath, ?_⟩
  rw [hstart]
  rcases hparts with hnone | ⟨front, name, parent, hparts, hparent, hname⟩
  · exact .inl hnone
  · exact .inr ⟨front, name, parent, hparts, h.descend hparent, hname⟩

end ChangesOnly

/-- A path that leads to a file or a device leads to it later on too, also if it was replaced. -/
theorem ChangesOnly.lookup {paths : List String} {before after : Disk}
    (h : ChangesOnly paths before after) {path : String} {location : Location}
    {entry entry' : DiskEntry} (hlookup : before.lookup path = .ok (location, entry))
    (hplain : entry ≠ .directory) (hentry : after.get? location = some entry') :
    after.lookup path = .ok (location, entry') := by
  obtain ⟨target, htarget, hlocation, -, hany⟩ := lookup_eq_ok_iff.1 hlookup
  exact lookup_eq_ok_iff.2
    ⟨target, h.target htarget, hlocation, hentry, .inr (hany.resolve_left hplain)⟩

/-- A regular file that is left alone is still one. -/
theorem ChangesOnly.isFile {paths : List String} {before after : Disk} {path : String}
    (h : ChangesOnly paths before after)
    (hplaces : ∀ other ∈ paths, before.place other ≠ before.place path)
    (hfile : before.isFile path = true) : after.isFile path = true := by
  obtain ⟨held, hlookup⟩ := isFile_iff.1 hfile
  have hsame := h.get?_eq hplaces (lookup_eq_ok hlookup).2
  have hlater := h.lookup hlookup (by simp) hsame
  exact isFile_iff.2 ⟨held, (h.place path).symm ▸ hlater⟩

/-! ### Changes of one entry -/

theorem ne_root_of_get? {disk : Disk} {location : Location}
    (h : disk.get? location ≠ some .directory) : location ≠ [] := by
  rintro rfl
  exact h rfl

/-- Only what stands in the place of the path changes, and no directory stands there. -/
theorem changesOnly_of_get? {before after : Disk} {path : String} {location : Location}
    (hmoved : after.workingDirectory = before.workingDirectory)
    (hplace : location = before.place path) (h : before.get? location ≠ some .directory)
    (hget : ∀ other, location ≠ other → after.get? other = before.get? other) :
    ChangesOnly [path] before after where
  workingDirectory := hmoved
  directory other hother := by
    rw [hget, hother]
    rintro rfl
    exact h hother
  elsewhere other hother := .inl (hget other (hplace ▸ hother path List.mem_cons_self))

/-- Putting an entry where no directory is. -/
theorem changesOnly_insert {disk : Disk} {path : String} {location : Location} {entry : DiskEntry}
    (hplace : location = disk.place path) (h : disk.get? location ≠ some .directory) :
    ChangesOnly [path] disk (disk.insert location entry) :=
  changesOnly_of_get? rfl hplace h fun _ hother => by
    rw [get?_insert _ _ _ _ (ne_root_of_get? h), if_neg hother]

/-- Taking away what is no directory. -/
theorem changesOnly_erase {disk : Disk} {path : String} {location : Location}
    (hplace : location = disk.place path) (h : disk.get? location ≠ some .directory) :
    ChangesOnly [path] disk (disk.erase location) :=
  changesOnly_of_get? rfl hplace h fun _ hother => by
    rw [get?_erase _ _ _ (ne_root_of_get? h), if_neg hother]

/-- Making a directory where nothing is. -/
theorem changesOnly_insert_directory {disk : Disk} {location : Location}
    (h : disk.get? location = none) : ChangesOnly [] disk (disk.insert location .directory) := by
  have hroot : location ≠ [] := by
    rintro rfl
    cases h
  refine ⟨rfl, ?_, ?_⟩
  · intro other hother
    rw [get?_insert _ _ _ _ hroot]
    split
    · rfl
    · exact hother
  · intro other _
    rw [get?_insert _ _ _ _ hroot]
    split
    · rename_i hsame
      exact .inr ⟨hsame ▸ h, rfl⟩
    · exact .inl rfl

/-! ### Calls -/

theorem changesOnly_enterNew {disk after : Disk} {location : Location} {name : String}
    (h : disk.enterNew location name = .ok after) : ChangesOnly [] disk after := by
  unfold enterNew at h
  split at h
  · cases h
    exact .refl [] disk
  · rename_i hmissing
    cases h
    exact changesOnly_insert_directory (get?_of_enter_error hmissing)
  · cases h

theorem changesOnly_createAlong (disk : Disk) (location : Location) (names : List String) :
    ChangesOnly [] disk (disk.createAlong location names).2 := by
  induction names generalizing disk location with
  | nil => exact .refl [] disk
  | cons name rest ih =>
    unfold createAlong
    split
    · rename_i after hafter
      exact (changesOnly_enterNew hafter).trans (ih after _)
    · exact .refl [] disk

theorem changesOnly_createDirectories (disk : Disk) (path : String) :
    ChangesOnly [] disk (disk.createDirectories path).2 := by
  unfold createDirectories
  split
  · exact .refl [] disk
  · exact .refl [] disk
  · exact changesOnly_createAlong disk _ _

/-- What opening a file that can be opened does. -/
theorem openFile_cases {disk after : Disk} {path : String} {content : ByteArray → ByteArray}
    (h : disk.openFile path content = .ok after) :
    (disk.get? (disk.place path) = none ∧
      after = disk.insert (disk.place path) (.file (content ByteArray.empty))) ∨
    (∃ held, disk.get? (disk.place path) = some (.file held) ∧
      after = disk.insert (disk.place path) (.file (content held))) ∨
    (∃ device, disk.get? (disk.place path) = some (.device device) ∧ after = disk) := by
  obtain ⟨target, htarget, h⟩ := bind_eq_ok.1 h
  rw [← location_of_target htarget]
  split at h
  · cases h
  split at h
  · rename_i hnone
    cases h
    exact .inl ⟨hnone, rfl⟩
  · rename_i held hheld
    cases h
    exact .inr (.inl ⟨held, hheld, rfl⟩)
  · cases h
  · rename_i device hdevice
    split at h
    · cases h
    · cases h
      exact .inr (.inr ⟨device, hdevice, rfl⟩)

/-- What adding to a file that can be added to does. -/
theorem append_cases {disk after : Disk} {path : String} {content : ByteArray}
    (h : disk.append path content = .ok after) :
    (∃ held, disk.get? (disk.place path) = some (.file held) ∧
      after = disk.insert (disk.place path) (.file (held ++ content))) ∨
    (∃ device, disk.get? (disk.place path) = some (.device device) ∧ after = disk) := by
  obtain ⟨⟨location, entry⟩, hlookup, h⟩ := bind_eq_ok.1 h
  obtain ⟨rfl, hentry⟩ := lookup_eq_ok hlookup
  split at h
  · rename_i held hheld
    cases hheld
    cases h
    exact .inl ⟨held, hentry, rfl⟩
  · cases h
  · rename_i hdevice
    cases hdevice
    cases h
    exact .inr ⟨.null, hentry, rfl⟩
  · rename_i hdevice
    cases hdevice
    split at h
    · cases h
      exact .inr ⟨.full, hentry, rfl⟩
    · cases h

/-- What moving a file that can be moved does. -/
theorem rename_cases {disk after : Disk} {source target : String}
    (h : disk.rename source target = .ok after) :
    ∃ entry, disk.get? (disk.place source) = some entry ∧ entry ≠ .directory ∧
      disk.get? (disk.place target) ≠ some .directory ∧
      after = (disk.erase (disk.place source)).insert (disk.place target) entry := by
  obtain ⟨from', hsource, h⟩ := bind_eq_ok.1 h
  obtain ⟨to', htarget, h⟩ := bind_eq_ok.1 h
  rw [← location_of_target hsource, ← location_of_target htarget]
  split at h
  · cases h
  split at h
  · cases h
  · cases h
  · rename_i entry hentry hsome
    split at h
    · cases h
    split at h
    · cases h
    · rename_i hplain
      cases h
      exact ⟨entry, hsome, hentry, hplain, rfl⟩

/-- What taking a file away that can be taken away does. -/
theorem remove_cases {disk after : Disk} {path : String} (h : disk.remove path = .ok after) :
    ∃ entry, disk.get? (disk.place path) = some entry ∧ entry ≠ .directory ∧
      after = disk.erase (disk.place path) := by
  obtain ⟨⟨location, entry⟩, hlookup, h⟩ := bind_eq_ok.1 h
  obtain ⟨rfl, hentry⟩ := lookup_eq_ok hlookup
  split at h
  · cases h
  · rename_i hplain heq
    cases heq
    cases h
    exact ⟨entry, hentry, hplain, rfl⟩

theorem changesOnly_openFile {disk after : Disk} {path : String} {content : ByteArray → ByteArray}
    (h : disk.openFile path content = .ok after) : ChangesOnly [path] disk after := by
  rcases openFile_cases h with ⟨hnone, rfl⟩ | ⟨held, hheld, rfl⟩ | ⟨device, -, rfl⟩
  · exact changesOnly_insert rfl (by simp [hnone])
  · exact changesOnly_insert rfl (by simp [hheld])
  · exact .refl [path] _

theorem changesOnly_append {disk after : Disk} {path : String} {content : ByteArray}
    (h : disk.append path content = .ok after) : ChangesOnly [path] disk after := by
  rcases append_cases h with ⟨held, hheld, rfl⟩ | ⟨device, -, rfl⟩
  · exact changesOnly_insert rfl (by simp [hheld])
  · exact .refl [path] _

theorem changesOnly_rename {disk after : Disk} {source target : String}
    (h : disk.rename source target = .ok after) : ChangesOnly [source, target] disk after := by
  obtain ⟨entry, hsource, hentry, htarget, rfl⟩ := rename_cases h
  have herase : ChangesOnly [source] disk (disk.erase (disk.place source)) :=
    changesOnly_erase rfl (by simp [hsource, hentry])
  have hroot : disk.place source ≠ [] :=
    ne_root_of_get? (hsource ▸ fun hdirectory => hentry (Option.some.inj hdirectory))
  have hplain : (disk.erase (disk.place source)).get? (disk.place target) ≠ some .directory := by
    rw [get?_erase _ _ _ hroot]
    split
    · simp
    · exact htarget
  have hinsert : ChangesOnly [target] (disk.erase (disk.place source))
      ((disk.erase (disk.place source)).insert (disk.place target) entry) :=
    changesOnly_insert (herase.place target).symm hplain
  exact (herase.mono (by simp)).trans (hinsert.mono (by simp))

theorem changesOnly_remove {disk after : Disk} {path : String}
    (h : disk.remove path = .ok after) : ChangesOnly [path] disk after := by
  obtain ⟨entry, hentry, hplain, rfl⟩ := remove_cases h
  exact changesOnly_erase rfl (by simp [hentry, hplain])

theorem changesOnly_settle {paths : List String} {disk : Disk} {change : Change}
    (h : ∀ after, change = .ok after → ChangesOnly paths disk after) :
    ChangesOnly paths disk (disk.settle change).2 := by
  cases change with
  | ok after => exact h after rfl
  | error error => exact .refl paths disk

end Disk

/-- The paths to the places that a call can change otherwise than by making directories. -/
def FileCall.changed : FileCall → List String
  | .create path | .openLog path | .append path _ | .remove path => [path]
  | .rename source target => [source, target]
  | .read _ | .isFile _ | .isPresent _ | .createDirectories _ | .sync _ => []

theorem Disk.changesOnly_answer (disk : Disk) (call : FileCall) :
    ChangesOnly call.changed disk (disk.answer call).2 := by
  cases call with
  | read path | isFile path | isPresent path | sync path => exact .refl [] disk
  | createDirectories path => exact changesOnly_createDirectories disk path
  | create path | openLog path =>
    exact changesOnly_settle fun _ hafter => changesOnly_openFile hafter
  | append path content => exact changesOnly_settle fun _ hafter => changesOnly_append hafter
  | rename source target => exact changesOnly_settle fun _ hafter => changesOnly_rename hafter
  | remove path => exact changesOnly_settle fun _ hafter => changesOnly_remove hafter

end MentionPrompt
