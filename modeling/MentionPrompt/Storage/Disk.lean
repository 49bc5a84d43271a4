import MentionPrompt.Storage.Path
import MentionPrompt.Storage.Program

/-!
Disks: directories, files and devices by their place, and what each call does to them.

A place is the list of names from the root to it. A path is followed name by name from the root or
from the working directory; every name but the last must lead to a directory. Main statement: an entry
put in one place is found there and changes no other place.
-/

namespace MentionPrompt

/-- A device: one that swallows what is written, and one that is always full. -/
inductive Device where | null | full
  deriving DecidableEq, Repr

/-- What stands at a place. -/
inductive DiskEntry where
  | directory
  | file (content : ByteArray)
  | device (device : Device)

/-- The names from the root to a place. -/
abbrev Location := List String

/-- A disk; only the root is there without an entry. -/
structure Disk where
  entries : List (Location × DiskEntry) := []
  workingDirectory : Location := []

namespace Disk

/-! ### Entries -/

/-- What stands at a place. -/
def get? (disk : Disk) (location : Location) : Option DiskEntry :=
  if location = [] then some .directory
  else (disk.entries.find? (·.1 = location)).map (·.2)

/-- The disk without what stood at a place. -/
def erase (disk : Disk) (location : Location) : Disk :=
  { disk with entries := disk.entries.filter (·.1 ≠ location) }

/-- The disk with an entry put in a place. -/
def insert (disk : Disk) (location : Location) (entry : DiskEntry) : Disk :=
  { disk with entries := (location, entry) :: (disk.erase location).entries }

theorem get?_insert (disk : Disk) (location other : Location) (entry : DiskEntry)
    (h : location ≠ []) :
    (disk.insert location entry).get? other =
      if location = other then some entry else disk.get? other := by
  by_cases root : other = []
  · simp [get?, root, h]
  · by_cases same : location = other
    · simp [get?, insert, same, root]
    · have swap : ∀ place : Location, (place ≠ location ∧ place = other) ↔ place = other := by
        intro place
        constructor
        · exact fun h => h.2
        · rintro rfl
          exact ⟨fun h => same h.symm, rfl⟩
      simp [get?, insert, erase, same, root, List.find?_filter, swap]

theorem get?_erase (disk : Disk) (location other : Location) (h : location ≠ []) :
    (disk.erase location).get? other =
      if location = other then none else disk.get? other := by
  by_cases root : other = []
  · simp [get?, root, h]
  · by_cases same : location = other
    · subst same
      simp [get?, erase, root, List.find?_eq_none]
    · have swap : ∀ place : Location, (place ≠ location ∧ place = other) ↔ place = other := by
        intro place
        constructor
        · exact fun h => h.2
        · rintro rfl
          exact ⟨fun h => same h.symm, rfl⟩
      simp [get?, erase, same, root, List.find?_filter, swap]

/-! ### Paths -/

/-- The longest name, in bytes. -/
def nameLimit : Nat := 255

/-- The paths are shorter than this, in bytes. -/
def pathLimit : Nat := 4096

/-- The place that a name leads to from a directory. -/
def child (location : Location) (name : String) : Location :=
  if name = "." then location
  else if name = ".." then location.dropLast
  else location ++ [name]

/-- Goes from a directory to another. -/
def enter (disk : Disk) (location : Location) (name : String) : Except FileError Location :=
  if nameLimit < name.utf8ByteSize then .error .nameTooLong
  else match disk.get? (child location name) with
    | some .directory => .ok (child location name)
    | some _ => .error .notDirectory
    | none => .error .noSuchFile

/-- Goes from a directory through others. -/
def descend (disk : Disk) (location : Location) (names : List String) :
    Except FileError Location :=
  names.foldlM disk.enter location

/-- Where a path leads: the place, whether the path ends in the name of the place, and whether only a
directory will do. -/
structure Target where
  location : Location
  isNamed : Bool
  asDirectory : Bool

/-- The texts that are no path at all. -/
def badPath? (path : String) : Option FileError :=
  if path.toList.contains '\x00' then some .nulInName
  else if path.isEmpty then some .noSuchFile
  else if pathLimit ≤ path.utf8ByteSize then some .nameTooLong
  else none

/-- The directory that a path starts from. -/
def start (disk : Disk) (path : String) : Location :=
  if Path.isAbsolute path then [] else disk.workingDirectory

/-- Follows a path up to its last name, which may lead to nothing. -/
def target (disk : Disk) (path : String) : Except FileError Target :=
  match badPath? path with
  | some error => .error error
  | none =>
    match (Path.parts path).getLast? with
    | none => .ok ⟨disk.start path, false, true⟩
    | some name => do
      let parent ← disk.descend (disk.start path) (Path.parts path).dropLast
      if nameLimit < name.utf8ByteSize then .error .nameTooLong
      else
        let isNamed := name != "." && name != ".."
        .ok ⟨child parent name, isNamed, !isNamed || Path.endsInSlash path⟩

/-- What a path leads to. -/
def lookup (disk : Disk) (path : String) : Except FileError (Location × DiskEntry) := do
  let target ← disk.target path
  match disk.get? target.location with
  | none => .error .noSuchFile
  | some .directory => .ok (target.location, .directory)
  | some entry => if target.asDirectory then .error .notDirectory else .ok (target.location, entry)

/-! ### Calls -/

/-- A call that failed, or the disk after it. -/
abbrev Change := Except FileError Disk

/-- The content of a file; a device has none. -/
def read (disk : Disk) (path : String) : Except FileError ByteArray := do
  match (← disk.lookup path).2 with
  | .file content => .ok content
  | .directory => .error .isDirectory
  | .device _ => .ok ByteArray.empty

/-- The path leads to a regular file. -/
def isFile (disk : Disk) (path : String) : Bool :=
  match disk.lookup path with
  | .ok (_, .file _) => true
  | _ => false

/-- The path leads to something. -/
def isPresent (disk : Disk) (path : String) : Bool := (disk.lookup path).toOption.isSome

/-- Goes from a directory to another, which is created if need be. -/
def enterNew (disk : Disk) (location : Location) (name : String) : Except FileError Disk :=
  match disk.enter location name with
  | .ok _ => .ok disk
  | .error .noSuchFile => .ok (disk.insert (child location name) .directory)
  | .error error => .error error

/-- Creates directories along the names, up to the first that cannot be one. -/
def createAlong (disk : Disk) (location : Location) : List String → Except FileError Unit × Disk
  | [] => (.ok (), disk)
  | name :: rest =>
    match disk.enterNew location name with
    | .ok disk => disk.createAlong (child location name) rest
    | .error error => (.error error, disk)

/-- Creates the directory that a path leads to, and those that it stands in. -/
def createDirectories (disk : Disk) (path : String) : Except FileError Unit × Disk :=
  match badPath? path with
  | some .noSuchFile => (.ok (), disk)
  | some error => (.error error, disk)
  | none => disk.createAlong (disk.start path) (Path.parts path)

/-- Opens a file for writing: what it holds then depends on what it held. -/
def openFile (disk : Disk) (path : String) (content : ByteArray → ByteArray) : Change := do
  let target ← disk.target path
  if target.asDirectory && target.isNamed then .error .isDirectory
  else match disk.get? target.location with
    | none => .ok (disk.insert target.location (.file (content ByteArray.empty)))
    | some (.file held) => .ok (disk.insert target.location (.file (content held)))
    | some .directory => .error .isDirectory
    | some (.device _) => if target.asDirectory then .error .notDirectory else .ok disk

/-- Adds content to what a path leads to. -/
def append (disk : Disk) (path : String) (content : ByteArray) : Change := do
  match ← disk.lookup path with
  | (location, .file held) => .ok (disk.insert location (.file (held ++ content)))
  | (_, .directory) => .error .isDirectory
  | (_, .device .null) => .ok disk
  | (_, .device .full) => if content.isEmpty then .ok disk else .error .noSpace

/-- Has a file stored for good; a device cannot be. -/
def sync (disk : Disk) (path : String) : Except FileError Unit := do
  match (← disk.lookup path).2 with
  | .device _ => .error .invalidArgument
  | _ => .ok ()

/-- Moves a file to another place, in place of a file that was there. -/
def rename (disk : Disk) (source target : String) : Change := do
  let source ← disk.target source
  let target ← disk.target target
  if !source.isNamed || !target.isNamed then .error .busy
  else match disk.get? source.location with
    | none => .error .noSuchFile
    | some .directory => .error .isDirectory
    | some entry =>
      if source.asDirectory || target.asDirectory then .error .notDirectory
      else match disk.get? target.location with
        | some .directory => .error .isDirectory
        | _ => .ok ((disk.erase source.location).insert target.location entry)

/-- Takes a file away. -/
def remove (disk : Disk) (path : String) : Change := do
  match ← disk.lookup path with
  | (_, .directory) => .error .isDirectory
  | (location, _) => .ok (disk.erase location)

/-- The disk after a change, and whether it failed; a change that fails changes nothing. -/
def settle (disk : Disk) : Change → Except FileError Unit × Disk
  | .ok changed => (.ok (), changed)
  | .error error => (.error error, disk)

/-- Answers a call. -/
def answer (disk : Disk) : (call : FileCall) → call.Reply × Disk
  | .read path => (disk.read path, disk)
  | .isFile path => (disk.isFile path, disk)
  | .isPresent path => (disk.isPresent path, disk)
  | .createDirectories path => disk.createDirectories path
  | .create path => disk.settle (disk.openFile path fun _ => ByteArray.empty)
  | .openLog path => disk.settle (disk.openFile path id)
  | .append path content => disk.settle (disk.append path content)
  | .sync path => (disk.sync path, disk)
  | .rename source target => disk.settle (disk.rename source target)
  | .remove path => disk.settle (disk.remove path)

end Disk

/-- Carries a program out on a disk. -/
def FileProgram.run {α : Type} (disk : Disk) : FileProgram α → α × Disk
  | .done result => (result, disk)
  | .call c next =>
    let (reply, disk) := disk.answer c
    (next reply).run disk

@[simp] theorem FileProgram.run_done {α : Type} (disk : Disk) (result : α) :
    (done result).run disk = (result, disk) := rfl

@[simp] theorem FileProgram.run_bind {α β : Type} (disk : Disk) (program : FileProgram α)
    (next : α → FileProgram β) :
    (program >>= next).run disk = (next (program.run disk).1).run (program.run disk).2 := by
  induction program generalizing disk with
  | done result => rfl
  | call c rest ih => exact ih ..

end MentionPrompt
