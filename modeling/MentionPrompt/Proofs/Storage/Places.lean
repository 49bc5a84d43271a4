import Mathlib.Data.List.Basic
import MentionPrompt.Proofs.Storage.Paths
import MentionPrompt.Storage.Disk

/-!
Where a path leads on a disk.

A path leads to one place, whatever stands on the disk; the disk decides only whether it can be
followed there. Main statement: if a path can be followed, the directory that its last component
stands in is there.
-/

namespace MentionPrompt

theorem bind_eq_ok {ε α β : Type} {x : Except ε α} {next : α → Except ε β} {result : β} :
    (x >>= next) = .ok result ↔ ∃ value, x = .ok value ∧ next value = .ok result := by
  cases x <;> simp [bind, Except.bind]

namespace Disk

/-! ### Places -/

/-- The place that a path leads to, if it leads anywhere. -/
def place (disk : Disk) (path : String) : Location := (Path.parts path).foldl child (disk.start path)

theorem place_congr {disk disk' : Disk} (h : disk'.workingDirectory = disk.workingDirectory)
    (path : String) : disk'.place path = disk.place path := by
  simp only [place, start, h]

theorem enter_eq_ok {disk : Disk} {location reached : Location} {name : String} :
    disk.enter location name = .ok reached ↔
      name.utf8ByteSize ≤ nameLimit ∧ disk.get? (child location name) = some .directory ∧
        reached = child location name := by
  unfold enter
  split
  · rename_i hlong
    simp [Nat.not_le.2 hlong]
  · rename_i hshort
    split
    · simp_all [eq_comm]
    · rename_i other hother hentry
      have hother' : other ≠ .directory := hother
      simp [hentry, hother']
    · rename_i hnone
      simp [hnone]

/-- What cannot be entered because it is not there is not there. -/
theorem get?_of_enter_error {disk : Disk} {location : Location} {name : String}
    (h : disk.enter location name = .error .noSuchFile) :
    disk.get? (child location name) = none := by
  unfold enter at h
  split at h
  · cases h
  split at h
  · cases h
  · cases h
  · assumption

theorem descend_cons {disk : Disk} {location reached : Location} {name : String}
    {names : List String} :
    disk.descend location (name :: names) = .ok reached ↔
      disk.enter location name = .ok (child location name) ∧
        disk.descend (child location name) names = .ok reached := by
  simp only [descend, List.foldlM_cons, bind_eq_ok]
  constructor
  · rintro ⟨next, hnext, hrest⟩
    obtain ⟨-, -, rfl⟩ := enter_eq_ok.1 hnext
    exact ⟨hnext, hrest⟩
  · rintro ⟨hnext, hrest⟩
    exact ⟨_, hnext, hrest⟩

theorem descend_eq_ok {disk : Disk} {location reached : Location} {names : List String}
    (h : disk.descend location names = .ok reached) : reached = names.foldl child location := by
  induction names generalizing location with
  | nil =>
    cases h
    rfl
  | cons name rest ih => exact ih (descend_cons.1 h).2

/-- A path can be followed if it has no parts, or if all but the last can be gone through. -/
theorem target_eq_ok_iff {disk : Disk} {path : String} {target : Target} :
    disk.target path = .ok target ↔ badPath? path = none ∧
      (Path.parts path = [] ∧ target = ⟨disk.start path, false, true⟩ ∨
        ∃ front name parent, Path.parts path = front ++ [name] ∧
          disk.descend (disk.start path) front = .ok parent ∧ name.utf8ByteSize ≤ nameLimit ∧
          let isNamed := name != "." && name != ".."
          target = ⟨child parent name, isNamed, !isNamed || Path.endsInSlash path⟩) := by
  unfold Disk.target
  cases hpath : badPath? path with
  | some error => simp
  | none =>
    rcases List.eq_nil_or_concat' (Path.parts path) with hparts | ⟨front, name, hparts⟩
    · simpa [hparts] using eq_comm
    · simp only [hparts, List.getLast?_concat, List.dropLast_concat, bind_eq_ok, true_and,
        List.append_eq_nil_iff, List.cons_ne_nil, and_false, false_and, false_or]
      constructor
      · rintro ⟨parent, hparent, h⟩
        split at h
        · cases h
        · cases h
          exact ⟨front, name, parent, rfl, hparent, Nat.not_lt.1 ‹_›, rfl⟩
      · rintro ⟨front', name', parent, hsame, hparent, hshort, rfl⟩
        obtain ⟨rfl, ⟨⟩⟩ := List.append_inj' hsame rfl
        exact ⟨parent, hparent, by rw [if_neg (Nat.not_lt.2 hshort)]⟩

/-- A path that can be followed leads to its place. -/
theorem location_of_target {disk : Disk} {path : String} {target : Target}
    (h : disk.target path = .ok target) : target.location = disk.place path := by
  rcases (target_eq_ok_iff.1 h).2 with
    ⟨hnone, rfl⟩ | ⟨front, name, parent, hparts, hparent, -, rfl⟩
  · rw [place, hnone]
    rfl
  · rw [place, hparts, List.foldl_append, ← descend_eq_ok hparent]
    rfl

theorem lookup_eq_ok_iff {disk : Disk} {path : String} {location : Location} {entry : DiskEntry} :
    disk.lookup path = .ok (location, entry) ↔
      ∃ target, disk.target path = .ok target ∧ target.location = location ∧
        disk.get? location = some entry ∧ (entry = .directory ∨ target.asDirectory = false) := by
  unfold lookup
  rw [bind_eq_ok]
  refine exists_congr fun target => and_congr_right fun _ => ?_
  split
  · rename_i hnone
    simp only [reduceCtorEq, false_iff]
    rintro ⟨rfl, hentry, -⟩
    rw [hnone] at hentry
    cases hentry
  · rename_i hdirectory
    constructor
    · rintro ⟨⟩
      exact ⟨rfl, hdirectory, .inl rfl⟩
    · rintro ⟨rfl, hentry, -⟩
      rw [Option.some.inj (hentry.symm.trans hdirectory)]
  · rename_i other hplain hother
    constructor
    · intro h
      split at h
      · cases h
      · rename_i hany
        cases h
        exact ⟨rfl, hother, .inr (by simpa using hany)⟩
    · rintro ⟨rfl, hentry, hany⟩
      obtain rfl : entry = other := Option.some.inj (hentry.symm.trans hother)
      rw [if_neg]
      simp [hany.resolve_left hplain]

theorem lookup_eq_ok {disk : Disk} {path : String} {location : Location} {entry : DiskEntry}
    (h : disk.lookup path = .ok (location, entry)) :
    location = disk.place path ∧ disk.get? location = some entry := by
  obtain ⟨target, htarget, rfl, hentry, -⟩ := lookup_eq_ok_iff.1 h
  exact ⟨location_of_target htarget, hentry⟩

theorem isFile_iff {disk : Disk} {path : String} :
    disk.isFile path = true ↔ ∃ held, disk.lookup path = .ok (disk.place path, .file held) := by
  unfold isFile
  constructor
  · intro h
    split at h
    · rename_i location held hlookup
      obtain ⟨rfl, -⟩ := lookup_eq_ok hlookup
      exact ⟨held, hlookup⟩
    · cases h
  · rintro ⟨held, hlookup⟩
    rw [hlookup]

/-! ### The parent of a path that can be followed -/

theorem descend_append {disk : Disk} {location reached : Location} {names more : List String} :
    disk.descend location (names ++ more) = .ok reached ↔
      ∃ between, disk.descend location names = .ok between ∧
        disk.descend between more = .ok reached := by
  rw [descend, List.foldlM_append, bind_eq_ok]
  rfl

/-- A path whose parts can all be gone through leads to a directory. -/
theorem isPresent_of_descend {disk : Disk} {path : String} {reached : Location}
    (hpath : badPath? path = none)
    (hdescend : disk.descend (disk.start path) (Path.parts path) = .ok reached) :
    disk.isPresent path = true := by
  have hfound : disk.lookup path = .ok (reached, .directory) := by
    rcases List.eq_nil_or_concat' (Path.parts path) with hparts | ⟨front, name, hparts⟩
    · rw [hparts] at hdescend
      cases hdescend
      have hroot : disk.start path = [] := by
        have hne : path ≠ "" := fun hempty => by
          rw [hempty] at hpath
          cases hpath
        rw [start, if_pos (Path.isAbsolute_of_parts_eq_nil hne hparts)]
      exact lookup_eq_ok_iff.2
        ⟨_, target_eq_ok_iff.2 ⟨hpath, .inl ⟨hparts, rfl⟩⟩, rfl, by rw [hroot]; rfl, .inl rfl⟩
    · rw [hparts, descend_append] at hdescend
      obtain ⟨parent, hparent, hlast⟩ := hdescend
      obtain ⟨henter, hreached⟩ := descend_cons.1 hlast
      cases hreached
      obtain ⟨hshort, hdirectory, -⟩ := enter_eq_ok.1 henter
      exact lookup_eq_ok_iff.2
        ⟨_, target_eq_ok_iff.2 ⟨hpath, .inr ⟨front, name, parent, hparts, hparent, hshort, rfl⟩⟩, rfl,
          hdirectory, .inl rfl⟩
  rw [isPresent, hfound]
  rfl

theorem badPath?_eq_none_iff {path : String} :
    badPath? path = none ↔
      '\x00' ∉ path.toList ∧ path ≠ "" ∧ path.utf8ByteSize < pathLimit := by
  unfold badPath?
  repeat' split
  all_goals simp_all

/-- The directory that the last component stands in is there if the path can be followed. -/
theorem isPresent_parent {disk : Disk} {path parent : String} {target : Target}
    (htarget : disk.target path = .ok target) (h : Path.parent? path = some parent)
    (hne : parent ≠ "") : disk.isPresent parent = true := by
  obtain ⟨hpath, hparts⟩ := target_eq_ok_iff.1 htarget
  obtain ⟨hzero, -, hlength⟩ := badPath?_eq_none_iff.1 hpath
  obtain ⟨rest, hrest⟩ := Path.parent_prefix h
  have hparent : badPath? parent = none := by
    refine badPath?_eq_none_iff.2 ⟨fun hmem => hzero ?_, hne, Nat.lt_of_le_of_lt ?_ hlength⟩
    · rw [← hrest]
      exact List.mem_append_left _ hmem
    · have happend : path = parent ++ .ofList rest := String.toList_inj.1 (by simp [hrest])
      rw [happend, String.utf8ByteSize_append]
      exact Nat.le_add_right _ _
  have hstart : disk.start parent = disk.start path := by
    rw [start, start, Path.isAbsolute_parent h hne]
  obtain ⟨more, hmore⟩ := Path.parts_parent_prefix h
  rcases hparts with ⟨hnone, -⟩ | ⟨front, name, location, hsplit, hdescend, -⟩
  · rw [hnone] at hmore
    have hnil : Path.parts parent = [] := (List.append_eq_nil_iff.1 hmore).1
    have hdescend : disk.descend (disk.start parent) (Path.parts parent) =
        .ok (disk.start parent) := by
      rw [hnil]
      rfl
    exact isPresent_of_descend hparent hdescend
  · rw [hsplit, List.dropLast_concat] at hmore
    rw [← hmore, descend_append, ← hstart] at hdescend
    obtain ⟨between, hbetween, -⟩ := hdescend
    exact isPresent_of_descend hparent hbetween

end Disk

end MentionPrompt
