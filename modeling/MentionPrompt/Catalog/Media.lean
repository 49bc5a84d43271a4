import MentionPrompt.Catalog.Upload
import MentionPrompt.Text.Blank

/-!
Media entries of a catalog. An entry is shown under its own display name, trimmed, unless that is
unset or blank; then under the name its storage path suggests, and failing that under its id.
-/

namespace MentionPrompt

/-- One image or other medium that a prompt can refer to. -/
structure Media where
  mediaId : String
  url : String
  storagePath : String := ""
  displayName : Option String := none
  deriving DecidableEq, Repr

/-- The name that the entry sets for itself, trimmed, if it is not blank. -/
def Media.ownName? (entry : Media) : Option String :=
  (entry.displayName.map Text.trim).filter (!·.isEmpty)

/-- The name that the storage path suggests, or else the id. -/
def Media.fallbackName (entry : Media) : String :=
  let derived := Upload.suggestedName entry.storagePath
  if derived.isEmpty then entry.mediaId else derived

/-- The name under which the entry is shown. -/
def Media.effectiveName (entry : Media) : String := entry.ownName?.getD entry.fallbackName

theorem Media.effectiveName_of_trimmed {entry : Media} {name : String}
    (hname : entry.displayName = some name) (htrim : Text.trim name = name) (hne : name ≠ "") :
    entry.effectiveName = name := by
  have hshown : (!name.isEmpty) = true := by simpa using hne
  simp only [effectiveName, ownName?, hname, Option.map_some, htrim, Option.filter, hshown, if_true,
    Option.getD_some]

/-- The first entry of the catalog with the id. -/
def Media.find? (catalog : List Media) (mediaId : String) : Option Media :=
  catalog.find? (·.mediaId == mediaId)

end MentionPrompt
