import Mathlib.Data.List.Nodup
import MentionPrompt.Catalog.Step
import MentionPrompt.Segment.Basic

/-!
The catalogs at one moment, and what they lack.

Main statements: looking a name or an id up finds something exactly when an entry carries it, and
where no two entries carry the same, it finds the same in any order.
-/

namespace MentionPrompt

theorem Step.isSome_find? {steps : List Step} {stepName : String} :
    (Step.find? steps stepName).isSome = true ↔ stepName ∈ steps.map Step.stepName := by
  simp [Step.find?]

theorem Media.isSome_find? {catalog : List Media} {mediaId : String} :
    (Media.find? catalog mediaId).isSome = true ↔ mediaId ∈ catalog.map Media.mediaId := by
  simp [Media.find?]

/-! ### Lists in which no two members have one key -/

section Keyed

variable {α : Type} {key : α → String} {list other : List α} {wanted : String}

theorem find?_eq_some_iff_of_nodup (h : (list.map key).Nodup) {member : α} :
    list.find? (key · == wanted) = some member ↔ member ∈ list ∧ key member = wanted := by
  constructor
  · intro hfind
    exact ⟨List.mem_of_find?_eq_some hfind, by simpa using List.find?_some hfind⟩
  · rintro ⟨hmem, rfl⟩
    have hsome : (list.find? (key · == key member)).isSome = true :=
      List.find?_isSome.2 ⟨member, hmem, beq_self_eq_true (key member)⟩
    obtain ⟨found, hfound⟩ := Option.isSome_iff_exists.1 hsome
    have hkey : key found = key member := by simpa using List.find?_some hfound
    rw [hfound, List.inj_on_of_nodup_map h (List.mem_of_find?_eq_some hfound) hmem hkey]

/-- What is found under a key does not depend on the order of the list. -/
theorem find?_eq_of_perm (h : (list.map key).Nodup) (hperm : other.Perm list) (wanted : String) :
    other.find? (key · == wanted) = list.find? (key · == wanted) := by
  have hother : (other.map key).Nodup := (hperm.map key).nodup_iff.2 h
  refine Option.ext fun member => ?_
  rw [find?_eq_some_iff_of_nodup h, find?_eq_some_iff_of_nodup hother, hperm.mem_iff]

end Keyed

/-- Where ids differ, an entry is what is found under its id. -/
theorem Media.find?_eq_of_nodup {catalog : List Media} (h : (catalog.map Media.mediaId).Nodup)
    {entry : Media} (hmem : entry ∈ catalog) : Media.find? catalog entry.mediaId = some entry :=
  (find?_eq_some_iff_of_nodup h).2 ⟨hmem, rfl⟩

/-- The catalogs as they stand at one moment; there may be no step catalog at all. -/
structure Snapshot where
  steps : Option (List Step) := none
  catalog : List Media := []
  deriving DecidableEq, Repr

namespace Snapshot

/-- The catalogs do not hold what a reference points at. A step that no catalog is there for is
not lacking. -/
def Lacks (now : Snapshot) : RefKind → String → Prop
  | .step, stepName => ∃ steps ∈ now.steps, stepName ∉ steps.map Step.stepName
  | .media, mediaId => mediaId ∉ now.catalog.map Media.mediaId

instance (now : Snapshot) (kind : RefKind) (identifier : String) :
    Decidable (now.Lacks kind identifier) :=
  match kind with
  | .step => inferInstanceAs (Decidable (∃ steps ∈ now.steps, identifier ∉ steps.map Step.stepName))
  | .media => inferInstanceAs (Decidable (identifier ∉ now.catalog.map Media.mediaId))

end Snapshot

end MentionPrompt
