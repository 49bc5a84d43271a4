import Mathlib.Data.String.Basic

/-!
Cutting a text at byte offsets.

An offset can stand inside a character, and nothing can be cut there. Main statements: offsets counted
from the lengths of parts of the text stand between characters, and cut these parts out; the offset of
a character is the length of what stands before it.
-/

namespace MentionPrompt.Text

/-- The part of a text between two byte offsets, if both stand between characters, in order. -/
def cut? (text : String) (first last : Nat) : Option String :=
  if first ≤ last ∧ String.Pos.Raw.IsValid text ⟨first⟩ ∧ String.Pos.Raw.IsValid text ⟨last⟩ then
    some (String.Pos.Raw.extract text ⟨first⟩ ⟨last⟩)
  else none

theorem isValid_utf8ByteSize (front back : String) :
    String.Pos.Raw.IsValid (front ++ back) ⟨front.utf8ByteSize⟩ :=
  String.Pos.Raw.isValid_iff_exists_append.2 ⟨front, back, rfl, rfl⟩

/-- The part behind a first part and in front of a last one is cut out by their lengths. -/
theorem cut?_append (front part back : String) :
    cut? (front ++ part ++ back) front.utf8ByteSize (front.utf8ByteSize + part.utf8ByteSize)
      = some part := by
  have hfirst : String.Pos.Raw.IsValid (front ++ part ++ back) ⟨front.utf8ByteSize⟩ := by
    rw [String.append_assoc]
    exact isValid_utf8ByteSize front (part ++ back)
  have hlast : String.Pos.Raw.IsValid (front ++ part ++ back)
      ⟨front.utf8ByteSize + part.utf8ByteSize⟩ := by
    rw [← String.utf8ByteSize_append]
    exact isValid_utf8ByteSize (front ++ part) back
  rw [cut?, if_pos ⟨Nat.le_add_right _ _, hfirst, hlast⟩]
  have hextract := String.extract_of_valid front.toList part.toList back.toList
  simp only [String.ofList_append, String.ofList_toList, String.utf8Len_toList] at hextract
  rw [hextract]

/-- The part behind a first part is cut off by its length. -/
theorem cut?_behind (front part : String) :
    cut? (front ++ part) front.utf8ByteSize (front ++ part).utf8ByteSize = some part := by
  have h := cut?_append front part ""
  rwa [String.append_empty, ← String.utf8ByteSize_append] at h

/-- The part in front of a last part is left when the length of this is taken from the whole. -/
theorem cut?_before (part back : String) :
    cut? (part ++ back) 0 ((part ++ back).utf8ByteSize - back.utf8ByteSize) = some part := by
  have h := cut?_append "" part back
  rw [String.utf8ByteSize_append, Nat.add_sub_cancel]
  simpa using h

/-- The byte offset of the first such character. -/
def offset? (text : String) (c : Char) : Option Nat :=
  if c ∈ text.toList then some (String.ofList (text.toList.takeWhile (· != c))).utf8ByteSize
  else none

theorem offset?_append {front : String} {c : Char} (h : c ∉ front.toList) (back : String) :
    offset? (front ++ String.singleton c ++ back) c = some front.utf8ByteSize := by
  have hpass : ∀ d ∈ front.toList, (d != c) = true := fun d hd =>
    bne_iff_ne.2 (ne_of_mem_of_not_mem hd h)
  have hchars : (front ++ String.singleton c ++ back).toList = front.toList ++ c :: back.toList := by
    simp
  have htake : (front.toList ++ c :: back.toList).takeWhile (· != c) = front.toList := by
    rw [List.takeWhile_append_of_pos hpass]
    simp
  rw [offset?, hchars, if_pos (by simp), htake, String.ofList_toList]

end MentionPrompt.Text
