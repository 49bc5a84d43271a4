import Mathlib.Data.List.Basic
import MentionPrompt.Yaml.Writer

/-!
Characters, places, and the indents that the writer puts in. Each is read in more than one way; what
all readings need to know of them is here.

A scalar is followed by a line break, the indent of what comes next, and its first character; or by
the end of the text. Every scalar is read up to there, whatever its style.
-/

namespace MentionPrompt.Yaml

/-! ### Characters -/

/-- The text goes on with a character that neither parts words nor starts a comment, or ends. -/
def startsContent : List Char → Bool
  | [] => true
  | c :: _ => !isBreak c && !isSpace c && c != '#'

theorem isBreak_lineFeed : isBreak '\n' = true := by decide

theorem isBreak_space : isBreak ' ' = false := by decide

theorem isSpace_space : isSpace ' ' = true := by decide

theorem not_isSpace_of_isBreak {c : Char} (h : isBreak c = true) : isSpace c = false := by
  simp only [isBreak, Bool.or_eq_true, beq_iff_eq] at h
  obtain (rfl | rfl) | rfl := h <;> decide

/-- The only blank that is printed is the space. -/
theorem eq_space_of_isPrintable {c : Char} (hprint : isPrintable c = true)
    (hspace : isSpace c = true) : c = ' ' := by
  simp only [isSpace, Bool.or_eq_true, beq_iff_eq] at hspace
  rcases hspace with rfl | rfl
  · rfl
  · exact absurd hprint (by decide)

theorem gapNext_cons {c : Char} (rest : List Char) :
    gapNext (c :: rest) = (isSpace c || isBreak c) := rfl

/-! ### Places -/

namespace Place

theorem next_eq_skip (place : Place) : place.next = place.skip 1 := rfl

@[simp] theorem skip_zero (place : Place) : place.skip 0 = place := rfl

@[simp] theorem skip_skip (place : Place) (m n : Nat) :
    (place.skip m).skip n = place.skip (m + n) := by
  simp [skip, Nat.add_assoc]

@[simp] theorem column_skip (place : Place) (n : Nat) : (place.skip n).column = place.column + n :=
  rfl

@[simp] theorem line_skip (place : Place) (n : Nat) : (place.skip n).line = place.line := rfl

@[simp] theorem index_skip (place : Place) (n : Nat) : (place.skip n).index = place.index + n := rfl

@[simp] theorem column_newline (place : Place) : place.newline.column = 0 := rfl

end Place

/-! ### Lines -/

theorem documentMark_eq_false {c : Char} (hdash : c ≠ '-') (hdot : c ≠ '.') (rest : List Char) :
    documentMark (c :: rest) = false := by
  obtain _ | ⟨d, _ | ⟨e, rest⟩⟩ := rest <;> simp [documentMark, marks, hdash, hdot]

theorem documentMark_of_isBreak {c : Char} (h : isBreak c = true) (rest : List Char) :
    documentMark (c :: rest) = false :=
  documentMark_eq_false (by rintro rfl; exact absurd h (by decide))
    (by rintro rfl; exact absurd h (by decide)) rest

theorem indentLines_break {c : Char} (hc : isBreak c = true) (indent : Nat) (atStart : Bool)
    (s : List Char) : indentLines indent atStart (c :: s) = c :: indentLines indent true s := by
  rw [indentLines, if_pos hc]

theorem indentLines_word {c : Char} (hc : isBreak c = false) (indent : Nat) (atStart : Bool)
    (s : List Char) :
    indentLines indent atStart (c :: s) =
      (if atStart then spaces indent else []) ++ c :: indentLines indent false s := by
  rw [indentLines, if_neg (by simp [hc])]

end MentionPrompt.Yaml
