import MentionPrompt.Editing.Capture
import MentionPrompt.Segment.Token

/-!
What a keystroke can do to a capture.

Main statement: a query is being typed after a keystroke only if the keystroke was `@`, or changed
the query being typed at its end.
-/

namespace MentionPrompt.CaptureState

/-- The characters `@` and a query, as atoms of a document. -/
def span (query : String) : List Atom := ('@' :: query.toList).map .char

theorem span_push (query : String) (c : Char) : span (query.push c) = span query ++ [.char c] := by
  simp [span]

/-- The last atom of a span is a character. -/
theorem span_eq_concat (query : String) : ∃ init c, span query = init ++ [.char c] := by
  obtain ⟨init, c, hspan⟩ :=
    (List.eq_nil_or_concat ('@' :: query.toList)).resolve_left (List.cons_ne_nil _ _)
  exact ⟨init.map .char, c, by rw [span, hspan, List.concat_eq_append, List.map_append]; rfl⟩

theorem press_at (capture : CaptureState) : (capture.press (.char '@')).2 = .composing "" := by
  cases capture <;> rfl

/-- A keystroke leaves a query being typed in three ways: it starts one, makes it longer by a word
character, or takes its last character. -/
theorem press_eq_composing {capture : CaptureState} {key : Key} {query : String}
    (h : (capture.press key).2 = .composing query) :
    (key = .char '@' ∧ query = "") ∨
    (∃ old c, capture = .composing old ∧ key = .char c ∧ isWordChar c = true ∧ query = old.push c) ∨
    (∃ old c, capture = .composing old ∧ key = .backspace ∧ old = query.push c) := by
  by_cases hat : key = .char '@'
  · rw [hat, press_at] at h
    cases h
    exact .inl ⟨hat, rfl⟩
  cases capture with
  | idle =>
    cases key with
    | char c =>
      have hc : c ≠ '@' := fun hc => hat (by rw [hc])
      simp [press, hc] at h
    | backspace => simp [press] at h
    | escape => simp [press] at h
  | composing old =>
    cases key with
    | char c =>
      have hc : c ≠ '@' := fun hc => hat (by rw [hc])
      cases hword : isWordChar c with
      | true =>
        simp only [press, hc, hword, if_true, if_false, composing.injEq] at h
        exact .inr (.inl ⟨old, c, rfl, rfl, hword, h.symm⟩)
      | false => simp [press, hc, hword] at h
    | backspace =>
      by_cases hempty : old.isEmpty = true
      · simp [press, hempty] at h
      · simp only [press, if_neg hempty, composing.injEq] at h
        have hne : old.toList ≠ [] := by simpa using hempty
        refine .inr (.inr ⟨old, old.toList.getLast hne, rfl, rfl, ?_⟩)
        rw [← String.toList_inj, ← h, String.toList_push, String.toList_ofList,
          List.dropLast_concat_getLast]
    | escape => simp [press] at h

end MentionPrompt.CaptureState
