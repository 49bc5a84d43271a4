import MentionPrompt.Proofs.Editing.History
import MentionPrompt.Proofs.Mention.Refresh

/-!
Reloading a session from its own text.

All that the invariant of a session lacks of a normal form is that no token was typed as text. Main
statement: reading the text of a session gives its segments back exactly when no text node holds a
token, and loading the text always gives a session with the same text.
-/

namespace MentionPrompt

open Segment (HasToken Normal parse)

namespace Composer

theorem mem_nodes_iff {composer : Composer} {text : String} :
    .text text ∈ composer.tree.nodes ↔ .literal text ∈ composer.tree.segments := by
  rw [Tree.segments, List.mem_map]
  constructor
  · intro hmem
    exact ⟨.text text, hmem, rfl⟩
  · rintro ⟨node, hmem, hsegment⟩
    cases node with
    | text text' => cases hsegment; exact hmem
    | step stepName missing => cases hsegment
    | media mediaId cachedName missing => cases hsegment

/-- The segments of a session are normal as soon as no text node holds a token. -/
theorem normal_segments_iff {composer : Composer} (h : composer.Coherent) :
    Normal composer.tree.segments ↔
      ∀ text, .text text ∈ composer.tree.nodes → ¬ HasToken text.toList := by
  constructor
  · intro hnormal text hmem
    exact hnormal.plain text (mem_nodes_iff.1 hmem)
  · intro hplain
    refine ⟨h.merged, fun kind identifier hmem => ?_, fun text hmem => ?_⟩
    · have hin := Segment.infix_flatten_of_mem hmem
      exact h.writable kind identifier (hin.subset (List.mem_singleton.2 rfl))
    · exact hplain text (mem_nodes_iff.2 hmem)

/-- CORRECT: a session survives a reload exactly when no token was typed as text; its text always
does. -/
theorem reload_iff_no_typed_token (text? : Option String) (steps : List Step) (catalog : List Media)
    (options : CaptureOptions) (actions : List EditAction) :
    let session := (start text? steps catalog options).run actions
    (parse session.text = session.tree.segments ↔
        ∀ text, .text text ∈ session.tree.nodes → ¬ HasToken text.toList) ∧
      ∀ steps' catalog' options',
        (start (some session.text) steps' catalog' options').text = session.text := by
  intro session
  have hcoherent : session.Coherent := coherent_run_start text? steps catalog options actions
  refine ⟨?_, fun steps' catalog' options' => Tree.text_ofText _ _ _⟩
  rw [← normal_segments_iff hcoherent]
  exact Segment.parse_serialize_iff

/-- A token that was typed character by character is text until the session is loaded again. -/
example : let session := (start none [] [] {}).act (.typing "@\x7bref:a\x7d")
    session.tree.nodes = [.text "@\x7bref:a\x7d"] ∧ HasToken "@\x7bref:a\x7d".toList ∧
      parse session.text = [.reference .media "a"] := by
  decide +kernel

end Composer

end MentionPrompt
