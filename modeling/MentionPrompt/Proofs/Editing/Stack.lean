import MentionPrompt.Proofs.Editing.History

/-!
A session as a plain stack of atoms.

A stack editor knows two moves: to push an atom, and to pop the last one. Main statement: over any
history the document is the stack that the moves of its actions leave.

        character ──▶ push it
        backspace ──▶ pop
        escape, catalogs ──▶ nothing
        candidate, refused ──▶ nothing
        candidate, chosen ──▶ pop `@` and the query, push the mention (and a space, if asked for)
-/

namespace MentionPrompt

/-- One move of a plain stack editor. -/
inductive StackMove where
  | push (atom : Atom)
  | pop
  deriving DecidableEq, Repr

/-- The stack after a move; to pop an empty stack changes nothing. -/
def StackMove.apply (stack : List Atom) : StackMove → List Atom
  | .push atom => stack ++ [atom]
  | .pop => stack.dropLast

theorem StackMove.foldl_push (stack atoms : List Atom) :
    (atoms.map StackMove.push).foldl apply stack = stack ++ atoms := by
  induction atoms generalizing stack with
  | nil => simp
  | cons atom atoms ih => simp [ih, apply]

theorem StackMove.foldl_pop (stack atoms : List Atom) :
    (List.replicate atoms.length StackMove.pop).foldl apply (stack ++ atoms) = stack := by
  induction atoms using List.reverseRecOn with
  | nil => simp
  | append_singleton atoms atom ih =>
    rw [List.length_append, List.length_singleton, List.replicate_succ, List.foldl_cons, apply,
      ← List.append_assoc, List.dropLast_concat, ih]

namespace Composer

/-- The moves of an insertion: the typed text is popped, then the mention is pushed. -/
def insertionMoves (composer : Composer) (insertion : Insertion) : List StackMove :=
  List.replicate insertion.replaced.length .pop ++ (composer.inserted insertion).map .push

/-- The moves that an action makes. -/
def moves (composer : Composer) : EditAction → List StackMove
  | .key (.char c) => [.push (.char c)]
  | .key .backspace => [.pop]
  | .key .escape => []
  | .typing text => (text.toList.map Atom.char).map .push
  | .select candidate => (composer.select candidate).1.elim [] composer.insertionMoves
  | .pick index => (composer.pick index).1.elim [] composer.insertionMoves
  | .catalogs _ _ => []

/-- The moves of a history, one action after the other. -/
def historyMoves (composer : Composer) : List EditAction → List StackMove
  | [] => []
  | action :: actions => composer.moves action ++ (composer.act action).historyMoves actions

/-- What choosing a candidate comes to. Without an insertion nothing changes. With one, a query was
being typed; its `@` and characters, the last atoms of the document, give way to the mention, and
the capture is over. -/
def Chooses (composer : Composer) (candidate : Candidate) : Option Insertion × Composer → Prop
  | (none, after) => after = composer
  | (some insertion, after) => ∃ query front,
      composer.capture = .composing query ∧ composer.atoms = front ++ CaptureState.span query ∧
      insertion = ⟨candidate.kind, candidate.identifier, "@" ++ query⟩ ∧
      after.atoms = front ++ composer.inserted insertion ∧ after.capture = .idle

/-- What each operation does to the stack of atoms, and what the stack says about the text. -/
structure EditsStack (composer : Composer) : Prop where
  char : ∀ c, (composer.type (.char c)).2.atoms = composer.atoms ++ [.char c]
  backspace : (composer.type .backspace).2.atoms = composer.atoms.dropLast
  escape : (composer.type .escape).2.atoms = composer.atoms
  typing : ∀ text, (composer.typeText text).atoms = composer.atoms ++ text.toList.map .char
  catalogs : ∀ steps catalog, (composer.setCatalogs steps catalog).atoms = composer.atoms
  select : ∀ candidate, composer.Chooses candidate (composer.select candidate)
  accepts : ∀ candidate, (composer.select candidate).1.isSome
    = (isIdentifier candidate.identifier && composer.capture.isComposing)
  pick : ∀ index, composer.pick index = (none, composer) ∨
    ∃ candidate, composer.candidates[index]? = some candidate ∧
      composer.Chooses candidate (composer.pick index)
  text : composer.text.toList = composer.atoms.flatMap Atom.chars

theorem chooses_select {composer : Composer} (h : composer.Coherent) (candidate : Candidate) :
    composer.Chooses candidate (composer.select candidate) := by
  rcases composer.select_cases candidate with hnone | ⟨query, -, hquery, hsome⟩
  · rw [hnone]
    rfl
  · obtain ⟨front, hfront⟩ := h.typed query hquery
    rw [hsome]
    exact ⟨query, front, hquery, hfront, rfl, (mention_spec h hfront rfl).1, rfl⟩

theorem isSome_select (composer : Composer) (candidate : Candidate) :
    (composer.select candidate).1.isSome
      = (isIdentifier candidate.identifier && composer.capture.isComposing) := by
  cases hid : isIdentifier candidate.identifier with
  | false => simp [select, hid]
  | true =>
    cases hcapture : composer.capture with
    | idle =>
      simp [select, hid, hcapture, CaptureState.select, CaptureState.isComposing,
        CaptureState.query?]
    | composing query =>
      simp [select, hid, hcapture, CaptureState.select, CaptureState.isComposing,
        CaptureState.query?]

theorem editsStack_of_coherent {composer : Composer} (h : composer.Coherent) :
    composer.EditsStack where
  char c := atoms_editTree_char composer c
  backspace := (editTree_backspace h).1
  escape := rfl
  typing text := (typeText_spec h text).2
  catalogs := atoms_setCatalogs composer
  select := chooses_select h
  accepts := isSome_select composer
  pick index := by
    rcases composer.pick_cases index with hnone | ⟨candidate, hcandidate, hselect⟩
    · exact .inl hnone
    · exact .inr ⟨candidate, hcandidate, hselect ▸ chooses_select h candidate⟩
  text := Tree.toList_text composer.tree

/-- A chosen candidate makes exactly its moves. -/
theorem Chooses.atoms_eq {composer : Composer} {candidate : Candidate}
    {result : Option Insertion × Composer} (h : composer.Chooses candidate result) :
    result.2.atoms
      = (result.1.elim [] composer.insertionMoves).foldl StackMove.apply composer.atoms := by
  obtain ⟨insertion?, after⟩ := result
  cases insertion? with
  | none =>
    have hsame : after = composer := h
    rw [hsame]
    rfl
  | some insertion =>
    obtain ⟨query, front, -, hfront, rfl, hafter, -⟩ := h
    have hlength : ("@" ++ query).length = (CaptureState.span query).length := by
      rw [← String.length_toList, toList_at_append, CaptureState.span, List.length_map]
    rw [Option.elim_some, insertionMoves, List.foldl_append, hlength, hfront, StackMove.foldl_pop,
      StackMove.foldl_push]
    exact hafter

/-- An action makes exactly its moves. -/
theorem atoms_act {composer : Composer} (h : composer.Coherent) (action : EditAction) :
    (composer.act action).atoms = (composer.moves action).foldl StackMove.apply composer.atoms := by
  have hstack := editsStack_of_coherent h
  cases action with
  | key key =>
    cases key with
    | char c => exact hstack.char c
    | backspace => exact hstack.backspace
    | escape => rfl
  | typing text => rw [moves, StackMove.foldl_push]; exact hstack.typing text
  | select candidate => exact (hstack.select candidate).atoms_eq
  | pick index =>
    rcases hstack.pick index with hnone | ⟨candidate, -, hchooses⟩
    · rw [act, moves, hnone]
      rfl
    · exact hchooses.atoms_eq
  | catalogs steps catalog => exact hstack.catalogs steps catalog

/-- A history makes exactly its moves, action by action. -/
theorem atoms_run {composer : Composer} (h : composer.Coherent) (actions : List EditAction) :
    (composer.run actions).atoms
      = (composer.historyMoves actions).foldl StackMove.apply composer.atoms := by
  induction actions generalizing composer with
  | nil => rfl
  | cons action actions ih =>
    rw [historyMoves, List.foldl_append, ← atoms_act h]
    exact ih (coherent_act h action)

/-- CORRECT: over every history the document is the stack that pushes and pops leave, and after
every history each operation is that of a plain stack editor. -/
theorem refines_stack (text? : Option String) (steps : List Step) (catalog : List Media)
    (options : CaptureOptions) (actions : List EditAction) :
    let first := start text? steps catalog options
    (first.run actions).atoms = (first.historyMoves actions).foldl StackMove.apply first.atoms ∧
      (first.run actions).EditsStack :=
  ⟨atoms_run (coherent_start text? steps catalog options) actions,
    editsStack_of_coherent (coherent_run_start text? steps catalog options actions)⟩

end Composer

end MentionPrompt
