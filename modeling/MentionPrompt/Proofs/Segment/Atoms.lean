import Mathlib.Data.List.Chain
import MentionPrompt.Segment.Token

/-!
Segments as a list of atoms, and back.

A segment is flattened into its atoms, one for each character of a literal and one for each
reference. Main statement: gathering atoms undoes flattening exactly on the merged lists, those
without an empty literal and without two literals in a row.
-/

namespace MentionPrompt

/-- The characters that the atom stands for in the canonical text. -/
def Atom.chars : Atom → List Char
  | .char c => [c]
  | .mention kind identifier => (kind.token identifier).toList

namespace Segment

/-- The segment is literal text. -/
def isLiteral : Segment → Bool
  | .literal _ => true
  | .reference _ _ => false

theorem eq_reference_of_isLiteral_eq_false {segment : Segment} (h : segment.isLiteral = false) :
    ∃ kind identifier, segment = .reference kind identifier := by
  cases segment with
  | literal text => cases h
  | reference kind identifier => exact ⟨kind, identifier, rfl⟩

/-- No literal is empty, and no two literals stand next to each other. -/
structure Merged (segments : List Segment) : Prop where
  literal_ne_empty : ∀ text, Segment.literal text ∈ segments → text ≠ ""
  separated : segments.IsChain fun a b => (a.isLiteral && b.isLiteral) = false

/-- The atoms of one segment. -/
def toAtoms : Segment → List Atom
  | .literal text => text.toList.map .char
  | .reference kind identifier => [.mention kind identifier]

/-- The atoms of a list of segments. -/
def flatten (segments : List Segment) : List Atom := segments.flatMap toAtoms

@[simp] theorem Atom.chars_map_char (run : List Char) :
    (run.map Atom.char).flatMap Atom.chars = run := by
  induction run with
  | nil => rfl
  | cons c run ih => rw [List.map_cons, List.flatMap_cons, ih, Atom.chars, List.singleton_append]

@[simp] theorem flatten_nil : flatten [] = [] := rfl

@[simp] theorem flatten_cons (segment : Segment) (segments : List Segment) :
    flatten (segment :: segments) = segment.toAtoms ++ flatten segments := rfl

@[simp] theorem flatten_append (a b : List Segment) : flatten (a ++ b) = flatten a ++ flatten b :=
  List.flatMap_append

theorem map_char_injective : Function.Injective (List.map Atom.char) :=
  List.map_injective_iff.2 fun _ _ h => Atom.char.inj h

theorem chars_toAtoms (segment : Segment) :
    segment.toAtoms.flatMap Atom.chars = segment.text.toList := by
  cases segment with
  | literal text => exact Atom.chars_map_char text.toList
  | reference kind identifier => exact List.flatMap_singleton ..

/-- The canonical text is what the atoms stand for, one after the other. -/
theorem chars_flatten (segments : List Segment) :
    (flatten segments).flatMap Atom.chars = (serialize segments).toList := by
  induction segments with
  | nil => rfl
  | cons segment segments ih =>
    rw [flatten_cons, List.flatMap_append, chars_toAtoms, ih, toList_serialize, toList_serialize,
      List.flatMap_cons]

/-! ### Merged lists -/

theorem merged_nil : Merged [] := ⟨by simp, .nil⟩

theorem merged_append {a b : List Segment} :
    Merged (a ++ b) ↔ Merged a ∧ Merged b ∧
      ∀ x ∈ a.getLast?, ∀ y ∈ b.head?, (x.isLiteral && y.isLiteral) = false := by
  constructor
  · rintro ⟨hne, hsep⟩
    obtain ⟨ha, hb, hab⟩ := List.isChain_append.1 hsep
    exact ⟨⟨fun t ht => hne t (List.mem_append_left b ht), ha⟩,
      ⟨fun t ht => hne t (List.mem_append_right a ht), hb⟩, hab⟩
  · rintro ⟨ha, hb, hab⟩
    refine ⟨fun t ht => ?_, List.isChain_append.2 ⟨ha.separated, hb.separated, hab⟩⟩
    rcases List.mem_append.1 ht with ht | ht
    · exact ha.literal_ne_empty t ht
    · exact hb.literal_ne_empty t ht

theorem merged_reference (kind : RefKind) (identifier : String) :
    Merged [.reference kind identifier] := ⟨by simp, .singleton _⟩

theorem merged_literal {text : String} (h : text ≠ "") : Merged [.literal text] :=
  ⟨by simp [h], .singleton _⟩

theorem merged_reference_cons {kind : RefKind} {identifier : String} {segments : List Segment} :
    Merged (.reference kind identifier :: segments) ↔ Merged segments := by
  rw [← List.singleton_append, merged_append]
  simp [merged_reference, isLiteral]

theorem merged_literal_cons {text : String} {segments : List Segment} :
    Merged (.literal text :: segments) ↔
      text ≠ "" ∧ Merged segments ∧ ∀ y ∈ segments.head?, y.isLiteral = false := by
  rw [← List.singleton_append, merged_append]
  constructor
  · rintro ⟨⟨hne, -⟩, hs, hhead⟩
    exact ⟨hne text (by simp), hs, fun y hy => by simpa [isLiteral] using hhead _ rfl y hy⟩
  · rintro ⟨hne, hs, hhead⟩
    refine ⟨merged_literal hne, hs, fun x hx y hy => ?_⟩
    rw [hhead y hy, Bool.and_false]

/-! ### Gathering -/

theorem merged_literalBefore (run : List Char) {segments : List Segment} (h : Merged segments)
    (hhead : ∀ y ∈ segments.head?, y.isLiteral = false) : Merged (literalBefore run segments) := by
  cases run with
  | nil => exact h
  | cons c run => exact merged_literal_cons.2 ⟨by simp [← String.toList_eq_nil_iff], h, hhead⟩

theorem flatten_literalBefore (run : List Char) (segments : List Segment) :
    flatten (literalBefore run segments) = run.map .char ++ flatten segments := by
  cases run with
  | nil => rfl
  | cons c run => simp [literalBefore, toAtoms]

/-- The state of gathering in front of a list of atoms: the open run of characters, and the segments
behind it. -/
def gathered (list : List Atom) : List Char × List Segment := list.foldr gather ([], [])

theorem ofAtoms_eq (list : List Atom) :
    ofAtoms list = literalBefore (gathered list).1 (gathered list).2 := rfl

theorem gathered_mention (kind : RefKind) (identifier : String) (list : List Atom) :
    gathered (.mention kind identifier :: list)
      = ([], .reference kind identifier :: ofAtoms list) := rfl

theorem gathered_run (run : List Char) (list : List Atom) :
    gathered (run.map .char ++ list) = (run ++ (gathered list).1, (gathered list).2) := by
  induction run with
  | nil => rfl
  | cons c run ih => exact congrArg (gather (.char c)) ih

/-- What gathering keeps: the segments behind the open run are merged and begin with a reference,
and nothing of the atoms is lost. -/
theorem gathered_spec (list : List Atom) :
    Merged (gathered list).2 ∧ (∀ y ∈ (gathered list).2.head?, y.isLiteral = false) ∧
      (gathered list).1.map Atom.char ++ flatten (gathered list).2 = list := by
  induction list with
  | nil => exact ⟨merged_nil, by simp [gathered], rfl⟩
  | cons atom list ih =>
    obtain ⟨hmerged, hhead, hflat⟩ := ih
    cases atom with
    | char c => exact ⟨hmerged, hhead, congrArg (Atom.char c :: ·) hflat⟩
    | mention kind identifier =>
      rw [gathered_mention, ofAtoms_eq]
      have hbehind := merged_literalBefore (gathered list).1 hmerged hhead
      refine ⟨merged_reference_cons.2 hbehind, by simp [isLiteral], ?_⟩
      rw [List.map_nil, List.nil_append, flatten_cons, flatten_literalBefore, hflat]
      rfl

theorem merged_ofAtoms (list : List Atom) : Merged (ofAtoms list) := by
  obtain ⟨hmerged, hhead, -⟩ := gathered_spec list
  exact merged_literalBefore _ hmerged hhead

theorem flatten_ofAtoms (list : List Atom) : flatten (ofAtoms list) = list := by
  obtain ⟨-, -, hflat⟩ := gathered_spec list
  rw [ofAtoms_eq, flatten_literalBefore, hflat]

/-- No run is open in front of segments that do not begin with a literal. -/
theorem gathered_flatten {segments : List Segment} (h : ofAtoms (flatten segments) = segments)
    (hhead : ∀ y ∈ segments.head?, y.isLiteral = false) :
    gathered (flatten segments) = ([], segments) := by
  rw [ofAtoms_eq] at h
  cases hrun : gathered (flatten segments) with
  | mk run behind =>
    rw [hrun] at h
    cases run with
    | nil => exact congrArg ([], ·) h
    | cons c run =>
      rw [← h] at hhead
      exact absurd (hhead _ rfl) (by simp [isLiteral])

/-- Gathering the atoms of a merged list gives the list again. -/
theorem ofAtoms_flatten {segments : List Segment} (h : Merged segments) :
    ofAtoms (flatten segments) = segments := by
  induction segments with
  | nil => rfl
  | cons segment segments ih =>
    cases segment with
    | reference kind identifier =>
      exact congrArg (.reference kind identifier :: ·) (ih (merged_reference_cons.1 h))
    | literal text =>
      obtain ⟨hne, hmerged, hhead⟩ := merged_literal_cons.1 h
      have hrun : text.toList.isEmpty = false := by simpa using hne
      rw [ofAtoms_eq, flatten_cons, toAtoms, gathered_run, gathered_flatten (ih hmerged) hhead]
      simp [literalBefore, hrun]

/-- Gathering gives the one merged list of segments with the atoms. -/
theorem ofAtoms_eq_iff {list : List Atom} {segments : List Segment} :
    ofAtoms list = segments ↔ Merged segments ∧ flatten segments = list := by
  constructor
  · rintro rfl
    exact ⟨merged_ofAtoms list, flatten_ofAtoms list⟩
  · rintro ⟨hmerged, rfl⟩
    exact ofAtoms_flatten hmerged

end Segment

end MentionPrompt
