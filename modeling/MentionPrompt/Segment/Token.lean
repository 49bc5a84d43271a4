import MentionPrompt.Segment.Basic

/-!
Reading a text as segments.

The text is first read as atoms: at each place a token, if one starts there, and else the single
character. Characters that follow one another then become one literal. Reading left to right makes
tokens leftmost, and what a token covers is not read again. Main statement: a token leaves a shorter
rest, so the reading ends.
-/

namespace MentionPrompt

/-- One character of text, or one reference taken as a whole. -/
inductive Atom where
  | char (c : Char)
  | mention (kind : RefKind) (identifier : String)
  deriving DecidableEq, Repr

/-- Reads a token keyword with its colon; gives the kind that it stands for, and the rest. -/
def Segment.keyword? (s : List Char) : Option (RefKind × List Char) :=
  match s.dropWhile (· != ':') with
  | _ :: rest => (RefKind.ofKeyword? (String.ofList (s.takeWhile (· != ':')))).map (·, rest)
  | [] => none

/-- Reads a token at the start of the text; gives its kind, its identifier and the rest. -/
def Segment.token? : List Char → Option (RefKind × List Char × List Char)
  | '@' :: '{' :: rest => do
    let (kind, body) ← keyword? rest
    match body.takeWhile isIdentifierChar, body.dropWhile isIdentifierChar with
    | c :: identifier, '}' :: after => some (kind, c :: identifier, after)
    | _, _ => none
  | _ => none

theorem Segment.length_le_of_keyword? {s rest : List Char} {kind : RefKind}
    (h : keyword? s = some (kind, rest)) : rest.length ≤ s.length := by
  unfold keyword? at h
  split at h
  · rename_i colon behind hbehind
    obtain ⟨found, -, hfound⟩ := Option.map_eq_some_iff.1 h
    obtain ⟨-, rfl⟩ := Prod.mk.inj hfound
    have hsuffix := (List.dropWhile_suffix (p := (· != ':')) (l := s)).length_le
    rw [hbehind] at hsuffix
    exact Nat.le_of_succ_le hsuffix
  · cases h

theorem Segment.length_lt_of_token? {s identifier after : List Char} {kind : RefKind}
    (h : token? s = some (kind, identifier, after)) : after.length < s.length := by
  unfold token? at h
  split at h
  · rename_i rest
    cases hk : keyword? rest with
    | none => simp [hk] at h
    | some found =>
      obtain ⟨kind', body⟩ := found
      have hle := length_le_of_keyword? hk
      have hdrop := (List.dropWhile_suffix (p := isIdentifierChar) (l := body)).length_le
      simp only [hk, Option.bind_eq_bind, Option.bind_some] at h
      split at h
      · rename_i hd
        simp only [Option.some.injEq, Prod.mk.injEq] at h
        rw [hd] at hdrop
        simp only [List.length_cons] at hdrop ⊢
        rw [← h.2.2]
        omega
      · simp at h
  · simp at h

/-- The atoms of a text. -/
def Segment.atoms : List Char → List Atom
  | [] => []
  | c :: rest =>
    match _h : token? (c :: rest) with
    | some (kind, identifier, after) => .mention kind (String.ofList identifier) :: atoms after
    | none => .char c :: atoms rest
  termination_by s => s.length
  decreasing_by
    · exact length_lt_of_token? _h
    · simp

/-- Puts a run of characters in front of segments, as one literal. -/
def Segment.literalBefore (run : List Char) (segments : List Segment) : List Segment :=
  if run.isEmpty then segments else .literal (String.ofList run) :: segments

/-- Puts one atom in front of a run of characters and the segments after it. -/
def Segment.gather : Atom → List Char × List Segment → List Char × List Segment
  | .char c, (run, segments) => (c :: run, segments)
  | .mention kind identifier, (run, segments) =>
    ([], .reference kind identifier :: literalBefore run segments)

/-- The segments that a list of atoms makes up. -/
def Segment.ofAtoms (list : List Atom) : List Segment :=
  let (run, segments) := list.foldr gather ([], [])
  literalBefore run segments

/-- The segments of a text. -/
def Segment.parse (text : String) : List Segment := Segment.ofAtoms (atoms text.toList)

end MentionPrompt
