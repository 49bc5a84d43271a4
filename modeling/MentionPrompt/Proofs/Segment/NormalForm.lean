import MentionPrompt.Proofs.Segment.Atoms
import MentionPrompt.Proofs.Segment.Token

/-!
Normal forms: the lists of segments that texts are read as.

A list is normal when it is merged, its references can be written, and no token hides in a literal.
Main statement: reading and writing are inverse to each other between texts and normal lists, so
each text has exactly one normal list of segments.
-/

namespace MentionPrompt.Segment

/-- Merged, with identifiers that a token can hold, and without a token inside a literal. -/
structure Normal (segments : List Segment) : Prop where
  merged : Merged segments
  writable : ∀ kind identifier, .reference kind identifier ∈ segments →
    isIdentifier identifier = true
  plain : ∀ text, .literal text ∈ segments → ¬ HasToken text.toList

/-! ### What is read can be written again -/

theorem chars_atoms (s : List Char) : (atoms s).flatMap Atom.chars = s := by
  fun_induction atoms s with
  | case1 => rfl
  | case2 c rest kind identifier after htoken ih =>
    obtain ⟨-, heq⟩ := token?_eq_some_iff.1 htoken
    rw [List.flatMap_cons, ih, heq, Atom.chars]
  | case3 c rest _ ih => rw [List.flatMap_cons, ih, Atom.chars, List.singleton_append]

theorem serialize_parse (text : String) : serialize (parse text) = text := by
  rw [← String.toList_inj, ← chars_flatten, parse, flatten_ofAtoms, chars_atoms]

theorem isIdentifier_of_mem_atoms {s : List Char} {kind : RefKind} {identifier : String}
    (h : .mention kind identifier ∈ atoms s) : isIdentifier identifier = true := by
  fun_induction atoms s with
  | case1 => cases h
  | case2 c rest kind' identifier' after htoken ih =>
    rcases List.mem_cons.1 h with heq | hrest
    · cases heq
      exact (token?_eq_some_iff.1 htoken).1
    · exact ih hrest
  | case3 c rest _ ih => exact ih (by simpa using h)

/-- Where reading gives a character, no token starts. -/
theorem token?_of_suffix_atoms {s : List Char} {c : Char} {list : List Atom}
    (h : .char c :: list <:+ atoms s) : token? (c :: list.flatMap Atom.chars) = none := by
  fun_induction atoms s with
  | case1 => simp at h
  | case2 c' rest kind identifier after htoken ih =>
    rcases List.suffix_cons_iff.1 h with heq | hrest
    · cases heq
    · exact ih hrest
  | case3 c' rest htoken ih =>
    rcases List.suffix_cons_iff.1 h with heq | hrest
    · cases heq
      rwa [chars_atoms]
    · exact ih hrest

theorem not_hasToken_of_infix_atoms {s run : List Char} (h : run.map .char <:+: atoms s) :
    ¬ HasToken run := by
  intro htoken
  obtain ⟨t, ⟨before, rfl⟩, hsome⟩ := hasToken_iff.1 htoken
  obtain ⟨front, back, heq⟩ := h
  cases t with
  | nil => simp [token?] at hsome
  | cons c t =>
    have hsuffix : .char c :: (t.map .char ++ back) <:+ atoms s :=
      ⟨front ++ before.map .char, by simp [← heq]⟩
    have hnone := token?_of_suffix_atoms hsuffix
    obtain ⟨⟨kind, identifier, after⟩, hread⟩ := Option.isSome_iff_exists.1 hsome
    rw [List.flatMap_append, Atom.chars_map_char, ← List.cons_append, token?_append hread] at hnone
    cases hnone

theorem infix_flatten_of_mem {segments : List Segment} {segment : Segment}
    (h : segment ∈ segments) : segment.toAtoms <:+: flatten segments := by
  obtain ⟨before, behind, rfl⟩ := List.append_of_mem h
  exact ⟨flatten before, flatten behind, by simp⟩

theorem normal_parse (text : String) : Normal (parse text) := by
  refine ⟨merged_ofAtoms _, fun kind identifier hmem => ?_, fun literal hmem => ?_⟩
  all_goals have hin := infix_flatten_of_mem hmem
  all_goals rw [parse, flatten_ofAtoms] at hin
  · exact isIdentifier_of_mem_atoms (hin.subset (List.mem_singleton.2 rfl))
  · exact not_hasToken_of_infix_atoms hin

/-! ### What is written can be read again -/

theorem atoms_token {kind : RefKind} {identifier : String} (h : isIdentifier identifier = true)
    (after : List Char) :
    atoms ((kind.token identifier).toList ++ after) = .mention kind identifier :: atoms after := by
  have hread := token?_token kind h after
  rw [toList_token, List.cons_append] at hread ⊢
  rw [atoms]
  split
  · rename_i kind' identifier' after' hread'
    rw [hread'] at hread
    cases hread
    rw [String.ofList_toList]
  · simp_all

/-- A text without a token is read character by character, if what comes next cannot complete a
token. -/
theorem atoms_append {s r : List Char} (hs : ¬ HasToken s) (hr : ∀ c ∈ r.head?, c = '@') :
    atoms (s ++ r) = s.map .char ++ atoms r := by
  induction s with
  | nil => rfl
  | cons c s ih =>
    have hnone := token?_append_eq_none (List.cons_ne_nil c s) hr
      (token?_eq_none hs (List.suffix_refl _))
    have hrest : ¬ HasToken s := fun h => hs (h.mono (List.suffix_cons c s).isInfix)
    rw [List.cons_append] at hnone ⊢
    rw [atoms]
    split
    · simp_all
    · rw [ih hrest, List.map_cons, List.cons_append]

/-- Behind a literal, the text of merged segments is over or goes on with a token. -/
theorem head?_serialize {segments : List Segment} (h : ∀ y ∈ segments.head?, y.isLiteral = false) :
    ∀ c ∈ (serialize segments).toList.head?, c = '@' := by
  cases segments with
  | nil => simp
  | cons segment segments =>
    cases segment with
    | literal text => exact absurd (h _ rfl) (by simp [isLiteral])
    | reference kind identifier => simp [Segment.text, toList_token]

theorem atoms_serialize {segments : List Segment} (h : Normal segments) :
    atoms (serialize segments).toList = flatten segments := by
  obtain ⟨hmerged, hwritable, hplain⟩ := h
  induction segments with
  | nil => simp [atoms]
  | cons segment segments ih =>
    have hstep : (serialize (segment :: segments)).toList
        = segment.text.toList ++ (serialize segments).toList := by simp
    have ih' := fun hmerged => ih hmerged (fun k i hm => hwritable k i (List.mem_cons_of_mem _ hm))
      fun t hm => hplain t (List.mem_cons_of_mem _ hm)
    rw [hstep]
    cases segment with
    | reference kind identifier =>
      rw [Segment.text, atoms_token (hwritable kind identifier (by simp)),
        ih' (merged_reference_cons.1 hmerged)]
      rfl
    | literal text =>
      obtain ⟨-, hrest, hhead⟩ := merged_literal_cons.1 hmerged
      rw [Segment.text, atoms_append (hplain text (by simp)) (head?_serialize hhead), ih' hrest]
      rfl

theorem parse_serialize {segments : List Segment} (h : Normal segments) :
    parse (serialize segments) = segments := by
  rw [parse, atoms_serialize h]
  exact ofAtoms_eq_iff.2 ⟨h.merged, rfl⟩

theorem parse_serialize_iff {segments : List Segment} :
    parse (serialize segments) = segments ↔ Normal segments :=
  ⟨fun h => h ▸ normal_parse _, parse_serialize⟩

/-- CORRECT: reading gives the one normal list of segments that writes the text. -/
theorem parse_eq_iff_normal (text : String) (segments : List Segment) :
    (parse text = segments ↔ Normal segments ∧ serialize segments = text) ∧
      serialize (parse text) = text ∧
      (parse (serialize segments) = segments ↔ Normal segments) ∧
      ∃! list, Normal list ∧ serialize list = text := by
  refine ⟨⟨?_, ?_⟩, serialize_parse text, parse_serialize_iff, parse text,
    ⟨normal_parse text, serialize_parse text⟩, ?_⟩
  · rintro rfl
    exact ⟨normal_parse text, serialize_parse text⟩
  · rintro ⟨hnormal, rfl⟩
    exact parse_serialize hnormal
  · rintro list ⟨hnormal, rfl⟩
    exact (parse_serialize hnormal).symm

/-- A token that is not closed is text, also when it hides the start of another one. -/
example : parse "@\x7bstep:@\x7bref:a\x7d" = [.literal "@\x7bstep:", .reference .media "a"] := by
  cbv

end MentionPrompt.Segment
