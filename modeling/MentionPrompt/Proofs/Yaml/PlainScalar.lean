import MentionPrompt.Proofs.Yaml.Lines

/-!
Reading a plain scalar: a text that looks plain is read as it is, up to the end of its line and the
indent of the next, or up to the colon that makes it a key. Main statements: `readPlain?_line` and
`readPlain?_key`.
-/

namespace MentionPrompt.Yaml

/-! ### Plain texts -/

/-- What a plain scalar has to be like, so that nothing in it is read as anything else. -/
structure IsPlain (s : List Char) : Prop where
  nonempty : s ≠ []
  printable : ∀ c ∈ s, isPrintable c = true
  oneLine : ∀ c ∈ s, isBreak c = false
  startsText : startsIndicator s = false
  goesOn : endsEarly s = false
  first : s.head?.all (!isSpace ·) = true
  last : s.getLast?.all (!isSpace ·) = true

theorem isPlain_of_looksPlain {s : List Char} (hne : s ≠ [])
    (hprint : ∀ c ∈ s, isPrintable c = true) (h : looksPlain s = true) : IsPlain s := by
  simp only [looksPlain, Bool.and_eq_true, Bool.not_eq_true', bne_iff_ne] at h
  obtain ⟨⟨⟨⟨⟨⟨hstart, hends⟩, -⟩, -⟩, hbreaks⟩, hfirst⟩, hlast⟩ := h
  have hspace (c : Char) (hmem : c ∈ s) (hc : c ≠ ' ') : isSpace c = false := by
    rw [← Bool.not_eq_true]
    exact fun h => hc (eq_space_of_isPrintable (hprint c hmem) h)
  exact {
    nonempty := hne
    printable := hprint
    oneLine := by simpa using hbreaks
    startsText := hstart
    goesOn := hends
    first := by
      cases hhead : s.head? with
      | none => rfl
      | some c =>
        rw [hhead] at hfirst
        simp [hspace c (List.mem_of_head? hhead) (by simpa using hfirst)]
    last := by
      cases hend : s.getLast? with
      | none => rfl
      | some c =>
        rw [hend] at hlast
        simp [hspace c (List.mem_of_getLast? hend) (by simpa using hlast)] }

theorem IsPlain.startsIndicator_append {s : List Char} (hs : IsPlain s) (tail : List Char) :
    startsIndicator (s ++ tail) = false := by
  obtain ⟨c, rest, rfl⟩ := List.exists_cons_of_ne_nil hs.nonempty
  have hstart := hs.startsText
  cases rest with
  | nil =>
    simp only [startsIndicator, Bool.or_eq_false_iff] at hstart
    have hmarks : decide (c ∈ ['-', '?', ':']) = false := by simpa [gapNext] using hstart.2
    rw [List.singleton_append, startsIndicator, hstart.1, hmarks]
    rfl
  | cons d rest => exact hstart

theorem IsPlain.startsContent_append {s : List Char} (hs : IsPlain s) (tail : List Char) :
    startsContent (s ++ tail) = true := by
  obtain ⟨c, rest, rfl⟩ := List.exists_cons_of_ne_nil hs.nonempty
  have hspace : isSpace c = false := by simpa using hs.first
  have hindicator :=
    (Bool.or_eq_false_iff.1 (show (isIndicator c || _) = false from hs.startsText)).1
  have hcomment : c ≠ '#' := by
    rintro rfl
    exact absurd hindicator (by decide)
  simp [startsContent, hs.oneLine c (by simp), hspace, hcomment]

/-- The characters of names and numbers. -/
def isWordChar (c : Char) : Bool := c.isAlphanum || c == '_'

/-- Characters of words are none of those that YAML uses. -/
theorem isWordChar_spec {c : Char} (h : isWordChar c = true) :
    isPrintable c = true ∧ isBreak c = false ∧ isSpace c = false ∧ isIndicator c = false ∧
      c ∉ ['-', '?', ':', '.', '#'] := by
  have hlist (l : List Char) (hl : l.all (!isWordChar ·) = true) : c ∉ l := fun hmem => by
    simpa [h] using List.all_eq_true.1 hl c hmem
  refine ⟨?_, ?_, ?_, decide_eq_false (hlist _ (by decide)), hlist _ (by decide)⟩
  · delta isWordChar Char.isAlphanum Char.isAlpha Char.isUpper Char.isLower Char.isDigit at h
    simp only [Bool.or_eq_true, Bool.and_eq_true, decide_eq_true_eq, beq_iff_eq] at h
    simp only [UInt32.le_iff_toNat_le, ge_iff_le, Char.reduceVal, UInt32.reduceToNat] at h
    simp only [isPrintable, Bool.or_eq_true, Bool.and_eq_true, decide_eq_true_eq]
    have hrange : 32 ≤ c.toNat ∧ c.toNat ≤ 126 := by
      rcases h with h | rfl
      · show 32 ≤ c.val.toNat ∧ c.val.toNat ≤ 126
        omega
      · decide
    exact .inl (.inr hrange)
  · simpa [isBreak, and_assoc] using hlist ['\n', '\u2028', '\u2029'] (by decide)
  · simpa [isSpace] using hlist [' ', '\t'] (by decide)

theorem endsEarly_of_isWordChar {s : List Char} (h : ∀ c ∈ s, isWordChar c = true) :
    endsEarly s = false := by
  induction s with
  | nil => rfl
  | cons c rest ih =>
    have hrest : ∀ d ∈ rest, isWordChar d = true := fun d hd => h d (by simp [hd])
    obtain ⟨-, hbreak, hspace, -, -⟩ := isWordChar_spec (h c (by simp))
    have hcolon : (rest.head? == some ':') = false := by
      rw [beq_eq_false_iff_ne]
      exact fun hhead => absurd (hrest ':' (List.mem_of_head? hhead)) (by decide)
    rw [endsEarly, hcolon, gapNext_cons, hspace, hbreak, ih hrest]
    rfl

/-- Words are plain. -/
theorem isPlain_of_isWordChar {s : List Char} (hne : s ≠ []) (h : ∀ c ∈ s, isWordChar c = true) :
    IsPlain s where
  nonempty := hne
  printable c hc := (isWordChar_spec (h c hc)).1
  oneLine c hc := (isWordChar_spec (h c hc)).2.1
  startsText := by
    obtain ⟨c, rest, rfl⟩ := List.exists_cons_of_ne_nil hne
    obtain ⟨-, -, -, hindicator, hmarks⟩ := isWordChar_spec (h c (by simp))
    simp only [List.mem_cons, not_or] at hmarks
    simp [startsIndicator, hindicator, hmarks]
  goesOn := endsEarly_of_isWordChar h
  first := by
    cases hhead : s.head? with
    | none => rfl
    | some c => simp [(isWordChar_spec (h c (List.mem_of_head? hhead))).2.2.1]
  last := by
    cases hend : s.getLast? with
    | none => rfl
    | some c => simp [(isWordChar_spec (h c (List.mem_of_getLast? hend))).2.2.1]

/-! ### What ends a word -/

theorem endsEarly_cons_cons (before c : Char) (rest : List Char) :
    endsEarly (before :: c :: rest) =
      ((c == ':' && gapNext rest) || (gapNext [before] && c == '#') || endsEarly (c :: rest)) := by
  simp [endsEarly]

/-- A colon that ends no word early is followed by a character of the word. -/
theorem endsWord_eq_false {c : Char} {rest tail : List Char}
    (h : (c == ':' && gapNext rest) = false) : endsWord false c (rest ++ tail) = false := by
  cases rest with
  | nil => simpa [endsWord, gapNext] using fun hc => absurd h (by simp [hc, gapNext])
  | cons d rest => simpa [endsWord, gapNext] using h

theorem badColon_block (c : Char) (rest : List Char) : badColon false c rest = false := rfl

section Words

variable {indent : Nat}

/-- A text without line breaks is read character by character: its blanks stay apart until a word
follows. Here `before` is the character in front of it. -/
theorem readPlain?_append {s : List Char} (tail : List Char) {before : Char} {place : Place}
    (text : List Char) {blanks : List Char} (hblanks : blanks ≠ [] → isSpace before = true)
    (hpos : place.column ≠ 0) (hcolumn : indent ≤ place.column)
    (hbreaks : ∀ c ∈ s, isBreak c = false) (hends : endsEarly (before :: s) = false) :
    ∃ text' blanks', readPlain? false indent (s ++ tail) place text ⟨blanks, none⟩ =
        readPlain? false indent tail (place.skip s.length) text' ⟨blanks', none⟩ ∧
      blanks' ++ text' = s.reverse ++ (blanks ++ text) ∧
      (blanks' ≠ [] → isSpace (s.getLastD before) = true) := by
  induction s generalizing before place text blanks with
  | nil => exact ⟨text, blanks, rfl, rfl, hblanks⟩
  | cons c rest ih =>
    rw [endsEarly_cons_cons] at hends
    simp only [Bool.or_eq_false_iff] at hends
    obtain ⟨⟨hcolon, hcomment⟩, hends⟩ := hends
    have hbreak : isBreak c = false := hbreaks c (by simp)
    have hpos' : (place.skip 1).column ≠ 0 := Nat.succ_ne_zero _
    have hcolumn' : indent ≤ (place.skip 1).column := Nat.le_succ_of_le hcolumn
    have hbreaks' : ∀ d ∈ rest, isBreak d = false := fun d hd => hbreaks d (by simp [hd])
    by_cases hspace : isSpace c = true
    · obtain ⟨text', blanks', hread, heq, hlast⟩ :=
        ih text (show c :: blanks ≠ [] → _ from fun _ => hspace) hpos' hcolumn' hbreaks' hends
      refine ⟨text', blanks', ?_, by simp [heq], by rwa [List.getLastD_cons]⟩
      rw [List.cons_append, readPlain?]
      simpa [hbreak, hspace, Gap.addBlank, Place.next_eq_skip, Nat.add_comm] using hread
    · obtain ⟨text', blanks', hread, heq, hlast⟩ :=
        ih (c :: (blanks ++ text)) (show [] ≠ [] → _ from absurd rfl) hpos' hcolumn' hbreaks' hends
      refine ⟨text', blanks', ?_, by simp [heq], by rwa [List.getLastD_cons]⟩
      -- after a gap no comment starts, and the column is no lesser one
      have hgoes : (!Gap.isEmpty ⟨blanks, none⟩ && endsPlain false indent place
          (c :: (rest ++ tail))) = false := by
        by_cases hnil : blanks = []
        · simp [hnil, Gap.isEmpty]
        · have hgap : gapNext [before] = true := by simp [gapNext, hblanks hnil]
          have hc : (c == '#') = false := by simpa [hgap] using hcomment
          simp [endsPlain, hpos, Nat.not_lt.2 hcolumn, beq_eq_false_iff_ne.1 hc]
      rw [List.cons_append, readPlain?]
      simpa [hbreak, hspace, hgoes, badColon_block, endsWord_eq_false hcolon, Gap.join,
        Place.next_eq_skip, Nat.add_comm] using hread

/-- A plain text is read to its end. -/
theorem readPlain?_text {s : List Char} (hs : IsPlain s) (tail : List Char) {place : Place}
    (hcolumn : indent ≤ place.column + 1) :
    readPlain? false indent (s ++ tail) place [] {} =
      readPlain? false indent tail (place.skip s.length) s.reverse {} := by
  cases s with
  | nil => rfl
  | cons c rest =>
    have hcolon : (c == ':' && gapNext rest) = false := by
      by_cases hc : c = ':'
      · subst hc
        have h : isIndicator ':' = false ∧ gapNext rest = false := by
          simpa [startsIndicator] using hs.startsText
        simp [h.2]
      · simp [hc]
    obtain ⟨text, blanks, hread, heq, hblanks⟩ :=
      readPlain?_append tail [c] (show [] ≠ [] → _ from absurd rfl)
        (show (place.skip 1).column ≠ 0 from Nat.succ_ne_zero _) hcolumn
        (fun d hd => hs.oneLine d (by simp [hd])) hs.goesOn
    have hnil : blanks = [] := by
      by_contra hne
      have hlast := hs.last
      rw [List.getLast?_cons, ← List.getLastD_eq_getLast?, Option.all_some, hblanks hne] at hlast
      exact absurd hlast (by decide)
    subst hnil
    have hword : isSpace c = false := by simpa using hs.first
    rw [List.cons_append, readPlain?]
    simp only [hs.oneLine c (by simp), hword, badColon_block, endsWord_eq_false hcolon]
    rw [List.nil_append] at heq
    subst heq
    simpa [Gap.isEmpty, Gap.join, Place.next_eq_skip, Nat.add_comm] using hread

end Words

/-! ### Ends of scalars -/

/-- Spaces after a line break are no part of the gap. -/
theorem readPlain?_spaces {indent : Nat} (n : Nat) (rest text : List Char) (place : Place)
    {gap : Gap} (hgap : gap.breaks.isSome = true) :
    readPlain? false indent (spaces n ++ rest) place text gap =
      readPlain? false indent rest (place.skip n) text gap := by
  induction n generalizing place with
  | zero => rfl
  | succ n ih =>
    rw [spaces, List.replicate_succ, List.cons_append, readPlain?]
    simp only [isBreak_space, isSpace_space, Gap.addBlank, hgap]
    simpa [spaces, Place.next_eq_skip, Nat.add_comm] using ih (place.skip 1)

/-- After a text, the line break and the lesser indent of what comes next are read. -/
theorem readPlain?_lineEnd {indent j : Nat} {rest text : List Char} {place : Place}
    (hj : j < indent) (hrest : startsContent rest = true) :
    readPlain? false indent ('\n' :: (spaces j ++ rest)) place text {} =
      some ⟨String.ofList text.reverse, rest, place.newline.skip j, true⟩ := by
  rw [readPlain?, isBreak_lineFeed, if_pos rfl, readPlain?_spaces j _ _ _ rfl]
  cases rest with
  | nil => rfl
  | cons c rest =>
    simp only [startsContent, Bool.and_eq_true, Bool.not_eq_true'] at hrest
    obtain ⟨⟨hbreak, hspace⟩, -⟩ := hrest
    have hends : endsPlain false indent (place.newline.skip j) (c :: rest) = true := by
      simp [endsPlain, hj]
    simp [readPlain?, hbreak, hspace, hends, Gap.isEmpty, Gap.addBreak]

/-- A plain scalar ends at a colon before a gap. -/
theorem readPlain?_colon {indent : Nat} {rest : List Char} (hrest : gapNext rest = true)
    (text : List Char) (place : Place) :
    readPlain? false indent (':' :: rest) place text {} =
      some ⟨String.ofList text.reverse, ':' :: rest, place, false⟩ := by
  have hbreak : isBreak ':' = false := by decide
  have hspace : isSpace ':' = false := by decide
  simp [readPlain?, hbreak, hspace, Gap.isEmpty, badColon_block, endsWord, hrest]

/-- A plain text is read up to the end of its line and the lesser indent of what comes next. -/
theorem readPlain?_line {indent j : Nat} {s rest : List Char} (hs : IsPlain s) {place : Place}
    (hcolumn : indent ≤ place.column) (hj : j < indent) (hrest : startsContent rest = true) :
    readPlain? false indent (s ++ '\n' :: (spaces j ++ rest)) place [] {} =
      some ⟨String.ofList s, rest, (place.skip s.length).newline.skip j, true⟩ := by
  rw [readPlain?_text hs _ (Nat.le_succ_of_le hcolumn), readPlain?_lineEnd hj hrest,
    List.reverse_reverse]

/-- A plain key is read up to its colon. -/
theorem readPlain?_key {indent : Nat} {s rest : List Char} (hs : IsPlain s) {place : Place}
    (hcolumn : indent ≤ place.column + 1) (hrest : gapNext rest = true) :
    readPlain? false indent (s ++ ':' :: rest) place [] {} =
      some ⟨String.ofList s, ':' :: rest, place.skip s.length, false⟩ := by
  rw [readPlain?_text hs _ hcolumn, readPlain?_colon hrest, List.reverse_reverse]

end MentionPrompt.Yaml
