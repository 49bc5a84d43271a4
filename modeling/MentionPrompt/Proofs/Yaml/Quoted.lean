import MentionPrompt.Proofs.Number.Digits
import MentionPrompt.Proofs.Yaml.Lines

/-!
Reading quoted scalars: what is written between quotes is read as the text that it was written for.
Main statements: `readSingleQuoted?_singleQuoted` and `readDoubleQuoted?_doubleQuoted`.

Between single quotes the line and paragraph separators stay as they are, and the lines after them
are indented. That indent is no part of the text as long as no line of the text starts with a space,
and no space of the text is lost as long as none stands before a separator.
-/

namespace MentionPrompt.Yaml

theorem hasPair_cons_cons (first second : Char → Bool) (a b : Char) (rest : List Char) :
    hasPair first second (a :: b :: rest) =
      ((first a && second b) || hasPair first second (b :: rest)) := rfl

theorem hasPair_cons {first second : Char → Bool} {a : Char} (h : first a = false) (s : List Char) :
    hasPair first second (a :: s) = hasPair first second s := by
  cases s with
  | nil => rfl
  | cons b rest => rw [hasPair_cons_cons, h, Bool.false_and, Bool.false_or]

/-! ### Single quotes -/

/-- The character as it stands between single quotes. -/
def quoted (c : Char) : List Char := if c = '\'' then ['\'', '\''] else [c]

theorem quoted_of_ne {c : Char} (hc : c ≠ '\'') : quoted c = [c] := if_neg hc

/-- The gap that stands before a place, after the character `before`: blanks in a line, and at the
start of a line the separators before it, none of which is a line feed. -/
inductive GapBefore (before : Char) (place : Place) : (atStart : Bool) → Gap → Prop
  | inLine (blanks : List Char) (hcolumn : place.column ≠ 0)
      (hblanks : blanks ≠ [] → before = ' ') : GapBefore before place false ⟨blanks, none⟩
  | atStart (first : Char) (more : List Char) (hbefore : isBreak before = true)
      (hfirst : first ≠ '\n') : GapBefore before place true ⟨[], some ([first], more)⟩

theorem Gap.join_breaks {first : Char} (hfirst : first ≠ '\n') (more text : List Char) :
    Gap.join ⟨[], some ([first], more)⟩ text = more ++ first :: text := by
  simp [Gap.join, hfirst]

namespace GapBefore

variable {before c : Char} {place : Place} {atStart : Bool} {gap : Gap}

/-- One more separator. -/
theorem addBreak (h : GapBefore before place atStart gap) (hc : isBreak c = true) (hline : c ≠ '\n')
    (hspace : before ≠ ' ') (text : List Char) :
    GapBefore c place.newline true (gap.addBreak c) ∧
      (gap.addBreak c).join text = c :: gap.join text := by
  cases h with
  | inLine blanks hcolumn hblanks =>
    obtain rfl : blanks = [] := by
      by_contra hne
      exact hspace (hblanks hne)
    exact ⟨.atStart c [] hc hline, Gap.join_breaks hline [] text⟩
  | atStart first more hbefore hfirst =>
    refine ⟨.atStart first (c :: more) hc hfirst, ?_⟩
    simp [Gap.addBreak, Gap.join_breaks hfirst]

theorem atStart_eq_false (h : GapBefore before place atStart gap)
    (hbefore : isBreak before = false) : atStart = false := by
  cases h with
  | inLine => rfl
  | atStart first more hbreak => simp [hbefore] at hbreak

/-- One more space, which no line starts with. -/
theorem addSpace (h : GapBefore before place atStart gap) (hbefore : isBreak before = false)
    (text : List Char) :
    GapBefore ' ' place.next false (gap.addBlank ' ') ∧
      (gap.addBlank ' ').join text = ' ' :: gap.join text := by
  cases h with
  | inLine blanks hcolumn hblanks =>
    exact ⟨.inLine _ (Nat.succ_ne_zero _) (fun _ => rfl), rfl⟩
  | atStart first more hbefore' hfirst => simp [hbefore] at hbefore'

end GapBefore

/-! One equation for each kind of character. -/

section Steps

variable {c : Char} {rest : List Char} {place : Place}

theorem readSingleQuoted?_break (hc : isBreak c = true) (text : List Char) (gap : Gap) :
    readSingleQuoted? (c :: rest) place text gap =
      readSingleQuoted? rest place.newline text (gap.addBreak c) := by
  rw [readSingleQuoted?.eq_def]
  simp [documentMark_of_isBreak hc, hc]

theorem readSingleQuoted?_space (text : List Char) (gap : Gap) :
    readSingleQuoted? (' ' :: rest) place text gap =
      readSingleQuoted? rest place.next text (gap.addBlank ' ') := by
  rw [readSingleQuoted?.eq_def]
  simp [documentMark_eq_false, isBreak_space, isSpace_space]

theorem readSingleQuoted?_quotes (text : List Char) (gap : Gap) :
    readSingleQuoted? ('\'' :: '\'' :: rest) place text gap =
      readSingleQuoted? rest (place.skip 2) ('\'' :: gap.join text) {} := by
  rw [readSingleQuoted?.eq_def]
  simp [documentMark_eq_false, show isBreak '\'' = false by decide,
    show isSpace '\'' = false by decide]

theorem readSingleQuoted?_close (hrest : rest.head? ≠ some '\'') (text : List Char) (gap : Gap) :
    readSingleQuoted? ('\'' :: rest) place text gap =
      some ⟨String.ofList (gap.join text).reverse, rest, place.next, false⟩ := by
  rw [readSingleQuoted?.eq_def]
  cases rest with
  | nil => simp [documentMark_eq_false, show isBreak '\'' = false by decide,
      show isSpace '\'' = false by decide]
  | cons d rest =>
    have hd : d ≠ '\'' := by simpa using hrest
    simp [documentMark_eq_false, show isBreak '\'' = false by decide,
      show isSpace '\'' = false by decide, hd]

theorem readSingleQuoted?_word (hcolumn : place.column ≠ 0) (hbreak : isBreak c = false)
    (hspace : isSpace c = false) (hquote : c ≠ '\'') (text : List Char) (gap : Gap) :
    readSingleQuoted? (c :: rest) place text gap =
      readSingleQuoted? rest place.next (c :: gap.join text) {} := by
  rw [readSingleQuoted?.eq_def]
  simp [hcolumn, hbreak, hspace, hquote]

/-- A character of a word is read, also a quote. -/
theorem readSingleQuoted?_quoted (hcolumn : place.column ≠ 0) (hbreak : isBreak c = false)
    (hspace : isSpace c = false) (text : List Char) (gap : Gap) :
    ∃ place' : Place, place'.column ≠ 0 ∧
      readSingleQuoted? (quoted c ++ rest) place text gap =
        readSingleQuoted? rest place' (c :: gap.join text) {} := by
  by_cases hc : c = '\''
  · subst hc
    exact ⟨place.skip 2, by simp, readSingleQuoted?_quotes text gap⟩
  · refine ⟨place.next, Nat.succ_ne_zero _, ?_⟩
    rw [quoted_of_ne hc]
    exact readSingleQuoted?_word hcolumn hbreak hspace hc text gap

end Steps

/-- The indent of a line is passed over. -/
theorem readSingleQuoted?_spaces (n : Nat) (s text : List Char) (place : Place) {gap : Gap}
    (hgap : gap.breaks.isSome = true) :
    readSingleQuoted? (spaces n ++ s) place text gap =
      readSingleQuoted? s (place.skip n) text gap := by
  induction n generalizing place with
  | zero => rfl
  | succ n ih =>
    rw [spaces, List.replicate_succ, List.cons_append, ← spaces, readSingleQuoted?_space,
      Gap.addBlank, if_pos hgap, ih, Place.next_eq_skip, Place.skip_skip, Nat.add_comm]

theorem readSingleQuoted?_lead {indent : Nat} (hindent : 0 < indent) {before : Char} {place : Place}
    {atStart : Bool} {gap : Gap} (h : GapBefore before place atStart gap) (s text : List Char) :
    ∃ place' : Place, place'.column ≠ 0 ∧
      readSingleQuoted? ((if atStart then spaces indent else []) ++ s) place text gap =
        readSingleQuoted? s place' text gap := by
  cases h with
  | inLine blanks hcolumn hblanks => exact ⟨place, hcolumn, rfl⟩
  | atStart first more hbefore hfirst =>
    exact ⟨place.skip indent, by simp; omega, readSingleQuoted?_spaces indent s text place rfl⟩

/-- Indents go before the first character of a line, also before a quote. -/
theorem indentLines_quoted {c : Char} (hc : isBreak c = false) (indent : Nat) (atStart : Bool)
    (s : List Char) :
    indentLines indent atStart (quoted c ++ s) =
      (if atStart then spaces indent else []) ++ (quoted c ++ indentLines indent false s) := by
  by_cases hquote : c = '\''
  · subst hquote
    simp [quoted, indentLines_word hc]
  · rw [quoted_of_ne hquote]
    exact indentLines_word hc indent atStart s

/-- A text is read up to its closing quote. -/
theorem readSingleQuoted?_indentLines {indent : Nat} (hindent : 0 < indent) {s rest : List Char}
    (hrest : rest.head? ≠ some '\'') (hprint : ∀ c ∈ s, isPrintable c = true)
    (hline : '\n' ∉ s) {before : Char} {place : Place} {atStart : Bool} {gap : Gap}
    (hspaces : hasPair (· == ' ') isBreak (before :: s) = false)
    (hstarts : hasPair isBreak (· == ' ') (before :: s) = false)
    (hgap : GapBefore before place atStart gap) (text : List Char) :
    ∃ place', readSingleQuoted? (indentLines indent atStart (s.flatMap quoted ++ ['\'']) ++ rest)
        place text gap =
      some ⟨String.ofList ((gap.join text).reverse ++ s), rest, place', false⟩ := by
  have hquote : isBreak '\'' = false := by decide
  induction s generalizing before place atStart gap text with
  | nil =>
    obtain ⟨place', -, hlead⟩ := readSingleQuoted?_lead hindent hgap ('\'' :: rest) text
    refine ⟨place'.next, ?_⟩
    rw [List.flatMap_nil, List.nil_append, indentLines_word hquote, indentLines, List.append_assoc,
      List.singleton_append, hlead, readSingleQuoted?_close hrest, List.append_nil]
  | cons c s ih =>
    rw [hasPair_cons_cons, Bool.or_eq_false_iff] at hspaces hstarts
    have hline' : '\n' ∉ s := fun h => hline (by simp [h])
    replace ih {place : Place} {atStart : Bool} {gap : Gap} :=
      @ih (fun d hd => hprint d (by simp [hd])) hline' c place atStart gap hspaces.2 hstarts.2
    rw [List.flatMap_cons, List.append_assoc]
    cases hbreak : isBreak c with
    | true =>
      have hc : c ≠ '\'' := by
        rintro rfl
        exact absurd hbreak (by decide)
      have hfeed : c ≠ '\n' := by
        rintro rfl
        exact hline (by simp)
      obtain ⟨hgap', hjoin⟩ := hgap.addBreak hbreak hfeed (by simpa [hbreak] using hspaces.1) text
      obtain ⟨place', hread⟩ := ih hgap' text
      refine ⟨place', ?_⟩
      rw [quoted_of_ne hc, List.singleton_append, indentLines_break hbreak, List.cons_append,
        readSingleQuoted?_break hbreak, hread, hjoin]
      simp
    | false =>
      rw [indentLines_quoted hbreak, List.append_assoc, List.append_assoc]
      by_cases hspace : c = ' '
      · subst hspace
        have hbefore : isBreak before = false := by simpa using hstarts.1
        obtain ⟨hgap', hjoin⟩ := hgap.addSpace hbefore text
        obtain ⟨place', hread⟩ := ih hgap' text
        refine ⟨place', ?_⟩
        obtain rfl := hgap.atStart_eq_false hbefore
        rw [if_neg Bool.false_ne_true, List.nil_append, quoted_of_ne (by decide),
          List.singleton_append, readSingleQuoted?_space, hread, hjoin]
        simp
      · have hword : isSpace c = false := by
          rw [Bool.eq_false_iff]
          exact fun h => hspace (eq_space_of_isPrintable (hprint c (by simp)) h)
        obtain ⟨place', hcolumn, hlead⟩ := readSingleQuoted?_lead hindent hgap
          (quoted c ++ (indentLines indent false (s.flatMap quoted ++ ['\'']) ++ rest)) text
        obtain ⟨place', hcolumn', hword⟩ := readSingleQuoted?_quoted hcolumn hbreak hword text gap
        obtain ⟨place'', hread⟩ := ih (.inLine [] hcolumn' (by simp)) (c :: gap.join text)
        refine ⟨place'', ?_⟩
        rw [hlead, hword, hread]
        simp [Gap.join]

/-- What is written between single quotes is the text, after its opening quote. -/
theorem readSingleQuoted?_singleQuoted {indent : Nat} (hindent : 0 < indent) {s rest : List Char}
    (hrest : rest.head? ≠ some '\'') (hescapes : needsEscapes s = false) (hline : '\n' ∉ s)
    (hindented : hasIndentedLine s = false) {place : Place} (hcolumn : place.column ≠ 0) :
    ∃ place', readSingleQuoted? ((singleQuoted indent s).tail ++ rest) place [] {} =
      some ⟨String.ofList s, rest, place', false⟩ := by
  simp only [needsEscapes, Bool.or_eq_false_iff, Bool.not_eq_false', List.all_eq_true] at hescapes
  have hspaces : hasPair (· == ' ') isBreak ('\'' :: s) = false := by
    rw [hasPair_cons (by decide)]
    exact hescapes.2
  have hstarts : hasPair isBreak (· == ' ') ('\'' :: s) = false := by
    rw [hasPair_cons (by decide)]
    exact hindented
  exact readSingleQuoted?_indentLines hindent hrest hescapes.1 hline hspaces hstarts
    (.inLine [] hcolumn (by simp)) []

/-! ### Double quotes -/

/-- The character stands for itself between double quotes. -/
def isUnescaped (c : Char) : Bool := isPrintable c && !isBreak c && c != '"' && c != '\\'

/-- An escape of one letter is a letter that is printed and stands for the character. -/
theorem escapeLetter?_spec {c letter : Char} (h : escapeLetter? c = some letter) :
    escapeLetters.lookup letter = some c ∧ isPrintable letter = true ∧ isBreak letter = false := by
  have hall : (escapeLetters.all fun pair => (escapeLetter? pair.2).all fun letter =>
      escapeLetters.lookup letter == some pair.2 && isPrintable letter && !isBreak letter)
        = true := by decide
  obtain ⟨pair, hfind, -⟩ := Option.map_eq_some_iff.1 h
  have hc : pair.2 = c := by simpa using List.find?_some hfind
  have hspec := List.all_eq_true.1 hall pair (List.mem_of_find?_eq_some hfind)
  rw [hc, h] at hspec
  simpa [and_assoc] using hspec

theorem length_capitalHex (width n : Nat) : (capitalHex width n).length = width := by
  rw [capitalHex, List.length_map, Number.length_hex]

theorem read?_capitalHex {width n : Nat} (hpos : 0 < width) (hfits : n < 16 ^ width) :
    Number.read? 16 (capitalHex width n) = some n := by
  have hread := Number.readAfter?_hex width hfits 0
  rw [Nat.zero_mul, Nat.zero_add, ← capitalHex] at hread
  have hlength := length_capitalHex width n
  cases hdigits : capitalHex width n with
  | nil => simp [hdigits] at hlength; omega
  | cons c rest => rwa [hdigits] at hread

/-- An escape by code point is read back, whatever follows it. -/
theorem readEscape?_hex {c letter : Char} {width : Nat}
    (hletter : escapeLetters.lookup letter = none) (hwidth : escapeWidth? letter = some width)
    (hpos : 0 < width) (hfits : c.toNat < 16 ^ width) (rest : List Char) :
    readEscape? (letter :: capitalHex width c.toNat ++ rest) = some (c, width + 1) := by
  have hlength := length_capitalHex width c.toNat
  have htake : (capitalHex width c.toNat ++ rest).take width = capitalHex width c.toNat := by
    rw [List.take_append_of_le_length hlength.ge, List.take_of_length_le hlength.le]
  have hvalid : c.toNat.isValidChar := c.valid
  rw [List.cons_append, readEscape?, hletter, hwidth]
  simp [htake, read?_capitalHex hpos hfits, hlength, hvalid, Char.ofNat_toNat]

/-- A character is written as itself, or as an escape that is read back. -/
theorem escapeChar_spec (c : Char) :
    isUnescaped c = true ∧ escapeChar c = [c] ∨
      ∃ letter code, escapeChar c = '\\' :: letter :: code ∧ isBreak letter = false ∧
        ∀ rest, readEscape? (letter :: code ++ rest) = some (c, code.length + 1) := by
  unfold escapeChar
  split
  · rename_i h
    exact .inl ⟨h, rfl⟩
  right
  cases hletter : escapeLetter? c with
  | some letter =>
    obtain ⟨hlookup, -, hbreak⟩ := escapeLetter?_spec hletter
    exact ⟨letter, [], rfl, hbreak, fun rest => by simp [readEscape?, hlookup]⟩
  | none =>
    have hlt : c.toNat < 16 ^ 8 := c.val.toNat_lt
    dsimp only
    split
    · rename_i hle
      refine ⟨'x', capitalHex 2 c.toNat, rfl, by decide, fun rest => ?_⟩
      rw [length_capitalHex]
      exact readEscape?_hex (by decide) rfl (by decide) (by omega) rest
    split
    · rename_i hle
      refine ⟨'u', capitalHex 4 c.toNat, rfl, by decide, fun rest => ?_⟩
      rw [length_capitalHex]
      exact readEscape?_hex (by decide) rfl (by decide) (by omega) rest
    · refine ⟨'U', capitalHex 8 c.toNat, rfl, by decide, fun rest => ?_⟩
      rw [length_capitalHex]
      exact readEscape?_hex (by decide) rfl (by decide) hlt rest

section Steps

variable {fuel : Nat} {c : Char} {rest : List Char} {place : Place}

theorem readDoubleQuoted?_close (hcolumn : place.column ≠ 0) (text : List Char) (gap : Gap) :
    readDoubleQuoted? (fuel + 1) ('"' :: rest) place text gap =
      some ⟨String.ofList (gap.join text).reverse, rest, place.next, false⟩ := by
  simp [readDoubleQuoted?, hcolumn, show isBreak '"' = false by decide,
    show isSpace '"' = false by decide]

/-- A character that stands for itself is read, a blank as part of the gap. -/
theorem readDoubleQuoted?_unescaped (fuel : Nat) (rest : List Char) (hcolumn : place.column ≠ 0)
    (hc : isUnescaped c = true) (text blanks : List Char) :
    ∃ text' blanks', readDoubleQuoted? (fuel + 1) (c :: rest) place text ⟨blanks, none⟩ =
        readDoubleQuoted? fuel rest place.next text' ⟨blanks', none⟩ ∧
      blanks' ++ text' = c :: (blanks ++ text) := by
  simp only [isUnescaped, Bool.and_eq_true, Bool.not_eq_true', bne_iff_ne] at hc
  obtain ⟨⟨⟨hprint, hbreak⟩, hquote⟩, hslash⟩ := hc
  by_cases hspace : isSpace c = true
  · refine ⟨text, c :: blanks, ?_, rfl⟩
    simp [readDoubleQuoted?, hcolumn, hbreak, hspace, Gap.addBlank]
  · refine ⟨c :: (blanks ++ text), [], ?_, rfl⟩
    simp [readDoubleQuoted?, hcolumn, hbreak, hspace, hquote, hslash, Gap.join]

theorem readDoubleQuoted?_escape (hcolumn : place.column ≠ 0) {letter meant : Char}
    {code : List Char} (hletter : isBreak letter = false)
    (hread : readEscape? (letter :: code ++ rest) = some (meant, code.length + 1))
    (text : List Char) (gap : Gap) :
    readDoubleQuoted? (fuel + 1) ('\\' :: (letter :: code ++ rest)) place text gap =
      readDoubleQuoted? fuel rest (place.skip (code.length + 2)) (meant :: gap.join text) {} := by
  rw [List.cons_append] at hread ⊢
  simp [readDoubleQuoted?, hcolumn, hletter, hread, show isBreak '\\' = false by decide,
    show isSpace '\\' = false by decide]

end Steps

/-- A text is read up to its closing quote. No line break stands between double quotes, so the gap
has none. -/
theorem readDoubleQuoted?_escaped {s rest : List Char} {fuel : Nat} {place : Place}
    (hfuel : (s.flatMap escapeChar).length < fuel) (hcolumn : place.column ≠ 0)
    (text blanks : List Char) :
    ∃ place', readDoubleQuoted? fuel (s.flatMap escapeChar ++ '"' :: rest) place text
        ⟨blanks, none⟩ =
      some ⟨String.ofList ((blanks ++ text).reverse ++ s), rest, place', false⟩ := by
  obtain ⟨fuel, rfl⟩ := Nat.exists_eq_succ_of_ne_zero (Nat.ne_zero_of_lt hfuel)
  induction s generalizing fuel place text blanks with
  | nil =>
    refine ⟨place.next, ?_⟩
    rw [List.flatMap_nil, List.nil_append, readDoubleQuoted?_close hcolumn, List.append_nil]
    rfl
  | cons c s ih =>
    rw [List.flatMap_cons] at hfuel ⊢
    rw [List.length_append] at hfuel
    rw [List.append_assoc]
    obtain ⟨hc, hself⟩ | ⟨letter, code, hescape, hletter, hread⟩ := escapeChar_spec c
    · rw [hself] at hfuel ⊢
      obtain ⟨fuel, rfl⟩ := Nat.exists_eq_add_of_le' (show 1 ≤ fuel from by
        rw [List.length_singleton] at hfuel
        omega)
      obtain ⟨text', blanks', hstep, heq⟩ := readDoubleQuoted?_unescaped (fuel + 1)
        (s.flatMap escapeChar ++ '"' :: rest) hcolumn hc text blanks
      obtain ⟨place', hread⟩ := @ih place.next (Nat.succ_ne_zero _) text' blanks' fuel (by
        rw [List.length_singleton] at hfuel
        omega)
      refine ⟨place', ?_⟩
      rw [List.singleton_append, hstep, hread, heq]
      simp
    · rw [hescape] at hfuel ⊢
      obtain ⟨fuel, rfl⟩ := Nat.exists_eq_add_of_le' (show 1 ≤ fuel from by
        rw [List.length_cons] at hfuel
        omega)
      obtain ⟨place', hread'⟩ := @ih (place.skip (code.length + 2)) (by simp)
        (c :: (blanks ++ text)) [] fuel (by
          simp only [List.length_cons] at hfuel
          omega)
      refine ⟨place', ?_⟩
      rw [List.cons_append, readDoubleQuoted?_escape hcolumn hletter (hread _)]
      exact hread'.trans (by simp)

/-- What is written between double quotes is the text, after its opening quote. -/
theorem readDoubleQuoted?_doubleQuoted (s rest : List Char) {place : Place}
    (hcolumn : place.column ≠ 0) :
    ∃ place', readDoubleQuoted? (((doubleQuoted s).tail ++ rest).length + 1)
        ((doubleQuoted s).tail ++ rest) place [] {} =
      some ⟨String.ofList s, rest, place', false⟩ := by
  have htail : (doubleQuoted s).tail ++ rest = s.flatMap escapeChar ++ '"' :: rest := by
    simp [doubleQuoted]
  rw [htail]
  exact readDoubleQuoted?_escaped (by rw [List.length_append, List.length_cons]; omega) hcolumn
    [] []

end MentionPrompt.Yaml
