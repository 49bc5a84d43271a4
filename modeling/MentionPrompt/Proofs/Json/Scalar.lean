import Mathlib.Data.List.Basic
import Mathlib.Data.List.DropRight
import MentionPrompt.Json.Printer
import MentionPrompt.Json.Reader
import MentionPrompt.Proofs.Number.Digits

/-!
Strings and numbers are read back from JSON text.

A string ends at its closing quote, whatever follows. A number ends where the text goes on with
something that is no part of a number. Main statements: `readString?_escaped` and
`readNumber?_toString`.
-/

namespace MentionPrompt.Json

/-! ### Blanks -/

/-- A run of blanks. -/
def IsGap (gap : List Char) : Prop := ∀ c ∈ gap, isBlank c = true

theorem isGap_nil : IsGap [] := by simp [IsGap]

theorem skipBlanks_append {gap : List Char} (h : IsGap gap) (s : List Char) :
    skipBlanks (gap ++ s) = skipBlanks s :=
  List.dropWhile_append_of_pos h

theorem skipBlanks_cons {c : Char} (h : isBlank c = false) (s : List Char) :
    skipBlanks (c :: s) = c :: s := by
  rw [skipBlanks, List.dropWhile_cons, h]
  rfl

theorem skipBlanks_skipBlanks (s : List Char) : skipBlanks (skipBlanks s) = skipBlanks s :=
  List.dropWhile_idempotent _ s

theorem readValue?_skipBlanks (fuel : Nat) (s : List Char) :
    readValue? fuel (skipBlanks s) = readValue? fuel s := by
  cases fuel with
  | zero => rfl
  | succ fuel => rw [readValue?, readValue?, skipBlanks_skipBlanks]

/-! ### What may follow -/

/-- The text cannot go on with a number. -/
def EndsNumber (rest : List Char) : Prop :=
  ∀ c ∈ rest.head?, c.isDigit = false ∧ c ≠ '.' ∧ c ≠ 'e' ∧ c ≠ 'E'

theorem endsNumber_cons {c : Char} (rest : List Char)
    (h : isBlank c = true ∨ c = ',' ∨ c = ']' ∨ c = '}') : EndsNumber (c :: rest) := by
  rintro _ ⟨⟩
  have hblank : isBlank c = true → c = ' ' ∨ c = '\t' ∨ c = '\n' ∨ c = '\r' := by
    simp [isBlank, or_assoc]
  rcases h with h | rfl | rfl | rfl
  · rcases hblank h with rfl | rfl | rfl | rfl <;> decide
  · decide
  · decide
  · decide

theorem endsNumber_gap_append {gap rest : List Char} (hgap : IsGap gap) (hrest : EndsNumber rest) :
    EndsNumber (gap ++ rest) := by
  cases gap with
  | nil => exact hrest
  | cons c gap => exact endsNumber_cons _ (.inl (hgap c List.mem_cons_self))

/-! ### Strings -/

theorem readUnit?_of_length {digits : List Char} (h : digits.length = 4) (rest : List Char) :
    readUnit? (digits ++ rest) = (Number.read? 16 digits).map (·, rest) := by
  obtain ⟨a, b, c, d, rfl⟩ := List.length_eq_four.1 h
  rw [Option.map_eq_bind]
  rfl

theorem readEscape?_unit {c : Char} (h : c.toNat < 0x20) (rest : List Char) :
    readEscape? ('u' :: Number.hex 4 c.toNat ++ rest) = some (c, rest) := by
  have hread : ∀ n < 0x20, Number.read? 16 (Number.hex 4 n) = some n := by decide
  have hunit : readUnit? (Number.hex 4 c.toNat ++ rest) = some (c.toNat, rest) := by
    rw [readUnit?_of_length (Number.length_hex 4 c.toNat), hread c.toNat h, Option.map_some]
  have hhigh : ¬ (0xD800 ≤ c.toNat ∧ c.toNat < 0xDC00) := by omega
  have hlow : ¬ (0xDC00 ≤ c.toNat ∧ c.toNat < 0xE000) := by omega
  rw [List.cons_append, readEscape?, readEscapedUnit?, hunit, Option.bind_eq_bind, Option.bind_some]
  simp only [if_neg hhigh, if_neg hlow, Char.ofNat_toNat, pure]

/-- A character is written as itself, or as an escape that stands for it. -/
theorem escapeChar_spec (c : Char) :
    (escapeChar c = [c] ∧ c ≠ '"' ∧ c ≠ '\\' ∧ ¬ c.toNat < 0x20) ∨
      ∃ code, escapeChar c = '\\' :: code ∧ ∀ rest, readEscape? (code ++ rest) = some (c, rest) := by
  have hletters : ∀ c ∈ ['"', '\\', '\n', '\r', '\t', '\x08', '\x0c'], ∃ letter,
      escapeChar c = ['\\', letter] ∧ ∀ rest, readEscape? (letter :: rest) = some (c, rest) := by
    simp only [List.forall_mem_cons]
    exact ⟨⟨'"', rfl, fun _ => rfl⟩, ⟨'\\', rfl, fun _ => rfl⟩, ⟨'n', rfl, fun _ => rfl⟩,
      ⟨'r', rfl, fun _ => rfl⟩, ⟨'t', rfl, fun _ => rfl⟩, ⟨'b', rfl, fun _ => rfl⟩,
      ⟨'f', rfl, fun _ => rfl⟩, by simp⟩
  by_cases hletter : c ∈ ['"', '\\', '\n', '\r', '\t', '\x08', '\x0c']
  · obtain ⟨letter, hcode, hread⟩ := hletters c hletter
    exact .inr ⟨[letter], hcode, hread⟩
  · simp only [List.mem_cons, List.not_mem_nil, not_or, or_false] at hletter
    by_cases hcontrol : c.toNat < 0x20
    · refine .inr ⟨'u' :: Number.hex 4 c.toNat, ?_, readEscape?_unit hcontrol⟩
      simp [escapeChar, hletter, hcontrol]
    · refine .inl ⟨?_, hletter.1, hletter.2.1, hcontrol⟩
      simp [escapeChar, hletter, hcontrol]

/-- One step of the reader takes in one character as it is written. -/
theorem readChars?_escapeChar (fuel : Nat) (c : Char) (before rest : List Char) :
    readChars? (fuel + 1) before (escapeChar c ++ rest) = readChars? fuel (c :: before) rest := by
  rcases escapeChar_spec c with ⟨hself, hquote, hbackslash, hcontrol⟩ | ⟨code, hcode, hread⟩
  · rw [hself, List.singleton_append, readChars?]
    · rw [if_neg hcontrol]
    · exact hquote
    · exact hbackslash
  · rw [hcode, List.cons_append, readChars?, hread, Option.bind_eq_bind, Option.bind_some]

theorem readChars?_flatMap_escapeChar {fuel : Nat} {chars : List Char} (h : chars.length < fuel)
    (before rest : List Char) :
    readChars? fuel before (chars.flatMap escapeChar ++ '"' :: rest) =
      some (String.ofList (before.reverse ++ chars), rest) := by
  induction chars generalizing fuel before with
  | nil =>
    obtain ⟨fuel, rfl⟩ := Nat.exists_eq_succ_of_ne_zero (Nat.ne_of_gt h)
    rw [List.flatMap_nil, List.nil_append, readChars?, List.append_nil]
  | cons c chars ih =>
    obtain ⟨fuel, rfl⟩ := Nat.exists_eq_succ_of_ne_zero (Nat.ne_zero_of_lt h)
    rw [List.flatMap_cons, List.append_assoc, readChars?_escapeChar,
      ih (Nat.lt_of_succ_lt_succ h), List.reverse_cons, List.append_assoc, List.singleton_append]

/-- The characters between the quotes, as they are written. -/
def escaped (s : String) : List Char := s.toList.flatMap escapeChar

theorem toList_quote (s : String) : (quote s).toList = '"' :: escaped s ++ ['"'] := by
  rw [quote, String.toList_ofList, escaped]

theorem length_le_length_escaped (chars : List Char) :
    chars.length ≤ (chars.flatMap escapeChar).length := by
  induction chars with
  | nil => exact Nat.le_refl _
  | cons c chars ih =>
    have hc : 0 < (escapeChar c).length := by
      rcases escapeChar_spec c with ⟨hself, -⟩ | ⟨code, hcode, -⟩
      · rw [hself]
        exact Nat.one_pos
      · rw [hcode]
        exact Nat.succ_pos _
    rw [List.flatMap_cons, List.length_append, List.length_cons]
    omega

/-- A string is read back after its opening quote. -/
theorem readString?_escaped (s : String) (rest : List Char) :
    readString? (escaped s ++ '"' :: rest) = some (s, rest) := by
  have hfuel : s.toList.length < (escaped s ++ '"' :: rest).length + 1 := by
    have hlength := length_le_length_escaped s.toList
    rw [List.length_append]
    exact Nat.lt_succ_of_le (Nat.le_trans hlength (Nat.le_add_right _ _))
  rw [readString?, escaped, readChars?_flatMap_escapeChar (by exact hfuel), List.reverse_nil,
    List.nil_append, String.ofList_toList]

/-! ### Numbers -/

/-- Digits whose number fits a word are all taken. -/
theorem takeDigits_eq {digits : List Char} (hdigits : ∀ c ∈ digits, c.isDigit = true)
    {value : Nat} (hfits : Nat.ofDigitChars 10 digits value < Number.wordLimit) (taken : Nat) :
    takeDigits digits value taken =
      (Nat.ofDigitChars 10 digits value, taken + digits.length, []) := by
  induction digits generalizing value taken with
  | nil => rfl
  | cons c rest ih =>
    rw [Nat.ofDigitChars_cons] at hfits
    have hnext : 10 * value + (c.toNat - '0'.toNat) < Number.wordLimit := by
      refine Nat.lt_of_le_of_lt ?_ hfits
      rw [Nat.ofDigitChars_eq_ofDigitChars_zero]
      exact Nat.le_trans (Nat.le_mul_of_pos_left _ (by positivity)) (Nat.le_add_right _ _)
    rw [takeDigits, Number.digit?_of_isDigit (hdigits c List.mem_cons_self)]
    dsimp only
    rw [Nat.mul_comm value, if_pos hnext,
      ih (fun d hd => hdigits d (List.mem_cons_of_mem _ hd)) hfits, Nat.ofDigitChars_cons,
      List.length_cons, Nat.add_right_comm, Nat.add_assoc]

theorem isWhole_of_endsNumber {rest : List Char} (h : EndsNumber rest) : isWhole rest = true := by
  unfold isWhole
  split
  · exact absurd rfl (h '.' rfl).2.1
  · exact absurd rfl (h 'e' rfl).2.2.1
  · exact absurd rfl (h 'E' rfl).2.2.2
  · rfl

theorem readNumber?_toString {n : Nat} (hfits : n < Number.wordLimit) {rest : List Char}
    (hrest : EndsNumber rest) :
    readNumber? false ((toString n).toList ++ rest) = some (.nat n, rest) := by
  have hdigits := Number.isDigit_toString n
  obtain ⟨hne, -, hvalue⟩ := Number.read?_eq_some_iff.1 (Number.read?_toString n)
  have hzero := Number.toList_toString_ne_zero_cons n
  generalize (toString n).toList = digits at hdigits hne hvalue hzero
  obtain ⟨htake, hdrop⟩ :=
    Number.takeWhile_isDigit_append hdigits fun c hc => (hrest c hc).1
  have htaken := takeDigits_eq hdigits (hvalue ▸ hfits) 0
  rw [hvalue] at htaken
  unfold readNumber?
  simp only [htake, hdrop, htaken, isWhole_of_endsNumber hrest]
  rfl

/-- A digit starts a number. -/
theorem readValue?_of_isDigit {c : Char} (h : c.isDigit = true) (fuel : Nat) (s : List Char) :
    readValue? (fuel + 1) (c :: s) = readNumber? false (c :: s) := by
  have hblank : isBlank c = false := by
    rw [Bool.eq_false_iff]
    intro hblank
    have hcases : c = ' ' ∨ c = '\t' ∨ c = '\n' ∨ c = '\r' := by
      simpa [isBlank, or_assoc] using hblank
    rcases hcases with rfl | rfl | rfl | rfl <;> exact absurd h (by decide)
  rw [readValue?, skipBlanks_cons hblank]
  split
  all_goals simp_all

end MentionPrompt.Json
