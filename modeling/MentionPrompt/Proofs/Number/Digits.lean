import Mathlib.Tactic.IntervalCases
import MentionPrompt.Number.Decimal

/-!
Written numbers are read back: decimal numbers of any length or filled with zeros, decimal words with a
sign or without, and hexadecimal numbers of a fixed length. Main statements: `read?_toString`,
`read?_padded`, `readWord?_eq_some_iff` and `readAfter?_hex`.
-/

namespace MentionPrompt.Number

/-! ### Decimal numbers -/

theorem digit?_of_isDigit {c : Char} (h : c.isDigit = true) :
    digit? 10 c = some (c.toNat - '0'.toNat) := by
  simp only [Char.isDigit, Bool.and_eq_true, decide_eq_true_eq] at h
  have hle : c.toNat ≤ 57 := UInt32.le_iff_toNat_le.1 h.2
  have hvalue : c.toNat - '0'.toNat < 10 := by
    show c.toNat - 48 < 10
    omega
  rw [digit?, if_pos ⟨h.1, h.2⟩]
  exact Option.filter_some_pos (by simpa using hvalue)

theorem readAfter?_of_isDigit {digits : List Char} (h : ∀ c ∈ digits, c.isDigit = true)
    (value : Nat) :
    readAfter? 10 value digits = some (Nat.ofDigitChars 10 digits value) := by
  induction digits generalizing value with
  | nil => rfl
  | cons c rest ih =>
    rw [readAfter?, digit?_of_isDigit (h c (by simp)), Nat.ofDigitChars_cons, Nat.mul_comm 10]
    exact ih (fun d hd => h d (by simp [hd])) _

/-- In base ten the letters are no digits. -/
theorem isDigit_of_digit? {c : Char} {digit : Nat} (h : digit? 10 c = some digit) :
    c.isDigit = true := by
  obtain ⟨hvalue, hsmall⟩ := Option.filter_eq_some_iff.1 h
  split at hvalue
  · rename_i hrange
    simpa [Char.isDigit, Char.le_def] using hrange
  · split at hvalue <;> simp at hvalue hsmall <;> omega

/-- A run of characters is read as a number exactly if all are digits. -/
theorem readAfter?_eq_some_iff {digits : List Char} {value n : Nat} :
    readAfter? 10 value digits = some n ↔
      (∀ c ∈ digits, c.isDigit = true) ∧ Nat.ofDigitChars 10 digits value = n := by
  constructor
  · intro h
    have hdigits : ∀ c ∈ digits, c.isDigit = true := by
      induction digits generalizing value with
      | nil => simp
      | cons c rest ih =>
        obtain ⟨digit, hdigit, hrest⟩ := Option.bind_eq_some_iff.1 h
        intro d hd
        rcases List.mem_cons.1 hd with rfl | hd
        · exact isDigit_of_digit? hdigit
        · exact ih hrest d hd
    rw [readAfter?_of_isDigit hdigits] at h
    exact ⟨hdigits, Option.some.inj h⟩
  · rintro ⟨hdigits, rfl⟩
    exact readAfter?_of_isDigit hdigits value

/-- The characters write the word in decimal: digits, with or without a plus sign in front. -/
def WritesWord (chars : List Char) (word : UInt64) : Prop :=
  ∃ digits, (chars = digits ∨ chars = '+' :: digits) ∧ digits ≠ [] ∧
    (∀ c ∈ digits, c.isDigit = true) ∧ Nat.ofDigitChars 10 digits 0 = word.toNat

theorem WritesWord.plus_or_digit {chars : List Char} {word : UInt64} (h : WritesWord chars word) :
    ∀ c ∈ chars, c = '+' ∨ c.isDigit = true := by
  obtain ⟨digits, rfl | rfl, -, hdigits, -⟩ := h
  · exact fun c hc => .inr (hdigits c hc)
  · exact List.forall_mem_cons.2 ⟨.inl rfl, fun c hc => .inr (hdigits c hc)⟩

theorem read?_eq_some_iff {digits : List Char} {n : Nat} :
    read? 10 digits = some n ↔ digits ≠ [] ∧ (∀ c ∈ digits, c.isDigit = true) ∧
      Nat.ofDigitChars 10 digits 0 = n := by
  cases digits with
  | nil => simp [read?]
  | cons c rest =>
    rw [read?, readAfter?_eq_some_iff]
    · simp
    · simp

theorem toWord?_eq_some_iff {n : Nat} {word : UInt64} :
    toWord? n = some word ↔ n = word.toNat := by
  have hlimit : wordLimit = 2 ^ 64 := rfl
  unfold toWord?
  rw [hlimit]
  constructor
  · intro h
    split at h
    · rename_i hfits
      rw [← Option.some.inj h, UInt64.toNat_ofNat', Nat.mod_eq_of_lt hfits]
    · cases h
  · rintro rfl
    rw [if_pos word.toNat_lt, UInt64.ofNat_toNat]

theorem bind_toWord?_eq_some_iff {digits : List Char} {word : UInt64} :
    (read? 10 digits).bind toWord? = some word ↔ digits ≠ [] ∧
      (∀ c ∈ digits, c.isDigit = true) ∧ Nat.ofDigitChars 10 digits 0 = word.toNat := by
  simp only [Option.bind_eq_some_iff, read?_eq_some_iff, toWord?_eq_some_iff]
  constructor
  · rintro ⟨n, ⟨hne, hdigits, hvalue⟩, rfl⟩
    exact ⟨hne, hdigits, hvalue⟩
  · rintro ⟨hne, hdigits, hvalue⟩
    exact ⟨_, ⟨hne, hdigits, hvalue⟩, rfl⟩

theorem readWord?_of_head?_ne_plus {chars : List Char} (h : chars.head? ≠ some '+') :
    readWord? chars = (read? 10 chars).bind toWord? := by
  unfold readWord?
  split
  · simp at h
  · rfl

/-- A word is read exactly from the characters that write it. -/
theorem readWord?_eq_some_iff {chars : List Char} {word : UInt64} :
    readWord? chars = some word ↔ WritesWord chars word := by
  constructor
  · intro h
    by_cases hplus : chars.head? = some '+'
    · obtain ⟨rest, rfl⟩ := List.head?_eq_some_iff.1 hplus
      exact ⟨rest, .inr rfl, bind_toWord?_eq_some_iff.1 h⟩
    · rw [readWord?_of_head?_ne_plus hplus] at h
      exact ⟨chars, .inl rfl, bind_toWord?_eq_some_iff.1 h⟩
  · rintro ⟨digits, rfl | rfl, hwritten⟩
    · have hplus : chars.head? ≠ some '+' := fun hplus =>
        absurd (hwritten.2.1 _ (List.mem_of_head? hplus)) (by decide)
      rw [readWord?_of_head?_ne_plus hplus]
      exact bind_toWord?_eq_some_iff.2 hwritten
    · exact bind_toWord?_eq_some_iff.2 hwritten

/-- A decimal number is read back. -/
theorem read?_toString (n : Nat) : read? 10 (toString n).toList = some n := by
  rw [Nat.toString_eq_ofList_toDigits, String.toList_ofList]
  have hdigits : ∀ c ∈ Nat.toDigits 10 n, c.isDigit = true := fun c hc =>
    Nat.isDigit_of_mem_toDigits (by decide) (by decide) hc
  obtain ⟨c, rest, hcons⟩ := List.exists_cons_of_ne_nil (Nat.toDigits_ne_nil (n := n) (b := 10))
  rw [hcons] at hdigits ⊢
  rw [read?, readAfter?_of_isDigit hdigits, ← hcons, Nat.ofDigitChars_ten_toDigits]
  simp

theorem writesWord_toString (word : UInt64) : WritesWord (toString word.toNat).toList word :=
  ⟨_, .inl rfl, read?_eq_some_iff.1 (read?_toString word.toNat)⟩

/-- A decimal number above zero does not start with a zero. -/
theorem head?_toDigits_ne_zero {n : Nat} (h : 0 < n) : (Nat.toDigits 10 n).head? ≠ some '0' := by
  induction n using Nat.strongRecOn with
  | _ n ih =>
    rw [Nat.toDigits_eq_if (by decide)]
    split
    · rename_i hlt
      interval_cases n <;> decide
    · rw [List.head?_append, Option.or_of_isSome (by simp [Nat.toDigits_ne_nil])]
      exact ih (n / 10) (by omega) (by omega)

/-- A run of digits ends where something else comes. -/
theorem takeWhile_isDigit_append {digits rest : List Char} (hdigits : ∀ c ∈ digits, c.isDigit = true)
    (hrest : ∀ c ∈ rest.head?, c.isDigit = false) :
    (digits ++ rest).takeWhile Char.isDigit = digits ∧
      (digits ++ rest).dropWhile Char.isDigit = rest := by
  rw [List.takeWhile_append_of_pos hdigits, List.dropWhile_append_of_pos hdigits]
  cases rest with
  | nil => exact ⟨List.append_nil digits, rfl⟩
  | cons c rest => simp [hrest c rfl]

theorem isDigit_toString (n : Nat) : ∀ c ∈ (toString n).toList, c.isDigit = true := by
  rw [Nat.toString_eq_ofList_toDigits, String.toList_ofList]
  exact fun c hc => Nat.isDigit_of_mem_toDigits (by decide) (by decide) hc

theorem toList_toString_ne_nil (n : Nat) : (toString n).toList ≠ [] := by
  rw [Nat.toString_eq_ofList_toDigits, String.toList_ofList]
  exact Nat.toDigits_ne_nil

/-- A decimal number has no leading zero. -/
theorem toList_toString_ne_zero_cons (n : Nat) (c : Char) (digits : List Char) :
    (toString n).toList ≠ '0' :: c :: digits := by
  intro h
  rw [Nat.toString_eq_ofList_toDigits, String.toList_ofList] at h
  rcases Nat.eq_zero_or_pos n with rfl | hpos
  · simp [Nat.toDigits_zero] at h
  · exact head?_toDigits_ne_zero hpos (by rw [h]; rfl)

/-! ### Numbers of a fixed length -/

theorem toList_padded (width n : Nat) : (padded width n).toList =
    List.replicate (width - (toString n).toList.length) '0' ++ (toString n).toList := by
  rw [padded, String.toList_ofList]

theorem isDigit_padded (width n : Nat) : ∀ c ∈ (padded width n).toList, c.isDigit = true := by
  rw [toList_padded, List.forall_mem_append]
  refine ⟨fun c hc => ?_, isDigit_toString n⟩
  rw [List.eq_of_mem_replicate hc]
  decide

theorem length_padded {width n : Nat} (hwidth : 0 < width) (h : n < 10 ^ width) :
    (padded width n).toList.length = width := by
  have hlength : (toString n).toList.length ≤ width := by
    rw [Nat.toString_eq_ofList_toDigits, String.toList_ofList]
    exact (Nat.length_toDigits_le_iff (by decide) hwidth).2 h
  rw [toList_padded, List.length_append, List.length_replicate, Nat.sub_add_cancel hlength]

theorem readAfter?_zeros (count : Nat) (digits : List Char) :
    readAfter? 10 0 (List.replicate count '0' ++ digits) = readAfter? 10 0 digits := by
  induction count with
  | zero => rfl
  | succ count ih =>
    rw [List.replicate_succ, List.cons_append, ← ih]
    rfl

theorem read?_padded (width n : Nat) : read? 10 (padded width n).toList = some n := by
  have hread : ∀ {digits}, digits ≠ [] → read? 10 digits = readAfter? 10 0 digits := by
    intro digits hne
    cases digits with
    | nil => exact absurd rfl hne
    | cons c rest => rfl
  have hne := toList_toString_ne_nil n
  rw [toList_padded, hread (List.append_ne_nil_of_right_ne_nil _ hne), readAfter?_zeros, ← hread hne,
    read?_toString]

/-! ### Hexadecimal numbers -/

theorem digit?_hexDigit {n : Nat} (h : n < 16) : digit? 16 (hexDigit n).toUpper = some n := by
  interval_cases n <;> decide

theorem length_hex (width n : Nat) : (hex width n).length = width := by
  induction width generalizing n with
  | zero => rfl
  | succ width ih => simp [hex, ih]

theorem readAfter?_append (base value : Nat) (digits more : List Char) :
    readAfter? base value (digits ++ more) =
      (readAfter? base value digits).bind (readAfter? base · more) := by
  induction digits generalizing value with
  | nil => rfl
  | cons c rest ih =>
    rw [List.cons_append, readAfter?, readAfter?]
    cases digit? base c with
    | none => rfl
    | some digit => exact ih _

/-- A hexadecimal number in capitals is read back after any number that was read before it. -/
theorem readAfter?_hex (width : Nat) {n : Nat} (h : n < 16 ^ width) (value : Nat) :
    readAfter? 16 value ((hex width n).map Char.toUpper) = some (value * 16 ^ width + n) := by
  induction width generalizing n with
  | zero =>
    obtain rfl : n = 0 := by simpa using h
    simp [hex, readAfter?]
  | succ width ih =>
    have hdiv : n / 16 < 16 ^ width := by
      rw [Nat.pow_succ] at h
      omega
    rw [hex, List.map_append, readAfter?_append, ih hdiv]
    simp only [List.map_cons, List.map_nil, Option.bind_some, readAfter?,
      digit?_hexDigit (Nat.mod_lt n (by decide))]
    rw [Nat.pow_succ]
    show some _ = some _
    congr 1
    have := Nat.div_add_mod n 16
    rw [Nat.add_mul, Nat.mul_assoc]
    omega

end MentionPrompt.Number
