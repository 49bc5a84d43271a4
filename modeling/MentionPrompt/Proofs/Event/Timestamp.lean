import Mathlib.Tactic.IntervalCases
import MentionPrompt.Event.Timestamp
import MentionPrompt.Proofs.Number.Digits

/-!
A point in time is read back from its text.

The text names a date and a time of day, and its offset is none. So reading it takes the date to a day
number and back; that this gives the date again is shown within a cycle of 400 years, for the year and
then for the month. Main statements: `dateOfDay_dayNumber` and `read?_text`.
-/

namespace MentionPrompt.Timestamp

/-! ### The calendar -/

/-- The year of a cycle is found from the day of the cycle. A century has 36524 days or one more, four
years have 1461 or one less. -/
theorem yearOfCycle_eq {year day : Nat} (hyear : year < 400) (hday : day ≤ 365)
    (hleap : day = 365 → isLeapYear (year + 1) = true) :
    let dayOfCycle := 365 * year + year / 4 - year / 100 + day
    dayOfCycle < 146097 ∧
      (dayOfCycle - dayOfCycle / 1460 + dayOfCycle / 36524 - dayOfCycle / 146096) / 365 = year := by
  obtain ⟨a, b, c, ha, hb, hc, rfl⟩ :
      ∃ a b c, a < 4 ∧ b < 25 ∧ c < 4 ∧ year = 100 * a + 4 * b + c :=
    ⟨year / 100, year % 100 / 4, year % 4, by omega, by omega, by omega, by omega⟩
  -- A year has 366 days only as the last of four, and of a century only at the end of the cycle.
  have hends : day = 365 → c = 3 ∧ (b < 24 ∨ a = 3) := by
    intro h
    have hlong := hleap h
    simp only [isLeapYear, Bool.and_eq_true, Bool.or_eq_true, bne_iff_ne, decide_eq_true_eq] at hlong
    omega
  clear hleap
  intro dayOfCycle
  have hcounted : dayOfCycle = 36524 * a + 1461 * b + 365 * c + day := by omega
  clear_value dayOfCycle
  have hsum : ∀ late last, late ≤ day → dayOfCycle - (25 * a + b + late) + (a + last) - last =
      365 * (100 * a + 4 * b + c) + (day - late) := by
    intro late last hlate
    clear hends
    omega
  obtain ⟨last, h36524, h146096⟩ :
      ∃ last, dayOfCycle / 36524 = a + last ∧ dayOfCycle / 146096 = last := by
    have hcentury : 1461 * b + 365 * c + day < 36524 ∨ 1461 * b + 365 * c + day = 36524 ∧ a = 3 := by
      rcases Nat.lt_or_eq_of_le hday with h | h
      · left; omega
      · obtain ⟨rfl, h | h⟩ := hends h
        · left; omega
        · omega
    clear hends
    rcases hcentury with h | ⟨h, rfl⟩
    · exact ⟨0, by omega, by omega⟩
    · exact ⟨1, by omega, by omega⟩
  obtain ⟨late, hlate, hrest, h1460⟩ :
      ∃ late ≤ day, day - late < 365 ∧ dayOfCycle / 1460 = 25 * a + b + late := by
    rcases Nat.lt_or_ge (24 * a + b + 365 * c + day) 1460 with h | h
    · refine ⟨0, day.zero_le, ?_, by omega⟩
      have hne : day ≠ 365 := fun h => by
        have hlast := (hends h).1
        omega
      omega
    · have hne : day ≠ 0 := by
        rintro rfl
        omega
      exact ⟨1, by omega, by omega, by omega⟩
  constructor
  · omega
  · rw [h1460, h36524, h146096, hsum late last hlate, Nat.mul_add_div (by decide),
      Nat.div_eq_of_lt hrest, Nat.add_zero]

/-- The month and the day are found from the days since 1 March. -/
theorem monthOfYear_eq {year : Int} {month day : Nat} (hmonth : 1 ≤ month ∧ month ≤ 12)
    (hday : 1 ≤ day ∧ day ≤ daysInMonth year month) :
    let shifted := (month + 9) % 12
    let dayOfYear := (153 * shifted + 2) / 5 + day - 1
    dayOfYear ≤ 365 ∧ (dayOfYear = 365 → month = 2 ∧ isLeapYear year = true) ∧
      (5 * dayOfYear + 2) / 153 = shifted ∧ dayOfYear - (153 * shifted + 2) / 5 + 1 = day := by
  obtain ⟨hlow, hhigh⟩ := hmonth
  obtain ⟨hfirst, hlast⟩ := hday
  have hshort : isLeapYear year = false → daysInMonth year 2 = 28 := fun h => by
    rw [daysInMonth, if_pos rfl, h]
    rfl
  have hlong : day ≤ if month = 2 then 29 else if month ∈ [4, 6, 9, 11] then 30 else 31 := by
    refine Nat.le_trans hlast ?_
    unfold daysInMonth
    split
    · split <;> decide
    · exact Nat.le_refl _
  dsimp only
  interval_cases month
  case «2» =>
    have hdays : day ≤ 29 := hlong
    clear hlong
    refine ⟨by omega, fun h => ⟨rfl, ?_⟩, by omega, by omega⟩
    by_contra hnot
    rw [hshort (Bool.eq_false_iff.2 hnot)] at hlast
    omega
  all_goals
    simp at hlong
    clear hlast hshort
    exact ⟨by omega, by omega, by omega, by omega⟩

/-- A date is found from its day number. -/
theorem dateOfDay_dayNumber {year : Int} {month day : Nat} (hmonth : 1 ≤ month ∧ month ≤ 12)
    (hday : 1 ≤ day ∧ day ≤ daysInMonth year month) :
    dateOfDay (dayNumber year month day) = (year, month, day) := by
  obtain ⟨hdays, hleap, hshifted, hback⟩ := monthOfYear_eq hmonth hday
  unfold dayNumber
  dsimp only
  generalize (153 * ((month + 9) % 12) + 2) / 5 + day - 1 = dayOfYear at *
  generalize hmarch : (if month ≤ 2 then year - 1 else year) = marchYear
  obtain ⟨cycle, yearOfCycle, hyear, hcycle⟩ :
      ∃ (cycle : Int) (yearOfCycle : Nat), yearOfCycle < 400 ∧
        marchYear = 400 * cycle + yearOfCycle :=
    ⟨marchYear / 400, (marchYear % 400).toNat, by omega, by omega⟩
  have hlong : dayOfYear = 365 → isLeapYear (yearOfCycle + 1) = true := by
    intro h
    obtain ⟨rfl, hleap⟩ := hleap h
    rw [if_pos (by decide)] at hmarch
    simp only [isLeapYear, Bool.and_eq_true, Bool.or_eq_true, bne_iff_ne, decide_eq_true_eq]
      at hleap ⊢
    omega
  have hcounted : 365 * marchYear + marchYear / 4 - marchYear / 100 + marchYear / 400 =
      146097 * cycle + (365 * yearOfCycle + yearOfCycle / 4 - yearOfCycle / 100 : Nat) := by
    have h4 : marchYear / 4 = 100 * cycle + yearOfCycle / 4 := by omega
    have h100 : marchYear / 100 = 4 * cycle + yearOfCycle / 100 := by omega
    have h400 : marchYear / 400 = cycle := by omega
    rw [h4, h100, h400, hcycle]
    omega
  obtain ⟨hlt, hfound⟩ := yearOfCycle_eq hyear hdays hlong
  have hrest := Nat.add_sub_cancel_left
    (365 * yearOfCycle + yearOfCycle / 4 - yearOfCycle / 100) dayOfYear
  rw [hcounted, Int.add_assoc, ← Int.natCast_add]
  generalize 365 * yearOfCycle + yearOfCycle / 4 - yearOfCycle / 100 + dayOfYear = dayOfCycle at *
  have hdiv : (146097 * cycle + (dayOfCycle : Int)) / 146097 = cycle := by omega
  have hmod : ((146097 * cycle + (dayOfCycle : Int)) % 146097).toNat = dayOfCycle := by omega
  have hmonths :
      (if (month + 9) % 12 < 10 then (month + 9) % 12 + 3 else (month + 9) % 12 - 9) = month := by
    split <;> omega
  unfold dateOfDay
  dsimp only
  rw [hdiv, hmod, hfound, hrest, hshifted, hback, hmonths, ← hcycle, ← hmarch]
  split
  · rw [Int.sub_add_cancel]
  · rfl

/-! ### Parts of the text -/

theorem isBlank_of_isDigit {c : Char} (h : c.isDigit = true) : Text.isBlank c = false := by
  simp only [Char.isDigit, Bool.and_eq_true, decide_eq_true_eq] at h
  have hrange : 48 ≤ c.toNat ∧ c.toNat ≤ 57 := h
  simp only [Text.isBlank, Text.blankTable, Text.CodePointTable.contains, List.any_cons, List.any_nil,
    Bool.or_false, Bool.or_eq_false_iff, Bool.and_eq_false_iff, decide_eq_false_iff_not]
  omega

theorem skipBlanks_cons {c : Char} (h : Text.isBlank c = false) (s : List Char) :
    skipBlanks (c :: s) = c :: s := by
  rw [skipBlanks, List.dropWhile_cons, h]
  rfl

/-- Digits are taken up to the width. -/
theorem readNumber?_padded {width n : Nat} (hwidth : 0 < width) (h : n < 10 ^ width)
    (rest : List Char) :
    readNumber? width ((Number.padded width n).toList ++ rest) = some (n, rest) := by
  have hdigits := Number.isDigit_padded width n
  have hlength := Number.length_padded hwidth h
  have hread := Number.read?_padded width n
  generalize (Number.padded width n).toList = digits at *
  have hskip : skipBlanks (digits ++ rest) = digits ++ rest := by
    cases digits with
    | nil => exact absurd hlength (Nat.ne_of_lt hwidth)
    | cons c digits => exact skipBlanks_cons (isBlank_of_isDigit (hdigits c List.mem_cons_self)) _
  have htake : ((digits ++ rest).take width).takeWhile Char.isDigit = digits := by
    have hall : (digits ++ []).takeWhile Char.isDigit = digits :=
      (Number.takeWhile_isDigit_append hdigits (by simp)).1
    rw [List.append_nil] at hall
    rw [List.take_left' hlength, hall]
  rw [readNumber?, hskip, htake, hread, hlength, List.drop_left' hlength]
  rfl

theorem readMark?_cons {mark : Char} (h : Text.isBlank mark = false) (s : List Char) :
    readMark? mark (mark :: s) = some s := by
  rw [readMark?, skipBlanks_cons h]
  exact if_pos rfl

theorem readYear?_of_isDigit {c : Char} (h : c.isDigit = true) (s : List Char) :
    readYear? (c :: s) = (readNumber? 4 (c :: s)).map fun (year, rest) => ((year : Int), rest) := by
  rw [readYear?, skipBlanks_cons (isBlank_of_isDigit h)]
  split
  · rename_i hc
    obtain ⟨rfl, -⟩ := List.cons.inj hc
    exact absurd h (by decide)
  · rename_i hc
    obtain ⟨rfl, -⟩ := List.cons.inj hc
    exact absurd h (by decide)
  · rw [Option.map_eq_bind]
    rfl

theorem readSigned?_padded (width n : Nat) (s : List Char) :
    readYear?.signed? ((Number.padded width n).toList ++ '-' :: s) = some ((n : Int), '-' :: s) := by
  have hdigits := Number.isDigit_padded width n
  have hread := Number.read?_padded width n
  generalize (Number.padded width n).toList = digits at *
  obtain ⟨htake, hdrop⟩ := Number.takeWhile_isDigit_append hdigits
    (show ∀ c ∈ ('-' :: s).head?, c.isDigit = false by rintro _ ⟨⟩; decide)
  rw [readYear?.signed?]
  simp only [htake, hdrop, hread]
  rfl

theorem readYear?_minus (s : List Char) :
    readYear? ('-' :: s) = (readYear?.signed? s).map fun (year, rest) => (-year, rest) := by
  rw [readYear?, skipBlanks_cons (by decide), Option.map_eq_bind]
  rfl

theorem readYear?_plus (s : List Char) : readYear? ('+' :: s) = readYear?.signed? s := by
  rw [readYear?, skipBlanks_cons (by decide)]
  rfl

theorem readYear?_yearText (year : Int) (s : List Char) :
    readYear? ((yearText year).toList ++ '-' :: s) = some (year, '-' :: s) := by
  unfold yearText
  split
  · rename_i hrange
    have hfits : year.toNat < 10 ^ 4 := by omega
    have hlength := Number.length_padded (by decide) hfits
    have hread := readNumber?_padded (by decide) hfits ('-' :: s)
    have hdigits := Number.isDigit_padded 4 year.toNat
    generalize (Number.padded 4 year.toNat).toList = digits at *
    cases digits with
    | nil => exact absurd hlength (by decide)
    | cons c digits =>
      rw [List.cons_append] at hread ⊢
      rw [readYear?_of_isDigit (hdigits c List.mem_cons_self), hread, Option.map_some]
      simp only [Int.toNat_of_nonneg hrange.1]
  · have hsigned := readSigned?_padded 4 year.natAbs s
    rw [String.toList_append, List.append_assoc]
    split
    · rename_i hneg
      have habs : -(year.natAbs : Int) = year := by omega
      rw [show "-".toList = ['-'] from rfl, List.singleton_append, readYear?_minus, hsigned,
        Option.map_some]
      simp only [habs]
    · rename_i hnonneg
      have habs : (year.natAbs : Int) = year := by omega
      rw [show "+".toList = ['+'] from rfl, List.singleton_append, readYear?_plus, hsigned, habs]

/-- A fraction is written in units that a number of digits can tell apart. -/
theorem readFraction?_padded {width unit nanosecond : Nat} (hwidth : 0 < width ∧ width ≤ 9)
    (hunit : 10 ^ (9 - width) = unit) (h : nanosecond < 10 ^ 9) (hwhole : nanosecond % unit = 0) :
    readFraction? (("." ++ Number.padded width (nanosecond / unit)).toList ++ ['Z']) =
      some (nanosecond, ['Z']) := by
  have hfits : nanosecond / unit < 10 ^ width := by
    refine Nat.div_lt_of_lt_mul ?_
    rwa [← hunit, ← Nat.pow_add, Nat.sub_add_cancel hwidth.2]
  have hdigits := Number.isDigit_padded width (nanosecond / unit)
  have hlength := Number.length_padded hwidth.1 hfits
  have hread := Number.read?_padded width (nanosecond / unit)
  rw [String.toList_append]
  generalize (Number.padded width (nanosecond / unit)).toList = digits at *
  have hends : ∀ more, ∀ c ∈ (['Z'].take more).head?, c.isDigit = false := by
    rintro (_ | more) _ ⟨⟩
    decide
  have htake : ((digits ++ ['Z']).take 9).takeWhile Char.isDigit = digits := by
    obtain ⟨more, hmore⟩ := Nat.exists_eq_add_of_le hwidth.2
    rw [hmore, ← hlength, List.take_length_add_append]
    exact (Number.takeWhile_isDigit_append hdigits (hends more)).1
  have hdrop : (digits ++ ['Z']).dropWhile Char.isDigit = ['Z'] :=
    (Number.takeWhile_isDigit_append hdigits (hends 1)).2
  have hvalue : nanosecond / unit * Nat.pow 10 (9 - digits.length) = nanosecond := by
    rw [hlength, Nat.pow_eq, hunit, Nat.div_mul_cancel (Nat.dvd_of_mod_eq_zero hwhole)]
  change readFraction? ('.' :: (digits ++ ['Z'])) = _
  rw [readFraction?]
  simp only [htake, hdrop, hread, Option.bind_eq_bind, Option.bind_some, hvalue]
  rfl

theorem readFraction?_fractionText {nanosecond : Nat} (h : nanosecond < 10 ^ 9) :
    readFraction? ((fractionText nanosecond).toList ++ ['Z']) = some (nanosecond, ['Z']) := by
  unfold fractionText
  split
  · rename_i hzero
    rw [hzero]
    rfl
  split
  · rename_i hmillis
    exact readFraction?_padded (by decide) (by decide) h hmillis
  split
  · rename_i hmicros
    exact readFraction?_padded (by decide) (by decide) h hmicros
  · have hnanos : readFraction? (("." ++ Number.padded 9 (nanosecond / 1)).toList ++ ['Z']) =
        some (nanosecond, ['Z']) :=
      readFraction?_padded (by decide) (Nat.pow_zero 10) h (Nat.mod_one nanosecond)
    rwa [Nat.div_one] at hnanos

/-! ### The whole text -/

/-- The point in time is a time of day on a date; a second numbered 60 is a leap second. -/
structure IsProper (time : Timestamp) : Prop where
  year : yearInRange time.year = true
  month : 1 ≤ time.month ∧ time.month ≤ 12
  day : 1 ≤ time.day ∧ time.day ≤ daysInMonth time.year time.month
  hour : time.hour < 24
  minute : time.minute < 60
  second : time.second ≤ 60
  nanosecond : time.nanosecond < 10 ^ 9

namespace IsProper

variable {time : Timestamp}

theorem isDate (h : time.IsProper) : isDate time.year time.month time.day = true := by
  simp [Timestamp.isDate, h.year, h.month, h.day]

/-- Without an offset a time has the same name in universal time. -/
theorem toUniversal?_zero (h : time.IsProper) : time.toUniversal? 0 = some time := by
  obtain ⟨hyear, hmonth, hday, hhour, hminute, hsecond, -⟩ := h
  have hback := dateOfDay_dayNumber hmonth hday
  clear hmonth hday
  obtain ⟨year, month, day, hour, minute, second, nanosecond⟩ := time
  unfold toUniversal?
  dsimp only at *
  generalize hcounted : (hour * 60 + minute) * 60 + (second - second / 60) = inDay
  have hseconds : ((hour * 60 + minute : Nat) : Int) * 60 + (second - second / 60 : Nat) - 0 =
      inDay := by omega
  have hzero : (inDay : Int) / 86400 = 0 := by omega
  have hwithin : ((inDay : Int) % 86400).toNat = inDay := by omega
  have hminutes : inDay / 60 = hour * 60 + minute := by omega
  rw [hseconds, hzero, Int.add_zero, hback]
  dsimp only
  rw [if_pos hyear, hwithin, hminutes]
  congr 2
  · omega
  · omega
  · omega

/-- A point in time is read back from its text. -/
theorem read?_text (h : time.IsProper) : read? time.text = some time := by
  have htext : time.text.toList = (yearText time.year).toList ++ '-' ::
      ((Number.padded 2 time.month).toList ++ '-' :: ((Number.padded 2 time.day).toList ++ 'T' ::
      ((Number.padded 2 time.hour).toList ++ ':' :: ((Number.padded 2 time.minute).toList ++ ':' ::
      ((Number.padded 2 time.second).toList ++
        ((fractionText time.nanosecond).toList ++ ['Z'])))))) := by
    have hmarks : "-".toList = ['-'] ∧ ":".toList = [':'] := ⟨rfl, rfl⟩
    have hletters : "T".toList = ['T'] ∧ "Z".toList = ['Z'] := ⟨rfl, rfl⟩
    simp only [text, String.toList_append, List.append_assoc, hmarks, hletters, List.cons_append,
      List.nil_append]
  have hday : time.day ≤ 31 := by
    refine Nat.le_trans h.day.2 ?_
    unfold daysInMonth
    repeat' split
    all_goals decide
  have hdash : Text.isBlank '-' = false := by decide
  have hcolon : Text.isBlank ':' = false := by decide
  have hpart : ∀ {n most}, n ≤ most → most < 100 → ∀ rest,
      readNumber? 2 ((Number.padded 2 n).toList ++ rest) = some (n, rest) :=
    fun hle hmost => readNumber?_padded (by decide) (Nat.lt_of_le_of_lt hle hmost)
  -- Each part is taken off the text in turn, and what is behind it is the rest of the next.
  unfold read?
  rw [htext]
  refine Option.bind_eq_some_iff.2 ⟨_, readYear?_yearText time.year _, ?_⟩
  refine Option.bind_eq_some_iff.2 ⟨_, readMark?_cons hdash _, ?_⟩
  refine Option.bind_eq_some_iff.2 ⟨_, hpart h.month.2 (by decide) _, ?_⟩
  refine Option.bind_eq_some_iff.2 ⟨_, readMark?_cons hdash _, ?_⟩
  refine Option.bind_eq_some_iff.2 ⟨_, hpart hday (by decide) _, ?_⟩
  dsimp only
  refine Option.bind_eq_some_iff.2 ⟨_, rfl, ?_⟩
  refine Option.bind_eq_some_iff.2 ⟨_, hpart (Nat.le_of_lt h.hour) (by decide) _, ?_⟩
  refine Option.bind_eq_some_iff.2 ⟨_, readMark?_cons hcolon _, ?_⟩
  refine Option.bind_eq_some_iff.2 ⟨_, hpart (Nat.le_of_lt h.minute) (by decide) _, ?_⟩
  refine Option.bind_eq_some_iff.2 ⟨_, readMark?_cons hcolon _, ?_⟩
  refine Option.bind_eq_some_iff.2 ⟨_, hpart h.second (by decide) _, ?_⟩
  refine Option.bind_eq_some_iff.2 ⟨_, readFraction?_fractionText h.nanosecond, ?_⟩
  have hoffset : readOffset? (skipBlanks ['Z']) = some (0, []) := rfl
  refine Option.bind_eq_some_iff.2 ⟨_, hoffset, ?_⟩
  simp [h.isDate, h.hour, h.minute, h.second, h.toUniversal?_zero, skipBlanks]

end IsProper

end MentionPrompt.Timestamp
