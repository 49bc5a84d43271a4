import MentionPrompt.Proofs.Yaml.PlainScalar
import MentionPrompt.Yaml.Token

/-!
Reading on, one token after the other, in block context. Main statements: what a gap, a key, a dash,
a pair of brackets and the end of a collection do to what is read in the end.

The statements go backwards: what a state yields follows from what the state after its first token
yields. So nothing has to be said of the places in a text but the column, which is given where the
next line starts.
-/

namespace MentionPrompt.Yaml.Scanner

/-- The state in block context with no key in mind. -/
def inBlock (indent : Int) (outer : List Int) (tokens : List Token) (keyAllowed : Bool)
    (place : Place) (rest : List Char) : Scanner where
  rest := rest
  place := place
  tokens := tokens
  indent := indent
  outerIndents := outer
  keyAllowed := keyAllowed

/-- Reading on from the state ends with these tokens, the last first. -/
def Yields (s : Scanner) (out : List Token) : Prop :=
  ∀ fuel, s.rest.length < fuel → ∃ s', run? fuel s = some s' ∧ s'.tokens = out

/-- Wherever the line of `next` starts, reading on from its content ends with these tokens; the
line is indented no further than the collection. -/
def ContinuesAt (indent : Nat) (outer : List Int) (tokens : List Token) (next : List Char)
    (out : List Token) : Prop :=
  ∃ j rest, j ≤ indent ∧ startsContent rest = true ∧ next = spaces j ++ rest ∧
    ∀ place, place.column = j → Yields (inBlock indent outer tokens true place rest) out

/-! ### Steps -/

theorem Yields.of_run {s s' : Scanner} {out : List Token} (h : Yields s' out) {n : Nat}
    (hlength : s'.rest.length + n ≤ s.rest.length)
    (hrun : ∀ fuel, run? (fuel + n) s = run? fuel s') : Yields s out := by
  intro fuel hfuel
  obtain ⟨fuel, rfl⟩ := Nat.exists_eq_add_of_le' (show n ≤ fuel by omega)
  rw [hrun]
  exact h fuel (by omega)

theorem run?_congr {s s' : Scanner} (h : s.atToken = s'.atToken) (fuel : Nat) :
    run? fuel s = run? fuel s' := by
  cases fuel with
  | zero => rfl
  | succ fuel => rw [run?, run?, h]

theorem atToken_eq {s : Scanner} (h : startsContent s.rest = true) : s.atToken = s := by
  obtain ⟨rest, place, tokens, indent, outer, keyStart, outerKeys, keyAllowed⟩ := s
  cases rest with
  | nil => rfl
  | cons c rest =>
    simp only [startsContent, Bool.and_eq_true, Bool.not_eq_true', bne_iff_ne] at h
    obtain ⟨⟨hbreak, hspace⟩, hcomment⟩ := h
    simp only [isSpace, Bool.or_eq_false_iff, beq_eq_false_iff_ne] at hspace
    simp [atToken, skipGap, hbreak, hspace, hcomment]

theorem dedentTo_eq {s : Scanner} (h : s.indent ≤ s.place.column) :
    s.dedentTo s.place.column = s := by
  obtain ⟨rest, place, tokens, indent, outer, keyStart, outerKeys, keyAllowed⟩ := s
  cases outer with
  | nil => simp [dedentTo, dedent]
  | cons outer others => simp [dedentTo, dedent, Int.not_lt.2 h]

/-- The next token, where none is closed and no key is stale. -/
theorem run?_token {s : Scanner} {c : Char} {after : List Char} (hrest : s.rest = c :: after)
    (hstart : startsContent s.rest = true) (hkeys : s.forgetStaleKeys? = some s)
    (hindent : s.indent ≤ s.place.column) (fuel : Nat) :
    run? (fuel + 1) s = (s.tokenAt? c after).bind (run? fuel) := by
  rw [run?, atToken_eq hstart, hkeys]
  simp only [Option.bind_eq_bind, Option.bind_some, hrest, dedentTo_eq hindent]

section InBlock

variable {indent : Int} {outer : List Int} {tokens out : List Token} {keyAllowed : Bool}
  {place : Place} {rest : List Char}

theorem forgetStaleKeys?_inBlock (indent : Int) (outer : List Int) (tokens : List Token)
    (keyAllowed : Bool) (place : Place) (rest : List Char) :
    (inBlock indent outer tokens keyAllowed place rest).forgetStaleKeys? =
      some (inBlock indent outer tokens keyAllowed place rest) := rfl

/-! ### Gaps -/

/-- A space between two tokens of a line. -/
theorem yields_space
    (h : Yields (inBlock indent outer tokens keyAllowed place.next rest) out) :
    Yields (inBlock indent outer tokens keyAllowed place (' ' :: rest)) out := by
  refine h.of_run (n := 0) (Nat.le_succ _) fun fuel => run?_congr ?_ fuel
  simp [atToken, inBlock, inFlow, skipGap, isBreak_space]

theorem skipGap_spaces (inFlow : Bool) (n : Nat) (rest : List Char) (place : Place)
    (keyAllowed : Bool) :
    skipGap inFlow (spaces n ++ rest) false place keyAllowed =
      skipGap inFlow rest false (place.skip n) keyAllowed := by
  induction n generalizing place with
  | zero => rfl
  | succ n ih =>
    rw [spaces, List.replicate_succ, List.cons_append, ← spaces, skipGap]
    simp [isBreak_space, ih, Place.next_eq_skip, Nat.add_comm]

/-- The end of a line and the indent of the next one. -/
theorem yields_newline {n : Nat} (keyAllowed : Bool) (place : Place)
    (h : ∀ place', place'.column = n → Yields (inBlock indent outer tokens true place' rest) out) :
    Yields (inBlock indent outer tokens keyAllowed place ('\n' :: (spaces n ++ rest))) out := by
  refine (h (place.newline.skip n) (by simp)).of_run (n := 0) ?_ fun fuel => run?_congr ?_ fuel
  · simp [inBlock]
    omega
  · simp [atToken, inBlock, inFlow, skipGap, isBreak_lineFeed, skipGap_spaces]

theorem ContinuesAt.yields_newline {k : Nat} {next : List Char}
    (h : ContinuesAt k outer tokens next out) (keyAllowed : Bool) (place : Place) :
    Yields (inBlock k outer tokens keyAllowed place ('\n' :: next)) out := by
  obtain ⟨j, rest, -, -, rfl, h⟩ := h
  exact Scanner.yields_newline keyAllowed place h

/-! ### Ends of collections -/

/-- A line at a lesser indent closes the innermost collection. -/
theorem yields_dedent {inner : Int} (hstart : startsContent rest = true)
    (hcolumn : place.column < inner)
    (h : Yields (inBlock indent outer (.blockEnd :: tokens) keyAllowed place rest) out) :
    Yields (inBlock inner (indent :: outer) tokens keyAllowed place rest) out := by
  refine h.of_run (n := 0) (Nat.le_refl _) fun fuel => ?_
  have hend : (-1 : Int) < inner := by omega
  cases fuel with
  | zero => rfl
  | succ fuel =>
    rw [run?, run?, atToken_eq hstart, atToken_eq hstart, forgetStaleKeys?_inBlock,
      forgetStaleKeys?_inBlock]
    cases rest with
    | nil => simp [inBlock, finish?, dedentTo, dedent, inFlow, hend]
    | cons c rest => simp [inBlock, dedentTo, dedent, inFlow, hcolumn]

theorem ContinuesAt.dedent {k inner : Nat} (hinner : k < inner) {next : List Char}
    (h : ContinuesAt k outer (.blockEnd :: tokens) next out) :
    ContinuesAt inner (k :: outer) tokens next out := by
  obtain ⟨j, rest, hj, hstart, hnext, h⟩ := h
  refine ⟨j, rest, by omega, hstart, hnext, fun place hcolumn => ?_⟩
  exact yields_dedent hstart (by omega) (h place hcolumn)

/-- The end of the text closes the root. -/
theorem continuesAt_end (tokens : List Token) :
    ContinuesAt 0 [-1] tokens [] (.blockEnd :: tokens) := by
  refine ⟨0, [], Nat.le_refl 0, rfl, rfl, fun place _ fuel hfuel => ?_⟩
  obtain ⟨fuel, rfl⟩ := Nat.exists_eq_succ_of_ne_zero (Nat.ne_zero_of_lt hfuel)
  exact ⟨_, rfl, rfl⟩

/-! ### Plain scalars and keys -/

theorem marks_eq_false {mark c : Char} (hc : c ≠ mark) (rest : List Char) :
    marks mark (c :: rest) = false := by
  obtain _ | ⟨d, _ | ⟨e, rest⟩⟩ := rest <;> simp [marks, hc]

theorem tokenAt?_plain {s : Scanner} {c : Char} {after : List Char} (hrest : s.rest = c :: after)
    (hstart : startsIndicator (c :: after) = false) (hcontent : startsContent (c :: after) = true)
    (hcolumn : s.place.column ≠ 0 ∨ c ≠ '-' ∧ c ≠ '.') (hflow : s.inFlow = false) :
    s.tokenAt? c after = s.plainScalar? := by
  have hspace : isSpace c = false := by
    simp only [startsContent, Bool.and_eq_true, Bool.not_eq_true'] at hcontent
    exact hcontent.1.2
  simp only [startsIndicator, Bool.or_eq_false_iff] at hstart
  obtain ⟨hindicator, hmark⟩ := hstart
  have hlist : c ∉ [',', '[', ']', '{', '}', '#', '&', '*', '!', '|', '>', '\'', '"', '%', '@',
      '\x60'] := by simpa [isIndicator] using hindicator
  simp only [List.mem_cons, not_or] at hlist
  have hdocument (mark : Char) (hmark : mark = '-' ∨ mark = '.') :
      (s.place.column == 0 && marks mark s.rest) = false := by
    rw [Bool.and_eq_false_iff, beq_eq_false_iff_ne]
    refine hcolumn.imp id fun hc => ?_
    rw [hrest, marks_eq_false]
    rcases hmark with rfl | rfl
    exacts [hc.1, hc.2]
  have hmark (mark : Char) (hmem : mark ∈ ['-', '?', ':']) :
      (c == mark && gapNext after) = false := by
    rw [Bool.and_eq_false_iff, beq_eq_false_iff_ne]
    rw [Bool.and_eq_false_iff] at hmark
    refine hmark.imp (fun h hc => ?_) id
    rw [hc] at h
    simp [hmem] at h
  unfold tokenAt?
  simp [hlist, hdocument, hmark, hflow, hindicator, hspace]

/-- A name that can be written as a key: a word on one line, and not too long. -/
structure IsKey (name : String) : Prop where
  nonempty : name.toList ≠ []
  words : ∀ c ∈ name.toList, isWordChar c = true
  short : name.toList.length ≤ 1024

theorem IsKey.isPlain {name : String} (h : IsKey name) : IsPlain name.toList :=
  isPlain_of_isWordChar h.nonempty h.words

/-- The state at the colon after a name that is kept in mind as a key. -/
def atColon (indent : Int) (outer : List Int) (tokens : List Token) (name : String)
    (required : Bool) (place : Place) (after : List Char) : Scanner :=
  { inBlock indent outer (.scalar .plain name :: tokens) false (place.skip name.toList.length)
      (':' :: after) with
    keyStart := some ⟨required, tokens.length, place⟩ }

/-- A name is read as a scalar, and kept in mind as a key. -/
theorem run?_name {name : String} (hname : IsKey name) {after : List Char}
    (hafter : gapNext after = true) (hindent : indent ≤ place.column) (fuel : Nat) :
    run? (fuel + 1) (inBlock indent outer tokens true place (name.toList ++ ':' :: after)) =
      run? fuel (atColon indent outer tokens name (indent == place.column) place after) := by
  have hstart := hname.isPlain.startsIndicator_append (':' :: after)
  have hcontent := hname.isPlain.startsContent_append (':' :: after)
  have hread := readPlain?_key hname.isPlain
    (show (indent + 1).toNat ≤ place.column + 1 by omega) hafter
  obtain ⟨c, more, hcons, hc⟩ :
      ∃ c more, name.toList ++ ':' :: after = c :: more ∧ isWordChar c = true := by
    obtain ⟨c, more, hcons⟩ := List.exists_cons_of_ne_nil hname.nonempty
    exact ⟨c, more ++ ':' :: after, by rw [hcons]; rfl, hname.words c (by simp [hcons])⟩
  have hmarks := (isWordChar_spec hc).2.2.2.2
  simp only [List.mem_cons, not_or] at hmarks
  rw [String.ofList_toList] at hread
  rw [hcons] at hstart hcontent hread ⊢
  rw [run?_token rfl hcontent rfl hindent, tokenAt?_plain rfl hstart hcontent
    (.inr ⟨hmarks.1, hmarks.2.2.2.1⟩) rfl]
  simp [plainScalar?, flowScalar?, rememberKey?, forgetKey?, forget?, inBlock, inFlow, hread,
    scalar, add, atColon]

theorem tokenAt?_colon {s : Scanner} {after : List Char} (hrest : s.rest = ':' :: after)
    (hafter : gapNext after = true) : s.tokenAt? ':' after = s.value? := by
  rw [tokenAt?, hrest, marks_eq_false (by decide), marks_eq_false (by decide)]
  simp [hafter]

/-- The colon makes the name a key of the mapping at its column. -/
theorem value?_atColon (outer : List Int) (tokens : List Token) (name : String) (required : Bool)
    (place : Place) (after : List Char) :
    (atColon place.column outer tokens name required place after).value? =
      some (inBlock place.column outer (.value :: .scalar .plain name :: .key :: tokens) false
        (place.skip (name.toList.length + 1)) after) := by
  simp [atColon, value?, insertAt, indentTo, inFlow, inBlock, add, pass]

/-- The colon makes the name a key, the first one of a mapping that starts here. -/
theorem value?_atColon_opening (hindent : indent < place.column) (outer : List Int)
    (tokens : List Token) (name : String) (required : Bool) (after : List Char) :
    (atColon indent outer tokens name required place after).value? =
      some (inBlock place.column (indent :: outer)
        (.value :: .scalar .plain name :: .key :: .mappingStart :: tokens) false
        (place.skip (name.toList.length + 1)) after) := by
  simp [atColon, value?, insertAt, indentTo, inFlow, inBlock, add, pass, hindent,
    show tokens.length + 1 + 1 - tokens.length = 2 by omega]

/-- The colon comes in time for the name to be a key. -/
theorem run?_colon {name : String} (hname : IsKey name) {after : List Char}
    (hafter : gapNext after = true) (hindent : indent ≤ place.column) (required : Bool)
    (fuel : Nat) :
    run? (fuel + 1) (atColon indent outer tokens name required place after) =
      (atColon indent outer tokens name required place after).value?.bind (run? fuel) := by
  have hshort := hname.short
  have hcolumn : indent ≤ ((place.column + name.toList.length : Nat) : Int) := by omega
  have hkeys : (atColon indent outer tokens name required place after).forgetStaleKeys? =
      some (atColon indent outer tokens name required place after) := by
    simp [forgetStaleKeys?, forgetStale?, KeyStart.isStale, atColon, inBlock, Nat.not_lt.2 hshort]
  rw [run?_token rfl rfl hkeys hcolumn, tokenAt?_colon rfl hafter]

/-- A key of the mapping at its column. -/
theorem yields_key {name : String} (hname : IsKey name) {after : List Char}
    (hafter : gapNext after = true)
    (h : Yields (inBlock place.column outer (.value :: .scalar .plain name :: .key :: tokens) false
      (place.skip (name.toList.length + 1)) after) out) :
    Yields (inBlock place.column outer tokens true place (name.toList ++ ':' :: after)) out := by
  have hpos := List.length_pos_of_ne_nil hname.nonempty
  refine h.of_run (n := 2) (by simp only [inBlock, List.length_append, List.length_cons]; omega)
    fun fuel => ?_
  rw [run?_name hname hafter (Int.le_refl _), run?_colon hname hafter (Int.le_refl _),
    value?_atColon, Option.bind_some]

/-- A mapping starts at its first key. -/
theorem yields_mappingStart {name : String} (hname : IsKey name) {after : List Char}
    (hafter : gapNext after = true) (hindent : indent < place.column)
    (h : Yields (inBlock place.column (indent :: outer) (.mappingStart :: tokens) true place
      (name.toList ++ ':' :: after)) out) :
    Yields (inBlock indent outer tokens true place (name.toList ++ ':' :: after)) out := by
  intro fuel hfuel
  obtain ⟨fuel, rfl⟩ := Nat.exists_eq_add_of_le' (show 2 ≤ fuel by
    have := List.length_pos_of_ne_nil hname.nonempty
    simp only [inBlock, List.length_append, List.length_cons] at hfuel
    omega)
  have hopened := h (fuel + 2) hfuel
  rw [run?_name hname hafter (Int.le_refl _), run?_colon hname hafter (Int.le_refl _),
    value?_atColon] at hopened
  rwa [run?_name hname hafter (Int.le_of_lt hindent),
    run?_colon hname hafter (Int.le_of_lt hindent), value?_atColon_opening hindent]

/-! ### Sequences -/

/-- A dash at the column of the mapping whose value the sequence is. -/
theorem yields_entry
    (h : Yields (inBlock place.column outer (.entry :: tokens) true place.next (' ' :: rest)) out) :
    Yields (inBlock place.column outer tokens true place ('-' :: ' ' :: rest)) out := by
  refine h.of_run (n := 1) (Nat.le_refl _) fun fuel => ?_
  have hmarks : marks '-' ('-' :: ' ' :: rest) = false := by cases rest <;> rfl
  rw [run?_token rfl rfl rfl (Int.le_refl _), tokenAt?]
  simp [inBlock, hmarks, marks_eq_false, gapNext, isSpace_space, indicator?, inFlow, indentTo,
    forgetKey?, forget?, add, pass, Place.next_eq_skip]

/-- A pair of brackets, and the line break after it. -/
theorem yields_brackets (hcolumn : place.column ≠ 0) (hindent : indent ≤ place.column)
    (h : Yields (inBlock indent outer (.closeSequence :: .openSequence :: tokens) false
      (place.skip 2) rest) out) :
    Yields (inBlock indent outer tokens false place ('[' :: ']' :: rest)) out := by
  refine h.of_run (n := 2) (Nat.le_refl _) fun fuel => ?_
  let inside : Scanner :=
    { inBlock indent outer (.openSequence :: tokens) true (place.skip 1) (']' :: rest) with
      outerKeyStarts := [none] }
  have hopen : (inBlock indent outer tokens false place ('[' :: ']' :: rest)).tokenAt? '['
      (']' :: rest) = some inside := by
    rw [tokenAt?]
    simp [inBlock, hcolumn, openBracket?, rememberKey?, add, pass, inside]
  have hclose : inside.tokenAt? ']' rest =
      some (inBlock indent outer (.closeSequence :: .openSequence :: tokens) false
        (place.skip 2) rest) := by
    rw [tokenAt?]
    simp [inside, inBlock, closeBracket?, forgetKey?, forget?, add, pass]
  have hindent' : inside.indent ≤ inside.place.column :=
    Int.le_trans hindent (Int.ofNat_le.2 (Nat.le_succ _))
  rw [run?_token rfl rfl rfl hindent, hopen, Option.bind_some, run?_token rfl rfl rfl hindent',
    hclose, Option.bind_some]

end InBlock

end MentionPrompt.Yaml.Scanner
