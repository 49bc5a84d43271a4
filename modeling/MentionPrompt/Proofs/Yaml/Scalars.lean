import MentionPrompt.Proofs.Yaml.Literal
import MentionPrompt.Proofs.Yaml.Quoted
import MentionPrompt.Proofs.Yaml.Scanning

/-!
Scalars of every style as values of a mapping. Main statements: the style that is chosen for a text
suits it (`written_styleOf`), and a text in a style that suits it is read as it is
(`yields_scalar`).
-/

namespace MentionPrompt.Yaml

/-! ### Styles that suit a text -/

/-- The text can be written in the style. -/
inductive Written : Style → List Char → Prop
  | plain {s : List Char} (h : IsPlain s) : Written .plain s
  | singleQuoted {s : List Char} (hescapes : needsEscapes s = false) (hline : '\n' ∉ s)
      (hindented : hasIndentedLine s = false) : Written .singleQuoted s
  | doubleQuoted (s : List Char) : Written .doubleQuoted s
  | literal {s : List Char} (hescapes : needsEscapes s = false) (hne : s ≠ []) : Written .literal s

theorem isPrintable_of_needsEscapes {s : List Char} (h : needsEscapes s = false) :
    ∀ c ∈ s, isPrintable c = true := by
  simp only [needsEscapes, Bool.or_eq_false_iff, Bool.not_eq_false', List.all_eq_true] at h
  exact h.1

/-- The style that is chosen for a text suits it. -/
theorem written_styleOf (text : String) : Written (styleOf text) text.toList := by
  unfold styleOf
  dsimp only
  split
  · exact .doubleQuoted _
  rename_i hescapes
  rw [Bool.not_eq_true] at hescapes
  split
  · rename_i hline
    split
    · exact .doubleQuoted _
    · exact .literal hescapes (by rintro h; simp [h] at hline)
  rename_i hline
  split
  · rename_i hplain
    simp only [Bool.and_eq_true] at hplain
    refine .plain (isPlain_of_looksPlain ?_ (isPrintable_of_needsEscapes hescapes) hplain.2)
    rintro hnil
    obtain rfl : text = "" := by simpa using hnil
    exact absurd hplain.1.1 (by decide)
  split
  · exact .doubleQuoted _
  · rename_i hindented
    exact .singleQuoted hescapes (by simpa using hline) (by simpa using hindented)

namespace Scanner

/-! ### Reading a scalar -/

section Scalars

variable {k : Nat} {outer : List Int} {tokens out : List Token} {place : Place}
  {next : List Char}

/-- The first token of a value is read. -/
theorem yields_token {tokens' : List Token} {keyAllowed : Bool} {place' : Place} {c : Char}
    {after rest : List Char} (hcontent : startsContent (c :: after) = true)
    (hindent : k < place.column)
    (htoken : (inBlock k outer tokens false place (c :: after)).tokenAt? c after =
      some (inBlock k outer tokens' keyAllowed place' rest))
    (hlength : rest.length ≤ after.length)
    (h : Yields (inBlock k outer tokens' keyAllowed place' rest) out) :
    Yields (inBlock k outer tokens false place (c :: after)) out := by
  refine h.of_run (n := 1) (Nat.succ_le_succ hlength) fun fuel => ?_
  rw [run?_token rfl hcontent rfl (show (k : Int) ≤ place.column by omega), htoken,
    Option.bind_some]

/-- Where no key may start, a scalar is just read. -/
theorem flowScalar?_inBlock {style : Style} {read? : Scanner → Option Scalar} (found : Scalar)
    {rest : List Char}
    (h : read? (inBlock k outer tokens false place rest) = some found) :
    (inBlock k outer tokens false place rest).flowScalar? style read? =
      some (inBlock k outer (.scalar style found.text :: tokens) found.endsLine found.place
        found.rest) := by
  simp only [inBlock] at h
  simp [flowScalar?, rememberKey?, inBlock, h, scalar, add]

theorem yields_plain {text : String} (htext : IsPlain text.toList) (hindent : k < place.column)
    (h : ContinuesAt k outer (.scalar .plain text :: tokens) next out) :
    Yields (inBlock k outer tokens false place (text.toList ++ '\n' :: next)) out := by
  obtain ⟨j, rest, hj, hrest, rfl, h⟩ := h
  have hcontent := htext.startsContent_append ('\n' :: (spaces j ++ rest))
  have hstart := htext.startsIndicator_append ('\n' :: (spaces j ++ rest))
  have hread := readPlain?_line htext (show ((k : Int) + 1).toNat ≤ place.column by omega)
    (show j < ((k : Int) + 1).toNat by omega) hrest
  rw [String.ofList_toList] at hread
  obtain ⟨c, after, hcons⟩ : ∃ c after, text.toList ++ '\n' :: (spaces j ++ rest) = c :: after :=
    List.exists_cons_of_ne_nil (by simp)
  have hlength : rest.length ≤ after.length := by
    have := congrArg List.length hcons
    simp only [List.length_append, List.length_cons] at this
    omega
  rw [hcons] at hread hcontent hstart ⊢
  refine yields_token hcontent hindent ?_ hlength
    (h ((place.skip text.toList.length).newline.skip j) (by simp))
  rw [tokenAt?_plain rfl hstart hcontent (.inl (show place.column ≠ 0 by omega)) rfl, plainScalar?]
  exact flowScalar?_inBlock ⟨text, rest, _, true⟩ hread

theorem tokenAt?_singleQuote {s : Scanner} (hcolumn : s.place.column ≠ 0) (after : List Char) :
    s.tokenAt? '\'' after =
      s.flowScalar? .singleQuoted fun s => readSingleQuoted? after s.place.next [] {} := by
  simp [tokenAt?, hcolumn]

theorem tokenAt?_doubleQuote {s : Scanner} (hcolumn : s.place.column ≠ 0) (after : List Char) :
    s.tokenAt? '"' after =
      s.flowScalar? .doubleQuoted fun s =>
        readDoubleQuoted? (after.length + 1) after s.place.next [] {} := by
  simp [tokenAt?, hcolumn]

theorem tokenAt?_bar {s : Scanner} (hcolumn : s.place.column ≠ 0) (hflow : s.inFlow = false)
    (after : List Char) : s.tokenAt? '|' after = s.blockScalar? .literal := by
  simp [tokenAt?, hcolumn, hflow]

theorem yields_singleQuoted {text : String} (hescapes : needsEscapes text.toList = false)
    (hline : '\n' ∉ text.toList) (hindented : hasIndentedLine text.toList = false)
    (hindent : k < place.column)
    (h : ContinuesAt k outer (.scalar .singleQuoted text :: tokens) next out) :
    Yields (inBlock k outer tokens false place
      (singleQuoted (k + 2) text.toList ++ '\n' :: next)) out := by
  have hcolumn : place.column ≠ 0 := by omega
  obtain ⟨place', hread⟩ := readSingleQuoted?_singleQuoted (show 0 < k + 2 by omega)
    (show ('\n' :: next).head? ≠ some '\'' by simp) hescapes hline hindented
    (show place.next.column ≠ 0 from Nat.succ_ne_zero _)
  rw [String.ofList_toList] at hread
  have hcons : singleQuoted (k + 2) text.toList ++ '\n' :: next =
      '\'' :: ((singleQuoted (k + 2) text.toList).tail ++ '\n' :: next) := rfl
  rw [hcons]
  refine yields_token rfl hindent ?_ (by simp) (h.yields_newline false place')
  rw [tokenAt?_singleQuote hcolumn]
  exact flowScalar?_inBlock ⟨text, _, place', false⟩ hread

theorem yields_doubleQuoted {text : String} (hindent : k < place.column)
    (h : ContinuesAt k outer (.scalar .doubleQuoted text :: tokens) next out) :
    Yields (inBlock k outer tokens false place (doubleQuoted text.toList ++ '\n' :: next)) out := by
  have hcolumn : place.column ≠ 0 := by omega
  obtain ⟨place', hread⟩ := readDoubleQuoted?_doubleQuoted text.toList ('\n' :: next)
    (show place.next.column ≠ 0 from Nat.succ_ne_zero _)
  rw [String.ofList_toList] at hread
  have hcons : doubleQuoted text.toList ++ '\n' :: next =
      '"' :: ((doubleQuoted text.toList).tail ++ '\n' :: next) := rfl
  rw [hcons]
  refine yields_token rfl hindent ?_ (by simp) (h.yields_newline false place')
  rw [tokenAt?_doubleQuote hcolumn]
  exact flowScalar?_inBlock ⟨text, _, place', false⟩ hread

theorem yields_literal {text : String} (hescapes : needsEscapes text.toList = false)
    (hne : text.toList ≠ []) (hindent : k < place.column)
    (h : ContinuesAt k outer (.scalar .literal text :: tokens) next out) :
    Yields (inBlock k outer tokens false place (literalHeader text.toList ++ '\n' ::
      (indentLines (k + 2) true text.toList ++ (lineEnd text.toList ++ next)))) out := by
  obtain ⟨j, rest, hj, hrest, rfl, h⟩ := h
  have hcolumn : place.column ≠ 0 := by omega
  have htab : text.toList.head? ≠ some '\t' := fun hhead =>
    absurd (isPrintable_of_needsEscapes hescapes '\t' (List.mem_of_head? hhead)) (by decide)
  obtain ⟨place', hplace, hread⟩ := readBlock?_literal hj hrest hne htab place.next
  rw [String.ofList_toList] at hread
  generalize hafter : (literalHeader text.toList).tail ++ '\n' ::
      (indentLines (k + 2) true text.toList ++ (lineEnd text.toList ++ (spaces j ++ rest))) =
    after at hread
  have hcons : literalHeader text.toList ++ '\n' :: (indentLines (k + 2) true text.toList ++
      (lineEnd text.toList ++ (spaces j ++ rest))) = '|' :: after := by
    rw [← hafter]
    rfl
  have hlength : rest.length ≤ after.length := by
    rw [← hafter]
    simp only [List.length_append, List.length_cons]
    omega
  rw [hcons]
  refine yields_token rfl hindent ?_ hlength (h place' hplace)
  rw [tokenAt?_bar hcolumn rfl]
  have hfolds : (Style.literal == Style.folded) = false := by decide
  simp [blockScalar?, forgetKey?, forget?, inBlock, hfolds, hread, scalar, add]

/-- A text in a style that suits it is read as it is. -/
theorem yields_scalar {style : Style} {text : String} (hwritten : Written style text.toList)
    (hindent : k ≤ place.column)
    (h : ContinuesAt k outer (.scalar style text :: tokens) next out) :
    Yields (inBlock k outer tokens false place (scalarLines (k + 2) style text ++ next)) out := by
  have hindent' : k < place.next.column := Nat.lt_succ_of_le hindent
  generalize hs : text.toList = s at hwritten
  cases hwritten with
  | plain hplain =>
    subst hs
    have hread := yields_space (yields_plain hplain hindent' h)
    simpa [scalarLines, scalarText] using hread
  | singleQuoted hescapes hline hindented =>
    subst hs
    have hread := yields_space (yields_singleQuoted hescapes hline hindented hindent' h)
    simpa [scalarLines, scalarText] using hread
  | doubleQuoted =>
    subst hs
    have hread := yields_space (yields_doubleQuoted hindent' h)
    simpa [scalarLines, scalarText] using hread
  | literal hescapes hne =>
    subst hs
    have hlines : scalarLines (k + 2) .literal text ++ next =
        ' ' :: (literalHeader text.toList ++ '\n' :: (indentLines (k + 2) true text.toList ++
          (lineEnd text.toList ++ next))) := by
      cases hended : text.toList.getLast?.any isBreak <;>
        simp [scalarLines, scalarText, lineEnd, hended]
    rw [hlines]
    exact yields_space (yields_literal hescapes hne hindent' h)

end Scalars

end Scanner

end MentionPrompt.Yaml
