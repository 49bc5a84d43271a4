import MentionPrompt.Proofs.Yaml.Nodes

/-!
The characters of a document: all that is written can be shown, so that nothing in it is refused and
no line break is turned into another. Main statement: `tokens?_write`, the tokens of a document.
-/

namespace MentionPrompt.Yaml

theorem isPermitted_of_isPrintable {c : Char} (h : isPrintable c = true) :
    isPermitted c = true := by
  simp only [isPrintable, isPermitted, Bool.or_eq_true] at h ⊢
  tauto

/-- Among what can be shown the line feed is the only line break that has more than one spelling. -/
theorem unifyBreaks_of_isPrintable {s : List Char} (h : ∀ c ∈ s, isPrintable c = true) :
    unifyBreaks s = s := by
  induction s with
  | nil => rfl
  | cons c s ih =>
    have hc : isPrintable c = true := h c (by simp)
    have hreturn : c ≠ '\r' := by
      rintro rfl
      exact absurd hc (by decide)
    have hnext : c ≠ '\u0085' := by
      rintro rfl
      exact absurd hc (by decide)
    rw [unifyBreaks, ih fun d hd => h d (by simp [hd])]
    all_goals simp [hreturn, hnext]

/-! ### Scalars -/

theorem isPrintable_spaces {n : Nat} : ∀ c ∈ spaces n, isPrintable c = true := by
  intro c hc
  rw [List.eq_of_mem_replicate hc]
  decide

theorem isPrintable_indentLines {indent : Nat} {atStart : Bool} {s : List Char}
    (h : ∀ c ∈ s, isPrintable c = true) :
    ∀ c ∈ indentLines indent atStart s, isPrintable c = true := by
  induction s generalizing atStart with
  | nil => simp [indentLines]
  | cons c s ih =>
    obtain ⟨hc, hs⟩ := List.forall_mem_cons.1 h
    cases hbreak : isBreak c with
    | true =>
      rw [indentLines_break hbreak]
      exact List.forall_mem_cons.2 ⟨hc, ih hs⟩
    | false =>
      rw [indentLines_word hbreak]
      refine List.forall_mem_append.2 ⟨?_, List.forall_mem_cons.2 ⟨hc, ih hs⟩⟩
      split_ifs
      · exact isPrintable_spaces
      · simp

theorem isPrintable_capitalHex (width n : Nat) :
    ∀ c ∈ capitalHex width n, isPrintable c = true := by
  have hdigit : ∀ m < 16, isPrintable (Number.hexDigit m).toUpper = true := by decide
  rw [capitalHex, List.forall_mem_map]
  induction width generalizing n with
  | zero => simp [Number.hex]
  | succ width ih =>
    rw [Number.hex]
    exact List.forall_mem_append.2
      ⟨ih _, List.forall_mem_singleton.2 (hdigit _ (Nat.mod_lt n (by decide)))⟩

theorem isPrintable_escapeChar (c : Char) : ∀ d ∈ escapeChar c, isPrintable d = true := by
  have hslash : isPrintable '\\' = true := by decide
  have hhex (letter : Char) (hletter : isPrintable letter = true) (width : Nat) :
      ∀ d ∈ '\\' :: letter :: capitalHex width c.toNat, isPrintable d = true :=
    List.forall_mem_cons.2
      ⟨hslash, List.forall_mem_cons.2 ⟨hletter, isPrintable_capitalHex width c.toNat⟩⟩
  unfold escapeChar
  split
  · rename_i h
    simp only [Bool.and_eq_true] at h
    exact List.forall_mem_singleton.2 h.1.1.1
  cases hletter : escapeLetter? c with
  | some letter => simp [hslash, (escapeLetter?_spec hletter).2.1]
  | none =>
    dsimp only
    split_ifs
    · exact hhex 'x' (by decide) 2
    · exact hhex 'u' (by decide) 4
    · exact hhex 'U' (by decide) 8

theorem isPrintable_quoted {c : Char} (h : isPrintable c = true) :
    ∀ d ∈ quoted c, isPrintable d = true := by
  unfold quoted
  split_ifs
  · exact List.all_eq_true.1 (by decide)
  · simpa using h

theorem isPrintable_literalHeader (s : List Char) :
    ∀ c ∈ literalHeader s, isPrintable c = true := by
  have hsign : ∀ c ∈ chompingSign s, isPrintable c = true := by
    unfold chompingSign
    cases s.reverse with
    | nil => exact List.all_eq_true.1 (by decide)
    | cons c before => dsimp only; split_ifs <;> exact List.all_eq_true.1 (by decide)
  unfold literalHeader
  refine List.forall_mem_cons.2 ⟨by decide, List.forall_mem_append.2 ⟨?_, hsign⟩⟩
  split_ifs <;> exact List.all_eq_true.1 (by decide)

/-- What is written for a text in a style that suits it can be shown. -/
theorem isPrintable_scalarText {style : Style} {text : String}
    (hwritten : Written style text.toList) (indent : Nat) :
    ∀ c ∈ (scalarText indent style text).1, isPrintable c = true := by
  generalize hs : text.toList = s at hwritten
  cases hwritten with
  | plain hplain => simpa [scalarText, hs] using hplain.printable
  | singleQuoted hescapes =>
    have htext : ∀ c ∈ s.flatMap quoted, isPrintable c = true := by
      simp only [List.mem_flatMap]
      rintro d ⟨c, hc, hd⟩
      exact isPrintable_quoted (isPrintable_of_needsEscapes hescapes c hc) d hd
    subst hs
    refine List.forall_mem_cons.2 ⟨by decide, isPrintable_indentLines ?_⟩
    exact List.forall_mem_append.2 ⟨htext, List.all_eq_true.1 (by decide)⟩
  | doubleQuoted =>
    subst hs
    refine List.forall_mem_cons.2
      ⟨by decide, List.forall_mem_append.2 ⟨?_, List.all_eq_true.1 (by decide)⟩⟩
    simp only [List.mem_flatMap]
    rintro d ⟨c, -, hd⟩
    exact isPrintable_escapeChar c d hd
  | literal hescapes =>
    subst hs
    refine List.forall_mem_append.2
      ⟨isPrintable_literalHeader _, List.forall_mem_cons.2 ⟨by decide, ?_⟩⟩
    exact isPrintable_indentLines (isPrintable_of_needsEscapes hescapes)

theorem isPrintable_scalarLines {style : Style} {text : String}
    (hwritten : Written style text.toList) (indent : Nat) :
    ∀ c ∈ scalarLines indent style text, isPrintable c = true := by
  refine List.forall_mem_cons.2 ⟨by decide, List.forall_mem_append.2
    ⟨isPrintable_scalarText hwritten indent, ?_⟩⟩
  split_ifs <;> exact List.all_eq_true.1 (by decide)

/-! ### Nodes -/

/-- What is written for the node can be shown, wherever it stands. -/
def Node.Printed (node : Node) : Prop :=
  ∀ k, (∀ c ∈ valueText k node, isPrintable c = true) ∧ ∀ c ∈ itemText k node, isPrintable c = true

theorem isPrintable_itemsText {items : List Node} (hitems : ∀ item ∈ items, item.Printed) (k : Nat)
    {lead : List Char} (hlead : ∀ c ∈ lead, isPrintable c = true) :
    ∀ c ∈ itemsText k lead items, isPrintable c = true := by
  induction items generalizing lead with
  | nil => simp [itemsText]
  | cons item rest ih =>
    obtain ⟨hitem, hrest⟩ := List.forall_mem_cons.1 hitems
    rw [itemsText]
    exact List.forall_mem_append.2
      ⟨List.forall_mem_append.2 ⟨hlead, List.forall_mem_cons.2 ⟨by decide, (hitem k).2⟩⟩,
        ih hrest isPrintable_spaces⟩

theorem isPrintable_entriesText {entries : List (Node × Node)}
    (hkeys : ∀ entry ∈ entries, ∃ name, Scanner.IsKey name ∧ entry.1 = .scalar .plain name)
    (hvalues : ∀ entry ∈ entries, entry.2.Printed) (k : Nat) {lead : List Char}
    (hlead : ∀ c ∈ lead, isPrintable c = true) :
    ∀ c ∈ entriesText k lead entries, isPrintable c = true := by
  induction entries generalizing lead with
  | nil => simp [entriesText]
  | cons entry rest ih =>
    obtain ⟨key, value⟩ := entry
    obtain ⟨⟨name, hname, rfl⟩, hkeys'⟩ := List.forall_mem_cons.1 hkeys
    obtain ⟨hvalue, hvalues'⟩ := List.forall_mem_cons.1 hvalues
    have hkey : ∀ c ∈ keyText (.scalar .plain name), isPrintable c = true := by
      simpa [keyText] using isPrintable_scalarText (.plain hname.isPlain) 0
    rw [entriesText]
    exact List.forall_mem_append.2
      ⟨List.forall_mem_append.2 ⟨List.forall_mem_append.2 ⟨hlead, hkey⟩,
        List.forall_mem_cons.2 ⟨by decide, (hvalue k).1⟩⟩, ih hkeys' hvalues' isPrintable_spaces⟩

theorem printed_of_writable {node : Node} (h : node.Writable) : node.Printed := by
  have hnil : ∀ c ∈ ([] : List Char), isPrintable c = true := List.forall_mem_nil _
  induction h with
  | scalar hwritten =>
    intro k
    simpa [valueText, itemText] using isPrintable_scalarLines hwritten (k + 2)
  | @sequence items hmappings hitems ih =>
    intro k
    cases items with
    | nil =>
      simp only [valueText, itemText]
      exact ⟨List.all_eq_true.1 (by decide), List.all_eq_true.1 (by decide)⟩
    | cons item rest =>
      rw [valueText, itemText]
      · exact ⟨List.forall_mem_cons.2 ⟨by decide, isPrintable_itemsText ih k isPrintable_spaces⟩,
          List.forall_mem_cons.2 ⟨by decide, isPrintable_itemsText ih (k + 2) hnil⟩⟩
      all_goals simp
  | @mapping entries hne hkeys hvalues ih =>
    intro k
    obtain ⟨entry, rest, rfl⟩ := List.exists_cons_of_ne_nil hne
    rw [valueText, itemText]
    · exact ⟨List.forall_mem_cons.2
          ⟨by decide, isPrintable_entriesText hkeys ih (k + 2) isPrintable_spaces⟩,
        List.forall_mem_cons.2 ⟨by decide, isPrintable_entriesText hkeys ih (k + 2) hnil⟩⟩
    all_goals simp

/-! ### Documents -/

theorem write_mapping {entries : List (Node × Node)} (hne : entries ≠ []) :
    (write (.mapping entries)).toList = entriesText 0 [] entries := by
  obtain ⟨entry, rest, rfl⟩ := List.exists_cons_of_ne_nil hne
  rw [write, String.toList_ofList]

/-- The tokens of a document whose root is a mapping. -/
theorem tokens?_write {entries : List (Node × Node)} (h : (Node.mapping entries).Writable) :
    tokens? (write (.mapping entries)) = some (Node.mapping entries).tokens := by
  cases h with
  | mapping hne hkeys hvalues =>
    have hprint : ∀ c ∈ entriesText 0 [] entries, isPrintable c = true :=
      isPrintable_entriesText hkeys
        (fun entry hentry => printed_of_writable (hvalues entry hentry)) 0 (List.forall_mem_nil _)
    have hscans : Scanner.ScansMapping entries :=
      (Scanner.scans_of_writable (.mapping hne hkeys hvalues)).2 entries rfl
    have hyields := hscans (-1) 0 [] [] _ [] {} rfl (by decide) (Scanner.continuesAt_end _)
    rw [List.append_nil] at hyields
    obtain ⟨s, hrun, htokens⟩ := hyields _ (Nat.lt_succ_self _)
    have hpermitted : (entriesText 0 [] entries).all isPermitted = true :=
      List.all_eq_true.2 fun c hc => isPermitted_of_isPrintable (hprint c hc)
    rw [tokens?, write_mapping hne]
    split
    · rename_i rest hbom
      exact absurd (hprint '\uFEFF' (by simp [hbom])) (by decide)
    · rw [if_pos hpermitted, unifyBreaks_of_isPrintable hprint]
      simp only [Scanner.inBlock] at hrun
      simp [hrun, htokens, Node.tokens]

end MentionPrompt.Yaml
