import MentionPrompt.Proofs.Yaml.Scalars

/-!
Scanning what is written for a node: it gives the tokens of the node. Main statement:
`scans_of_writable`.
-/

namespace MentionPrompt.Yaml

/-! ### Nodes and their tokens -/

/-- A node that can be written: its scalars have styles that suit them, its mappings have entries
and short words as keys, and its sequences are lists of mappings. -/
inductive Node.Writable : Node → Prop
  | scalar {style : Style} {text : String} (h : Written style text.toList) :
    Writable (.scalar style text)
  | sequence {items : List Node}
    (hmappings : ∀ item ∈ items, ∃ entry entries, item = .mapping (entry :: entries))
    (hitems : ∀ item ∈ items, Writable item) : Writable (.sequence items)
  | mapping {entries : List (Node × Node)} (hne : entries ≠ [])
    (hkeys : ∀ entry ∈ entries, ∃ name, Scanner.IsKey name ∧ entry.1 = .scalar .plain name)
    (hvalues : ∀ entry ∈ entries, Writable entry.2) : Writable (.mapping entries)

mutual

/-- The tokens of a node that is the value of a mapping, or a mapping. -/
def Node.tokens : Node → List Token
  | .scalar style text => [.scalar style text]
  | .sequence [] => [.openSequence, .closeSequence]
  | .sequence items => itemsTokens items
  | .mapping entries => .mappingStart :: entriesTokens entries ++ [.blockEnd]

/-- The tokens of the items of a sequence. -/
def itemsTokens : List Node → List Token
  | [] => []
  | item :: rest => .entry :: item.tokens ++ itemsTokens rest

/-- The tokens of the entries of a mapping. -/
def entriesTokens : List (Node × Node) → List Token
  | [] => []
  | (key, value) :: rest => .key :: key.tokens ++ .value :: value.tokens ++ entriesTokens rest

end

namespace Scanner

/-- A value is scanned as its tokens, wherever it stands after a colon. -/
def ScansValue (node : Node) : Prop :=
  ∀ (k : Nat) (outer : List Int) (tokens out : List Token) (next : List Char) (place : Place),
    k ≤ place.column → ContinuesAt k outer (node.tokens.reverse ++ tokens) next out →
      Yields (inBlock k outer tokens false place (valueText k node ++ next)) out

/-- Entries are scanned as a new mapping, wherever they start beyond the indent. -/
def ScansMapping (entries : List (Node × Node)) : Prop :=
  ∀ (indent : Int) (c : Nat) (outer : List Int) (tokens out : List Token) (next : List Char)
    (place : Place), place.column = c → indent < c →
      ContinuesAt c (indent :: outer) ((entriesTokens entries).reverse ++ .mappingStart :: tokens)
        next out →
        Yields (inBlock indent outer tokens true place (entriesText c [] entries ++ next)) out

theorem gapNext_valueText (k : Nat) (node : Node) (next : List Char) :
    gapNext (valueText k node ++ next) = true := by
  unfold valueText
  split <;> rfl

section Entries

variable {c k : Nat} {outer : List Int} {tokens out : List Token} {next : List Char}

/-- One entry, in a mapping that is open. -/
theorem yields_entryText {name : String} (hname : IsKey name) {value : Node}
    (hvalue : ScansValue value) {place : Place} (hcolumn : place.column = c)
    (h : ContinuesAt c outer
      (value.tokens.reverse ++ .value :: .scalar .plain name :: .key :: tokens) next out) :
    Yields (inBlock c outer tokens true place
      (name.toList ++ ':' :: (valueText c value ++ next))) out := by
  subst hcolumn
  exact yields_key hname (gapNext_valueText _ _ _) (hvalue _ _ _ _ _ _ (Nat.le_add_right _ _) h)

/-- The entries of a mapping that is open. -/
theorem continuesAt_entries {entries : List (Node × Node)}
    (hkeys : ∀ entry ∈ entries, ∃ name, IsKey name ∧ entry.1 = .scalar .plain name)
    (hvalues : ∀ entry ∈ entries, ScansValue entry.2)
    (h : ContinuesAt c outer ((entriesTokens entries).reverse ++ tokens) next out) :
    ContinuesAt c outer tokens (entriesText c (spaces c) entries ++ next) out := by
  induction entries generalizing tokens with
  | nil => simpa [entriesText, entriesTokens] using h
  | cons entry rest ih =>
    obtain ⟨key, value⟩ := entry
    obtain ⟨⟨name, hname, rfl⟩, hkeys'⟩ := List.forall_mem_cons.1 hkeys
    obtain ⟨hvalue, hvalues'⟩ := List.forall_mem_cons.1 hvalues
    have hrest := ih hkeys' hvalues' (by simpa [entriesTokens, Node.tokens] using h)
    refine ⟨c, _, Nat.le_refl c, ?_, ?_, fun place hcolumn =>
      yields_entryText hname hvalue hcolumn hrest⟩
    · exact hname.isPlain.startsContent_append _
    · simp [entriesText, keyText, scalarText]

theorem scansMapping {entries : List (Node × Node)} (hne : entries ≠ [])
    (hkeys : ∀ entry ∈ entries, ∃ name, IsKey name ∧ entry.1 = .scalar .plain name)
    (hvalues : ∀ entry ∈ entries, ScansValue entry.2) : ScansMapping entries := by
  intro indent c outer tokens out next place hcolumn hindent h
  obtain ⟨⟨key, value⟩, rest, rfl⟩ := List.exists_cons_of_ne_nil hne
  obtain ⟨⟨name, hname, rfl⟩, hkeys'⟩ := List.forall_mem_cons.1 hkeys
  obtain ⟨hvalue, hvalues'⟩ := List.forall_mem_cons.1 hvalues
  have hrest := continuesAt_entries hkeys' hvalues' (by simpa [entriesTokens, Node.tokens] using h)
  have hentry := yields_entryText hname hvalue hcolumn hrest
  subst hcolumn
  have hstart := yields_mappingStart hname (gapNext_valueText _ _ _) hindent hentry
  simpa [entriesText, keyText, scalarText] using hstart

/-- The items of a sequence at the indent of the mapping whose value it is. -/
theorem continuesAt_items {items : List Node}
    (hitems : ∀ item ∈ items, ∃ entry entries, item = .mapping (entry :: entries) ∧
      ScansMapping (entry :: entries))
    (h : ContinuesAt k outer ((itemsTokens items).reverse ++ tokens) next out) :
    ContinuesAt k outer tokens (itemsText k (spaces k) items ++ next) out := by
  induction items generalizing tokens with
  | nil => simpa [itemsText, itemsTokens] using h
  | cons item rest ih =>
    obtain ⟨⟨entry, entries, rfl, hscans⟩, hitems'⟩ := List.forall_mem_cons.1 hitems
    have hrest : ContinuesAt (k + 2) (k :: outer)
        ((entriesTokens (entry :: entries)).reverse ++ .mappingStart :: .entry :: tokens)
        (itemsText k (spaces k) rest ++ next) out :=
      .dedent (by omega) (ih hitems' (by simpa [itemsTokens, Node.tokens] using h))
    refine ⟨k, '-' :: ' ' :: (entriesText (k + 2) [] (entry :: entries) ++
      (itemsText k (spaces k) rest ++ next)), Nat.le_refl k, rfl, ?_, fun place hcolumn => ?_⟩
    · simp [itemsText, itemText]
    · have hitem := hscans k (k + 2) outer (.entry :: tokens) out _ place.next.next
        (by simp [Place.next_eq_skip, hcolumn]) (by omega) hrest
      subst hcolumn
      exact yields_entry (yields_space hitem)

end Entries

/-- Every node that can be written is scanned as its tokens. -/
theorem scans_of_writable {node : Node} (h : node.Writable) :
    ScansValue node ∧ ∀ entries, node = .mapping entries → ScansMapping entries := by
  induction h with
  | scalar hwritten =>
    refine ⟨fun k outer tokens out next place hindent h => ?_, by simp⟩
    simpa [valueText] using yields_scalar hwritten hindent h
  | @sequence items hmappings hitems ih =>
    refine ⟨fun k outer tokens out next place hindent h => ?_, by simp⟩
    cases items with
    | nil =>
      have hnext : Yields _ out := h.yields_newline false ((place.skip 1).skip 2)
      exact yields_space (yields_brackets (Nat.succ_ne_zero _) (by
        simp only [Place.next_eq_skip, Place.column_skip]
        omega) hnext)
    | cons item rest =>
      have hscans : ∀ member ∈ item :: rest, ∃ entry entries,
          member = .mapping (entry :: entries) ∧ ScansMapping (entry :: entries) := by
        intro member hmember
        obtain ⟨entry, entries, rfl⟩ := hmappings member hmember
        exact ⟨entry, entries, rfl, (ih _ hmember).2 _ rfl⟩
      have hnext := continuesAt_items hscans (by simpa [Node.tokens] using h)
      simpa [valueText] using hnext.yields_newline false place
  | mapping hne hkeys hvalues ih =>
    have hscans := scansMapping hne hkeys fun entry hentry => (ih entry hentry).1
    refine ⟨fun k outer tokens out next place hindent h => ?_, ?_⟩
    · obtain ⟨entry, rest, rfl⟩ := List.exists_cons_of_ne_nil hne
      have hclosed : ContinuesAt (k + 2) (k :: outer)
          ((entriesTokens (entry :: rest)).reverse ++ .mappingStart :: tokens) next out :=
        .dedent (by omega) (by simpa [Node.tokens] using h)
      have hopened (place' : Place) (hcolumn : place'.column = k + 2) :=
        hscans k (k + 2) outer tokens out next place' hcolumn (by omega) hclosed
      have hvalue := yields_newline false place hopened
      simpa [valueText, entriesText] using hvalue
    · rintro entries ⟨⟩
      exact hscans

end Scanner

end MentionPrompt.Yaml
