import MentionPrompt.Proofs.Yaml.Printing
import MentionPrompt.Yaml.Document

/-!
Parsing the tokens of a node: they make up the node. Main statement: `read?_write`, every document
that is written is read back.

Each function takes one step for each call and at most three calls for each token, so fuel for three
times the tokens is enough.
-/

namespace MentionPrompt.Yaml

/-- The tokens are parsed as the node, where a sequence may stand at the mapping's own indent. What
follows must not be taken for one more item. -/
def ParsesValue (node : Node) : Prop :=
  ∀ fuel suffix, 3 * node.tokens.length + 2 ≤ fuel → suffix.head? ≠ some .entry →
    node? fuel true true (node.tokens ++ suffix) = some (node, suffix)

/-- The tokens are parsed as the mapping, wherever it stands. -/
def ParsesMapping (entries : List (Node × Node)) : Prop :=
  ∀ fuel indentless suffix, 3 * (Node.mapping entries).tokens.length + 2 ≤ fuel →
    node? fuel true indentless ((Node.mapping entries).tokens ++ suffix) =
      some (.mapping entries, suffix)

/-- A node starts with a token that leaves no part of a mapping out. -/
theorem blockPart?_tokens {node : Node} (h : node.Writable) (fuel : Nat) (suffix : List Token) :
    blockPart? (fuel + 1) (node.tokens ++ suffix) =
      node? fuel true true (node.tokens ++ suffix) := by
  cases h with
  | scalar => rfl
  | @sequence items => cases items <;> rfl
  | mapping => rfl

theorem blockItems?_itemsTokens {items : List Node}
    (hitems : ∀ item ∈ items, ∃ entries, item = .mapping entries ∧ ParsesMapping entries)
    {fuel : Nat} (hfuel : 3 * (itemsTokens items).length + 1 ≤ fuel) {suffix : List Token}
    (hsuffix : suffix.head? ≠ some .entry) :
    blockItems? fuel (itemsTokens items ++ suffix) = some (items, suffix) := by
  induction items generalizing fuel with
  | nil =>
    obtain ⟨fuel, rfl⟩ := Nat.exists_eq_add_of_le' (show 1 ≤ fuel by omega)
    cases suffix with
    | nil => rfl
    | cons token rest => cases token <;> first | rfl | exact absurd rfl hsuffix
  | cons item rest ih =>
    obtain ⟨fuel, rfl⟩ := Nat.exists_eq_add_of_le' (show 1 ≤ fuel by omega)
    obtain ⟨⟨entries, rfl, hparses⟩, hrest⟩ := List.forall_mem_cons.1 hitems
    rw [itemsTokens] at hfuel ⊢
    simp only [List.length_append, List.length_cons] at hfuel
    have hitem := hparses fuel false (itemsTokens rest ++ suffix) (by omega)
    have hends : endsEntry ((Node.mapping entries).tokens ++ (itemsTokens rest ++ suffix))
        = false := rfl
    have hrests := ih hrest (show 3 * (itemsTokens rest).length + 1 ≤ fuel by omega)
    simp [blockItems?, hends, hitem, hrests]

theorem blockEntries?_entriesTokens {entries : List (Node × Node)}
    (hkeys : ∀ entry ∈ entries, ∃ name, Scanner.IsKey name ∧ entry.1 = .scalar .plain name)
    (hvalues : ∀ entry ∈ entries, entry.2.Writable ∧ ParsesValue entry.2) {fuel : Nat}
    (hfuel : 3 * (entriesTokens entries).length + 1 ≤ fuel) (suffix : List Token) :
    blockEntries? fuel (entriesTokens entries ++ .blockEnd :: suffix) = some (entries, suffix) := by
  induction entries generalizing fuel with
  | nil =>
    obtain ⟨fuel, rfl⟩ := Nat.exists_eq_add_of_le' (show 1 ≤ fuel by omega)
    rfl
  | cons entry rest ih =>
    obtain ⟨key, value⟩ := entry
    obtain ⟨⟨name, -, rfl⟩, hkeys'⟩ := List.forall_mem_cons.1 hkeys
    obtain ⟨hvalue, hvalues'⟩ := List.forall_mem_cons.1 hvalues
    obtain ⟨hwritable, hparses⟩ : value.Writable ∧ ParsesValue value := hvalue
    simp only [entriesTokens, Node.tokens, List.length_append, List.length_cons] at hfuel
    obtain ⟨fuel, rfl⟩ := Nat.exists_eq_add_of_le' (show 3 ≤ fuel by omega)
    have hnext : (entriesTokens rest ++ .blockEnd :: suffix).head? ≠ some .entry := by
      cases rest <;> simp [entriesTokens]
    have hpart := (blockPart?_tokens hwritable (fuel + 1) _).trans
      (hparses (fuel + 1) (entriesTokens rest ++ .blockEnd :: suffix) (by omega) hnext)
    have hrest := ih hkeys' hvalues' (show 3 * (entriesTokens rest).length + 1 ≤ fuel + 2 by omega)
    have hkey : blockPart? (fuel + 2) (.scalar .plain name :: .value ::
        (value.tokens ++ (entriesTokens rest ++ .blockEnd :: suffix))) =
      some (.scalar .plain name, .value ::
        (value.tokens ++ (entriesTokens rest ++ .blockEnd :: suffix))) := rfl
    have htokens : entriesTokens ((.scalar .plain name, value) :: rest) ++ .blockEnd :: suffix =
        .key :: .scalar .plain name :: .value ::
          (value.tokens ++ (entriesTokens rest ++ .blockEnd :: suffix)) := by
      simp [entriesTokens, Node.tokens]
    rw [htokens, blockEntries?, hkey]
    simp only [Option.bind_eq_bind, Option.bind_some, hpart, hrest]
    rfl

theorem parses_of_writable {node : Node} (h : node.Writable) :
    ParsesValue node ∧ ∀ entries, node = .mapping entries → ParsesMapping entries := by
  induction h with
  | scalar =>
    refine ⟨fun fuel suffix hfuel _ => ?_, by simp⟩
    obtain ⟨fuel, rfl⟩ := Nat.exists_eq_add_of_le' (show 1 ≤ fuel by omega)
    rfl
  | @sequence items hmappings hitems ih =>
    refine ⟨fun fuel suffix hfuel hsuffix => ?_, by simp⟩
    obtain ⟨fuel, rfl⟩ := Nat.exists_eq_add_of_le' (show 2 ≤ fuel by omega)
    cases items with
    | nil => rfl
    | cons item rest =>
      have hparses : ∀ member ∈ item :: rest, ∃ entries, member = .mapping entries ∧
          ParsesMapping entries := by
        intro member hmember
        obtain ⟨entry, entries, rfl⟩ := hmappings member hmember
        exact ⟨entry :: entries, rfl, (ih _ hmember).2 _ rfl⟩
      have hread := blockItems?_itemsTokens hparses
        (show 3 * (itemsTokens (item :: rest)).length + 1 ≤ fuel + 1 by
          simp only [Node.tokens] at hfuel
          omega) hsuffix
      have htokens : (Node.sequence (item :: rest)).tokens = itemsTokens (item :: rest) := by
        simp [Node.tokens]
      rw [htokens]
      rw [itemsTokens, List.cons_append, List.cons_append] at hread ⊢
      rw [node?, if_pos rfl, hread]
      rfl
  | @mapping entries hne hkeys hvalues ih =>
    have hmapping : ParsesMapping entries := by
      intro fuel indentless suffix hfuel
      obtain ⟨fuel, rfl⟩ := Nat.exists_eq_add_of_le' (show 1 ≤ fuel by omega)
      simp only [Node.tokens, List.length_append, List.length_cons] at hfuel
      have hread := blockEntries?_entriesTokens hkeys
        (fun entry hentry => ⟨hvalues entry hentry, (ih entry hentry).1⟩)
        (show 3 * (entriesTokens entries).length + 1 ≤ fuel by omega) suffix
      simp [Node.tokens, node?, hread]
    refine ⟨fun fuel suffix hfuel _ => hmapping fuel true suffix hfuel, ?_⟩
    rintro entries ⟨⟩
    exact hmapping

/-- Every document that is written is read back. -/
theorem read?_write {entries : List (Node × Node)} (h : (Node.mapping entries).Writable) :
    read? (write (.mapping entries)) = some (.mapping entries) := by
  have hparses := (parses_of_writable h).2 entries rfl
    (3 * (Node.mapping entries).tokens.length + 3) false [] (by omega)
  have hroot : root? (Node.mapping entries).tokens = some (.mapping entries, []) := by
    rw [List.append_nil] at hparses
    rw [← hparses]
    rfl
  simp [read?, tokens?_write h, hroot]

end MentionPrompt.Yaml
