import MentionPrompt.Mention.Tree
import MentionPrompt.Proofs.Segment.Atoms

/-!
Editing at the end of a tree, seen as a list of atoms.

Main statements: each operation on the end of a tree adds or removes exactly the atoms it names, and
keeps the segments merged. What makes this work is that in a merged tree all characters behind the
last mention are in one text node, so a typed run is a suffix of that node's text.
-/

namespace MentionPrompt.Tree

open Segment (flatten isLiteral Merged)

/-- The atoms of the tree: one for each character of its text, one for each mention. -/
def atoms (tree : Tree) : List Atom := flatten tree.segments

theorem toList_text (tree : Tree) : tree.text.toList = tree.atoms.flatMap Atom.chars :=
  (Segment.chars_flatten tree.segments).symm

@[simp] theorem atoms_refresh (tree : Tree) (steps : Option (List Step)) (catalog : List Media) :
    (tree.refresh steps catalog).atoms = tree.atoms := by
  rw [atoms, segments_refresh, atoms]

@[simp] theorem segments_mk_append (a b : List Node) :
    segments ⟨a ++ b⟩ = segments ⟨a⟩ ++ segments ⟨b⟩ := List.map_append

@[simp] theorem atoms_mk_append (a b : List Node) : atoms ⟨a ++ b⟩ = atoms ⟨a⟩ ++ atoms ⟨b⟩ := by
  simp [atoms]

@[simp] theorem atoms_mk_singleton (node : Node) : atoms ⟨[node]⟩ = node.segment.toAtoms := by
  simp [atoms, segments]

/-- The nodes do not end in text. -/
def Closed (nodes : List Node) : Prop := ∀ node ∈ nodes.getLast?, isLiteral node.segment = false

theorem closed_concat {nodes : List Node} {node : Node} :
    Closed (nodes ++ [node]) ↔ isLiteral node.segment = false := by
  simp [Closed]

/-- Behind nodes that do not end in text, any merged segments may follow. -/
theorem merged_mk_append {a b : List Node} (ha : Merged (segments ⟨a⟩)) (hb : Merged (segments ⟨b⟩))
    (h : Closed a) : Merged (segments ⟨a ++ b⟩) := by
  rw [segments_mk_append]
  refine Segment.merged_append.2 ⟨ha, hb, fun x hx y _ => ?_⟩
  rw [segments, List.getLast?_map] at hx
  obtain ⟨node, hnode, rfl⟩ := Option.map_eq_some_iff.1 hx
  rw [h node hnode, Bool.false_and]

theorem merged_mk_text {text : String} (h : text ≠ "") : Merged (segments ⟨[.text text]⟩) :=
  Segment.merged_literal h

/-! ### The text node at the end -/

theorem lastText?_eq_some_iff {tree : Tree} {before : List Node} {last : String} :
    tree.lastText? = some (before, last) ↔ tree.nodes = before ++ [.text last] := by
  constructor
  · intro h
    unfold lastText? at h
    split at h
    · rename_i last' hlast
      obtain ⟨ys, hnodes⟩ := List.getLast?_eq_some_iff.1 hlast
      rw [hnodes, List.dropLast_concat] at h
      cases h
      exact hnodes
    · cases h
  · intro h
    simp [lastText?, h]

theorem lastText?_eq_none_iff {tree : Tree} : tree.lastText? = none ↔ Closed tree.nodes := by
  constructor
  · intro h node hnode
    obtain ⟨ys, hnodes⟩ := List.getLast?_eq_some_iff.1 hnode
    cases node with
    | text last => rw [lastText?_eq_some_iff.2 hnodes] at h; cases h
    | step stepName missing => rfl
    | media mediaId cachedName missing => rfl
  · intro h
    refine Option.eq_none_iff_forall_ne_some.2 fun found hfound => ?_
    rw [Closed, lastText?_eq_some_iff.1 hfound] at h
    exact absurd (h _ List.getLast?_concat) (by simp [Node.segment, isLiteral])

theorem eq_of_lastText? {tree : Tree} {before : List Node} {last : String}
    (h : tree.lastText? = some (before, last)) : tree = ⟨before ++ [.text last]⟩ := by
  rw [← lastText?_eq_some_iff.1 h]

theorem atoms_of_lastText? {tree : Tree} {before : List Node} {last : String}
    (h : tree.lastText? = some (before, last)) :
    tree.atoms = atoms ⟨before⟩ ++ last.toList.map .char := by
  rw [eq_of_lastText? h, atoms_mk_append, atoms_mk_singleton]
  rfl

/-- In a merged tree the text at the end is not empty, and no text stands right before it. -/
theorem merged_of_lastText? {tree : Tree} {before : List Node} {last : String}
    (hm : Merged tree.segments) (h : tree.lastText? = some (before, last)) :
    Merged (segments ⟨before⟩) ∧ Closed before ∧ last ≠ "" := by
  rw [eq_of_lastText? h, segments_mk_append] at hm
  obtain ⟨hbefore, hlast, hsep⟩ := Segment.merged_append.1 hm
  have hmem : Segment.literal last ∈ segments ⟨[.text last]⟩ := List.mem_singleton.2 rfl
  refine ⟨hbefore, fun node hnode => ?_, hlast.literal_ne_empty last hmem⟩
  have hx : node.segment ∈ (segments ⟨before⟩).getLast? := by
    rw [segments, List.getLast?_map]
    exact Option.mem_map_of_mem _ hnode
  simpa [Node.segment, isLiteral] using hsep _ hx _ rfl

/-- The atoms of nodes that do not end in text do not end in a character. -/
theorem atoms_ne_concat_char {nodes : List Node} (h : Closed nodes) (list : List Atom) (c : Char) :
    atoms ⟨nodes⟩ ≠ list ++ [.char c] := by
  intro heq
  rcases List.eq_nil_or_concat nodes with rfl | ⟨before, node, rfl⟩
  · simp [atoms, segments] at heq
  · rw [List.concat_eq_append] at h heq
    rw [closed_concat] at h
    obtain ⟨kind, identifier, hsegment⟩ := Segment.eq_reference_of_isLiteral_eq_false h
    rw [atoms_mk_append, atoms_mk_singleton, hsegment, Segment.toAtoms] at heq
    simpa using List.append_inj_right' heq rfl

/-- A run of characters at the end of a merged tree is a suffix of its last text node. -/
theorem lastText?_of_atoms {tree : Tree} (hm : Merged tree.segments) {front : List Atom}
    {run : List Char} (hne : run ≠ []) (h : tree.atoms = front ++ run.map .char) :
    ∃ before last, tree.lastText? = some (before, last) ∧ run <:+ last.toList := by
  cases hlast : tree.lastText? with
  | none =>
    obtain ⟨init, c, rfl⟩ := (List.eq_nil_or_concat run).resolve_left hne
    rw [List.concat_eq_append, List.map_append, ← List.append_assoc] at h
    exact absurd h (atoms_ne_concat_char (lastText?_eq_none_iff.1 hlast) _ c)
  | some found =>
    obtain ⟨before, last⟩ := found
    refine ⟨before, last, rfl, ?_⟩
    rw [atoms_of_lastText? hlast] at h
    rcases List.append_eq_append_iff.1 h with ⟨rest, -, hchars⟩ | ⟨rest, hbefore, hchars⟩
    · obtain ⟨l₁, l₂, hsplit, -, hrun⟩ := List.map_eq_append_iff.1 hchars
      rw [Segment.map_char_injective hrun] at hsplit
      exact ⟨l₁, hsplit.symm⟩
    · -- The run would reach over the start of the node, so the nodes before would end in text.
      obtain ⟨r₁, r₂, hsplit, hrest, hrun⟩ := List.map_eq_append_iff.1 hchars
      rw [Segment.map_char_injective hrun] at hsplit
      rcases List.eq_nil_or_concat r₁ with rfl | ⟨init, c, rfl⟩
      · exact hsplit ▸ List.suffix_refl _
      · rw [← hrest, List.concat_eq_append, List.map_append, ← List.append_assoc] at hbefore
        exact absurd hbefore (atoms_ne_concat_char (merged_of_lastText? hm hlast).2.1 _ c)

/-! ### Operations -/

theorem atoms_endingIn (nodes : List Node) (text : String) :
    (endingIn nodes text).atoms = atoms ⟨nodes⟩ ++ text.toList.map .char := by
  unfold endingIn
  split
  · simp_all
  · rw [atoms_mk_append, atoms_mk_singleton]
    rfl

theorem merged_endingIn {nodes : List Node} (text : String) (hm : Merged (segments ⟨nodes⟩))
    (h : Closed nodes) : Merged (endingIn nodes text).segments := by
  unfold endingIn
  split
  · exact hm
  · exact merged_mk_append hm (merged_mk_text (by simp_all)) h

theorem atoms_pushText (tree : Tree) (text : String) :
    (tree.pushText text).atoms = tree.atoms ++ text.toList.map .char := by
  unfold pushText
  split
  · rename_i before last hlast
    rw [atoms_of_lastText? hlast, atoms_mk_append, atoms_mk_singleton]
    simp [Node.segment, Segment.toAtoms]
  · exact atoms_endingIn tree.nodes text

theorem merged_pushText {tree : Tree} (text : String) (hm : Merged tree.segments) :
    Merged (tree.pushText text).segments := by
  unfold pushText
  split
  · rename_i before last hlast
    obtain ⟨hbefore, hclosed, hne⟩ := merged_of_lastText? hm hlast
    exact merged_mk_append hbefore (merged_mk_text (by simp [hne])) hclosed
  · rename_i hlast
    exact merged_endingIn text hm (lastText?_eq_none_iff.1 hlast)

theorem push_reference {tree : Tree} {node : Node} (h : isLiteral node.segment = false) :
    tree.push node = ⟨tree.nodes ++ [node]⟩ := by
  cases node with
  | text text => simp [Node.segment, isLiteral] at h
  | step stepName missing => rfl
  | media mediaId cachedName missing => rfl

theorem atoms_push (tree : Tree) (node : Node) :
    (tree.push node).atoms = tree.atoms ++ node.segment.toAtoms := by
  cases node with
  | text text => exact atoms_pushText tree text
  | step stepName missing => rw [push_reference rfl, atoms_mk_append, atoms_mk_singleton]
  | media mediaId cachedName missing => rw [push_reference rfl, atoms_mk_append, atoms_mk_singleton]

theorem merged_concat_reference {tree : Tree} {node : Node} (hm : Merged tree.segments)
    (h : isLiteral node.segment = false) : Merged (segments ⟨tree.nodes ++ [node]⟩) := by
  obtain ⟨kind, identifier, hsegment⟩ := Segment.eq_reference_of_isLiteral_eq_false h
  have hnode : Merged [node.segment] := hsegment ▸ Segment.merged_reference kind identifier
  rw [segments_mk_append]
  exact Segment.merged_append.2 ⟨hm, hnode, by simp [segments, h]⟩

theorem merged_push {tree : Tree} (node : Node) (hm : Merged tree.segments) :
    Merged (tree.push node).segments := by
  cases node with
  | text text => exact merged_pushText text hm
  | step stepName missing => exact merged_concat_reference hm rfl
  | media mediaId cachedName missing => exact merged_concat_reference hm rfl

/-- Taking a character takes the last atom when that is a character; else nothing happens. -/
theorem popChar_spec {tree : Tree} (hm : Merged tree.segments) :
    (∃ c after, tree.popChar = (some c, after) ∧ tree.atoms = after.atoms ++ [.char c] ∧
      Merged after.segments) ∨
    (tree.popChar = (none, tree) ∧ Closed tree.nodes) := by
  cases hlast : tree.lastText? with
  | none => exact .inr ⟨by simp [popChar, hlast], lastText?_eq_none_iff.1 hlast⟩
  | some found =>
    obtain ⟨before, last⟩ := found
    obtain ⟨hbefore, hclosed, hne⟩ := merged_of_lastText? hm hlast
    have hchars : last.toList ≠ [] := by simpa using hne
    obtain ⟨init, c, hchars⟩ := (List.eq_nil_or_concat last.toList).resolve_left hchars
    rw [List.concat_eq_append] at hchars
    refine .inl ⟨c, endingIn before (String.ofList init), by simp [popChar, hlast, hchars], ?_,
      merged_endingIn _ hbefore hclosed⟩
    rw [atoms_of_lastText? hlast, atoms_endingIn, hchars]
    simp

/-- Taking the last node of a tree that does not end in text takes the last atom. -/
theorem atoms_popNode {tree : Tree} (h : Closed tree.nodes) :
    tree.popNode.2.atoms = tree.atoms.dropLast := by
  obtain ⟨nodes⟩ := tree
  rcases List.eq_nil_or_concat nodes with rfl | ⟨before, node, rfl⟩
  · rfl
  · rw [List.concat_eq_append] at h ⊢
    rw [closed_concat] at h
    obtain ⟨kind, identifier, hsegment⟩ := Segment.eq_reference_of_isLiteral_eq_false h
    simp [popNode, hsegment, Segment.toAtoms]

theorem merged_popNode {tree : Tree} (hm : Merged tree.segments) :
    Merged tree.popNode.2.segments := by
  obtain ⟨nodes⟩ := tree
  rcases List.eq_nil_or_concat nodes with rfl | ⟨before, node, rfl⟩
  · exact hm
  · rw [List.concat_eq_append, segments_mk_append] at hm
    simpa [popNode] using (Segment.merged_append.1 hm).1

/-- A run of characters at the end of the atoms of a merged tree can be stripped off. -/
theorem stripSuffix?_of_atoms {tree : Tree} (hm : Merged tree.segments) {front : List Atom}
    {ending : String} (hne : ending ≠ "") (h : tree.atoms = front ++ ending.toList.map .char) :
    ∃ after, tree.stripSuffix? ending = some after ∧ after.atoms = front ∧
      Merged after.segments := by
  obtain ⟨before, last, hlast, kept, hkept⟩ := lastText?_of_atoms hm (by simpa using hne) h
  obtain ⟨hbefore, hclosed, -⟩ := merged_of_lastText? hm hlast
  refine ⟨endingIn before (String.ofList kept), by simp [stripSuffix?, hlast, ← hkept], ?_,
    merged_endingIn _ hbefore hclosed⟩
  rw [atoms_of_lastText? hlast, ← hkept, List.map_append, ← List.append_assoc] at h
  rw [atoms_endingIn, String.toList_ofList]
  exact List.append_cancel_right h

end MentionPrompt.Tree
