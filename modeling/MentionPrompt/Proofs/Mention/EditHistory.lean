import MentionPrompt.Proofs.Mention.Atoms
import MentionPrompt.Proofs.Mention.Refresh
import MentionPrompt.Proofs.Text.ByteOffset

/-!
Trees over a history of edits at their end.

        edit                      nodes afterwards
        push "Hi "                text "Hi "
        push a mention            text "Hi ", mention
        push the empty text       text "Hi ", mention
        push "x@q"                text "Hi ", mention, text "x@q"
        strip "@q"                text "Hi ", mention, text "x"
        pop a character           text "Hi ", mention
        pop a character           text "Hi ", mention
        pop a node                text "Hi "
        push "!"                  text "Hi !"

Text that is added joins text, and a text node that is emptied goes away. Main statement: so no history
leaves an empty text node or two text nodes in a row, and each edit does to the text just what it says.
-/

namespace MentionPrompt

/-- The node is text. -/
def Node.isText : Node → Bool
  | .text _ => true
  | .step _ _ | .media _ _ _ => false

/-- One edit of a tree. -/
inductive TreeEdit where
  | push (node : Node)
  | pushText (text : String)
  | popChar
  | popNode
  | stripSuffix (ending : String)
  | refresh (now : Snapshot)
  deriving DecidableEq, Repr

namespace Tree

open Segment (Merged)

/-- A new tree, without nodes or of a canonical text. -/
def start (text? : Option String) (now : Snapshot) : Tree :=
  match text? with
  | none => empty
  | some text => ofText text now.steps now.catalog

/-- The tree after one edit. -/
def edit (tree : Tree) : TreeEdit → Tree
  | .push node => tree.push node
  | .pushText text => tree.pushText text
  | .popChar => tree.popChar.2
  | .popNode => tree.popNode.2
  | .stripSuffix ending => (tree.stripSuffix? ending).getD tree
  | .refresh now => tree.refresh now.steps now.catalog

/-- The tree after a history of edits. -/
def editAll (tree : Tree) (edits : List TreeEdit) : Tree := edits.foldl edit tree

/-! ### The normal form -/

/-- No text node is empty, and no two neighbours are text. -/
structure Normal (tree : Tree) : Prop where
  text_ne_empty : ∀ text, .text text ∈ tree.nodes → text ≠ ""
  apart : tree.nodes.IsChain fun a b => (a.isText && b.isText) = false

theorem isLiteral_segment (node : Node) : Segment.isLiteral node.segment = node.isText := by
  cases node <;> rfl

theorem segment_eq_literal_iff {node : Node} {text : String} :
    node.segment = .literal text ↔ node = .text text := by
  cases node <;> simp [Node.segment]

/-- A tree is in normal form exactly if its segments are merged. -/
theorem normal_iff_merged {tree : Tree} : tree.Normal ↔ Merged tree.segments := by
  have htext (text : String) : .literal text ∈ tree.segments ↔ .text text ∈ tree.nodes := by
    simp [segments, segment_eq_literal_iff]
  have hchain : (tree.segments.IsChain fun a b => (a.isLiteral && b.isLiteral) = false) ↔
      tree.nodes.IsChain fun a b => (a.isText && b.isText) = false := by
    simp only [segments, List.isChain_map, isLiteral_segment]
  constructor
  · rintro ⟨hne, hapart⟩
    exact ⟨fun text hmem => hne text ((htext text).1 hmem), hchain.2 hapart⟩
  · rintro ⟨hne, hapart⟩
    exact ⟨fun text hmem => hne text ((htext text).2 hmem), hchain.1 hapart⟩

theorem normal_start (text? : Option String) (now : Snapshot) : (start text? now).Normal := by
  rw [normal_iff_merged]
  cases text? with
  | none => exact Segment.merged_nil
  | some text =>
    rw [start, ofText, segments_ofSegments]
    exact (Segment.normal_parse text).merged

theorem merged_stripSuffix? {tree after : Tree} {ending : String} (hm : Merged tree.segments)
    (h : tree.stripSuffix? ending = some after) : Merged after.segments := by
  unfold stripSuffix? at h
  split at h
  · rename_i before last hlast
    obtain ⟨hbefore, hclosed, -⟩ := merged_of_lastText? hm hlast
    split at h
    · rw [← Option.some.inj h]
      exact merged_endingIn _ hbefore hclosed
    · cases h
  · cases h

/-- Every edit keeps the normal form. -/
theorem normal_edit {tree : Tree} (h : tree.Normal) (edit : TreeEdit) :
    (tree.edit edit).Normal := by
  rw [normal_iff_merged] at h ⊢
  cases edit with
  | push node => exact merged_push node h
  | pushText text => exact merged_pushText text h
  | popChar =>
    rw [Tree.edit]
    rcases popChar_spec h with ⟨c, after, hpop, -, hmerged⟩ | ⟨hpop, -⟩
    · rwa [hpop]
    · rwa [hpop]
  | popNode => exact merged_popNode h
  | stripSuffix ending =>
    rw [Tree.edit]
    cases hstrip : tree.stripSuffix? ending with
    | none => exact h
    | some after => exact merged_stripSuffix? h hstrip
  | refresh now =>
    rw [Tree.edit, segments_refresh]
    exact h

/-- Every history keeps the normal form. -/
theorem normal_editAll {tree : Tree} (h : tree.Normal) (edits : List TreeEdit) :
    (tree.editAll edits).Normal := by
  induction edits generalizing tree with
  | nil => exact h
  | cons edit edits ih => exact ih (normal_edit h edit)

/-! ### What an edit does to the text -/

theorem text_mk_append (a b : List Node) : text ⟨a ++ b⟩ = text ⟨a⟩ ++ text ⟨b⟩ := by
  rw [← String.toList_inj, String.toList_append]
  simp only [toList_text, atoms_mk_append, List.flatMap_append]

theorem text_mk_concat (before : List Node) (node : Node) :
    text ⟨before ++ [node]⟩ = text ⟨before⟩ ++ node.exportText := by
  rw [text_mk_append, ← exportText_nodes ⟨[node]⟩]
  simp

theorem text_endingIn (nodes : List Node) (ending : String) :
    (endingIn nodes ending).text = text ⟨nodes⟩ ++ ending := by
  rw [← String.toList_inj, String.toList_append]
  simp only [toList_text, atoms_endingIn, List.flatMap_append, Segment.Atom.chars_map_char]

theorem text_pushText (tree : Tree) (added : String) :
    (tree.pushText added).text = tree.text ++ added := by
  rw [← String.toList_inj, String.toList_append]
  simp only [toList_text, atoms_pushText, List.flatMap_append, Segment.Atom.chars_map_char]

theorem text_push (tree : Tree) (node : Node) :
    (tree.push node).text = tree.text ++ node.exportText := by
  rw [← String.toList_inj, String.toList_append]
  simp only [toList_text, atoms_push, List.flatMap_append, Segment.chars_toAtoms, Node.exportText]

/-! ### Which nodes an edit keeps -/

/-- The tree ends in a text node. -/
def EndsInText (tree : Tree) : Prop := ∃ before last, tree.nodes = before ++ [.text last]

theorem endsInText_iff {tree : Tree} : tree.EndsInText ↔ ∃ found, tree.lastText? = some found := by
  constructor
  · rintro ⟨before, last, h⟩
    exact ⟨(before, last), lastText?_eq_some_iff.2 h⟩
  · rintro ⟨⟨before, last⟩, h⟩
    exact ⟨before, last, lastText?_eq_some_iff.1 h⟩

theorem dropLast_prefix_pushText (tree : Tree) (added : String) :
    tree.nodes.dropLast <+: (tree.pushText added).nodes := by
  unfold pushText
  split
  · rename_i before last hlast
    rw [lastText?_eq_some_iff.1 hlast, List.dropLast_concat]
    exact List.prefix_append _ _
  · refine (List.dropLast_prefix _).trans ?_
    unfold endingIn
    split
    · exact List.prefix_refl _
    · exact List.prefix_append _ _

theorem dropLast_prefix_push (tree : Tree) (node : Node) :
    tree.nodes.dropLast <+: (tree.push node).nodes := by
  have hconcat : tree.nodes.dropLast <+: tree.nodes ++ [node] :=
    (List.dropLast_prefix _).trans (List.prefix_append _ _)
  cases node with
  | text text => exact dropLast_prefix_pushText tree text
  | step stepName missing => exact hconcat
  | media mediaId cachedName missing => exact hconcat

theorem popChar_concat (before : List Node) (kept : String) (c : Char) :
    popChar ⟨before ++ [.text (kept.push c)]⟩ = (some c, endingIn before kept) := by
  have hlast := lastText?_eq_some_iff.2 (rfl : nodes ⟨before ++ [.text (kept.push c)]⟩ = _)
  simp [popChar, hlast]

theorem stripSuffix?_concat (before : List Node) (kept ending : String) :
    stripSuffix? ⟨before ++ [.text (kept ++ ending)]⟩ ending = some (endingIn before kept) := by
  have hlast := lastText?_eq_some_iff.2 (rfl : nodes ⟨before ++ [.text (kept ++ ending)]⟩ = _)
  simp [stripSuffix?, hlast]

theorem stripSuffix?_eq_none {tree : Tree} {ending : String}
    (h : ∀ before kept, tree.nodes ≠ before ++ [.text (kept ++ ending)]) :
    tree.stripSuffix? ending = none := by
  unfold stripSuffix?
  split
  · rename_i before last hlast
    split
    · rename_i hsuffix
      obtain ⟨kept, hkept⟩ := List.isSuffixOf_iff_suffix.1 hsuffix
      refine absurd (lastText?_eq_some_iff.1 hlast) ?_
      rw [← String.ofList_toList (s := last), ← hkept, String.ofList_append, String.ofList_toList]
      exact h before (.ofList kept)
    · rfl
  · rfl

theorem refresh_eq_text_iff {node : Node} {now : Snapshot} {text : String} :
    node.refresh now.steps now.catalog = .text text ↔ node = .text text := by
  rw [← segment_eq_literal_iff, Node.segment_refresh, segment_eq_literal_iff]

/-- What the edits do: the text that each adds or takes at the end, when it leaves the tree alone, and
the nodes that it keeps. A suffix is taken by counting bytes, and the cut is never inside a
character. -/
structure EditsAtEnd (tree : Tree) : Prop where
  push (node : Node) :
    (tree.push node).text = tree.text ++ node.exportText ∧
      tree.nodes.dropLast <+: (tree.push node).nodes
  pushText (added : String) :
    (tree.pushText added).text = tree.text ++ added ∧
      tree.nodes.dropLast <+: (tree.pushText added).nodes
  popChar :
    (∃ before kept c, tree.nodes = before ++ [.text (kept.push c)] ∧
      tree.popChar = (some c, endingIn before kept) ∧
      tree.text = (endingIn before kept).text.push c) ∨
    (¬ tree.EndsInText ∧ tree.popChar = (none, tree))
  popNode :
    (∃ before node, tree.nodes = before ++ [node] ∧ tree.popNode = (some node, ⟨before⟩) ∧
      tree.text = text ⟨before⟩ ++ node.exportText) ∨
    (tree.nodes = [] ∧ tree.popNode = (none, tree))
  stripSuffix (ending : String) :
    (∃ before kept, tree.nodes = before ++ [.text (kept ++ ending)] ∧
      tree.stripSuffix? ending = some (endingIn before kept) ∧
      tree.text = (endingIn before kept).text ++ ending ∧
      Text.cut? (kept ++ ending) 0 ((kept ++ ending).utf8ByteSize - ending.utf8ByteSize)
        = some kept) ∨
    ((∀ before kept, tree.nodes ≠ before ++ [.text (kept ++ ending)]) ∧
      tree.stripSuffix? ending = none ∧ tree.edit (.stripSuffix ending) = tree)
  refresh (now : Snapshot) :
    (tree.edit (.refresh now)).text = tree.text ∧
      (tree.edit (.refresh now)).nodes.length = tree.nodes.length ∧
      ∀ (index : Nat) (text : String), (tree.edit (.refresh now)).nodes[index]? = some (.text text) ↔
        tree.nodes[index]? = some (.text text)

theorem exists_push_of_ne_empty {text : String} (h : text ≠ "") :
    ∃ kept c, text = String.push kept c := by
  obtain ⟨init, c, hchars⟩ := (List.eq_nil_or_concat text.toList).resolve_left (by simpa using h)
  exact ⟨.ofList init, c, by simp [← String.toList_inj, hchars]⟩

theorem editsAtEnd_of_normal {tree : Tree} (h : tree.Normal) : tree.EditsAtEnd where
  push node := ⟨text_push tree node, dropLast_prefix_push tree node⟩
  pushText added := ⟨text_pushText tree added, dropLast_prefix_pushText tree added⟩
  popChar := by
    by_cases hends : tree.EndsInText
    · obtain ⟨before, last, hnodes⟩ := hends
      -- in normal form the text at the end is not empty, so it has a last character to give
      have hlast : last ≠ "" := h.text_ne_empty last (by simp [hnodes])
      obtain ⟨kept, c, rfl⟩ := exists_push_of_ne_empty hlast
      obtain rfl : tree = ⟨before ++ [.text (kept.push c)]⟩ := congrArg Tree.mk hnodes
      refine .inl ⟨before, kept, c, rfl, popChar_concat before kept c, ?_⟩
      rw [text_mk_concat, text_endingIn]
      show text ⟨before⟩ ++ kept.push c = (text ⟨before⟩ ++ kept).push c
      simp only [String.push_eq_append, String.append_assoc]
    · have hnone : tree.lastText? = none :=
        Option.eq_none_iff_forall_ne_some.2 fun found hfound =>
          hends (endsInText_iff.2 ⟨found, hfound⟩)
      exact .inr ⟨hends, by simp [Tree.popChar, hnone]⟩
  popNode := by
    rcases List.eq_nil_or_concat tree.nodes with hnil | ⟨before, node, hnodes⟩
    · obtain rfl : tree = ⟨[]⟩ := congrArg Tree.mk hnil
      exact .inr ⟨rfl, rfl⟩
    · rw [List.concat_eq_append] at hnodes
      obtain rfl : tree = ⟨before ++ [node]⟩ := congrArg Tree.mk hnodes
      exact .inl ⟨before, node, rfl, by simp [Tree.popNode], text_mk_concat before node⟩
  stripSuffix ending := by
    by_cases hends : ∃ before kept, tree.nodes = before ++ [.text (kept ++ ending)]
    · obtain ⟨before, kept, hnodes⟩ := hends
      obtain rfl : tree = ⟨before ++ [.text (kept ++ ending)]⟩ := congrArg Tree.mk hnodes
      refine .inl ⟨before, kept, rfl, stripSuffix?_concat before kept ending, ?_,
        Text.cut?_before kept ending⟩
      rw [text_mk_concat, text_endingIn, String.append_assoc]
      rfl
    · have hother (before : List Node) (kept : String) :
          tree.nodes ≠ before ++ [.text (kept ++ ending)] :=
        fun hnodes => hends ⟨before, kept, hnodes⟩
      have hnone := stripSuffix?_eq_none hother
      exact .inr ⟨hother, hnone, by rw [edit, hnone, Option.getD_none]⟩
  refresh now := by
    refine ⟨text_refresh .., by simp [edit, Tree.refresh], fun index text => ?_⟩
    rw [edit, Tree.refresh, List.getElem?_map, Option.map_eq_some_iff]
    simp only [refresh_eq_text_iff, exists_eq_right]

/-- CORRECT: whatever the edits since it was new, a tree has no empty text node and no two text nodes
in a row. Each further edit adds or takes exactly what it says at the end of the canonical text, takes
nothing where the end is no such text, and leaves every node before the last one as it is; looking the
mentions up afresh changes neither the text nor a text node. -/
theorem normal_and_edited_at_end (text? : Option String) (now : Snapshot)
    (edits : List TreeEdit) :
    ((start text? now).editAll edits).Normal ∧ ((start text? now).editAll edits).EditsAtEnd := by
  have hnormal := normal_editAll (normal_start text? now) edits
  exact ⟨hnormal, editsAtEnd_of_normal hnormal⟩

/-- The history at the head of this module. -/
example :
    ((start none {}).editAll [.pushText "Hi ", .push (.step "a" false), .push (.text ""),
      .pushText "x@q", .stripSuffix "@q", .popChar, .popChar, .popNode, .pushText "!"]).nodes
      = [.text "Hi !"] := by
  decide +kernel

end Tree

end MentionPrompt
