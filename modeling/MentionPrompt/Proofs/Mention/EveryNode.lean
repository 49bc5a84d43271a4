import MentionPrompt.Proofs.Mention.Atoms

/-!
What holds of every node of a tree.

An operation on the end of a tree adds text, adds one node, or takes something away. Main statement:
what is true of every text stays true of every node, as long as it is true of the nodes that are
added.
-/

namespace MentionPrompt.Tree

/-- Every node of the tree has the property. -/
def Every (P : Node → Prop) (tree : Tree) : Prop := ∀ node ∈ tree.nodes, P node

variable {P : Node → Prop} {tree : Tree}

theorem every_append {a b : List Node} : Every P ⟨a ++ b⟩ ↔ Every P ⟨a⟩ ∧ Every P ⟨b⟩ :=
  List.forall_mem_append

theorem every_singleton {node : Node} : Every P ⟨[node]⟩ ↔ P node := List.forall_mem_singleton

theorem every_of_lastText? {before : List Node} {last : String} (h : tree.Every P)
    (hlast : tree.lastText? = some (before, last)) : Every P ⟨before⟩ := by
  rw [eq_of_lastText? hlast] at h
  exact (every_append.1 h).1

theorem every_endingIn (htext : ∀ text, P (.text text)) {nodes : List Node} (h : Every P ⟨nodes⟩)
    (text : String) : (endingIn nodes text).Every P := by
  unfold endingIn
  split
  · exact h
  · exact every_append.2 ⟨h, every_singleton.2 (htext text)⟩

theorem every_pushText (htext : ∀ text, P (.text text)) (h : tree.Every P) (text : String) :
    (tree.pushText text).Every P := by
  unfold pushText
  split
  · rename_i before last hlast
    exact every_append.2 ⟨every_of_lastText? h hlast, every_singleton.2 (htext _)⟩
  · exact every_endingIn htext h text

theorem every_push (htext : ∀ text, P (.text text)) (h : tree.Every P) {node : Node}
    (hnode : P node) : (tree.push node).Every P := by
  cases node with
  | text text => exact every_pushText htext h text
  | step stepName missing => exact every_append.2 ⟨h, every_singleton.2 hnode⟩
  | media mediaId cachedName missing => exact every_append.2 ⟨h, every_singleton.2 hnode⟩

theorem every_popChar (htext : ∀ text, P (.text text)) (h : tree.Every P) :
    tree.popChar.2.Every P := by
  unfold popChar
  split
  · rename_i before last hlast
    exact every_endingIn htext (every_of_lastText? h hlast) _
  · exact h

theorem every_popNode (h : tree.Every P) : tree.popNode.2.Every P :=
  fun node hnode => h node (List.dropLast_subset _ hnode)

theorem every_stripSuffix? (htext : ∀ text, P (.text text)) (h : tree.Every P) {ending : String}
    {after : Tree} (hstrip : tree.stripSuffix? ending = some after) : after.Every P := by
  unfold stripSuffix? at hstrip
  split at hstrip
  · rename_i before last hlast
    split at hstrip
    · rw [← Option.some.inj hstrip]
      exact every_endingIn htext (every_of_lastText? h hlast) _
    · cases hstrip
  · cases hstrip

/-- No mention is missing exactly if none of the nodes is marked so. -/
theorem missing_eq_nil_iff : tree.missing = [] ↔ tree.Every fun node => node.isMissing = false := by
  rw [missing, List.filter_eq_nil_iff]
  constructor
  · intro h node hnode
    obtain ⟨index, hindex⟩ := List.mem_iff_getElem?.1 hnode
    simpa using h (node, index) (List.mem_zipIdx_iff_getElem?.2 hindex)
  · rintro h ⟨node, index⟩ hmem
    simpa using h node (List.mem_of_getElem? (List.mem_zipIdx_iff_getElem?.1 hmem))

end MentionPrompt.Tree
