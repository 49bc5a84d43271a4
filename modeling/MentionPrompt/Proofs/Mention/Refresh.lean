import MentionPrompt.Mention.Tree
import MentionPrompt.Proofs.Catalog.Snapshot
import MentionPrompt.Proofs.Segment.NormalForm

/-!
Trees over a history of catalogs.

Entries of the catalogs are renamed, removed and added while a prompt is under edit, and the tree is
refreshed each time. Main statement: after any number of refreshes the tree is the one that is built
from its text and the last catalogs alone, and its text is still the one that it was built from.
-/

namespace MentionPrompt

/-! ### One node -/

/-- The name that a mention keeps to show; only media have one. -/
def Snapshot.name? (now : Snapshot) : RefKind → String → Option String
  | .step, _ => none
  | .media, mediaId => (Media.find? now.catalog mediaId).map Media.effectiveName

namespace Node

/-- A mention says just what the catalogs say: whether it is missing, and which name it keeps. -/
def Agrees (now : Snapshot) (node : Node) : Prop :=
  match node.segment with
  | .literal _ => True
  | .reference kind identifier =>
    (node.isMissing = true ↔ now.Lacks kind identifier) ∧
      node.cachedName? = now.name? kind identifier

theorem isMissing_ofReference (now : Snapshot) (kind : RefKind) (identifier : String) :
    (ofReference kind identifier now.steps now.catalog).isMissing = true ↔
      now.Lacks kind identifier := by
  cases kind with
  | step =>
    cases hsteps : now.steps <;>
      simp [ofReference, ofStep, isMissing, Snapshot.Lacks, hsteps, ← Step.isSome_find?]
  | media =>
    cases hentry : Media.find? now.catalog identifier <;>
      simp [ofReference, ofMedia, isMissing, Snapshot.Lacks, hentry, ← Media.isSome_find?]

theorem cachedName?_ofReference (now : Snapshot) (kind : RefKind) (identifier : String) :
    (ofReference kind identifier now.steps now.catalog).cachedName? = now.name? kind identifier := by
  cases kind with
  | step => rfl
  | media =>
    cases hentry : Media.find? now.catalog identifier <;>
      simp [ofReference, ofMedia, cachedName?, Snapshot.name?, hentry]

theorem agrees_ofSegment (segment : Segment) (now : Snapshot) :
    (ofSegment segment now.steps now.catalog).Agrees now := by
  rw [Agrees, segment_ofSegment]
  cases segment with
  | literal text => trivial
  | reference kind identifier =>
    exact ⟨isMissing_ofReference now kind identifier, cachedName?_ofReference now kind identifier⟩

end Node

/-! ### Histories -/

namespace Tree

/-- The tree after a history of catalogs, refreshed with each of them in turn. -/
def refreshAll (tree : Tree) (history : List Snapshot) : Tree :=
  history.foldl (fun tree now => tree.refresh now.steps now.catalog) tree

theorem text_ofText (text : String) (steps : Option (List Step)) (catalog : List Media) :
    (ofText text steps catalog).text = text := by
  rw [Tree.text, ofText, segments_ofSegments, Segment.serialize_parse]

theorem exportText_nodes (tree : Tree) :
    String.join (tree.nodes.map Node.exportText) = tree.text := by
  rw [Tree.text, Segment.serialize, Tree.segments, List.map_map]
  rfl

/-- Refreshing forgets all about the nodes but their segments. -/
theorem refresh_eq_ofSegments (tree : Tree) (steps : Option (List Step)) (catalog : List Media) :
    tree.refresh steps catalog = ofSegments tree.segments steps catalog := by
  rw [refresh, ofSegments, Tree.segments, List.map_map]
  rfl

theorem refresh_refresh (tree : Tree) (before now : Snapshot) :
    (tree.refresh before.steps before.catalog).refresh now.steps now.catalog
      = tree.refresh now.steps now.catalog := by
  rw [refresh_eq_ofSegments, segments_refresh, refresh_eq_ofSegments]

theorem refresh_ofText (text : String) (before now : Snapshot) :
    (ofText text before.steps before.catalog).refresh now.steps now.catalog
      = ofText text now.steps now.catalog := by
  rw [refresh_eq_ofSegments, ofText, segments_ofSegments, ofText]

theorem agrees_of_mem_ofSegments {segments : List Segment} {now : Snapshot} {node : Node}
    (h : node ∈ (ofSegments segments now.steps now.catalog).nodes) : node.Agrees now := by
  obtain ⟨segment, -, rfl⟩ := List.mem_map.1 h
  exact Node.agrees_ofSegment segment now

/-- Whatever came before, only the last catalogs count. -/
theorem refreshAll_ofText (text : String) (first : Snapshot) (later : List Snapshot) :
    (ofText text first.steps first.catalog).refreshAll later
      = ofText text (later.getLastD first).steps (later.getLastD first).catalog := by
  induction later generalizing first with
  | nil => rfl
  | cons now later ih =>
    rw [refreshAll, List.foldl_cons, refresh_ofText, List.getLastD_cons]
    exact ih now

/-- CORRECT: after a history of catalogs the tree is that of its text and the last catalogs, every
mention says what these say, and the text is the one that the tree was built from. A refresh does as
much for any tree, whatever its mentions said before. -/
theorem only_last_catalogs_count (text : String) (first : Snapshot) (later : List Snapshot) :
    let last := later.getLastD first
    let tree := (ofText text first.steps first.catalog).refreshAll later
    (tree = ofText text last.steps last.catalog ∧ (∀ node ∈ tree.nodes, node.Agrees last) ∧
        tree.segments = Segment.parse text ∧ tree.text = text ∧
        String.join (tree.nodes.map Node.exportText) = text) ∧
      ∀ (any : Tree) (before now : Snapshot),
        let fresh := any.refresh now.steps now.catalog
        (∀ node ∈ fresh.nodes, node.Agrees now) ∧ fresh.text = any.text ∧
          fresh.refresh now.steps now.catalog = fresh ∧
          (any.refresh before.steps before.catalog).refresh now.steps now.catalog = fresh := by
  intro last tree
  have htree : tree = ofText text last.steps last.catalog := refreshAll_ofText text first later
  have htext : tree.text = text := by rw [htree, text_ofText]
  refine ⟨⟨htree, fun node hnode => ?_, ?_, htext, ?_⟩, ?_⟩
  · rw [htree] at hnode
    exact agrees_of_mem_ofSegments hnode
  · rw [htree, ofText, segments_ofSegments]
  · rw [exportText_nodes, htext]
  · intro any before now
    refine ⟨fun node hnode => ?_, text_refresh .., refresh_refresh .., refresh_refresh ..⟩
    rw [refresh_eq_ofSegments] at hnode
    exact agrees_of_mem_ofSegments hnode

end Tree

end MentionPrompt
