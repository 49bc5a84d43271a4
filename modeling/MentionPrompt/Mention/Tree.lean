import MentionPrompt.Mention.Node
import MentionPrompt.Segment.Token

/-!
Node trees: a prompt as it is edited, a list of nodes that grows and shrinks at its end.

Text joins the text node at the end, if there is one; a text node that loses its last character goes
away; a mention is taken out as a whole. Main statement: the canonical text is that of the segments,
and building or refreshing a tree does not touch it.
-/

namespace MentionPrompt

/-- A prompt under edit. -/
structure Tree where
  nodes : List Node := []
  deriving DecidableEq, Repr

namespace Tree

/-- The tree without nodes. -/
def empty : Tree := {}

/-- The segments of the tree. -/
def segments (tree : Tree) : List Segment := tree.nodes.map Node.segment

/-- The canonical text of the tree. -/
def text (tree : Tree) : String := Segment.serialize tree.segments

/-- The tree of segments looked up in the catalogs. -/
def ofSegments (segments : List Segment) (steps : Option (List Step)) (catalog : List Media) :
    Tree :=
  ⟨segments.map (Node.ofSegment · steps catalog)⟩

/-- The tree of a canonical text. -/
def ofText (text : String) (steps : Option (List Step)) (catalog : List Media) : Tree :=
  ofSegments (Segment.parse text) steps catalog

/-- The text node at the end: the nodes before it, and its text. -/
def lastText? (tree : Tree) : Option (List Node × String) :=
  match tree.nodes.getLast? with
  | some (.text last) => some (tree.nodes.dropLast, last)
  | _ => none

/-- Ends the nodes with a text, or with nothing if the text is empty. -/
def endingIn (nodes : List Node) (text : String) : Tree :=
  ⟨if text.isEmpty then nodes else nodes ++ [.text text]⟩

/-- Adds text at the end. -/
def pushText (tree : Tree) (text : String) : Tree :=
  match tree.lastText? with
  | some (before, last) => ⟨before ++ [.text (last ++ text)]⟩
  | none => endingIn tree.nodes text

/-- Adds a node at the end. -/
def push (tree : Tree) : Node → Tree
  | .text text => tree.pushText text
  | node => ⟨tree.nodes ++ [node]⟩

/-- Takes the last character of the text at the end, if the tree ends in text. -/
def popChar (tree : Tree) : Option Char × Tree :=
  match tree.lastText? with
  | some (before, last) =>
    (last.toList.getLast?, endingIn before (String.ofList last.toList.dropLast))
  | none => (none, tree)

/-- Takes the last node. -/
def popNode (tree : Tree) : Option Node × Tree := (tree.nodes.getLast?, ⟨tree.nodes.dropLast⟩)

/-- Takes a suffix off the text at the end, if the tree ends in text that ends so. -/
def stripSuffix? (tree : Tree) (ending : String) : Option Tree :=
  match tree.lastText? with
  | some (before, last) =>
    if ending.toList.isSuffixOf last.toList then
      let kept := last.toList.take (last.toList.length - ending.toList.length)
      some (endingIn before (String.ofList kept))
    else none
  | none => none

/-- Looks every mention up afresh. -/
def refresh (tree : Tree) (steps : Option (List Step)) (catalog : List Media) : Tree :=
  ⟨tree.nodes.map (·.refresh steps catalog)⟩

/-- What the nodes look like. -/
def render (tree : Tree) : List Rendered := tree.nodes.map Node.render

/-- The tree on a text line. -/
def line (tree : Tree) : String := String.join (tree.render.map Rendered.display)

/-- The missing mentions with their positions. -/
def missing (tree : Tree) : List (Node × Nat) := tree.nodes.zipIdx.filter fun (node, _) => node.isMissing

@[simp] theorem segments_ofSegments (segments : List Segment) (steps : Option (List Step))
    (catalog : List Media) : (ofSegments segments steps catalog).segments = segments := by
  simp [ofSegments, Tree.segments, Function.comp_def]

@[simp] theorem segments_refresh (tree : Tree) (steps : Option (List Step)) (catalog : List Media) :
    (tree.refresh steps catalog).segments = tree.segments := by
  simp [refresh, Tree.segments, Function.comp_def]

@[simp] theorem text_refresh (tree : Tree) (steps : Option (List Step)) (catalog : List Media) :
    (tree.refresh steps catalog).text = tree.text := by
  simp [text]

end Tree

end MentionPrompt
