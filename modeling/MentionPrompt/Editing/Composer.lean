import MentionPrompt.Editing.Candidate
import MentionPrompt.Mention.Tree
import MentionPrompt.Notice

/-!
An editing session: a tree and a capture that follow the same keystrokes.

Characters go to the end of the tree. Backspace takes the last character, or the mention at the end
as a whole, unless a mention is being typed. Choosing a candidate replaces the typed `@` and query
by a mention, looked up in the session's catalogs.
-/

namespace MentionPrompt

/-- How a session behaves. -/
structure CaptureOptions where
  insertTrailingSpace : Bool := true
  maxCandidates : Option Nat := none
  deriving DecidableEq, Repr

/-- An editing session. -/
structure Composer where
  tree : Tree := .empty
  capture : CaptureState := .idle
  steps : List Step
  catalog : List Media
  options : CaptureOptions := {}
  deriving DecidableEq, Repr

namespace Composer

/-- A session that starts from a canonical text. -/
def ofText (text : String) (steps : List Step) (catalog : List Media) (options : CaptureOptions) :
    Composer :=
  { tree := Tree.ofText text (some steps) catalog, steps, catalog, options }

/-- The canonical text of the session. -/
def text (composer : Composer) : String := composer.tree.text

/-- The session with other catalogs, its mentions looked up afresh. -/
def setCatalogs (composer : Composer) (steps : List Step) (catalog : List Media) : Composer :=
  { composer with steps, catalog, tree := composer.tree.refresh (some steps) catalog }

/-- What a keystroke does to the tree. -/
def editTree (composer : Composer) : Key → Tree
  | .char c => composer.tree.pushText (String.singleton c)
  | .escape => composer.tree
  | .backspace =>
    match composer.tree.popChar with
    | (some _, tree) => tree
    | (none, tree) => if composer.capture.isComposing then tree else tree.popNode.2

/-- A keystroke. -/
def type (composer : Composer) (key : Key) : Transition × Composer :=
  let (transition, capture) := composer.capture.press key
  (transition, { composer with tree := composer.editTree key, capture })

/-- The characters of a text, one keystroke each. -/
def typeText (composer : Composer) (text : String) : Composer :=
  text.toList.foldl (fun composer c => (composer.type (.char c)).2) composer

/-- What the session offers for the query being typed. -/
def candidates (composer : Composer) : List Candidate :=
  match composer.capture.query? with
  | some query =>
    Candidate.search query composer.steps composer.catalog composer.options.maxCandidates
  | none => []

/-- The tree after the typed text gave way to a mention. -/
def mention (composer : Composer) (insertion : Insertion) : Tree :=
  let cleared := (composer.tree.stripSuffix? insertion.replaced).getD composer.tree
  let placed := cleared.push <|
    Node.ofReference insertion.kind insertion.identifier (some composer.steps) composer.catalog
  if composer.options.insertTrailingSpace then placed.pushText " " else placed

/-- Chooses a candidate. One that no token can hold is refused, and the session stays as it is. -/
def select (composer : Composer) (candidate : Candidate) : Option Insertion × Composer :=
  if isIdentifier candidate.identifier then
    match composer.capture.select candidate with
    | (some insertion, capture) =>
      (some insertion, { composer with tree := composer.mention insertion, capture })
    | (none, capture) => (none, { composer with capture })
  else (none, composer)

/-- What choosing a candidate remarks on: an identifier that no token can hold, or typed text that
does not stand at the end of the document. -/
def selectNotices (composer : Composer) (candidate : Candidate) : List Notice :=
  if isIdentifier candidate.identifier then
    match (composer.capture.select candidate).1 with
    | some insertion =>
      if (composer.tree.stripSuffix? insertion.replaced).isSome then []
      else [.unfoundSpan insertion.replaced]
    | none => []
  else [.unwritableIdentifier candidate.identifier]

/-- Chooses the candidate at a position of the current offer. -/
def pick (composer : Composer) (index : Nat) : Option Insertion × Composer :=
  match composer.candidates[index]? with
  | some candidate => composer.select candidate
  | none => (none, composer)

/-- What choosing the candidate at a position remarks on. -/
def pickNotices (composer : Composer) (index : Nat) : List Notice :=
  match composer.candidates[index]? with
  | some candidate => composer.selectNotices candidate
  | none => []

end Composer

end MentionPrompt
