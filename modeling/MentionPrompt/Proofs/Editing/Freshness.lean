import MentionPrompt.Proofs.Editing.History
import MentionPrompt.Proofs.Mention.EveryNode
import MentionPrompt.Proofs.Validation.Dangling

/-!
Pills over a session: what they say about the catalogs is never out of date.

A mention is looked up when the text is loaded, when it is chosen, and when new catalogs come. The
invariant is that each node is the one that the current catalogs give. Main statement: every history
keeps it, so refreshing changes nothing, and the missing mentions are what the validator reports.
-/

namespace MentionPrompt

/-- The catalogs that an action brings. -/
def EditAction.catalogs? : EditAction → Option Snapshot
  | .catalogs steps catalog => some ⟨some steps, catalog⟩
  | .key _ | .typing _ | .select _ | .pick _ => none

/-- The node says what the catalogs say. -/
def Node.IsFresh (now : Snapshot) (node : Node) : Prop := node.refresh now.steps now.catalog = node

namespace Composer

/-- The catalogs of the session as they stand. -/
def now (composer : Composer) : Snapshot := ⟨some composer.steps, composer.catalog⟩

/-- Every node says what the catalogs of the session say. -/
def Fresh (composer : Composer) : Prop := composer.tree.Every (Node.IsFresh composer.now)

theorem isFresh_text (now : Snapshot) (text : String) : (Node.text text).IsFresh now := rfl

theorem isFresh_ofSegment (now : Snapshot) (segment : Segment) :
    (Node.ofSegment segment now.steps now.catalog).IsFresh now := by
  rw [Node.IsFresh, Node.refresh, Node.segment_ofSegment]

theorem fresh_ofSegments (now : Snapshot) (segments : List Segment) :
    (Tree.ofSegments segments now.steps now.catalog).Every (Node.IsFresh now) := by
  intro node hnode
  obtain ⟨segment, -, rfl⟩ := List.mem_map.1 hnode
  exact isFresh_ofSegment now segment

theorem fresh_start (text? : Option String) (steps : List Step) (catalog : List Media)
    (options : CaptureOptions) : (start text? steps catalog options).Fresh := by
  cases text? with
  | none => intro node hnode; cases hnode
  | some text => exact fresh_ofSegments ⟨some steps, catalog⟩ (Segment.parse text)

/-! ### What the operations keep -/

variable {P : Node → Prop} {composer : Composer}

theorem every_editTree (htext : ∀ text, P (.text text)) (h : composer.tree.Every P) (key : Key) :
    (composer.editTree key).Every P := by
  cases key with
  | char c => exact Tree.every_pushText htext h _
  | escape => exact h
  | backspace =>
    have htaken := Tree.every_popChar htext h
    simp only [editTree]
    split
    · rename_i c after hpop
      rwa [hpop] at htaken
    · rename_i after hpop
      rw [hpop] at htaken
      split
      · exact htaken
      · exact Tree.every_popNode htaken

/-- A mention is looked up in the catalogs of the session; the rest of the tree was there before. -/
theorem every_mention (htext : ∀ text, P (.text text)) (h : composer.tree.Every P)
    {insertion : Insertion}
    (hnode : P (.ofReference insertion.kind insertion.identifier (some composer.steps)
      composer.catalog)) : (composer.mention insertion).Every P := by
  have hcleared :
      ((composer.tree.stripSuffix? insertion.replaced).getD composer.tree).Every P := by
    cases hstrip : composer.tree.stripSuffix? insertion.replaced with
    | none => exact h
    | some after => exact Tree.every_stripSuffix? htext h hstrip
  have hplaced := Tree.every_push htext hcleared hnode
  rw [mention]
  split
  · exact Tree.every_pushText htext hplaced " "
  · exact hplaced

theorem fresh_type (h : composer.Fresh) (key : Key) : (composer.type key).2.Fresh :=
  every_editTree (isFresh_text composer.now) h key

theorem fresh_typeText (h : composer.Fresh) (text : String) : (composer.typeText text).Fresh :=
  List.foldlRecOn text.toList _ h fun _ hfresh c _ => fresh_type hfresh (.char c)

theorem fresh_select (h : composer.Fresh) (candidate : Candidate) :
    (composer.select candidate).2.Fresh := by
  rcases composer.select_cases candidate with hnone | ⟨query, -, -, hsome⟩
  · rwa [hnone]
  · rw [hsome]
    exact every_mention (isFresh_text composer.now) h
      (isFresh_ofSegment composer.now (.reference candidate.kind candidate.identifier))

theorem fresh_setCatalogs (composer : Composer) (steps : List Step) (catalog : List Media) :
    (composer.setCatalogs steps catalog).Fresh := by
  rw [Fresh, setCatalogs, Tree.refresh_eq_ofSegments]
  exact fresh_ofSegments ⟨some steps, catalog⟩ composer.tree.segments

/-- Every action keeps the pills fresh. -/
theorem fresh_act (h : composer.Fresh) (action : EditAction) : (composer.act action).Fresh := by
  cases action with
  | key key => exact fresh_type h key
  | typing text => exact fresh_typeText h text
  | select candidate => exact fresh_select h candidate
  | pick index =>
    rcases composer.pick_cases index with hnone | ⟨candidate, -, hselect⟩
    · rwa [act, hnone]
    · rw [act, hselect]
      exact fresh_select h candidate
  | catalogs steps catalog => exact fresh_setCatalogs composer steps catalog

/-- Every history keeps the pills fresh. -/
theorem fresh_run (h : composer.Fresh) (actions : List EditAction) : (composer.run actions).Fresh :=
  List.foldlRecOn actions act h fun _ hfresh action _ => fresh_act hfresh action

/-! ### The catalogs of a session -/

theorem now_typeText (composer : Composer) (text : String) :
    (composer.typeText text).now = composer.now :=
  List.foldlRecOn (motive := fun after : Composer => after.now = composer.now) text.toList _ rfl
    fun _ hsame _ _ => hsame

theorem now_select (composer : Composer) (candidate : Candidate) :
    (composer.select candidate).2.now = composer.now := by
  rcases composer.select_cases candidate with hnone | ⟨query, -, -, hsome⟩
  · rw [hnone]
  · rw [hsome]
    rfl

/-- Only new catalogs replace the catalogs of a session. -/
theorem now_act (composer : Composer) (action : EditAction) :
    (composer.act action).now = action.catalogs?.getD composer.now := by
  cases action with
  | key key => rfl
  | typing text => exact now_typeText composer text
  | select candidate => exact now_select composer candidate
  | pick index =>
    rcases composer.pick_cases index with hnone | ⟨candidate, -, hselect⟩
    · rw [act, hnone]
      rfl
    · rw [act, hselect]
      exact now_select composer candidate
  | catalogs steps catalog => rfl

/-- The catalogs of a session are the last ones that came. -/
theorem now_run (composer : Composer) (actions : List EditAction) :
    (composer.run actions).now
      = (actions.filterMap EditAction.catalogs?).getLastD composer.now := by
  induction actions generalizing composer with
  | nil => rfl
  | cons action actions ih =>
    have hrun : (composer.run (action :: actions)).now
        = (actions.filterMap EditAction.catalogs?).getLastD (composer.act action).now :=
      ih (composer.act action)
    rw [hrun, now_act]
    cases hcatalogs : action.catalogs? with
    | none => rw [List.filterMap_cons_none hcatalogs, Option.getD_none]
    | some now => rw [List.filterMap_cons_some hcatalogs, List.getLastD_cons, Option.getD_some]

/-! ### What fresh pills say -/

theorem refresh_eq_self_of_fresh (h : composer.Fresh) :
    composer.tree.refresh composer.now.steps composer.now.catalog = composer.tree :=
  congrArg Tree.mk ((List.map_congr_left h).trans (List.map_id' _))

/-- Fresh pills are those of a tree that is built from the segments now. -/
theorem tree_eq_ofSegments_of_fresh (h : composer.Fresh) :
    composer.tree
      = Tree.ofSegments composer.tree.segments composer.now.steps composer.now.catalog := by
  rw [← Tree.refresh_eq_ofSegments, refresh_eq_self_of_fresh h]

theorem agrees_of_fresh (h : composer.Fresh) :
    ∀ node ∈ composer.tree.nodes, node.Agrees composer.now := by
  rw [tree_eq_ofSegments_of_fresh h]
  exact fun _ => Tree.agrees_of_mem_ofSegments

/-- The missing mentions of a session are what the check of its segments reports. -/
theorem missingReferences_of_fresh (h : composer.Fresh) :
    composer.tree.missingReferences
      = (Validation.dangling composer.tree.segments composer.steps composer.catalog).map some := by
  rw [Validation.dangling_eq_lacking, ← now, ← Tree.missingReferences_ofSegments,
    ← tree_eq_ofSegments_of_fresh h]

/-- CORRECT: after every history the catalogs of a session are the last ones that came, refreshing
its tree with them changes nothing, and every mention says what they say. So the missing mentions are
the references that a check of the segments reports. New catalogs change neither the text nor what is
being typed. -/
theorem mentions_never_stale (text? : Option String) (steps : List Step) (catalog : List Media)
    (options : CaptureOptions) (actions : List EditAction) :
    let session := (start text? steps catalog options).run actions
    session.now = (actions.filterMap EditAction.catalogs?).getLastD ⟨some steps, catalog⟩ ∧
      session.tree.refresh session.now.steps session.now.catalog = session.tree ∧
      (∀ node ∈ session.tree.nodes, node.Agrees session.now) ∧
      session.tree.missingReferences
        = (Validation.dangling session.tree.segments session.steps session.catalog).map some ∧
      ∀ steps' catalog', (session.setCatalogs steps' catalog').text = session.text ∧
        (session.setCatalogs steps' catalog').capture = session.capture := by
  intro session
  have hfresh : session.Fresh := fresh_run (fresh_start text? steps catalog options) actions
  have hnow : (start text? steps catalog options).now = ⟨some steps, catalog⟩ := by
    cases text? <;> rfl
  refine ⟨?_, refresh_eq_self_of_fresh hfresh, agrees_of_fresh hfresh,
    missingReferences_of_fresh hfresh, fun steps' catalog' => ⟨Tree.text_refresh .., rfl⟩⟩
  rw [← hnow]
  exact now_run _ actions

end Composer

end MentionPrompt
