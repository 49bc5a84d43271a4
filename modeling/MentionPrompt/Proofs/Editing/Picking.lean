import MentionPrompt.Proofs.Editing.Freshness
import MentionPrompt.Proofs.Editing.Reload
import MentionPrompt.Proofs.Editing.Stack

/-!
Picking a candidate by its position in the offer.

What is offered can be written and is in the catalogs of the session. Main statements: a pick inserts
a mention exactly when something is offered at its position, and this mention is found in the
catalogs and shown as it was offered. So a session that starts without missing mentions and inserts
by picks alone never comes to have one.
-/

namespace MentionPrompt

open Segment (HasToken parse)

/-! ### What is offered -/

theorem Candidate.mem_offers_of_mem_search {query : String} {steps : List Step}
    {catalog : List Media} {limit : Option Nat} {candidate : Candidate}
    (h : candidate ∈ search query steps catalog limit) : candidate ∈ offers steps catalog := by
  cases limit with
  | none => exact List.mem_of_mem_filter h
  | some limit => exact List.mem_of_mem_filter (List.mem_of_mem_take h)

/-- The candidate is made of an entry of the catalogs. -/
inductive Snapshot.Offers (now : Snapshot) : Candidate → Prop where
  | step {steps : List Step} {step : Step} (hsteps : now.steps = some steps) (hstep : step ∈ steps) :
    now.Offers step.candidate
  | media {entry : Media} (hentry : entry ∈ now.catalog) : now.Offers entry.candidate

namespace Composer

variable {composer : Composer} {candidate : Candidate} {index : Nat}

theorem offers_of_mem_candidates (h : candidate ∈ composer.candidates) :
    isIdentifier candidate.identifier = true ∧ composer.now.Offers candidate := by
  unfold candidates at h
  split at h
  · obtain ⟨hmem, hid⟩ := List.mem_filter.1 (Candidate.mem_offers_of_mem_search h)
    refine ⟨hid, ?_⟩
    rcases List.mem_append.1 hmem with hmem | hmem
    · obtain ⟨step, hstep, rfl⟩ := List.mem_map.1 hmem
      exact .step rfl hstep
    · obtain ⟨entry, hentry, rfl⟩ := List.mem_map.1 hmem
      exact .media hentry
  · cases h

/-- Something is offered only while a mention is being typed. -/
theorem isComposing_of_mem_candidates (h : candidate ∈ composer.candidates) :
    composer.capture.isComposing = true := by
  unfold candidates at h
  split at h
  · rename_i query hquery
    rw [CaptureState.isComposing, hquery, Option.isSome_some]
  · cases h

/-- Picking remarks on nothing. -/
theorem pickNotices_eq_nil (h : composer.Coherent) (index : Nat) :
    composer.pickNotices index = [] := by
  unfold pickNotices
  split
  · rename_i candidate hcandidate
    have hmem := List.mem_of_getElem? hcandidate
    rw [selectNotices_eq h, if_pos (offers_of_mem_candidates hmem).1]
  · rfl

/-! ### The mention of a candidate -/

/-- The mention that the session makes, looked up in its catalogs. -/
def mentionOf (composer : Composer) (kind : RefKind) (identifier : String) : Node :=
  .ofReference kind identifier (some composer.steps) composer.catalog

theorem isMissing_mentionOf (h : composer.now.Offers candidate) :
    (composer.mentionOf candidate.kind candidate.identifier).isMissing = false := by
  rw [Bool.eq_false_iff, Ne, mentionOf]
  refine (Node.isMissing_ofReference composer.now candidate.kind candidate.identifier).not.2 ?_
  cases h with
  | step hsteps hstep =>
    rintro ⟨steps, hsome, hlacks⟩
    rw [Option.mem_def, hsteps] at hsome
    cases hsome
    exact hlacks (List.mem_map_of_mem hstep)
  | media hentry => exact fun hlacks => hlacks (List.mem_map_of_mem hentry)

/-- The mention is shown as it was offered, if for a medium its id is not that of another one. -/
theorem render_mentionOf (h : composer.now.Offers candidate)
    (hids : candidate.kind = .media → (composer.catalog.map Media.mediaId).Nodup) :
    (composer.mentionOf candidate.kind candidate.identifier).render
      = .pill ⟨candidate.kind, candidate.label, false⟩ := by
  have hmissing := isMissing_mentionOf h
  cases h with
  | @step steps step hsteps hstep =>
    change (Node.ofStep step.stepName (some composer.steps)).isMissing = false at hmissing
    change (Node.ofStep step.stepName (some composer.steps)).render = _
    rw [Node.ofStep, Node.isMissing] at hmissing
    rw [Node.ofStep, hmissing]
    rfl
  | @media entry hentry =>
    change (Node.ofMedia entry.mediaId composer.catalog).render = _
    rw [Node.ofMedia, Media.find?_eq_of_nodup (hids rfl) hentry]
    rfl

/-! ### A pick -/

theorem isSome_pick_iff :
    (composer.pick index).1.isSome = true ↔
      composer.capture.isComposing = true ∧ index < composer.candidates.length := by
  unfold pick
  cases hcandidate : composer.candidates[index]? with
  | none => simpa using fun _ => List.getElem?_eq_none_iff.1 hcandidate
  | some candidate =>
    have hmem := List.mem_of_getElem? hcandidate
    have hindex := (List.getElem?_eq_some_iff.1 hcandidate).1
    have hcomposing := isComposing_of_mem_candidates hmem
    simp only [isSome_select, (offers_of_mem_candidates hmem).1, hcomposing, hindex, Bool.and_self,
      and_self]

/-- The blank behind a mention, if the session puts one there. -/
def gap (composer : Composer) : List Node :=
  if composer.options.insertTrailingSpace then [.text " "] else []

theorem nodes_mention (insertion : Insertion) {cleared : Tree}
    (hstrip : composer.tree.stripSuffix? insertion.replaced = some cleared) :
    (composer.mention insertion).nodes
      = cleared.nodes ++ composer.mentionOf insertion.kind insertion.identifier :: composer.gap := by
  have hliteral : Segment.isLiteral
      (composer.mentionOf insertion.kind insertion.identifier).segment = false := by
    rw [mentionOf, segment_ofReference]
    rfl
  rw [mention, hstrip, Option.getD_some, gap, ← mentionOf]
  generalize composer.mentionOf insertion.kind insertion.identifier = node at hliteral ⊢
  have hlast : Tree.lastText? ⟨cleared.nodes ++ [node]⟩ = none :=
    Tree.lastText?_eq_none_iff.2 (Tree.closed_concat.2 hliteral)
  rw [Tree.push_reference hliteral]
  split
  · -- The mention ends the nodes, so the blank becomes a node of its own.
    rw [Tree.pushText, hlast]
    simp [Tree.endingIn]
  · rfl

/-- The candidate is inserted: the text that was typed for it gives way to its mention, which is not
missing, and is shown as it was offered if its id is not that of another medium. -/
structure Inserts (composer : Composer) (candidate : Candidate) (insertion : Insertion)
    (after : Composer) : Prop where
  kind : insertion.kind = candidate.kind
  identifier : insertion.identifier = candidate.identifier
  nodes : ∃ cleared, composer.tree.stripSuffix? insertion.replaced = some cleared ∧
    after.tree.nodes
      = cleared.nodes ++ composer.mentionOf candidate.kind candidate.identifier :: composer.gap
  segment : (composer.mentionOf candidate.kind candidate.identifier).segment
    = .reference candidate.kind candidate.identifier
  found : (composer.mentionOf candidate.kind candidate.identifier).isMissing = false
  shown : (candidate.kind = .media → (composer.catalog.map Media.mediaId).Nodup) →
    (composer.mentionOf candidate.kind candidate.identifier).render
      = .pill ⟨candidate.kind, candidate.label, false⟩

theorem inserts_of_select (h : composer.Coherent) (hoffer : composer.now.Offers candidate)
    {insertion : Insertion} (hsome : (composer.select candidate).1 = some insertion) :
    composer.Inserts candidate insertion (composer.select candidate).2 := by
  rcases composer.select_cases candidate with hnone | ⟨query, -, hquery, hselect⟩
  · rw [hnone] at hsome
    cases hsome
  · obtain ⟨front, hfront⟩ := h.typed query hquery
    obtain ⟨cleared, hstrip, -, -⟩ := stripSuffix?_span h hfront
    rw [hselect] at hsome ⊢
    cases hsome
    exact ⟨rfl, rfl, ⟨cleared, hstrip, nodes_mention _ hstrip⟩, segment_ofReference ..,
      isMissing_mentionOf hoffer, render_mentionOf hoffer⟩

/-- A pick that inserts something inserts what is offered at its position. -/
theorem inserts_of_pick (h : composer.Coherent) {insertion : Insertion}
    (hsome : (composer.pick index).1 = some insertion) :
    ∃ candidate, composer.candidates[index]? = some candidate ∧
      composer.Inserts candidate insertion (composer.pick index).2 := by
  rcases composer.pick_cases index with hnone | ⟨candidate, hcandidate, hselect⟩
  · rw [hnone] at hsome
    cases hsome
  · rw [hselect] at hsome ⊢
    exact ⟨candidate, hcandidate,
      inserts_of_select h (offers_of_mem_candidates (List.mem_of_getElem? hcandidate)).2 hsome⟩

theorem pick_eq_of_none (h : (composer.pick index).1 = none) : (composer.pick index).2 = composer := by
  rcases composer.pick_cases index with hnone | ⟨candidate, -, hselect⟩
  · rw [hnone]
  · rcases composer.select_cases candidate with hrefused | ⟨query, -, -, hsome⟩
    · rw [hselect, hrefused]
    · rw [hselect, hsome] at h
      cases h

/-! ### Sessions that insert by picks alone -/

/-- The action leaves the catalogs as they are, and inserts nothing unless it is a pick. -/
def InsertsByPick (composer : Composer) : EditAction → Prop
  | .key _ | .typing _ | .pick _ => True
  | .select candidate => (composer.select candidate).1 = none
  | .catalogs _ _ => False

instance (composer : Composer) : (action : EditAction) → Decidable (composer.InsertsByPick action)
  | .key _ | .typing _ | .pick _ => inferInstanceAs (Decidable True)
  | .select candidate => inferInstanceAs (Decidable ((composer.select candidate).1 = none))
  | .catalogs _ _ => inferInstanceAs (Decidable False)

/-- So does every action of the history, each in the session that it meets. -/
def OnlyPicks (composer : Composer) : List EditAction → Prop
  | [] => True
  | action :: actions => composer.InsertsByPick action ∧ (composer.act action).OnlyPicks actions

instance OnlyPicks.decidable :
    (composer : Composer) → (actions : List EditAction) → Decidable (composer.OnlyPicks actions)
  | _, [] => inferInstanceAs (Decidable True)
  | composer, action :: actions =>
    have := OnlyPicks.decidable (composer.act action) actions
    inferInstanceAs
      (Decidable (composer.InsertsByPick action ∧ (composer.act action).OnlyPicks actions))

/-- No mention of the session is missing. -/
def NoneMissing (composer : Composer) : Prop :=
  composer.tree.Every fun node => node.isMissing = false

theorem noneMissing_text (text : String) : (Node.text text).isMissing = false := rfl

theorem noneMissing_pick (h : composer.NoneMissing) (index : Nat) :
    (composer.pick index).2.NoneMissing := by
  rcases composer.pick_cases index with hnone | ⟨candidate, hcandidate, hselect⟩
  · rwa [hnone]
  · have hoffer := (offers_of_mem_candidates (List.mem_of_getElem? hcandidate)).2
    rcases composer.select_cases candidate with hrefused | ⟨query, -, -, hsome⟩
    · rwa [hselect, hrefused]
    · rw [hselect, hsome]
      exact every_mention noneMissing_text h (isMissing_mentionOf hoffer)

theorem noneMissing_act (h : composer.NoneMissing) {action : EditAction}
    (hpick : composer.InsertsByPick action) :
    (composer.act action).NoneMissing ∧ (composer.act action).now = composer.now := by
  refine ⟨?_, ?_⟩
  · cases action with
    | key key => exact every_editTree noneMissing_text h key
    | typing text =>
      exact List.foldlRecOn text.toList _ h fun _ hnone c _ =>
        every_editTree noneMissing_text hnone (.char c)
    | select candidate =>
      rcases composer.select_cases candidate with hrefused | ⟨query, -, -, hsome⟩
      · rwa [act, hrefused]
      · rw [InsertsByPick, hsome] at hpick
        cases hpick
    | pick index => exact noneMissing_pick h index
    | catalogs steps catalog => exact hpick.elim
  · have hkept : action.catalogs? = none := by
      cases action with
      | catalogs steps catalog => exact hpick.elim
      | key key => rfl
      | typing text => rfl
      | select candidate => rfl
      | pick index => rfl
    rw [now_act, hkept, Option.getD_none]

/-- A history that inserts by picks alone keeps the catalogs, and makes no mention go missing. -/
theorem noneMissing_run (h : composer.NoneMissing) {actions : List EditAction}
    (hpicks : composer.OnlyPicks actions) :
    (composer.run actions).NoneMissing ∧ (composer.run actions).now = composer.now := by
  induction actions generalizing composer with
  | nil => exact ⟨h, rfl⟩
  | cons action actions ih =>
    obtain ⟨hnone, hnow⟩ := noneMissing_act h hpicks.1
    rw [← hnow]
    exact ih hnone hpicks.2

/-- The segments of a session without missing mentions have no dangling reference. -/
theorem noneMissing_iff (h : composer.Fresh) :
    composer.NoneMissing ↔
      Validation.dangling composer.tree.segments composer.steps composer.catalog = [] := by
  have hreported := missingReferences_of_fresh h
  rw [NoneMissing, ← Tree.missing_eq_nil_iff]
  constructor
  · intro hmissing
    rw [Tree.missingReferences, hmissing] at hreported
    exact List.map_eq_nil_iff.1 hreported.symm
  · intro hdangling
    rw [hdangling] at hreported
    exact List.map_eq_nil_iff.1 hreported

theorem segments_start (text? : Option String) (steps : List Step) (catalog : List Media)
    (options : CaptureOptions) :
    (start text? steps catalog options).tree.segments = parse (text?.getD "") := by
  cases text? with
  | none =>
    have hempty : parse "" = [] := by decide +kernel
    rw [Option.getD_none, hempty]
    rfl
  | some text => exact Tree.segments_ofSegments ..

/-- CORRECT: after every history, a pick inserts something exactly if a mention is being typed and
something is offered at its position; it then inserts just that, as a mention that is not missing,
and else leaves the session as it is. If the text that the session started from had no dangling
reference, the catalogs stay, and nothing but picks inserts mentions, then no mention is ever missing,
and the text has no dangling reference as long as no token was typed as text. -/
theorem picks_go_in_and_never_dangle (text? : Option String) (steps : List Step)
    (catalog : List Media) (options : CaptureOptions) (actions : List EditAction) :
    let first := start text? steps catalog options
    let session := first.run actions
    (∀ index,
      ((session.pick index).1.isSome = true ↔
        session.capture.isComposing = true ∧ index < session.candidates.length) ∧
      (∀ insertion, (session.pick index).1 = some insertion →
        ∃ candidate, session.candidates[index]? = some candidate ∧
          session.Inserts candidate insertion (session.pick index).2) ∧
      ((session.pick index).1 = none → (session.pick index).2 = session)) ∧
    (Validation.dangling (parse (text?.getD "")) steps catalog = [] → first.OnlyPicks actions →
      session.tree.missing = [] ∧
        ((∀ text, .text text ∈ session.tree.nodes → ¬ HasToken text.toList) →
          Validation.dangling (parse session.text) steps catalog = [])) := by
  intro first session
  have hcoherent : session.Coherent := coherent_run_start text? steps catalog options actions
  have hfresh : first.Fresh := fresh_start text? steps catalog options
  refine ⟨fun index => ⟨isSome_pick_iff, fun insertion => inserts_of_pick hcoherent,
    pick_eq_of_none⟩, fun hstart hpicks => ?_⟩
  have hnow : first.now = ⟨some steps, catalog⟩ := by cases text? <;> rfl
  have hfirst : first.NoneMissing := by
    rw [noneMissing_iff hfresh, segments_start, Validation.dangling_eq_lacking, ← now, hnow,
      ← Validation.dangling_eq_lacking]
    exact hstart
  obtain ⟨hnone, hkept⟩ := noneMissing_run hfirst hpicks
  refine ⟨Tree.missing_eq_nil_iff.2 hnone, fun hplain => ?_⟩
  have hparse : parse session.text = session.tree.segments :=
    Segment.parse_serialize ((normal_segments_iff hcoherent).2 hplain)
  rw [hparse, Validation.dangling_eq_lacking, ← hnow, ← hkept, now,
    ← Validation.dangling_eq_lacking]
  exact (noneMissing_iff (fresh_run hfresh actions)).1 hnone

/-- An offer that is cut to two candidates, an id that two media share, a refused candidate, and a
query that meets a step and a medium. -/
theorem picks_go_in_under_a_cap :
    let steps : List Step := [{ stepName := "name" }, { stepName := "pet" }, { stepName := "my pet" }]
    let catalog : List Media :=
      [{ mediaId := "m", url := "u", displayName := some "Pet" }, { mediaId := "m", url := "v" }]
    let actions : List EditAction :=
      [.typing "@", .pick 1, .typing "and @PE", .select ⟨.step, "my pet", "my pet"⟩, .pick 2, .pick 1]
    let first := start (some "Dear @\x7bstep:name\x7d, ") steps catalog { maxCandidates := some 2 }
    let session := first.run actions
    first.OnlyPicks actions ∧
      session.text = "Dear @\x7bstep:name\x7d, @\x7bstep:pet\x7d and @\x7bref:m\x7d " ∧
      session.tree.missing = [] ∧ Validation.dangling (parse session.text) steps catalog = [] := by
  intro steps catalog actions first session
  have hpicks : first.OnlyPicks actions := by decide +kernel
  have hstart : Validation.dangling (parse "Dear @\x7bstep:name\x7d, ") steps catalog = [] := by
    decide +kernel
  have htext : session.text
      = "Dear @\x7bstep:name\x7d, @\x7bstep:pet\x7d and @\x7bref:m\x7d " := by decide +kernel
  have hnodes : session.tree.nodes
      = [.text "Dear ", .step "name" false, .text ", ", .step "pet" false, .text " and ",
        .media "m" (some "Pet") false, .text " "] := by decide +kernel
  have hplain : ∀ text, .text text ∈ session.tree.nodes → ¬ HasToken text.toList := by
    intro text hmem
    have hnone : ∀ text ∈ ["Dear ", ", ", " and ", " "], ¬ HasToken text.toList := by decide +kernel
    exact hnone text (by simpa [hnodes] using hmem)
  obtain ⟨hmissing, hdangling⟩ := (picks_go_in_and_never_dangle (some "Dear @\x7bstep:name\x7d, ")
    steps catalog { maxCandidates := some 2 } actions).2 hstart hpicks
  have hsession : session = (start (some "Dear @\x7bstep:name\x7d, ") steps catalog
    { maxCandidates := some 2 }).run actions := rfl
  rw [← hsession] at hmissing hdangling
  exact ⟨hpicks, htext, hmissing, hdangling hplain⟩

end Composer

end MentionPrompt
