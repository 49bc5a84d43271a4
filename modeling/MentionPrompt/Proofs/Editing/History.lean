import MentionPrompt.Editing.Composer
import MentionPrompt.Proofs.Editing.Capture
import MentionPrompt.Proofs.Mention.Atoms
import MentionPrompt.Proofs.Segment.NormalForm

/-!
Editing histories: what an author does in a session, and what stays true all along.

The tree and the capture follow the same keystrokes each on its own. The invariant ties them
together: while a query is typed, the document ends in `@` and that query. Main statements: every
action keeps the invariant, so every history does; hence a typed mention is always found where it
is replaced, and backspace never meets a mention while a query is typed.
-/

namespace MentionPrompt

/-- One thing that an author does in a session. -/
inductive EditAction where
  | key (key : Key)
  | typing (text : String)
  | select (candidate : Candidate)
  | pick (index : Nat)
  | catalogs (steps : List Step) (catalog : List Media)
  deriving DecidableEq, Repr

namespace Composer

/-- The atoms of the document. -/
def atoms (composer : Composer) : List Atom := composer.tree.atoms

/-- A new session, on an empty document or on a canonical text. -/
def start (text? : Option String) (steps : List Step) (catalog : List Media)
    (options : CaptureOptions) : Composer :=
  match text? with
  | none => { steps, catalog, options }
  | some text => ofText text steps catalog options

/-- The session after one action. -/
def act (composer : Composer) : EditAction → Composer
  | .key key => (composer.type key).2
  | .typing text => composer.typeText text
  | .select candidate => (composer.select candidate).2
  | .pick index => (composer.pick index).2
  | .catalogs steps catalog => composer.setCatalogs steps catalog

/-- The session after a history of actions. -/
def run (composer : Composer) (actions : List EditAction) : Composer := actions.foldl act composer

/-- What every session keeps true: the segments of its tree are merged, its mentions can be written,
and a query being typed stands at the end of the document behind its `@`. -/
structure Coherent (composer : Composer) : Prop where
  merged : Segment.Merged composer.tree.segments
  writable : ∀ kind identifier, .mention kind identifier ∈ composer.atoms →
    isIdentifier identifier = true
  typed : ∀ query, composer.capture = .composing query →
    ∃ front, composer.atoms = front ++ CaptureState.span query
  word : ∀ query, composer.capture = .composing query → ∀ c ∈ query.toList, isWordChar c = true

theorem coherent_start (text? : Option String) (steps : List Step) (catalog : List Media)
    (options : CaptureOptions) : (start text? steps catalog options).Coherent := by
  cases text? with
  | none =>
    have hatoms : (start none steps catalog options).atoms = [] := rfl
    exact ⟨Segment.merged_nil, by simp [hatoms], by simp [start], by simp [start]⟩
  | some text =>
    have hsegments : (start (some text) steps catalog options).tree.segments = Segment.parse text :=
      Tree.segments_ofSegments ..
    refine ⟨?_, fun kind identifier hmem => ?_, by simp [start, ofText], by simp [start, ofText]⟩
    · rw [hsegments]
      exact (Segment.normal_parse text).merged
    · rw [atoms, Tree.atoms, hsegments, Segment.parse, Segment.flatten_ofAtoms] at hmem
      exact Segment.isIdentifier_of_mem_atoms hmem

/-! ### Keystrokes -/

theorem atoms_editTree_char (composer : Composer) (c : Char) :
    (composer.editTree (.char c)).atoms = composer.atoms ++ [.char c] := by
  rw [editTree, Tree.atoms_pushText, String.toList_singleton]
  rfl

/-- Backspace takes the last atom. While a query is typed that atom is a character, and else a
mention at the end goes as a whole. -/
theorem editTree_backspace {composer : Composer} (h : composer.Coherent) :
    (composer.editTree .backspace).atoms = composer.atoms.dropLast ∧
      Segment.Merged (composer.editTree .backspace).segments := by
  rcases Tree.popChar_spec h.merged with ⟨c, after, hpop, hatoms, hmerged⟩ | ⟨hpop, hclosed⟩
  · simp only [editTree, hpop]
    exact ⟨by rw [atoms, hatoms, List.dropLast_concat], hmerged⟩
  · cases hcapture : composer.capture with
    | idle =>
      simp only [editTree, hpop, hcapture, CaptureState.isComposing, CaptureState.query?]
      exact ⟨Tree.atoms_popNode hclosed, Tree.merged_popNode h.merged⟩
    | composing query =>
      obtain ⟨front, hfront⟩ := h.typed query hcapture
      obtain ⟨init, c, hspan⟩ := CaptureState.span_eq_concat query
      rw [hspan, ← List.append_assoc] at hfront
      exact absurd hfront (Tree.atoms_ne_concat_char hclosed _ c)

theorem merged_editTree {composer : Composer} (h : composer.Coherent) (key : Key) :
    Segment.Merged (composer.editTree key).segments := by
  cases key with
  | char c => exact Tree.merged_pushText _ h.merged
  | backspace => exact (editTree_backspace h).2
  | escape => exact h.merged

/-- A keystroke brings no mention with it. -/
theorem mention_mem_of_editTree {composer : Composer} (h : composer.Coherent) {key : Key}
    {kind : RefKind} {identifier : String}
    (hmem : .mention kind identifier ∈ (composer.editTree key).atoms) :
    .mention kind identifier ∈ composer.atoms := by
  cases key with
  | char c => simpa [atoms_editTree_char] using hmem
  | backspace =>
    rw [(editTree_backspace h).1] at hmem
    exact List.dropLast_subset _ hmem
  | escape => exact hmem

/-- A keystroke moves the end of the document along with the query. -/
theorem typed_editTree {composer : Composer} (h : composer.Coherent) {key : Key} {query : String}
    (hquery : (composer.capture.press key).2 = .composing query) :
    ∃ front, (composer.editTree key).atoms = front ++ CaptureState.span query := by
  rcases CaptureState.press_eq_composing hquery with
    ⟨rfl, rfl⟩ | ⟨old, c, hold, rfl, -, rfl⟩ | ⟨old, c, hold, rfl, rfl⟩
  · exact ⟨composer.atoms, atoms_editTree_char composer '@'⟩
  · obtain ⟨front, hfront⟩ := h.typed old hold
    refine ⟨front, ?_⟩
    rw [atoms_editTree_char, hfront, CaptureState.span_push, List.append_assoc]
  · obtain ⟨front, hfront⟩ := h.typed _ hold
    refine ⟨front, ?_⟩
    rw [CaptureState.span_push, ← List.append_assoc] at hfront
    rw [(editTree_backspace h).1, hfront, List.dropLast_concat]

theorem word_press {composer : Composer} (h : composer.Coherent) {key : Key} {query : String}
    (hquery : (composer.capture.press key).2 = .composing query) :
    ∀ x ∈ query.toList, isWordChar x = true := by
  intro x hx
  rcases CaptureState.press_eq_composing hquery with
    ⟨-, rfl⟩ | ⟨old, c, hold, -, hword, rfl⟩ | ⟨old, c, hold, -, rfl⟩
  · simp at hx
  · rw [String.toList_push] at hx
    rcases List.mem_append.1 hx with hx | hx
    · exact h.word old hold x hx
    · rwa [List.mem_singleton.1 hx]
  · exact h.word _ hold x (by simp [hx])

theorem coherent_type {composer : Composer} (h : composer.Coherent) (key : Key) :
    (composer.type key).2.Coherent where
  merged := merged_editTree h key
  writable kind identifier hmem := h.writable kind identifier (mention_mem_of_editTree h hmem)
  typed _ hquery := typed_editTree h hquery
  word _ hquery := word_press h hquery

theorem typeText_spec {composer : Composer} (h : composer.Coherent) (text : String) :
    (composer.typeText text).Coherent ∧
      (composer.typeText text).atoms = composer.atoms ++ text.toList.map .char := by
  unfold typeText
  induction text.toList generalizing composer with
  | nil => exact ⟨h, by simp⟩
  | cons c cs ih =>
    obtain ⟨hcoherent, hatoms⟩ := ih (coherent_type h (.char c))
    refine ⟨hcoherent, ?_⟩
    rw [List.foldl_cons, hatoms, atoms, type, atoms_editTree_char]
    simp

/-! ### Choosing a candidate -/

/-- What an insertion puts in the place of the typed text. -/
def inserted (composer : Composer) (insertion : Insertion) : List Atom :=
  .mention insertion.kind insertion.identifier ::
    if composer.options.insertTrailingSpace then [.char ' '] else []

theorem toList_at_append (query : String) : ("@" ++ query).toList = '@' :: query.toList := by simp

/-- A typed span at the end of the document can be stripped off. -/
theorem stripSuffix?_span {composer : Composer} (h : composer.Coherent) {query : String}
    {front : List Atom} (hfront : composer.atoms = front ++ CaptureState.span query) :
    ∃ after, composer.tree.stripSuffix? ("@" ++ query) = some after ∧ after.atoms = front ∧
      Segment.Merged after.segments := by
  refine Tree.stripSuffix?_of_atoms h.merged (by simp [← String.toList_eq_nil_iff]) ?_
  rw [toList_at_append]
  exact hfront

theorem segment_ofReference (kind : RefKind) (identifier : String) (steps : Option (List Step))
    (catalog : List Media) :
    (Node.ofReference kind identifier steps catalog).segment = .reference kind identifier :=
  Node.segment_ofSegment (.reference kind identifier) steps catalog

/-- A mention takes the place of the typed span. -/
theorem mention_spec {composer : Composer} (h : composer.Coherent) {query : String}
    {front : List Atom} (hfront : composer.atoms = front ++ CaptureState.span query)
    {insertion : Insertion} (hreplaced : insertion.replaced = "@" ++ query) :
    (composer.mention insertion).atoms = front ++ composer.inserted insertion ∧
      Segment.Merged (composer.mention insertion).segments := by
  obtain ⟨cleared, hstrip, hcleared, hmerged⟩ := stripSuffix?_span h hfront
  rw [mention, hreplaced, hstrip, Option.getD_some, inserted]
  split
  · refine ⟨?_, Tree.merged_pushText _ (Tree.merged_push _ hmerged)⟩
    rw [Tree.atoms_pushText, Tree.atoms_push, segment_ofReference, hcleared]
    simp [Segment.toAtoms]
  · refine ⟨?_, Tree.merged_push _ hmerged⟩
    rw [Tree.atoms_push, segment_ofReference, hcleared]
    rfl

/-- Choosing a candidate either leaves the session as it is, or replaces a query being typed by a
mention that can be written. -/
theorem select_cases (composer : Composer) (candidate : Candidate) :
    (composer.select candidate = (none, composer)) ∨
    ∃ query, isIdentifier candidate.identifier = true ∧ composer.capture = .composing query ∧
      composer.select candidate = (some ⟨candidate.kind, candidate.identifier, "@" ++ query⟩,
        { composer with
          tree := composer.mention ⟨candidate.kind, candidate.identifier, "@" ++ query⟩,
          capture := .idle }) := by
  cases hid : isIdentifier candidate.identifier with
  | false => exact .inl (by simp [select, hid])
  | true =>
    cases hcapture : composer.capture with
    | idle =>
      refine .inl ?_
      simp only [select, hid, hcapture, CaptureState.select, if_true]
      rw [← hcapture]
    | composing query =>
      refine .inr ⟨query, rfl, rfl, ?_⟩
      simp only [select, hid, hcapture, CaptureState.select, if_true]

theorem coherent_select {composer : Composer} (h : composer.Coherent) (candidate : Candidate) :
    (composer.select candidate).2.Coherent := by
  rcases composer.select_cases candidate with hnone | ⟨query, hid, hquery, hsome⟩
  · rwa [hnone]
  · obtain ⟨front, hfront⟩ := h.typed query hquery
    obtain ⟨hatoms, hmerged⟩ := mention_spec h hfront
      (rfl : (⟨candidate.kind, candidate.identifier, "@" ++ query⟩ : Insertion).replaced = _)
    rw [hsome]
    refine ⟨hmerged, fun kind identifier hmem => ?_, by simp, by simp⟩
    change _ ∈ Tree.atoms _ at hmem
    rw [hatoms, inserted] at hmem
    rcases List.mem_append.1 hmem with hmem | hmem
    · exact h.writable kind identifier (hfront ▸ List.mem_append_left _ hmem)
    · rcases List.mem_cons.1 hmem with heq | hmem
      · cases heq
        exact hid
      · split at hmem <;> simp at hmem

/-- Only an identifier that no token can hold is remarked on: typed text is always found. -/
theorem selectNotices_eq {composer : Composer} (h : composer.Coherent) (candidate : Candidate) :
    composer.selectNotices candidate =
      if isIdentifier candidate.identifier then []
      else [.unwritableIdentifier candidate.identifier] := by
  unfold selectNotices
  split
  · cases hcapture : composer.capture with
    | idle => rfl
    | composing query =>
      obtain ⟨front, hfront⟩ := h.typed query hcapture
      obtain ⟨after, hstrip, -⟩ := stripSuffix?_span h hfront
      simp only [CaptureState.select, hstrip, Option.isSome_some, if_true]
  · rfl

theorem pick_cases (composer : Composer) (index : Nat) :
    composer.pick index = (none, composer) ∨
    ∃ candidate, composer.candidates[index]? = some candidate ∧
      composer.pick index = composer.select candidate := by
  cases hcandidate : composer.candidates[index]? with
  | none => exact .inl (by simp only [pick, hcandidate])
  | some candidate => exact .inr ⟨candidate, rfl, by simp only [pick, hcandidate]⟩

/-! ### Actions and histories -/

theorem atoms_setCatalogs (composer : Composer) (steps : List Step) (catalog : List Media) :
    (composer.setCatalogs steps catalog).atoms = composer.atoms :=
  Tree.atoms_refresh ..

theorem coherent_setCatalogs {composer : Composer} (h : composer.Coherent) (steps : List Step)
    (catalog : List Media) : (composer.setCatalogs steps catalog).Coherent := by
  refine ⟨?_, ?_, ?_, h.word⟩
  · rw [setCatalogs, Tree.segments_refresh]
    exact h.merged
  · rw [atoms_setCatalogs]
    exact h.writable
  · rw [atoms_setCatalogs]
    exact h.typed

/-- Every action keeps the invariant. -/
theorem coherent_act {composer : Composer} (h : composer.Coherent) (action : EditAction) :
    (composer.act action).Coherent := by
  cases action with
  | key key => exact coherent_type h key
  | typing text => exact (typeText_spec h text).1
  | select candidate => exact coherent_select h candidate
  | pick index =>
    rcases composer.pick_cases index with hnone | ⟨candidate, -, hselect⟩
    · rwa [act, hnone]
    · rw [act, hselect]
      exact coherent_select h candidate
  | catalogs steps catalog => exact coherent_setCatalogs h steps catalog

/-- Every history keeps the invariant. -/
theorem coherent_run {composer : Composer} (h : composer.Coherent) (actions : List EditAction) :
    (composer.run actions).Coherent := by
  induction actions generalizing composer with
  | nil => exact h
  | cons action actions ih => exact ih (coherent_act h action)

theorem coherent_run_start (text? : Option String) (steps : List Step) (catalog : List Media)
    (options : CaptureOptions) (actions : List EditAction) :
    ((start text? steps catalog options).run actions).Coherent :=
  coherent_run (coherent_start text? steps catalog options) actions

/-- CORRECT: while a query is typed, the tree ends in a text node that ends in `@` and the query,
and the query consists of word characters. So a mention always finds the text it replaces, and
backspace always finds a character. -/
theorem typed_span_at_end (text? : Option String) (steps : List Step) (catalog : List Media)
    (options : CaptureOptions) (actions : List EditAction) (query : String)
    (h : ((start text? steps catalog options).run actions).capture = .composing query) :
    let session := (start text? steps catalog options).run actions
    (∃ before last, session.tree.nodes = before ++ [.text last] ∧
        '@' :: query.toList <:+ last.toList) ∧
      (∀ c ∈ query.toList, isWordChar c = true) ∧
      (∀ candidate insertion, (session.select candidate).1 = some insertion →
        (session.tree.stripSuffix? insertion.replaced).isSome = true) ∧
      session.tree.popChar.1.isSome = true := by
  intro session
  have hcoherent : session.Coherent := coherent_run_start text? steps catalog options actions
  obtain ⟨front, hfront⟩ := hcoherent.typed query h
  obtain ⟨before, last, hlast, hsuffix⟩ :=
    Tree.lastText?_of_atoms hcoherent.merged (List.cons_ne_nil '@' query.toList) hfront
  have hnodes := Tree.lastText?_eq_some_iff.1 hlast
  refine ⟨⟨before, last, hnodes, hsuffix⟩, hcoherent.word query h, ?_, ?_⟩
  · intro candidate insertion hsome
    rcases session.select_cases candidate with hnone | ⟨query', -, hquery', hselect⟩
    · rw [hnone] at hsome
      cases hsome
    · obtain rfl : query' = query := by simpa [session, h] using hquery'.symm
      rw [hselect] at hsome
      cases hsome
      obtain ⟨after, hstrip, -⟩ := stripSuffix?_span hcoherent hfront
      rw [hstrip, Option.isSome_some]
  · rcases Tree.popChar_spec hcoherent.merged with ⟨c, after, hpop, -⟩ | ⟨-, hclosed⟩
    · rw [hpop, Option.isSome_some]
    · rw [hnodes, Tree.closed_concat] at hclosed
      cases hclosed

/-- A document that ends in a mention, an `@` that was given up for another one, new catalogs and a
backspace. -/
theorem typed_span_after_mention :
    let session := (start (some "Hello @\x7bstep:name\x7d") [] [] {}).run
      [.typing "@a @pet", .catalogs [⟨"pet", .multiSelect, []⟩] [], .key .backspace]
    session.capture = .composing "pe" ∧
      (session.select ⟨.step, "pet", "pet"⟩).1 = some ⟨.step, "pet", "@pe"⟩ ∧
      (∃ before last, session.tree.nodes = before ++ [.text last] ∧
        '@' :: "pe".toList <:+ last.toList) ∧
      (session.tree.stripSuffix? "@pe").isSome = true := by
  intro session
  have hquery : session.capture = .composing "pe" := by decide
  have hselect : (session.select ⟨.step, "pet", "pet"⟩).1 = some ⟨.step, "pet", "@pe"⟩ := by decide
  obtain ⟨hspan, -, hstrip, -⟩ := typed_span_at_end (some "Hello @\x7bstep:name\x7d") [] [] {}
    [.typing "@a @pet", .catalogs [⟨"pet", .multiSelect, []⟩] [], .key .backspace] "pe" hquery
  exact ⟨hquery, hselect, hspan,
    hstrip ⟨.step, "pet", "pet"⟩ ⟨.step, "pet", "@pe"⟩ hselect⟩

end Composer

end MentionPrompt
