import MentionPrompt.Proofs.Resolution.Attached

/-!
Resolving two prompts one after the other.

        first ++ second    failures of the first, failures of the second further on
                           text of the first, text of the second
                           media of the first, media of the second that the first does not attach

The outcome of a whole is made from the outcomes of its parts, and from nothing else. Main
statement: so it is wherever a prompt is cut in two. Hence a prompt says, segment by segment, what
each segment says by itself, and text that looks like a reference is only text.
-/

namespace MentionPrompt

/-! ### Positions and media of the second part -/

/-- The same failure, so many segments further on. -/
def ResolutionFailure.shift (count : Nat) : ResolutionFailure → ResolutionFailure
  | missingAnswer index stepName => missingAnswer (index + count) stepName
  | danglingMedia index mediaId => danglingMedia (index + count) mediaId

/-- The media of a prompt, and those of a later one whose id is not among them. -/
def Media.followedBy (first second : List Media) : List Media :=
  first ++ second.filter (·.mediaId ∉ first.map mediaId)

theorem Media.firstOccurrences_append (first second : List Media) :
    firstOccurrences (first ++ second)
      = followedBy (firstOccurrences first) (firstOccurrences second) := by
  induction first with
  | nil => simp [firstOccurrences, followedBy]
  | cons entry rest ih =>
    have hkeep : ∀ later : Media,
        (later.mediaId ≠ entry.mediaId ∧ later.mediaId ∉ (firstOccurrences rest).map mediaId) ↔
          later.mediaId ∉ (firstOccurrences (entry :: rest)).map mediaId := by
      intro later
      simp only [firstOccurrences, List.map_cons, List.mem_cons, List.mem_map, List.mem_filter,
        not_or, bne_iff_ne]
      refine and_congr_right fun hne => not_congr ?_
      constructor
      · rintro ⟨other, hmem, heq⟩
        exact ⟨other, ⟨hmem, heq ▸ hne⟩, heq⟩
      · rintro ⟨other, ⟨hmem, -⟩, heq⟩
        exact ⟨other, hmem, heq⟩
    rw [List.cons_append, firstOccurrences, ih, followedBy, List.filter_append, List.filter_filter,
      followedBy, firstOccurrences, List.cons_append]
    congr 2
    refine List.filter_congr fun later _ => Bool.eq_iff_iff.2 ?_
    simp only [Bool.and_eq_true, bne_iff_ne, decide_eq_true_eq]
    exact hkeep later

/-! ### Outcomes -/

/-- What resolving comes to: a prompt, or the failures. -/
abbrev Resolution := Except (List ResolutionFailure) ResolvedPrompt

/-- The outcome for a prompt with so many segments, and then for another prompt after it. -/
def Resolution.followedBy (count : Nat) : Resolution → Resolution → Resolution
  | .ok first, .ok second =>
    .ok ⟨first.text ++ second.text, Media.followedBy first.media second.media⟩
  | .ok _, .error later => .error (later.map (·.shift count))
  | .error failures, .ok _ => .error failures
  | .error failures, .error later => .error (failures ++ later.map (·.shift count))

namespace RunContext

variable {ctx : RunContext} {separator : String} {segments : List Segment}

theorem contribution_add (ctx : RunContext) (separator : String) (segment : Segment)
    (index count : Nat) :
    ctx.contribution separator segment (index + count)
      = (ctx.contribution separator segment index).mapError (·.shift count) := by
  cases segment with
  | literal text => rfl
  | reference kind identifier =>
    cases kind with
    | media =>
      cases hentry : Media.find? ctx.catalog identifier <;> simp only [contribution, hentry] <;> rfl
    | step =>
      cases hvalues : ctx.usedValues identifier <;> simp only [contribution, hvalues] <;> rfl

theorem failure?_add (ctx : RunContext) (separator : String) (segment : Segment)
    (index count : Nat) :
    ctx.failure? separator segment (index + count)
      = (ctx.failure? separator segment index).map (·.shift count) := by
  rw [failure?, failure?, contribution_add]
  cases ctx.contribution separator segment index <;> rfl

theorem zipIdx_append_add {α : Type} (first second : List α) :
    (first ++ second).zipIdx
      = first.zipIdx ++ second.zipIdx.map fun member => (member.1, member.2 + first.length) := by
  rw [List.zipIdx_append, List.zipIdx_eq_map_add (i := 0 + first.length)]
  simp [Nat.add_comm]

theorem failures_append (ctx : RunContext) (separator : String) (first second : List Segment) :
    ctx.failures separator (first ++ second)
      = ctx.failures separator first
        ++ (ctx.failures separator second).map (·.shift first.length) := by
  simp only [failures, zipIdx_append_add, List.filterMap_append, List.filterMap_map,
    List.map_filterMap]
  congr 1
  exact List.filterMap_congr fun member _ => ctx.failure?_add separator member.1 member.2 _

theorem pieces_append (ctx : RunContext) (separator : String) (first second : List Segment) :
    ctx.pieces separator (first ++ second)
      = ctx.pieces separator first ++ ctx.pieces separator second := by
  simp only [pieces, zipIdx_append_add, List.filterMap_append, List.filterMap_map]
  congr 1
  refine List.filterMap_congr fun member _ => ?_
  simp only [Function.comp_apply, contribution_add]
  cases ctx.contribution separator member.1 member.2 <;> rfl

/-- The outcome of a whole, from the outcomes of its parts. -/
theorem resolve_append (ctx : RunContext) (first second : List Segment) (separator : String) :
    ctx.resolve (first ++ second) separator
      = Resolution.followedBy first.length (ctx.resolve first separator)
          (ctx.resolve second separator) := by
  simp only [resolve_eq, failures_append, pieces_append]
  cases hfirst : ctx.failures separator first with
  | nil =>
    cases hsecond : ctx.failures separator second with
    | nil =>
      simp [Resolution.followedBy, Media.firstOccurrences_append, List.flatMap_append]
    | cons failure failures => simp [Resolution.followedBy]
  | cons failure failures =>
    cases hsecond : ctx.failures separator second with
    | nil => simp [Resolution.followedBy]
    | cons later laters => simp [Resolution.followedBy]

/-! ### One segment -/

theorem resolve_singleton (ctx : RunContext) (segment : Segment) (separator : String) :
    ctx.resolve [segment] separator = match ctx.contribution separator segment 0 with
      | .ok piece => .ok ⟨piece.text, Media.firstOccurrences piece.media⟩
      | .error failure => .error [failure] := by
  rw [resolve_eq]
  cases hpiece : ctx.contribution separator segment 0 <;>
    simp [failures, failure?, pieces, hpiece, Except.toOption]

/-- What a segment says in a prompt: text says itself, a medium nothing, and a step the fragments or
values of its answer as they stand. -/
def said (ctx : RunContext) (separator : String) : Segment → String
  | .literal text => text
  | .reference .media _ => ""
  | .reference .step stepName =>
    separator.intercalate ((ctx.usedValues stepName).map (ctx.valueText stepName))

theorem text_of_contribution {segment : Segment} {index : Nat} {piece : ResolvedPrompt}
    (h : ctx.contribution separator segment index = .ok piece) :
    piece.text = ctx.said separator segment := by
  cases segment with
  | literal text =>
    cases h
    rfl
  | reference kind identifier =>
    cases kind with
    | media =>
      simp only [contribution] at h
      split at h
      · cases h
        rfl
      · cases h
    | step =>
      simp only [contribution] at h
      split at h
      · cases h
      · cases h
        rfl

theorem text_of_resolve {prompt : ResolvedPrompt}
    (h : ctx.resolve segments separator = .ok prompt) :
    prompt.text = String.join (segments.map (ctx.said separator)) := by
  induction segments generalizing prompt with
  | nil =>
    cases h
    rfl
  | cons segment rest ih =>
    rw [← List.singleton_append, resolve_append, resolve_singleton] at h
    cases hpiece : ctx.contribution separator segment 0 with
    | error failure =>
      rw [hpiece] at h
      cases hrest : ctx.resolve rest separator <;> rw [hrest] at h <;> cases h
    | ok piece =>
      rw [hpiece] at h
      cases hrest : ctx.resolve rest separator with
      | error failures =>
        rw [hrest] at h
        cases h
      | ok later =>
        rw [hrest] at h
        cases h
        rw [List.map_cons, String.join_cons, ← ih hrest, ← text_of_contribution hpiece]

/-- CORRECT: wherever a prompt is cut in two, its outcome is that of the first part and then that of
the second. It comes out exactly when both do, with the texts and the media one after the other,
without the media that the first part attaches already; else the failures are those of the first and
those of the second, counted on from the first. And what comes out says what each segment says by
itself: text is copied as it stands, and so are answers and fragments. -/
theorem concatenation_resolves_by_parts (ctx : RunContext) (first second : List Segment)
    (separator : String) :
    ctx.resolve (first ++ second) separator
        = Resolution.followedBy first.length (ctx.resolve first separator)
            (ctx.resolve second separator) ∧
      (∀ text, ctx.resolve [.literal text] separator = .ok ⟨text, []⟩) ∧
      (∀ prompt, ctx.resolve (first ++ second) separator = .ok prompt →
        prompt.text = String.join ((first ++ second).map (ctx.said separator))) := by
  refine ⟨ctx.resolve_append first second separator, fun text => ?_, fun prompt => text_of_resolve⟩
  rw [resolve_singleton]
  rfl

/-- A text that looks like a reference stays as it is, also when an answer brings it in. -/
example :
    let ctx : RunContext := { answers := .ofList [("a", .single "@\x7bref:m\x7d")] }
    ctx.resolve [.reference .step "a", .literal "@\x7bstep:a\x7d"] ", "
      = .ok ⟨"@\x7bref:m\x7d@\x7bstep:a\x7d", []⟩ := by
  rfl

end RunContext

end MentionPrompt
