import MentionPrompt.Proofs.Resolution.Mentioned
import MentionPrompt.Proofs.Template.MediaRules
import MentionPrompt.Proofs.Validation.Dangling

/-!
Taking a medium out of a template and attaching it again.

        catalog              a b c        detach b        a c         attach b       a c b
        report on @ref b     clean                        dangling                   clean

The medium comes back at the end of the catalog. Main statements: while it is away, its mentions
dangle along with those that dangled before; when it is back, reports and outcomes of runs are what
they were, for nothing that looks an id up can tell the order of the catalog.
-/

namespace MentionPrompt

namespace Segment

variable {mediaId : String} {segments : List Segment}

/-- The reference a segment makes to the medium at a position, if it makes one. -/
def mentionOf? (mediaId : String) (segment : Segment) (index : Nat) : Option Reference :=
  if segment = .reference .media mediaId then some ⟨index, .media, mediaId⟩ else none

/-- One reference for each segment that refers to the medium, in order. -/
def mentionsOf (mediaId : String) (segments : List Segment) : List Reference :=
  segments.zipIdx.filterMap fun (segment, index) => mentionOf? mediaId segment index

theorem mentionOf?_eq_some_iff {segment : Segment} {index : Nat} {reference : Reference} :
    mentionOf? mediaId segment index = some reference ↔
      segment = .reference .media mediaId ∧ reference = ⟨index, .media, mediaId⟩ := by
  rw [mentionOf?, Option.ite_none_right_eq_some, Option.some.injEq, eq_comm (a := reference)]

/-- The reference is one that the segments make to the medium. -/
def Mentions (segments : List Segment) (mediaId : String) (reference : Reference) : Prop :=
  segments[reference.index]? = some (.reference .media mediaId) ∧
    reference = ⟨reference.index, .media, mediaId⟩

theorem findings_mentionsOf (mediaId : String) (segments : List Segment) :
    Findings Reference.index (Mentions segments mediaId) (mentionsOf mediaId segments) := by
  refine (Findings.filterMap_zipIdx (mentionOf? mediaId) ?_ segments).of_iff fun reference => ?_
  · intro segment index reference h
    rw [(mentionOf?_eq_some_iff.1 h).2]
  · simp only [mentionOf?_eq_some_iff, Mentions]
    constructor
    · rintro ⟨segment, hsegment, rfl, hreference⟩
      exact ⟨hsegment, hreference⟩
    · rintro ⟨hsegment, hreference⟩
      exact ⟨_, hsegment, rfl, hreference⟩

end Segment

/-! ### While the medium is away -/

section Away

variable {steps : Option (List Step)} {before after : List Media} {entry : Media}
  {segments : List Segment}

/-- Without an entry, the catalogs lack its medium besides what they lacked with it. -/
theorem Snapshot.lacks_without_iff (hid : entry.mediaId ∉ (before ++ after).map Media.mediaId)
    (kind : RefKind) (identifier : String) :
    Lacks ⟨steps, before ++ after⟩ kind identifier ↔
      Lacks ⟨steps, before ++ entry :: after⟩ kind identifier ∨
        (kind = .media ∧ identifier = entry.mediaId) := by
  cases kind with
  | step => simp [Lacks]
  | media =>
    by_cases heq : identifier = entry.mediaId
    · subst heq
      exact iff_of_true hid (.inr ⟨rfl, rfl⟩)
    · simp [Lacks, heq]

/-- Without an entry, the mentions of its medium are lacking besides those that were before. -/
theorem Snapshot.lacking_without (hid : entry.mediaId ∉ (before ++ after).map Media.mediaId) :
    lacking ⟨steps, before ++ after⟩ segments
      = (lacking ⟨steps, before ++ entry :: after⟩ segments).merge
          (Segment.mentionsOf entry.mediaId segments) fun a b => a.index ≤ b.index := by
  have hbefore := findings_lacking ⟨steps, before ++ entry :: after⟩ segments
  have hmentions := Segment.findings_mentionsOf entry.mediaId segments
  -- while the entry was there, no mention of its medium dangled
  have hapart : ∀ a b, Reference.Dangles ⟨steps, before ++ entry :: after⟩ segments a →
      Segment.Mentions segments entry.mediaId b → a.index ≠ b.index := by
    rintro ⟨index, kind, identifier⟩ b ⟨hsegment, hlacks⟩ ⟨hmention, -⟩ rfl
    rw [hsegment, Option.some.injEq, Segment.reference.injEq] at hmention
    obtain ⟨rfl, rfl⟩ := hmention
    exact hlacks (by simp)
  refine (findings_lacking ⟨steps, before ++ after⟩ segments).eq_of_findings
    ((hbefore.merge hmentions hapart).of_iff ?_)
  rintro ⟨index, kind, identifier⟩
  simp only [Reference.Dangles, Segment.Mentions, lacks_without_iff hid, and_or_left,
    Reference.mk.injEq, true_and]
  refine or_congr_right ⟨?_, ?_⟩
  · rintro ⟨hsegment, rfl, rfl⟩
    exact ⟨hsegment, rfl, rfl⟩
  · rintro ⟨hsegment, rfl, rfl⟩
    exact ⟨hsegment, rfl, rfl⟩

theorem Snapshot.lacking_of_perm {catalog other : List Media} (hperm : other.Perm catalog) :
    lacking ⟨steps, other⟩ segments = lacking ⟨steps, catalog⟩ segments := by
  refine List.filter_congr fun reference _ => decide_eq_decide.2 ?_
  cases reference.kind with
  | step => exact Iff.rfl
  | media => exact not_congr (hperm.map _).mem_iff

end Away

/-! ### When the medium is back -/

namespace Template

variable {template : Template} {catalog other : List Media}

/-- To all that reads them the templates are the same: they have one text, the same media in some
order, the same report for every workflow, and the same outcome in every run. -/
structure Alike (template other : Template) : Prop where
  text : other.canonicalText = template.canonicalText
  catalog : other.mediaCatalog.Perm template.mediaCatalog
  report : ∀ steps, other.validateForRun steps = template.validateForRun steps
  outcome : ∀ answers steps separator,
    RunContext.resolve ⟨answers, steps, other.mediaCatalog⟩ other.segments separator
      = RunContext.resolve ⟨answers, steps, template.mediaCatalog⟩ template.segments separator

theorem MediaRules.of_perm (h : MediaRules catalog) (hperm : other.Perm catalog) :
    MediaRules other :=
  ⟨fun entry hmem => h.writable entry (hperm.subset hmem), (hperm.map _).nodup_iff.2 h.ids,
    (hperm.map _).nodup_iff.2 h.names⟩

/-- Where the media follow the rules, their order makes no difference. -/
theorem alike_of_perm (h : MediaRules template.mediaCatalog)
    (hperm : other.Perm template.mediaCatalog) :
    Alike template { template with mediaCatalog := other } where
  text := rfl
  catalog := hperm
  report steps := by
    have hclashes : ({ template with mediaCatalog := other }.validateForRun steps).nameClashes
        = (template.validateForRun steps).nameClashes := by
      rw [nameClashes_validateForRun, nameClashes_validateForRun,
        Validation.nameClashes_eq_nil_iff.2 h.names,
        Validation.nameClashes_eq_nil_iff.2 (h.of_perm hperm).names]
    have hdangling : ({ template with mediaCatalog := other }.validateForRun steps).dangling
        = (template.validateForRun steps).dangling := by
      rw [dangling_validateForRun, dangling_validateForRun]
      exact Snapshot.lacking_of_perm hperm
    exact congrArg₂ Report.mk hclashes hdangling
  outcome answers steps separator := by
    have hagree : RunContext.AgreeOn template.segments ⟨answers, steps, other⟩
        ⟨answers, steps, template.mediaCatalog⟩ :=
      ⟨fun _ _ => rfl, fun _ _ => rfl, fun mediaId _ => find?_eq_of_perm h.ids hperm mediaId⟩
    exact hagree.resolve_eq separator

/-- CORRECT: whatever was done to the template before, taking out a medium that is attached makes
its mentions dangle, in their places among the references that dangled before, and no others.
Attaching the entry again then succeeds, and gives a template that nothing tells from the first: the
same media in another order, the same reports, and the same outcomes of runs. -/
theorem reattaching_is_invisible (text : String) (edits : List TemplateEdit) {mediaId : String}
    (h : mediaId ∈ (run { canonicalText := text } edits).mediaCatalog.map Media.mediaId) :
    let template := run { canonicalText := text } edits
    let away := (template.detach mediaId).2
    ∃ entry back, (template.detach mediaId).1 = some entry ∧
      (∀ steps, (away.validateForRun steps).dangling
        = (template.validateForRun steps).dangling.merge
            (Segment.mentionsOf mediaId template.segments) fun a b => a.index ≤ b.index) ∧
      away.attach entry = .ok back ∧ Alike template back := by
  intro template away
  have hrules : MediaRules template.mediaCatalog := mediaRules_run mediaRules_nil edits
  rcases template.detach_cases mediaId with
    ⟨before, entry, after, hcatalog, rfl, -, hdetach⟩ | ⟨hnone, -⟩
  · have hperm : (before ++ after ++ [entry]).Perm template.mediaCatalog := by
      rw [hcatalog]
      exact (List.perm_append_singleton ..).trans List.perm_middle.symm
    have haway : away = { template with mediaCatalog := before ++ after } :=
      congrArg Prod.snd hdetach
    have hadmits := (mediaRules_concat.1 (hrules.of_perm hperm)).2
    refine ⟨entry, { template with mediaCatalog := before ++ after ++ [entry] }, by rw [hdetach],
      fun steps => ?_, ?_, alike_of_perm hrules hperm⟩
    · rw [dangling_validateForRun, dangling_validateForRun, haway, hcatalog]
      exact Snapshot.lacking_without hadmits.id
    · rcases away.attach_cases entry with ⟨-, hattach⟩ | ⟨hrefuses, -⟩
      · rw [hattach, haway]
      · exact absurd (haway ▸ hadmits) hrefuses
  · exact absurd h hnone

/-- Two mentions of the medium dangle while it is away, on both sides of one that always does; and
the medium comes back behind one that was attached after it. -/
theorem reattaching_is_invisible_around_a_dangling_mention :
    let hero : Media := { mediaId := "a", url := "u", displayName := some "hero" }
    let dusk : Media := { mediaId := "b", url := "v", storagePath := "up/dusk-1.png" }
    let template := run {}
      [.attach hero, .setText "@{ref:a}, @{ref:x} and @{ref:a}", .attach dusk]
    let away := (template.detach "a").2
    "a" ∈ template.mediaCatalog.map Media.mediaId ∧
      ∃ back, (template.detach "a").1 = some hero ∧
        (template.validateForRun none).dangling = [⟨2, .media, "x"⟩] ∧
        (away.validateForRun none).dangling
          = [⟨0, .media, "a"⟩, ⟨2, .media, "x"⟩, ⟨4, .media, "a"⟩] ∧
        away.attach hero = .ok back ∧ Alike template back := by
  intro hero dusk template away
  have hmem : "a" ∈ template.mediaCatalog.map Media.mediaId := by decide +kernel
  have hbefore : (template.validateForRun none).dangling = [⟨2, .media, "x"⟩] := by decide +kernel
  have hmentions : Segment.mentionsOf "a" template.segments
      = [⟨0, .media, "a"⟩, ⟨4, .media, "a"⟩] := by decide +kernel
  have hhero : (template.detach "a").1 = some hero := by decide +kernel
  obtain ⟨entry, back, hentry, hdangling, hattach, halike⟩ := reattaching_is_invisible "" _ hmem
  obtain rfl : hero = entry := Option.some.inj (hhero.symm.trans hentry)
  refine ⟨hmem, back, hhero, hbefore, ?_, hattach, halike⟩
  have haway := hdangling none
  rw [hbefore, hmentions] at haway
  exact haway.trans (by simp)

end Template

end MentionPrompt
