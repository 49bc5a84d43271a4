import MentionPrompt.Editing.Candidate
import MentionPrompt.Proofs.Text.LetterCase

/-!
What the search for candidates finds.

The search lowers the query and the label each as a whole. A stretch of the label that equals the
query up to letter case is therefore met in its place only if the label lowers it as the stretch by
itself is lowered. Main statement: the search offers every step with such a stretch, and every
medium with one whose capital sigmas end words in the label just where they end words in the
stretch. The queries that lose nothing in any catalog are those for which every stretch is such a
one in every label.
-/

namespace MentionPrompt

namespace Text

/-- The body is a stretch of the text, between front and back, and equals the query up to letter
case. -/
structure IsStretch (text query : String) (front body back : List Char) : Prop where
  split : text.toList = front ++ body ++ back
  alike : lower (String.ofList body) = lower query

theorem contains_lower_of_stretch {text query : String} {front body back : List Char}
    (h : IsStretch text query front body back) (hsigmas : KeepsSigmas front body back) :
    contains (lower query).toList (lower text).toList = true := by
  have hbody : lowerBetween front.reverse back body = (lower query).toList := by
    rw [lowerBetween_eq_iff.2 hsigmas, ← h.alike]
    simp [lower]
  rw [contains_iff_isInfix, ← String.ofList_toList (s := text), h.split, toList_lower_append, hbody]
  exact List.infix_append ..

end Text

namespace Candidate

open Text

variable {query : String} {steps : List Step} {catalog : List Media}

/-- Without a limit, the search gives what the catalogs offer and the query matches. -/
theorem mem_search_iff {candidate : Candidate} :
    candidate ∈ search query steps catalog none ↔
      (candidate ∈ steps.map Step.candidate ∨ candidate ∈ catalog.map Media.candidate) ∧
        isIdentifier candidate.identifier = true ∧ candidate.matchesQuery query = true := by
  rw [search, offers, List.mem_filter, List.mem_filter, List.mem_append, and_assoc]

theorem sigma_notMem_of_isIdentifier {text : String} (h : isIdentifier text = true) :
    'Σ' ∉ text.toList := fun hmem => absurd ((isIdentifier_iff.1 h).2 'Σ' hmem) (by decide)

/-- Whatever the catalogs hold, the search for the query offers every step and every medium with a
stretch that equals the query up to letter case. -/
def FindsStretches (query : String) : Prop :=
  ∀ (steps : List Step) (catalog : List Media),
    (∀ step ∈ steps, isIdentifier step.stepName = true →
      ∀ front body back, IsStretch step.stepName query front body back →
        step.candidate ∈ search query steps catalog none) ∧
    ∀ entry ∈ catalog, isIdentifier entry.mediaId = true →
      ∀ front body back, IsStretch entry.effectiveName query front body back →
        entry.candidate ∈ search query steps catalog none

theorem mem_search_of_step_stretch {step : Step} (hstep : step ∈ steps)
    (hid : isIdentifier step.stepName = true) {front body back : List Char}
    (hstretch : IsStretch step.stepName query front body back) :
    step.candidate ∈ search query steps catalog none := by
  have hsigma : 'Σ' ∉ body := fun hmem =>
    sigma_notMem_of_isIdentifier hid (by rw [hstretch.split]; simp [hmem])
  exact mem_search_iff.2 ⟨.inl (List.mem_map_of_mem hstep), hid,
    contains_lower_of_stretch hstretch (keepsSigmas_of_notMem hsigma)⟩

theorem mem_search_of_media_stretch {entry : Media} (hentry : entry ∈ catalog)
    (hid : isIdentifier entry.mediaId = true) {front body back : List Char}
    (hstretch : IsStretch entry.effectiveName query front body back)
    (hsigmas : KeepsSigmas front body back) :
    entry.candidate ∈ search query steps catalog none :=
  mem_search_iff.2 ⟨.inr (List.mem_map_of_mem hentry), hid,
    contains_lower_of_stretch hstretch hsigmas⟩

/-- A label of a letter, the stretch and a letter or a full stop is lost to the search if one of the
sigmas of the stretch has another form there. -/
theorem not_findsStretches_of_changed {body : List Char} {last : Char}
    (halike : lower (String.ofList body) = lower query)
    (hchanged : ¬ KeepsSigmas ['a'] body [last]) (hlast : last = '.' ∨ last = 'a') :
    ¬ FindsStretches query := by
  intro hfinds
  let label := String.ofList (['a'] ++ body ++ [last])
  let entry : Media := { mediaId := "m", url := "u", displayName := some label }
  have htrim : trim label = label :=
    trim_eq_self_of_ends (by decide) (by rcases hlast with rfl | rfl <;> decide) body
  have hlabel : entry.effectiveName = label :=
    Media.effectiveName_of_trimmed rfl htrim (by simp [label])
  have hid : isIdentifier "m" = true := by decide
  have hstretch : IsStretch entry.effectiveName query ['a'] body [last] :=
    ⟨by rw [hlabel, String.toList_ofList], halike⟩
  have hoffered := (hfinds [] [entry]).2 entry List.mem_cons_self hid _ _ _ hstretch
  have hmet := (mem_search_iff.1 hoffered).2.2
  rw [matchesQuery, Media.candidate, hlabel, ← halike,
    not_contains_lower_of_changed hchanged hlast] at hmet
  cases hmet

theorem findsStretches_iff :
    FindsStretches query ↔
      ∀ body, lower (String.ofList body) = lower query →
        ∀ front back, KeepsSigmas front body back := by
  constructor
  · intro hfinds body halike
    refine keepsSigmas_of_two (Classical.byContradiction fun hchanged => ?_)
      (Classical.byContradiction fun hchanged => ?_)
    · exact not_findsStretches_of_changed halike hchanged (.inl rfl) hfinds
    · exact not_findsStretches_of_changed halike hchanged (.inr rfl) hfinds
  · intro hkeeps steps catalog
    exact ⟨fun step hstep hid front body back hstretch =>
        mem_search_of_step_stretch hstep hid hstretch,
      fun entry hentry hid front body back hstretch =>
        mem_search_of_media_stretch hentry hid hstretch (hkeeps body hstretch.alike front back)⟩

/-- The search offers all steps with a stretch that equals the query up to letter case, and all
media with one whose sigmas keep their form; another stretch is not met in its place. Nothing is
lost from any catalog exactly if no surroundings change a sigma of a text that equals the query up
to letter case. -/
theorem mem_search_of_stretch (query : String) (steps : List Step) (catalog : List Media) :
    (∀ step ∈ steps, isIdentifier step.stepName = true →
      ∀ front body back, IsStretch step.stepName query front body back →
        step.candidate ∈ search query steps catalog none) ∧
    (∀ entry ∈ catalog, isIdentifier entry.mediaId = true →
      ∀ front body back, IsStretch entry.effectiveName query front body back →
        (KeepsSigmas front body back → entry.candidate ∈ search query steps catalog none) ∧
        (lowerBetween front.reverse back body = (lower query).toList ↔
          KeepsSigmas front body back)) ∧
    (FindsStretches query ↔
      ∀ body, lower (String.ofList body) = lower query →
        ∀ front back, KeepsSigmas front body back) := by
  refine ⟨fun step hstep hid front body back hstretch =>
      mem_search_of_step_stretch hstep hid hstretch,
    fun entry hentry hid front body back hstretch =>
      ⟨mem_search_of_media_stretch hentry hid hstretch, ?_⟩, findsStretches_iff⟩
  rw [← hstretch.alike, ← lowerBetween_eq_iff]
  simp [lower]

/-- A word that is typed in part in capitals, and a label in which it is followed by another word.
-/
theorem mem_search_of_word :
    let step : Step := { stepName := "park-bench" }
    let entry : Media := { mediaId := "m", url := "u", displayName := some " ΟΔΟΣ ΙΘΑΚΗΣ " }
    let word := "ΟΔΟΣ".toList
    let behind := " ΙΘΑΚΗΣ".toList
    (isIdentifier step.stepName = true ∧
      IsStretch step.stepName "K-Ben" "par".toList "k-ben".toList "ch".toList ∧
      step.candidate ∈ search "K-Ben" [step] [entry] none) ∧
    isIdentifier entry.mediaId = true ∧ IsStretch entry.effectiveName "οδΟΣ" [] word behind ∧
      KeepsSigmas [] word behind ∧ entry.candidate ∈ search "οδΟΣ" [step] [entry] none := by
  intro step entry word behind
  have hstep : isIdentifier step.stepName = true := by decide
  have hpart : IsStretch step.stepName "K-Ben" "par".toList "k-ben".toList "ch".toList :=
    ⟨by decide, by decide +kernel⟩
  have hentry : isIdentifier entry.mediaId = true := by decide
  have hword : IsStretch entry.effectiveName "οδΟΣ" [] word behind :=
    ⟨by decide +kernel, by decide +kernel⟩
  have hsigmas : KeepsSigmas [] word behind := lowerBetween_eq_iff.1 (by decide +kernel)
  exact ⟨⟨hstep, hpart, (mem_search_of_stretch _ [step] [entry]).1 step List.mem_cons_self hstep
      _ _ _ hpart⟩, hentry, hword, hsigmas,
    ((mem_search_of_stretch _ [step] [entry]).2.1 entry List.mem_cons_self hentry _ _ _ hword).1
      hsigmas⟩

/-- A word that a label contains as it is typed is not found if the label goes on with a letter: the
sigma ends the word that is typed, and stands inside the one of the label. -/
theorem search_misses_longer_word :
    let entry : Media := { mediaId := "m", url := "u", displayName := some "ΟΔΟΣΗΜΑΝΣΗ" }
    isIdentifier entry.mediaId = true ∧
      IsStretch entry.effectiveName "ΟΔΟΣ" [] "ΟΔΟΣ".toList "ΗΜΑΝΣΗ".toList ∧
      entry.candidate ∉ search "ΟΔΟΣ" [] [entry] none :=
  ⟨by decide, ⟨by decide +kernel, rfl⟩, by decide +kernel⟩

end Candidate

end MentionPrompt
