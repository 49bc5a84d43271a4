import MentionPrompt.Proofs.Template.MediaRules
import MentionPrompt.Proofs.Validation.Dangling
import MentionPrompt.Template.Yaml

/-!
Media that another entry of the same id hides.

Attaching refuses an id that is taken. A document is read as it stands, and the report compares only
the names under which the media are shown. So of two entries with one id it finds those that share a
name as well, and lets the others pass; of these only the first is ever looked up. Main statement: a
template with a clean report is free of hidden entries exactly when no id is shown under two names.
-/

namespace MentionPrompt.Template

variable {template : Template} {catalog : List Media} {steps : Option (List Step)}

/-- No id is shown under two names. -/
def OneNamePerId (catalog : List Media) : Prop :=
  ∀ a ∈ catalog, ∀ b ∈ catalog, a.mediaId = b.mediaId → a.effectiveName = b.effectiveName

instance (catalog : List Media) : Decidable (OneNamePerId catalog) :=
  inferInstanceAs (Decidable (∀ a ∈ catalog, ∀ b ∈ catalog, _ → _))

/-- The entry is the only one of the catalog with its id, and found under it. -/
def IsAlone (catalog : List Media) (entry : Media) : Prop :=
  catalog.filter (·.mediaId == entry.mediaId) = [entry] ∧
    Media.find? catalog entry.mediaId = some entry

/-- No entry hides another: ids differ, a mention means the only entry with its id, every entry is
the only one with its own, and after an id is detached nothing is left under it. -/
structure Unshadowed (template : Template) : Prop where
  ids : (template.mediaCatalog.map Media.mediaId).Nodup
  mentioned : ∀ mediaId, .reference .media mediaId ∈ template.segments →
    ∃ entry, entry.mediaId = mediaId ∧ IsAlone template.mediaCatalog entry
  attached : ∀ entry ∈ template.mediaCatalog, IsAlone template.mediaCatalog entry
  detached : ∀ mediaId, mediaId ∉ (template.detach mediaId).2.mediaCatalog.map Media.mediaId

/-- Among media shown under different names, ids can only meet under different names. -/
theorem nodup_ids_iff (h : (catalog.map Media.effectiveName).Nodup) :
    (catalog.map Media.mediaId).Nodup ↔ OneNamePerId catalog := by
  constructor
  · intro hids a ha b hb heq
    rw [List.inj_on_of_nodup_map hids ha hb heq]
  · intro hone
    refine (h.of_map _).map_on fun a ha b hb heq => ?_
    exact List.inj_on_of_nodup_map h ha hb (hone a ha b hb heq)

theorem isAlone_of_nodup (h : (catalog.map Media.mediaId).Nodup) {entry : Media}
    (hmem : entry ∈ catalog) : IsAlone catalog entry := by
  have hfilter : catalog.filter (·.mediaId == entry.mediaId) = [entry] := by
    obtain ⟨before, after, rfl⟩ := List.append_of_mem hmem
    have hother := id_notMem_of_nodup h
    rw [List.map_append, List.mem_append, not_or] at hother
    have hnone : ∀ part : List Media, entry.mediaId ∉ part.map Media.mediaId →
        part.filter (·.mediaId == entry.mediaId) = [] := by
      intro part hpart
      simpa using hpart
    rw [List.filter_append, List.filter_cons, if_pos (beq_self_eq_true _), hnone _ hother.1,
      hnone _ hother.2, List.nil_append]
  exact ⟨hfilter, Media.find?_eq_of_nodup h hmem⟩

/-- Once the ids differ, nothing of the template is hidden. -/
theorem unshadowed_of_nodup (hclean : (template.validateForRun steps).isClean = true)
    (hids : (template.mediaCatalog.map Media.mediaId).Nodup) : template.Unshadowed := by
  refine ⟨hids, fun mediaId hmention => ?_, fun entry => isAlone_of_nodup hids, fun mediaId => ?_⟩
  · obtain ⟨entry, hentry, rfl⟩ := List.mem_map.1 (mem_catalog_of_isClean hclean hmention)
    exact ⟨entry, rfl, isAlone_of_nodup hids hentry⟩
  · rcases template.detach_cases mediaId with
      ⟨before, entry, after, hcatalog, rfl, -, hdetach⟩ | ⟨hnone, hdetach⟩
    · rw [hcatalog] at hids
      rw [hdetach]
      exact id_notMem_of_nodup hids
    · rwa [hdetach]

/-- Media that follow the rules can be attached one by one to the bare text. -/
theorem run_attach (text : String) (h : MediaRules catalog) :
    run { canonicalText := text } (catalog.map .attach)
      = { canonicalText := text, mediaCatalog := catalog } := by
  induction catalog using List.reverseRecOn with
  | nil => rfl
  | append_singleton catalog entry ih =>
    obtain ⟨hrules, hadmits⟩ := mediaRules_concat.1 h
    have hlast : run { canonicalText := text } ((catalog ++ [entry]).map .attach)
        = (run { canonicalText := text } (catalog.map .attach)).edit (.attach entry) := by
      rw [run, List.map_append, List.foldl_append]
      rfl
    rw [hlast, ih hrules]
    rcases attach_cases { canonicalText := text, mediaCatalog := catalog } entry with
      ⟨-, hattach⟩ | ⟨hrefuses, -⟩
    · rw [edit, hattach]
      rfl
    · exact absurd hadmits hrefuses

/-- Attaching the media of the template one by one to its bare text gives the template. -/
def IsRebuilt (template : Template) : Prop :=
  run { canonicalText := template.canonicalText } (template.mediaCatalog.map .attach) = template

theorem isRebuilt_iff : template.IsRebuilt ↔ MediaRules template.mediaCatalog := by
  constructor
  · intro h
    rw [← h]
    exact mediaRules_run mediaRules_nil _
  · exact run_attach template.canonicalText

/-- A clean report leaves one way for ids to meet, that of two entries under different names.
Nothing is hidden exactly if there is no such pair, and the media could have been attached exactly
if besides a token can hold each id. -/
theorem unshadowed_iff_one_name_per_id (h : (template.validateForRun steps).isClean = true) :
    (template.Unshadowed ↔ OneNamePerId template.mediaCatalog) ∧
      (template.IsRebuilt ↔ (∀ entry ∈ template.mediaCatalog, isIdentifier entry.mediaId = true) ∧
        OneNamePerId template.mediaCatalog) := by
  have hnames : (template.mediaCatalog.map Media.effectiveName).Nodup := by
    rw [← Validation.nameClashes_eq_nil_iff, ← nameClashes_validateForRun template steps]
    exact (Report.isClean_iff.1 h).1
  have hids := nodup_ids_iff hnames
  refine ⟨⟨fun hfree => hids.1 hfree.ids, fun hone => unshadowed_of_nodup h (hids.2 hone)⟩, ?_⟩
  rw [isRebuilt_iff]
  exact ⟨fun hrules => ⟨hrules.writable, hids.1 hrules.ids⟩,
    fun ⟨hwritable, hone⟩ => ⟨hwritable, hids.2 hone, hnames⟩⟩

/-- A document whose two media are shown under a name of their own and one that the path suggests.
-/
theorem unshadowed_of_two_names :
    let template : Template :=
      { canonicalText := "@{ref:a}"
        mediaCatalog := [{ mediaId := "b", url := "u", displayName := some "hero" },
          { mediaId := "a", url := "v", storagePath := "up/dusk-1.png" }] }
    (ofYaml ("canonical_text: '@{ref:a}'
media_catalog:
- media_id: b
  url: u
" ++
        "  display_name: hero
- media_id: a
  url: v
  storage_path: up/dusk-1.png
")).toOption
      = some template ∧
    (template.validateForRun none).isClean = true ∧ template.Unshadowed ∧ template.IsRebuilt := by
  intro template
  have hclean : (template.validateForRun none).isClean = true := by decide +kernel
  have hone : OneNamePerId template.mediaCatalog := by decide +kernel
  obtain ⟨hfree, hrebuilt⟩ := unshadowed_iff_one_name_per_id hclean
  exact ⟨by decide +kernel, hclean, hfree.2 hone, hrebuilt.2 ⟨by decide +kernel, hone⟩⟩

/-- A document that gives one id to two media of different names is reported clean, though its
second entry is never looked up and is still there once the id is detached. -/
theorem clean_report_of_shadowed_media :
    let hero : Media := { mediaId := "a", url := "u", displayName := some "hero" }
    let dusk : Media := { mediaId := "a", url := "v", displayName := some "dusk" }
    let template : Template := { canonicalText := "@{ref:a}", mediaCatalog := [hero, dusk] }
    (ofYaml ("canonical_text: '@{ref:a}'
media_catalog:
- media_id: a
  url: u
" ++
        "  display_name: hero
- media_id: a
  url: v
  display_name: dusk
")).toOption
      = some template ∧
    (template.validateForRun none).isClean = true ∧
    (template.validateForRun (some [])).isClean = true ∧
    ¬ (template.mediaCatalog.map Media.mediaId).Nodup ∧
    Media.find? template.mediaCatalog "a" = some hero ∧
    (template.detach "a").2.mediaCatalog = [dusk] := by
  decide +kernel

end MentionPrompt.Template
