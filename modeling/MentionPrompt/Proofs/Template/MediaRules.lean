import Mathlib.Data.List.Nodup
import MentionPrompt.Proofs.Catalog.Snapshot
import MentionPrompt.Proofs.Validation.NameClashes
import MentionPrompt.Template.Basic

/-!
The rules for the media of a template.

A template may be put together in any order: media attached and detached, the text replaced or taken
back from an edited tree. Main statement: whatever is done to it, its media keep writable ids that
differ and names that differ. An entry is refused exactly when it would break these rules, and then
nothing changes; detaching takes one entry out and leaves the others in their order.
-/

namespace MentionPrompt

/-- One thing that is done to a template. -/
inductive TemplateEdit where
  | attach (entry : Media)
  | detach (mediaId : String)
  | setText (text : String)
  | update (tree : Tree)
  deriving DecidableEq, Repr

namespace Template

variable {catalog : List Media} {entry : Media}

/-- The template after one edit. An entry that is refused leaves it as it is. -/
def edit (template : Template) : TemplateEdit → Template
  | .attach entry => (template.attach entry).toOption.getD template
  | .detach mediaId => (template.detach mediaId).2
  | .setText text => { template with canonicalText := text }
  | .update tree => template.update tree

/-- The template after a history of edits. -/
def run (template : Template) (edits : List TemplateEdit) : Template := edits.foldl edit template

/-- What the template asks of its media: a token can hold each id, no two entries have one id, and
no two are shown under one name. -/
structure MediaRules (catalog : List Media) : Prop where
  writable : ∀ entry ∈ catalog, isIdentifier entry.mediaId = true
  ids : (catalog.map Media.mediaId).Nodup
  names : (catalog.map Media.effectiveName).Nodup

/-- The rules leave room for one more entry. -/
structure Admits (catalog : List Media) (entry : Media) : Prop where
  writable : isIdentifier entry.mediaId = true
  id : entry.mediaId ∉ catalog.map Media.mediaId
  name : entry.effectiveName ∉ catalog.map Media.effectiveName

theorem mediaRules_nil : MediaRules [] := ⟨by simp, List.nodup_nil, List.nodup_nil⟩

theorem nodup_map_concat {field : Media → String} : ((catalog ++ [entry]).map field).Nodup ↔
    field entry ∉ catalog.map field ∧ (catalog.map field).Nodup := by
  rw [List.map_append, List.map_singleton, ← List.concat_eq_append, List.nodup_concat]

theorem mediaRules_concat :
    MediaRules (catalog ++ [entry]) ↔ MediaRules catalog ∧ Admits catalog entry := by
  constructor
  · rintro ⟨hwritable, hids, hnames⟩
    obtain ⟨hid, hids⟩ := nodup_map_concat.1 hids
    obtain ⟨hname, hnames⟩ := nodup_map_concat.1 hnames
    exact ⟨⟨fun other hmem => hwritable other (List.mem_append_left _ hmem), hids, hnames⟩,
      ⟨hwritable entry (by simp), hid, hname⟩⟩
  · rintro ⟨⟨hwritable, hids, hnames⟩, hentry, hid, hname⟩
    refine ⟨fun other hmem => ?_, nodup_map_concat.2 ⟨hid, hids⟩,
      nodup_map_concat.2 ⟨hname, hnames⟩⟩
    rcases List.mem_append.1 hmem with hmem | hmem
    · exact hwritable other hmem
    · rwa [List.mem_singleton.1 hmem]

theorem MediaRules.sublist {fewer : List Media} (h : MediaRules catalog)
    (hsub : fewer.Sublist catalog) : MediaRules fewer :=
  ⟨fun entry hmem => h.writable entry (hsub.subset hmem), h.ids.sublist (hsub.map _),
    h.names.sublist (hsub.map _)⟩

/-- Among media that follow the rules, an entry takes no name away exactly if it brings no clash. -/
theorem MediaRules.admits_iff (h : MediaRules catalog) : Admits catalog entry ↔
    isIdentifier entry.mediaId = true ∧ entry.mediaId ∉ catalog.map Media.mediaId ∧
      Validation.nameClashes (catalog ++ [entry]) = [] := by
  rw [Validation.nameClashes_eq_nil_iff, nodup_map_concat]
  exact ⟨fun ⟨hwritable, hid, hname⟩ => ⟨hwritable, hid, hname, h.names⟩,
    fun ⟨hwritable, hid, hname, _⟩ => ⟨hwritable, hid, hname⟩⟩

theorem id_notMem_of_nodup {before after : List Media}
    (h : ((before ++ entry :: after).map Media.mediaId).Nodup) :
    entry.mediaId ∉ (before ++ after).map Media.mediaId := by
  rw [List.map_append, List.map_cons, List.nodup_middle, List.nodup_cons, ← List.map_append] at h
  exact h.1

/-! ### One edit -/

theorem attachError?_eq_none_iff {template : Template} :
    template.attachError? entry = none ↔ Admits template.mediaCatalog entry := by
  have hid : (Media.find? template.mediaCatalog entry.mediaId).isSome = true ↔ _ :=
    Media.isSome_find?
  have hname : template.mediaCatalog.find? (·.effectiveName == entry.effectiveName) = none ↔
      entry.effectiveName ∉ template.mediaCatalog.map Media.effectiveName := by
    simp
  constructor
  · intro h
    unfold attachError? at h
    split at h
    · cases h
    · split at h
      · cases h
      · split at h
        · cases h
        · rename_i hwritable hfree _ hunnamed
          exact ⟨by simpa using hwritable, mt hid.2 hfree, hname.1 hunnamed⟩
  · rintro ⟨hwritable, hfree, hunnamed⟩
    simp only [attachError?, hwritable, Bool.not_true, Bool.false_eq_true, if_false,
      mt hid.1 hfree, hname.2 hunnamed]

/-- An entry that the rules admit is appended, and any other is refused. -/
theorem attach_cases (template : Template) (entry : Media) :
    (Admits template.mediaCatalog entry ∧
      template.attach entry = .ok { template with
        mediaCatalog := template.mediaCatalog ++ [entry] }) ∨
    (¬ Admits template.mediaCatalog entry ∧
      ∃ error, template.attach entry = .error error ∧
        template.edit (.attach entry) = template) := by
  cases herror : template.attachError? entry with
  | none => exact .inl ⟨attachError?_eq_none_iff.1 herror, by rw [attach, herror]⟩
  | some error =>
    have hrefused : template.attach entry = .error error := by rw [attach, herror]
    refine .inr ⟨fun hadmits => ?_, error, hrefused, by rw [edit, hrefused]; rfl⟩
    rw [attachError?_eq_none_iff.2 hadmits] at herror
    cases herror

/-- An attached entry is taken out of its place; without one, nothing happens. -/
theorem detach_cases (template : Template) (mediaId : String) :
    (∃ before entry after, template.mediaCatalog = before ++ entry :: after ∧
      entry.mediaId = mediaId ∧ mediaId ∉ before.map Media.mediaId ∧
      template.detach mediaId = (some entry, { template with mediaCatalog := before ++ after })) ∨
    (mediaId ∉ template.mediaCatalog.map Media.mediaId ∧
      template.detach mediaId = (none, template)) := by
  by_cases hmem : mediaId ∈ template.mediaCatalog.map Media.mediaId
  · obtain ⟨holder, hholder, hid⟩ := List.mem_map.1 hmem
    obtain ⟨entry, before, after, hbefore, hentry, hcatalog, herase⟩ :=
      List.exists_of_eraseP (p := (·.mediaId == mediaId)) hholder (by simpa using hid)
    have hfind : Media.find? template.mediaCatalog mediaId = some entry := by
      rw [hcatalog, Media.find?, List.find?_append, List.find?_eq_none.2 hbefore,
        List.find?_cons, hentry]
      rfl
    refine .inl ⟨before, entry, after, hcatalog, by simpa using hentry, by simpa using hbefore, ?_⟩
    rw [detach, hfind, herase]
  · refine .inr ⟨hmem, ?_⟩
    have hnone : Media.find? template.mediaCatalog mediaId = none := by
      simpa [Media.find?] using hmem
    rw [detach, hnone, List.eraseP_of_forall_not (by simpa using hmem)]

/-! ### Histories -/

theorem mediaRules_edit {template : Template} (h : MediaRules template.mediaCatalog)
    (action : TemplateEdit) : MediaRules (template.edit action).mediaCatalog := by
  cases action with
  | attach entry =>
    rcases template.attach_cases entry with ⟨hadmits, hattach⟩ | ⟨-, error, -, hsame⟩
    · rw [edit, hattach]
      exact mediaRules_concat.2 ⟨h, hadmits⟩
    · rwa [hsame]
  | detach mediaId => exact h.sublist List.eraseP_sublist
  | setText text => exact h
  | update tree => exact h

theorem mediaRules_run {template : Template} (h : MediaRules template.mediaCatalog)
    (edits : List TemplateEdit) : MediaRules (template.run edits).mediaCatalog := by
  induction edits generalizing template with
  | nil => exact h
  | cons action edits ih => exact ih (mediaRules_edit h action)

/-- CORRECT: after any history of edits the media follow the rules, and no name clash is reported.
An entry is appended exactly when a token can hold its id, no other entry has the id and it would
bring no clash; else nothing changes. Detaching takes out the one entry with the id. -/
theorem media_rules_hold (text : String) (edits : List TemplateEdit) :
    let template := run { canonicalText := text } edits
    let catalog := template.mediaCatalog
    (MediaRules catalog ∧ Validation.nameClashes catalog = []) ∧
    (∀ entry,
      let acceptable := isIdentifier entry.mediaId = true ∧
        entry.mediaId ∉ catalog.map Media.mediaId ∧
        Validation.nameClashes (catalog ++ [entry]) = []
      (acceptable ∧
        template.attach entry = .ok { template with mediaCatalog := catalog ++ [entry] }) ∨
      (¬ acceptable ∧ ∃ error, template.attach entry = .error error ∧
        template.edit (.attach entry) = template)) ∧
    ∀ mediaId,
      (∃ before entry after, catalog = before ++ entry :: after ∧ entry.mediaId = mediaId ∧
        mediaId ∉ (before ++ after).map Media.mediaId ∧
        template.detach mediaId = (some entry, { template with mediaCatalog := before ++ after })) ∨
      (mediaId ∉ catalog.map Media.mediaId ∧ template.detach mediaId = (none, template)) := by
  intro template catalog
  have hrules : MediaRules catalog := mediaRules_run mediaRules_nil edits
  refine ⟨⟨hrules, Validation.nameClashes_eq_nil_iff.2 hrules.names⟩, fun entry => ?_,
    fun mediaId => ?_⟩
  · rcases template.attach_cases entry with ⟨hadmits, hattach⟩ | ⟨hrefuses, hrefused⟩
    · exact .inl ⟨hrules.admits_iff.1 hadmits, hattach⟩
    · exact .inr ⟨mt hrules.admits_iff.2 hrefuses, hrefused⟩
  · rcases template.detach_cases mediaId with
      ⟨before, entry, after, hcatalog, rfl, -, hdetach⟩ | hnone
    · have hids : (template.mediaCatalog.map Media.mediaId).Nodup := hrules.ids
      rw [hcatalog] at hids
      exact .inl ⟨before, entry, after, hcatalog, rfl, id_notMem_of_nodup hids, hdetach⟩
    · exact .inr hnone

/-- A name that is set and trimmed can be taken by a name that a path suggests, and is free again
once its entry is detached. -/
example :
    let hero : Media := { mediaId := "a", url := "u", displayName := some " hero " }
    let other : Media := { mediaId := "b", url := "v", storagePath := "uploads/hero-2.png" }
    (run {} [.attach hero, .attach other]).mediaCatalog = [hero] ∧
      (run {} [.attach hero, .detach "a", .attach other]).mediaCatalog = [other] := by
  decide +kernel

end Template

end MentionPrompt
