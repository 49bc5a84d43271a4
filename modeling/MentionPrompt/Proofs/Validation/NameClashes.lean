import Mathlib.Data.List.Nodup
import Mathlib.Data.List.Induction
import MentionPrompt.Validation.Checks

/-!
Names that several media share.

        media          a: hero    b: dusk    c: hero    d: dawn    e: dusk
        groups         hero: a c    dusk: b e    dawn: d
        positions      hero: 0      dusk: 1      dawn: 2
        reported       hero: a c    dusk: b e

The check goes through the media once and files each under its name. Main statements: what is filed
under a name are the ids of all entries that are shown under it, and the position noted for a name
is that of its group; so each name that several entries carry is reported once, with all their ids,
in the order in which the names come up, and nothing is reported exactly when no two entries are
shown under one name.
-/

namespace MentionPrompt.Validation

/-- The names under which the media are shown, each once, in the order in which they come up. -/
def displayNames (catalog : List Media) : List String :=
  (catalog.map Media.effectiveName).eraseDups

/-- The ids of all entries that are shown under the name, in catalog order. -/
def idsNamed (catalog : List Media) (name : String) : List String :=
  (catalog.filter (·.effectiveName == name)).map Media.mediaId

/-- All that is shown under the name. -/
def groupNamed (catalog : List Media) (name : String) : NameClash := ⟨name, idsNamed catalog name⟩

@[simp] theorem displayName_groupNamed (catalog : List Media) (name : String) :
    (groupNamed catalog name).displayName = name := rfl

/-! ### One more entry -/

theorem mem_displayNames {catalog : List Media} {name : String} :
    name ∈ displayNames catalog ↔ name ∈ catalog.map Media.effectiveName :=
  List.mem_eraseDups

theorem displayNames_concat (catalog : List Media) (entry : Media) :
    displayNames (catalog ++ [entry]) = displayNames catalog ++
      if entry.effectiveName ∈ displayNames catalog then [] else [entry.effectiveName] := by
  simp only [mem_displayNames]
  rw [displayNames, List.map_append, List.eraseDups_append, displayNames, List.removeAll,
    List.map_singleton]
  by_cases hmem : entry.effectiveName ∈ catalog.map Media.effectiveName
  · rw [List.filter_cons_of_neg (by simpa using hmem), if_pos hmem]
    rfl
  · rw [List.filter_cons_of_pos (by simpa using hmem), if_neg hmem]
    rfl

/-- How many entries stand before the first that is shown under the name. -/
def firstUse (catalog : List Media) (name : String) : Nat :=
  (catalog.map Media.effectiveName).idxOf name

theorem firstUse_concat_of_mem {catalog : List Media} {name : String}
    (h : name ∈ displayNames catalog) (entry : Media) :
    firstUse (catalog ++ [entry]) name = firstUse catalog name := by
  rw [firstUse, List.map_append, List.idxOf_append_of_mem (mem_displayNames.1 h), firstUse]

/-- A name that is new comes up after all others. -/
theorem firstUse_concat_of_notMem {catalog : List Media} {entry : Media}
    (h : entry.effectiveName ∉ displayNames catalog) :
    firstUse (catalog ++ [entry]) entry.effectiveName = catalog.length := by
  rw [mem_displayNames] at h
  rw [firstUse, List.map_append, List.idxOf_append_of_notMem h]
  simp

theorem firstUse_lt {catalog : List Media} {name : String} (h : name ∈ displayNames catalog) :
    firstUse catalog name < catalog.length := by
  have hlt := List.idxOf_lt_length_of_mem (mem_displayNames.1 h)
  rwa [List.length_map] at hlt

theorem pairwise_displayNames (catalog : List Media) :
    (displayNames catalog).Pairwise fun a b => firstUse catalog a < firstUse catalog b := by
  induction catalog using List.reverseRecOn with
  | nil => exact List.Pairwise.nil
  | append_singleton catalog entry ih =>
    have hold : (displayNames catalog).Pairwise fun a b =>
        firstUse (catalog ++ [entry]) a < firstUse (catalog ++ [entry]) b := by
      refine ih.imp_of_mem fun ha hb hlt => ?_
      rwa [firstUse_concat_of_mem ha, firstUse_concat_of_mem hb]
    rw [displayNames_concat]
    split
    · rwa [List.append_nil]
    · rename_i hnew
      refine List.pairwise_append.2
        ⟨hold, List.pairwise_singleton .., fun name hname last hlast => ?_⟩
      rw [List.mem_singleton.1 hlast, firstUse_concat_of_mem hname, firstUse_concat_of_notMem hnew]
      exact firstUse_lt hname

theorem nodup_displayNames (catalog : List Media) : (displayNames catalog).Nodup := by
  refine (pairwise_displayNames catalog).imp fun hlt heq => ?_
  rw [heq] at hlt
  exact Nat.lt_irrefl _ hlt

theorem idsNamed_of_notMem {catalog : List Media} {name : String}
    (h : name ∉ displayNames catalog) : idsNamed catalog name = [] := by
  simpa [mem_displayNames, idsNamed] using h

theorem groupNamed_concat_self (catalog : List Media) (entry : Media) :
    groupNamed (catalog ++ [entry]) entry.effectiveName
      = ⟨entry.effectiveName, idsNamed catalog entry.effectiveName ++ [entry.mediaId]⟩ := by
  simp [groupNamed, idsNamed]

theorem groupNamed_concat_of_ne {catalog : List Media} {entry : Media} {name : String}
    (h : name ≠ entry.effectiveName) :
    groupNamed (catalog ++ [entry]) name = groupNamed catalog name := by
  simp [groupNamed, idsNamed, Ne.symm h]

theorem map_groupNamed_concat {catalog : List Media} {entry : Media} {names : List String}
    (h : entry.effectiveName ∉ names) :
    names.map (groupNamed (catalog ++ [entry])) = names.map (groupNamed catalog) :=
  List.map_congr_left fun _ hname => groupNamed_concat_of_ne fun heq => h (heq ▸ hname)

/-- The media are grouped by name: each name that comes up has one group, at the position that is
noted for it, and the group holds all that is shown under the name. -/
structure Groups (catalog : List Media) (grouping : Grouping) : Prop where
  groups : grouping.groups = (displayNames catalog).map (groupNamed catalog)
  positions : ∀ name index, grouping.positions.lookup name = some index ↔
    (displayNames catalog)[index]? = some name

theorem Groups.lookup_eq_none_iff {catalog : List Media} {grouping : Grouping}
    (h : Groups catalog grouping) {name : String} :
    grouping.positions.lookup name = none ↔ name ∉ displayNames catalog := by
  rw [List.mem_iff_getElem?, Option.eq_none_iff_forall_ne_some, not_exists]
  exact forall_congr' fun index => not_congr (h.positions name index)

theorem getElem?_concat_eq_some_iff {list : List String} {last member : String} {index : Nat} :
    (list ++ [last])[index]? = some member ↔
      list[index]? = some member ∨ (list.length = index ∧ last = member) := by
  rw [List.getElem?_append]
  split
  · rename_i hlt
    simp [Nat.ne_of_gt hlt]
  · rename_i hge
    rw [List.getElem?_eq_none (Nat.not_lt.1 hge), List.getElem?_singleton]
    by_cases hlast : index = list.length
    · simp [hlast]
    · have hpos : index - list.length ≠ 0 := by omega
      simp [hpos, Ne.symm hlast]

/-- The entry goes into the group of its name, and the other groups stay as they are. -/
theorem modify_map_groupNamed {catalog : List Media} {entry : Media} {names : List String}
    (hnodup : names.Nodup) {index : Nat} (hindex : names[index]? = some entry.effectiveName) :
    (names.map (groupNamed catalog)).modify index
        (fun group => { group with mediaIds := group.mediaIds ++ [entry.mediaId] })
      = names.map (groupNamed (catalog ++ [entry])) := by
  refine List.ext_getElem? fun other => ?_
  rw [List.getElem?_modify, List.getElem?_map, List.getElem?_map]
  cases hother : names[other]? with
  | none => rfl
  | some name =>
    by_cases heq : index = other
    · subst heq
      rw [hother, Option.some.injEq] at hindex
      subst hindex
      rw [Option.map_some, Option.map_some, groupNamed_concat_self]
      simp [groupNamed]
    · have hne : name ≠ entry.effectiveName := by
        rintro rfl
        have hlt := (List.getElem?_eq_some_iff.1 hindex).1
        exact heq ((List.getElem?_inj hlt hnodup).1 (hindex.trans hother.symm))
      simp [heq, groupNamed_concat_of_ne hne]

/-- An entry is filed into the group of its name, or starts one at the end if there is none yet. -/
theorem groups_file {catalog : List Media} {grouping : Grouping} (h : Groups catalog grouping)
    (entry : Media) : Groups (catalog ++ [entry]) (grouping.file entry) := by
  cases hlookup : grouping.positions.lookup entry.effectiveName with
  | some index =>
    have hindex := (h.positions _ index).1 hlookup
    have hnames : displayNames (catalog ++ [entry]) = displayNames catalog := by
      rw [displayNames_concat, if_pos (List.mem_of_getElem? hindex), List.append_nil]
    rw [Grouping.file, hlookup]
    refine ⟨?_, fun name other => ?_⟩
    · rw [hnames, h.groups]
      exact modify_map_groupNamed (nodup_displayNames catalog) hindex
    · rw [hnames]
      exact h.positions name other
  | none =>
    have hnew := h.lookup_eq_none_iff.1 hlookup
    have hnames : displayNames (catalog ++ [entry])
        = displayNames catalog ++ [entry.effectiveName] := by
      rw [displayNames_concat, if_neg hnew]
    have hlength : grouping.groups.length = (displayNames catalog).length := by
      rw [h.groups, List.length_map]
    rw [Grouping.file, hlookup]
    refine ⟨?_, fun name index => ?_⟩
    · rw [hnames, List.map_append, map_groupNamed_concat hnew, ← h.groups, List.map_singleton,
        groupNamed_concat_self, idsNamed_of_notMem hnew, List.nil_append]
    · rw [hnames, getElem?_concat_eq_some_iff, ← h.positions, List.lookup_cons, hlength]
      by_cases heq : name = entry.effectiveName
      · simp [heq, hlookup]
      · simp [beq_false_of_ne heq, Ne.symm heq]

/-- The check files every entry under the name that it is shown under. -/
theorem groups_groupByName (catalog : List Media) : Groups catalog (groupByName catalog) := by
  induction catalog using List.reverseRecOn with
  | nil => exact ⟨rfl, by simp [groupByName, displayNames]⟩
  | append_singleton catalog entry ih =>
    rw [groupByName, List.foldl_append]
    exact groups_file ih entry

/-! ### What is reported -/

theorem length_idsNamed (catalog : List Media) (name : String) :
    (idsNamed catalog name).length = (catalog.map Media.effectiveName).count name := by
  rw [idsNamed, List.length_map, List.count, List.countP_map, List.countP_eq_length_filter]
  rfl

theorem nameClashes_eq (catalog : List Media) :
    nameClashes catalog
      = ((displayNames catalog).filter fun name => 1 < (idsNamed catalog name).length).map
          (groupNamed catalog) := by
  rw [nameClashes, (groups_groupByName catalog).groups, List.filter_map]
  rfl

/-- Under a name, all that is shown under it is reported together, or nothing is. -/
theorem nameClashes_named (catalog : List Media) (name : String) :
    (nameClashes catalog).filter (·.displayName == name)
      = if 1 < (idsNamed catalog name).length then [groupNamed catalog name] else [] := by
  have hnamed : (nameClashes catalog).filter (·.displayName == name)
      = (((displayNames catalog).filter (· == name)).filter
          fun name => 1 < (idsNamed catalog name).length).map (groupNamed catalog) := by
    rw [nameClashes_eq, List.filter_map, List.filter_filter, List.filter_filter]
    congr 1
    exact List.filter_congr fun other _ => Bool.and_comm ..
  rw [hnamed, List.filter_beq]
  by_cases hmem : name ∈ displayNames catalog
  · rw [List.count_eq_one_of_mem (nodup_displayNames catalog) hmem, List.replicate_one]
    by_cases hseveral : 1 < (idsNamed catalog name).length <;> simp [hseveral]
  · rw [List.count_eq_zero_of_not_mem hmem, idsNamed_of_notMem hmem]
    rfl

/-- Nothing is reported exactly when all entries are shown under names of their own. -/
theorem nameClashes_eq_nil_iff {catalog : List Media} :
    nameClashes catalog = [] ↔ (catalog.map Media.effectiveName).Nodup := by
  have hcount : nameClashes catalog = [] ↔
      ∀ name ∈ displayNames catalog, (catalog.map Media.effectiveName).count name ≤ 1 := by
    simp only [nameClashes_eq, List.map_eq_nil_iff, List.filter_eq_nil_iff, length_idsNamed,
      decide_eq_true_eq, Nat.not_lt]
  rw [hcount, List.nodup_iff_count_le_one]
  constructor
  · intro h name
    by_cases hmem : name ∈ catalog.map Media.effectiveName
    · exact h name (mem_displayNames.2 hmem)
    · rw [List.count_eq_zero_of_not_mem hmem]
      exact Nat.zero_le 1
  · exact fun h name _ => h name

/-- CORRECT: of each name that several entries carry, one clash is reported, with the ids of all
these entries in the order of the catalog, and of any other name none is. The clashes stand in the
order in which their names come up. So none is reported exactly if no name repeats. And at every
moment of the check, the position that is noted for a name is that of a group, and of its own. -/
theorem every_clash_reported_once (catalog : List Media) :
    (∀ name,
      let ids := (catalog.filter (·.effectiveName == name)).map Media.mediaId
      (nameClashes catalog).filter (·.displayName == name)
        = if 2 ≤ ids.length then [⟨name, ids⟩] else []) ∧
    ((nameClashes catalog).Pairwise fun a b =>
      firstUse catalog a.displayName < firstUse catalog b.displayName) ∧
    (nameClashes catalog = [] ↔ (catalog.map Media.effectiveName).Nodup) ∧
    ∀ part, part <+: catalog → ∀ name index,
      (groupByName part).positions.lookup name = some index →
        ∃ h : index < (groupByName part).groups.length,
          (groupByName part).groups[index].displayName = name := by
  refine ⟨nameClashes_named catalog, ?_, nameClashes_eq_nil_iff,
    fun part _ name index hlookup => ?_⟩
  · rw [nameClashes_eq, List.pairwise_map]
    exact (pairwise_displayNames catalog).filter _
  · have hgroups := groups_groupByName part
    have hname := (hgroups.positions name index).1 hlookup
    have hgroup : (groupByName part).groups[index]? = some (groupNamed part name) := by
      rw [hgroups.groups, List.getElem?_map, hname]
      rfl
    obtain ⟨hindex, heq⟩ := List.getElem?_eq_some_iff.1 hgroup
    exact ⟨hindex, by rw [heq, displayName_groupNamed]⟩

/-- A name that is set and trimmed, one that a path suggests and one that is an id can meet, and the
names of other entries may stand between them. -/
example :
    nameClashes
      [{ mediaId := "a", url := "", displayName := some " hero " },
        { mediaId := "dusk", url := "" },
        { mediaId := "b", url := "", storagePath := "up/hero-1.png" },
        { mediaId := "c", url := "" },
        { mediaId := "d", url := "", displayName := some "dusk" },
        { mediaId := "hero", url := "" }]
      = [⟨"hero", ["a", "b", "hero"]⟩, ⟨"dusk", ["dusk", "d"]⟩] := by
  decide +kernel

end MentionPrompt.Validation
