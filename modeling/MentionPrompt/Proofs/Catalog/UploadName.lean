import Mathlib.Data.List.DropRight
import Mathlib.Data.List.TakeWhile
import MentionPrompt.Catalog.Media

/-!
The display name that a storage path suggests.

        storage path             file name          stem            suggested
        uploads/overlay-8f.png   overlay-8f.png     overlay-8f      overlay
        a.b\backup-1.tar.gz      backup-1.tar.gz    backup-1.tar    backup
        -hidden.png              -hidden.png        -hidden         -hidden
        dir/.env                 .env               .env            .env
        dir/                     nothing            nothing         nothing

Each cut leaves a text at the start of what it cuts, and empties no text that was not empty before.
Main statement: the name depends on the file name alone, is a prefix of it, is empty only with it, and
is the name that an upload was stored under.
-/

namespace MentionPrompt

namespace Upload

/-- A text that a file name can follow in a path: nothing, or one that ends in a separator. -/
def IsDirectory (directory : String) : Prop :=
  ∀ c ∈ directory.toList.getLast?, isSeparator c = true

/-- The name is what stands in the path after its last separator. -/
structure IsFileName (path name : String) : Prop where
  whole : ∀ c ∈ name.toList, isSeparator c = false
  behind : ∃ directory, IsDirectory directory ∧ path = directory ++ name

/-! ### The directory -/

theorem lastComponent_append {directory name : List Char}
    (hdirectory : ∀ c ∈ directory.getLast?, isSeparator c = true)
    (hname : ∀ c ∈ name, isSeparator c = false) : lastComponent (directory ++ name) = name := by
  have hstop : directory.reverse.takeWhile (!isSeparator ·) = [] := by
    cases hlast : directory.reverse with
    | nil => rfl
    | cons c rest =>
      rw [← List.head?_reverse, hlast] at hdirectory
      simp [hdirectory c rfl]
  have hpass : ∀ c ∈ name.reverse, (!isSeparator c) = true := fun c hc => by
    simp [hname c (List.mem_reverse.1 hc)]
  rw [lastComponent, List.reverse_append, List.takeWhile_append_of_pos hpass, hstop,
    List.append_nil, List.reverse_reverse]

/-- What stands before the last component is a directory. -/
theorem lastComponent_spec (path : List Char) :
    (∀ c ∈ lastComponent path, isSeparator c = false) ∧
      ∃ directory : List Char, (∀ c ∈ directory.getLast?, isSeparator c = true) ∧
        path = directory ++ lastComponent path := by
  refine ⟨fun c hc => ?_, path.rdropWhile (!isSeparator ·), fun c hc => ?_,
    List.rdropWhile_append_rtakeWhile.symm⟩
  · simpa using List.mem_rtakeWhile_imp hc
  · obtain ⟨hne, rfl⟩ := List.mem_getLast?_eq_getLast hc
    simpa using List.rdropWhile_last_not (!isSeparator ·) path hne

theorem isFileName_iff {path name : String} :
    IsFileName path name ↔ name.toList = lastComponent path.toList := by
  constructor
  · rintro ⟨hname, directory, hdirectory, rfl⟩
    rw [String.toList_append, lastComponent_append hdirectory hname]
  · intro h
    obtain ⟨hwhole, directory, hdirectory, hpath⟩ := lastComponent_spec path.toList
    refine ⟨h ▸ hwhole, .ofList directory, ?_, ?_⟩
    · rwa [IsDirectory, String.toList_ofList]
    · rw [← String.toList_inj, String.toList_append, String.toList_ofList, h]
      exact hpath

/-- Every path has one file name. -/
theorem existsUnique_isFileName (path : String) : ∃! name, IsFileName path name := by
  refine ⟨.ofList (lastComponent path.toList), isFileName_iff.2 String.toList_ofList, ?_⟩
  intro name hname
  rw [← isFileName_iff.1 hname, String.ofList_toList]

/-- A file name is its own file name. -/
theorem IsFileName.self {path name : String} (h : IsFileName path name) : IsFileName name name :=
  ⟨h.whole, "", by simp [IsDirectory], by simp⟩

/-! ### The extension -/

theorem stem_append_dot {front extension : List Char} (hfront : front ≠ [])
    (h : '.' ∉ extension) : stem (front ++ '.' :: extension) = front := by
  have hpass : ∀ c ∈ extension.reverse, (c != '.') = true := fun c hc =>
    bne_iff_ne.2 (ne_of_mem_of_not_mem (List.mem_reverse.1 hc) h)
  obtain ⟨init, last, rfl⟩ := (List.eq_nil_or_concat front).resolve_left hfront
  simp [stem, List.dropWhile_append_of_pos hpass]

theorem stem_eq_self {name : List Char} (h : '.' ∉ name.tail) : stem name = name := by
  cases name with
  | nil => rfl
  | cons first rest =>
    have hpass : ∀ c ∈ rest.reverse, (c != '.') = true := fun c hc =>
      bne_iff_ne.2 (ne_of_mem_of_not_mem (List.mem_reverse.1 hc) h)
    by_cases hfirst : first = '.' <;>
      simp [stem, List.dropWhile_append_of_pos hpass, hfirst]

/-- A file name has an extension to cut, behind its last dot, or it is its own stem. -/
theorem stem_cases (name : List Char) :
    (∃ extension, stem name ≠ [] ∧ '.' ∉ extension ∧ name = stem name ++ '.' :: extension) ∨
      stem name = name := by
  by_cases hdot : '.' ∈ name.tail
  · obtain ⟨behind, before, hrev, hbehind⟩ :=
      List.eq_append_cons_of_mem (List.mem_reverse.2 hdot)
    have htail : name.tail = before.reverse ++ '.' :: behind.reverse := by
      rw [← List.reverse_reverse name.tail, hrev]
      simp
    have hextension : '.' ∉ behind.reverse := by simpa using hbehind
    cases name with
    | nil => simp at hdot
    | cons first rest =>
      have hname : first :: rest = (first :: before.reverse) ++ '.' :: behind.reverse := by
        rw [List.cons_append, ← htail, List.tail_cons]
      have hstem : stem (first :: rest) = first :: before.reverse := by
        rw [hname]
        exact stem_append_dot (List.cons_ne_nil _ _) hextension
      exact .inl ⟨behind.reverse, by simp [hstem], hextension, by rw [hstem]; exact hname⟩
  · exact .inr (stem_eq_self hdot)

theorem stem_isPrefix (name : List Char) : stem name <+: name := by
  rcases stem_cases name with ⟨extension, -, -, hname⟩ | hself
  · exact ⟨'.' :: extension, hname.symm⟩
  · exact ⟨[], by rw [List.append_nil, hself]⟩

theorem stem_eq_nil_iff {name : List Char} : stem name = [] ↔ name = [] := by
  rcases stem_cases name with ⟨-, hne, -, -⟩ | hself
  · exact ⟨fun h => absurd h hne, by rintro rfl; rfl⟩
  · rw [hself]

/-! ### The first hyphen -/

theorem leadingWord_cases (stem : List Char) :
    (leadingWord stem = stem.takeWhile (· != '-') ∧ leadingWord stem ≠ []) ∨
      (leadingWord stem = stem ∧ stem.takeWhile (· != '-') = []) := by
  unfold leadingWord
  split
  · rename_i hword
    exact .inr ⟨rfl, hword⟩
  · rename_i hword
    exact .inl ⟨hword.symm, List.cons_ne_nil _ _⟩

theorem leadingWord_isPrefix (stem : List Char) : leadingWord stem <+: stem := by
  rcases leadingWord_cases stem with ⟨hword, -⟩ | ⟨hself, -⟩
  · rw [hword]
    exact List.takeWhile_prefix _
  · exact ⟨[], by rw [List.append_nil, hself]⟩

theorem leadingWord_eq_nil_iff {stem : List Char} : leadingWord stem = [] ↔ stem = [] := by
  rcases leadingWord_cases stem with ⟨-, hne⟩ | ⟨hself, -⟩
  · exact ⟨fun h => absurd h hne, by rintro rfl; rfl⟩
  · rw [hself]

/-- A hyphen is kept only where the text starts with one. -/
theorem head?_of_hyphen_mem_leadingWord {stem : List Char} (h : '-' ∈ leadingWord stem) :
    stem.head? = some '-' := by
  rcases leadingWord_cases stem with ⟨hword, -⟩ | ⟨hself, hnone⟩
  · rw [hword] at h
    simpa using List.mem_takeWhile_imp h
  · rw [hself] at h
    cases stem with
    | nil => simp at h
    | cons c rest =>
      have hc : c = '-' := by simpa [List.takeWhile_cons] using hnone
      rw [hc, List.head?_cons]

theorem leadingWord_append {word : List Char} (hne : word ≠ []) (h : '-' ∉ word)
    (rest : List Char) : leadingWord (word ++ '-' :: rest) = word := by
  have hpass : ∀ c ∈ word, (c != '-') = true := fun c hc =>
    bne_iff_ne.2 (ne_of_mem_of_not_mem hc h)
  have htake : (word ++ '-' :: rest).takeWhile (· != '-') = word := by
    rw [List.takeWhile_append_of_pos hpass]
    simp
  obtain ⟨c, more, rfl⟩ := List.exists_cons_of_ne_nil hne
  rw [leadingWord, htake]

/-! ### The whole -/

theorem toList_suggestedName {path name : String} (h : IsFileName path name) :
    (suggestedName path).toList = leadingWord (stem name.toList) := by
  rw [suggestedName, String.toList_ofList, isFileName_iff.1 h]

theorem suggestedName_eq_of_isFileName {path name : String} (h : IsFileName path name) :
    suggestedName path = suggestedName name := by
  rw [← String.toList_inj, toList_suggestedName h, toList_suggestedName h.self]

theorem suggestedName_eq_empty_iff {path name : String} (h : IsFileName path name) :
    suggestedName path = "" ↔ name = "" := by
  rw [← String.toList_eq_nil_iff, toList_suggestedName h, leadingWord_eq_nil_iff, stem_eq_nil_iff,
    String.toList_eq_nil_iff]

theorem suggestedName_isPrefix {path name : String} (h : IsFileName path name) :
    (suggestedName path).toList <+: name.toList := by
  rw [toList_suggestedName h]
  exact (leadingWord_isPrefix _).trans (stem_isPrefix _)

theorem head?_of_hyphen_mem_suggestedName {path name : String} (h : IsFileName path name)
    (hhyphen : '-' ∈ (suggestedName path).toList) : name.toList.head? = some '-' := by
  rw [toList_suggestedName h] at hhyphen
  have hstem := head?_of_hyphen_mem_leadingWord hhyphen
  obtain ⟨extension, hname⟩ := stem_isPrefix name.toList
  rw [← hname, List.head?_append, hstem, Option.some_or]

/-! ### The naming scheme of uploads -/

/-- The file name of an upload: its name, a hyphen, a suffix, a dot and an extension. -/
def fileName (name suffix extension : String) : String :=
  name ++ "-" ++ suffix ++ "." ++ extension

/-- What the scheme asks of the parts of a storage path. -/
structure FollowsScheme (directory name suffix extension : String) : Prop where
  directory_ends : IsDirectory directory
  name_ne_empty : name ≠ ""
  name_plain : ∀ c ∈ name.toList, c ≠ '-' ∧ isSeparator c = false
  suffix_plain : ∀ c ∈ suffix.toList, isSeparator c = false
  extension_plain : ∀ c ∈ extension.toList, c ≠ '.' ∧ isSeparator c = false

theorem toList_fileName (name suffix extension : String) :
    (fileName name suffix extension).toList
      = (name.toList ++ '-' :: suffix.toList) ++ '.' :: extension.toList := by
  simp [fileName]

variable {directory name suffix extension : String}

theorem FollowsScheme.isFileName (h : FollowsScheme directory name suffix extension) :
    IsFileName (directory ++ fileName name suffix extension) (fileName name suffix extension) := by
  refine ⟨fun c hc => ?_, directory, h.directory_ends, rfl⟩
  rw [toList_fileName] at hc
  simp only [List.mem_append, List.mem_cons] at hc
  rcases hc with (hname | rfl | hsuffix) | rfl | hextension
  · exact (h.name_plain c hname).2
  · rfl
  · exact h.suffix_plain c hsuffix
  · rfl
  · exact (h.extension_plain c hextension).2

/-- What an upload was called is what its path suggests. -/
theorem FollowsScheme.suggestedName_eq (h : FollowsScheme directory name suffix extension) :
    suggestedName (directory ++ fileName name suffix extension) = name := by
  have hhyphen : '-' ∉ name.toList := fun hmem => (h.name_plain _ hmem).1 rfl
  have hdot : '.' ∉ extension.toList := fun hmem => (h.extension_plain _ hmem).1 rfl
  have hname : name.toList ≠ [] := by simpa using h.name_ne_empty
  rw [← String.toList_inj, toList_suggestedName h.isFileName, toList_fileName,
    stem_append_dot (by simp) hdot, leadingWord_append hname hhyphen]

end Upload

/-- An entry that has an id is always shown under some name. -/
theorem Media.effectiveName_ne_empty {entry : Media} (h : entry.mediaId ≠ "") :
    entry.effectiveName ≠ "" := by
  unfold effectiveName
  cases hown : entry.ownName? with
  | some own =>
    have hfull := (Option.filter_eq_some_iff.1 hown).2
    simpa using hfull
  | none =>
    rw [Option.getD_none, fallbackName]
    split
    · exact h
    · rename_i hderived
      simpa using hderived

namespace Upload

/-- CORRECT: every path has one file name, and the name that the path suggests is that of the file
name: a prefix of it that is empty only with it and has a hyphen only where the file name starts with
one. The name that an upload was stored under is suggested again, and an entry that has an id is
always shown under some name. -/
theorem suggestedName_follows_scheme :
    (∀ path : String, (∃! name, IsFileName path name) ∧ ∀ name, IsFileName path name →
      suggestedName path = suggestedName name ∧ (suggestedName path = "" ↔ name = "") ∧
        (suggestedName path).toList <+: name.toList ∧
        ('-' ∈ (suggestedName path).toList → name.toList.head? = some '-')) ∧
    (∀ directory name suffix extension : String,
      FollowsScheme directory name suffix extension →
        suggestedName (directory ++ fileName name suffix extension) = name) ∧
    ∀ entry : Media, entry.mediaId ≠ "" → entry.effectiveName ≠ "" :=
  ⟨fun path => ⟨existsUnique_isFileName path, fun _ h => ⟨suggestedName_eq_of_isFileName h,
    suggestedName_eq_empty_iff h, suggestedName_isPrefix h, head?_of_hyphen_mem_suggestedName h⟩⟩,
    fun _ _ _ _ h => h.suggestedName_eq, fun _ h => Media.effectiveName_ne_empty h⟩

/-- A path with both separators, a name with a dot and a blank in it, and a suffix with a hyphen and
a dot. -/
theorem suggestedName_of_mixed_path :
    FollowsScheme "C:\\media/" "ab. é" "8-f.2" "png" ∧
      suggestedName ("C:\\media/" ++ fileName "ab. é" "8-f.2" "png") = "ab. é" ∧
      IsFileName "C:\\media/-x-y.png" "-x-y.png" ∧
      suggestedName "C:\\media/-x-y.png" = suggestedName "-x-y.png" ∧
      Media.effectiveName ⟨"m", "u", "uploads/", some " "⟩ ≠ "" := by
  have hscheme : FollowsScheme "C:\\media/" "ab. é" "8-f.2" "png" :=
    ⟨by simp [IsDirectory, isSeparator], by simp, by simp [isSeparator], by simp [isSeparator],
      by simp [isSeparator]⟩
  have hfile : IsFileName "C:\\media/-x-y.png" "-x-y.png" := isFileName_iff.2 (by decide)
  exact ⟨hscheme, suggestedName_follows_scheme.2.1 _ _ _ _ hscheme, hfile,
    ((suggestedName_follows_scheme.1 _).2 _ hfile).1,
    suggestedName_follows_scheme.2.2 ⟨"m", "u", "uploads/", some " "⟩ (by decide)⟩

end Upload

end MentionPrompt
