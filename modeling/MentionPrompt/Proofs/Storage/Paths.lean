import Mathlib.Data.List.Infix
import Mathlib.Data.List.TakeWhile
import MentionPrompt.Storage.Path

/-!
What the parent of a path is as a text and by its parts.

Main statements: the parent is the text in front of the last component, and its parts come before the
last part of the path. So who follows a path goes through the directory that its last component
stands in. A name with a dot in front, put in the parent, is another path than the one that ends in
the name, and no directory that this one stands in.
-/

namespace MentionPrompt.Path

/-! ### Parts -/

theorem parts_append_slash (a b : List Char) :
    parts (.ofList (a ++ '/' :: b)) = parts (.ofList a) ++ parts (.ofList b) := by
  simp only [parts, String.toList_ofList, List.splitOn]
  rw [List.splitOnP_append_cons a b (by simp), List.filterMap_append]

theorem parts_of_notMem {name : List Char} (hne : name ≠ []) (h : '/' ∉ name) :
    parts (.ofList name) = [.ofList name] := by
  simp [parts, List.splitOn_eq_singleton h, hne]

theorem parts_reverse_slash (s : List Char) :
    parts (.ofList ('/' :: s).reverse) = parts (.ofList s.reverse) := by
  have hempty : parts (.ofList []) = [] := rfl
  rw [List.reverse_cons, parts_append_slash, hempty, List.append_nil]

theorem isAbsolute_of_parts_eq_nil {path : String} (hne : path ≠ "") (h : parts path = []) :
    isAbsolute path = true := by
  unfold isAbsolute
  cases hchars : path.toList with
  | nil => exact absurd (String.toList_eq_nil_iff.1 hchars) hne
  | cons c rest =>
    by_contra hslash
    obtain ⟨first, others, hsplit⟩ :=
      List.exists_cons_of_ne_nil (List.splitOnP_ne_nil (· == '/') rest)
    have hc : c ≠ '/' := by simpa using hslash
    simp [parts, hchars, List.splitOn, List.splitOnP_cons_eq_if_modifyHead, hsplit, hc] at h

/-! ### Trimming -/

theorem trimEnd_suffix (s : List Char) : trimEnd s <:+ s := by
  fun_induction trimEnd s with
  | case1 => exact List.suffix_rfl
  | case2 rest _ ih => exact ih.trans (List.suffix_cons _ _)
  | case3 rest ih => exact ih.trans (List.suffix_cons _ _)
  | case4 => exact List.suffix_rfl

/-- Trimming takes away dots at most. -/
theorem parts_trimEnd_prefix (s : List Char) :
    parts (.ofList (trimEnd s).reverse) <+: parts (.ofList s.reverse) := by
  fun_induction trimEnd s with
  | case1 => exact List.prefix_rfl
  | case2 rest _ ih => rwa [parts_reverse_slash]
  | case3 rest ih =>
    have hdot : ('.' :: '/' :: rest).reverse = rest.reverse ++ '/' :: ['.'] := by simp
    rw [hdot, parts_append_slash, ← parts_reverse_slash rest]
    exact ih.trans (List.prefix_append _ _)
  | case4 => exact List.prefix_rfl

/-! ### The parent -/

/-- The path without its end that says nothing is the last component and, if that is not all, a slash
and what stands before it. -/
theorem splitLast_spec (path : String) :
    '/' ∉ (splitLast path).1 ∧
      (splitLast path).1 ++ (splitLast path).2 = trimEnd path.toList.reverse ∧
      ((splitLast path).2 = [] ∨ ∃ before, (splitLast path).2 = '/' :: before) := by
  refine ⟨fun hmem => ?_, List.takeWhile_append_dropWhile, ?_⟩
  · simpa using List.mem_takeWhile_imp hmem
  · cases hrest : (splitLast path).2 with
    | nil => exact .inl rfl
    | cons c before =>
      have hhead := List.head?_dropWhile_not (· != '/') (trimEnd path.toList.reverse)
      have hc : (trimEnd path.toList.reverse).dropWhile (· != '/') = c :: before := hrest
      rw [hc] at hhead
      simp at hhead
      exact .inr ⟨before, by rw [hhead]⟩

/-- What trimming takes away has a slash in front of each dot, the last character coming first. -/
theorem trimEnd_spec (s : List Char) :
    ∃ trimmed, s = trimmed ++ trimEnd s ∧ ∀ c, [c, '.'] <:+: trimmed → c = '/' := by
  fun_induction trimEnd s with
  | case1 => exact ⟨[], rfl, by simp⟩
  | case2 rest _ ih =>
    obtain ⟨trimmed, hrest, hdots⟩ := ih
    refine ⟨'/' :: trimmed, by rw [List.cons_append, ← hrest], fun c hc => ?_⟩
    rcases List.infix_cons_iff.1 hc with hprefix | hinfix
    · exact (List.cons_prefix_cons.1 hprefix).1
    · exact hdots c hinfix
  | case3 rest ih =>
    obtain ⟨trimmed, hrest, hdots⟩ := ih
    refine ⟨'.' :: trimmed, by rw [List.cons_append, ← hrest], fun c hc => ?_⟩
    rcases List.infix_cons_iff.1 hc with hprefix | hinfix
    · -- the dot that is taken away has a slash after it, and no dot
      obtain ⟨more, rfl⟩ := (List.cons_prefix_cons.1 hprefix).2
      simp at hrest
    · exact hdots c hinfix
  | case4 => exact ⟨[], rfl, by simp⟩

theorem parent?_eq_some {path parent : String} (h : parent? path = some parent) :
    (splitLast path).1 ≠ [] ∧ parent = .ofList (trimEnd (splitLast path).2).reverse := by
  unfold parent? at h
  split at h
  · cases h
  · rename_i name before hname hsplit
    cases h
    rw [hsplit]
    exact ⟨hname, rfl⟩

theorem parent_prefix {path parent : String} (h : parent? path = some parent) :
    parent.toList <+: path.toList := by
  obtain ⟨-, rfl⟩ := parent?_eq_some h
  rw [String.toList_ofList, ← List.reverse_suffix, List.reverse_reverse]
  have hbefore : (splitLast path).2 <:+ trimEnd path.toList.reverse :=
    ⟨_, (splitLast_spec path).2.1⟩
  exact (trimEnd_suffix _).trans (hbefore.trans (trimEnd_suffix _))

theorem isAbsolute_parent {path parent : String} (h : parent? path = some parent)
    (hne : parent ≠ "") : isAbsolute parent = isAbsolute path := by
  obtain ⟨rest, hrest⟩ := parent_prefix h
  have hchars : parent.toList ≠ [] := mt String.toList_eq_nil_iff.1 hne
  rw [isAbsolute, isAbsolute, ← hrest, List.head?_append_of_ne_nil _ hchars]

/-- The parts of the parent come before the last part. -/
theorem parts_parent_prefix {path parent : String} (h : parent? path = some parent) :
    parts parent <+: (parts path).dropLast := by
  obtain ⟨hne, rfl⟩ := parent?_eq_some h
  obtain ⟨hslash, hsplit, hbefore⟩ := splitLast_spec path
  have hwhole := parts_trimEnd_prefix path.toList.reverse
  rw [List.reverse_reverse, String.ofList_toList, ← hsplit, List.reverse_append] at hwhole
  have hname : parts (.ofList (splitLast path).1.reverse) = [.ofList (splitLast path).1.reverse] :=
    parts_of_notMem (by simpa) (by simpa)
  have htrim := parts_trimEnd_prefix (splitLast path).2
  have hsplitParts : parts (.ofList ((splitLast path).2.reverse ++ (splitLast path).1.reverse)) =
      parts (.ofList (splitLast path).2.reverse) ++ [.ofList (splitLast path).1.reverse] := by
    rcases hbefore with hnone | ⟨before, hslashed⟩
    · rw [hnone, List.reverse_nil, List.nil_append, hname]
      rfl
    · rw [hslashed, parts_reverse_slash, List.reverse_cons, List.append_assoc,
        List.singleton_append, parts_append_slash, hname]
  rw [hsplitParts] at hwhole
  obtain ⟨rest, hparts⟩ := hwhole
  rw [← hparts, List.append_assoc, List.dropLast_append_of_ne_nil (by simp)]
  exact htrim.trans (List.prefix_append _ _)

/-! ### The directories that a path stands in -/

/-- A path stands in its parent, and in what the parent stands in. -/
inductive StandsIn : String → String → Prop
  | parent {path parent : String} (h : parent? path = some parent) : StandsIn path parent
  | above {path parent directory : String} (h : parent? path = some parent)
      (rest : StandsIn parent directory) : StandsIn path directory

theorem length_parent_lt {path parent : String} (h : parent? path = some parent) :
    parent.length < path.length := by
  obtain ⟨hname, rfl⟩ := parent?_eq_some h
  have hwhole := (trimEnd_suffix path.toList.reverse).length_le
  rw [← (splitLast_spec path).2.1, List.length_append, List.length_reverse] at hwhole
  have htrim := (trimEnd_suffix (splitLast path).2).length_le
  have hpos := List.length_pos_iff.2 hname
  rw [← String.length_toList, ← String.length_toList, String.toList_ofList, List.length_reverse]
  omega

theorem StandsIn.length_le {path parent directory : String} (h : StandsIn path directory)
    (hparent : parent? path = some parent) : directory.length ≤ parent.length := by
  induction h generalizing parent with
  | parent h =>
    rw [h] at hparent
    cases hparent
    exact le_rfl
  | above h rest ih =>
    rw [h] at hparent
    cases hparent
    cases rest with
    | parent h' => exact (length_parent_lt h').le
    | above h' rest' => exact (ih h').trans (length_parent_lt h').le

theorem StandsIn.length_lt {path directory : String} (h : StandsIn path directory) :
    directory.length < path.length := by
  cases h with
  | parent h => exact length_parent_lt h
  | above h rest => exact ((StandsIn.above h rest).length_le h).trans_lt (length_parent_lt h)

theorem StandsIn.ne {path directory : String} (h : StandsIn path directory) : path ≠ directory := by
  rintro rfl
  exact Nat.lt_irrefl _ h.length_lt

/-- What the parent stands in and the parent itself are what the path stands in. -/
theorem standsIn_of_parent {path parent directory : String} (hparent : parent? path = some parent)
    (h : directory = parent ∨ StandsIn parent directory) : StandsIn path directory := by
  rcases h with rfl | h
  · exact .parent hparent
  · exact .above hparent h

/-! ### A hidden name beside the last component -/

theorem name?_eq_some {path name : String} (h : name? path = some name) :
    (splitLast path).1 ≠ [] ∧ name = .ofList (splitLast path).1.reverse := by
  unfold name? at h
  split at h
  · cases h
  · cases h
  · cases h
  · rename_i reversed before hname _ _ hsplit
    cases h
    rw [hsplit]
    exact ⟨hname, rfl⟩

theorem parent?_of_ne_nil {path : String} (h : (splitLast path).1 ≠ []) :
    parent? path = some (.ofList (trimEnd (splitLast path).2).reverse) := by
  unfold parent?
  split
  · rename_i hsplit
    rw [hsplit] at h
    exact absurd rfl h
  · rename_i hsplit
    rw [hsplit]

theorem join_eq (directory name : String) :
    ∃ slash : List Char, (slash = [] ∨ slash = ['/']) ∧
      (join directory name).toList = directory.toList ++ slash ++ name.toList := by
  unfold join
  split
  · rename_i hempty
    exact ⟨[], .inl rfl, by simp [List.getLast?_eq_none_iff.1 hempty]⟩
  · exact ⟨[], .inl rfl, by simp⟩
  · exact ⟨['/'], .inr rfl, by simp⟩

end MentionPrompt.Path
