import Mathlib.Data.List.TakeWhile
import MentionPrompt.Proofs.Yaml.Lines
import MentionPrompt.Yaml.Block

/-!
Reading literal blocks: the lines of a text, written beyond the indent of their mapping, are read as
the text. Main statement: `readBlock?_literal`.

A text is empty lines, a line with content, empty lines, a line with content, and so on. The reader
keeps the last line break and the empty lines after it apart from the text before; the sign in the
header says which of them belong to the text.
-/

namespace MentionPrompt.Yaml

/-! ### Margins -/

section Margins

variable {indent : Nat}

/-- Line breaks are kept. -/
theorem readMargin?_breaks {lines : List Char} (hlines : ∀ c ∈ lines, isBreak c = true)
    (s : List Char) {place : Place} (hcolumn : place.column = 0) (breaks : List Char)
    (deepest : Nat) :
    ∃ place' : Place, place'.column = 0 ∧
      readMargin? indent (lines ++ s) place breaks deepest =
        readMargin? indent s place' (lines.reverse ++ breaks) deepest := by
  induction lines generalizing place breaks with
  | nil => exact ⟨place, hcolumn, rfl⟩
  | cons c lines ih =>
    have hc : isBreak c = true := hlines c (by simp)
    have hblank := not_isSpace_of_isBreak hc
    simp only [isSpace, Bool.or_eq_false_iff, beq_eq_false_iff_ne] at hblank
    obtain ⟨place', hcolumn', hread⟩ := ih (fun d hd => hlines d (by simp [hd]))
      (Place.column_newline place) (c :: breaks)
    refine ⟨place', hcolumn', ?_⟩
    rw [List.cons_append, readMargin?]
    simpa [hc, hblank] using hread

/-- Spaces are passed over as long as they may be indent. -/
theorem readMargin?_spaces {n : Nat} (s : List Char) {place : Place}
    (hn : indent = 0 ∨ place.column + n ≤ indent) (breaks : List Char) {deepest : Nat}
    (hdeepest : place.column ≤ deepest) :
    readMargin? indent (spaces n ++ s) place breaks deepest =
      readMargin? indent s (place.skip n) breaks (max deepest (place.column + n)) := by
  induction n generalizing place deepest with
  | zero => simp [spaces, Nat.max_eq_left hdeepest]
  | succ n ih =>
    have hopen : (indent == 0 || decide (place.column < indent)) = true := by
      simp only [Bool.or_eq_true, beq_iff_eq, decide_eq_true_eq]
      omega
    rw [spaces, List.replicate_succ, List.cons_append, ← spaces, readMargin?]
    simp only [hopen, Place.next_eq_skip]
    simp only [beq_self_eq_true, Bool.and_self, if_true]
    rw [ih (by simp only [Place.column_skip]; omega) (by simp only [Place.column_skip]; omega),
      Place.skip_skip, Nat.add_comm 1 n]
    congr 1
    simp only [Place.column_skip]
    omega

/-- The margin ends at the first content, and at the given indent whatever follows. -/
theorem readMargin?_content {s : List Char} {place : Place}
    (hs : ∀ c ∈ s.head?, isBreak c = false ∧
      (isSpace c = false ∨ 0 < indent ∧ indent ≤ place.column)) (breaks : List Char)
    (deepest : Nat) :
    readMargin? indent s place breaks deepest = some ⟨breaks, deepest, s, place⟩ := by
  cases s with
  | nil => rfl
  | cons c rest =>
    obtain ⟨hbreak, hblank⟩ := hs c rfl
    rw [readMargin?]
    obtain hspace | ⟨hpos, hle⟩ := hblank
    · simp only [isSpace, Bool.or_eq_false_iff, beq_eq_false_iff_ne] at hspace
      simp [hbreak, hspace]
    · simp [hbreak, Nat.ne_of_gt hpos, Nat.not_lt.2 hle]

/-- A margin of empty lines and an indent within the limit. -/
theorem readMargin?_lines {lines s : List Char} (hlines : ∀ c ∈ lines, isBreak c = true) {n : Nat}
    (hn : indent = 0 ∨ n ≤ indent)
    (hs : ∀ c ∈ s.head?, isBreak c = false ∧ (isSpace c = false ∨ 0 < indent ∧ indent ≤ n))
    {place : Place} (hcolumn : place.column = 0) :
    ∃ place' : Place, place'.column = n ∧
      readMargin? indent (lines ++ (spaces n ++ s)) place [] 0 =
        some ⟨lines.reverse, n, s, place'⟩ := by
  obtain ⟨place', hcolumn', hread⟩ := readMargin?_breaks hlines (spaces n ++ s) hcolumn [] 0
  refine ⟨place'.skip n, by simp [hcolumn'], ?_⟩
  rw [hread, readMargin?_spaces s (by simpa [hcolumn'] using hn) _ (Nat.le_of_eq hcolumn'),
    readMargin?_content (by simpa [hcolumn'] using hs), List.append_nil]
  simp [hcolumn']

end Margins

/-! ### Lines -/

/-- The line break that the writer adds to a block that ends with none. -/
def lineEnd (s : List Char) : List Char := if s.getLast?.any isBreak then [] else ['\n']

/-- Which line breaks at the end of a text are part of it, given its last character first. -/
def chompingOf : List Char → Chomping
  | [] => .strip
  | c :: before =>
    if !isBreak c then .strip else if before.head?.all isBreak then .keep else .clip

theorem indentLines_content {content : List Char} (hcontent : ∀ c ∈ content, isBreak c = false)
    (indent : Nat) (s : List Char) :
    indentLines indent false (content ++ s) = content ++ indentLines indent false s := by
  induction content with
  | nil => rfl
  | cons c content ih =>
    rw [List.cons_append, indentLines_word (hcontent c (by simp)), if_neg Bool.false_ne_true,
      ih fun d hd => hcontent d (by simp [hd])]
    rfl

theorem indentLines_of_content {content : List Char}
    (hcontent : ∀ c ∈ content, isBreak c = false) (indent : Nat) :
    indentLines indent false content = content := by
  have hindent := indentLines_content hcontent indent []
  rwa [List.append_nil, indentLines, List.append_nil] at hindent

theorem indentLines_breaks {lines : List Char} (hlines : ∀ c ∈ lines, isBreak c = true)
    (indent : Nat) (s : List Char) :
    indentLines indent true (lines ++ s) = lines ++ indentLines indent true s := by
  induction lines with
  | nil => rfl
  | cons c lines ih =>
    rw [List.cons_append, indentLines_break (hlines c (by simp)),
      ih fun d hd => hlines d (by simp [hd])]
    rfl

theorem indentLines_of_breaks {lines : List Char} (hlines : ∀ c ∈ lines, isBreak c = true)
    (indent : Nat) : indentLines indent true lines = lines := by
  have hindent := indentLines_breaks hlines indent []
  rwa [List.append_nil, indentLines, List.append_nil] at hindent

theorem indentLines_start {s : List Char} (hs : s.head?.any (!isBreak ·) = true) (indent : Nat) :
    indentLines indent true s = spaces indent ++ indentLines indent false s := by
  cases s with
  | nil => simp at hs
  | cons c s =>
    have hc : isBreak c = false := by simpa using hs
    rw [indentLines_word hc, indentLines_word hc]
    rfl

/-- All characters of a block, the last first. -/
def BlockText.all (block : BlockText) : List Char :=
  block.trailing ++ block.leading ++ block.text

/-- A block after the text that was read before, a line with content, its line break and the empty
lines after it. -/
def BlockText.afterLine (read content : List Char) (feed : Char) (lines : List Char)
    (afterBlank : Bool) : BlockText where
  text := content.reverse ++ read
  leading := [feed]
  trailing := lines.reverse
  afterBlank := afterBlank

theorem head?_indentLines {s : List Char} (hs : s.head?.any (!isBreak ·) = true) (indent : Nat)
    (tail : List Char) : (indentLines indent false s ++ tail).head? = s.head? := by
  cases s with
  | nil => simp at hs
  | cons c s =>
    have hc : isBreak c = false := by simpa using hs
    simp [indentLines_word hc]

/-- Lines that start with content end a margin that does, or one whose depth is given. -/
theorem head?_of_indentLines {s : List Char} (hs : s.head?.any (!isBreak ·) = true)
    {given n : Nat} (h : ∀ c ∈ s.head?, isSpace c = false ∨ 0 < given ∧ given ≤ n) (indent : Nat)
    (tail : List Char) :
    ∀ c ∈ (indentLines indent false s ++ tail).head?,
      isBreak c = false ∧ (isSpace c = false ∨ 0 < given ∧ given ≤ n) := by
  rw [head?_indentLines hs]
  intro c hc
  rw [Option.mem_def.1 hc] at hs
  exact ⟨by simpa using hs, h c hc⟩

theorem head?_of_startsContent {given n : Nat} {rest : List Char}
    (hrest : startsContent rest = true) :
    ∀ c ∈ rest.head?, isBreak c = false ∧ (isSpace c = false ∨ 0 < given ∧ given ≤ n) := by
  cases rest with
  | nil => simp
  | cons c rest =>
    simp only [startsContent, Bool.and_eq_true, Bool.not_eq_true'] at hrest
    rintro d ⟨⟩
    exact ⟨hrest.1.1, .inl hrest.1.2⟩

section Lines

variable {indent : Nat} {place : Place}

theorem readLines?_end (hcolumn : place.column ≠ indent) (fuel : Nat) (block : BlockText)
    (rest : List Char) :
    readLines? false indent (fuel + 1) block rest place = some (block, rest, place) := by
  simp [readLines?, hcolumn]

/-- One line with content, its line break, the empty lines after it, and an indent. -/
theorem readLines?_line {content : List Char} (hcontent : ∀ c ∈ content, isBreak c = false)
    (hne : content ≠ []) (hcolumn : place.column = indent) {feed : Char}
    (hfeed : isBreak feed = true) {lines : List Char} (hlines : ∀ c ∈ lines, isBreak c = true)
    {n : Nat} (hn : n ≤ indent) {s : List Char}
    (hs : ∀ c ∈ s.head?, isBreak c = false ∧ (isSpace c = false ∨ 0 < indent ∧ indent ≤ n))
    (fuel : Nat) (block : BlockText) :
    ∃ (afterBlank : Bool) (place' : Place), place'.column = n ∧
      readLines? false indent (fuel + 1) block (content ++ feed :: (lines ++ (spaces n ++ s)))
          place =
        readLines? false indent fuel (.afterLine block.all content feed lines afterBlank) s
          place' := by
  have hall : ∀ c ∈ content, (!isBreak c) = true := fun c hc => by simp [hcontent c hc]
  have htake (after : List Char) :
      (content ++ feed :: after).takeWhile (!isBreak ·) = content := by
    rw [List.takeWhile_append_of_pos hall, List.takeWhile_cons_of_neg (by simp [hfeed]),
      List.append_nil]
  have hdrop (after : List Char) :
      (content ++ feed :: after).dropWhile (!isBreak ·) = feed :: after := by
    rw [List.dropWhile_append_of_pos hall, List.dropWhile_cons_of_neg (by simp [hfeed])]
  obtain ⟨place', hcolumn', hmargin⟩ :=
    readMargin?_lines hlines (.inr hn) hs (Place.column_newline (place.skip content.length))
  refine ⟨(content ++ feed :: (lines ++ (spaces n ++ s))).head?.any isSpace, place', hcolumn', ?_⟩
  rw [readLines?]
  simp only [htake, hdrop]
  simp [hne, hcolumn, hmargin, BlockText.joined, BlockText.all, BlockText.afterLine]

/-- The last line with content, its line break, and the empty lines after it end a block. -/
theorem readLines?_last {content : List Char} (hcontent : ∀ c ∈ content, isBreak c = false)
    (hne : content ≠ []) (hcolumn : place.column = indent) {feed : Char}
    (hfeed : isBreak feed = true) {lines : List Char} (hlines : ∀ c ∈ lines, isBreak c = true)
    {j : Nat} (hj : j < indent) {rest : List Char} (hrest : startsContent rest = true)
    (fuel : Nat) (block : BlockText) :
    ∃ (afterBlank : Bool) (place' : Place), place'.column = j ∧
      readLines? false indent (fuel + 2) block
          (content ++ feed :: (lines ++ (spaces j ++ rest))) place =
        some (.afterLine block.all content feed lines afterBlank, rest, place') := by
  obtain ⟨afterBlank, place', hcolumn', hline⟩ := readLines?_line hcontent hne hcolumn hfeed hlines
    hj.le (head?_of_startsContent hrest) (fuel + 1) block
  exact ⟨afterBlank, place', hcolumn',
    hline.trans (readLines?_end (by omega) fuel _ rest)⟩

end Lines

/-- The first line of a text that starts with content: it ends the text, or empty lines follow, and
then the end or a text that again starts with content. -/
theorem exists_line {s : List Char} (hs : s.head?.any (!isBreak ·) = true) :
    ∃ content, content ≠ [] ∧ (∀ c ∈ content, isBreak c = false) ∧
      (s = content ∨ ∃ feed lines more, isBreak feed = true ∧ (∀ c ∈ lines, isBreak c = true) ∧
        (more = [] ∨ more.head?.any (!isBreak ·) = true) ∧
        s = content ++ feed :: (lines ++ more)) := by
  refine ⟨s.takeWhile (!isBreak ·), ?_, fun c hc => by simpa using List.mem_takeWhile_imp hc, ?_⟩
  · cases s with
    | nil => simp at hs
    | cons c s =>
      have hc : isBreak c = false := by simpa using hs
      simp [hc]
  cases hafter : s.dropWhile (!isBreak ·) with
  | nil =>
    have hall := List.takeWhile_append_dropWhile (p := (!isBreak ·)) (l := s)
    exact .inl (by simpa [hafter] using hall.symm)
  | cons feed after =>
    have hfeed : isBreak feed = true := by
      have := List.head?_dropWhile_not (!isBreak ·) s
      simpa [hafter] using this
    refine .inr ⟨feed, after.takeWhile isBreak, after.dropWhile isBreak, hfeed,
      fun c hc => List.mem_takeWhile_imp hc, ?_, ?_⟩
    · have := List.head?_dropWhile_not isBreak after
      cases hmore : after.dropWhile isBreak with
      | nil => exact .inl rfl
      | cons c more => exact .inr (by simpa [hmore] using this)
    · rw [List.takeWhile_append_dropWhile, ← hafter, List.takeWhile_append_dropWhile]

theorem lineEnd_content {content : List Char} (hne : content ≠ [])
    (hcontent : ∀ c ∈ content, isBreak c = false) : lineEnd content = ['\n'] := by
  rw [lineEnd, List.getLast?_eq_some_getLast hne, Option.any_some,
    hcontent _ (List.getLast_mem hne), if_neg Bool.false_ne_true]

theorem lineEnd_breaks (s : List Char) {feed : Char} (hfeed : isBreak feed = true)
    {lines : List Char} (hlines : ∀ c ∈ lines, isBreak c = true) :
    lineEnd (s ++ feed :: lines) = [] := by
  have hlast : isBreak ((feed :: lines).getLast (by simp)) = true := by
    have hmem := List.getLast_mem (List.cons_ne_nil feed lines)
    rcases List.mem_cons.1 hmem with h | h
    · rw [h]
      exact hfeed
    · exact hlines _ h
  rw [lineEnd, List.getLast?_append_of_ne_nil _ (by simp),
    List.getLast?_eq_some_getLast (List.cons_ne_nil feed lines), Option.any_some, hlast, if_pos rfl]

theorem lineEnd_append (s : List Char) {more : List Char} (hne : more ≠ []) :
    lineEnd (s ++ more) = lineEnd more := by
  rw [lineEnd, lineEnd, List.getLast?_append_of_ne_nil _ hne]

theorem reverse_content_append {content : List Char} (hne : content ≠ [])
    (hcontent : ∀ c ∈ content, isBreak c = false) (read : List Char) :
    ∃ c before, content.reverse ++ read = c :: before ∧ isBreak c = false := by
  obtain ⟨c, before, hcons⟩ := List.exists_cons_of_ne_nil (List.reverse_ne_nil_iff.2 hne)
  exact ⟨c, before ++ read, by rw [hcons, List.cons_append],
    hcontent c (List.mem_reverse.1 (by simp [hcons]))⟩

/-- After a line that ends a text, no line break is part of the text. -/
theorem chomp_content {content : List Char} (hne : content ≠ [])
    (hcontent : ∀ c ∈ content, isBreak c = false) (read : List Char) (afterBlank : Bool) :
    (BlockText.afterLine read content '\n' [] afterBlank).chomp
        (chompingOf (content.reverse ++ read)) = content.reverse ++ read := by
  obtain ⟨c, before, hcons, hc⟩ := reverse_content_append hne hcontent read
  simp [hcons, chompingOf, hc, BlockText.chomp, BlockText.afterLine]

/-- After a line and line breaks that end a text, all of them are part of the text. -/
theorem chomp_breaks {content lines : List Char} (hne : content ≠ [])
    (hcontent : ∀ c ∈ content, isBreak c = false) {feed : Char} (hfeed : isBreak feed = true)
    (hlines : ∀ c ∈ lines, isBreak c = true) (read : List Char) (afterBlank : Bool) :
    (BlockText.afterLine read content feed lines afterBlank).chomp
        (chompingOf (lines.reverse ++ feed :: (content.reverse ++ read))) =
      lines.reverse ++ feed :: (content.reverse ++ read) := by
  have hreverse : ∀ c ∈ lines.reverse, isBreak c = true := fun c hc =>
    hlines c (List.mem_reverse.1 hc)
  obtain ⟨c, before, hcons, hc⟩ := reverse_content_append hne hcontent read
  simp only [BlockText.chomp, BlockText.afterLine]
  cases hlast : lines.reverse with
  | nil => simp [hcons, chompingOf, hfeed, hc]
  | cons last others =>
    rw [hlast] at hreverse
    have hbefore : isBreak (others.head?.getD feed) = true := by
      cases others with
      | nil => exact hfeed
      | cons d others => exact hreverse d (by simp)
    simp [chompingOf, hreverse last (by simp), hbefore]

/-- A text whose first line has content is read up to its end, with the line breaks there that the
sign in the header lets stay. -/
theorem readLines?_indentLines {indent j : Nat} (hj : j < indent) {rest : List Char}
    (hrest : startsContent rest = true) {s : List Char} (hs : s.head?.any (!isBreak ·) = true)
    {fuel : Nat} (hfuel : s.length < fuel) {place : Place} (hcolumn : place.column = indent)
    (block : BlockText) :
    ∃ block' place', place'.column = j ∧
      readLines? false indent fuel block
          (indentLines indent false s ++ (lineEnd s ++ (spaces j ++ rest))) place =
        some (block', rest, place') ∧
      block'.chomp (chompingOf (s.reverse ++ block.all)) = s.reverse ++ block.all := by
  induction hlength : s.length using Nat.strongRecOn generalizing s fuel place block with
  | _ length ih =>
    subst hlength
    obtain ⟨content, hne, hcontent, heq | ⟨feed, lines, more, hfeed, hlines, hmore, heq⟩⟩ :=
      exists_line hs
    · -- the line ends the text
      subst heq
      obtain ⟨fuel, rfl⟩ := Nat.exists_eq_add_of_le' (show 2 ≤ fuel from by
        have := List.length_pos_of_ne_nil hne
        omega)
      obtain ⟨afterBlank, place', hcolumn', hread⟩ := readLines?_last hcontent hne hcolumn
        isBreak_lineFeed (List.forall_mem_nil _) hj hrest fuel block
      refine ⟨_, place', hcolumn', ?_, chomp_content hne hcontent block.all afterBlank⟩
      rw [indentLines_of_content hcontent, lineEnd_content hne hcontent]
      exact hread
    obtain ⟨fuel, rfl⟩ := Nat.exists_eq_add_of_le' (show 2 ≤ fuel from by
      have := List.length_pos_of_ne_nil hne
      simp only [heq, List.length_append, List.length_cons] at hfuel
      omega)
    rcases hmore with rfl | hmore
    · -- line breaks end the text
      obtain ⟨afterBlank, place', hcolumn', hread⟩ := readLines?_last hcontent hne hcolumn hfeed
        hlines hj hrest fuel block
      have hchomp := chomp_breaks hne hcontent hfeed hlines block.all afterBlank
      refine ⟨_, place', hcolumn', ?_, by simpa [heq] using hchomp⟩
      rw [heq, List.append_nil, indentLines_content hcontent, indentLines_break hfeed,
        indentLines_of_breaks hlines, lineEnd_breaks content hfeed hlines, List.append_assoc]
      exact hread
    · -- a text follows that again starts with content
      have hstart := head?_of_indentLines hmore (fun _ _ => .inr ⟨by omega, le_refl indent⟩)
        indent (lineEnd more ++ (spaces j ++ rest))
      obtain ⟨afterBlank, place', hcolumn', hline⟩ := readLines?_line hcontent hne hcolumn hfeed
        hlines le_rfl hstart (fuel + 1) block
      have hlength : more.length < s.length ∧ more.length < fuel + 1 := by
        have := List.length_pos_of_ne_nil hne
        simp only [heq, List.length_append, List.length_cons] at hfuel ⊢
        omega
      obtain ⟨block', place'', hcolumn'', hread, hchomp⟩ := ih more.length hlength.1 hmore
        hlength.2 hcolumn' (.afterLine block.all content feed lines afterBlank) rfl
      have hall : more.reverse ++
          (BlockText.afterLine block.all content feed lines afterBlank).all =
          s.reverse ++ block.all := by
        simp [heq, BlockText.all, BlockText.afterLine]
      refine ⟨block', place'', hcolumn'', ?_, hall ▸ hchomp⟩
      have hmore' : more ≠ [] := by
        rintro rfl
        simp at hmore
      have hend : lineEnd s = lineEnd more := by
        rw [heq, ← List.cons_append, ← List.append_assoc, lineEnd_append _ hmore']
      rw [hend, heq, indentLines_content hcontent, indentLines_break hfeed,
        indentLines_breaks hlines, indentLines_start hmore]
      simpa using hline.trans hread

/-! ### Blocks -/

/-- The number that the header gives for the depth of a text; zero stands for none. -/
def depthOf (s : List Char) : Nat := if s.head?.any fun c => c == ' ' || isBreak c then 2 else 0

/-- The header is read back. -/
theorem readHeader?_literalHeader (s body : List Char) :
    readHeader? ((literalHeader s).tail ++ '\n' :: body) =
      some (⟨chompingOf s.reverse, depthOf s⟩, '\n' :: body) := by
  have hsign : (chompingSign s = ['-'] ∧ chompingOf s.reverse = .strip) ∨
      (chompingSign s = ['+'] ∧ chompingOf s.reverse = .keep) ∨
      (chompingSign s = [] ∧ chompingOf s.reverse = .clip) := by
    unfold chompingSign chompingOf
    cases s.reverse with
    | nil => simp
    | cons c before => dsimp only; split_ifs <;> simp
  unfold literalHeader depthOf
  rcases hsign with ⟨hsign, hchomping⟩ | ⟨hsign, hchomping⟩ | ⟨hsign, hchomping⟩ <;>
    rw [hsign, hchomping] <;> split_ifs <;> rfl

theorem endHeader?_lineFeed (body : List Char) : endHeader? ('\n' :: body) = some body := rfl

theorem length_le_indentLines (indent : Nat) (atStart : Bool) (s : List Char) :
    s.length ≤ (indentLines indent atStart s).length := by
  induction s generalizing atStart with
  | nil => exact Nat.zero_le _
  | cons c s ih =>
    cases hc : isBreak c with
    | true =>
      rw [indentLines_break hc]
      exact Nat.succ_le_succ (ih true)
    | false =>
      have := ih false
      rw [indentLines_word hc]
      simp only [List.length_append, List.length_cons]
      omega

/-- What a block is read as, given its margin and its lines. -/
theorem readBlock?_eq {k given : Nat} (indent : Nat) {s body : List Char} {header : BlockHeader}
    (hheader : readHeader? s = some (header, '\n' :: body))
    (hgiven : given = if header.depth = 0 then 0 else k + header.depth) (place : Place) :
    ∃ start : Place, start.column = 0 ∧ ∀ margin, readMargin? given body start [] 0 = some margin →
      (indent = if given = 0 then max margin.deepest (k + 1) else given) →
      ∀ block rest place', readLines? false indent (s.length + 1) { trailing := margin.breaks }
          margin.rest margin.place = some (block, rest, place') →
        readBlock? false k s place =
          some ⟨String.ofList (block.chomp header.chomping).reverse, rest, place', true⟩ := by
  refine ⟨⟨place.line + 1, 0, place.index + (s.length - body.length)⟩, rfl, ?_⟩
  intro margin hmargin hindent block rest place' hlines
  have houter : (max (k : Int) 0).toNat = k := by omega
  have hdeeper : (max ((k : Int) + 1) 1).toNat = k + 1 := by omega
  simp only [readBlock?, hheader, endHeader?_lineFeed, houter, hdeeper, ← hgiven, hmargin,
    ← hindent, Option.bind_eq_bind, Option.bind_some, hlines]
  rfl

theorem chompingOf_breaks {lines : List Char} (hne : lines ≠ [])
    (hlines : ∀ c ∈ lines, isBreak c = true) : chompingOf lines.reverse = .keep := by
  have hreverse : ∀ c ∈ lines.reverse, isBreak c = true := fun c hc =>
    hlines c (List.mem_reverse.1 hc)
  obtain ⟨last, others, hcons⟩ := List.exists_cons_of_ne_nil (List.reverse_ne_nil_iff.2 hne)
  rw [hcons] at hreverse ⊢
  have hothers : others.head?.all isBreak = true := by
    cases others with
    | nil => rfl
    | cons c others => exact hreverse c (by simp)
  rw [chompingOf, hreverse last (by simp), hothers]
  rfl

theorem depthOf_eq (s : List Char) : depthOf s = 2 ∨ depthOf s = 0 := by
  unfold depthOf
  split_ifs <;> simp

/-- Without a depth in the header the text starts with content. -/
theorem head?_of_depthOf_eq_zero {s : List Char} (h : depthOf s = 0) (htab : s.head? ≠ some '\t') :
    ∀ c ∈ s.head?, isBreak c = false ∧ isSpace c = false := by
  intro c hc
  rw [Option.mem_def.1 hc] at htab
  have hhead : ¬(c = ' ' ∨ isBreak c = true) := by
    simpa [depthOf, Option.mem_def.1 hc] using h
  rw [not_or, Bool.not_eq_true] at hhead
  exact ⟨hhead.2, by simpa [isSpace, hhead.1] using htab⟩

/-- The header gives the depth, or else the text starts with content, which shows it. -/
theorem exists_given (k : Nat) {lines more : List Char} (hlines : ∀ c ∈ lines, isBreak c = true)
    (htab : (lines ++ more).head? ≠ some '\t') :
    ∃ given, (given = if depthOf (lines ++ more) = 0 then 0 else k + depthOf (lines ++ more)) ∧
      (given = 0 ∨ given = k + 2) ∧ (given = 0 → ∀ c ∈ more.head?, isSpace c = false) := by
  obtain hdepth | hdepth := depthOf_eq (lines ++ more)
  · exact ⟨k + 2, by rw [hdepth]; rfl, .inr rfl, by omega⟩
  · refine ⟨0, by rw [hdepth]; rfl, .inl rfl, fun _ => ?_⟩
    have hhead := head?_of_depthOf_eq_zero hdepth htab
    cases lines with
    | nil => exact fun c hc => (hhead c hc).2
    | cons c lines => simp [hlines c] at hhead

section Blocks

variable {k j : Nat} {rest : List Char}

/-- A text of line breaks only is all margin. -/
theorem readBlock?_breaks (hj : j ≤ k) (hrest : startsContent rest = true) {lines : List Char}
    (hne : lines ≠ []) (hlines : ∀ c ∈ lines, isBreak c = true) (place : Place) :
    ∃ place', place'.column = j ∧
      readBlock? false k ((literalHeader lines).tail ++ '\n' :: (indentLines (k + 2) true lines ++
          (lineEnd lines ++ (spaces j ++ rest)))) place =
        some ⟨String.ofList lines, rest, place', true⟩ := by
  have hheader := readHeader?_literalHeader lines
    (indentLines (k + 2) true lines ++ (lineEnd lines ++ (spaces j ++ rest)))
  obtain ⟨feed, others, rfl⟩ := List.exists_cons_of_ne_nil hne
  have hdepth : depthOf (feed :: others) = 2 := by simp [depthOf, hlines feed]
  have hbody : indentLines (k + 2) true (feed :: others) ++
      (lineEnd (feed :: others) ++ (spaces j ++ rest)) = feed :: others ++ (spaces j ++ rest) := by
    have hend := lineEnd_breaks [] (hlines feed (by simp)) (List.forall_mem_cons.1 hlines).2
    rw [List.nil_append] at hend
    rw [indentLines_of_breaks hlines, hend, List.nil_append]
  rw [hbody] at hheader ⊢
  obtain ⟨start, hstart, hread⟩ :=
    readBlock?_eq (k + 2) hheader (show k + 2 = _ by rw [hdepth]; rfl) place
  obtain ⟨place', hcolumn, hmargin⟩ := readMargin?_lines hlines (.inr (show j ≤ k + 2 by omega))
    (head?_of_startsContent hrest) hstart
  refine ⟨place', hcolumn, ?_⟩
  rw [hread _ hmargin (by simp) _ _ _ (readLines?_end (by simp only; omega) _ _ rest),
    chompingOf_breaks hne hlines]
  simp [BlockText.chomp]

/-- A text with content. -/
theorem readBlock?_lines (hj : j ≤ k) (hrest : startsContent rest = true) {lines more : List Char}
    (hlines : ∀ c ∈ lines, isBreak c = true) (hmore : more.head?.any (!isBreak ·) = true)
    (htab : (lines ++ more).head? ≠ some '\t') (place : Place) :
    ∃ place', place'.column = j ∧
      readBlock? false k ((literalHeader (lines ++ more)).tail ++ '\n' ::
          (indentLines (k + 2) true (lines ++ more) ++ (lineEnd (lines ++ more) ++
            (spaces j ++ rest)))) place =
        some ⟨String.ofList (lines ++ more), rest, place', true⟩ := by
  have hheader := readHeader?_literalHeader (lines ++ more)
    (indentLines (k + 2) true (lines ++ more) ++ (lineEnd (lines ++ more) ++ (spaces j ++ rest)))
  have hne : more ≠ [] := by
    rintro rfl
    simp at hmore
  have hbody : indentLines (k + 2) true (lines ++ more) = lines ++ (spaces (k + 2) ++
      indentLines (k + 2) false more) := by
    rw [indentLines_breaks hlines, indentLines_start hmore]
  have hend : lineEnd (lines ++ more) = lineEnd more := lineEnd_append lines hne
  rw [hbody, hend, List.append_assoc, List.append_assoc] at hheader ⊢
  generalize hs : (literalHeader (lines ++ more)).tail ++ '\n' :: (lines ++ (spaces (k + 2) ++
    (indentLines (k + 2) false more ++ (lineEnd more ++ (spaces j ++ rest))))) = s at hheader ⊢
  have hfuel : more.length < s.length + 1 := by
    have := length_le_indentLines (k + 2) false more
    rw [← hs]
    simp only [List.length_append, List.length_cons]
    omega
  obtain ⟨given, hgiven, hor, hzero⟩ := exists_given k hlines htab
  obtain ⟨start, hstart, hread⟩ := readBlock?_eq (k + 2) hheader hgiven place
  have hshown : ∀ c ∈ more.head?, isSpace c = false ∨ 0 < given ∧ given ≤ k + 2 := by
    intro c hc
    rcases hor with h | h
    · exact .inl (hzero h c hc)
    · exact .inr ⟨by omega, by omega⟩
  have hcontent := head?_of_indentLines hmore hshown (k + 2) (lineEnd more ++ (spaces j ++ rest))
  obtain ⟨place', hcolumn, hmargin⟩ :=
    readMargin?_lines hlines (show given = 0 ∨ k + 2 ≤ given by omega) hcontent hstart
  obtain ⟨block, place'', hcolumn', hread', hchomp⟩ := readLines?_indentLines
    (show j < k + 2 by omega) hrest hmore hfuel hcolumn { trailing := lines.reverse }
  refine ⟨place'', hcolumn', ?_⟩
  rw [hread _ hmargin (by rcases hor with h | h <;> simp [h]) _ _ _ hread']
  simp only [BlockText.all, List.append_nil, ← List.reverse_append] at hchomp
  rw [hchomp, List.reverse_reverse]

end Blocks

/-- What is written as a literal block is the text, after its first sign. The block ends where
content follows at the indent of its mapping or a lesser one. -/
theorem readBlock?_literal {k j : Nat} (hj : j ≤ k) {rest : List Char}
    (hrest : startsContent rest = true) {s : List Char} (hne : s ≠ []) (htab : s.head? ≠ some '\t')
    (place : Place) :
    ∃ place', place'.column = j ∧
      readBlock? false k ((literalHeader s).tail ++ '\n' :: (indentLines (k + 2) true s ++
          (lineEnd s ++ (spaces j ++ rest)))) place =
        some ⟨String.ofList s, rest, place', true⟩ := by
  have hsplit := List.takeWhile_append_dropWhile (p := isBreak) (l := s)
  have hlines : ∀ c ∈ s.takeWhile isBreak, isBreak c = true := fun c hc => List.mem_takeWhile_imp hc
  have hmore := List.head?_dropWhile_not isBreak s
  generalize s.takeWhile isBreak = lines at hsplit hlines
  cases hdrop : s.dropWhile isBreak with
  | nil =>
    rw [hdrop, List.append_nil] at hsplit
    subst hsplit
    exact readBlock?_breaks hj hrest hne hlines place
  | cons c more =>
    rw [hdrop] at hsplit hmore
    subst hsplit
    exact readBlock?_lines hj hrest hlines (by simpa using hmore) htab place

end MentionPrompt.Yaml
