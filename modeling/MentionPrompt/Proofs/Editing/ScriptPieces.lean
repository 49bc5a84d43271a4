import Mathlib.Data.List.Forall2
import MentionPrompt.Editing.KeyScript
import MentionPrompt.Proofs.Number.Digits
import MentionPrompt.Proofs.Text.ByteOffset

/-!
Key scripts in pieces, one for each step.

        script                 pieces                          steps
        @p<pick:1><bs>         @, p, <pick:1>, <bs>            two keys, a pick, backspace
        a < b                  a, blank, <, blank, b           five keys
        <b<esc>>               <, b, <esc>, >                  a key, a key, escape, a key
        x<pick:a>              x, and no more                  refused

An opening bracket looks ahead to the next closing one, wherever it stands. Main statement: a script is
read as the steps of its pieces or refused at its first tag that picks no position, every list of steps
can be written, and a scan that cuts at byte offsets reads the same.
-/

namespace MentionPrompt.ScriptStep

/-- The text inside angle brackets names the step. -/
inductive Names : List Char → ScriptStep → Prop
  | escape : Names "esc".toList (.key .escape)
  | backspace : Names "bs".toList (.key .backspace)
  | bracket : Names "lt".toList (.key (.char '<'))
  | pick {numeral : List Char} {index : UInt64} (h : Number.WritesWord numeral index) :
    Names ("pick:".toList ++ numeral) (.pick index)

/-- The piece of a script stands for the step: a character as it is, or a tag. -/
inductive StandsFor : List Char → ScriptStep → Prop
  | char (c : Char) : StandsFor [c] (.key (.char c))
  | tag {tag : List Char} {step : ScriptStep} (h : Names tag step) :
    StandsFor ('<' :: tag ++ ['>']) step

/-- The text is that of a tag, good or bad. -/
def IsTag (tag : List Char) : Prop :=
  tag = "esc".toList ∨ tag = "bs".toList ∨ tag = "lt".toList ∨ "pick:".toList <+: tag

/-- The tag picks, but no position follows. -/
def PicksNothing (tag : List Char) : Prop :=
  ∃ numeral, tag = "pick:".toList ++ numeral ∧ ∀ index, ¬ Number.WritesWord numeral index

/-- The text up to the next closing bracket, and the text behind it. -/
structure ClosesAfter (s tag after : List Char) : Prop where
  split : s = tag ++ '>' :: after
  first : '>' ∉ tag

/-- An opening bracket in front of the text is typed as it is. -/
def OpensNoTag (s : List Char) : Prop :=
  '>' ∉ s ∨ ∃ tag after, ClosesAfter s tag after ∧ ¬ IsTag tag

/-- The script is the pieces, one for each step, and a rest. -/
structure Pieces (script : List Char) (pieces : List (List Char)) (steps : List ScriptStep)
    (rest : List Char) : Prop where
  joined : script = pieces.flatten ++ rest
  stand : List.Forall₂ StandsFor pieces steps
  bracket : ∀ before after, pieces = before ++ ['<'] :: after → OpensNoTag (after.flatten ++ rest)

/-! ### Tags -/

theorem ofTag_pick (numeral : List Char) :
    ofTag ("pick:".toList ++ numeral) =
      match Number.readWord? numeral with
      | some index => .ok (some (.pick index))
      | none => .error (.badCandidateIndex (.ofList ("pick:".toList ++ numeral))) := by
  cases hread : Number.readWord? numeral <;> simp [ofTag, pickWord, hread]

theorem ofTag_of_names {tag : List Char} {step : ScriptStep} (h : Names tag step) :
    ofTag tag = .ok (some step) := by
  cases h with
  | escape => rfl
  | backspace => rfl
  | bracket => rfl
  | pick hnumeral => rw [ofTag_pick, Number.readWord?_eq_some_iff.2 hnumeral]

theorem ofTag_of_picksNothing {tag : List Char} (h : PicksNothing tag) :
    ofTag tag = .error (.badCandidateIndex (.ofList tag)) := by
  obtain ⟨numeral, rfl, hnumeral⟩ := h
  have hnone : Number.readWord? numeral = none :=
    Option.eq_none_iff_forall_ne_some.2 fun index hindex =>
      hnumeral index (Number.readWord?_eq_some_iff.1 hindex)
  rw [ofTag_pick, hnone]

theorem ofTag_of_not_isTag {tag : List Char} (h : ¬ IsTag tag) : ofTag tag = .ok none := by
  simp only [IsTag, not_or] at h
  obtain ⟨hescape, hbackspace, hbracket, hpick⟩ := h
  have hpick : ¬ pickWord.isPrefixOf tag = true := mt List.isPrefixOf_iff_prefix.1 hpick
  rw [ofTag, if_neg hescape, if_neg hbackspace, if_neg hbracket, if_neg hpick]

/-- The text inside brackets names a step, or picks nothing, or is no tag. -/
theorem tag_cases (tag : List Char) :
    (∃ step, Names tag step) ∨ PicksNothing tag ∨ ¬ IsTag tag := by
  by_cases h : IsTag tag
  · rcases h with rfl | rfl | rfl | ⟨numeral, rfl⟩
    · exact .inl ⟨_, .escape⟩
    · exact .inl ⟨_, .backspace⟩
    · exact .inl ⟨_, .bracket⟩
    · by_cases hnumeral : ∃ index, Number.WritesWord numeral index
      · obtain ⟨index, hindex⟩ := hnumeral
        exact .inl ⟨_, .pick hindex⟩
      · exact .inr (.inl ⟨numeral, rfl, fun index hindex => hnumeral ⟨index, hindex⟩⟩)
  · exact .inr (.inr h)

theorem notMem_of_names {tag : List Char} {step : ScriptStep} (h : Names tag step) : '>' ∉ tag := by
  cases h with
  | escape => decide
  | backspace => decide
  | bracket => decide
  | pick hnumeral =>
    intro hmem
    rcases List.mem_append.1 hmem with hmem | hmem
    · exact absurd hmem (by decide)
    · rcases hnumeral.plus_or_digit _ hmem with hplus | hdigit
      · exact absurd hplus (by decide)
      · exact absurd hdigit (by decide)

/-! ### The next closing bracket -/

theorem splitTag?_of_closesAfter {s tag after : List Char} (h : ClosesAfter s tag after) :
    splitTag? s = some (tag, after) := by
  obtain ⟨rfl, hfirst⟩ := h
  induction tag with
  | nil => rfl
  | cons c tag ih =>
    rw [List.mem_cons, not_or] at hfirst
    rw [List.cons_append, splitTag?, ih hfirst.2]
    · rfl
    · exact fun hclose => hfirst.1 hclose.symm

theorem splitTag?_of_notMem {s : List Char} (h : '>' ∉ s) : splitTag? s = none := by
  induction s with
  | nil => rfl
  | cons c rest ih =>
    rw [List.mem_cons, not_or] at h
    rw [splitTag?, ih h.2]
    · rfl
    · exact fun hclose => h.1 hclose.symm

theorem exists_closesAfter {s : List Char} (h : '>' ∈ s) : ∃ tag after, ClosesAfter s tag after := by
  obtain ⟨tag, after, hsplit, hfirst⟩ := List.eq_append_cons_of_mem h
  exact ⟨tag, after, hsplit, hfirst⟩

/-! ### The first piece -/

theorem first_of_ne {c : Char} (h : c ≠ '<') (rest : List Char) :
    first c rest = .ok (.key (.char c), rest) := by
  rw [first, if_neg h]
  rfl

theorem first_of_notMem {rest : List Char} (h : '>' ∉ rest) :
    first '<' rest = .ok (.key (.char '<'), rest) := by
  rw [first, if_pos rfl, tagAt, splitTag?_of_notMem h]
  rfl

/-- Where a closing bracket follows, the text in front of it decides. -/
theorem first_of_closesAfter {rest tag after : List Char} (h : ClosesAfter rest tag after) :
    first '<' rest = (ofTag tag).map fun step? =>
      (step?.map (·, after)).getD (.key (.char '<'), rest) := by
  rw [first, if_pos rfl, tagAt, splitTag?_of_closesAfter h]
  dsimp only
  cases ofTag tag <;> rfl

theorem first_of_opensNoTag {rest : List Char} (h : OpensNoTag rest) :
    first '<' rest = .ok (.key (.char '<'), rest) := by
  rcases h with hnone | ⟨tag, after, hcloses, htag⟩
  · exact first_of_notMem hnone
  · rw [first_of_closesAfter hcloses, ofTag_of_not_isTag htag]
    rfl

theorem first_of_names {rest tag after : List Char} {step : ScriptStep}
    (h : ClosesAfter rest tag after) (htag : Names tag step) :
    first '<' rest = .ok (step, after) := by
  rw [first_of_closesAfter h, ofTag_of_names htag]
  rfl

theorem first_of_picksNothing {rest tag after : List Char} (h : ClosesAfter rest tag after)
    (htag : PicksNothing tag) :
    first '<' rest = .error (.badCandidateIndex (.ofList tag)) := by
  rw [first_of_closesAfter h, ofTag_of_picksNothing htag]
  rfl

/-- How a script can go on behind a character. -/
theorem first_cases (c : Char) (rest : List Char) :
    (first c rest = .ok (.key (.char c), rest) ∧ (c = '<' → OpensNoTag rest)) ∨
    (∃ tag after step, c = '<' ∧ ClosesAfter rest tag after ∧ Names tag step ∧
      first c rest = .ok (step, after)) ∨
    ∃ tag after, c = '<' ∧ ClosesAfter rest tag after ∧ PicksNothing tag ∧
      first c rest = .error (.badCandidateIndex (.ofList tag)) := by
  by_cases hc : c = '<'
  · subst hc
    by_cases hclose : '>' ∈ rest
    · obtain ⟨tag, after, hcloses⟩ := exists_closesAfter hclose
      rcases tag_cases tag with ⟨step, hstep⟩ | hnothing | hnone
      · exact .inr (.inl ⟨tag, after, step, rfl, hcloses, hstep, first_of_names hcloses hstep⟩)
      · exact .inr (.inr ⟨tag, after, rfl, hcloses, hnothing,
          first_of_picksNothing hcloses hnothing⟩)
      · have hopens : OpensNoTag rest := .inr ⟨tag, after, hcloses, hnone⟩
        exact .inl ⟨first_of_opensNoTag hopens, fun _ => hopens⟩
    · exact .inl ⟨first_of_opensNoTag (.inl hclose), fun _ => .inl hclose⟩
  · exact .inl ⟨first_of_ne hc rest, fun h => absurd h hc⟩

/-! ### All pieces -/

theorem pieces_nil (script : List Char) : Pieces script [] [] script :=
  ⟨rfl, .nil, fun _ _ h => by simp at h⟩

theorem pieces_cons {script rest piece : List Char} {pieces : List (List Char)}
    {step : ScriptStep} {steps : List ScriptStep} :
    Pieces script (piece :: pieces) (step :: steps) rest ↔
      ∃ more, script = piece ++ more ∧ StandsFor piece step ∧ (piece = ['<'] → OpensNoTag more) ∧
        Pieces more pieces steps rest := by
  constructor
  · rintro ⟨hjoined, hstand, hbracket⟩
    obtain ⟨hpiece, hpieces⟩ := List.forall₂_cons.1 hstand
    refine ⟨pieces.flatten ++ rest, by simpa using hjoined, hpiece, ?_, rfl, hpieces, ?_⟩
    · rintro rfl
      exact hbracket [] pieces rfl
    · rintro before after rfl
      exact hbracket (piece :: before) after rfl
  · rintro ⟨more, rfl, hpiece, hopens, rfl, hpieces, hbracket⟩
    refine ⟨by simp, .cons hpiece hpieces, fun before after hsplit => ?_⟩
    cases before with
    | nil =>
      obtain ⟨rfl, rfl⟩ := List.cons.inj hsplit
      exact hopens rfl
    | cons other before =>
      obtain ⟨-, rfl⟩ := List.cons.inj hsplit
      exact hbracket before after rfl

theorem parseChars_of_first {c : Char} {rest after : List Char} {step : ScriptStep}
    (h : first c rest = .ok (step, after)) :
    parseChars (c :: rest) = (parseChars after).map (step :: ·) := by
  rw [parseChars]
  split
  · rename_i herror
    rw [h] at herror
    cases herror
  · rename_i hok
    rw [h] at hok
    cases hok
    rfl

theorem parseChars_of_first_error {c : Char} {rest : List Char} {error : PromptError}
    (h : first c rest = .error error) : parseChars (c :: rest) = .error error := by
  rw [parseChars]
  split
  · rename_i herror
    rw [h] at herror
    cases herror
    rfl
  · rename_i hok
    rw [h] at hok
    cases hok

/-- A piece that stands for a step is read as this step, whatever follows. -/
theorem parseChars_piece_append {piece more : List Char} {step : ScriptStep}
    (h : StandsFor piece step) (hopens : piece = ['<'] → OpensNoTag more) :
    parseChars (piece ++ more) = (parseChars more).map (step :: ·) := by
  cases h with
  | char c =>
    by_cases hc : c = '<'
    · subst hc
      exact parseChars_of_first (first_of_opensNoTag (hopens rfl))
    · exact parseChars_of_first (first_of_ne hc more)
  | @tag tag _ hnames =>
    have hcloses : ClosesAfter (tag ++ '>' :: more) tag more := ⟨rfl, notMem_of_names hnames⟩
    have hpiece : ('<' :: tag ++ ['>']) ++ more = '<' :: (tag ++ '>' :: more) := by simp
    rw [hpiece]
    exact parseChars_of_first (first_of_names hcloses hnames)

/-- What was read before a rest takes no part in reading the rest. -/
theorem parseChars_of_pieces {script rest : List Char} {pieces : List (List Char)}
    {steps : List ScriptStep} (h : Pieces script pieces steps rest) :
    parseChars script = (parseChars rest).map (steps ++ ·) := by
  induction pieces generalizing script steps with
  | nil =>
    obtain ⟨hjoined, hstand, -⟩ := h
    obtain rfl := List.forall₂_nil_left_iff.1 hstand
    rw [hjoined, List.flatten_nil, List.nil_append]
    cases parseChars rest <;> rfl
  | cons piece pieces ih =>
    obtain ⟨step, steps', -, -, rfl⟩ := List.forall₂_cons_left_iff.1 h.stand
    obtain ⟨more, rfl, hpiece, hopens, hmore⟩ := pieces_cons.1 h
    rw [parseChars_piece_append hpiece hopens, ih hmore]
    cases parseChars rest <;> rfl

/-- A script comes apart into the pieces that are read, and a rest that is empty or opens a tag that
picks nothing. -/
theorem parseChars_spec (script : List Char) :
    ∃ pieces steps rest, Pieces script pieces steps rest ∧
      (rest = [] ∨ ∃ behind tag after, rest = '<' :: behind ∧ ClosesAfter behind tag after ∧
        PicksNothing tag) := by
  induction hlength : script.length using Nat.strongRecOn generalizing script with
  | _ length ih =>
    cases script with
    | nil => exact ⟨[], [], [], pieces_nil [], .inl rfl⟩
    | cons c rest =>
      rcases first_cases c rest with
        ⟨-, hopens⟩ | ⟨tag, after, step, rfl, hcloses, hstep, -⟩ | ⟨tag, after, rfl, hcloses, hnothing, -⟩
      · obtain ⟨pieces, steps, last, hpieces, hlast⟩ := ih rest.length (by simp [← hlength]) rest rfl
        refine ⟨[c] :: pieces, .key (.char c) :: steps, last, pieces_cons.2
          ⟨rest, rfl, .char c, fun hc => hopens (List.singleton_inj.1 hc), hpieces⟩, hlast⟩
      · have hscript : '<' :: rest = ('<' :: tag ++ ['>']) ++ after := by simp [hcloses.split]
        obtain ⟨pieces, steps, last, hpieces, hlast⟩ :=
          ih after.length (by simp [← hlength, hcloses.split]; omega) after rfl
        refine ⟨('<' :: tag ++ ['>']) :: pieces, step :: steps, last, pieces_cons.2
          ⟨after, hscript, .tag hstep, fun hpiece => by simp at hpiece, hpieces⟩, hlast⟩
      · exact ⟨[], [], _, pieces_nil _, .inr ⟨rest, tag, after, rfl, hcloses, hnothing⟩⟩

section Parse

variable {script : String} {steps : List ScriptStep} {error : PromptError}

/-- The scan reaches an opening bracket of a tag that picks nothing. -/
def Refuses (script : String) (error : PromptError) : Prop :=
  ∃ pieces steps behind tag after, Pieces script.toList pieces steps ('<' :: behind) ∧
    ClosesAfter behind tag after ∧ PicksNothing tag ∧
    error = .badCandidateIndex (.ofList tag)

theorem parse_of_pieces {pieces : List (List Char)} (h : Pieces script.toList pieces steps []) :
    parse script = .ok steps := by
  rw [parse, parseChars_of_pieces h, parseChars]
  simp [Except.map]

theorem parse_of_refuses (h : Refuses script error) : parse script = .error error := by
  obtain ⟨pieces, steps, behind, tag, after, hpieces, hcloses, hnothing, rfl⟩ := h
  rw [parse, parseChars_of_pieces hpieces,
    parseChars_of_first_error (first_of_picksNothing hcloses hnothing)]
  rfl

/-- Every script comes apart into pieces, or is refused. -/
theorem pieces_or_refuses (script : String) :
    (∃ steps pieces, Pieces script.toList pieces steps []) ∨ ∃ error, Refuses script error := by
  obtain ⟨pieces, steps, rest, hpieces, rfl | ⟨behind, tag, after, rfl, hcloses, hnothing⟩⟩ :=
    parseChars_spec script.toList
  · exact .inl ⟨steps, pieces, hpieces⟩
  · exact .inr ⟨_, pieces, steps, behind, tag, after, hpieces, hcloses, hnothing, rfl⟩

theorem parse_eq_ok_iff :
    parse script = .ok steps ↔ ∃ pieces, Pieces script.toList pieces steps [] := by
  constructor
  · intro h
    rcases pieces_or_refuses script with ⟨others, pieces, hpieces⟩ | ⟨error, hrefuses⟩
    · rw [parse_of_pieces hpieces] at h
      exact ⟨pieces, Except.ok.inj h ▸ hpieces⟩
    · rw [parse_of_refuses hrefuses] at h
      cases h
  · rintro ⟨pieces, hpieces⟩
    exact parse_of_pieces hpieces

theorem parse_eq_error_iff : parse script = .error error ↔ Refuses script error := by
  constructor
  · intro h
    rcases pieces_or_refuses script with ⟨others, pieces, hpieces⟩ | ⟨other, hrefuses⟩
    · rw [parse_of_pieces hpieces] at h
      cases h
    · rw [parse_of_refuses hrefuses] at h
      exact Except.error.inj h ▸ hrefuses
  · exact parse_of_refuses

end Parse

/-! ### Writing a script -/

/-- A step in writing. Only an opening bracket cannot be written as itself. -/
def spelling : ScriptStep → String
  | .key (.char c) => if c = '<' then "<lt>" else .singleton c
  | .key .escape => "<esc>"
  | .key .backspace => "<bs>"
  | .pick index => "<pick:" ++ toString index.toNat ++ ">"

/-- The steps written as a script. -/
def write (steps : List ScriptStep) : String := .join (steps.map spelling)

theorem standsFor_spelling (step : ScriptStep) :
    StandsFor step.spelling.toList step ∧ step.spelling.toList ≠ ['<'] := by
  cases step with
  | key key =>
    cases key with
    | char c =>
      by_cases hc : c = '<'
      · subst hc
        exact ⟨.tag .bracket, by decide⟩
      · rw [spelling, if_neg hc, String.toList_singleton]
        exact ⟨.char c, by simpa using hc⟩
    | escape => exact ⟨.tag .escape, by decide⟩
    | backspace => exact ⟨.tag .backspace, by decide⟩
  | pick index =>
    have hchars : (spelling (.pick index)).toList
        = '<' :: ("pick:".toList ++ (toString index.toNat).toList) ++ ['>'] := by
      simp [spelling]
    rw [hchars]
    exact ⟨.tag (.pick (Number.writesWord_toString index)), by simp⟩

theorem pieces_write (steps : List ScriptStep) :
    Pieces (write steps).toList (steps.map fun step => step.spelling.toList) steps [] := by
  induction steps with
  | nil => exact pieces_nil []
  | cons step steps ih =>
    obtain ⟨hstands, hbracket⟩ := standsFor_spelling step
    exact pieces_cons.2 ⟨_, by simp [write], hstands, fun h => absurd h hbracket, ih⟩

/-! ### Byte offsets -/

/-- The script behind its first character, cut off by the length of that character. -/
def typedCut? (c : Char) (script : String) : Option (Except PromptError (ScriptStep × String)) :=
  (Text.cut? script c.utf8Size script.utf8ByteSize).map fun rest => .ok (.key (.char c), rest)

/-- The first step of a script that starts with a character, and the rest of the script, both cut out
at byte offsets; nothing where an offset stands inside a character. -/
def firstCut? (c : Char) (script : String) : Option (Except PromptError (ScriptStep × String)) :=
  match (if c = '<' then Text.offset? script '>' else none) with
  | none => typedCut? c script
  | some close =>
    match Text.cut? script 1 close with
    | none => none
    | some tag =>
      match ofTag tag.toList with
      | .error error => some (.error error)
      | .ok none => typedCut? c script
      | .ok (some step) =>
        (Text.cut? script (close + 1) script.utf8ByteSize).map fun rest => .ok (step, rest)

/-- The steps of a script that is cut at byte offsets, in at most so many rounds; nothing where the
rounds do not suffice or an offset stands inside a character. -/
def scanCut? : Nat → String → Option (Except PromptError (List ScriptStep))
  | 0, _ => none
  | rounds + 1, script =>
    match script.toList with
    | [] => some (.ok [])
    | c :: _ =>
      match firstCut? c script with
      | none => none
      | some (.error error) => some (.error error)
      | some (.ok (step, rest)) => (scanCut? rounds rest).map fun steps => steps.map (step :: ·)

theorem typedCut?_eq (c : Char) (rest : List Char) :
    typedCut? c (.ofList (c :: rest)) = some (.ok (.key (.char c), .ofList rest)) := by
  have hscript : String.ofList (c :: rest) = String.singleton c ++ String.ofList rest := by
    simp
  have hcut := Text.cut?_behind (String.singleton c) (.ofList rest)
  rw [String.utf8ByteSize_singleton] at hcut
  rw [typedCut?, hscript, hcut]
  rfl

/-- The tag and the text behind it are cut out by the offset of the closing bracket. -/
theorem cuts_of_closesAfter {rest tag after : List Char} (h : ClosesAfter rest tag after) :
    ∃ close, Text.offset? (.ofList ('<' :: rest)) '>' = some close ∧
      Text.cut? (.ofList ('<' :: rest)) 1 close = some (.ofList tag) ∧
      Text.cut? (.ofList ('<' :: rest)) (close + 1) (String.ofList ('<' :: rest)).utf8ByteSize
        = some (.ofList after) := by
  obtain ⟨rfl, hfirst⟩ := h
  have hopen : (String.singleton '<').utf8ByteSize = 1 := rfl
  have hclose : (String.singleton '>').utf8ByteSize = 1 := rfl
  have hscript : String.ofList ('<' :: (tag ++ '>' :: after))
      = String.singleton '<' ++ .ofList tag ++ String.singleton '>' ++ .ofList after := by
    simp [← String.toList_inj]
  rw [hscript]
  refine ⟨(String.singleton '<' ++ .ofList tag).utf8ByteSize, ?_, ?_, ?_⟩
  · exact Text.offset?_append (by simpa using hfirst) _
  · have hcut := Text.cut?_append (String.singleton '<') (.ofList tag)
      (String.singleton '>' ++ .ofList after)
    rwa [hopen, ← String.append_assoc, ← hopen, ← String.utf8ByteSize_append] at hcut
  · have hcut := Text.cut?_behind (String.singleton '<' ++ .ofList tag ++ String.singleton '>')
      (.ofList after)
    rwa [String.utf8ByteSize_append (s := String.singleton '<' ++ .ofList tag), hclose] at hcut

/-- No offset that the scan cuts at stands inside a character. -/
theorem firstCut?_eq (c : Char) (rest : List Char) :
    firstCut? c (.ofList (c :: rest))
      = some ((first c rest).map fun found => (found.1, .ofList found.2)) := by
  by_cases hc : c = '<'
  · subst hc
    by_cases hclose : '>' ∈ rest
    · obtain ⟨tag, after, hcloses⟩ := exists_closesAfter hclose
      obtain ⟨close, hoffset, htag, hafter⟩ := cuts_of_closesAfter hcloses
      rw [firstCut?, if_pos rfl, hoffset, first_of_closesAfter hcloses]
      simp only [htag, hafter, String.toList_ofList]
      cases ofTag tag with
      | error error => rfl
      | ok step? =>
        cases step? with
        | none => exact typedCut?_eq '<' rest
        | some step => rfl
    · have hoffset : Text.offset? (.ofList ('<' :: rest)) '>' = none := by
        rw [Text.offset?, String.toList_ofList, if_neg (by simp [hclose])]
      rw [firstCut?, if_pos rfl, hoffset, first_of_notMem hclose]
      exact typedCut?_eq '<' rest
  · rw [firstCut?, if_neg hc, first_of_ne hc]
    exact typedCut?_eq c rest

/-- The scan ends after at most one round for each character. -/
theorem scanCut?_eq_parseChars {rounds : Nat} {script : List Char} (h : script.length < rounds) :
    scanCut? rounds (.ofList script) = some (parseChars script) := by
  induction rounds generalizing script with
  | zero => exact absurd h (Nat.not_lt_zero _)
  | succ rounds ih =>
    rw [scanCut?, String.toList_ofList]
    cases script with
    | nil => rw [parseChars]
    | cons c rest =>
      simp only [firstCut?_eq]
      cases hfirst : first c rest with
      | error error =>
        rw [parseChars_of_first_error hfirst]
        rfl
      | ok found =>
        obtain ⟨step, after⟩ := found
        have hafter : after.length < rounds :=
          Nat.lt_of_lt_of_le (length_of_first hfirst) (Nat.le_of_lt_succ h)
        rw [parseChars_of_first hfirst]
        simp only [Except.map, ih hafter, Option.map_some]

/-- CORRECT: every list of steps can be written as a script that is read as just these steps. A script
is read as steps exactly if it comes apart into pieces that stand for them, and it is refused exactly
if the scan reaches a tag that picks but gives no position. A scan that cuts the script at byte offsets
never cuts inside a character, and reads the same in at most one round for each character. -/
theorem read_in_pieces :
    (∀ steps : List ScriptStep, parse (write steps) = .ok steps) ∧
    ∀ script : String,
      scanCut? (script.length + 1) script = some (parse script) ∧
      (∀ steps, parse script = .ok steps ↔ ∃ pieces, Pieces script.toList pieces steps []) ∧
      ∀ error, parse script = .error error ↔ Refuses script error := by
  refine ⟨fun steps => parse_of_pieces (pieces_write steps), fun script => ⟨?_, ?_, ?_⟩⟩
  · have hscan := scanCut?_eq_parseChars (Nat.lt_succ_self script.toList.length)
    rwa [String.ofList_toList, String.length_toList] at hscan
  · exact fun _ => parse_eq_ok_iff
  · exact fun _ => parse_eq_error_iff

end MentionPrompt.ScriptStep
