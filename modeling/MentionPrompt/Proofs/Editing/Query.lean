import Mathlib.Data.List.Induction
import MentionPrompt.Proofs.Editing.Capture

/-!
The query that a sequence of keystrokes and selections leaves.

        fed so far                      being typed
        a, @, c, a, t                   cat
        a, @, c, a, backspace           c
        @, c, backspace, backspace, d   nothing: the `@` itself was deleted
        @, c, escape, d, backspace      nothing
        @, c, @, d                      d

A capture is decided by what was fed since the last `@`. Main statement: a query is being typed
exactly if that was word characters and backspaces only, at no time more backspaces than characters;
and the query is then the line of text that these keys leave.
-/

namespace MentionPrompt

/-- One thing that is fed to a capture. -/
inductive CaptureInput where
  | key (key : Key)
  | select (candidate : Candidate)
  deriving DecidableEq, Repr

namespace Key

/-- The key types a character that a query can hold. -/
def isWord : Key → Bool
  | char c => isWordChar c
  | backspace | escape => false

/-- A line of text after one more key: a character goes to its end, backspace takes its last. -/
def edit (line : List Char) : Key → List Char
  | char c => line ++ [c]
  | backspace => line.dropLast
  | escape => line

/-- What keys leave on a line that was empty. -/
def line (keys : List Key) : List Char := keys.foldl edit []

theorem line_concat (keys : List Key) (key : Key) :
    line (keys ++ [key]) = edit (line keys) key := by
  rw [line, List.foldl_append]
  rfl

theorem isWord_iff {key : Key} : key.isWord = true ↔ ∃ c, key = .char c ∧ isWordChar c = true := by
  cases key <;> simp [isWord]

theorem ne_at_of_isWord {key : Key} (h : key.isWord = true) : key ≠ .char '@' := by
  rintro rfl
  exact absurd h (by decide)

end Key

open Key (line line_concat isWord_iff ne_at_of_isWord)

/-- Keys that stay behind the `@`: word characters and backspaces, and wherever one stops, no more
backspaces than characters. -/
structure StaysBehindAt (keys : List Key) : Prop where
  plain : ∀ key ∈ keys, key.isWord = true ∨ key = .backspace
  covered : ∀ part, part <+: keys → part.count .backspace ≤ part.countP Key.isWord

/-- The keys are all that was fed since the last `@`, so nothing was selected since. -/
def SinceAt (inputs : List CaptureInput) (keys : List Key) : Prop :=
  .char '@' ∉ keys ∧ ∃ before, inputs = before ++ .key (.char '@') :: keys.map .key

/-- What was fed since the last `@` leaves the query. -/
def LeavesQuery (inputs : List CaptureInput) (query : String) : Prop :=
  ∃ keys, SinceAt inputs keys ∧ StaysBehindAt keys ∧ query.toList = line keys

/-- How one input leads to a query, from the queries that there can be before it. -/
def LeadsTo (Before : String → Prop) : CaptureInput → String → Prop
  | .select _, _ => False
  | .key key, query =>
    (key = .char '@' ∧ query = "") ∨
    (∃ old c, Before old ∧ key = .char c ∧ isWordChar c = true ∧ query = old.push c) ∨
    (∃ c, Before (query.push c) ∧ key = .backspace)

/-! ### Keys behind the `@` -/

section Keys

variable {keys : List Key} {key : Key}

theorem counts_concat_word (keys : List Key) (h : key.isWord = true) :
    (keys ++ [key]).count .backspace = keys.count .backspace ∧
      (keys ++ [key]).countP Key.isWord = keys.countP Key.isWord + 1 := by
  obtain ⟨c, rfl, -⟩ := isWord_iff.1 h
  exact ⟨by simp, by rw [List.countP_append, List.countP_singleton, if_pos h]⟩

theorem counts_concat_backspace (keys : List Key) :
    (keys ++ [Key.backspace]).count .backspace = keys.count .backspace + 1 ∧
      (keys ++ [Key.backspace]).countP Key.isWord = keys.countP Key.isWord :=
  ⟨by simp, by rw [List.countP_append]; rfl⟩

theorem staysBehindAt_nil : StaysBehindAt [] :=
  ⟨by simp, fun part hpart => by rw [List.prefix_nil.1 hpart]; exact Nat.le_refl 0⟩

theorem StaysBehindAt.of_concat (h : StaysBehindAt (keys ++ [key])) : StaysBehindAt keys :=
  ⟨fun other hmem => h.plain other (List.mem_append_left _ hmem),
    fun part hpart => h.covered part (hpart.trans (List.prefix_append ..))⟩

/-- Each character that no backspace took is still on the line. -/
theorem StaysBehindAt.length_line (h : StaysBehindAt keys) :
    (line keys).length + keys.count .backspace = keys.countP Key.isWord := by
  induction keys using List.reverseRecOn with
  | nil => rfl
  | append_singleton keys key ih =>
    have hkeys := ih h.of_concat
    have hcovered := h.covered _ (List.prefix_refl _)
    rcases h.plain key (by simp) with hword | rfl
    · obtain ⟨hcount, hwords⟩ := counts_concat_word keys hword
      obtain ⟨c, rfl, -⟩ := isWord_iff.1 hword
      have hline : (line (keys ++ [.char c])).length = (line keys).length + 1 := by
        rw [line_concat, Key.edit, List.length_append, List.length_singleton]
      omega
    · obtain ⟨hcount, hwords⟩ := counts_concat_backspace keys
      have hline : (line (keys ++ [Key.backspace])).length = (line keys).length - 1 := by
        rw [line_concat, Key.edit, List.length_dropLast]
      omega

/-- One more key stays behind the `@` if it is a word character, or a backspace that finds a
character to take. -/
theorem staysBehindAt_concat :
    StaysBehindAt (keys ++ [key]) ↔
      StaysBehindAt keys ∧ (key.isWord = true ∨ (key = .backspace ∧ line keys ≠ [])) := by
  constructor
  · intro h
    refine ⟨h.of_concat, ?_⟩
    rcases h.plain key (by simp) with hword | rfl
    · exact .inl hword
    · obtain ⟨hcount, hwords⟩ := counts_concat_backspace keys
      have hlength := h.of_concat.length_line
      have hcovered := h.covered _ (List.prefix_refl _)
      exact .inr ⟨rfl, List.ne_nil_of_length_pos (by omega)⟩
  · rintro ⟨h, hkey⟩
    have hwhole : (keys ++ [key]).count .backspace ≤ (keys ++ [key]).countP Key.isWord := by
      have hlength := h.length_line
      rcases hkey with hword | ⟨rfl, hline⟩
      · obtain ⟨hcount, hwords⟩ := counts_concat_word keys hword
        omega
      · obtain ⟨hcount, hwords⟩ := counts_concat_backspace keys
        have hpos := List.length_pos_iff.2 hline
        omega
    refine ⟨fun other hmem => ?_, fun part hpart => ?_⟩
    · rcases List.mem_append.1 hmem with hmem | hmem
      · exact h.plain other hmem
      · rw [List.mem_singleton.1 hmem]
        exact hkey.imp_right And.left
    · rcases List.prefix_concat_iff.1 hpart with rfl | hpart
      · exact hwhole
      · exact h.covered part hpart

end Keys

/-! ### One more input -/

section Inputs

variable {inputs : List CaptureInput} {input : CaptureInput} {keys : List Key} {query : String}

/-- After one more input, that is the last `@` itself or a key behind it. -/
theorem sinceAt_concat :
    SinceAt (inputs ++ [input]) keys ↔
      (keys = [] ∧ input = .key (.char '@')) ∨
      ∃ earlier key, keys = earlier ++ [key] ∧ input = .key key ∧ key ≠ .char '@' ∧
        SinceAt inputs earlier := by
  constructor
  · rintro ⟨hat, before, hinputs⟩
    rcases List.eq_nil_or_concat keys with rfl | ⟨earlier, key, rfl⟩
    · obtain ⟨-, hlast⟩ := List.append_inj' hinputs rfl
      exact .inl ⟨rfl, List.singleton_inj.1 hlast⟩
    · rw [List.concat_eq_append] at hat hinputs ⊢
      rw [List.map_append, List.map_singleton, ← List.cons_append, ← List.append_assoc] at hinputs
      obtain ⟨hinputs, hlast⟩ := List.append_inj' hinputs rfl
      rw [List.mem_append, List.mem_singleton, not_or] at hat
      exact .inr ⟨earlier, key, rfl, List.singleton_inj.1 hlast, Ne.symm hat.2, hat.1, before,
        hinputs⟩
  · rintro (⟨rfl, rfl⟩ | ⟨earlier, key, rfl, rfl, hkey, hat, before, rfl⟩)
    · exact ⟨List.not_mem_nil, inputs, rfl⟩
    · exact ⟨by simpa using ⟨hat, Ne.symm hkey⟩, before, by simp⟩

theorem toList_eq_line_word {c : Char} :
    query.toList = line (keys ++ [.char c]) ↔
      ∃ old : String, old.toList = line keys ∧ query = old.push c := by
  rw [line_concat]
  constructor
  · intro h
    refine ⟨String.ofList (line keys), String.toList_ofList, ?_⟩
    rw [← String.toList_inj, h, String.toList_push, String.toList_ofList]
    rfl
  · rintro ⟨old, hold, rfl⟩
    rw [String.toList_push, hold]
    rfl

theorem toList_eq_line_backspace :
    (line keys ≠ [] ∧ query.toList = line (keys ++ [.backspace])) ↔
      ∃ c, (query.push c).toList = line keys := by
  rw [line_concat]
  constructor
  · rintro ⟨hline, h⟩
    refine ⟨(line keys).getLast hline, ?_⟩
    rw [String.toList_push, h]
    exact List.dropLast_concat_getLast hline
  · rintro ⟨c, hc⟩
    rw [String.toList_push] at hc
    rw [← hc]
    exact ⟨by simp, List.dropLast_concat.symm⟩

/-- What the inputs leave with one more is what this one leads to from what they left before. -/
theorem leavesQuery_concat :
    LeavesQuery (inputs ++ [input]) query ↔ LeadsTo (LeavesQuery inputs) input query := by
  constructor
  · rintro ⟨keys, hsince, hbehind, hquery⟩
    rcases sinceAt_concat.1 hsince with ⟨rfl, rfl⟩ | ⟨earlier, key, rfl, rfl, -, hearlier⟩
    · exact .inl ⟨rfl, String.toList_inj.1 hquery⟩
    obtain ⟨hkeys, hword | ⟨rfl, hline⟩⟩ := staysBehindAt_concat.1 hbehind
    · obtain ⟨c, rfl, hc⟩ := isWord_iff.1 hword
      obtain ⟨old, hold, rfl⟩ := toList_eq_line_word.1 hquery
      exact .inr (.inl ⟨old, c, ⟨earlier, hearlier, hkeys, hold⟩, rfl, hc, rfl⟩)
    · obtain ⟨c, hold⟩ := toList_eq_line_backspace.1 ⟨hline, hquery⟩
      exact .inr (.inr ⟨c, ⟨earlier, hearlier, hkeys, hold⟩, rfl⟩)
  · cases input with
    | select candidate => exact False.elim
    | key key =>
      rintro (⟨rfl, rfl⟩ | ⟨old, c, ⟨keys, hsince, hbehind, hquery⟩, rfl, hc, rfl⟩ |
        ⟨c, ⟨keys, hsince, hbehind, hquery⟩, rfl⟩)
      · exact ⟨[], sinceAt_concat.2 (.inl ⟨rfl, rfl⟩), staysBehindAt_nil, rfl⟩
      · have hword : (Key.char c).isWord = true := hc
        exact ⟨keys ++ [.char c],
          sinceAt_concat.2 (.inr ⟨keys, _, rfl, rfl, ne_at_of_isWord hword, hsince⟩),
          staysBehindAt_concat.2 ⟨hbehind, .inl hword⟩, toList_eq_line_word.2 ⟨old, hquery, rfl⟩⟩
      · obtain ⟨hline, hquery⟩ := toList_eq_line_backspace.2 ⟨c, hquery⟩
        exact ⟨keys ++ [.backspace],
          sinceAt_concat.2 (.inr ⟨keys, _, rfl, rfl, by simp, hsince⟩),
          staysBehindAt_concat.2 ⟨hbehind, .inr ⟨rfl, hline⟩⟩, hquery⟩

end Inputs

namespace CaptureState

/-- The capture after one input. -/
def feed (capture : CaptureState) : CaptureInput → CaptureState
  | .key key => (capture.press key).2
  | .select candidate => (capture.select candidate).2

/-- A new capture after a sequence of inputs. -/
def after (inputs : List CaptureInput) : CaptureState := inputs.foldl feed .idle

theorem after_concat (inputs : List CaptureInput) (input : CaptureInput) :
    after (inputs ++ [input]) = (after inputs).feed input := by
  rw [after, List.foldl_append]
  rfl

variable {capture : CaptureState} {inputs : List CaptureInput} {input : CaptureInput}
  {query : String}

theorem select_idle_after (capture : CaptureState) (candidate : Candidate) :
    (capture.select candidate).2 = .idle := by
  cases capture <;> rfl

theorem feed_eq_composing_iff :
    capture.feed input = .composing query ↔ LeadsTo (capture = .composing ·) input query := by
  cases input with
  | select candidate => simp [feed, LeadsTo, select_idle_after]
  | key key =>
    constructor
    · intro h
      rcases press_eq_composing h with hat | hword | ⟨old, c, hold, rfl, rfl⟩
      · exact .inl hat
      · exact .inr (.inl hword)
      · exact .inr (.inr ⟨c, hold, rfl⟩)
    · rintro (⟨rfl, rfl⟩ | ⟨old, c, rfl, rfl, hc, rfl⟩ | ⟨c, rfl, rfl⟩)
      · exact press_at capture
      · have hword : (Key.char c).isWord = true := hc
        have hat : c ≠ '@' := fun hat => ne_at_of_isWord hword (by rw [hat])
        simp [feed, press, hat, hc]
      · simp [feed, press]

theorem after_eq_composing_iff : after inputs = .composing query ↔ LeavesQuery inputs query := by
  induction inputs using List.reverseRecOn generalizing query with
  | nil =>
    constructor
    · intro h
      cases h
    · rintro ⟨keys, ⟨-, before, hinputs⟩, -⟩
      simp at hinputs
  | append_singleton inputs input ih =>
    rw [after_concat, feed_eq_composing_iff, leavesQuery_concat]
    simp only [LeadsTo, ih]

theorem select_eq_some_iff {candidate : Candidate} {insertion : Insertion} :
    (capture.select candidate).1 = some insertion ↔
      ∃ query, capture = .composing query ∧
        insertion = ⟨candidate.kind, candidate.identifier, "@" ++ query⟩ := by
  cases capture <;> simp [select, eq_comm]

/-- CORRECT: whatever was fed to a new capture, a query is being typed exactly if what was fed since
the last `@` leaves it; else nothing is being typed. A selection makes a mention exactly of a query
that is being typed. The mention is that of the candidate, it replaces `@` and the query, and with
or without one nothing is being typed afterwards. -/
theorem query_decided_since_at (inputs : List CaptureInput) :
    (∀ query, after inputs = .composing query ↔ LeavesQuery inputs query) ∧
      (after inputs = .idle ↔ ∀ query, ¬ LeavesQuery inputs query) ∧
      ∀ candidate : Candidate,
        (∀ insertion, ((after inputs).select candidate).1 = some insertion ↔
          ∃ query, after inputs = .composing query ∧
            insertion = ⟨candidate.kind, candidate.identifier, "@" ++ query⟩) ∧
        after (inputs ++ [.select candidate]) = .idle := by
  refine ⟨fun query => after_eq_composing_iff, ?_, fun candidate => ⟨fun insertion =>
    select_eq_some_iff, ?_⟩⟩
  · simp only [← after_eq_composing_iff]
    cases after inputs <;> simp
  · rw [after_concat]
    exact select_idle_after _ candidate

/-- Once the `@` is deleted, the characters that follow do not make up for it. -/
example :
    after ([.char '@', .char 'c', .backspace, .backspace, .char 'd', .char 'e'].map .key)
      = .idle := by
  decide +kernel

end CaptureState

end MentionPrompt
