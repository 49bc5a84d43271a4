import MentionPrompt.Editing.Composer
import MentionPrompt.Error
import MentionPrompt.Number.Decimal

/-!
Key scripts: keystrokes and choices of a session written as a text.

A character stands for its key. The tags for escape, backspace and the opening angle bracket, and the
tag that picks a candidate by its position, stand for these; any other text in angle brackets is typed
as it is. Main statement: the text between an opening bracket and the next closing one decides alone
whether it is a tag.
-/

namespace MentionPrompt

/-- A step of a key script. -/
inductive ScriptStep where
  | key (key : Key)
  | pick (index : UInt64)
  deriving DecidableEq, Repr

namespace ScriptStep

/-- The word of a tag that picks, before the position. -/
def pickWord : List Char := "pick:".toList

/-- The step of a tag, if it is one; a tag that picks must have a position. -/
def ofTag (tag : List Char) : Except PromptError (Option ScriptStep) :=
  if tag = "esc".toList then .ok (some (.key .escape))
  else if tag = "bs".toList then .ok (some (.key .backspace))
  else if tag = "lt".toList then .ok (some (.key (.char '<')))
  else if pickWord.isPrefixOf tag then
    match Number.readWord? (tag.drop pickWord.length) with
    | some index => .ok (some (.pick index))
    | none => .error (.badCandidateIndex (String.ofList tag))
  else .ok none

/-- The text up to the first closing angle bracket, and the text after it. -/
def splitTag? : List Char → Option (List Char × List Char)
  | [] => none
  | '>' :: rest => some ([], rest)
  | c :: rest => (splitTag? rest).map fun (tag, after) => (c :: tag, after)

/-- The tag at the start of a text that follows an opening bracket: its step, and the text after. -/
def tagAt (s : List Char) : Except PromptError (Option (ScriptStep × List Char)) :=
  match splitTag? s with
  | some (tag, after) => do return (← ofTag tag).map (·, after)
  | none => .ok none

theorem length_of_splitTag? {s tag after : List Char} (h : splitTag? s = some (tag, after)) :
    after.length < s.length := by
  fun_induction splitTag? s generalizing tag after with
  | case1 => simp at h
  | case2 rest =>
    simp at h
    simp [h.2]
  | case3 c rest _ ih =>
    obtain ⟨⟨tag', after'⟩, found, split⟩ := Option.map_eq_some_iff.1 h
    obtain ⟨_, rfl⟩ := Prod.mk.inj split
    exact Nat.lt_succ_of_lt (ih found)

theorem length_of_tagAt {s after : List Char} {step : ScriptStep}
    (h : tagAt s = .ok (some (step, after))) : after.length < s.length := by
  unfold tagAt at h
  split at h
  · rename_i tag rest split
    cases found : ofTag tag with
    | error error => simp [found, bind, Except.bind] at h
    | ok step? =>
      cases step? with
      | none => simp [found, bind, Except.bind, pure, Except.pure] at h
      | some other =>
        simp [found, bind, Except.bind, pure, Except.pure] at h
        exact h.2 ▸ length_of_splitTag? split
  · simp at h

/-- The first step of a script that starts with a character, and the rest of the script. -/
def first (c : Char) (rest : List Char) : Except PromptError (ScriptStep × List Char) := do
  let tagged ← if c = '<' then tagAt rest else .ok none
  return tagged.getD (.key (.char c), rest)

theorem length_of_first {c : Char} {rest after : List Char} {step : ScriptStep}
    (h : first c rest = .ok (step, after)) : after.length < (c :: rest).length := by
  unfold first at h
  split at h
  · cases found : tagAt rest with
    | error error => simp [found, bind, Except.bind] at h
    | ok tagged =>
      simp only [found, bind, Except.bind, pure, Except.pure, Except.ok.injEq] at h
      cases tagged with
      | none =>
        obtain ⟨_, rfl⟩ := Prod.mk.inj h
        simp
      | some next =>
        obtain ⟨_, rfl⟩ := Prod.mk.inj h
        exact Nat.lt_succ_of_lt (length_of_tagAt found)
  · simp only [bind, Except.bind, pure, Except.pure, Except.ok.injEq] at h
    obtain ⟨_, rfl⟩ := Prod.mk.inj h
    simp

/-- The steps of a script. -/
def parseChars : List Char → Except PromptError (List ScriptStep)
  | [] => .ok []
  | c :: rest =>
    match _h : first c rest with
    | .error error => .error error
    | .ok (step, after) => (parseChars after).map (step :: ·)
  termination_by s => s.length
  decreasing_by exact length_of_first ‹_›

/-- The steps of a script. -/
def parse (script : String) : Except PromptError (List ScriptStep) := parseChars script.toList

end ScriptStep

namespace Composer

/-- Carries out one step of a script; a pick must find its candidate. -/
def play (composer : Composer) : ScriptStep → Except PromptError Composer
  | .key key => .ok (composer.type key).2
  | .pick index =>
    match composer.pick index.toNat with
    | (some _, picked) => .ok picked
    | (none, _) =>
      match composer.capture.query? with
      | some query => .error (.noCandidate index query)
      | none => .error (.pickWhileIdle index)

/-- Carries out a script, up to the first pick that finds no candidate. -/
def replay (composer : Composer) (script : List ScriptStep) : Except PromptError Composer :=
  script.foldlM play composer

/-- What one step of a script remarks on. -/
def playNotices (composer : Composer) : ScriptStep → List Notice
  | .key _ => []
  | .pick index => composer.pickNotices index.toNat

/-- What carrying out a script remarks on, up to the first pick that finds no candidate. -/
def replayNotices : Composer → List ScriptStep → List Notice
  | _, [] => []
  | composer, step :: script =>
    composer.playNotices step ++
      match composer.play step with
      | .ok played => played.replayNotices script
      | .error _ => []

end Composer

end MentionPrompt
