import Mathlib.Data.List.Basic
import Mathlib.Logic.Function.Basic
import MentionPrompt.Proofs.Storage.Paths
import MentionPrompt.Storage.Program

/-!
Files under calls that may fail.

A file system is a map from paths to files and directories. A call that changes files may fail at any
time, and then leaves what it was about: directories that were made on the way, or a first part of
what was to be written. Moving a file happens at once or not at all, and never in place of a
directory; a file that is there can be taken away. Main statement: a program followed by another one
runs through the states of the first and then through those of the second.
-/

namespace MentionPrompt

/-- What stands at a path. -/
inductive FileEntry where
  | directory
  | file (content : ByteArray)

/-- A file system: what stands at each path, if anything does. -/
abbrev Files := String → Option FileEntry

namespace Files

/-- From one to the other, directories may appear in some places; all else stays. -/
def MakesDirectories (places : String → Prop) (before after : Files) : Prop :=
  ∀ other, after other = before other ∨
    places other ∧ before other = none ∧ after other = some .directory

/-- The call can give the reply and leave the files like this. -/
def Allows (before : Files) : (call : FileCall) → call.Reply → Files → Prop
  | .read path, reply, after =>
    after = before ∧ ∀ content, reply = .ok content → before path = some (.file content)
  | .isFile path, reply, after =>
    after = before ∧ (reply = true ↔ ∃ content, before path = some (.file content))
  | .isPresent path, reply, after => after = before ∧ (reply = true ↔ before path ≠ none)
  | .createDirectories path, _, after =>
    MakesDirectories (fun other => other = path ∨ Path.StandsIn path other) before after
  | .create path, .ok _, after =>
    before path ≠ some .directory ∧
      after = Function.update before path (some (.file ByteArray.empty))
  | .openLog path, .ok _, after =>
    after = before ∧ (∃ content, before path = some (.file content)) ∨
      before path = none ∧ after = Function.update before path (some (.file ByteArray.empty))
  | .append path content, .ok _, after =>
    ∃ held, before path = some (.file held) ∧
      after = Function.update before path (some (.file (held ++ content)))
  | .append path content, .error _, after =>
    after = before ∨ ∃ held written, before path = some (.file held) ∧
      after = Function.update before path (some (.file (held ++ content.extract 0 written)))
  | .rename source target, .ok _, after =>
    ∃ content, before source = some (.file content) ∧ before target ≠ some .directory ∧
      after = Function.update (Function.update before source none) target (some (.file content))
  | .remove path, .ok _, after =>
    (∃ content, before path = some (.file content)) ∧ after = Function.update before path none
  | .remove path, .error _, after =>
    (∀ content, before path ≠ some (.file content)) ∧ after = before
  | .create _, .error _, after | .openLog _, .error _, after | .sync _, _, after
  | .rename _ _, .error _, after => after = before

namespace MakesDirectories

variable {places others : String → Prop} {before between after : Files}

theorem refl (places : String → Prop) (before : Files) : MakesDirectories places before before :=
  fun _ => .inl rfl

theorem trans (h : MakesDirectories places before between)
    (h' : MakesDirectories places between after) : MakesDirectories places before after := by
  intro other
  rcases h' other with hsame | ⟨hplace, hnone, hmade⟩
  · rw [hsame]
    exact h other
  · rcases h other with hsame | ⟨-, -, hmade'⟩
    · exact .inr ⟨hplace, hsame ▸ hnone, hmade⟩
    · rw [hmade'] at hnone
      cases hnone

theorem mono (h : MakesDirectories places before after)
    (hsub : ∀ other, places other → others other) : MakesDirectories others before after :=
  fun other => (h other).imp_right (And.imp_left (hsub other))

/-- Elsewhere all stays. -/
theorem eq_of_not (h : MakesDirectories places before after) {other : String}
    (hplace : ¬ places other) : after other = before other :=
  (h other).resolve_right fun hmade => hplace hmade.1

end MakesDirectories

end Files

/-! ### Runs -/

/-- The program, started with the files, can go through the states, one after each call, and come to
the result. -/
inductive FileProgram.Runs {α : Type} : Files → FileProgram α → List Files → α → Prop
  | done (before : Files) (result : α) : Runs before (.done result) [] result
  | call {before after : Files} {c : FileCall} {reply : c.Reply} {next : c.Reply → FileProgram α}
      {states : List Files} {result : α} (allows : before.Allows c reply after)
      (rest : Runs after (next reply) states result) :
      Runs before (.call c next) (after :: states) result

namespace FileProgram

variable {α β : Type} {before : Files} {states : List Files}

theorem runs_done {value result : α} :
    Runs before (.done value) states result ↔ states = [] ∧ result = value := by
  constructor
  · rintro ⟨⟩
    exact ⟨rfl, rfl⟩
  · rintro ⟨rfl, rfl⟩
    exact .done before result

theorem runs_ask {c : FileCall} {reply : c.Reply} :
    (ask c).Runs before states reply ↔ ∃ after, before.Allows c reply after ∧ states = [after] := by
  constructor
  · intro h
    cases h with
    | call allows rest =>
      obtain ⟨rfl, rfl⟩ := runs_done.1 rest
      exact ⟨_, allows, rfl⟩
  · rintro ⟨after, allows, rfl⟩
    exact .call allows (.done after reply)

theorem runs_bind {program : FileProgram α} {next : α → FileProgram β} {result : β} :
    (program >>= next).Runs before states result ↔
      ∃ value first rest, program.Runs before first value ∧
        (next value).Runs (first.getLastD before) rest result ∧ states = first ++ rest := by
  constructor
  · intro h
    induction program generalizing before states with
    | done value => exact ⟨value, [], states, .done before value, h, rfl⟩
    | call c later ih =>
      rw [call_bind] at h
      cases h with
      | call allows hlater =>
        obtain ⟨value, first, rest, hfirst, hrest, rfl⟩ := ih _ hlater
        exact ⟨value, _ :: first, rest, .call allows hfirst, by rwa [List.getLastD_cons], rfl⟩
  · rintro ⟨value, first, rest, hfirst, hrest, rfl⟩
    induction hfirst with
    | done before value => exact hrest
    | call allows _ ih =>
      rw [List.getLastD_cons] at hrest
      exact .call allows (ih hrest)

end FileProgram

end MentionPrompt
