import MentionPrompt.Editing.KeyScript
import MentionPrompt.Proofs.Editing.Picking

/-!
Replaying a key script.

Main statement: a script in which every pick finds its candidate has the effect of its steps one after
the other; any other script ends at its first pick that finds none, in an error that names the position
and the query at that moment. Neither is ever remarked on.
-/

namespace MentionPrompt

/-- What the step of a script does in a session. -/
def ScriptStep.action : ScriptStep → EditAction
  | .key pressed => .key pressed
  | .pick index => .pick index.toNat

namespace Composer

/-- The step can be carried out: a pick needs a mention that is being typed and a candidate at its
position. -/
def Hits (composer : Composer) : ScriptStep → Prop
  | .key _ => True
  | .pick index =>
    composer.capture.isComposing = true ∧ index.toNat < composer.candidates.length

instance (composer : Composer) : (step : ScriptStep) → Decidable (composer.Hits step)
  | .key _ => inferInstanceAs (Decidable True)
  | .pick _ => inferInstanceAs (Decidable (_ ∧ _))

/-- Every step can be carried out in the session that the steps before it lead to. -/
def HitsAll : Composer → List ScriptStep → Prop
  | _, [] => True
  | composer, step :: rest => composer.Hits step ∧ (composer.act step.action).HitsAll rest

instance : (composer : Composer) → (script : List ScriptStep) → Decidable (composer.HitsAll script)
  | _, [] => inferInstanceAs (Decidable True)
  | composer, step :: rest =>
    have := instDecidableHitsAll (composer.act step.action) rest
    inferInstanceAs (Decidable (_ ∧ _))

/-- The session after a script that can be carried out. -/
def runScript (composer : Composer) (script : List ScriptStep) : Composer :=
  composer.run (script.map ScriptStep.action)

/-- The error of a pick that finds no candidate. -/
def missError (composer : Composer) (index : UInt64) : PromptError :=
  match composer.capture.query? with
  | some query => .noCandidate index query
  | none => .pickWhileIdle index

theorem cls_missError (composer : Composer) (index : UInt64) :
    (composer.missError index).cls = .user := by
  unfold missError
  split <;> rfl

variable {composer : Composer} {script : List ScriptStep}

theorem play_of_hits {step : ScriptStep} (h : composer.Hits step) :
    composer.play step = .ok (composer.act step.action) := by
  cases step with
  | key key => rfl
  | pick index =>
    obtain ⟨insertion, hsome⟩ := Option.isSome_iff_exists.1 (isSome_pick_iff.2 h)
    have hpick : composer.pick index.toNat = (some insertion, (composer.pick index.toNat).2) :=
      Prod.ext hsome rfl
    rw [play, hpick]
    rfl

theorem play_of_not_hits {step : ScriptStep} (h : ¬ composer.Hits step) :
    ∃ index, step = .pick index ∧ composer.play step = .error (composer.missError index) := by
  cases step with
  | key key => exact absurd trivial h
  | pick index =>
    refine ⟨index, rfl, ?_⟩
    have hnone : (composer.pick index.toNat).1 = none :=
      Option.not_isSome_iff_eq_none.1 (mt isSome_pick_iff.1 h)
    have hpick : composer.pick index.toNat = (none, (composer.pick index.toNat).2) :=
      Prod.ext hnone rfl
    rw [play, hpick, missError]
    cases composer.capture.query? <;> rfl

theorem replay_cons {step : ScriptStep} :
    composer.replay (step :: script) = (composer.play step >>= fun next => next.replay script) := rfl

theorem replay_of_hitsAll (h : composer.HitsAll script) :
    composer.replay script = .ok (composer.runScript script) := by
  induction script generalizing composer with
  | nil => rfl
  | cons step rest ih =>
    rw [replay_cons, play_of_hits h.1]
    exact ih h.2

/-- The replay ends in the error of the first step that cannot be carried out. -/
theorem replay_of_not_hitsAll (h : ¬ composer.HitsAll script) :
    ∃ front index back, script = front ++ .pick index :: back ∧ composer.HitsAll front ∧
      ¬ (composer.runScript front).Hits (.pick index) ∧
      composer.replay script = .error ((composer.runScript front).missError index) := by
  induction script generalizing composer with
  | nil => exact absurd trivial h
  | cons step rest ih =>
    by_cases hstep : composer.Hits step
    · obtain ⟨front, index, back, hscript, hfront, hmiss, herror⟩ :=
        ih fun hrest => h ⟨hstep, hrest⟩
      refine ⟨step :: front, index, back, by rw [hscript]; rfl, ⟨hstep, hfront⟩, hmiss, ?_⟩
      rw [replay_cons, play_of_hits hstep]
      exact herror
    · obtain ⟨index, rfl, herror⟩ := play_of_not_hits hstep
      refine ⟨[], index, rest, rfl, trivial, hstep, ?_⟩
      rw [replay_cons, herror]
      rfl

/-- What is offered can be written, so a script is carried out without a remark. -/
theorem replayNotices_eq_nil (h : composer.Coherent) : composer.replayNotices script = [] := by
  induction script generalizing composer with
  | nil => rfl
  | cons step rest ih =>
    have hstep : composer.playNotices step = [] := by
      cases step with
      | key key => rfl
      | pick index => exact pickNotices_eq_nil h index.toNat
    rw [replayNotices, hstep, List.nil_append]
    by_cases hhits : composer.Hits step
    · rw [play_of_hits hhits]
      exact ih (coherent_act h step.action)
    · obtain ⟨index, -, herror⟩ := play_of_not_hits hhits
      rw [herror]

end Composer

end MentionPrompt
