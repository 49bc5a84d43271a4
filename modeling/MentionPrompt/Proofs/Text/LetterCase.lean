import MentionPrompt.Text.LetterCase
import MentionPrompt.Text.Search

/-!
Lower case of a stretch of text.

The lower case of a character does not depend on what surrounds it, with one exception: a capital
sigma looks at the nearest letters on both sides. So a stretch that is cut out of a text may be
lowered in another way than it is in its place.

        text      Ο Δ Ο Σ Α        the sigma stands inside a word: σ
        stretch   Ο Δ Ο Σ          the sigma ends the word: ς

Main statements: a stretch is lowered in its place as it is by itself exactly when each of its
capital sigmas ends a word at both or at neither. Whether a stretch is lowered so in every place
shows in two places, between a letter and a full stop, and between two letters.
-/

namespace MentionPrompt.Text

/-- A capital sigma between the two texts ends a word; `before` has its nearest character first. -/
def endsWord (before after : List Char) : Bool := meetsCased before && !meetsCased after

/-- The lower case of a stretch of text in its place, between `before`, its nearest character first,
and `after`. -/
def lowerBetween (before after : List Char) : List Char → List Char
  | [] => []
  | c :: rest =>
    let mapped :=
      if c = 'Σ' then [if endsWord before (rest ++ after) then 'ς' else 'σ'] else lowerChar c
    mapped ++ lowerBetween (c :: before) after rest

theorem lowerAfter_append (before body after : List Char) :
    lowerAfter before (body ++ after)
      = lowerBetween before after body ++ lowerAfter (body.reverse ++ before) after := by
  induction body generalizing before with
  | nil => rfl
  | cons c body ih =>
    rw [List.cons_append, lowerAfter, ih, lowerBetween, endsWord, List.append_assoc,
      List.reverse_cons, List.append_assoc, List.singleton_append]

theorem lowerAfter_eq_lowerBetween (before body : List Char) :
    lowerAfter before body = lowerBetween before [] body := by
  simpa [lowerAfter] using lowerAfter_append before body []

/-- A text in lower case is its parts in lower case, each in its place. -/
theorem toList_lower_append (front body back : List Char) :
    (lower (String.ofList (front ++ body ++ back))).toList =
      lowerBetween [] (body ++ back) front ++ lowerBetween front.reverse back body ++
        lowerAfter (body.reverse ++ front.reverse) back := by
  simp only [lower, String.toList_ofList, List.append_assoc, lowerAfter_append, List.append_nil]

/-- Each capital sigma of the stretch ends a word of the text exactly if it ends one of the stretch.
-/
def KeepsSigmas (front body back : List Char) : Prop :=
  ∀ left right, body = left ++ 'Σ' :: right →
    endsWord (left.reverse ++ front.reverse) (right ++ back) = endsWord left.reverse right

theorem keepsSigmas_of_notMem {front body back : List Char} (h : 'Σ' ∉ body) :
    KeepsSigmas front body back := by
  rintro left right rfl
  exact absurd (List.mem_append_right left List.mem_cons_self) h

/-- A capital sigma of a text with one more character is that character or one of the text. -/
theorem forall_sigma_cons {c : Char} {body : List Char} {p : List Char → List Char → Prop} :
    (∀ left right, c :: body = left ++ 'Σ' :: right → p left right) ↔
      (c = 'Σ' → p [] body) ∧ ∀ left right, body = left ++ 'Σ' :: right → p (c :: left) right := by
  constructor
  · intro h
    exact ⟨fun hc => h [] body (by rw [hc]; rfl),
      fun left right hbody => h (c :: left) right (by rw [hbody]; rfl)⟩
  · rintro ⟨hfirst, hrest⟩ left right heq
    cases left with
    | nil =>
      cases heq
      exact hfirst rfl
    | cons d left =>
      obtain ⟨rfl, hbody⟩ := List.cons.inj heq
      exact hrest left right hbody

/-- Lowering a stretch with more in front and behind changes nothing exactly if it changes no sigma.
The induction moves what is done to `before`, which both sides see. -/
theorem lowerBetween_append_eq_iff (before outer after body : List Char) :
    lowerBetween (before ++ outer) after body = lowerBetween before [] body ↔
      ∀ left right, body = left ++ 'Σ' :: right →
        endsWord (left.reverse ++ before ++ outer) (right ++ after)
          = endsWord (left.reverse ++ before) right := by
  induction body generalizing before with
  | nil => simp [lowerBetween]
  | cons c body ih =>
    have hrest :
        lowerBetween (c :: (before ++ outer)) after body = lowerBetween (c :: before) [] body ↔
        ∀ left right, body = left ++ 'Σ' :: right →
          endsWord ((c :: left).reverse ++ before ++ outer) (right ++ after)
            = endsWord ((c :: left).reverse ++ before) right := by
      simpa using ih (c :: before)
    rw [forall_sigma_cons, ← hrest, lowerBetween, lowerBetween, List.append_nil]
    by_cases hc : c = 'Σ'
    · have hform (a b : Bool) : (if a then 'ς' else 'σ') = (if b then 'ς' else 'σ') ↔ a = b := by
        cases a <;> cases b <;> decide
      simp only [hc, if_true, List.singleton_append, List.cons.injEq, hform, true_implies,
        List.reverse_nil, List.nil_append]
    · simp only [hc, if_false, List.append_cancel_left_eq, false_implies, true_and]

theorem lowerBetween_eq_iff {front body back : List Char} :
    lowerBetween front.reverse back body = lowerAfter [] body ↔ KeepsSigmas front body back := by
  rw [lowerAfter_eq_lowerBetween]
  simpa [KeepsSigmas] using lowerBetween_append_eq_iff [] front.reverse back body

/-! ### Surroundings that matter -/

/-- All characters of the text are case-ignorable. -/
def Ignorable (chars : List Char) : Prop := ∀ c ∈ chars, caseIgnorableTable.contains c = true

theorem meetsCased_append_of_ignorable {near : List Char} (h : Ignorable near) (far : List Char) :
    meetsCased (near ++ far) = meetsCased far := by
  have hnone : near.find? (fun c => !caseIgnorableTable.contains c) = none :=
    List.find?_eq_none.2 fun c hmem => by simp [h c hmem]
  rw [meetsCased, List.find?_append, hnone, Option.none_or, ← meetsCased]

theorem meetsCased_append_of_not_ignorable {near : List Char} (h : ¬ Ignorable near)
    (far : List Char) : meetsCased (near ++ far) = meetsCased near := by
  cases hfind : near.find? (fun c => !caseIgnorableTable.contains c) with
  | none => exact absurd (fun c hmem => by simpa using List.find?_eq_none.1 hfind c hmem) h
  | some c => rw [meetsCased, meetsCased, List.find?_append, hfind, Option.some_or]

theorem meetsCased_of_ignorable {near : List Char} (h : Ignorable near) :
    meetsCased near = false := by
  rw [← List.append_nil near, meetsCased_append_of_ignorable h]
  rfl

theorem meetsCased_letter : meetsCased ['a'] = true := by decide +kernel

theorem meetsCased_stop : meetsCased ['.'] = false := by decide +kernel

/-- A sigma that no surroundings of these two change keeps its form everywhere. The cases ask
whether the sigma sees beyond the stretch, on the left and on the right: where it does not, no
surroundings count. -/
theorem keepsSigmas_of_two {body : List Char} (hlast : KeepsSigmas ['a'] body ['.'])
    (hinner : KeepsSigmas ['a'] body ['a']) (front back : List Char) :
    KeepsSigmas front body back := by
  intro left right hbody
  have hlast := hlast left right hbody
  have hinner := hinner left right hbody
  simp only [endsWord, List.reverse_singleton] at hlast hinner ⊢
  by_cases hleft : Ignorable left.reverse
  · rw [meetsCased_of_ignorable hleft, meetsCased_append_of_ignorable hleft,
      meetsCased_letter] at hlast
    rw [meetsCased_of_ignorable hleft]
    by_cases hright : Ignorable right
    · rw [meetsCased_append_of_ignorable hright, meetsCased_stop] at hlast
      cases hlast
    · rw [meetsCased_append_of_not_ignorable hright] at hlast ⊢
      have hcased : meetsCased right = true := by simpa using hlast
      rw [hcased, Bool.not_true, Bool.and_false, Bool.and_false]
  · rw [meetsCased_append_of_not_ignorable hleft] at hinner ⊢
    by_cases hright : Ignorable right
    · rw [meetsCased_of_ignorable hright, meetsCased_append_of_ignorable hright,
        meetsCased_letter] at hinner
      have hcased : meetsCased left.reverse = false := by simpa using hinner.symm
      rw [hcased, Bool.false_and, Bool.false_and]
    · rw [meetsCased_append_of_not_ignorable hright]

/-! ### A stretch that is not met -/

/-- The two lower-case sigmas, taken as one letter. -/
def plainSigma (c : Char) : Char := if c = 'ς' then 'σ' else c

theorem map_plainSigma_lowerBetween (before after body : List Char) :
    (lowerBetween before after body).map plainSigma =
      body.flatMap fun c => if c = 'Σ' then ['σ'] else (lowerChar c).map plainSigma := by
  induction body generalizing before with
  | nil => rfl
  | cons c body ih =>
    rw [lowerBetween, List.map_append, ih, List.flatMap_cons]
    by_cases hc : c = 'Σ'
    · simp only [hc, if_true, apply_ite plainSigma, List.map_singleton]
      rw [show plainSigma 'ς' = 'σ' from rfl, show plainSigma 'σ' = 'σ' from rfl, ite_self]
    · simp only [hc, if_false]

theorem forall_eq_of_prefix_cons {chars : List Char} {x : Char} (h : chars <+: x :: chars) :
    ∀ c ∈ chars, c = x := by
  induction chars with
  | nil => simp
  | cons c chars ih =>
    obtain ⟨rfl, hrest⟩ := List.cons_prefix_cons.1 h
    simpa using ih hrest

/-- A word is not found in one that differs from it in the forms of sigmas only, with one other
character on each side: in its place a form differs, and a place further on would make it a run of
one letter. -/
theorem not_isInfix_of_plainSigma {word other : List Char} {x y : Char} (hne : word ≠ other)
    (halike : word.map plainSigma = other.map plainSigma) (hsigma : 'σ' ∈ word.map plainSigma)
    (hx : plainSigma x ≠ 'σ') (hy : plainSigma y ≠ 'σ') : ¬ word <:+: x :: (other ++ [y]) := by
  have hlength : word.length = other.length := by simpa using congrArg List.length halike
  rintro ⟨front, back, heq⟩
  have htotal := congrArg List.length heq
  simp only [List.length_append, List.length_cons, List.length_nil] at htotal
  have hmapped := congrArg (List.map plainSigma) heq
  rw [List.map_cons, List.map_append, List.map_append, List.map_append, ← halike] at hmapped
  match front with
  | [] =>
    have hprefix : word.map plainSigma <+: plainSigma x :: word.map plainSigma :=
      List.prefix_of_prefix_length_le ⟨_, hmapped⟩ ⟨_, rfl⟩ (by simp)
    exact hx (forall_eq_of_prefix_cons hprefix _ hsigma).symm
  | [c] =>
    rw [List.singleton_append, List.cons_append] at heq
    exact hne (List.append_inj (List.cons.inj heq).2 hlength).1
  | c :: d :: front =>
    have hfront : front = [] := List.length_eq_zero_iff.1 (by simp at htotal; omega)
    have hback : back = [] := List.length_eq_zero_iff.1 (by simp at htotal; omega)
    rw [hfront, hback, List.map_nil, List.append_nil] at hmapped
    have hturned := congrArg List.reverse (List.cons.inj hmapped).2
    rw [List.reverse_append] at hturned
    have hprefix :
        (word.map plainSigma).reverse <+: plainSigma y :: (word.map plainSigma).reverse :=
      ⟨[plainSigma d], by simpa using hturned⟩
    exact hy (forall_eq_of_prefix_cons hprefix _ (List.mem_reverse.2 hsigma)).symm

/-- In surroundings that change one of its sigmas a stretch is nowhere met. -/
theorem not_contains_lower_of_changed {body : List Char} {last : Char}
    (hchanged : ¬ KeepsSigmas ['a'] body [last]) (hlast : last = '.' ∨ last = 'a') :
    contains (lower (String.ofList body)).toList
      (lower (String.ofList (['a'] ++ body ++ [last]))).toList = false := by
  have hsigma : 'Σ' ∈ body :=
    Decidable.byContradiction fun hnone => hchanged (keepsSigmas_of_notMem hnone)
  have hfirst : lowerBetween [] (body ++ [last]) ['a'] = ['a'] := rfl
  have hbehind (before : List Char) : lowerAfter before [last] = [last] := by
    rcases hlast with rfl | rfl <;> rfl
  have hword : (lower (String.ofList body)).toList = lowerBetween [] [] body := by
    simp [lower, lowerAfter_eq_lowerBetween]
  rw [← Bool.not_eq_true, contains_iff_isInfix, toList_lower_append, hfirst, hbehind, hword,
    List.singleton_append, List.cons_append]
  refine not_isInfix_of_plainSigma (fun heq => hchanged ?_) ?_ ?_ (by decide) ?_
  · rw [← lowerBetween_eq_iff, lowerAfter_eq_lowerBetween, heq]
  · rw [map_plainSigma_lowerBetween, map_plainSigma_lowerBetween]
  · rw [map_plainSigma_lowerBetween]
    exact List.mem_flatMap.2 ⟨'Σ', hsigma, by simp⟩
  · rcases hlast with rfl | rfl <;> decide

end MentionPrompt.Text
