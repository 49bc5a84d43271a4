import Mathlib.Data.List.Infix
import MentionPrompt.Segment.Token

/-!
The shape of a token, and where tokens can start.

Main statements: reading a token succeeds exactly on a written token with anything behind it, and a
token has its only `@` in front. So a token that starts in a text and does not end there cannot be
completed by text that is empty or starts with `@`.
-/

namespace MentionPrompt.Segment

/-- The text holds the token of a well-formed identifier, as one stretch. -/
def HasToken (s : List Char) : Prop :=
  ∃ kind identifier, isIdentifier identifier = true ∧ (RefKind.token kind identifier).toList <:+: s

/-! ### Reading is the inverse of writing -/

theorem keyword?_eq_some_iff {s rest : List Char} {kind : RefKind} :
    keyword? s = some (kind, rest) ↔ s = kind.keyword.toList ++ ':' :: rest := by
  constructor
  · intro h
    unfold keyword? at h
    split at h
    · rename_i c behind hbehind
      obtain ⟨found, hword, hfound⟩ := Option.map_eq_some_iff.1 h
      obtain ⟨rfl, rfl⟩ := Prod.mk.inj hfound
      have hcolon : c = ':' := by
        have hstop := List.head?_dropWhile_not (· != ':') s
        simpa [hbehind] using hstop
      subst hcolon
      rw [RefKind.ofKeyword?_eq_some_iff.1 hword, String.toList_ofList, ← hbehind,
        List.takeWhile_append_dropWhile]
    · cases h
  · rintro rfl
    cases kind <;> rfl

theorem toList_token (kind : RefKind) (identifier : String) :
    (kind.token identifier).toList
      = '@' :: '{' :: (kind.keyword.toList ++ ':' :: (identifier.toList ++ ['}'])) := by
  simp [RefKind.token]

/-- A run of identifier characters up to a closing brace is found by splitting at the first
character that is none. -/
theorem span_identifier {body identifier after : List Char} :
    body.takeWhile isIdentifierChar = identifier ∧ body.dropWhile isIdentifierChar = '}' :: after ↔
      (∀ c ∈ identifier, isIdentifierChar c = true) ∧ body = identifier ++ '}' :: after := by
  constructor
  · rintro ⟨rfl, hafter⟩
    refine ⟨fun c hc => List.all_eq_true.1 List.all_takeWhile c hc, ?_⟩
    rw [← hafter, List.takeWhile_append_dropWhile]
  · rintro ⟨hall, rfl⟩
    have hbrace : isIdentifierChar '}' = false := by decide
    simp [List.takeWhile_append_of_pos hall, List.dropWhile_append_of_pos hall, hbrace]

/-- Reading a token succeeds exactly on a written token, and leaves what stands behind it. -/
theorem token?_eq_some_iff {s identifier after : List Char} {kind : RefKind} :
    token? s = some (kind, identifier, after) ↔
      isIdentifier (String.ofList identifier) = true ∧
        s = (kind.token (String.ofList identifier)).toList ++ after := by
  rw [isIdentifier_iff, toList_token]
  simp only [String.toList_ofList, List.cons_append, List.append_assoc, List.nil_append]
  constructor
  · intro h
    unfold token? at h
    split at h
    · rename_i rest
      cases hk : keyword? rest with
      | none => simp [hk] at h
      | some found =>
        obtain ⟨kind', body⟩ := found
        simp only [hk, Option.bind_eq_bind, Option.bind_some] at h
        split at h
        · rename_i c id after' htake hdrop
          simp only [Option.some.injEq, Prod.mk.injEq] at h
          obtain ⟨rfl, rfl, rfl⟩ := h
          obtain ⟨hall, rfl⟩ := span_identifier.1 ⟨htake, hdrop⟩
          rw [keyword?_eq_some_iff] at hk
          exact ⟨⟨List.cons_ne_nil _ _, hall⟩, by rw [hk]⟩
        · simp at h
    · simp at h
  · rintro ⟨⟨hne, hall⟩, rfl⟩
    obtain ⟨c, id, rfl⟩ := List.exists_cons_of_ne_nil hne
    have hk : keyword? (kind.keyword.toList ++ ':' :: (c :: id ++ '}' :: after))
        = some (kind, c :: id ++ '}' :: after) := keyword?_eq_some_iff.2 rfl
    have hbody : c :: id ++ '}' :: after = c :: id ++ '}' :: after := rfl
    obtain ⟨htake, hdrop⟩ := span_identifier.2 ⟨hall, hbody⟩
    simp only [token?, hk, Option.bind_eq_bind, Option.bind_some, htake, hdrop]

theorem token?_token (kind : RefKind) {identifier : String} (h : isIdentifier identifier = true)
    (after : List Char) :
    token? ((kind.token identifier).toList ++ after) = some (kind, identifier.toList, after) := by
  rw [token?_eq_some_iff, String.ofList_toList]
  exact ⟨h, rfl⟩

/-- A token that is read from a text is read from any longer text too. -/
theorem token?_append {s identifier after : List Char} {kind : RefKind}
    (h : token? s = some (kind, identifier, after)) (r : List Char) :
    token? (s ++ r) = some (kind, identifier, after ++ r) := by
  obtain ⟨hid, rfl⟩ := token?_eq_some_iff.1 h
  rw [List.append_assoc]
  exact token?_eq_some_iff.2 ⟨hid, rfl⟩

/-! ### Where tokens start -/

/-- A text holds a token exactly when one can be read at some place of it. -/
theorem hasToken_iff {s : List Char} :
    HasToken s ↔ ∃ t, t <:+ s ∧ (token? t).isSome = true := by
  constructor
  · rintro ⟨kind, identifier, hid, before, after, rfl⟩
    refine ⟨(kind.token identifier).toList ++ after, ⟨before, by simp⟩, ?_⟩
    rw [token?_token kind hid, Option.isSome_some]
  · rintro ⟨t, ⟨before, rfl⟩, ht⟩
    obtain ⟨⟨kind, identifier, after⟩, hread⟩ := Option.isSome_iff_exists.1 ht
    obtain ⟨hid, rfl⟩ := token?_eq_some_iff.1 hread
    exact ⟨kind, String.ofList identifier, hid, before, after, by simp⟩

instance (s : List Char) : Decidable (HasToken s) :=
  decidable_of_iff (∃ t ∈ s.tails, (token? t).isSome = true) (by simp [hasToken_iff])

theorem token?_eq_none {s t : List Char} (h : ¬ HasToken s) (ht : t <:+ s) : token? t = none := by
  rw [← Option.not_isSome_iff_eq_none]
  exact fun hsome => h (hasToken_iff.2 ⟨t, ht, hsome⟩)

theorem HasToken.mono {s t : List Char} (h : HasToken s) (hst : s <:+: t) : HasToken t := by
  obtain ⟨kind, identifier, hid, hin⟩ := h
  exact ⟨kind, identifier, hid, hin.trans hst⟩

/-- The only `@` of a token is its first character. -/
theorem at_notMem_tail_token (kind : RefKind) {identifier : String}
    (h : isIdentifier identifier = true) : '@' ∉ (kind.token identifier).toList.tail := by
  have hchars := (isIdentifier_iff.1 h).2
  have hat : '@' ∉ identifier.toList := fun hmem => absurd (hchars '@' hmem) (by decide)
  cases kind <;> simp [toList_token, RefKind.keyword, hat]

/-- A token does not run from a text that is not empty into one that is empty or starts with `@`. -/
theorem token?_append_eq_none {s r : List Char} (hs : s ≠ []) (hr : ∀ c ∈ r.head?, c = '@')
    (h : token? s = none) : token? (s ++ r) = none := by
  refine Option.eq_none_iff_forall_ne_some.2 ?_
  rintro ⟨kind, identifier, after⟩ hread
  obtain ⟨hid, heq⟩ := token?_eq_some_iff.1 hread
  rcases List.append_eq_append_iff.1 heq with ⟨rest, htoken, hrest⟩ | ⟨rest, hs', -⟩
  · cases rest with
    | nil =>
      have := token?_token kind hid []
      rw [htoken, List.append_nil, List.append_nil, h] at this
      cases this
    | cons c rest =>
      -- The token goes on in `r`, so the `@` at the start of `r` is one of its later characters.
      obtain ⟨x, s', rfl⟩ := List.exists_cons_of_ne_nil hs
      have hc : c = '@' := hr c (by simp [hrest])
      refine at_notMem_tail_token kind hid ?_
      simp [htoken, hc]
  · rw [hs', token?_token kind hid] at h
    cases h

end MentionPrompt.Segment
