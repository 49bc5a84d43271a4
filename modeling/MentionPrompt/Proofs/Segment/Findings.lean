import MentionPrompt.Segment.Basic

/-!
Findings: what a check reports about the members of a list, each finding with a position.

Main statements: a check that goes through a list member by member, and reports at most one finding
for each, gives all its findings in the order of their positions, and no position twice. What there
is to find determines the list; and the findings of two checks, merged by position, are those of both.
-/

namespace MentionPrompt

/-- The list holds exactly the findings there are, in the order of their positions. The order is
strict, so no position has two of them. -/
structure Findings {β : Type} (position : β → Nat) (IsFound : β → Prop) (findings : List β) : Prop where
  mem_iff : ∀ finding, finding ∈ findings ↔ IsFound finding
  ordered : findings.Pairwise fun a b => position a < position b

namespace Findings

variable {α β : Type} {position : β → Nat} {IsFound : β → Prop} {findings : List β}

theorem pairwise_zipIdx (list : List α) : list.zipIdx.Pairwise fun a b => a.2 < b.2 := by
  have hpositions := List.pairwise_lt_range' (s := 0) (n := list.length)
  rw [← List.zipIdx_map_snd 0 list] at hpositions
  exact List.pairwise_map.1 hpositions

/-- What a check of each member by itself finds in a list. -/
theorem filterMap_zipIdx (check : α → Nat → Option β)
    (hcheck : ∀ {member index finding}, check member index = some finding →
      position finding = index) (list : List α) :
    Findings position
      (fun finding => ∃ member, list[position finding]? = some member ∧
        check member (position finding) = some finding)
      (list.zipIdx.filterMap fun (member, index) => check member index) where
  mem_iff finding := by
    rw [List.mem_filterMap]
    constructor
    · rintro ⟨⟨member, index⟩, hmember, hfound⟩
      obtain rfl := hcheck hfound
      exact ⟨member, List.mem_zipIdx_iff_getElem?.1 hmember, hfound⟩
    · rintro ⟨member, hmember, hfound⟩
      exact ⟨(member, position finding), List.mem_zipIdx_iff_getElem?.2 hmember, hfound⟩
  ordered := by
    refine List.pairwise_filterMap.2 ((pairwise_zipIdx list).imp ?_)
    intro a b hlt found hfound later hlater
    rwa [hcheck hfound, hcheck hlater]

theorem of_iff {IsFound' : β → Prop} (h : Findings position IsFound findings)
    (hiff : ∀ finding, IsFound finding ↔ IsFound' finding) : Findings position IsFound' findings :=
  ⟨fun finding => (h.mem_iff finding).trans (hiff finding), h.ordered⟩

/-- The findings that pass a test. -/
theorem filter (h : Findings position IsFound findings) (test : β → Bool) :
    Findings position (fun finding => IsFound finding ∧ test finding = true)
      (findings.filter test) :=
  ⟨fun finding => by rw [List.mem_filter, h.mem_iff], h.ordered.filter test⟩

theorem nodup (h : Findings position IsFound findings) : findings.Nodup := by
  refine h.ordered.imp fun hlt heq => ?_
  rw [heq] at hlt
  exact Nat.lt_irrefl _ hlt

/-- A list of findings is determined by what there is to find. -/
theorem eq_of_findings {other : List β} (h : Findings position IsFound findings)
    (hother : Findings position IsFound other) : findings = other := by
  have hperm : findings.Perm other := (List.perm_ext_iff_of_nodup h.nodup hother.nodup).2
    fun finding => (h.mem_iff finding).trans (hother.mem_iff finding).symm
  exact hperm.eq_of_pairwise
    (fun _ _ _ _ hlt hgt => absurd hlt (Nat.lt_asymm hgt)) h.ordered hother.ordered

/-- The findings of two checks that never find something at the same position, merged. -/
theorem merge {IsOther : β → Prop} {others : List β} (h : Findings position IsFound findings)
    (hothers : Findings position IsOther others)
    (hapart : ∀ a b, IsFound a → IsOther b → position a ≠ position b) :
    Findings position (fun finding => IsFound finding ∨ IsOther finding)
      (findings.merge others fun a b => position a ≤ position b) where
  mem_iff finding := by rw [List.mem_merge, h.mem_iff, hothers.mem_iff]
  ordered := by
    have hsorted : (findings.merge others fun a b => position a ≤ position b).Pairwise
        fun a b => decide (position a ≤ position b) = true := by
      refine List.pairwise_merge (fun a b c hab hbc => ?_) (fun a b => ?_) _ _
        (h.ordered.imp fun hlt => decide_eq_true (Nat.le_of_lt hlt))
        (hothers.ordered.imp fun hlt => decide_eq_true (Nat.le_of_lt hlt))
      · exact decide_eq_true (Nat.le_trans (of_decide_eq_true hab) (of_decide_eq_true hbc))
      · rw [Bool.or_eq_true, decide_eq_true_iff, decide_eq_true_iff]
        exact Nat.le_total ..
    have hdistinct : (findings.merge others fun a b => position a ≤ position b).Pairwise
        fun a b => position a ≠ position b := by
      refine ((List.merge_perm_append _).pairwise_iff fun hne => Ne.symm hne).2 ?_
      refine List.pairwise_append.2
        ⟨h.ordered.imp Nat.ne_of_lt, hothers.ordered.imp Nat.ne_of_lt, fun a ha b hb => ?_⟩
      exact hapart a b ((h.mem_iff a).1 ha) ((hothers.mem_iff b).1 hb)
    refine (hsorted.and hdistinct).imp fun ⟨hle, hne⟩ => ?_
    exact Nat.lt_of_le_of_ne (of_decide_eq_true hle) hne

theorem eq_nil_iff (h : Findings position IsFound findings) :
    findings = [] ↔ ∀ finding, ¬ IsFound finding := by
  rw [List.eq_nil_iff_forall_not_mem]
  exact forall_congr' fun finding => not_congr (h.mem_iff finding)

end Findings

/-! ### References -/

/-- The references of a list of segments are its reference segments with their positions. -/
theorem Segment.findings_references (segments : List Segment) :
    Findings Reference.index
      (fun reference => segments[reference.index]?
        = some (.reference reference.kind reference.identifier))
      (references segments) := by
  have hreference : ∀ {segment index reference}, reference? segment index = some reference →
      reference.index = index ∧ segment = .reference reference.kind reference.identifier := by
    intro segment index reference h
    cases segment with
    | literal text => cases h
    | reference kind identifier =>
      cases h
      exact ⟨rfl, rfl⟩
  refine (Findings.filterMap_zipIdx reference? (fun h => (hreference h).1) segments).of_iff ?_
  intro reference
  constructor
  · rintro ⟨segment, hsegment, hfound⟩
    rw [hsegment, (hreference hfound).2]
  · intro hsegment
    exact ⟨_, hsegment, rfl⟩

end MentionPrompt
