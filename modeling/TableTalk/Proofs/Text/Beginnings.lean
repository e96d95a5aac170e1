import TableTalk.Proofs.Text.Casing

/-! Beginnings in small letters. A text begins with each of its beginnings; in small letters it need
not, since a sigma that ends a word there may have more of the word behind it in the whole. -/
namespace TableTalk.Text
variable {c : Char} {s t before : List Char} {ends ends' : Bool}

/-- What is met stays met, whatever stands further away. -/
theorem meetsCased_append (h : meetsCased s) (t : List Char) : meetsCased (s ++ t) := by
  induction s with
  | nil => cases h
  | cons c s ih =>
    rw [List.cons_append, meetsCased_cons]
    rw [meetsCased_cons] at h
    split
    · next hpassed =>
      rw [if_pos hpassed] at h
      exact ih h
    · next hcounts =>
      rw [if_neg hcounts] at h
      exact h

/-- Whatever ends a word with more text behind it ends one without. -/
theorem endsWord_of_append (h : endsWord before (s ++ t)) : endsWord before s := by
  obtain ⟨hbefore, hafter⟩ := Bool.and_eq_true_iff.mp h
  refine Bool.and_eq_true_iff.mpr ⟨hbefore, ?_⟩
  rw [Bool.not_eq_true'] at hafter ⊢
  apply Bool.eq_false_iff.mpr
  intro hmet
  rw [meetsCased_append hmet t] at hafter
  cases hafter

theorem lowerAt_eq_lowerAt_iff : lowerAt ends c = lowerAt ends' c ↔ (c = 'Σ' → ends = ends') := by
  by_cases hsigma : c = 'Σ'
  · subst hsigma
    rw [imp_iff_right rfl]
    cases ends <;> cases ends' <;> decide +kernel
  · simp only [lowerAt, hsigma, false_and, if_false, false_implies]

/-- Small letters keep a beginning if, and only if, each of its capital sigmas that ends a word ends
one in the whole text as well. -/
theorem lowerAfter_prefix_iff (before s t : List Char) :
    lowerAfter before s <+: lowerAfter before (s ++ t) ↔
      ∀ i, s[i]? = some 'Σ' → endsAt before s i → endsAt before (s ++ t) i := by
  induction s generalizing before with
  | nil => exact iff_of_true (List.nil_prefix) nofun
  | cons c s ih =>
    have hlength :
        (lowerAt (endsWord before s) c).length = (lowerAt (endsWord before (s ++ t)) c).length := by
      rw [length_lowerAt, length_lowerAt]
    have hends : endsWord before s = endsWord before (s ++ t) ↔
        (endsWord before s → endsWord before (s ++ t)) := by
      rw [Bool.eq_iff_iff]
      exact ⟨Iff.mp, fun h => ⟨h, endsWord_of_append⟩⟩
    rw [List.cons_append, lowerAfter_cons, lowerAfter_cons,
      List.prefix_append_inj_of_length_eq hlength,
      lowerAt_eq_lowerAt_iff, hends, ih]
    constructor
    · rintro ⟨hzero, hsucc⟩ i hi
      cases i with
      | zero => exact hzero (Option.some_inj.mp hi)
      | succ i =>
        rw [endsAt_succ, endsAt_succ]
        exact hsucc i hi
    · intro hall
      refine ⟨fun hsigma => hall 0 (congrArg some hsigma), fun i hi => ?_⟩
      rw [← endsAt_succ, ← endsAt_succ]
      exact hall (i + 1) hi

theorem lowercase_prefix_iff (p r : String) :
    (lowercase p).toList <+: (lowercase (p ++ r)).toList ↔
      ∀ i, p.toList[i]? = some 'Σ' → endsAt [] p.toList i → endsAt [] (p ++ r).toList i := by
  rw [lowercase, lowercase, String.toList_ofList, String.toList_ofList, String.toList_append]
  exact lowerAfter_prefix_iff [] p.toList r.toList

end TableTalk.Text
