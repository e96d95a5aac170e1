import Mathlib.Data.List.Chain
import TableTalk.Proofs.Bytes
import TableTalk.Text.CharSet

/-! Sets of characters, range by range. In a set whose ranges ascend halving finds every character;
what is true of whole stretches of characters can be read off the ranges. -/
namespace TableTalk.Text
variable {low high code : Nat}

theorem rangeSide_eq_lt : rangeSide low high code = .lt ↔ high < code := by
  rw [rangeSide]
  split
  · next hbehind => exact iff_of_true rfl hbehind
  · next hbehind =>
    refine iff_of_false ?_ hbehind
    split <;> nofun

theorem rangeSide_eq_gt : rangeSide low high code = .gt ↔ ¬high < code ∧ code < low := by
  rw [rangeSide]
  split
  · next hbehind => exact iff_of_false nofun fun h => h.1 hbehind
  · next hbehind =>
    split
    · next hbefore => exact iff_of_true rfl ⟨hbehind, hbefore⟩
    · next hbefore => exact iff_of_false nofun fun h => hbefore h.2

theorem rangeSide_eq_eq : rangeSide low high code = .eq ↔ low ≤ code ∧ code ≤ high := by
  rw [rangeSide]
  split
  · simp only [reduceCtorEq, false_iff]
    omega
  · split
    · simp only [reduceCtorEq, false_iff]
      omega
    · simp only [true_iff]
      omega

/-- A range that ends before another one begins. -/
def Ahead (q r : Nat × Nat) : Prop := q.1 ≤ q.2 ∧ q.2 < r.1 ∧ r.1 ≤ r.2

instance : DecidableRel Ahead := fun _ _ => inferInstanceAs (Decidable (_ ∧ _))

instance : Trans Ahead Ahead Ahead where
  trans hqr hrs := by
    obtain ⟨hq, hlt, hr⟩ := hqr
    obtain ⟨-, hlt', hs⟩ := hrs
    exact ⟨hq, by omega, hs⟩

namespace CharSet
variable {s : CharSet} {a b : Nat} {c : Char}

def Ascending (s : CharSet) : Prop := s.ranges.toList.IsChain Ahead

instance (s : CharSet) : Decidable s.Ascending := inferInstanceAs (Decidable (List.IsChain _ _))

/-- What a search finds is in one of the ranges, in whatever order they are. -/
theorem exists_range (h : s.contains c) : ∃ r ∈ s.ranges.toList, r.1 ≤ c.toNat ∧ c.toNat ≤ r.2 := by
  obtain ⟨i, hi⟩ := Option.isSome_iff_exists.mp h
  obtain ⟨r, hr, hside⟩ := row_of_bisect hi
  exact ⟨r, Array.mem_toList_iff.mpr (Array.mem_of_getElem? hr), rangeSide_eq_eq.mp hside⟩

/-- A range that is ahead of one which does not begin behind a character ends before
the character. -/
theorem Ascending.passes (h : s.Ascending) (code : Nat) :
    Passes s.ranges fun r => rangeSide r.1 r.2 code := by
  refine (List.IsChain.pairwise h).imp ?_
  rintro q r ⟨-, hlt, hr⟩ hside
  have hcode := mt rangeSide_eq_gt.mpr hside
  exact rangeSide_eq_lt.mpr (by omega)

theorem Ascending.contains_of_range (h : s.Ascending) {r : Nat × Nat} (hr : r ∈ s.ranges.toList)
    (hlow : r.1 ≤ c.toNat) (hhigh : c.toNat ≤ r.2) : s.contains c := by
  obtain ⟨k, hk⟩ := List.mem_iff_getElem?.mp hr
  rw [Array.getElem?_toList] at hk
  exact (h.passes c.toNat).bisect_isSome hk (rangeSide_eq_eq.mpr ⟨hlow, hhigh⟩)

/-- One range has all characters from `a` to `b`. -/
def covers (s : CharSet) (a b : Nat) : Bool :=
  (s.ranges.toList.find? (a.ble ·.2)).any fun r => r.1.ble a && b.ble r.2

/-- No range has a character from `a` to `b`: the first that does not end before `a` begins
behind `b`. -/
def misses (s : CharSet) (a b : Nat) : Bool := (s.ranges.toList.find? (a.ble ·.2)).all (b.blt ·.1)

theorem range_of_covers (h : s.covers a b) : ∃ r ∈ s.ranges.toList, r.1 ≤ a ∧ b ≤ r.2 := by
  obtain ⟨r, hr, hbounds⟩ := (Option.any_eq_true _ _).mp h
  obtain ⟨hlow, hhigh⟩ := Bool.and_eq_true_iff.mp hbounds
  exact ⟨r, List.mem_of_find?_eq_some hr, Nat.le_of_ble_eq_true hlow, Nat.le_of_ble_eq_true hhigh⟩

theorem Ascending.contains_of_covers (h : s.Ascending) (hcovers : s.covers a b) (ha : a ≤ c.toNat)
    (hb : c.toNat ≤ b) : s.contains c := by
  obtain ⟨r, hr, hlow, hhigh⟩ := range_of_covers hcovers
  exact h.contains_of_range hr (by omega) (by omega)

theorem Ascending.not_contains_of_misses (h : s.Ascending) (hmisses : s.misses a b)
    (ha : a ≤ c.toNat) (hb : c.toNat ≤ b) : ¬s.contains c := by
  intro hcontains
  obtain ⟨r, hr, hlow, hhigh⟩ := exists_range hcontains
  rw [misses] at hmisses
  cases hfind : s.ranges.toList.find? (a.ble ·.2) with
  | none =>
    have hends := List.find?_eq_none.mp hfind r hr
    exact hends (Nat.ble_eq_true_of_le (by omega))
  | some q =>
    rw [hfind] at hmisses
    have hq : b < q.1 := Nat.le_of_ble_eq_true hmisses
    obtain ⟨-, before, behind, hsplit, hbefore⟩ := List.find?_eq_some_iff_append.mp hfind
    rw [hsplit, List.mem_append] at hr
    obtain hr | hr := hr
    · have hends := hbefore r hr
      rw [Bool.not_eq_true'] at hends
      rw [Nat.ble_eq_true_of_le (by omega)] at hends
      cases hends
    · obtain rfl | hr := List.mem_cons.mp hr
      · omega
      · have hpairwise := List.IsChain.pairwise h
        rw [hsplit, List.pairwise_append, List.pairwise_cons] at hpairwise
        obtain ⟨hq', hlt, -⟩ := hpairwise.2.1.1 r hr
        omega

end CharSet
end TableTalk.Text
