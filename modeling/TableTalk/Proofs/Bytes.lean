import TableTalk.Bytes

/-! The search by halving, and the order of byte strings: by the first byte in which they differ,
each as a number from 0 to 255, and a string before those that continue it. -/
namespace TableTalk

/-- What halving finds is what was sought, wherever the rows lie. -/
theorem bisect_some {probe : Nat → Ordering} {lo hi i : Nat} (h : bisect probe lo hi = some i) :
    lo ≤ i ∧ i < hi ∧ probe i = .eq := by
  fun_induction bisect probe lo hi with
  | case1 lo hi hlt mid heq =>
    obtain rfl : mid = i := Option.some.inj h
    exact ⟨by omega, by omega, heq⟩
  | case2 lo hi hlt mid hprobe ih =>
    obtain ⟨h1, h2, h3⟩ := ih h
    exact ⟨by omega, h2, h3⟩
  | case3 lo hi hlt mid hprobe ih =>
    obtain ⟨h1, h2, h3⟩ := ih h
    exact ⟨h1, by omega, h3⟩
  | case4 => cases h

/-- A row that is there is found, if no row before it claims to lie behind the place and none behind
it before. -/
theorem bisect_isSome {probe : Nat → Ordering} {lo hi k : Nat} (hk : probe k = .eq)
    (hbefore : ∀ i < k, probe i ≠ .gt) (hbehind : ∀ i, k < i → probe i ≠ .lt) (hlo : lo ≤ k)
    (hhi : k < hi) :
    (bisect probe lo hi).isSome := by
  fun_induction bisect probe lo hi with
  | case1 => rfl
  | case2 lo hi hlt mid hprobe ih =>
    have hmid : mid < k := by
      obtain h | h | h := Nat.lt_trichotomy mid k
      · exact h
      · rw [h, hk] at hprobe
        cases hprobe
      · exact absurd hprobe (hbehind mid h)
    exact ih hmid hhi
  | case3 lo hi hlt mid hprobe ih =>
    have hmid : k < mid := by
      obtain h | h | h := Nat.lt_trichotomy mid k
      · exact absurd hprobe (hbefore mid h)
      · rw [h, hk] at hprobe
        cases hprobe
      · exact h
    exact ih hlo hmid
  | case4 => omega

section Rows
variable {α : Type} {rows : Array α} {side : α → Ordering} {q r : α} {i j : Nat}

/-- What halving finds in a table is a row at the place sought, in whatever order the rows are. -/
theorem row_of_bisect (h : bisect (fun i => rows[i]?.elim .gt side) 0 rows.size = some i) :
    ∃ r, rows[i]? = some r ∧ side r = .eq := by
  obtain ⟨-, hlt, hprobe⟩ := bisect_some h
  have hrow := Array.getElem?_eq_getElem hlt
  rw [hrow] at hprobe
  exact ⟨_, hrow, hprobe⟩

/-- The rows ascend past the place sought: whatever comes before a row that is not behind the place
lies before it. -/
def Passes (rows : Array α) (side : α → Ordering) : Prop :=
  rows.toList.Pairwise fun q r => side r ≠ .gt → side q = .lt

theorem Passes.before (h : Passes rows side) (hq : rows[i]? = some q) (hr : rows[j]? = some r)
    (hij : i < j) (hside : side r ≠ .gt) : side q = .lt := by
  rw [← Array.getElem?_toList] at hq hr
  obtain ⟨hi, rfl⟩ := List.getElem?_eq_some_iff.mp hq
  obtain ⟨hj, rfl⟩ := List.getElem?_eq_some_iff.mp hr
  exact List.pairwise_iff_getElem.mp h i j hi hj hij hside

/-- Only one row can be at the place. -/
theorem Passes.index_unique (h : Passes rows side) (hq : rows[i]? = some q) (hr : rows[j]? = some r)
    (hqside : side q = .eq) (hrside : side r = .eq) : i = j := by
  have hne {i j : Nat} {q r : α} (hq : rows[i]? = some q) (hr : rows[j]? = some r)
      (hqside : side q = .eq)
      (hrside : side r = .eq) : ¬i < j := by
    intro hij
    have hlt := h.before hq hr hij (by simp [hrside])
    rw [hqside] at hlt
    cases hlt
  exact Nat.le_antisymm (Nat.le_of_not_lt (hne hr hq hrside hqside))
    (Nat.le_of_not_lt (hne hq hr hqside hrside))

theorem Passes.bisect_isSome (h : Passes rows side) (hr : rows[i]? = some r)
    (hside : side r = .eq) :
    (bisect (fun i => rows[i]?.elim .gt side) 0 rows.size).isSome := by
  have hlt : i < rows.size := (Array.getElem?_eq_some_iff.mp hr).1
  apply TableTalk.bisect_isSome (k := i) _ _ _ (Nat.zero_le i) hlt
  · rw [hr]
    exact hside
  · intro j hj
    have hq := Array.getElem?_eq_getElem (Nat.lt_trans hj hlt)
    rw [hq, Option.elim_some, h.before hq hr hj (by simp [hside])]
    decide
  · intro j hj hprobe
    cases hq : rows[j]? with
    | none => simp [hq] at hprobe
    | some q =>
      have hbehind : side q = .lt := by simpa [hq] using hprobe
      have hbefore := h.before hr hq hj (by simp [hbehind])
      rw [hside] at hbefore
      cases hbefore

/-- Halving finds the row that is at the place sought. -/
theorem Passes.bisect_eq_some_iff (h : Passes rows side) :
    bisect (fun i => rows[i]?.elim .gt side) 0 rows.size = some i ↔
      ∃ r, rows[i]? = some r ∧ side r = .eq := by
  refine ⟨row_of_bisect, ?_⟩
  rintro ⟨r, hr, hside⟩
  obtain ⟨j, hj⟩ := Option.isSome_iff_exists.mp (h.bisect_isSome hr hside)
  obtain ⟨q, hq, hqside⟩ := row_of_bisect hj
  rw [hj, h.index_unique hq hr hqside hside]

end Rows

namespace Bytes

theorem isLE_compare_iff (a b : Bytes) : (compare a b).isLE ↔ a ≤ b := by
  induction a generalizing b with
  | nil => cases b <;> simp [List.compare_nil_cons]
  | cons m a ih =>
    cases b with
    | nil => simp [List.compare_cons_nil]
    | cons n b =>
      rw [List.compare_cons_cons, Ordering.isLE_then_iff_or, Std.compare_eq_lt,
        Std.compare_eq_iff_eq, ih, List.cons_le_cons_iff]

/-- The comparison is that of the order. -/
instance : Std.LawfulOrderOrd Bytes where
  isLE_compare := isLE_compare_iff
  isGE_compare a b := by rw [Std.OrientedCmp.isGE_eq_isLE, isLE_compare_iff]

/-- Keys that do not descend and are all different ascend. -/
theorem ascending_of_nodup {α : Type} {es : List (Bytes × α)}
    (h : es.Pairwise fun d e => d.1 ≤ e.1) (hkeys : (es.map (·.1)).Nodup) :
    es.Pairwise (·.1 < ·.1) :=
  h.imp₂ (fun _ _ => Std.lt_of_le_of_ne) (List.pairwise_map.mp hkeys)

end Bytes
end TableTalk
