import Mathlib.Data.List.Nodup
import TableTalk.Proofs.Bytes
import TableTalk.Registry.Index

/-! An index holds each key once, with what came with it, in no order; and what is indexed is all
that is handed over, if no key comes twice. -/
namespace TableTalk.Index
variable {α : Type} {t : Index α} {key : Bytes} {data : α} {e : Bytes × α} {es : List (Bytes × α)}

theorem keys_nodup (t : Index α) : (t.toList.map (·.1)).Nodup := by
  rw [List.Nodup, List.pairwise_map]
  exact t.table.distinct_keys_toList.imp fun h => by simpa using h

theorem contains_iff : t.contains key ↔ key ∈ t.toList.map (·.1) := by
  rw [contains, Std.HashMap.contains_iff_mem, toList, Std.HashMap.map_fst_toList_eq_keys,
    Std.HashMap.mem_keys]

theorem find?_eq_some_iff : t.find? key = some e ↔ e ∈ t.toList ∧ e.1 = key := by
  simp only [find?, Option.map_eq_some_iff, toList, ← Std.HashMap.mem_toList_iff_getElem?_eq_some]
  constructor
  · rintro ⟨data, hmem, rfl⟩
    exact ⟨hmem, rfl⟩
  · rintro ⟨hmem, rfl⟩
    exact ⟨e.2, hmem, rfl⟩

theorem size_eq_length : t.size = t.toList.length := Std.HashMap.length_toList.symm

/-- A key is refused if it is there, and otherwise joins the others. -/
theorem insert_spec (t : Index α) (key : Bytes) (data : α) :
    match t.insert key data with
    | .ok t' => t'.toList.Perm (t.toList ++ [(key, data)])
    | .error _ => key ∈ t.toList.map (·.1) := by
  rw [insert]
  by_cases h : t.table.contains key
  · rw [if_pos h]
    exact contains_iff.mp h
  · rw [if_neg h]
    refine Std.HashMap.toList_insert_perm.trans ?_
    have hfilter : t.table.toList.filter (fun e => ¬(key == e.1) = true) = t.table.toList := by
      rw [List.filter_eq_self]
      intro e he
      have hne : key ≠ e.1 := by
        rintro rfl
        exact h (contains_iff.mpr (List.mem_map_of_mem he))
      simpa using hne
    rw [hfilter]
    exact (List.perm_append_singleton _ _).symm

/-- Keys of their own are all taken. -/
theorem insertAll_eq_ok (h : ((t.toList ++ es).map (·.1)).Nodup) :
    ∃ t', t.insertAll es = .ok t' ∧ t'.toList.Perm (t.toList ++ es) := by
  induction es generalizing t with
  | nil => exact ⟨t, rfl, .of_eq (List.append_nil _).symm⟩
  | cons e es ih =>
    have hspec := t.insert_spec e.1 e.2
    cases hinsert : t.insert e.1 e.2 with
    | error breach =>
      rw [hinsert] at hspec
      rw [List.map_append, List.map_cons] at h
      exact absurd List.mem_cons_self (List.disjoint_of_nodup_append h hspec)
    | ok t' =>
      rw [hinsert] at hspec
      have hperm : (t'.toList ++ es).Perm (t.toList ++ e :: es) := by
        rw [List.append_cons]
        exact hspec.append_right es
      obtain ⟨full, hall, hfull⟩ := ih ((hperm.map _).nodup_iff.mpr h)
      refine ⟨full, ?_, hfull.trans hperm⟩
      rw [insertAll, List.foldlM_cons, hinsert]
      exact hall

theorem sorted_perm (t : Index α) : t.sorted.Perm t.toList := List.mergeSort_perm _ _

theorem sorted_ascending (t : Index α) : t.sorted.Pairwise (·.1 < ·.1) := by
  refine Bytes.ascending_of_nodup ?_ ((t.sorted_perm.map _).nodup_iff.mpr t.keys_nodup)
  have hsorted : t.sorted.Pairwise fun d e => (compare d.1 e.1).isLE := by
    apply List.pairwise_mergeSort
    · intro a b c
      exact Std.TransOrd.isLE_trans
    · intro a b
      rw [Bool.or_eq_true, Std.isLE_compare, Std.isLE_compare]
      exact Std.le_total
  exact hsorted.imp Std.isLE_compare.mp

end TableTalk.Index
