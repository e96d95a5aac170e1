import TableTalk.Proofs.Registry.Contents

/-! A compilation merges the two parts of a registry, each in key order, into one row of names
in key order. The row goes into a new index or, where none can be had, into a list that is built
in order. -/
namespace TableTalk.Registry
open SkipList (Builder)
variable {r : Registry} {names : List Name}

theorem Holds.inOrder_perm (h : r.Holds names) : r.inOrder.Perm r.entries := by
  have hsorted : (r.index.elim [] (·.sorted)).Perm r.indexed := by
    rw [indexed]
    cases r.index with
    | none => exact .refl _
    | some t => exact t.sorted_perm
  have hloose : r.loose.intoList.Perm r.loose.list.entries := by
    rw [SkipTable.intoList, h.wellFormed.intoList_eq]
    exact h.wellFormed.toList_perm
  exact (List.merge_perm_append _).trans ((hloose.append hsorted).trans List.perm_append_comm)

/-- Each part ascends and no key is in both, so the keys ascend. -/
theorem Holds.inOrder_ascending (h : r.Holds names) : r.inOrder.Pairwise (·.1 < ·.1) := by
  refine Bytes.ascending_of_nodup ?_ ((h.inOrder_perm.map _).nodup_iff.mpr h.nodup)
  have hsorted : (r.index.elim [] (·.sorted)).Pairwise (·.1 < ·.1) := by
    cases r.index with
    | none => exact .nil
    | some t => exact t.sorted_ascending
  have hloose : r.loose.intoList.Pairwise (·.1 < ·.1) := by
    rw [SkipTable.intoList, h.wellFormed.intoList_eq]
    exact h.wellFormed.toList_ascending
  have hmerged : r.inOrder.Pairwise fun d e => (compare e.1 d.1).isGE := by
    apply List.pairwise_merge
    · intro a b c hab hbc
      exact Std.TransOrd.isGE_trans hbc hab
    · intro a b
      rw [Bool.or_eq_true, Std.isGE_compare, Std.isGE_compare]
      exact Std.le_total
    · exact hloose.imp fun hlt => Std.isGE_compare.mpr (Std.le_of_lt hlt)
    · exact hsorted.imp fun hlt => Std.isGE_compare.mpr (Std.le_of_lt hlt)
  exact hmerged.imp Std.isGE_compare.mp

theorem Holds.length_inOrder (h : r.Holds names) : r.inOrder.length = r.size := by
  rw [h.inOrder_perm.length_eq, size_eq_length]

/-- An index can be had for all names. -/
def Indexable (limit : Option Nat) (keys : Nat) : Prop :=
  limit.all (keys ≤ ·) ∧ Memory.Fits Index.slotWidth keys

instance (limit : Option Nat) (keys : Nat) : Decidable (Indexable limit keys) :=
  inferInstanceAs (Decidable (_ ∧ _))

theorem Holds.compile_indexed (h : r.Holds names) (hindex : Indexable r.limit r.size) :
    ∃ t, r.compile =
        .ok (.indexed r.size, { r with loose := .empty r.loose.coins, index := some t }) ∧
      t.toList.Perm r.entries := by
  have hempty : (Index.mk ∅ : Index Name).toList = [] := Std.HashMap.toList_empty
  have hnodup : (((Index.mk ∅ : Index Name).toList ++ r.inOrder).map (·.1)).Nodup := by
    rw [hempty, List.nil_append, (h.inOrder_perm.map _).nodup_iff]
    exact h.nodup
  obtain ⟨t, hall, hperm⟩ := Index.insertAll_eq_ok hnodup
  rw [hempty, List.nil_append] at hperm
  have hsize : t.size = r.size := by
    rw [Index.size_eq_length, hperm.length_eq, h.length_inOrder]
  have hreserve : (Index.reserve? r.size r.limit : Option (Index Name)) = some ⟨∅⟩ := if_pos hindex
  have hcompile :
      r.compile =
        .ok (.indexed t.size, { r with loose := .empty r.loose.coins, index := some t }) := by
    simp only [compile, hreserve, hall]
    rfl
  rw [hsize] at hcompile
  exact ⟨t, hcompile, hperm.trans h.inOrder_perm⟩

theorem reserve?_eq_none (hindex : ¬Indexable r.limit r.size) :
    (Index.reserve? r.size r.limit : Option (Index Name)) = none := if_neg hindex

theorem Holds.compile_rebuilt (h : r.Holds names) (hindex : ¬Indexable r.limit r.size)
    (hfits : Memory.Fits Builder.entryWidth r.size) :
    ∃ list, r.compile =
        .ok (.rebuilt r.size, { r with loose := ⟨list, r.loose.coins⟩, index := none }) ∧
      list.WellFormed ∧ list.entries = r.inOrder ∧ list.levels = SkipList.levelsFor r.size := by
  rw [← h.length_inOrder] at hfits
  obtain ⟨b, full, list, hnew, hall, hfinish, hfull, rfl, hentries⟩ :=
    Builder.exists_finished h.inOrder_ascending hfits
  have hexpected : full.expected = r.size := by
    rw [← (Builder.finish_eq_ok hfinish).1, Builder.size, SkipList.size_eq_length, hentries,
      h.length_inOrder]
  refine ⟨full.list, ?_, hfull.wellFormed, hentries, by rw [hfull.levels, hexpected]⟩
  rw [h.length_inOrder] at hnew
  have hlist : (b.addAll r.inOrder).bind (·.finish) = .ok full.list := by
    rw [hall]
    exact hfinish
  simp only [compile, reserve?_eq_none hindex, hnew]
  change ((b.addAll r.inOrder).bind (·.finish)).mapError Halt.breach >>= _ = _
  rw [hlist]
  rfl

/-- A compilation that finds room for neither touches nothing. -/
theorem compile_failed (hindex : ¬Indexable r.limit r.size)
    (hfits : ¬Memory.Fits Builder.entryWidth r.size) :
    r.compile = .error (.failure ⟨.capacity, none⟩) := by
  have hnew : (Builder.new r.size : Except Failure (Builder Name)) = .error ⟨.capacity, none⟩ :=
    if_neg hfits
  simp only [compile, reserve?_eq_none hindex, hnew, Except.mapError]
  rfl

end TableTalk.Registry
