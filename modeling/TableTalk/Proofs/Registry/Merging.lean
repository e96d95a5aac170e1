import TableTalk.Proofs.Registry.Replies
import TableTalk.Registry.Sample

/-! Compiling at any moment. Both parts of a registry ascend and share no key, so their merge is a
row that an index takes without a repeated key and a builder without one out of order, and just as
long as was announced. -/
namespace TableTalk.Registry
open SkipList (Builder)
variable {r : Registry} {names : List Name}

/-- What fits in the arena of a list fits in an index. -/
theorem indexable_iff {limit : Option Nat} {keys : Nat}
    (hfits : Memory.Fits Builder.entryWidth keys) :
    Indexable limit keys ↔ limit.all (keys ≤ ·) := by
  have hslots : Memory.Fits Index.slotWidth keys :=
    Nat.le_trans (Nat.mul_le_mul_right _ (by decide)) hfits
  exact and_iff_left hslots

/-- No call that a compilation makes is a breach. -/
theorem Holds.compile_ne_breach (h : r.Holds names) (breach : Breach) :
    r.compile ≠ .error (.breach breach) := by
  intro hbreach
  by_cases hindex : Indexable r.limit r.size
  · obtain ⟨t, hcompile, -⟩ := h.compile_indexed hindex
    rw [hbreach] at hcompile
    cases hcompile
  · by_cases hfits : Memory.Fits Builder.entryWidth r.size
    · obtain ⟨list, hcompile, -⟩ := h.compile_rebuilt hindex hfits
      rw [hbreach] at hcompile
      cases hcompile
    · rw [compile_failed hindex hfits] at hbreach
      cases hbreach

/-- A rebuilt list is read in the order it was built. -/
theorem Holds.toList_rebuilt (h : r.Holds names) {list : SkipList Name} (hwell : list.WellFormed)
    (hentries : list.entries = r.inOrder) : list.toList = r.inOrder := by
  apply OrderedMap.eq_of_perm hwell.toList_ascending h.inOrder_ascending
  rw [← hentries]
  exact hwell.toList_perm

/-- Whatever was added and compiled before: the merge has every entry of both parts once and
ascends, no call is a breach, and all entries end up in the index or, if that is denied, in a list
with as many levels as their number has binary digits. -/
theorem compile_merged (o : Orthography) (coins : Coins) (limit : Option Nat)
    (requests : List Request) :
    let r := (empty coins limit o).after requests
    let total := r.indexSize + r.looseSize
    (r.inOrder.Perm (r.indexed ++ r.loose.toList) ∧ r.inOrder.Pairwise (·.1 < ·.1)) ∧
    (∀ breach, r.compile ≠ .error (.breach breach)) ∧
    (Memory.Fits Builder.entryWidth total →
      (limit.all (total ≤ ·) →
        ∃ t, r.compile =
            .ok (.indexed total, { r with loose := .empty r.loose.coins, index := some t }) ∧
          t.toList.Perm r.inOrder) ∧
      (¬limit.all (total ≤ ·) →
        ∃ list, r.compile =
            .ok (.rebuilt total, { r with loose := ⟨list, r.loose.coins⟩, index := none }) ∧
          list.toList = r.inOrder ∧ list.levels = max 1 total.size)) := by
  intro r total
  obtain ⟨-, names, h⟩ := (follows_empty coins limit o).responses requests
  have hlimit : r.limit = limit := h.limit
  have holds : r.Holds names := h.holds
  have htotal : r.size = total := rfl
  refine ⟨⟨?_, holds.inOrder_ascending⟩, holds.compile_ne_breach,
    fun hfits => ⟨fun hall => ?_, fun hdenied => ?_⟩⟩
  · exact holds.inOrder_perm.trans holds.listed_perm.symm
  · have hindex : Indexable r.limit r.size := by
      rw [hlimit, htotal, indexable_iff hfits]
      exact hall
    obtain ⟨t, hcompile, hperm⟩ := holds.compile_indexed hindex
    exact ⟨t, hcompile, hperm.trans holds.inOrder_perm.symm⟩
  · have hindex : ¬Indexable r.limit r.size := by
      rw [hlimit, htotal, indexable_iff hfits]
      exact hdenied
    obtain ⟨list, hcompile, hwell, hentries, hlevels⟩ := holds.compile_rebuilt hindex hfits
    rw [SkipList.levelsFor_eq_size] at hlevels
    exact ⟨list, hcompile, holds.toList_rebuilt hwell hentries, hlevels⟩

/-- One name is indexed and two are loose. Without a limit all three are indexed; where two are the
most that an index takes, the list that is rebuilt for them has two levels. -/
theorem compile_merged_three :
    let o : Orthography := ⟨id, id⟩
    let coins : Coins := ⟨fun n => n % 2 = 0, 0⟩
    let requests : List Request :=
      [.add "scone" .player ⟨1, 0⟩, .compile coins, .add "goblin" .subtype ⟨2, 0⟩,
        .add "scone" .card ⟨3, 0⟩, .add "zephyr" .card ⟨4, 0⟩]
    let r (limit : Option Nat) := (empty coins limit o).after requests
    (∃ t, (r none).compile =
        .ok (.indexed 3,
          { r none with loose := .empty (r none).loose.coins, index := some t })) ∧
      ∃ list, (r (some 2)).compile =
        .ok (.rebuilt 3,
          { r (some 2) with loose := ⟨list, (r (some 2)).loose.coins⟩, index := none }) ∧
        list.levels = 2 := by
  intro o coins requests r
  have htotal (limit : Option Nat) : (r limit).indexSize + (r limit).looseSize = 3 := by
    obtain ⟨-, names, h⟩ := (follows_empty coins limit o).responses requests
    exact h.tally.size_eq.trans (by decide)
  have hmerged (limit : Option Nat) := compile_merged o coins limit requests
  simp only [r] at htotal hmerged ⊢
  simp only [htotal] at hmerged
  refine ⟨?_, ?_⟩
  · obtain ⟨t, hcompile, -⟩ := ((hmerged none).2.2 (by decide)).1 rfl
    exact ⟨t, hcompile⟩
  · obtain ⟨list, hcompile, -, hlevels⟩ := ((hmerged (some 2)).2.2 (by decide)).2 (by decide)
    exact ⟨list, hcompile, hlevels.trans rfl⟩

theorem addAll_eq_after (r : Registry) (names : List (String × NameKind)) :
    r.addAll names =
      r.after (names.zipIdx.map fun e => .add e.1.1 e.1.2 ⟨UInt64.ofNat e.2, 0⟩) := by
  rw [addAll, after, List.foldl_map]
  rfl

/-- The sample names are few enough for an index. -/
theorem exists_sample (coins : Coins) : ∃ r, sample coins = .ok r := by
  rw [sample, addAll_eq_after]
  generalize hrequests : sampleNames.zipIdx.map _ = requests
  obtain ⟨-, names, h⟩ := (follows_empty coins none .standard).responses requests
  have hsize : ((empty coins none).after requests).size ≤ 6 := by
    rw [h.tally.size_eq, ← hrequests]
    exact (List.dedup_sublist _).length_le
  have hindex : Indexable ((empty coins none).after requests).limit
      ((empty coins none).after requests).size := by
    rw [h.limit]
    exact ⟨rfl, Nat.le_trans (Nat.mul_le_mul_left _ hsize) (by decide)⟩
  obtain ⟨t, hcompile, -⟩ := h.holds.compile_indexed hindex
  rw [hcompile]
  exact ⟨_, rfl⟩

end TableTalk.Registry
