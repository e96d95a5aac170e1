import TableTalk.Proofs.SkipList.Layout
import TableTalk.SkipList.Show

/-! How a list that was built in order is spaced. Counted from one, an entry stands on a level
exactly when two to the power of the level divides its number, so each level holds every second
entry of the one below. -/
namespace TableTalk.SkipList
variable {α : Type} {l : SkipList α} {p : Place} {level id position n k : Nat}
  {es : List (Bytes × α)}

theorem two_pow_dvd_iff (hn : 0 < n) : 2 ^ k ∣ n ↔ k ≤ twos n := by
  induction k generalizing n with
  | zero => simp
  | succ k ih =>
    rw [twos, Nat.pow_succ']
    by_cases heven : n % 2 = 0
    · rw [if_pos ⟨by omega, heven⟩, Nat.succ_le_succ_iff, ← ih (by omega),
        Nat.dvd_div_iff_mul_dvd (Nat.dvd_of_mod_eq_zero heven)]
    · rw [if_neg fun h => heven h.2]
      constructor
      · intro hdvd
        exact absurd (Nat.mod_eq_zero_of_dvd (Nat.dvd_trans (Nat.dvd_mul_right 2 _) hdvd)) heven
      · intro hle
        omega

theorem lt_levelsFor_iff (hn : 0 < n) : k < levelsFor n ↔ 2 ^ k ≤ n := by
  rw [levelsFor, if_neg (by omega), Nat.lt_succ_iff, Nat.le_log2 (by omega)]

/-- There are enough levels for every tower. -/
theorem heightAt_levelsFor (h : position < n) :
    heightAt position (levelsFor n) = twos (position + 1) + 1 := by
  have hdvd : 2 ^ twos (position + 1) ∣ position + 1 :=
    (two_pow_dvd_iff (Nat.succ_pos _)).mpr (Nat.le_refl _)
  have hle : 2 ^ twos (position + 1) ≤ position + 1 := Nat.le_of_dvd (Nat.succ_pos _) hdvd
  have hlevel : twos (position + 1) < levelsFor n := (lt_levelsFor_iff (by omega)).mpr (by omega)
  rw [heightAt, Nat.min_eq_left hlevel]

/-- The positions below `n` whose number, counted from one, is a multiple of two to the power of
the level. -/
def landmarks (level n : Nat) : List Nat :=
  (List.range n).filter fun position => 2 ^ level ∣ position + 1

theorem mem_landmarks : id ∈ landmarks level n ↔ id < n ∧ 2 ^ level ∣ id + 1 := by
  rw [landmarks, List.mem_filter, List.mem_range, decide_eq_true_eq]

theorem landmarks_ascending : (landmarks level n).Pairwise (· < ·) :=
  List.pairwise_lt_range.filter _

theorem length_landmarks : (landmarks level n).length = n / 2 ^ level := by
  induction n with
  | zero => exact (Nat.zero_div _).symm
  | succ n ih =>
    rw [landmarks, List.range_succ, List.filter_append, List.length_append, Nat.succ_div, ← ih,
      landmarks]
    by_cases hdvd : 2 ^ level ∣ n + 1 <;> simp [hdvd]

theorem chainFrom_eq (l : SkipList α) (level fuel : Nat) (p : Place) :
    l.chainFrom level fuel (l.next p level) = (l.trail level fuel p).filterMap (l.nodes[·]?) := by
  induction fuel generalizing p with
  | zero => rfl
  | succ fuel ih =>
    rw [chainFrom]
    cases hnext : l.next p level with
    | none => rw [trail_of_none hnext]; rfl
    | some id =>
      rw [trail_of_some hnext, List.filterMap_cons, Option.bind_some]
      cases hnode : l.nodes[id]? with
      | none =>
        have hstop : l.next (.node id) level = none := by simp [next, tower, hnode]
        simp [trail_of_none hstop]
      | some node =>
        have hgoes :
            (node.tower[level]?).join = l.next (.node id) level := by simp [next, tower, hnode]
        simp only [hgoes, ih]

/-- The keys that a drawing shows on a level. -/
theorem chain_keys (l : SkipList α) (level : Nat) :
    (l.chain level).map (·.key) =
      (l.trail level l.size .head).filterMap fun id => (l.entries[id]?).map (·.1) := by
  rw [chain, chainFrom_eq, List.map_filterMap]
  simp only [getElem?_entries, Option.map_map, Function.comp_def]

/-- Where keys ascend in the order in which they came, so do the entries along a level. -/
theorem Chain.sorted {ids : List Nat} (h : l.Chain level ids)
    (hl : l.entries.Pairwise (·.1 < ·.1)) :
    ids.Pairwise (· < ·) := by
  refine h.ascending.imp ?_
  rintro i j ⟨a, b, ha, hb, hlt⟩
  have hi : l.entries[i]? = some (a.key, a.data) := by rw [getElem?_entries, ha]; rfl
  have hj : l.entries[j]? = some (b.key, b.data) := by rw [getElem?_entries, hb]; rfl
  obtain ⟨hilt, hia⟩ := List.getElem?_eq_some_iff.mp hi
  obtain ⟨hjlt, hjb⟩ := List.getElem?_eq_some_iff.mp hj
  obtain h | rfl | h := Nat.lt_trichotomy i j
  · exact h
  · obtain rfl : a = b := Option.some.inj (ha.symm.trans hb)
    exact absurd hlt (List.lt_irrefl _)
  · have hback := List.pairwise_iff_getElem.mp hl j i hjlt hilt h
    rw [hia, hjb] at hback
    exact absurd hlt (List.lt_asymm hback)

/-- The shape of a list that was built of these entries. -/
structure Balanced (l : SkipList α) (es : List (Bytes × α)) : Prop where
  entries : l.entries = es
  levels : l.levels = max 1 es.length.size
  /-- No tower ends at the highest level for want of more. -/
  height : ∀ {id : Nat} {node : Node α},
    l.nodes[id]? = some node → node.tower.size = twos (id + 1) + 1
  follow : ∀ {level}, level < l.levels →
    Checked.follow l level (es.length + 1) .head = some (landmarks level es.length)
  keys : ∀ {level}, level < l.levels →
    (l.chain level).map (·.key) = (landmarks level es.length).filterMap fun i => (es[i]?).map (·.1)
  count : ∀ {level}, (landmarks level es.length).length = es.length / 2 ^ level
  reached : ∀ {level}, level < l.levels → 0 < es.length → 0 < es.length / 2 ^ level

namespace Checked

/-- All additions with every index checked. -/
def addAll (b : Builder α) (es : List (Bytes × α)) : Option (Builder α) :=
  es.foldlM (fun b e => append b e.1 e.2) b

end Checked

namespace Builder
variable {b full : Builder α}

theorem Sound.checked_addAll (hb : b.Sound) (h : b.addAll es = .ok full) :
    Checked.addAll b es = some full := by
  induction es generalizing b with
  | nil =>
    cases h
    rfl
  | cons e es ih =>
    have hspec := hb.add_spec e.1 e.2
    rw [addAll, List.foldlM_cons] at h
    rw [Checked.addAll, List.foldlM_cons]
    cases hadd : b.add e.1 e.2 with
    | error breach =>
      rw [hadd] at h
      cases h
    | ok r =>
      obtain ⟨complete, b'⟩ := r
      rw [hadd] at h hspec
      rw [hb.checked_add hadd]
      exact ih hspec.1 h

/-- Along each level of a full builder lie the landmarks of the level. -/
theorem Sound.trail_eq (hb : b.Sound) (hfull : b.size = b.expected)
    (hlevel : level < b.list.levels) :
    b.list.trail level b.list.size .head = landmarks level b.list.size := by
  have hsize : b.list.size = b.expected := hfull
  have hchain := hb.wellFormed.chain hlevel
  have hperm : (b.list.trail level b.list.size .head).Perm (landmarks level b.list.size) := by
    rw [List.perm_ext_iff_of_nodup hchain.nodup (landmarks_ascending.imp Nat.ne_of_lt)]
    intro id
    rw [hchain.mem_iff, mem_landmarks]
    constructor
    · rintro ⟨node, hnode, hlt⟩
      have hid : id < b.list.size := (Array.getElem?_eq_some_iff.mp hnode).1
      rw [hb.height hnode, hb.levels, heightAt_levelsFor (by omega), Nat.lt_succ_iff] at hlt
      exact ⟨hid, (two_pow_dvd_iff (Nat.succ_pos _)).mpr hlt⟩
    · rintro ⟨hid, hdvd⟩
      have hnode := Array.getElem?_eq_getElem hid
      refine ⟨_, hnode, ?_⟩
      rw [hb.height hnode, hb.levels, heightAt_levelsFor (by omega), Nat.lt_succ_iff]
      exact (two_pow_dvd_iff (Nat.succ_pos _)).mp hdvd
  exact hperm.eq_of_pairwise (fun i j _ _ hij hji => absurd hij (Nat.lt_asymm hji))
    (hchain.sorted hb.ascending) landmarks_ascending

theorem Sound.balanced (hb : b.Sound) (hfull : b.size = b.expected) :
    b.list.Balanced b.list.entries := by
  have hlength : b.list.entries.length = b.list.size := b.list.size_eq_length.symm
  have hlevels : b.list.levels = levelsFor b.list.size := by rw [hb.levels, ← hfull, size]
  refine
    { entries := rfl
      levels := ?_
      height := ?_
      follow := ?_
      keys := ?_
      count := length_landmarks
      reached := ?_ }
  · rw [hlevels, levelsFor_eq_size, hlength]
  · intro id node hnode
    have hid : id < b.list.size := (Array.getElem?_eq_some_iff.mp hnode).1
    rw [hb.height hnode, hlevels, heightAt_levelsFor hid]
  · intro level hlevel
    rw [hlength, ← hb.trail_eq hfull hlevel]
    exact (hb.wellFormed.chain hlevel).follow
  · intro level hlevel
    rw [chain_keys, hlength, ← hb.trail_eq hfull hlevel]
  · intro level hlevel hpos
    rw [hlength] at hpos ⊢
    rw [hlevels, lt_levelsFor_iff hpos] at hlevel
    exact Nat.div_pos hlevel (Nat.two_pow_pos level)

/-- So many keys as are expected, in ascending order: all are taken in, no index is out of range on
the way, and the finished list is balanced. -/
theorem built_balanced (hes : es.Pairwise (·.1 < ·.1)) (hnew : new es.length = .ok b) :
    ∃ full l, b.addAll es = .ok full ∧ Checked.addAll b es = some full ∧ full.finish = .ok l ∧
      l.Balanced es := by
  obtain ⟨b', full, l, hnew', hall, hfinish, hfull, rfl, hentries⟩ :=
    exists_finished hes (fits_of_new hnew)
  obtain rfl : b' = b := Except.ok.inj (hnew'.symm.trans hnew)
  have hbalanced := hfull.balanced (finish_eq_ok hfinish).1
  rw [hentries] at hbalanced
  exact ⟨full, full.list, hall, (sound_new hnew).checked_addAll hall, hfinish, hbalanced⟩

/-- Three keys; the second stands on two levels. -/
theorem built_balanced_three :
    let es : List (Bytes × Nat) := [([97], 1), ([98], 2), ([99], 3)]
    let b : Builder Nat := ⟨3, { head := #[none, none] }, #[.head, .head]⟩
    es.Pairwise (·.1 < ·.1) ∧ new es.length = .ok b ∧
      ∃ full l, b.addAll es = .ok full ∧ Checked.addAll b es = some full ∧ full.finish = .ok l ∧
        l.Balanced es := by
  intro es b
  have hes : es.Pairwise (·.1 < ·.1) := by decide
  have hnew : new es.length = .ok b := by decide +kernel
  exact ⟨hes, hnew, built_balanced hes hnew⟩

end Builder
end TableTalk.SkipList
