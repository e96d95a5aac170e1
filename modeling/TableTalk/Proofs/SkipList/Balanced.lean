import Mathlib.Algebra.Group.Nat.Defs
import Mathlib.Data.Nat.Size
import TableTalk.Proofs.SkipList.Insertion
import TableTalk.SkipList.Balanced

/-! Building in order. A new key is greater than all before it, so its entry belongs behind the last
place of every level it stands on; the builder puts it where an insertion would. -/
namespace TableTalk.SkipList
variable {α : Type} {l : SkipList α} {p q : Place} {level id position levels n : Nat} {key : Bytes}
  {data : α}

theorem levelsFor_pos (n : Nat) : 0 < levelsFor n := by
  rw [levelsFor]
  split
  · exact Nat.one_pos
  · exact Nat.succ_pos _

theorem levelsFor_eq_size (n : Nat) : levelsFor n = max 1 n.size := by
  by_cases hn : n = 0
  · rw [hn]
    rfl
  · have hle : n.size ≤ n.log2 + 1 := Nat.size_le.mpr Nat.lt_log2_self
    have hlt : n.log2 < n.size := Nat.lt_size.mpr (Nat.log2_self_le hn)
    rw [levelsFor, if_neg hn]
    omega

theorem heightAt_le : heightAt position levels ≤ levels := Nat.min_le_right _ _

theorem heightAt_pos (h : 0 < levels) : 0 < heightAt position levels :=
  Nat.lt_min.mpr ⟨Nat.succ_pos _, h⟩

theorem twos_two_pow (k : Nat) : twos (2 ^ k) = k := by
  induction k with
  | zero => rw [twos, if_neg (by decide)]
  | succ k ih =>
    have hpos := Nat.two_pow_pos k
    rw [twos, if_pos (by omega), Nat.pow_succ, Nat.mul_div_cancel _ Nat.two_pos, ih]

/-- The last position whose number is a power of two is on every level. -/
theorem exists_heightAt_eq (h : 0 < n) :
    ∃ position < n, heightAt position (levelsFor n) = levelsFor n := by
  have hlog : 2 ^ n.log2 ≤ n := Nat.log2_self_le (by omega)
  have hpos := Nat.two_pow_pos n.log2
  refine ⟨2 ^ n.log2 - 1, by omega, ?_⟩
  rw [heightAt, Nat.sub_add_cancel hpos, twos_two_pow, levelsFor, if_neg (by omega), Nat.min_self]

/-- Levels without entries are in order. -/
theorem wellFormed_levels (n : Nat) :
    WellFormed ({ head := Array.replicate n none } : SkipList α) where
  height_pos h := by simp at h
  height_le h := by simp at h
  unique := by
    rintro id other key ⟨node, hnode, -⟩
    simp at hnode
  leads := by
    intro p level h
    have hnone : ({ head := Array.replicate n none } : SkipList α).next p level = none := by
      cases p with
      | head =>
        simp only [next, tower, Array.getElem?_replicate]
        split <;> rfl
      | node id => simp [next, tower]
    rw [hnone]
    rintro id key ⟨node, hnode, -⟩
    simp at hnode

/-- Linking one more place of a path. -/
theorem linkAll_take_succ {path : List Place} (h : path[level]? = some p) :
    l.linkAll (path.take (level + 1)).zipIdx id =
      (l.linkAll (path.take level).zipIdx id).link p level id := by
  obtain ⟨hlt, rfl⟩ := List.getElem?_eq_some_iff.mp h
  rw [List.take_succ_eq_append_getElem hlt, List.zipIdx_append, linkAll, linkAll, List.foldl_append]
  simp only [List.foldl_cons, List.foldl_nil, List.length_take, List.zipIdx_singleton, Nat.zero_add,
    Nat.min_eq_left (Nat.le_of_lt hlt)]

/-- The last place on a level: no entry lies beyond it. -/
structure Last (l : SkipList α) (level : Nat) (p : Place) : Prop where
  stands : l.Stands p level
  beyond : ∀ {id key}, l.On level id key → ¬l.Before p key

theorem On.mem_entries (h : l.On level id key) : ∃ data, (key, data) ∈ l.entries := by
  obtain ⟨node, hnode, rfl, -⟩ := h
  exact ⟨node.data, mem_entries_iff.mpr ⟨id, node, hnode, rfl⟩⟩

/-- The last place on a level is the last before a key that is greater than all others. -/
theorem Last.lastBefore (h : l.Last level p) (hkey : ∀ e ∈ l.entries, e.1 < key) :
    l.LastBefore key level p where
  stands := h.stands
  before := by
    cases p with
    | head => trivial
    | node id =>
      obtain ⟨key', hon⟩ := on_of_stands h.stands
      obtain ⟨data, hmem⟩ := hon.mem_entries
      exact hon.before_iff.mpr (hkey _ hmem)
  greater hon hbefore := absurd hbefore (h.beyond hon)

theorem WellFormed.next_last (hl : l.WellFormed) (h : l.Last level p) : l.next p level = none := by
  cases hnext : l.next p level with
  | none => rfl
  | some id =>
    obtain ⟨key, hon, hbefore, -⟩ := hl.leads_to h.stands hnext
    exact absurd hbefore (h.beyond hon)

theorem Stands.splice {path : List Place} {height : Nat} (h : l.Stands p level) :
    (l.splice path height key data).Stands p level := by
  cases p with
  | head =>
    have hle : l.levels ≤ (l.splice path height key data).levels := by
      rw [levels_splice]
      exact Nat.le_add_right _ _
    exact Nat.lt_of_lt_of_le h hle
  | node id =>
    obtain ⟨key', hon⟩ := on_of_stands h
    exact (on_splice.mpr (.inl hon)).stands

/-- The new entry is the last one on each of its levels, if its key is greater than all others. -/
theorem last_splice_new {path : List Place} {height : Nat} (hkey : ∀ e ∈ l.entries, e.1 < key)
    (hlevel : level < height) : (l.splice path height key data).Last level (.node l.size) := by
  have hnew : (l.splice path height key data).On level l.size key :=
    on_splice.mpr (.inr ⟨rfl, rfl, hlevel⟩)
  refine ⟨hnew.stands, fun hon hbefore => ?_⟩
  rw [hnew.before_iff] at hbefore
  obtain hon | ⟨-, rfl, -⟩ := on_splice.mp hon
  · obtain ⟨data', hmem⟩ := hon.mem_entries
    exact List.lt_asymm hbefore (hkey _ hmem)
  · exact List.lt_irrefl _ hbefore

/-- On the levels above a new entry the last place stays the last. -/
theorem Last.splice {path : List Place} {height : Nat} (h : l.Last level p)
    (hlevel : ¬level < height) :
    (l.splice path height key data).Last level p := by
  refine ⟨h.stands.splice, fun hon hbefore => ?_⟩
  obtain hon | ⟨-, -, hlt⟩ := on_splice.mp hon
  · obtain hbefore | ⟨rfl, -⟩ := before_splice.mp hbefore
    · exact h.beyond hon hbefore
    · obtain ⟨key', hsize⟩ := on_of_stands h.stands
      exact not_on_size hsize
  · exact hlevel hlt

namespace Builder
variable {b b' : Builder α}

/-- What holds of a builder at every moment. -/
structure Sound (b : Builder α) : Prop where
  wellFormed : b.list.WellFormed
  levels : b.list.levels = levelsFor b.expected
  size_le : b.size ≤ b.expected
  size_tails : b.tails.size = b.list.levels
  last : ∀ {level p}, b.tails[level]? = some p → b.list.Last level p
  ascending : b.list.entries.Pairwise (·.1 < ·.1)
  height : ∀ {id : Nat} {node : Node α}, b.list.nodes[id]? = some node →
    node.tower.size = heightAt id b.list.levels

theorem new_eq_ok (h : (new n : Except Failure (Builder α)) = .ok b) :
    b = ⟨n, { head := Array.replicate (levelsFor n) none },
      Array.replicate (levelsFor n) .head⟩ := by
  rw [new] at h
  split at h <;> cases h
  rfl

theorem fits_of_new (h : new n = .ok b) : Memory.Fits entryWidth n := by
  rw [new] at h
  split at h
  · next hfits => exact hfits
  · cases h

theorem sound_new (h : new n = .ok b) : b.Sound := by
  rw [new_eq_ok h]
  exact
    { wellFormed := wellFormed_levels _
      levels := Array.size_replicate
      size_le := Nat.zero_le n
      size_tails := by simp [SkipList.levels]
      last := by
        intro level p hp
        rw [Array.getElem?_replicate] at hp
        split at hp <;> cases hp
        next hlt =>
          refine ⟨by simpa [Stands, tower] using hlt, ?_⟩
          rintro id key ⟨node, hnode, -⟩
          simp at hnode
      ascending := .nil
      height := by
        intro id node hnode
        simp at hnode }

theorem Sound.levels_pos (hb : b.Sound) : 0 < b.list.levels := by
  rw [hb.levels]
  exact levelsFor_pos _

/-- Linking the tails level by level is linking a path of them. -/
theorem link_tails (l : SkipList α) (tails : Array Place) (id : Nat) {height : Nat}
    (h : height ≤ tails.size) :
    (List.range height).foldl (fun l level => (tails[level]?).elim l (l.link · level id)) l =
      l.linkAll (tails.toList.take height).zipIdx id := by
  induction height with
  | zero => rfl
  | succ height ih =>
    have hget : tails[height]? = some tails[height] := Array.getElem?_eq_getElem h
    rw [List.range_succ, List.foldl_append, ih (by omega),
      linkAll_take_succ (by rw [Array.getElem?_toList, hget])]
    simp only [List.foldl_cons, List.foldl_nil, hget, Option.elim_some]

/-- The builder puts an entry where an insertion with the tails for a path would put it. -/
theorem Sound.append_list (hb : b.Sound) (key : Bytes) (data : α) :
    (b.append key data).list =
      b.list.splice b.tails.toList (heightAt b.size b.list.levels) key data := by
  have hle : heightAt b.size b.list.levels ≤ b.tails.size := by
    rw [hb.size_tails]
    exact heightAt_le
  have hinherited : b.list.inherited b.tails.toList (heightAt b.size b.list.levels) =
      Array.replicate (heightAt b.size b.list.levels) none := by
    rw [inherited, ← List.toArray_replicate]
    congr 1
    refine List.eq_replicate_iff.mpr ⟨by simp, fun link hlink => ?_⟩
    obtain ⟨level, -, rfl⟩ := List.mem_map.mp hlink
    cases htail : b.tails.toList[level]? with
    | none => rfl
    | some p => exact hb.wellFormed.next_last (hb.last (by simpa using htail))
  rw [splice_eq, hinherited, Nat.sub_eq_zero_of_le heightAt_le, Array.replicate_zero,
    Array.append_empty, ← link_tails b.list b.tails b.list.size hle]
  rfl

theorem Sound.entries_append (hb : b.Sound) (key : Bytes) (data : α) :
    (b.append key data).list.entries = b.list.entries ++ [(key, data)] := by
  rw [hb.append_list, entries_splice]

theorem Sound.size_append (hb : b.Sound) (key : Bytes) (data : α) :
    (b.append key data).size = b.size + 1 := by
  rw [size, hb.append_list, size_splice]
  rfl

theorem tails_append (key : Bytes) (data : α) :
    (b.append key data).tails[level]? =
      (b.tails[level]?).map fun p =>
        if level < heightAt b.size b.list.levels then .node b.size else p := by
  simp [append]

/-- A key that is greater than all before it keeps the builder in order. -/
theorem Sound.append (hb : b.Sound) (hroom : b.size < b.expected)
    (hkey : ∀ e ∈ b.list.entries, e.1 < key) (data : α) : (b.append key data).Sound := by
  have hlist := hb.append_list key data
  have hpos : 0 < heightAt b.size b.list.levels := heightAt_pos hb.levels_pos
  have hlength : b.tails.toList.length = b.list.levels := hb.size_tails
  have hlevels : (b.append key data).list.levels = b.list.levels := by
    rw [hlist, levels_splice, Nat.sub_eq_zero_of_le heightAt_le, Nat.add_zero]
  have hlast {k : Nat} {q : Place} (hq : b.tails.toList[k]? = some q) : b.list.LastBefore key k q :=
    (hb.last (by simpa using hq)).lastBefore hkey
  have habsent (id : Nat) : ¬b.list.On 0 id key := by
    intro hon
    obtain ⟨data', hmem⟩ := hon.mem_entries
    exact List.lt_irrefl key (hkey _ hmem)
  exact
    { wellFormed := by
        rw [hlist]
        exact hb.wellFormed.splice hlength hlast habsent hpos data
      levels := hlevels.trans hb.levels
      size_le := by
        rw [hb.size_append]
        exact hroom
      size_tails := by
        rw [hlevels, ← hb.size_tails]
        exact Array.size_mapIdx
      last := by
        intro level p hp
        rw [tails_append, Option.map_eq_some_iff] at hp
        obtain ⟨q, hq, rfl⟩ := hp
        rw [hlist]
        split
        · next hlt => exact last_splice_new hkey hlt
        · next hnot => exact (hb.last hq).splice hnot
      ascending := by
        rw [hb.entries_append, List.pairwise_append]
        exact ⟨hb.ascending, List.pairwise_singleton _ _, by simpa using hkey⟩
      height := by
        intro id node hnode
        rw [hlist] at hnode
        rw [hlevels]
        obtain ⟨rfl, hsize⟩ | ⟨old, hold, hsize⟩ := node_splice hnode
        · exact hsize
        · rw [hsize]
          exact hb.height hold }

/-- The last entry has the greatest key. -/
theorem Sound.lt_of_back (hb : b.Sound)
    (hback : ¬b.list.nodes.back?.any fun last => compare last.key key ≠ .lt) :
    ∀ e ∈ b.list.entries, e.1 < key := by
  intro e he
  have hascending := hb.ascending
  rw [← Array.getLast?_toList] at hback
  cases hlast : b.list.nodes.toList.getLast? with
  | none =>
    rw [SkipList.entries, List.getLast?_eq_none_iff.mp hlast] at he
    cases he
  | some last =>
    obtain ⟨before, hnodes⟩ := List.getLast?_eq_some_iff.mp hlast
    have hlt : last.key < key := Std.compare_eq_lt.mp (by simpa [hlast] using hback)
    rw [SkipList.entries, hnodes, List.map_append] at he hascending
    obtain he | he := List.mem_append.mp he
    · exact List.lt_trans ((List.pairwise_append.mp hascending).2.2 e he _
        (List.mem_singleton_self _)) hlt
    · obtain rfl := List.mem_singleton.mp he
      exact hlt

/-- An addition is refused where no key is expected any more, and where the key is not greater than
all before it. Otherwise the entry is appended, and the answer tells whether it was the last. -/
theorem Sound.add_spec (hb : b.Sound) (key : Bytes) (data : α) :
    match b.add key data with
    | .ok (complete, b') => b'.Sound ∧ b'.expected = b.expected ∧ complete = b'.isComplete ∧
        b'.list.entries = b.list.entries ++ [(key, data)]
    | .error _ => b.size = b.expected ∨ ∃ e ∈ b.list.entries, ¬e.1 < key := by
  rw [add]
  by_cases hcomplete : b.isComplete
  · rw [if_pos hcomplete]
    exact .inl (of_decide_eq_true hcomplete)
  · rw [if_neg hcomplete]
    by_cases hback : b.list.nodes.back?.any fun last => compare last.key key ≠ .lt
    · rw [if_pos hback]
      obtain ⟨last, hlast, hnot⟩ := (Option.any_eq_true _ _).mp hback
      have hmem : last ∈ b.list.nodes.toList := Array.mem_toList_iff.mpr (Array.mem_of_back? hlast)
      refine .inr ⟨(last.key, last.data), List.mem_map_of_mem hmem, fun hlt => ?_⟩
      exact of_decide_eq_true hnot (Std.compare_eq_lt.mpr hlt)
    · rw [if_neg hback]
      have hroom : b.size < b.expected := by
        refine Nat.lt_of_le_of_ne hb.size_le fun heq => hcomplete (decide_eq_true heq)
      exact ⟨hb.append hroom (hb.lt_of_back hback) data, rfl, rfl, hb.entries_append key data⟩

/-- Ascending keys that are all expected are all taken. -/
theorem Sound.addAll_eq_ok (hb : b.Sound) {es : List (Bytes × α)}
    (hroom : b.size + es.length ≤ b.expected) (hes : (b.list.entries ++ es).Pairwise (·.1 < ·.1)) :
    ∃ b', b.addAll es = .ok b' ∧ b'.Sound ∧ b'.expected = b.expected ∧
      b'.list.entries = b.list.entries ++ es := by
  induction es generalizing b with
  | nil => exact ⟨b, rfl, hb, rfl, (List.append_nil _).symm⟩
  | cons e es ih =>
    have hspec := hb.add_spec e.1 e.2
    cases hadd : b.add e.1 e.2 with
    | error breach =>
      rw [hadd] at hspec
      rw [List.length_cons] at hroom
      obtain hfull | ⟨e', he', hnot⟩ := hspec
      · omega
      · exact absurd ((List.pairwise_append.mp hes).2.2 e' he' e List.mem_cons_self) hnot
    | ok r =>
      obtain ⟨complete, b'⟩ := r
      rw [hadd] at hspec
      obtain ⟨hb', hexpected, -, hentries⟩ := hspec
      have hsize : b'.size = b.size + 1 := by
        rw [size, size_eq_length, hentries, List.length_append, ← size_eq_length]
        rfl
      rw [List.length_cons] at hroom
      obtain ⟨full, hall, hfull, hexpected', hentries'⟩ := ih hb' (by omega)
        (by rwa [hentries, List.append_assoc])
      refine ⟨full, ?_, hfull, hexpected'.trans hexpected, ?_⟩
      · rw [← hall, addAll, List.foldlM_cons, hadd]
        rfl
      · rw [hentries', hentries, List.append_assoc]
        rfl

/-- The builders that calls can lead to; a call that is refused leaves the builder as it was. -/
inductive Reachable : Builder α → Prop
  | new {n : Nat} {b : Builder α} : Builder.new n = .ok b → Reachable b
  | add {b b' : Builder α} {key : Bytes} {data : α} {complete : Bool} :
      Reachable b → b.add key data = .ok (complete, b') → Reachable b'

theorem Reachable.sound (h : b.Reachable) : b.Sound := by
  induction h with
  | new hnew => exact sound_new hnew
  | @add b b' key data complete _ hadd ih =>
    have hspec := ih.add_spec key data
    rw [hadd] at hspec
    exact hspec.1

theorem finish_eq_ok (h : b.finish = .ok l) : b.size = b.expected ∧ l = b.list := by
  rw [finish] at h
  split at h <;> cases h
  next hcomplete => exact ⟨of_decide_eq_true hcomplete, rfl⟩

/-- A list that is finished has a level above the lowest only for an entry that stands on it. -/
theorem Sound.exists_tallest (hb : b.Sound) (hfull : b.size = b.expected) (hpos : 0 < b.size) :
    ∃ (id : Nat) (node : Node α),
      b.list.nodes[id]? = some node ∧ node.tower.size = b.list.levels := by
  obtain ⟨position, hlt, hheight⟩ := exists_heightAt_eq (n := b.expected) (by omega)
  have hin : position < b.list.nodes.size := Nat.lt_of_lt_of_eq hlt hfull.symm
  have hnode := Array.getElem?_eq_getElem hin
  refine ⟨position, _, hnode, ?_⟩
  rw [hb.height hnode, hb.levels, hheight]

/-- So many keys in ascending order make a list. -/
theorem exists_finished {es : List (Bytes × α)} (hes : es.Pairwise (·.1 < ·.1))
    (hfits : Memory.Fits entryWidth es.length) :
    ∃ b full l, new es.length = .ok b ∧ b.addAll es = .ok full ∧ full.finish = .ok l ∧
      full.Sound ∧ l = full.list ∧ l.entries = es := by
  obtain ⟨b, hnew⟩ : ∃ b, (new es.length : Except Failure (Builder α)) = .ok b := ⟨_, if_pos hfits⟩
  have hb := new_eq_ok hnew
  have hentries : b.list.entries = [] := by
    rw [hb]
    rfl
  have hroom : b.size + es.length ≤ b.expected := by
    rw [size, size_eq_length, hentries, hb]
    exact Nat.le_of_eq (Nat.zero_add _)
  obtain ⟨full, hall, hfull, hexpected, hfilled⟩ :=
    (sound_new hnew).addAll_eq_ok hroom (by rwa [hentries])
  rw [hentries, List.nil_append] at hfilled
  have hcomplete : full.isComplete := by
    refine decide_eq_true ?_
    rw [size, size_eq_length, hfilled, hexpected, hb]
  exact ⟨b, full, full.list, hnew, hall, if_pos hcomplete, hfull, rfl, hfilled⟩

end Builder
end TableTalk.SkipList
