import Mathlib.Data.List.Perm.Subperm
import TableTalk.Proofs.SkipList.Search
import TableTalk.SkipList.Traverse

/-! Following the links of a level from a place visits the entries of the level beyond it, each once
and in ascending order. Reading a list and taking it apart both follow the lowest level. -/
namespace TableTalk.SkipList
variable {α : Type} {l : SkipList α} {p : Place} {level id fuel : Nat}

/-- The entries that at most `fuel` links of a level lead to, one after the other. -/
def trail (l : SkipList α) (level : Nat) : (fuel : Nat) → Place → List Nat
  | 0, _ => []
  | fuel + 1, p =>
    match l.next p level with
    | none => []
    | some id => id :: trail l level fuel (.node id)

theorem trail_of_none (h : l.next p level = none) : l.trail level fuel p = [] := by
  cases fuel with
  | zero => rfl
  | succ fuel => rw [trail, h]

theorem trail_of_some (h : l.next p level = some id) :
    l.trail level (fuel + 1) p = id :: l.trail level fuel (.node id) := by
  rw [trail, h]

theorem WellFormed.on_of_mem_trail (hl : l.WellFormed) (hp : l.Stands p level)
    (hid : id ∈ l.trail level fuel p) : ∃ key, l.On level id key ∧ l.Before p key := by
  induction fuel generalizing p with
  | zero => cases hid
  | succ fuel ih =>
    cases hnext : l.next p level with
    | none =>
      rw [trail_of_none hnext] at hid
      cases hid
    | some first =>
      obtain ⟨key, hon, hbefore, -⟩ := hl.leads_to hp hnext
      rw [trail_of_some hnext] at hid
      obtain rfl | hid := List.mem_cons.mp hid
      · exact ⟨key, hon, hbefore⟩
      · obtain ⟨key', hon', hpast⟩ := ih hon.stands hid
        exact ⟨key', hon', hbefore.trans (hon.before_iff.mp hpast)⟩

/-- Enough links lead to every entry beyond the place. -/
theorem WellFormed.mem_trail (hl : l.WellFormed) {key : Bytes} (hp : l.Stands p level)
    (hfuel : l.ahead p ≤ fuel) (hon : l.On level id key) (hbefore : l.Before p key) :
    id ∈ l.trail level fuel p := by
  induction fuel generalizing p with
  | zero =>
    have := hon.ahead_lt hbefore
    omega
  | succ fuel ih =>
    cases hnext : l.next p level with
    | none =>
      exact absurd hbefore (hl.leads_to hp hnext id key hon)
    | some first =>
      obtain ⟨key', hfirst, hpast, hleast⟩ := hl.leads_to hp hnext
      have hless := hfirst.ahead_lt hpast
      rw [trail_of_some hnext, List.mem_cons]
      obtain hlt | rfl | hlt := Std.lt_trichotomy key key'
      · exact absurd hlt (hleast id key hon hbefore)
      · exact .inl (hl.unique (hon.lower (Nat.zero_le _)) (hfirst.lower (Nat.zero_le _)))
      · exact .inr (ih hfirst.stands (by omega) (hfirst.before_iff.mpr hlt))

/-- The keys along a trail ascend. -/
theorem WellFormed.trail_ascending (hl : l.WellFormed) (hp : l.Stands p level) :
    (l.trail level fuel p).Pairwise fun i j =>
      ∃ a b, l.On level i a ∧ l.On level j b ∧ a < b := by
  induction fuel generalizing p with
  | zero => exact .nil
  | succ fuel ih =>
    cases hnext : l.next p level with
    | none =>
      rw [trail_of_none hnext]
      exact .nil
    | some first =>
      obtain ⟨key, hon, -⟩ := hl.leads_to hp hnext
      rw [trail_of_some hnext]
      refine .cons (fun other hother => ?_) (ih hon.stands)
      obtain ⟨key', hon', hpast⟩ := hl.on_of_mem_trail hon.stands hother
      exact ⟨key, key', hon, hon', hon.before_iff.mp hpast⟩

theorem WellFormed.trail_nodup (hl : l.WellFormed) (hp : l.Stands p level) :
    (l.trail level fuel p).Nodup := by
  refine (hl.trail_ascending hp).imp ?_
  rintro i _ ⟨a, b, ha, hb, hlt⟩ rfl
  exact List.lt_irrefl b (hb.before_iff.mp (ha.before_iff.mpr hlt))

theorem next_of_not_stands (hp : ¬l.Stands p level) : l.next p level = none := by
  rw [next, Array.getElem?_eq_none (Nat.le_of_not_lt hp)]
  rfl

/-- A trail from the head of the lowest level stays among the entries. -/
theorem WellFormed.trail_length_le (hl : l.WellFormed) (fuel : Nat) :
    (l.trail 0 fuel .head).length ≤ l.size := by
  by_cases hp : l.Stands .head 0
  · have hsub : l.trail 0 fuel .head ⊆ List.range l.size := by
      intro id hid
      obtain ⟨key, ⟨node, hnode, -⟩, -⟩ := hl.on_of_mem_trail hp hid
      obtain ⟨hlt, -⟩ := Array.getElem?_eq_some_iff.mp hnode
      exact List.mem_range.mpr hlt
    have hle := (List.subperm_of_subset (hl.trail_nodup hp) hsub).length_le
    rwa [List.length_range] at hle
  · rw [trail_of_none (next_of_not_stands hp)]
    exact Nat.zero_le _

/-- Enough links lead to every entry. -/
theorem WellFormed.trail_perm (hl : l.WellFormed) :
    (l.trail 0 l.size .head).Perm (List.range l.size) := by
  by_cases hp : l.Stands .head 0
  · rw [List.perm_ext_iff_of_nodup (hl.trail_nodup hp) List.nodup_range]
    intro id
    rw [List.mem_range]
    constructor
    · intro hid
      obtain ⟨key, ⟨node, hnode, -⟩, -⟩ := hl.on_of_mem_trail hp hid
      exact (Array.getElem?_eq_some_iff.mp hnode).1
    · intro hlt
      have hnode := Array.getElem?_eq_getElem hlt
      exact hl.mem_trail hp ahead_le_size (hl.on_iff_key.mpr ⟨_, hnode, rfl⟩) trivial
  · have hsize : l.size = 0 := by
      refine Nat.eq_zero_of_not_pos fun hpos => hp ?_
      have hnode := Array.getElem?_eq_getElem hpos
      exact hl.on_levels (hl.on_iff_key.mpr ⟨_, hnode, rfl⟩)
    rw [hsize]
    exact .refl _

theorem filterMap_getElem?_range {β : Type} (xs : List β) :
    (List.range xs.length).filterMap (xs[·]?) = xs := by
  induction xs with
  | nil => rfl
  | cons x xs ih =>
    rw [List.length_cons, List.range_succ_eq_map, List.filterMap_cons, List.filterMap_map]
    exact congrArg (x :: ·) ih

theorem Reader.take_eq (l : SkipList α) (fuel : Nat) (p : Place) (left : Nat) :
    Reader.take l fuel ⟨l.next p 0, left⟩ = (l.trail 0 fuel p).filterMap (l.entries[·]?) := by
  induction fuel generalizing p left with
  | zero => rfl
  | succ fuel ih =>
    rw [Reader.take, Reader.next?]
    cases hnext : l.next p 0 with
    | none => simp [trail_of_none hnext]
    | some id =>
      rw [trail_of_some hnext, List.filterMap_cons, getElem?_entries]
      cases hnode : l.nodes[id]? with
      | none =>
        have hstop : l.next (.node id) 0 = none := by simp [next, tower, hnode]
        simp [hnode, trail_of_none hstop]
      | some node =>
        have hgoes : (node.tower[0]?).join = l.next (.node id) 0 := by simp [next, tower, hnode]
        simp only [Option.bind_some, hnode, Option.map_some]
        rw [hgoes, ih]

theorem toList_eq (l : SkipList α) :
    l.toList = (l.trail 0 l.size .head).filterMap (l.entries[·]?) :=
  Reader.take_eq l l.size .head l.size

/-- Reading a list gives its entries, none left out and none twice. -/
theorem WellFormed.toList_perm (hl : l.WellFormed) : l.toList.Perm l.entries := by
  rw [toList_eq]
  refine (hl.trail_perm.filterMap _).trans ?_
  rw [size_eq_length, filterMap_getElem?_range]

theorem WellFormed.toList_ascending (hl : l.WellFormed) : l.toList.Pairwise (·.1 < ·.1) := by
  rw [toList_eq]
  by_cases hp : l.Stands .head 0
  · rw [List.pairwise_filterMap]
    refine (hl.trail_ascending hp).imp ?_
    rintro i j ⟨a, b, ⟨m, hm, rfl, -⟩, ⟨n, hn, rfl, -⟩, hlt⟩ e he e' he'
    rw [getElem?_entries, hm] at he
    rw [getElem?_entries, hn] at he'
    cases he
    cases he'
    exact hlt
  · rw [trail_of_none (next_of_not_stands hp)]
    exact .nil

/-- Taking apart hands out what a reader is given, as long as no slot comes up again. -/
theorem Drain.take_eq {d : Drain α} (hupcoming : d.upcoming = l.next p 0)
    (hslots : ∀ id ∈ l.trail 0 fuel p, d.slots[id]? = l.drain.slots[id]?)
    (hnodup : (l.trail 0 fuel p).Nodup) :
    Drain.take fuel d = (l.trail 0 fuel p).filterMap (l.entries[·]?) := by
  induction fuel generalizing p d with
  | zero => rfl
  | succ fuel ih =>
    rw [Drain.take, Drain.next?, hupcoming]
    cases hnext : l.next p 0 with
    | none => simp [trail_of_none hnext]
    | some id =>
      rw [trail_of_some hnext] at hslots hnodup
      obtain ⟨hfresh, hnodup⟩ := List.nodup_cons.mp hnodup
      have hslot := hslots id List.mem_cons_self
      rw [trail_of_some hnext, List.filterMap_cons, getElem?_entries]
      simp only [hslot, drain, Array.getElem?_map]
      cases hnode : l.nodes[id]? with
      | none =>
        have hstop : l.next (.node id) 0 = none := by simp [next, tower, hnode]
        simp [trail_of_none hstop]
      | some node =>
        have hgoes : (node.tower[0]?).join = l.next (.node id) 0 := by simp [next, tower, hnode]
        simp only [Option.map_some, Option.join_some]
        rw [hgoes, ih rfl ?_ hnodup]
        intro other hother
        rw [Array.getElem?_setIfInBounds_ne, hslots other (List.mem_cons_of_mem id hother)]
        rintro rfl
        exact hfresh hother

theorem Drain.take_take {m n : Nat} (d : Drain α) (h : n ≤ m) :
    (Drain.take m d).take n = Drain.take n d := by
  induction n generalizing m d with
  | zero => rfl
  | succ n ih =>
    obtain ⟨m, rfl⟩ : ∃ k, m = k + 1 := ⟨m - 1, by omega⟩
    rw [Drain.take, Drain.take]
    cases d.next? with
    | none => rfl
    | some r => exact congrArg (r.1 :: ·) (ih r.2 (by omega))

theorem WellFormed.drain_take_eq (hl : l.WellFormed) (fuel : Nat) :
    Drain.take fuel l.drain = (l.trail 0 fuel .head).filterMap (l.entries[·]?) := by
  refine Drain.take_eq rfl (fun _ _ => rfl) ?_
  by_cases hp : l.Stands .head 0
  · exact hl.trail_nodup hp
  · rw [trail_of_none (next_of_not_stands hp)]
    exact .nil

/-- Reading and taking apart give the same. -/
theorem WellFormed.intoList_eq (hl : l.WellFormed) : l.intoList = l.toList :=
  (hl.drain_take_eq l.size).trans (toList_eq l).symm

/-- Who stops taking apart after some steps has been given the first so many entries. -/
theorem WellFormed.drain_take (hl : l.WellFormed) (n : Nat) :
    Drain.take n l.drain = l.toList.take n := by
  have hall : Drain.take (max n l.size) l.drain = l.toList := by
    have hlength : (Drain.take (max n l.size) l.drain).length ≤ l.size := by
      rw [hl.drain_take_eq]
      exact Nat.le_trans (List.length_filterMap_le _ _) (hl.trail_length_le _)
    rw [← hl.intoList_eq, intoList, ← Drain.take_take _ (Nat.le_max_right n l.size),
      List.take_of_length_le hlength]
  rw [← hall, Drain.take_take _ (Nat.le_max_left n l.size)]

end TableTalk.SkipList
