import TableTalk.Proofs.SkipList.Bounds
import TableTalk.SkipTable

/-! Which lists there can be, and how they are laid out. A list begins empty or is built in order;
then keys are added, at whatever heights, and data are changed. -/
namespace TableTalk.SkipList
variable {α : Type} {l l' : SkipList α} {level lower id height : Nat} {ids : List Nat} {key : Bytes}
  {data : α}

/-- How a list began. -/
inductive Origin
  | empty
  | built
  deriving DecidableEq, Repr

/-- The levels of a list that has no entries yet. -/
def Origin.levels : Origin → Nat
  | empty => 0
  | built => 1

variable {origin : Origin}

inductive Reachable : Origin → SkipList α → Prop
  | empty : Reachable .empty {}
  | built {b : Builder α} {l : SkipList α} : b.Reachable → b.finish = .ok l → Reachable .built l
  | insert {origin : Origin} {l l' : SkipList α} {height : Nat} {key : Bytes} {data : α} :
      Reachable origin l → 0 < height → l.insert? height key data = some l' → Reachable origin l'
  | modify {origin : Origin} {l : SkipList α} (key : Bytes) (f : α → α) :
      Reachable origin l → Reachable origin (l.modify key f)

/-- What each step keeps: the links are in order, and some entry reaches the highest level. -/
structure Grown (origin : Origin) (l : SkipList α) : Prop where
  wellFormed : l.WellFormed
  levels_of_empty : l.size = 0 → l.levels = origin.levels
  tallest : 0 < l.size →
    ∃ (id : Nat) (node : Node α), l.nodes[id]? = some node ∧ node.tower.size = l.levels

theorem grown_empty : Grown .empty ({} : SkipList α) where
  wellFormed := wellFormed_empty
  levels_of_empty _ := rfl
  tallest h := absurd h (Nat.lt_irrefl 0)

theorem Builder.Sound.grown {b : Builder α} (hb : b.Sound) (hfull : b.size = b.expected) :
    b.list.Grown .built where
  wellFormed := hb.wellFormed
  levels_of_empty h := by
    have hexpected : b.expected = 0 := hfull.symm.trans h
    rw [hb.levels, hexpected]
    rfl
  tallest := hb.exists_tallest hfull

theorem Grown.modify (hl : l.Grown origin) (key : Bytes) (f : α → α) :
    (l.modify key f).Grown origin := by
  obtain ⟨hshape, -⟩ := l.modify_sameShape key f
  have hsize : (l.modify key f).size = l.size := by
    rw [size_eq_length, hl.wellFormed.modify_entries, List.length_map, ← size_eq_length]
  refine ⟨hl.wellFormed.modify key f, fun h => ?_, fun h => ?_⟩
  · rw [hshape.levels]
    exact hl.levels_of_empty (hsize.symm.trans h)
  · obtain ⟨id, node, hnode, htall⟩ := hl.tallest (Nat.lt_of_lt_of_eq h hsize)
    obtain ⟨node', hnode', -, hheight⟩ := hshape.node hnode
    exact ⟨id, node', hnode', hheight.trans (htall.trans hshape.levels.symm)⟩

/-- An entry that is as tall as the list or taller becomes the tallest; past a lower one the
tallest stays. -/
theorem Grown.insert (hl : l.Grown origin) (hheight : 0 < height)
    (hinsert : l.insert? height key data = some l') : l'.Grown origin := by
  have hspec := hl.wellFormed.insert?_spec hheight key data
  rw [hinsert] at hspec
  obtain ⟨hwell, hentries, -⟩ := hspec
  have hsize : l'.size = l.size + 1 := by
    rw [size_eq_length, hentries, List.length_append, ← size_eq_length]
    rfl
  refine ⟨hwell, fun h => ?_, fun _ => ?_⟩
  · omega
  · obtain ⟨path, rfl⟩ := insert?_eq_some hinsert
    rw [levels_splice]
    by_cases htaller : l.levels ≤ height
    · refine ⟨l.size, _, (nodes_splice l path height key data l.size).trans (if_pos rfl), ?_⟩
      simp only [inherited, List.size_toArray, List.length_map, List.length_range]
      omega
    · have hpos : 0 < l.size := by
        refine Nat.pos_of_ne_zero fun h => htaller ?_
        rw [hl.levels_of_empty h]
        cases origin with
        | empty => exact Nat.zero_le _
        | built => exact hheight
      obtain ⟨id, node, hnode, htall⟩ := hl.tallest hpos
      have hold : id ≠ l.size := Nat.ne_of_lt (Array.getElem?_eq_some_iff.mp hnode).1
      obtain ⟨node', hnode', -, hsame⟩ :=
        (l.linkAll_sameShape (path.take height).zipIdx l.size).node hnode
      refine ⟨id, node', (nodes_splice l path height key data id).trans
        ((if_neg hold).trans hnode'), ?_⟩
      omega

theorem Reachable.grown (h : l.Reachable origin) : l.Grown origin := by
  induction h with
  | empty => exact grown_empty
  | built hb hfinish =>
    obtain ⟨hfull, rfl⟩ := Builder.finish_eq_ok hfinish
    exact hb.sound.grown hfull
  | insert _ hheight hinsert ih => exact ih.insert hheight hinsert
  | modify key f _ ih => exact ih.modify key f

/-- The entries that the head leads to on a level, to the end of the level. A reader follows the
lowest level, a drawing all of them. -/
structure Chain (l : SkipList α) (level : Nat) (ids : List Nat) : Prop where
  follow : Checked.follow l level (l.size + 1) .head = some ids
  nodup : ids.Nodup
  mem_iff : ∀ {id : Nat}, id ∈ ids ↔ ∃ node, l.nodes[id]? = some node ∧ level < node.tower.size
  ascending : ids.Pairwise fun i j : Nat =>
    ∃ a b, l.nodes[i]? = some a ∧ l.nodes[j]? = some b ∧ a.key < b.key

theorem WellFormed.chain (hl : l.WellFormed) (hlevel : l.Stands .head level) :
    l.Chain level (l.trail level l.size .head) where
  follow := hl.checked_follow hlevel ahead_le_size
  nodup := hl.trail_nodup hlevel
  mem_iff := by
    intro id
    constructor
    · intro hmem
      obtain ⟨_, ⟨node, hnode, -, hlt⟩, -⟩ := hl.on_of_mem_trail hlevel hmem
      exact ⟨node, hnode, hlt⟩
    · rintro ⟨node, hnode, hlt⟩
      exact hl.mem_trail hlevel ahead_le_size ⟨node, hnode, rfl, hlt⟩ trivial
  ascending := by
    refine (hl.trail_ascending hlevel).imp ?_
    rintro i j ⟨_, _, ⟨a, ha, rfl, -⟩, ⟨b, hb, rfl, -⟩, hlt⟩
    exact ⟨a, b, ha, hb, hlt⟩

theorem Chain.subset {others : List Nat} (h : l.Chain level ids) (hlower : l.Chain lower others)
    (hle : lower ≤ level) : ids ⊆ others := by
  intro id hid
  obtain ⟨node, hnode, hlt⟩ := h.mem_iff.mp hid
  exact hlower.mem_iff.mpr ⟨node, hnode, Nat.lt_of_le_of_lt hle hlt⟩

/-- The lowest level has all entries on it. -/
theorem WellFormed.length_lowest (hl : l.WellFormed) (h : l.Chain 0 ids) : ids.length = l.size := by
  have hfollow := h.follow
  by_cases hhead : l.Stands .head 0
  · rw [(hl.chain hhead).follow] at hfollow
    cases hfollow
    rw [hl.trail_perm.length_eq, List.length_range]
  · have hnone : l.head[0]? = none := Array.getElem?_eq_none (Nat.le_of_not_lt hhead)
    rw [Checked.follow, Checked.next, hnone] at hfollow
    cases hfollow

/-- Each level runs through exactly the entries that are tall enough for it, and the tallest entry
decides how many levels there are. -/
structure Layout (origin : Origin) (l : SkipList α) : Prop where
  link_lt : ∀ {p level id}, l.next p level = some id → id < l.size
  height : ∀ {id : Nat} {node : Node α}, l.nodes[id]? = some node →
    0 < node.tower.size ∧ node.tower.size ≤ l.levels
  chain : ∀ {level}, level < l.levels → ∃ ids, l.Chain level ids
  nested : ∀ {level lower ids others},
    l.Chain level ids → l.Chain lower others → lower ≤ level → ids ⊆ others
  lowest : ∀ {ids}, l.Chain 0 ids → ids.length = l.size
  levels_of_empty : l.size = 0 → l.levels = origin.levels
  tallest : 0 < l.size →
    ∃ (id : Nat) (node : Node α), l.nodes[id]? = some node ∧ node.tower.size = l.levels

theorem WellFormed.next_lt (hl : l.WellFormed) {p : Place} (h : l.next p level = some id) :
    id < l.size := by
  have hp : l.Stands p level := by
    by_contra hnot
    rw [next_of_not_stands hnot] at h
    cases h
  obtain ⟨_, ⟨node, hnode, -⟩, -⟩ := hl.leads_to hp h
  exact (Array.getElem?_eq_some_iff.mp hnode).1

theorem Grown.layout (hl : l.Grown origin) : l.Layout origin where
  link_lt := hl.wellFormed.next_lt
  height hnode := ⟨hl.wellFormed.height_pos hnode, hl.wellFormed.height_le hnode⟩
  chain hlevel := ⟨_, hl.wellFormed.chain hlevel⟩
  nested := Chain.subset
  lowest := hl.wellFormed.length_lowest
  levels_of_empty := hl.levels_of_empty
  tallest := hl.tallest

/-- No call gives up for an index that is out of range. -/
structure InRange (l : SkipList α) : Prop where
  descend : ∀ key, Checked.descend l key = some (l.descend key)
  find : ∀ key, Checked.find l key = some (l.find? key)
  modify : ∀ key f, Checked.modify l key f = some (l.modify key f)
  insert : ∀ height key data, Checked.insert l height key data = some (l.insert? height key data)

theorem WellFormed.inRange (hl : l.WellFormed) : l.InRange :=
  ⟨hl.checked_descend, hl.checked_find, hl.checked_modify, hl.checked_insert⟩

namespace Builder
variable {b b' : Builder α} {complete : Bool}

theorem add_eq_ok (h : b.add key data = .ok (complete, b')) :
    ¬b.isComplete ∧ b' = b.append key data := by
  rw [add] at h
  split at h
  · cases h
  · next hroom =>
    split at h <;> cases h
    exact ⟨hroom, rfl⟩

/-- An addition that is accepted stays in range. -/
theorem Sound.checked_add (hb : b.Sound) (h : b.add key data = .ok (complete, b')) :
    Checked.append b key data = some b' := by
  obtain ⟨hroom, rfl⟩ := add_eq_ok h
  exact hb.checked_append (Nat.lt_of_le_of_ne hb.size_le fun heq => hroom (decide_eq_true heq))
    key data

end Builder

/-- Whatever the coins decide, a table adds at a height that is allowed. -/
theorem Reachable.add {t : SkipTable α} (h : t.list.Reachable origin) (key : Bytes) (data : α) :
    (t.add key data).2.list.Reachable origin := by
  rw [SkipTable.add]
  cases hinsert : t.list.insert? t.coins.height key data with
  | none => exact h
  | some l => exact h.insert (Nat.succ_pos _) hinsert

/-- All lists are laid out alike, however they began and whatever the heights, and no index is out
of range, in lists and in builders. What tables do to their lists is part of this. -/
theorem layout_of_reachable :
    (∀ {origin : Origin} {l : SkipList α}, l.Reachable origin → l.Layout origin ∧ l.InRange) ∧
    (∀ {b b' : Builder α} {key : Bytes} {data : α} {complete : Bool}, b.Reachable →
      b.add key data = .ok (complete, b') → Checked.append b key data = some b') ∧
    ∀ {origin : Origin} {t : SkipTable α}, t.list.Reachable origin →
      (∀ key data, (t.add key data).2.list.Reachable origin) ∧
      ∀ key f, (t.modify key f).list.Reachable origin :=
  ⟨fun h => ⟨h.grown.layout, h.grown.wellFormed.inRange⟩, fun hb h => hb.sound.checked_add h,
    fun h => ⟨h.add, fun key f => h.modify key f⟩⟩

/-- One key, built; then a taller one is put in front of it. -/
theorem layout_of_reachable_two :
    let fresh : Builder Nat := ⟨1, { head := #[none] }, #[.head]⟩
    let full : Builder Nat := ⟨1, { head := #[some 0], nodes := #[⟨[98], 5, #[none]⟩] }, #[.node 0]⟩
    let l : SkipList Nat :=
      { head := #[some 1, some 1, some 1],
        nodes := #[⟨[98], 6, #[none]⟩, ⟨[97], 7, #[some 0, none, none]⟩] }
    l.Layout .built ∧ l.InRange ∧ Checked.append fresh [98] 5 = some full := by
  intro fresh full l
  have hfresh : fresh.Reachable := .new (n := 1) (by decide)
  have hadd : fresh.add [98] 5 = .ok (true, full) := by decide +kernel
  have hfull : full.list.Reachable .built := .built (hfresh.add hadd) (by decide)
  have htaller : (full.list.modify [98] (· + 1)).insert? 3 [97] 7 = some l := by decide
  have hl : l.Reachable .built := (hfull.modify [98] (· + 1)).insert (by decide) htaller
  obtain ⟨hlayout, hrange⟩ := layout_of_reachable.1 hl
  exact ⟨hlayout, hrange, layout_of_reachable.2.1 hfresh hadd⟩

end TableTalk.SkipList
