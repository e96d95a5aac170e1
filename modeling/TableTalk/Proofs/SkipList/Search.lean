import TableTalk.Proofs.SkipList.Invariant
import TableTalk.SkipList.Search

/-! A search finds every key that is there, and otherwise all the places that it was missed at. -/
namespace TableTalk.SkipList
variable {α : Type} {l : SkipList α} {p q : Place} {level id : Nat} {key : Bytes}

/-- The last place on a level before a key: every entry that follows is greater. -/
structure LastBefore (l : SkipList α) (key : Bytes) (level : Nat) (p : Place) : Prop where
  stands : l.Stands p level
  before : l.Before p key
  greater : ∀ {id key'}, l.On level id key' → l.Before p key' → key < key'

/-- Along a level, a walk comes to the key or to the last place before it. -/
theorem WellFormed.walk_spec (hl : l.WellFormed) {fuel : Nat} (hp : l.Stands p level)
    (hbefore : l.Before p key) (hfuel : l.ahead p ≤ fuel) :
    match l.walk key level fuel p with
    | .found id => l.On level id key
    | .before q => l.LastBefore key level q := by
  fun_induction walk l key level fuel p with
  | case1 p =>
    refine ⟨hp, hbefore, fun h hpast => ?_⟩
    have := h.ahead_lt hpast
    omega
  | case2 fuel p hnext =>
    exact ⟨hp, hbefore, fun h hpast => absurd hpast (hl.leads_to hp hnext _ _ h)⟩
  | case3 fuel p id hnext hnone =>
    obtain ⟨_, ⟨node, hnode, -⟩, -⟩ := hl.leads_to hp hnext
    simp [hnone] at hnode
  | case4 fuel p id hnext node hnode hlt ih =>
    obtain ⟨_, hon, hpast, -⟩ := hl.leads_to hp hnext
    obtain rfl := hon.key_eq hnode
    have hless := hon.ahead_lt hpast
    exact ih hon.stands (hon.before_iff.mpr (Std.compare_eq_lt.mp hlt)) (by omega)
  | case5 fuel p id hnext node hnode heq =>
    obtain ⟨_, hon, -⟩ := hl.leads_to hp hnext
    obtain rfl := hon.key_eq hnode
    rwa [← Std.compare_eq_iff_eq.mp heq]
  | case6 fuel p id hnext node hnode hgt =>
    obtain ⟨_, hon, -, hleast⟩ := hl.leads_to hp hnext
    obtain rfl := hon.key_eq hnode
    have hkey := Std.compare_eq_gt.mp hgt
    refine ⟨hp, hbefore, fun {other key'} h hpast => ?_⟩
    obtain hlt | rfl | hlt := Std.lt_trichotomy key' node.key
    · exact absurd hlt (hleast _ _ h hpast)
    · exact hkey
    · exact List.lt_trans hkey hlt

/-- On the way down the place only moves on, and it stands on all the levels below. -/
theorem WellFormed.descendFrom_spec (hl : l.WellFormed) (key : Bytes) (level : Nat)
    (hp : ∀ lower < level, l.Stands p lower) (hbefore : l.Before p key) (path : List Place) :
    match l.descendFrom key level p path with
    | .found id => l.On 0 id key
    | .absent full => ∃ places, full = places ++ path ∧ places.length = level ∧
        ∀ {k q}, places[k]? = some q → l.LastBefore key k q := by
  induction level generalizing p path with
  | zero => exact ⟨[], rfl, rfl, by simp⟩
  | succ level ih =>
    have hwalk := hl.walk_spec (hp level (Nat.lt_succ_self level)) hbefore ahead_le_size
    rw [descendFrom]
    cases hstop : l.walk key level l.size p with
    | found id =>
      rw [hstop] at hwalk
      exact hwalk.lower (Nat.zero_le level)
    | before q =>
      rw [hstop] at hwalk
      have hbelow :=
        ih (fun _ hlt => hwalk.stands.lower (Nat.le_of_lt hlt)) hwalk.before (q :: path)
      simp only
      cases hdescent : l.descendFrom key level q (q :: path) with
      | found id =>
        rw [hdescent] at hbelow
        exact hbelow
      | absent full =>
        rw [hdescent] at hbelow
        obtain ⟨places, rfl, hlength, hplaces⟩ := hbelow
        refine ⟨places ++ [q], by simp, by simp [hlength], fun {k r} hr => ?_⟩
        rw [List.getElem?_append] at hr
        split at hr
        · exact hplaces hr
        · next hge =>
          rw [List.getElem?_singleton] at hr
          split at hr <;> cases hr
          rwa [show k = level by omega]

/-- A search finds the key, or for every level the last place before it. -/
theorem WellFormed.descend_spec (hl : l.WellFormed) (key : Bytes) :
    match l.descend key with
    | .found id => l.On 0 id key
    | .absent path => path.length = l.levels ∧ (∀ {k q}, path[k]? = some q → l.LastBefore key k q) ∧
        ∀ id, ¬l.On 0 id key := by
  have hspec := hl.descendFrom_spec (p := .head) key l.levels (fun _ h => h) trivial []
  rw [descend]
  cases hdescent : l.descendFrom key l.levels .head [] with
  | found id =>
    rw [hdescent] at hspec
    exact hspec
  | absent path =>
    rw [hdescent] at hspec
    obtain ⟨places, rfl, hlength, hplaces⟩ := hspec
    rw [List.append_nil]
    refine ⟨hlength, hplaces, fun id hon => ?_⟩
    have hpos : 0 < places.length := by
      rw [hlength]
      exact hl.on_levels hon
    have hlast := hplaces (List.getElem?_eq_getElem hpos)
    exact List.lt_irrefl key (hlast.greater hon hlast.before)

theorem WellFormed.findId?_eq_some_iff (hl : l.WellFormed) :
    l.findId? key = some id ↔ l.On 0 id key := by
  have hspec := hl.descend_spec key
  rw [findId?]
  cases hdescent : l.descend key with
  | found other =>
    rw [hdescent] at hspec
    simp only [Option.some.injEq]
    constructor
    · rintro rfl
      exact hspec
    · exact hl.unique hspec
  | absent path =>
    rw [hdescent] at hspec
    simp [hspec.2.2 id]

/-- What is stored, in the order in which it came. -/
def entries (l : SkipList α) : List (Bytes × α) :=
  l.nodes.toList.map fun node => (node.key, node.data)

theorem size_eq_length (l : SkipList α) : l.size = l.entries.length := by
  simp [size, entries]

variable {e : Bytes × α}

theorem mem_entries_iff :
    e ∈ l.entries ↔
      ∃ (id : Nat) (node : Node α), l.nodes[id]? = some node ∧ (node.key, node.data) = e := by
  rw [entries, List.mem_map]
  simp only [List.mem_iff_getElem?, Array.getElem?_toList]
  constructor
  · rintro ⟨node, ⟨id, hnode⟩, he⟩
    exact ⟨id, node, hnode, he⟩
  · rintro ⟨id, node, hnode, he⟩
    exact ⟨node, ⟨id, hnode⟩, he⟩

theorem WellFormed.find?_eq_some_iff (hl : l.WellFormed) :
    l.find? key = some e ↔ e ∈ l.entries ∧ e.1 = key := by
  simp only [find?, Option.map_eq_some_iff, Option.bind_eq_some_iff, mem_entries_iff,
    hl.findId?_eq_some_iff, hl.on_iff_key]
  constructor
  · rintro ⟨node, ⟨id, ⟨other, hother, rfl⟩, hnode⟩, rfl⟩
    cases hother.symm.trans hnode
    exact ⟨⟨id, node, hnode, rfl⟩, rfl⟩
  · rintro ⟨⟨id, node, hnode, rfl⟩, rfl⟩
    exact ⟨node, ⟨id, ⟨node, hnode, rfl⟩, hnode⟩, rfl⟩

theorem WellFormed.mem_keys_iff (hl : l.WellFormed) :
    key ∈ l.entries.map (·.1) ↔ ∃ id, l.On 0 id key := by
  simp only [hl.on_iff_key, List.mem_map, mem_entries_iff]
  constructor
  · rintro ⟨_, ⟨id, node, hnode, rfl⟩, rfl⟩
    exact ⟨id, node, hnode, rfl⟩
  · rintro ⟨id, node, hnode, rfl⟩
    exact ⟨_, ⟨id, node, hnode, rfl⟩, rfl⟩

theorem WellFormed.contains_iff (hl : l.WellFormed) :
    l.contains key ↔ key ∈ l.entries.map (·.1) := by
  simp only [contains, Option.isSome_iff_exists, hl.findId?_eq_some_iff, hl.mem_keys_iff]

/-- Data can be changed without any link being touched. -/
theorem modify_sameShape (l : SkipList α) (key : Bytes) (f : α → α) :
    SameShape l (l.modify key f) ∧ ∀ p level, (l.modify key f).next p level = l.next p level := by
  rw [modify]
  cases l.findId? key with
  | none => exact ⟨.refl l, fun _ _ => rfl⟩
  | some id =>
    refine ⟨⟨rfl, fun other => ?_⟩, fun p level => ?_⟩
    · simp only [Array.getElem?_modify]
      split <;> simp [Function.comp_def]
    · cases p with
      | head => rfl
      | node other =>
        simp only [next, tower, Array.getElem?_modify]
        split
        · cases l.nodes[other]? <;> rfl
        · rfl

theorem WellFormed.modify (hl : l.WellFormed) (key : Bytes) (f : α → α) :
    (l.modify key f).WellFormed :=
  hl.of_sameShape (l.modify_sameShape key f).1 (l.modify_sameShape key f).2

theorem getElem?_entries (l : SkipList α) (i : Nat) :
    l.entries[i]? = (l.nodes[i]?).map fun node => (node.key, node.data) := by
  simp [entries]

/-- A write reaches the entry of its key and no other. -/
theorem WellFormed.modify_entries (hl : l.WellFormed) (key : Bytes) (f : α → α) :
    (l.modify key f).entries = l.entries.map fun e => if e.1 = key then (e.1, f e.2) else e := by
  apply List.ext_getElem?
  intro i
  rw [List.getElem?_map, getElem?_entries, getElem?_entries]
  cases hnode : l.nodes[i]? with
  | none =>
    have hshape := (l.modify_sameShape key f).1.nodes i
    rw [hnode, Option.map_none, Option.map_eq_none_iff] at hshape
    rw [hshape]
    rfl
  | some node =>
    have hkey : node.key = key ↔ l.findId? key = some i := by
      rw [hl.findId?_eq_some_iff, hl.on_iff_key]
      constructor
      · intro h
        exact ⟨node, hnode, h⟩
      · rintro ⟨other, hother, h⟩
        cases hnode.symm.trans hother
        exact h
    simp only [Option.map_some, hkey, SkipList.modify]
    cases hfound : l.findId? key with
    | none => simp [hnode]
    | some id =>
      simp only [Array.getElem?_modify, hnode, Option.some.injEq]
      split <;> simp

end TableTalk.SkipList
