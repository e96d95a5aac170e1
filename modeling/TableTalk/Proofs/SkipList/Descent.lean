import TableTalk.Proofs.SkipList.Layout

/-! The search in any list whose levels are chained in order. It comes to the entry of a key,
however tall that is, or to the last place before the key on every level; and it goes the same way
whether or not these places are written down. -/
namespace TableTalk.SkipList
variable {α : Type} {l : SkipList α} {p : Place} {level id other fuel : Nat}
  {ids before after : List Nat} {key key' : Bytes}

/-- Each level's chain ascends through exactly the entries that are tall enough for it, and no entry
is on no level or taller than the list. -/
structure Chained (l : SkipList α) : Prop where
  height : ∀ {id : Nat} {node : Node α}, l.nodes[id]? = some node →
    0 < node.tower.size ∧ node.tower.size ≤ l.levels
  chain : ∀ {level}, level < l.levels → ∃ ids, l.Chain level ids

theorem next_of_checked {link : Option Nat} (h : Checked.next l p level = some link) :
    l.next p level = link := by
  cases p with
  | head =>
    rw [Checked.next] at h
    rw [next, tower, h, Option.join_some]
  | node id =>
    obtain ⟨node, hnode, hlink⟩ := Option.bind_eq_some_iff.mp h
    rw [next, tower, hnode, Option.elim_some, hlink, Option.join_some]

/-- What is followed begins with the next entry. -/
theorem next_of_follow (h : Checked.follow l level fuel p = some ids) :
    Checked.next l p level = some ids.head? := by
  cases fuel with
  | zero => cases h
  | succ fuel =>
    rw [Checked.follow] at h
    rcases hnext : Checked.next l p level with _ | _ | id <;> simp only [hnext] at h
    · cases h
    · cases h
      rfl
    · obtain ⟨rest, -, rfl⟩ := Option.map_eq_some_iff.mp h
      rfl

/-- From any entry on the way, the rest of the way is followed. -/
theorem follow_of_append (h : Checked.follow l level fuel p = some (before ++ id :: after)) :
    ∃ fuel, Checked.follow l level fuel (.node id) = some after := by
  induction before generalizing fuel p with
  | nil =>
    have hnext := next_of_follow h
    cases fuel with
    | zero => cases h
    | succ fuel =>
      simp only [Checked.follow, hnext, List.nil_append, List.head?_cons] at h
      obtain ⟨rest, hrest, heq⟩ := Option.map_eq_some_iff.mp h
      cases heq
      exact ⟨fuel, hrest⟩
  | cons first before ih =>
    have hnext := next_of_follow h
    cases fuel with
    | zero => cases h
    | succ fuel =>
      simp only [Checked.follow, hnext, List.cons_append, List.head?_cons] at h
      obtain ⟨rest, hrest, heq⟩ := Option.map_eq_some_iff.mp h
      cases heq
      exact ih hrest

theorem On.key_unique (h : l.On level id key) (h' : l.On level id key') : key = key' := by
  obtain ⟨node, hnode, rfl, -⟩ := h
  exact (h'.key_eq hnode).symm

theorem Chain.mem_iff_on (h : l.Chain level ids) : id ∈ ids ↔ ∃ key, l.On level id key := by
  rw [h.mem_iff]
  constructor
  · rintro ⟨node, hnode, hlt⟩
    exact ⟨node.key, node, hnode, rfl, hlt⟩
  · rintro ⟨_, node, hnode, -, hlt⟩
    exact ⟨node, hnode, hlt⟩

theorem Chain.sorted_on (h : l.Chain level ids) :
    ids.Pairwise fun i j => ∀ a b, l.On level i a → l.On level j b → a < b := by
  refine h.ascending.imp ?_
  rintro i j ⟨m, n, hm, hn, hlt⟩ a b ha hb
  rwa [ha.key_eq hm, hb.key_eq hn]

/-- Of two entries on a level, the chain has the one with the lesser key first. -/
theorem Chain.first_or (h : l.Chain level (before ++ id :: after)) (hon : l.On level id key)
    (hother : l.On level other key') :
    other ∈ before ∧ key' < key ∨ other = id ∨ other ∈ after ∧ key < key' := by
  obtain ⟨-, hrest, hbefore⟩ := List.pairwise_append.mp h.sorted_on
  rcases List.mem_append.mp (h.mem_iff_on.mpr ⟨key', hother⟩) with hmem | hmem
  · exact .inl ⟨hmem, hbefore other hmem id List.mem_cons_self key' key hother hon⟩
  · rcases List.mem_cons.mp hmem with heq | hmem
    · exact .inr (.inl heq)
    · exact .inr (.inr ⟨hmem, (List.pairwise_cons.mp hrest).1 other hmem key key' hon hother⟩)

theorem Chain.mem_after_iff (h : l.Chain level (before ++ id :: after)) (hon : l.On level id key)
    (hother : l.On level other key') : other ∈ after ↔ key < key' := by
  constructor
  · intro hmem
    obtain ⟨-, hrest, -⟩ := List.pairwise_append.mp h.sorted_on
    exact (List.pairwise_cons.mp hrest).1 other hmem key key' hon hother
  · intro hlt
    rcases h.first_or hon hother with ⟨-, hless⟩ | rfl | ⟨hmem, -⟩
    · exact absurd (List.lt_trans hlt hless) (List.lt_irrefl key)
    · rw [hon.key_unique hother] at hlt
      exact absurd hlt (List.lt_irrefl key')
    · exact hmem

/-- The first of the entries beyond a place is the least of them. -/
theorem leads_head? (hon : ∀ id ∈ ids, ∃ key, l.On level id key)
    (hsorted : ids.Pairwise fun i j => ∀ a b, l.On level i a → l.On level j b → a < b)
    (hbeyond : ∀ other key', l.On level other key' → (other ∈ ids ↔ l.Before p key')) :
    l.Leads p level ids.head? := by
  cases ids with
  | nil =>
    intro other key' hother hpast
    exact absurd ((hbeyond other key' hother).mpr hpast) List.not_mem_nil
  | cons id rest =>
    obtain ⟨key, hid⟩ := hon id List.mem_cons_self
    refine ⟨key, hid, (hbeyond id key hid).mp List.mem_cons_self,
      fun other key' hother hpast hlt => ?_⟩
    rcases List.mem_cons.mp ((hbeyond other key' hother).mpr hpast) with rfl | hmem
    · rw [hid.key_unique hother] at hlt
      exact List.lt_irrefl key' hlt
    · have hless := (List.pairwise_cons.mp hsorted).1 other hmem key key' hid hother
      exact List.lt_irrefl _ (List.lt_trans hlt hless)

theorem Layout.chained {origin : Origin} (h : l.Layout origin) : l.Chained := ⟨h.height, h.chain⟩

theorem Chained.chain_of_on (h : l.Chained) (hon : l.On level id key) :
    ∃ ids, l.Chain level ids := by
  obtain ⟨node, hnode, -, hlt⟩ := hon
  exact h.chain (Nat.lt_of_lt_of_le hlt (h.height hnode).2)

/-- Chains in order are all that the links have to be in order for. -/
theorem Chained.wellFormed (h : l.Chained) : l.WellFormed where
  height_pos hnode := (h.height hnode).1
  height_le hnode := (h.height hnode).2
  unique := by
    intro id other key hid hother
    obtain ⟨ids, hchain⟩ := h.chain_of_on hid
    obtain ⟨before, after, rfl⟩ := List.append_of_mem (hchain.mem_iff_on.mpr ⟨key, hid⟩)
    rcases hchain.first_or hid hother with ⟨-, hlt⟩ | heq | ⟨-, hlt⟩
    · exact absurd hlt (List.lt_irrefl key)
    · exact heq.symm
    · exact absurd hlt (List.lt_irrefl key)
  leads := by
    intro p level hp
    cases p with
    | head =>
      obtain ⟨ids, hchain⟩ := h.chain hp
      rw [next_of_checked (next_of_follow hchain.follow)]
      refine leads_head? (fun _ hid => hchain.mem_iff_on.mp hid) hchain.sorted_on ?_
      exact fun other key' hother => iff_of_true (hchain.mem_iff_on.mpr ⟨key', hother⟩) trivial
    | node id =>
      obtain ⟨key, hon⟩ := on_of_stands hp
      obtain ⟨ids, hchain⟩ := h.chain_of_on hon
      obtain ⟨before, after, rfl⟩ := List.append_of_mem (hchain.mem_iff_on.mpr ⟨key, hon⟩)
      obtain ⟨fuel, hfollow⟩ := follow_of_append hchain.follow
      obtain ⟨-, hrest, -⟩ := List.pairwise_append.mp hchain.sorted_on
      rw [next_of_checked (next_of_follow hfollow)]
      refine leads_head? (fun other hother => ?_) (List.pairwise_cons.mp hrest).2 ?_
      · exact hchain.mem_iff_on.mp (List.mem_append_right _ (List.mem_cons_of_mem _ hother))
      · intro other key' hother
        rw [hchain.mem_after_iff hon hother, hon.before_iff]

namespace Checked

/-- The search with slots for a path or without. All that it comes to is whether it finds an entry,
and what is in the slots then. -/
def searchFrom (l : SkipList α) (key : Bytes) :
    (level : Nat) → Place → (slots : Option (Array Place)) →
      Option (Option Nat × Option (Array Place))
  | 0, _, slots => some (none, slots)
  | level + 1, p, slots =>
    match walk l key level (l.size + 1) p with
    | none => none
    | some (.found id) => some (some id, slots)
    | some (.before q) =>
      match slots with
      | none => searchFrom l key level q none
      | some path =>
        if level < path.size then searchFrom l key level q (some (path.setIfInBounds level q))
        else none

def search (l : SkipList α) (key : Bytes) (slots : Option (Array Place)) :
    Option (Option Nat × Option (Array Place)) :=
  searchFrom l key l.levels .head slots

end Checked

/-- The slots have no influence on the way. -/
theorem searchFrom_eq (key : Bytes) {path : Array Place} {slots : Option (Array Place)}
    (hslots : ∀ s ∈ slots, s = path) (hsize : level ≤ path.size) :
    match Checked.descendFrom l key level p path with
    | none => Checked.searchFrom l key level p slots = none
    | some (.found id) =>
      ∃ filled, Checked.searchFrom l key level p slots = some (some id, slots.map fun _ => filled)
    | some (.absent full) =>
      Checked.searchFrom l key level p slots = some (none, slots.map fun _ => full.toArray) := by
  have hsame : slots = slots.map fun _ => path := by
    cases slots with
    | none => rfl
    | some s => rw [Option.map_some, hslots s rfl]
  induction level generalizing p path slots with
  | zero =>
    rw [Checked.descendFrom, Checked.searchFrom]
    simp only [Array.toArray_toList, ← hsame]
  | succ level ih =>
    have hlt : level < path.size := hsize
    rw [Checked.descendFrom, Checked.searchFrom]
    rcases Checked.walk l key level (l.size + 1) p with _ | id | q
    · rfl
    · exact ⟨path, by rw [← hsame]⟩
    · have hrest : level ≤ (path.setIfInBounds level q).size := by
        rw [Array.size_setIfInBounds]
        exact Nat.le_of_lt hlt
      simp only [if_pos hlt]
      cases slots with
      | none => exact ih (fun t ht => absurd ht (Option.not_mem_none t)) hrest rfl
      | some s =>
        obtain rfl := hslots s rfl
        simp only [if_pos hlt]
        have hfilled : ∀ t ∈ some (s.setIfInBounds level q), t = s.setIfInBounds level q := by
          rintro _ ⟨⟩
          rfl
        exact ih hfilled hrest rfl

theorem WellFormed.search_eq (hl : l.WellFormed) (key : Bytes) {slots : Option (Array Place)}
    (hslots : ∀ s ∈ slots, s.size = l.levels) :
    ∃ filled, Checked.search l key slots = some (l.findId? key, slots.map fun _ => filled) ∧
      ∀ path, l.descend key = .absent path → filled = path.toArray := by
  obtain ⟨path, hpath, hsize⟩ : ∃ path, (∀ s ∈ slots, s = path) ∧ path.size = l.levels := by
    cases slots with
    | none => exact ⟨Array.replicate l.levels .head, nofun, Array.size_replicate⟩
    | some s => exact ⟨s, by rintro _ ⟨⟩; rfl, hslots s rfl⟩
  have hdescend : Checked.descendFrom l key l.levels .head path = some (l.descend key) := by
    have hempty : path.toList.drop l.levels = [] :=
      List.drop_eq_nil_of_le (Nat.le_of_eq (Array.length_toList.trans hsize))
    have hchecked : Checked.descendFrom l key l.levels .head path =
        some (l.descendFrom key l.levels .head (path.toList.drop l.levels)) :=
      hl.checked_descendFrom path (fun _ h => h) trivial (Nat.le_of_eq hsize.symm)
    rw [hchecked, hempty]
    rfl
  have hsearch := searchFrom_eq (l := l) (p := .head) key hpath (Nat.le_of_eq hsize.symm)
  rw [hdescend] at hsearch
  rw [findId?, Checked.search]
  cases hfound : l.descend key with
  | found id =>
    rw [hfound] at hsearch
    obtain ⟨filled, hfilled⟩ := hsearch
    refine ⟨filled, hfilled, fun path hpath => ?_⟩
    cases hpath
  | absent full =>
    rw [hfound] at hsearch
    refine ⟨full.toArray, hsearch, ?_⟩
    rintro _ ⟨⟩
    rfl

theorem LastBefore.next_greater (hl : l.WellFormed) (h : l.LastBefore key level p) :
    ∃ link, Checked.next l p level = some link ∧
      ∀ id ∈ link, ∃ node, l.nodes[id]? = some node ∧ key < node.key := by
  refine ⟨_, checked_next h.stands, fun id hid => ?_⟩
  obtain ⟨key', hon, hpast, -⟩ := hl.leads_to h.stands hid
  have hgreater := h.greater hon hpast
  obtain ⟨node, hnode, rfl, -⟩ := hon
  exact ⟨node, hnode, hgreater⟩

/-- A search ends. It finds the one entry that has the key, at whatever height, or for each level
the last place before the key, whose link leads past the key or nowhere. It is the same search with
slots for these places and without; it fills them all, and no link is followed on a level that the
place does not stand on. -/
theorem Chained.descend_complete (h : l.Chained) (key : Bytes) :
    (∀ id, l.descend key = .found id ↔ ∃ node, l.nodes[id]? = some node ∧ node.key = key) ∧
    (∀ path, l.descend key = .absent path → path.length = l.levels ∧
      ∀ (level : Nat) (p : Place), path[level]? = some p → l.LastBefore key level p ∧
        ∃ link, Checked.next l p level = some link ∧
          ∀ id ∈ link, ∃ node, l.nodes[id]? = some node ∧ key < node.key) ∧
    ∀ slots : Option (Array Place), (∀ s ∈ slots, s.size = l.levels) →
      ∃ filled, Checked.search l key slots = some (l.findId? key, slots.map fun _ => filled) ∧
        ∀ path, l.descend key = .absent path → filled = path.toArray := by
  have hl := h.wellFormed
  refine ⟨fun id => ?_, fun path hpath => ?_, fun slots hslots => hl.search_eq key hslots⟩
  · rw [← hl.on_iff_key, ← hl.findId?_eq_some_iff, findId?]
    cases l.descend key with
    | found other => rw [Descent.found.injEq, Option.some.injEq]
    | absent path => constructor <;> intro hsame <;> cases hsame
  · have hspec := hl.descend_spec key
    rw [hpath] at hspec
    obtain ⟨hlength, hlast, -⟩ := hspec
    exact ⟨hlength, fun level p hp => ⟨hlast hp, (hlast hp).next_greater hl⟩⟩

/-- Three keys at heights of one, three and two. The greatest is found below the top, and what lies
between it and the tallest is missed behind the tallest on every level. -/
theorem descend_complete_three :
    let l : SkipList Nat :=
      { head := #[some 2, some 0, some 0]
        nodes :=
          #[⟨[100], 5, #[some 1, some 1, none]⟩, ⟨[102], 6, #[none, none]⟩, ⟨[98], 7, #[some 0]⟩] }
    l.Chained ∧ l.descend [102] = .found 1 ∧ Checked.search l [102] none = some (some 1, none) ∧
      l.LastBefore [101] 2 (.node 0) ∧
      Checked.search l [101] (some #[.head, .head, .head]) =
        some (none, some #[.node 0, .node 0, .node 0]) := by
  intro l
  let first : SkipList Nat :=
    { head := #[some 0, some 0, some 0], nodes := #[⟨[100], 5, #[none, none, none]⟩] }
  let second : SkipList Nat :=
    { head := #[some 0, some 0, some 0]
      nodes := #[⟨[100], 5, #[some 1, some 1, none]⟩, ⟨[102], 6, #[none, none]⟩] }
  have hfirst : ({} : SkipList Nat).insert? 3 [100] 5 = some first := by decide
  have hsecond : first.insert? 2 [102] 6 = some second := by decide
  have hthird : second.insert? 1 [98] 7 = some l := by decide
  have hreachable : l.Reachable .empty :=
    ((Reachable.empty.insert (by decide) hfirst).insert (by decide) hsecond).insert
      (by decide) hthird
  have hl : l.Chained := hreachable.grown.layout.chained
  have habsent : l.descend [101] = .absent [.node 0, .node 0, .node 0] := by decide
  obtain ⟨hfound, -, hpresent⟩ := hl.descend_complete [102]
  obtain ⟨-, hmissed, hsearch⟩ := hl.descend_complete [101]
  have hgreatest : l.descend [102] = .found 1 := (hfound 1).mpr ⟨_, rfl, rfl⟩
  refine ⟨hl, hgreatest, ?_, ((hmissed _ habsent).2 2 _ rfl).1, ?_⟩
  · obtain ⟨filled, hfilled, -⟩ := hpresent none nofun
    rwa [findId?, hgreatest] at hfilled
  · obtain ⟨filled, hfilled, hslots⟩ := hsearch (some #[.head, .head, .head]) (by rintro _ ⟨⟩; rfl)
    rwa [findId?, habsent, hslots _ habsent] at hfilled

end TableTalk.SkipList
