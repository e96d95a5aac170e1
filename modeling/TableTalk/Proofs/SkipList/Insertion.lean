import TableTalk.Proofs.SkipList.Search
import TableTalk.SkipList.Insert

/-! A new entry behind the last places before its key. On each of its levels it takes over the link
of that place, and no other link changes. -/
namespace TableTalk.SkipList
variable {α : Type} {l : SkipList α} {p q : Place} {level id height : Nat} {key : Bytes} {data : α}

instance : Decidable (l.Stands p level) := inferInstanceAs (Decidable (_ < _))

theorem link_sameShape (l : SkipList α) (p : Place) (level id : Nat) :
    SameShape l (l.link p level id) := by
  cases p with
  | head => exact ⟨by simp [link, levels], fun _ => rfl⟩
  | node n =>
    refine ⟨rfl, fun other => ?_⟩
    simp only [link, Array.getElem?_modify]
    split
    · cases l.nodes[other]? <;> simp
    · rfl

theorem join_setIfInBounds (tower : Array (Option Nat)) (level k id : Nat) :
    ((tower.setIfInBounds level (some id))[k]?).join =
      if k = level ∧ level < tower.size then some id else (tower[k]?).join := by
  rw [Array.getElem?_setIfInBounds]
  by_cases hk : level = k
  · subst hk
    by_cases hlt : level < tower.size
    · simp [hlt]
    · simp [hlt]
  · simp [hk, Ne.symm hk]

theorem tower_link (l : SkipList α) (p q : Place) (level id : Nat) :
    (l.link p level id).tower q =
      if q = p then (l.tower p).setIfInBounds level (some id) else l.tower q := by
  cases p with
  | head => cases q <;> rfl
  | node n =>
    cases q with
    | head => rfl
    | node m =>
      simp only [tower, link, Array.getElem?_modify, Place.node.injEq]
      by_cases hmn : m = n
      · subst hmn
        rw [if_pos rfl, if_pos rfl]
        cases l.nodes[m]? <;> rfl
      · rw [if_neg (Ne.symm hmn), if_neg hmn]

theorem next_link (l : SkipList α) (p q : Place) (level k id : Nat) :
    (l.link p level id).next q k =
      if q = p ∧ k = level ∧ l.Stands p level then some id else l.next q k := by
  rw [next, tower_link]
  by_cases hq : q = p
  · subst hq
    rw [if_pos rfl, join_setIfInBounds]
    simp [Stands, next]
  · rw [if_neg hq, if_neg fun h => hq h.1, next]

theorem entries_link (l : SkipList α) (p : Place) (level id : Nat) :
    (l.link p level id).entries = l.entries := by
  apply List.ext_getElem?
  intro i
  rw [getElem?_entries, getElem?_entries]
  cases p with
  | head => rfl
  | node n =>
    simp only [link, Array.getElem?_modify]
    split
    · cases l.nodes[i]? <;> rfl
    · rfl

/-- Lets the links of several places lead to one entry. -/
def linkAll (l : SkipList α) (places : List (Place × Nat)) (id : Nat) : SkipList α :=
  places.foldl (fun l (p, level) => l.link p level id) l

theorem linkAll_sameShape (l : SkipList α) (places : List (Place × Nat)) (id : Nat) :
    SameShape l (l.linkAll places id) := by
  induction places generalizing l with
  | nil => exact .refl l
  | cons place places ih => exact (l.link_sameShape place.1 place.2 id).trans (ih _)

theorem next_linkAll (l : SkipList α) (places : List (Place × Nat)) (id : Nat) (q : Place)
    (k : Nat) :
    (l.linkAll places id).next q k =
      if (q, k) ∈ places ∧ l.Stands q k then some id else l.next q k := by
  induction places generalizing l with
  | nil => simp [linkAll]
  | cons place places ih =>
    obtain ⟨p, level⟩ := place
    refine (ih (l.link p level id)).trans ?_
    simp only [(l.link_sameShape p level id).stands_iff, next_link, List.mem_cons, Prod.mk.injEq]
    by_cases hplace : q = p ∧ k = level
    · obtain ⟨rfl, rfl⟩ := hplace
      by_cases hq : l.Stands q k <;> simp [hq]
    · have hlink : ¬(q = p ∧ k = level ∧ l.Stands p level) := fun h => hplace ⟨h.1, h.2.1⟩
      simp only [hplace, hlink, false_or, if_false]

theorem entries_linkAll (l : SkipList α) (places : List (Place × Nat)) (id : Nat) :
    (l.linkAll places id).entries = l.entries := by
  induction places generalizing l with
  | nil => rfl
  | cons place places ih => exact (ih _).trans (l.entries_link place.1 place.2 id)

theorem size_linkAll (l : SkipList α) (places : List (Place × Nat)) (id : Nat) :
    (l.linkAll places id).nodes.size = l.size := by
  rw [l.size_eq_length, ← l.entries_linkAll places id, ← size_eq_length]
  rfl

section
variable (l) (path : List Place) (height : Nat) (key : Bytes) (data : α)

/-- The links of the new entry. -/
def inherited : Array (Option Nat) :=
  ((List.range height).map fun level => (path[level]?).bind (l.next · level)).toArray

theorem splice_eq :
    l.splice path height key data =
      { head := (l.linkAll (path.take height).zipIdx l.size).head ++
          Array.replicate (height - l.levels) (some l.size)
        nodes := (l.linkAll (path.take height).zipIdx l.size).nodes.push
          ⟨key, data, l.inherited path height⟩ } := rfl

theorem nodes_splice (id : Nat) :
    (l.splice path height key data).nodes[id]? =
      if id = l.size then some ⟨key, data, l.inherited path height⟩
      else (l.linkAll (path.take height).zipIdx l.size).nodes[id]? := by
  rw [splice_eq, Array.getElem?_push, size_linkAll]

theorem entries_splice : (l.splice path height key data).entries = l.entries ++ [(key, data)] := by
  rw [← entries_linkAll l (path.take height).zipIdx l.size]
  simp [entries, splice, linkAll]

theorem size_splice : (l.splice path height key data).size = l.size + 1 := by
  rw [size_eq_length, entries_splice, List.length_append, ← size_eq_length]
  rfl

theorem levels_splice :
    (l.splice path height key data).levels = l.levels + (height - l.levels) := by
  have hlinked := (l.linkAll_sameShape (path.take height).zipIdx l.size).levels
  simp only [levels, splice, linkAll, Array.size_append, Array.size_replicate] at hlinked ⊢
  rw [hlinked]

end

theorem insert?_eq_some {l' : SkipList α} (h : l.insert? height key data = some l') :
    ∃ path, l' = l.splice path height key data := by
  rw [insert?] at h
  split at h <;> cases h
  exact ⟨_, rfl⟩

/-- After an insertion an entry is the new one, or as tall as it was. -/
theorem node_splice {path : List Place} {node : Node α}
    (h : (l.splice path height key data).nodes[id]? = some node) :
    (id = l.size ∧ node.tower.size = height) ∨
      ∃ old, l.nodes[id]? = some old ∧ node.tower.size = old.tower.size := by
  rw [nodes_splice] at h
  split at h
  · next hid =>
    cases h
    exact .inl ⟨hid, by simp [inherited]⟩
  · obtain ⟨old, hold, -, hsize⟩ :=
      (l.linkAll_sameShape (path.take height).zipIdx l.size).symm.node h
    exact .inr ⟨old, hold, hsize.symm⟩

theorem not_on_size : ¬l.On level l.size key := by
  rintro ⟨node, hnode, -⟩
  simp [size] at hnode

theorem on_splice {path : List Place} {key' : Bytes} :
    (l.splice path height key data).On level id key' ↔
      l.On level id key' ∨ id = l.size ∧ key' = key ∧ level < height := by
  have hshape := l.linkAll_sameShape (path.take height).zipIdx l.size
  rw [On, nodes_splice]
  by_cases hid : id = l.size
  · subst hid
    simp only [not_on_size, false_or, true_and, if_true, Option.some.injEq]
    constructor
    · rintro ⟨_, rfl, rfl, hlt⟩
      exact ⟨rfl, by simpa [inherited] using hlt⟩
    · rintro ⟨rfl, hlt⟩
      exact ⟨_, rfl, rfl, by simpa [inherited] using hlt⟩
  · simp only [hid, if_false, false_and, or_false]
    exact hshape.on_iff

theorem before_splice {path : List Place} {key' : Bytes} :
    (l.splice path height key data).Before p key' ↔
      l.Before p key' ∨ p = .node l.size ∧ key < key' := by
  have hshape := l.linkAll_sameShape (path.take height).zipIdx l.size
  cases p with
  | head => exact ⟨.inl, fun _ => trivial⟩
  | node id =>
    have hbefore : (l.linkAll (path.take height).zipIdx l.size).Before (.node id) key' ↔
        l.Before (.node id) key' := hshape.before_iff
    simp only [Before, nodes_splice, Place.node.injEq] at hbefore ⊢
    by_cases hid : id = l.size
    · subst hid
      simp [size]
    · simpa only [hid, if_false, false_and, or_false] using hbefore

theorem next_splice_new {path : List Place} (h : level < height) :
    (l.splice path height key data).next (.node l.size) level =
      (path[level]?).bind (l.next · level) := by
  simp [next, tower, nodes_splice, inherited, h]

theorem head_splice (path : List Place) :
    (l.splice path height key data).next .head level =
      if level < l.levels then (l.linkAll (path.take height).zipIdx l.size).next .head level
      else if level < height then some l.size else none := by
  have hlevels : (l.linkAll (path.take height).zipIdx l.size).head.size = l.levels :=
    (l.linkAll_sameShape (path.take height).zipIdx l.size).levels
  simp only [next, tower, splice_eq, Array.getElem?_append, hlevels, Array.getElem?_replicate]
  split
  · rfl
  · split
    · rw [if_pos (by omega)]
      rfl
    · rw [if_neg (by omega)]
      rfl

theorem next_splice_old {path : List Place} (h : l.Stands p level) :
    (l.splice path height key data).next p level =
      if level < height ∧ path[level]? = some p then some l.size else l.next p level := by
  have hlinked := l.next_linkAll (path.take height).zipIdx l.size p level
  have htake : (path.take height)[level]? = some p ↔ level < height ∧ path[level]? = some p := by
    rw [List.getElem?_take]
    split <;> simp [*]
  simp only [List.mk_mem_zipIdx_iff_getElem?, h, and_true, htake] at hlinked
  rw [← hlinked]
  cases p with
  | head => exact (head_splice path).trans (if_pos h)
  | node id =>
    have hid : id ≠ l.size := by
      rintro rfl
      obtain ⟨key, hon⟩ := on_of_stands h
      exact not_on_size hon
    simp only [next, tower, nodes_splice, if_neg hid]

/-- A place before the key is the last one, or has the last one beyond it. -/
theorem WellFormed.eq_or_beyond (hl : l.WellFormed) (hq : l.LastBefore key level q)
    (hp : l.Stands p level) (hbefore : l.Before p key) :
    p = q ∨ ∃ id key', l.On level id key' ∧ l.Before p key' ∧ key' < key := by
  cases q with
  | head =>
    cases p with
    | head => exact .inl rfl
    | node id =>
      obtain ⟨pkey, hon⟩ := on_of_stands hp
      exact absurd (hon.before_iff.mp hbefore) (List.lt_asymm (hq.greater hon trivial))
  | node last =>
    obtain ⟨qkey, hqon⟩ := on_of_stands hq.stands
    have hqkey : qkey < key := hqon.before_iff.mp hq.before
    cases p with
    | head => exact .inr ⟨last, qkey, hqon, trivial, hqkey⟩
    | node id =>
      obtain ⟨pkey, hon⟩ := on_of_stands hp
      obtain hlt | rfl | hlt := Std.lt_trichotomy pkey qkey
      · exact .inr ⟨last, qkey, hqon, hon.before_iff.mpr hlt, hqkey⟩
      · exact .inl
          (congrArg Place.node (hl.unique (hon.lower (Nat.zero_le _)) (hqon.lower (Nat.zero_le _))))
      · have hpkey := hq.greater hon (hqon.before_iff.mpr hlt)
        exact absurd (hon.before_iff.mp hbefore) (List.lt_asymm hpkey)

section
variable {path : List Place}

/-- The new entry leads where the last place before it led. -/
theorem WellFormed.leads_splice_new (hl : l.WellFormed) (hlength : path.length = l.levels)
    (hpath : ∀ {k q}, path[k]? = some q → l.LastBefore key k q) (hlevel : level < height) :
    (l.splice path height key data).Leads (.node l.size) level
      ((l.splice path height key data).next (.node l.size) level) := by
  have hnew {key' : Bytes} :
      (l.splice path height key data).Before (.node l.size) key' ↔ key < key' := by
    rw [before_splice]
    simp [Before, size]
  rw [next_splice_new hlevel]
  by_cases hlt : level < path.length
  · have hq := hpath (List.getElem?_eq_getElem hlt)
    rw [List.getElem?_eq_getElem hlt, Option.bind_some]
    cases hnext : l.next path[level] level with
    | none =>
      intro id key' hon hgt
      rw [hnew] at hgt
      obtain hon | ⟨-, rfl, -⟩ := on_splice.mp hon
      · exact hl.leads_to hq.stands hnext id key' hon (hq.before.trans hgt)
      · exact List.lt_irrefl key' hgt
    | some id =>
      obtain ⟨key', hon, hpast, hleast⟩ := hl.leads_to hq.stands hnext
      refine ⟨key', on_splice.mpr (.inl hon), hnew.mpr (hq.greater hon hpast),
        fun other _ hother hgt => ?_⟩
      rw [hnew] at hgt
      obtain hother | ⟨-, rfl, -⟩ := on_splice.mp hother
      · exact hleast other _ hother (hq.before.trans hgt)
      · exact absurd hgt (List.lt_irrefl _)
  · rw [List.getElem?_eq_none (by omega), Option.bind_none]
    intro id key' hon hgt
    rw [hnew] at hgt
    obtain hon | ⟨-, rfl, -⟩ := on_splice.mp hon
    · have := hl.on_levels hon
      omega
    · exact List.lt_irrefl key' hgt

/-- An old place leads to the new entry if it was the last one before it, and otherwise
as before. -/
theorem WellFormed.leads_splice_old (hl : l.WellFormed) (hlength : path.length = l.levels)
    (hpath : ∀ {k q}, path[k]? = some q → l.LastBefore key k q) (hp : l.Stands p level) :
    (l.splice path height key data).Leads p level
      ((l.splice path height key data).next p level) := by
  have hold {key' : Bytes} : (l.splice path height key data).Before p key' ↔ l.Before p key' := by
    rw [before_splice]
    refine ⟨fun h => h.resolve_right ?_, .inl⟩
    rintro ⟨rfl, -⟩
    obtain ⟨key, hon⟩ := on_of_stands hp
    exact not_on_size hon
  rw [next_splice_old hp]
  split
  · next h =>
    obtain ⟨hlevel, hget⟩ := h
    have hq := hpath hget
    refine ⟨key, on_splice.mpr (.inr ⟨rfl, rfl, hlevel⟩), hold.mpr hq.before,
      fun other _ hother hpast => ?_⟩
    rw [hold] at hpast
    obtain hother | ⟨-, rfl, -⟩ := on_splice.mp hother
    · exact List.lt_asymm (hq.greater hother hpast)
    · exact List.lt_irrefl _
  · next hnot =>
    -- A new entry beyond this place is also beyond an old one, to which the place leads already.
    have hbetween (hlevel : level < height) (hbefore : l.Before p key) :
        ∃ id key', l.On level id key' ∧ l.Before p key' ∧ key' < key := by
      have hlt : level < path.length := by
        rw [hlength]
        exact hl.stands_levels hp
      have hget := List.getElem?_eq_getElem hlt
      refine (hl.eq_or_beyond (hpath hget) hp hbefore).resolve_left ?_
      rintro rfl
      exact hnot ⟨hlevel, hget⟩
    cases hnext : l.next p level with
    | none =>
      have hleads := hl.leads_to hp hnext
      intro id key' hon hpast
      rw [hold] at hpast
      obtain hon | ⟨-, rfl, hlevel⟩ := on_splice.mp hon
      · exact hleads id key' hon hpast
      · obtain ⟨_, _, hon, hpast, -⟩ := hbetween hlevel hpast
        exact hleads _ _ hon hpast
    | some id =>
      obtain ⟨key', hon, hpast, hleast⟩ := hl.leads_to hp hnext
      refine ⟨key', on_splice.mpr (.inl hon), hold.mpr hpast, fun other _ hother hgt hlt => ?_⟩
      rw [hold] at hgt
      obtain hother | ⟨-, rfl, hlevel⟩ := on_splice.mp hother
      · exact hleast other _ hother hgt hlt
      · obtain ⟨_, _, hon, hpast, hkey⟩ := hbetween hlevel hgt
        exact hleast _ _ hon hpast (List.lt_trans hkey hlt)

/-- On the levels that are new, the head leads to the new entry. -/
theorem WellFormed.leads_splice_head (hl : l.WellFormed) (hlevels : l.levels ≤ level)
    (hlevel : level < height) :
    (l.splice path height key data).Leads .head level
      ((l.splice path height key data).next .head level) := by
  rw [head_splice, if_neg (by omega), if_pos hlevel]
  refine ⟨key, on_splice.mpr (.inr ⟨rfl, rfl, hlevel⟩), trivial, fun other key' hother _ => ?_⟩
  obtain hon | ⟨-, rfl, -⟩ := on_splice.mp hother
  · have := hl.on_levels hon
    omega
  · exact List.lt_irrefl key'

theorem WellFormed.splice (hl : l.WellFormed) (hlength : path.length = l.levels)
    (hpath : ∀ {k q}, path[k]? = some q → l.LastBefore key k q) (habsent : ∀ id, ¬l.On 0 id key)
    (hheight : 0 < height) (data : α) : (l.splice path height key data).WellFormed where
  height_pos := by
    intro id node hnode
    obtain ⟨_, hsize⟩ | ⟨old, hold, hsize⟩ := node_splice hnode
    · rwa [hsize]
    · rw [hsize]
      exact hl.height_pos hold
  height_le := by
    intro id node hnode
    rw [levels_splice]
    obtain ⟨_, hsize⟩ | ⟨old, hold, hsize⟩ := node_splice hnode
    · omega
    · have := hl.height_le hold
      omega
  unique := by
    intro id other key' hid hother
    obtain hon | ⟨rfl, rfl, -⟩ := on_splice.mp hid
    · obtain hon' | ⟨-, rfl, -⟩ := on_splice.mp hother
      · exact hl.unique hon hon'
      · exact absurd hon (habsent id)
    · obtain hon' | ⟨rfl, -⟩ := on_splice.mp hother
      · exact absurd hon' (habsent other)
      · rfl
  leads := by
    intro p level hp
    cases p with
    | head =>
      replace hp : level < (l.splice path height key data).levels := hp
      rw [levels_splice] at hp
      by_cases hlt : level < l.levels
      · exact hl.leads_splice_old hlength hpath hlt
      · exact hl.leads_splice_head (by omega) (by omega)
    | node id =>
      obtain ⟨key', hon⟩ := on_of_stands hp
      obtain hon | ⟨rfl, -, hlevel⟩ := on_splice.mp hon
      · exact hl.leads_splice_old hlength hpath hon.stands
      · exact hl.leads_splice_new hlength hpath hlevel

end

/-- An addition is refused exactly when the key is there; otherwise the list gains this
one entry. -/
theorem WellFormed.insert?_spec (hl : l.WellFormed) (hheight : 0 < height) (key : Bytes)
    (data : α) :
    match l.insert? height key data with
    | some l' => l'.WellFormed ∧ l'.entries = l.entries ++ [(key, data)] ∧ key ∉ l.entries.map (·.1)
    | none => key ∈ l.entries.map (·.1) := by
  have hspec := hl.descend_spec key
  rw [insert?]
  cases hdescent : l.descend key with
  | found id =>
    rw [hdescent] at hspec
    exact hl.mem_keys_iff.mpr ⟨id, hspec⟩
  | absent path =>
    rw [hdescent] at hspec
    obtain ⟨hlength, hpath, habsent⟩ := hspec
    refine ⟨hl.splice hlength hpath habsent hheight data, entries_splice l path height key data, ?_⟩
    rw [hl.mem_keys_iff]
    exact fun ⟨id, hon⟩ => habsent id hon

end TableTalk.SkipList
