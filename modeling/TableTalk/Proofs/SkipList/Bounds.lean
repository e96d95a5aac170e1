import TableTalk.Proofs.SkipList.Balanced
import TableTalk.Proofs.SkipList.Traversal

/-! The calls with every index checked. Where a call reads or writes the head, a tower, the arena or
a path, its checked form gives up if the index is out of range; it also gives up on a walk that
takes more steps than there are entries. On a well formed list no checked form gives up, and each
comes to what the call comes to. -/
namespace TableTalk.SkipList
variable {α : Type} {l : SkipList α} {p : Place} {level id height : Nat} {key : Bytes} {data : α}

namespace Checked

def next (l : SkipList α) (p : Place) (level : Nat) : Option (Option Nat) :=
  match p with
  | .head => l.head[level]?
  | .node id => (l.nodes[id]?).bind (·.tower[level]?)

def link (l : SkipList α) (p : Place) (level id : Nat) : Option (SkipList α) :=
  (next l p level).map fun _ => l.link p level id

def walk (l : SkipList α) (key : Bytes) (level : Nat) : (fuel : Nat) → Place → Option Stop
  | 0, _ => none
  | fuel + 1, p =>
    match next l p level with
    | none => none
    | some none => some (.before p)
    | some (some id) =>
      match l.nodes[id]? with
      | none => none
      | some node =>
        match compare node.key key with
        | .lt => walk l key level fuel (.node id)
        | .eq => some (.found id)
        | .gt => some (.before p)

/-- The path has a slot for every level from the start, to be filled from above. -/
def descendFrom (l : SkipList α) (key : Bytes) :
    (level : Nat) → Place → (path : Array Place) → Option Descent
  | 0, _, path => some (.absent path.toList)
  | level + 1, p, path =>
    match walk l key level (l.size + 1) p with
    | none => none
    | some (.found id) => some (.found id)
    | some (.before q) =>
      if level < path.size then descendFrom l key level q (path.setIfInBounds level q) else none

def descend (l : SkipList α) (key : Bytes) : Option Descent :=
  descendFrom l key l.levels .head (Array.replicate l.levels .head)

/-- The entry that a search has found, if it has found one. -/
def find (l : SkipList α) (key : Bytes) : Option (Option (Bytes × α)) :=
  match descend l key with
  | none => none
  | some (.absent _) => some none
  | some (.found id) => (l.nodes[id]?).map fun node => some (node.key, node.data)

def modify (l : SkipList α) (key : Bytes) (f : α → α) : Option (SkipList α) :=
  match descend l key with
  | none => none
  | some (.absent _) => some l
  | some (.found id) => (l.nodes[id]?).map fun node =>
    { l with nodes := l.nodes.setIfInBounds id { node with data := f node.data } }

/-- One level of an insertion: the new entry takes over a link of the path, or the head gains
a level. -/
def spliceLevel (path : List Place) (levels id : Nat) (s : SkipList α × List (Option Nat))
    (level : Nat) :
    Option (SkipList α × List (Option Nat)) :=
  if level < levels then
    match path[level]? with
    | none => none
    | some p =>
      match next s.1 p level, link s.1 p level id with
      | some taken, some linked => some (linked, s.2 ++ [taken])
      | _, _ => none
  else some ({ s.1 with head := s.1.head.push (some id) }, s.2 ++ [none])

/-- Level by level; links of the lower levels have changed when a higher one is read. -/
def splice (l : SkipList α) (path : List Place) (height : Nat) (key : Bytes) (data : α) :
    Option (SkipList α) :=
  ((List.range height).foldlM (spliceLevel path l.levels l.size) (l, [])).map fun s =>
    { s.1 with nodes := s.1.nodes.push ⟨key, data, s.2.toArray⟩ }

def insert (l : SkipList α) (height : Nat) (key : Bytes) (data : α) :
    Option (Option (SkipList α)) :=
  match descend l key with
  | none => none
  | some (.found _) => some none
  | some (.absent path) => (splice l path height key data).map some

/-- The entries along a level, to its end. -/
def follow (l : SkipList α) (level : Nat) : (fuel : Nat) → Place → Option (List Nat)
  | 0, _ => none
  | fuel + 1, p =>
    match next l p level with
    | none => none
    | some none => some []
    | some (some id) => (follow l level fuel (.node id)).map (id :: ·)

/-- One level of an entry that is built in order: the last place leads to it and gives way to it. -/
def appendLevel (id : Nat) (s : SkipList α × Array Place) (level : Nat) :
    Option (SkipList α × Array Place) :=
  match s.2[level]? with
  | none => none
  | some p => (link s.1 p level id).map fun linked => (linked, s.2.setIfInBounds level (.node id))

/-- As many towers are laid out as keys are expected. -/
def append (b : Builder α) (key : Bytes) (data : α) : Option (Builder α) :=
  if b.size < b.expected then
    let height := heightAt b.size b.list.levels
    ((List.range height).foldlM (appendLevel b.size) (b.list, b.tails)).map fun s =>
      { b with
        list := { s.1 with nodes := s.1.nodes.push ⟨key, data, Array.replicate height none⟩ }
        tails := s.2 }
  else none

end Checked

theorem getElem?_eq_some_join {tower : Array (Option Nat)} (h : level < tower.size) :
    tower[level]? = some (tower[level]?).join := by
  rw [Array.getElem?_eq_getElem h, Option.join_some]

theorem checked_next (h : l.Stands p level) : Checked.next l p level = some (l.next p level) := by
  cases p with
  | head => exact getElem?_eq_some_join h
  | node id =>
    obtain ⟨key, node, hnode, -, hlt⟩ := on_of_stands h
    simp only [Checked.next, next, tower, hnode, Option.bind_some, Option.elim_some]
    exact getElem?_eq_some_join hlt

theorem checked_link (h : l.Stands p level) (id : Nat) :
    Checked.link l p level id = some (l.link p level id) := by
  rw [Checked.link, checked_next h]
  rfl

/-- A walk ends, and stands on its level wherever it goes. -/
theorem WellFormed.checked_walk (hl : l.WellFormed) {fuel : Nat} (hp : l.Stands p level)
    (hfuel : l.ahead p ≤ fuel) :
    Checked.walk l key level (fuel + 1) p = some (l.walk key level fuel p) := by
  induction fuel generalizing p with
  | zero =>
    rw [Checked.walk, checked_next hp]
    cases hnext : l.next p level with
    | none => rfl
    | some id =>
      obtain ⟨_, hon, hpast, -⟩ := hl.leads_to hp hnext
      have := hon.ahead_lt hpast
      omega
  | succ fuel ih =>
    rw [Checked.walk, checked_next hp, walk]
    cases hnext : l.next p level with
    | none => rfl
    | some id =>
      obtain ⟨key', hon, hpast, -⟩ := hl.leads_to hp hnext
      have hless := hon.ahead_lt hpast
      have hstands := hon.stands
      obtain ⟨node, hnode, -⟩ := hon
      simp only [hnode]
      cases compare node.key key with
      | lt => exact ih hstands (by omega)
      | eq => rfl
      | gt => rfl

theorem drop_set (xs : List Place) (h : level < xs.length) (q : Place) :
    (xs.set level q).drop level = q :: xs.drop (level + 1) := by
  rw [List.drop_eq_getElem_cons (by simpa using h), List.getElem_set_self,
    List.drop_set_of_lt (Nat.lt_succ_self level)]

/-- The path is filled from the highest level down; what is filled already is the path so far. -/
theorem WellFormed.checked_descendFrom (hl : l.WellFormed) (path : Array Place)
    (hp : ∀ lower < level, l.Stands p lower) (hbefore : l.Before p key)
    (hpath : level ≤ path.size) :
    Checked.descendFrom l key level p path =
      some (l.descendFrom key level p (path.toList.drop level)) := by
  induction level generalizing p path with
  | zero => rfl
  | succ level ih =>
    have hstands := hp level (Nat.lt_succ_self level)
    have hwalk := hl.walk_spec hstands hbefore ahead_le_size
    rw [Checked.descendFrom, hl.checked_walk hstands ahead_le_size, descendFrom]
    cases hstop : l.walk key level l.size p with
    | found id => rfl
    | before q =>
      rw [hstop] at hwalk
      have hlower (lower : Nat) (hlt : lower < level) : l.Stands q lower :=
        hwalk.stands.lower (Nat.le_of_lt hlt)
      simp only [if_pos (show level < path.size from hpath)]
      rw [ih _ hlower hwalk.before (by simpa using Nat.le_of_lt hpath), Array.toList_setIfInBounds,
        drop_set _ (Nat.lt_of_lt_of_eq hpath Array.length_toList.symm)]

theorem WellFormed.checked_descend (hl : l.WellFormed) (key : Bytes) :
    Checked.descend l key = some (l.descend key) := by
  have hfrom : Checked.descendFrom l key l.levels .head (Array.replicate l.levels .head) =
      some (l.descendFrom key l.levels .head
        ((Array.replicate l.levels .head).toList.drop l.levels)) :=
    hl.checked_descendFrom _ (fun _ h => h) trivial (Nat.le_of_eq Array.size_replicate.symm)
  rw [Array.toList_replicate, List.drop_replicate, Nat.sub_self, List.replicate_zero] at hfrom
  exact hfrom

theorem WellFormed.node_of_found (hl : l.WellFormed) (h : l.descend key = .found id) :
    ∃ node, l.nodes[id]? = some node := by
  have hspec := hl.descend_spec key
  rw [h] at hspec
  obtain ⟨node, hnode, -⟩ := hspec
  exact ⟨node, hnode⟩

theorem WellFormed.checked_find (hl : l.WellFormed) (key : Bytes) :
    Checked.find l key = some (l.find? key) := by
  rw [Checked.find, hl.checked_descend, find?, findId?]
  cases hdescent : l.descend key with
  | absent path => rfl
  | found id =>
    obtain ⟨node, hnode⟩ := hl.node_of_found hdescent
    simp only [hnode, Option.map_some, Option.bind_some]

theorem setIfInBounds_eq_modify {β : Type} {xs : Array β} {i : Nat} {x : β} (h : xs[i]? = some x)
    (f : β → β) :
    xs.setIfInBounds i (f x) = xs.modify i f := by
  apply Array.ext_getElem?
  intro j
  rw [Array.getElem?_setIfInBounds, Array.getElem?_modify]
  by_cases hij : i = j
  · subst hij
    obtain ⟨hlt, -⟩ := Array.getElem?_eq_some_iff.mp h
    rw [if_pos rfl, if_pos rfl, if_pos hlt, h, Option.map_some]
  · rw [if_neg hij, if_neg hij]

theorem WellFormed.checked_modify (hl : l.WellFormed) (key : Bytes) (f : α → α) :
    Checked.modify l key f = some (l.modify key f) := by
  rw [Checked.modify, hl.checked_descend, SkipList.modify, findId?]
  cases hdescent : l.descend key with
  | absent path => rfl
  | found id =>
    obtain ⟨node, hnode⟩ := hl.node_of_found hdescent
    simp only [hnode, Option.map_some]
    rw [setIfInBounds_eq_modify hnode fun node => { node with data := f node.data }]

section
variable {path : List Place}

/-- Linking the lower part of a path leaves the links of a level above it alone. -/
theorem next_linkAll_above (l : SkipList α) (path : List Place) (p : Place) (level id : Nat) :
    (l.linkAll (path.take level).zipIdx id).next p level = l.next p level := by
  rw [next_linkAll, if_neg]
  rintro ⟨hmem, -⟩
  rw [List.mk_mem_zipIdx_iff_getElem?, List.getElem?_take, if_neg (Nat.lt_irrefl level)] at hmem
  cases hmem

/-- The rounds of an insertion up to some height. -/
theorem checked_splice_rounds (hlength : path.length = l.levels)
    (hpath : ∀ {k q}, path[k]? = some q → l.Stands q k) (height : Nat) :
    (List.range height).foldlM (Checked.spliceLevel path l.levels l.size) (l, []) =
      some ({ (l.linkAll (path.take height).zipIdx l.size) with
          head := (l.linkAll (path.take height).zipIdx l.size).head ++
            Array.replicate (height - l.levels) (some l.size) },
        (List.range height).map fun level => (path[level]?).bind (l.next · level)) := by
  induction height with
  | zero => simp [linkAll]
  | succ height ih =>
    rw [List.range_succ, List.foldlM_append, ih, List.map_append]
    simp only [List.foldlM_cons, List.foldlM_nil, Option.bind_eq_bind, Option.bind_some,
      Checked.spliceLevel]
    by_cases hlt : height < l.levels
    · have hq := List.getElem?_eq_getElem (Nat.lt_of_lt_of_eq hlt hlength.symm)
      have hstands := (l.linkAll_sameShape (path.take height).zipIdx l.size).stands (hpath hq)
      simp only [if_pos hlt, hq, Nat.sub_eq_zero_of_le (Nat.le_of_lt hlt),
        Nat.sub_eq_zero_of_le hlt, Array.replicate_zero, Array.append_empty, checked_next hstands,
        checked_link hstands, next_linkAll_above, linkAll_take_succ hq, List.map_cons,
        List.map_nil, Option.bind_some, Option.pure_def]
    · have htake : path.take (height + 1) = path.take height := by
        rw [List.take_of_length_le (by omega), List.take_of_length_le (by omega)]
      simp only [if_neg hlt, htake, List.getElem?_eq_none (show path.length ≤ height by omega),
        List.map_cons, List.map_nil, Option.bind_some, Option.bind_none, Option.pure_def]
      rw [Nat.succ_sub (by omega), Array.replicate_succ, Array.append_push]

theorem checked_splice (hlength : path.length = l.levels)
    (hpath : ∀ {k q}, path[k]? = some q → l.Stands q k) (height : Nat) (key : Bytes) (data : α) :
    Checked.splice l path height key data = some (l.splice path height key data) := by
  rw [Checked.splice, checked_splice_rounds hlength hpath]
  rfl

end

theorem WellFormed.checked_insert (hl : l.WellFormed) (height : Nat) (key : Bytes) (data : α) :
    Checked.insert l height key data = some (l.insert? height key data) := by
  have hspec := hl.descend_spec key
  rw [Checked.insert, hl.checked_descend, insert?]
  cases hdescent : l.descend key with
  | found id => rfl
  | absent path =>
    rw [hdescent] at hspec
    obtain ⟨hlength, hpath, -⟩ := hspec
    have hsplice := checked_splice hlength (fun hq => (hpath hq).stands) height key data
    simp only [hsplice, Option.map_some]

/-- The chain from a place is finite: its end is reached after as many links as there are
entries beyond. -/
theorem WellFormed.checked_follow (hl : l.WellFormed) {fuel : Nat} (hp : l.Stands p level)
    (hfuel : l.ahead p ≤ fuel) :
    Checked.follow l level (fuel + 1) p = some (l.trail level fuel p) := by
  induction fuel generalizing p with
  | zero =>
    rw [Checked.follow, checked_next hp]
    cases hnext : l.next p level with
    | none => rfl
    | some id =>
      obtain ⟨_, hon, hpast, -⟩ := hl.leads_to hp hnext
      have := hon.ahead_lt hpast
      omega
  | succ fuel ih =>
    rw [Checked.follow, checked_next hp, trail]
    cases hnext : l.next p level with
    | none => rfl
    | some id =>
      obtain ⟨_, hon, hpast, -⟩ := hl.leads_to hp hnext
      have hless := hon.ahead_lt hpast
      simp only [ih hon.stands (by omega), Option.map_some]

namespace Builder
variable {b : Builder α}

/-- The last places once an entry stands on the lowest levels. -/
def tailsUpTo (tails : Array Place) (height id : Nat) : Array Place :=
  tails.mapIdx fun level p => if level < height then .node id else p

theorem getElem?_tailsUpTo (tails : Array Place) (height id level : Nat) :
    (tailsUpTo tails height id)[level]? =
      (tails[level]?).map fun p => if level < height then .node id else p := by
  rw [tailsUpTo, Array.getElem?_mapIdx]

theorem tailsUpTo_zero (tails : Array Place) (id : Nat) : tailsUpTo tails 0 id = tails := by
  apply Array.ext_getElem?
  intro level
  simp only [getElem?_tailsUpTo, if_neg (Nat.not_lt_zero level), Option.map_id']

theorem tailsUpTo_succ {tails : Array Place} (h : height < tails.size) (id : Nat) :
    (tailsUpTo tails height id).setIfInBounds height (.node id) =
      tailsUpTo tails (height + 1) id := by
  apply Array.ext_getElem?
  intro level
  rw [Array.getElem?_setIfInBounds, getElem?_tailsUpTo, getElem?_tailsUpTo]
  by_cases hlevel : height = level
  · subst hlevel
    rw [if_pos rfl, if_pos (by simpa [tailsUpTo] using h), Array.getElem?_eq_getElem h,
      Option.map_some, if_pos (Nat.lt_succ_self height)]
  · have hiff : level < height ↔ level < height + 1 := by omega
    simp only [if_neg hlevel, hiff]

/-- The rounds of an addition up to some height. -/
theorem Sound.checked_append_rounds (hb : b.Sound) (hheight : height ≤ b.list.levels) :
    (List.range height).foldlM (Checked.appendLevel b.size) (b.list, b.tails) =
      some (b.list.linkAll (b.tails.toList.take height).zipIdx b.size,
        tailsUpTo b.tails height b.size) := by
  induction height with
  | zero => simp [linkAll, tailsUpTo_zero]
  | succ height ih =>
    have hlt : height < b.tails.size := Nat.lt_of_lt_of_eq hheight hb.size_tails.symm
    have htail := Array.getElem?_eq_getElem hlt
    have hstands := (b.list.linkAll_sameShape (b.tails.toList.take height).zipIdx b.size).stands
      (hb.last htail).stands
    rw [List.range_succ, List.foldlM_append, ih (Nat.le_of_lt hheight)]
    simp only [List.foldlM_cons, List.foldlM_nil, Option.bind_eq_bind, Option.bind_some,
      Option.pure_def, Checked.appendLevel, getElem?_tailsUpTo, htail, Option.map_some,
      if_neg (Nat.lt_irrefl height), checked_link hstands, tailsUpTo_succ hlt]
    rw [linkAll_take_succ (by rw [Array.getElem?_toList, htail])]

/-- While keys are expected, an addition stays within the tails and the towers laid out for them. -/
theorem Sound.checked_append (hb : b.Sound) (hroom : b.size < b.expected) (key : Bytes) (data : α) :
    Checked.append b key data = some (b.append key data) := by
  have hle : heightAt b.size b.list.levels ≤ b.tails.size := by
    rw [hb.size_tails]
    exact heightAt_le
  simp only [Checked.append, if_pos hroom, hb.checked_append_rounds heightAt_le, Option.map_some]
  rw [Builder.append, ← link_tails b.list b.tails b.size hle]
  rfl

end Builder

end TableTalk.SkipList
