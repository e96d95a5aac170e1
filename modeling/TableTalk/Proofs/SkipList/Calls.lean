import TableTalk.Proofs.SkipList.Layout

/-! Reading a list and taking it apart, call by call. The entries ahead are known from the chain of
the lowest level: each call takes the first of them, and once there are none the calls go on
finding nothing. -/
namespace TableTalk.SkipList

section
variable {σ β : Type}

/-- What so many calls find, one after the other, and the state they leave. A call that finds
nothing leaves the state as it was. -/
def calls (next? : σ → Option (β × σ)) : Nat → σ → List (Option β) × σ
  | 0, s => ([], s)
  | n + 1, s =>
    match next? s with
    | none => (none :: (calls next? n s).1, (calls next? n s).2)
    | some (b, s) => (some b :: (calls next? n s).1, (calls next? n s).2)

variable {next? : σ → Option (β × σ)} {n : Nat} {s s' : σ} {b : β}

theorem calls_of_none (h : next? s = none) : calls next? n s = (List.replicate n none, s) := by
  induction n with
  | zero => rfl
  | succ n ih =>
    rw [calls, h]
    simp only [ih, List.replicate_succ]

theorem calls_of_some (h : next? s = some (b, s')) :
    calls next? (n + 1) s = (some b :: (calls next? n s').1, (calls next? n s').2) := by
  rw [calls, h]

end

variable {α : Type} {l : SkipList α} {p : Place} {fuel n : Nat} {upcoming : Option Nat}
  {ids : List Nat}
  {es : List (Bytes × α)} {origin : Origin}

/-- The entries ahead of a reader, and where in the arena they are. -/
inductive Remaining (l : SkipList α) : Option Nat → List Nat → List (Bytes × α) → Prop
  | nil : Remaining l none [] []
  | cons {id : Nat} {node : Node α} {next : Option Nat} {ids : List Nat} {es : List (Bytes × α)} :
      l.nodes[id]? = some node → node.tower[0]? = some next → Remaining l next ids es →
      Remaining l (some id) (id :: ids) ((node.key, node.data) :: es)

theorem remaining_of_follow (hnext : Checked.next l p 0 = some upcoming)
    (hfollow : Checked.follow l 0 fuel p = some ids) :
    Remaining l upcoming ids (ids.filterMap (l.entries[·]?)) := by
  induction fuel generalizing p upcoming ids with
  | zero => cases hfollow
  | succ fuel ih =>
    rw [Checked.follow, hnext] at hfollow
    cases upcoming with
    | none =>
      cases hfollow
      exact .nil
    | some id =>
      obtain ⟨rest, hrest, rfl⟩ := Option.map_eq_some_iff.mp hfollow
      cases fuel with
      | zero => cases hrest
      | succ fuel =>
        cases hlink : Checked.next l (.node id) 0 with
        | none =>
          rw [Checked.follow, hlink] at hrest
          cases hrest
        | some next =>
          obtain ⟨node, hnode, htower⟩ := Option.bind_eq_some_iff.mp hlink
          have hentry : l.entries[id]? = some (node.key, node.data) := by
            rw [getElem?_entries, hnode]
            rfl
          rw [List.filterMap_cons, hentry]
          exact .cons hnode htower (ih hlink hrest)

theorem WellFormed.remaining (hl : l.WellFormed) :
    Remaining l (l.next .head 0) (l.trail 0 l.size .head) l.toList := by
  rw [toList_eq]
  by_cases hhead : l.Stands .head 0
  · exact remaining_of_follow (checked_next hhead) (hl.chain hhead).follow
  · rw [next_of_not_stands hhead, trail_of_none (next_of_not_stands hhead)]
    exact .nil

theorem WellFormed.length_toList (hl : l.WellFormed) : l.toList.length = l.size := by
  rw [hl.toList_perm.length_eq, size_eq_length]

/-- The next call of a reader stays in range and has an entry left to count off. -/
def Reader.Safe (l : SkipList α) (r : Reader) : Prop :=
  ∀ id, r.upcoming = some id → (∃ node, l.nodes[id]? = some node ∧ 0 < node.tower.size) ∧ 0 < r.left

theorem Remaining.reader_safe (h : Remaining l upcoming ids es) :
    Reader.Safe l ⟨upcoming, es.length⟩ := by
  rintro id (rfl : upcoming = some id)
  cases h with
  | @cons _ node _ _ _ hnode htower _ =>
    exact ⟨⟨node, hnode, (Array.getElem?_eq_some_iff.mp htower).1⟩, Nat.succ_pos _⟩

/-- A reader counts off one entry a call. -/
theorem Remaining.read (h : Remaining l upcoming ids es) (n : Nat) :
    ∃ upcoming' ids', Remaining l upcoming' ids' (es.drop n) ∧
      calls (Reader.next? · l) n ⟨upcoming, es.length⟩ =
        ((List.range n).map (es[·]?), ⟨upcoming', (es.drop n).length⟩) := by
  induction n generalizing upcoming ids es with
  | zero => exact ⟨upcoming, ids, h, rfl⟩
  | succ n ih =>
    cases h with
    | nil =>
      refine ⟨none, [], .nil, ?_⟩
      rw [calls_of_none rfl]
      simp
    | @cons id node next ids es hnode htower hrest =>
      have hcall : Reader.next? ⟨some id, es.length + 1⟩ l =
          some ((node.key, node.data), ⟨next, es.length⟩) := by
        simp [Reader.next?, hnode, htower]
      obtain ⟨upcoming', ids', hremaining, hcalls⟩ := ih hrest
      refine ⟨upcoming', ids', hremaining, ?_⟩
      rw [List.length_cons, calls_of_some hcall, hcalls, List.range_succ_eq_map, List.map_cons,
        List.map_map]
      rfl

/-- The next call on a list that is being taken apart finds a slot, and the slot is full. -/
def Drain.Safe (d : Drain α) : Prop :=
  ∀ id, d.upcoming = some id → ∃ content, d.slots[id]? = some (some content)

theorem slots_drain {id : Nat} {node : Node α} {next : Option Nat}
    (hnode : l.nodes[id]? = some node) (htower : node.tower[0]? = some next) :
    l.drain.slots[id]? = some (some (node.key, node.data, next)) := by
  simp [drain, hnode, htower]

theorem Remaining.drain_safe (h : Remaining l upcoming ids es) {d : Drain α}
    (hupcoming : d.upcoming = upcoming)
    (hslots : ∀ id ∈ ids, d.slots[id]? = l.drain.slots[id]?) : d.Safe := by
  intro id hid
  rw [hupcoming] at hid
  subst hid
  cases h with
  | cons hnode htower _ => exact ⟨_, (hslots _ List.mem_cons_self).trans (slots_drain hnode htower)⟩

/-- Taking an entry out empties its slot, which does not come up again. -/
theorem Remaining.takeOut (h : Remaining l upcoming ids es) (hnodup : ids.Nodup) {d : Drain α}
    (hupcoming : d.upcoming = upcoming)
    (hslots : ∀ id ∈ ids, d.slots[id]? = l.drain.slots[id]?) (n : Nat) :
    (calls Drain.next? n d).1 = (List.range n).map (es[·]?) ∧ (calls Drain.next? n d).2.Safe := by
  induction n generalizing d upcoming ids es with
  | zero => exact ⟨rfl, h.drain_safe hupcoming hslots⟩
  | succ n ih =>
    cases h with
    | nil =>
      have hcall : d.next? = none := by rw [Drain.next?, hupcoming]
      rw [calls_of_none hcall]
      exact ⟨by simp, Remaining.nil.drain_safe hupcoming hslots⟩
    | @cons id node next ids es hnode htower hrest =>
      obtain ⟨hfresh, hnodup⟩ := List.nodup_cons.mp hnodup
      have hslot := (hslots id List.mem_cons_self).trans (slots_drain hnode htower)
      have hcall :
          d.next? = some ((node.key, node.data), ⟨d.slots.setIfInBounds id none, next⟩) := by
        simp [Drain.next?, hupcoming, hslot]
      have hothers (other : Nat) (hmem : other ∈ ids) :
          (d.slots.setIfInBounds id none)[other]? = l.drain.slots[other]? := by
        rw [Array.getElem?_setIfInBounds_ne, hslots other (List.mem_cons_of_mem id hmem)]
        rintro rfl
        exact hfresh hmem
      obtain ⟨hseen, hsafe⟩ :=
        ih hrest hnodup (d := ⟨d.slots.setIfInBounds id none, next⟩) rfl hothers
      rw [calls_of_some hcall, hseen, List.range_succ_eq_map, List.map_cons, List.map_map]
      exact ⟨rfl, hsafe⟩

theorem WellFormed.trail_lowest_nodup (hl : l.WellFormed) : (l.trail 0 l.size .head).Nodup :=
  hl.trail_perm.nodup_iff.mpr List.nodup_range

/-- All ways through a list come by the same entries: each that is stored, once, in ascending order.
A reader says at any time how many are left, and goes on finding nothing at the end; who takes the
list apart comes to no empty slot before that, and has been given the first so many entries wherever
the calls stop. -/
structure Traversed (l : SkipList α) : Prop where
  perm : l.toList.Perm l.entries
  ascending : l.toList.Pairwise (·.1 < ·.1)
  length : l.toList.length = l.size
  apply : ∀ {β : Type} (f : β → Bytes → α → β) (init : β),
    l.foldl f init = l.toList.foldl (fun b e => f b e.1 e.2) init
  intoList : l.intoList = l.toList
  destroy : ∀ {β : Type} (f : β → Bytes → α → β) (init : β),
    l.intoList.foldl (fun b e => f b e.1 e.2) init = l.toList.foldl (fun b e => f b e.1 e.2) init
  intoKeys : l.intoKeys = l.toList.map (·.1)
  read : ∀ n, (calls (Reader.next? · l) n l.reader).1 = (List.range n).map (l.toList[·]?)
  left : ∀ n, (calls (Reader.next? · l) n l.reader).2.left + (l.toList.take n).length = l.size
  reader_safe : ∀ n, Reader.Safe l (calls (Reader.next? · l) n l.reader).2
  takeOut : ∀ n, (calls Drain.next? n l.drain).1 = (List.range n).map (l.toList[·]?)
  drain_safe : ∀ n, (calls Drain.next? n l.drain).2.Safe
  stopped : ∀ n, Drain.take n l.drain = l.toList.take n
  /-- Each entry has the link that its slot is filled with. -/
  linked : ∀ {id : Nat} {node : Node α}, l.nodes[id]? = some node → 0 < node.tower.size

theorem WellFormed.read (hl : l.WellFormed) (n : Nat) :
    ∃ upcoming ids, Remaining l upcoming ids (l.toList.drop n) ∧
      calls (Reader.next? · l) n l.reader =
        ((List.range n).map (l.toList[·]?), ⟨upcoming, (l.toList.drop n).length⟩) := by
  rw [reader, ← hl.length_toList]
  exact hl.remaining.read n

theorem WellFormed.takeOut (hl : l.WellFormed) (n : Nat) :
    (calls Drain.next? n l.drain).1 = (List.range n).map (l.toList[·]?) ∧
      (calls Drain.next? n l.drain).2.Safe :=
  hl.remaining.takeOut hl.trail_lowest_nodup rfl (fun _ _ => rfl) n

theorem traversed_of_reachable (h : l.Reachable origin) : l.Traversed := by
  have hl := h.grown.wellFormed
  exact
    { perm := hl.toList_perm
      ascending := hl.toList_ascending
      length := hl.length_toList
      apply := fun _ _ => rfl
      intoList := hl.intoList_eq
      destroy := fun f init => congrArg (List.foldl (fun b e => f b e.1 e.2) init) hl.intoList_eq
      intoKeys := by rw [SkipList.intoKeys, hl.intoList_eq]
      read := fun n => by
        obtain ⟨_, _, -, hcalls⟩ := hl.read n
        rw [hcalls]
      left := fun n => by
        obtain ⟨_, _, -, hcalls⟩ := hl.read n
        rw [hcalls, ← hl.length_toList, Nat.add_comm, ← List.length_append, List.take_append_drop]
      reader_safe := fun n => by
        obtain ⟨_, _, hremaining, hcalls⟩ := hl.read n
        rw [hcalls]
        exact hremaining.reader_safe
      takeOut := fun n => (hl.takeOut n).1
      drain_safe := fun n => (hl.takeOut n).2
      stopped := hl.drain_take
      linked := hl.height_pos }

/-- Two keys, the greater one first. -/
theorem traversed_of_reachable_two :
    let l : SkipList Nat :=
      { head := #[some 1, some 0], nodes := #[⟨[98], 5, #[none, none]⟩, ⟨[97], 7, #[some 0]⟩] }
    l.Reachable .empty ∧ l.Traversed := by
  intro l
  let first : SkipList Nat := { head := #[some 0, some 0], nodes := #[⟨[98], 5, #[none, none]⟩] }
  have hfirst : ({} : SkipList Nat).insert? 2 [98] 5 = some first := by decide
  have hsecond : first.insert? 1 [97] 7 = some l := by decide
  have hl : l.Reachable .empty :=
    (Reachable.empty.insert (by decide) hfirst).insert (by decide) hsecond
  exact ⟨hl, traversed_of_reachable hl⟩

end TableTalk.SkipList
