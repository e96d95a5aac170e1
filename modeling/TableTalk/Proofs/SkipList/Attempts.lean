import TableTalk.Proofs.SkipList.Layout
import TableTalk.Proofs.SkipTable

/-! Additions to a builder write by write. A breach can be caught and the builder used on, so
whatever had been written before it would stay; nothing has been. The entries that are taken in
climb: each is greater than the last one before it. -/
namespace TableTalk.SkipList
variable {α : Type} {es : List (Bytes × α)} {key : Bytes} {data : α} {n id : Nat}

/-- From left to right, the entries whose key is greater than that of the last one kept. -/
def climb (last : Option Bytes) : List (Bytes × α) → List (Bytes × α)
  | [] => []
  | e :: es => if ∀ key ∈ last, key < e.1 then e :: climb (some e.1) es else climb last es

def lastKey? (es : List (Bytes × α)) : Option Bytes := es.getLast?.map (·.1)

theorem lastKey?_append_singleton (es : List (Bytes × α)) (e : Bytes × α) :
    lastKey? (es ++ [e]) = some e.1 := by
  rw [lastKey?, List.getLast?_append, List.getLast?_singleton]
  rfl

namespace Builder
variable {b : Builder α}

theorem back?_any_iff (b : Builder α) (key : Bytes) :
    b.list.nodes.back?.any (fun last => compare last.key key ≠ .lt) ↔
      ¬∀ last ∈ lastKey? b.list.entries, last < key := by
  rw [lastKey?, entries, List.getLast?_map, ← Array.getLast?_toList]
  cases b.list.nodes.toList.getLast? with
  | none => simp
  | some last => simp [← Std.compare_eq_lt]

theorem Sound.lt_of_lastKey (hb : b.Sound) (h : ∀ last ∈ lastKey? b.list.entries, last < key) :
    ∀ e ∈ b.list.entries, e.1 < key :=
  hb.lt_of_back fun hback => (b.back?_any_iff key).mp hback h

/-- Whether an addition is accepted depends on how many entries there are, and on the last one. -/
theorem Sound.add_eq (hb : b.Sound) (key : Bytes) (data : α) :
    b.add key data =
      if b.size = b.expected then .error (.keyAfterLast b.expected)
      else if ∀ last ∈ lastKey? b.list.entries, last < key then
        .ok (b.size + 1 = b.expected, b.append key data)
      else .error .keyOutOfOrder := by
  have hexpected : (b.append key data).expected = b.expected := rfl
  simp only [add, isComplete, hb.size_append, hexpected, back?_any_iff, decide_eq_true_eq, ite_not]

end Builder

/-- A builder as it lies in storage: beside it the towers that were laid out for the entries
expected, of which each entry takes its own away. -/
structure Bench (α : Type) where
  builder : Builder α
  towers : Array (Array (Option Nat))
  deriving DecidableEq, Repr

namespace Bench

/-- The towers of all entries expected are laid out. -/
def begin (b : Builder α) : Bench α :=
  ⟨b, (Array.range b.expected).map fun position =>
    Array.replicate (heightAt position b.list.levels) none⟩

def slot {β : Type} (xs : Array β) (i : Nat) : EStateM Breach (Bench α) β :=
  match xs[i]? with
  | some x => pure x
  | none => throw (.indexOutOfBounds xs.size i)

def takeTower (id : Nat) : EStateM Breach (Bench α) (Array (Option Nat)) := do
  let s ← get
  let tower ← slot s.towers id
  set { s with towers := s.towers.setIfInBounds id #[] }
  return tower

/-- The link of a place that is to be written must be there. -/
def seek (l : SkipList α) (level : Nat) : Place → EStateM Breach (Bench α) (Option Nat)
  | .head => slot l.head level
  | .node id => do
    let node ← slot l.nodes id
    slot node.tower level

def setList (s : Bench α) (list : SkipList α) : Bench α :=
  { s with builder := { s.builder with list } }

def setTails (s : Bench α) (tails : Array Place) : Bench α :=
  { s with builder := { s.builder with tails } }

/-- On one level the last place is led to an entry, and gives way to it. -/
def linkLevel (id level : Nat) : EStateM Breach (Bench α) Unit := do
  let s ← get
  let p ← slot s.builder.tails level
  let _ ← seek s.builder.list level p
  set (s.setList (s.builder.list.link p level id))
  let s ← get
  set (s.setTails (s.builder.tails.setIfInBounds level (.node id)))

def push (node : Node α) : EStateM Breach (Bench α) Unit := do
  let s ← get
  set (s.setList { s.builder.list with nodes := s.builder.list.nodes.push node })

/-- An addition with all its writes in their order. -/
def add (key : Bytes) (data : α) : EStateM Breach (Bench α) Bool := do
  let s ← get
  if s.builder.isComplete then
    throw (.keyAfterLast s.builder.expected)
  else if s.builder.list.nodes.back?.any fun last => compare last.key key ≠ .lt then
    throw .keyOutOfOrder
  else do
    let tower ← takeTower s.builder.size
    forM (List.range tower.size) (linkLevel s.builder.size)
    push ⟨key, data, tower⟩
    return (← get).builder.isComplete

/-- The bench after some attempts, each breach being caught. -/
def after (s : Bench α) (es : List (Bytes × α)) : Bench α :=
  es.foldl (fun s e =>
    match (add e.1 e.2).run s with
    | .ok _ s => s
    | .error _ s => s) s

variable {s s' : Bench α} {b : Builder α}

theorem run_slot {β : Type} {xs : Array β} {i : Nat} {x : β} (h : xs[i]? = some x) :
    (slot xs i).run s = .ok x s := by
  rw [slot, h]
  rfl

theorem run_takeTower {tower : Array (Option Nat)} (h : s.towers[id]? = some tower) :
    (takeTower id).run s = .ok tower { s with towers := s.towers.setIfInBounds id #[] } := by
  simp only [takeTower, EStateM.run_bind, EStateM.run_get, run_slot h, EStateM.run_set,
    EStateM.run_pure]

theorem run_seek {l : SkipList α} {p : Place} {level : Nat} {link : Option Nat}
    (h : Checked.next l p level = some link) : (seek l level p).run s = .ok link s := by
  cases p with
  | head => exact run_slot h
  | node id =>
    obtain ⟨node, hnode, hlink⟩ := Option.bind_eq_some_iff.mp h
    simp only [seek, EStateM.run_bind, run_slot hnode, run_slot hlink]

theorem run_linkLevel {level : Nat} {list : SkipList α} {tails : Array Place}
    (h : Checked.appendLevel id (s.builder.list, s.builder.tails) level = some (list, tails)) :
    (linkLevel id level).run s = .ok () ((s.setList list).setTails tails) := by
  rw [Checked.appendLevel] at h
  cases htail : s.builder.tails[level]? with
  | none =>
    simp only [htail] at h
    cases h
  | some p =>
    simp only [htail, Checked.link, Option.map_map] at h
    obtain ⟨link, hlink, heq⟩ := Option.map_eq_some_iff.mp h
    cases heq
    simp only [linkLevel, EStateM.run_bind, EStateM.run_get, run_slot htail, run_seek hlink,
      EStateM.run_set]
    rfl

theorem run_linkLevels {levels : List Nat} {list : SkipList α} {tails : Array Place}
    (h : levels.foldlM (Checked.appendLevel id) (s.builder.list, s.builder.tails) =
      some (list, tails)) :
    (forM levels (linkLevel id)).run s = .ok () ((s.setList list).setTails tails) := by
  induction levels generalizing s with
  | nil =>
    cases h
    rfl
  | cons level levels ih =>
    rw [List.foldlM_cons] at h
    obtain ⟨⟨list', tails'⟩, hlevel, hlevels⟩ := Option.bind_eq_some_iff.mp h
    rw [List.forM_cons, EStateM.run_bind, run_linkLevel hlevel]
    exact ih hlevels

/-- What holds between two calls. -/
structure Ready (s : Bench α) : Prop where
  sound : s.builder.Sound
  /-- The towers of the entries that are still expected have not been touched. -/
  towers : ∀ {id}, s.builder.size ≤ id → id < s.builder.expected →
    s.towers[id]? = some (Array.replicate (heightAt id s.builder.list.levels) none)

theorem ready_begin (hnew : Builder.new n = .ok b) : (begin b).Ready where
  sound := Builder.sound_new hnew
  towers := by
    rintro id - (hid : id < b.expected)
    simp [begin, hid]

/-- All writes in their order come to what the addition comes to, and a breach leaves no
write behind. -/
theorem Ready.run_add (h : s.Ready) (key : Bytes) (data : α) :
    (add key data).run s =
      match s.builder.add key data with
      | .error breach => .error breach s
      | .ok (complete, b) => .ok complete ⟨b, s.towers.setIfInBounds s.builder.size #[]⟩ := by
  rw [add, EStateM.run_bind, EStateM.run_get, Builder.add]
  by_cases hcomplete : s.builder.isComplete
  · simp only [if_pos hcomplete]
    rfl
  · by_cases hback : s.builder.list.nodes.back?.any fun last => compare last.key key ≠ .lt
    · simp only [if_neg hcomplete, if_pos hback]
      rfl
    · have hroom : s.builder.size < s.builder.expected :=
        Nat.lt_of_le_of_ne h.sound.size_le fun heq => hcomplete (decide_eq_true heq)
      -- Once the tower is taken away, the rounds are those of the checked addition.
      have htower := h.towers (Nat.le_refl _) hroom
      have hchecked := h.sound.checked_append hroom key data
      rw [Checked.append, if_pos hroom, Option.map_eq_some_iff] at hchecked
      obtain ⟨⟨list, tails⟩, hrounds, happend⟩ := hchecked
      have hlevels := run_linkLevels
        (s := { s with towers := s.towers.setIfInBounds s.builder.size #[] }) hrounds
      simp only [if_neg hcomplete, if_neg hback, EStateM.run_bind, run_takeTower htower,
        Array.size_replicate, hlevels]
      rw [← happend]
      rfl

/-- The bench after an entry that was accepted. -/
def accept (s : Bench α) (key : Bytes) (data : α) : Bench α :=
  ⟨s.builder.append key data, s.towers.setIfInBounds s.builder.size #[]⟩

theorem Ready.accept (h : s.Ready) (hroom : s.builder.size < s.builder.expected)
    (hkey : ∀ e ∈ s.builder.list.entries, e.1 < key) (data : α) : (s.accept key data).Ready where
  sound := h.sound.append hroom hkey data
  towers := by
    intro id hlow hhigh
    have hlevels : (s.builder.append key data).list.levels = s.builder.list.levels := by
      rw [(h.sound.append hroom hkey data).levels, h.sound.levels]
      rfl
    have hsize : (s.builder.append key data).size = s.builder.size + 1 :=
      h.sound.size_append key data
    replace hlow : s.builder.size + 1 ≤ id := by rwa [← hsize]
    have htower := h.towers (Nat.le_of_succ_le hlow) hhigh
    rw [← hlevels] at htower
    exact (Array.getElem?_setIfInBounds_ne (Nat.ne_of_lt hlow)).trans htower

/-- An attempt is refused for one of two reasons, and then nothing has changed, or it
is accepted. -/
theorem Ready.attempt (h : s.Ready) (key : Bytes) (data : α) :
    (s.builder.size = s.builder.expected ∧
      (add key data).run s = .error (.keyAfterLast s.builder.expected) s) ∨
    (s.builder.size < s.builder.expected ∧ (¬∀ last ∈ lastKey? s.builder.list.entries, last < key) ∧
      (add key data).run s = .error .keyOutOfOrder s) ∨
    (s.builder.size < s.builder.expected ∧ (∀ last ∈ lastKey? s.builder.list.entries, last < key) ∧
      (add key data).run s = .ok (s.builder.size + 1 = s.builder.expected) (s.accept key data) ∧
      (s.accept key data).Ready) := by
  rw [h.run_add, h.sound.add_eq]
  by_cases hfull : s.builder.size = s.builder.expected
  · rw [if_pos hfull]
    exact .inl ⟨hfull, rfl⟩
  · have hroom : s.builder.size < s.builder.expected := Nat.lt_of_le_of_ne h.sound.size_le hfull
    rw [if_neg hfull]
    by_cases hlast : ∀ last ∈ lastKey? s.builder.list.entries, last < key
    · rw [if_pos hlast]
      exact .inr (.inr ⟨hroom, hlast, rfl, h.accept hroom (h.sound.lt_of_lastKey hlast) data⟩)
    · rw [if_neg hlast]
      exact .inr (.inl ⟨hroom, hlast, rfl⟩)

/-- However many attempts there are, the entries that climb are taken in until no more
are expected. -/
theorem Ready.after (h : s.Ready) (es : List (Bytes × α)) :
    (s.after es).Ready ∧ (s.after es).builder.expected = s.builder.expected ∧
      (s.after es).builder.list.entries = s.builder.list.entries ++
        (climb (lastKey? s.builder.list.entries) es).take
          (s.builder.expected - s.builder.size) := by
  induction es generalizing s with
  | nil => exact ⟨h, rfl, by simp [climb, Bench.after]⟩
  | cons e es ih =>
    rw [Bench.after, List.foldl_cons]
    obtain ⟨hfull, hrun⟩ | ⟨hroom, hlast, hrun⟩ | ⟨hroom, hlast, hrun, hnext⟩ := h.attempt e.1 e.2
    · -- Nothing more is taken in, however the rest may climb.
      simp only [hrun]
      obtain ⟨hready, hexpected, hentries⟩ := ih h
      refine ⟨hready, hexpected, hentries.trans ?_⟩
      rw [hfull, Nat.sub_self, List.take_zero, List.take_zero]
    · simp only [hrun]
      rw [climb, if_neg hlast]
      exact ih h
    · simp only [hrun]
      obtain ⟨hready, hexpected, hentries⟩ := ih hnext
      have hgrown : (s.accept e.1 e.2).builder.list.entries = s.builder.list.entries ++ [e] :=
        h.sound.entries_append e.1 e.2
      have hsize : (s.accept e.1 e.2).builder.size = s.builder.size + 1 :=
        h.sound.size_append e.1 e.2
      refine ⟨hready, hexpected, hentries.trans ?_⟩
      have hleft : s.builder.expected - s.builder.size =
          (s.builder.expected - (s.builder.size + 1)) + 1 := by omega
      rw [climb, if_pos hlast, hleft, List.take_succ_cons, hgrown, lastKey?_append_singleton, hsize,
        List.append_assoc]
      rfl

/-- A builder for `n` entries that has taken in these: what it tells about itself, what becomes of
the next attempt, and whether it can be finished. -/
structure Holds (n : Nat) (kept : List (Bytes × α)) (s : Bench α) : Prop where
  entries : s.builder.list.entries = kept
  size : s.builder.size = kept.length
  size_le : kept.length ≤ n
  keys : s.builder.keys = kept.map (·.1)
  add_eq : ∀ key data, (add key data).run s =
    match s.builder.add key data with
    | .error breach => .error breach s
    | .ok (complete, b) => .ok complete ⟨b, s.towers.setIfInBounds s.builder.size #[]⟩
  full : kept.length = n → ∀ key data, (add key data).run s = .error (.keyAfterLast n) s
  disorder : ∀ {key}, kept.length < n → (¬∀ last ∈ lastKey? kept, last < key) →
    ∀ data, (add key data).run s = .error .keyOutOfOrder s
  accepted : ∀ {key}, kept.length < n → (∀ last ∈ lastKey? kept, last < key) →
    ∀ data, ∃ s', (add key data).run s = .ok (kept.length + 1 = n) s'
  finished : kept.length = n →
    ∃ l, s.builder.finish = .ok l ∧ l.entries = kept ∧ ∀ key, l.find? key = kept.find? (·.1 = key)
  unfinished : kept.length < n → s.builder.finish = .error (.finishedEarly kept.length n)

theorem Ready.holds (h : s.Ready) : s.Holds s.builder.expected s.builder.list.entries := by
  have hsize : s.builder.list.entries.length = s.builder.size := s.builder.list.size_eq_length.symm
  have hcomplete : s.builder.isComplete ↔ s.builder.size = s.builder.expected := decide_eq_true_iff
  refine
    { entries := rfl
      size := hsize.symm
      size_le := hsize ▸ h.sound.size_le
      keys := ?_
      add_eq := h.run_add
      full := ?_
      disorder := ?_
      accepted := ?_
      finished := ?_
      unfinished := ?_ }
  · simp [Builder.keys, SkipList.entries]
  · intro hfull key data
    rw [hsize] at hfull
    rw [h.run_add, h.sound.add_eq, if_pos hfull]
  · intro key hroom hlast data
    rw [hsize] at hroom
    rw [h.run_add, h.sound.add_eq, if_neg (Nat.ne_of_lt hroom), if_neg hlast]
  · intro key hroom hlast data
    rw [hsize] at hroom ⊢
    rw [h.run_add, h.sound.add_eq, if_neg (Nat.ne_of_lt hroom), if_pos hlast]
    exact ⟨_, rfl⟩
  · intro hfull
    rw [hsize] at hfull
    have hrep : s.builder.list.Represents ⟨s.builder.list.entries, h.sound.ascending⟩ :=
      ⟨h.sound.wellFormed, .refl _⟩
    exact ⟨s.builder.list, if_pos (hcomplete.mpr hfull), rfl, hrep.find?_eq⟩
  · intro hroom
    rw [hsize] at hroom ⊢
    exact if_neg fun h => absurd (hcomplete.mp h) (Nat.ne_of_lt hroom)

/-- Of any attempts, a builder for `n` entries has taken in the first `n` that climb. -/
theorem holds_after_attempts (hnew : Builder.new n = .ok b) (es : List (Bytes × α)) :
    ((begin b).after es).Holds n ((climb none es).take n) := by
  obtain ⟨hready, hexpected, hentries⟩ := (ready_begin hnew).after es
  have hb := Builder.new_eq_ok hnew
  have hnone : (begin b).builder.list.entries = [] := by
    rw [hb]
    rfl
  have hsize : (begin b).builder.size = 0 := by
    rw [hb]
    rfl
  have hn : (begin b).builder.expected = n := by
    rw [hb]
    rfl
  have hholds := hready.holds
  rw [hentries, hexpected, hnone, hsize, hn, List.nil_append] at hholds
  exact hholds

/-- Two entries expected, and five attempts: the second key is not greater, the last two come
too late. -/
theorem holds_after_attempts_five :
    let b : Builder Nat := ⟨2, { head := #[none, none] }, #[.head, .head]⟩
    let es : List (Bytes × Nat) := [([98], 1), ([97], 2), ([99], 3), ([100], 4), ([98], 5)]
    Builder.new 2 = .ok b ∧ (climb none es).take 2 = [([98], 1), ([99], 3)] ∧
      ((begin b).after es).Holds 2 [([98], 1), ([99], 3)] := by
  intro b es
  have hnew : Builder.new 2 = .ok b := by decide +kernel
  have hkept : (climb none es).take 2 = [([98], 1), ([99], 3)] := by decide
  have hholds := holds_after_attempts hnew es
  rw [hkept] at hholds
  exact ⟨hnew, hkept, hholds⟩

end Bench
end TableTalk.SkipList
