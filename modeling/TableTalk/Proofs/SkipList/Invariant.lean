import TableTalk.Proofs.Bytes
import TableTalk.SkipList.Basic

/-! What holds of every skip list: each link leads to the least entry of its level that lies beyond
the place it starts from. -/
namespace TableTalk.SkipList
variable {α : Type} {l : SkipList α} {p q : Place} {level id : Nat} {key : Bytes}

/-- Entry `id` has this key and stands on this level. -/
def On (l : SkipList α) (level id : Nat) (key : Bytes) : Prop :=
  ∃ node, l.nodes[id]? = some node ∧ node.key = key ∧ level < node.tower.size

/-- The head is before every key, an entry before those greater than its own. -/
def Before (l : SkipList α) (p : Place) (key : Bytes) : Prop :=
  match p with
  | .head => True
  | .node id => ∃ node, l.nodes[id]? = some node ∧ node.key < key

instance : Decidable (l.Before p key) :=
  match p with
  | .head => isTrue trivial
  | .node id =>
    match h : l.nodes[id]? with
    | none => isFalse fun ⟨_, hnode, _⟩ => by simp [h] at hnode
    | some node => decidable_of_iff (node.key < key) (by simp [Before, h])

/-- The place has a link on this level. -/
def Stands (l : SkipList α) (p : Place) (level : Nat) : Prop := level < (l.tower p).size

/-- What a link of a place should lead to: the least entry beyond it, if there is any. -/
def Leads (l : SkipList α) (p : Place) (level : Nat) : Option Nat → Prop
  | none => ∀ id key, l.On level id key → ¬l.Before p key
  | some id => ∃ key, l.On level id key ∧ l.Before p key ∧
      ∀ other key', l.On level other key' → l.Before p key' → ¬key' < key

structure WellFormed (l : SkipList α) : Prop where
  height_pos : ∀ {id : Nat} {node : Node α}, l.nodes[id]? = some node → 0 < node.tower.size
  height_le : ∀ {id : Nat} {node : Node α}, l.nodes[id]? = some node → node.tower.size ≤ l.levels
  unique : ∀ {id other key}, l.On 0 id key → l.On 0 other key → id = other
  leads : ∀ {p level}, l.Stands p level → l.Leads p level (l.next p level)

theorem WellFormed.leads_to (hl : l.WellFormed) (hp : l.Stands p level) {link : Option Nat}
    (hnext : l.next p level = link) : l.Leads p level link := by
  rw [← hnext]
  exact hl.leads hp

theorem wellFormed_empty : WellFormed ({} : SkipList α) where
  height_pos h := by simp at h
  height_le h := by simp at h
  unique := by
    rintro id other key ⟨node, hnode, -⟩
    simp at hnode
  leads := by
    intro p level h
    cases p <;> simp [Stands, tower] at h

theorem On.lower {lower : Nat} (h : l.On level id key) (hle : lower ≤ level) :
    l.On lower id key := by
  obtain ⟨node, hnode, hkey, hlt⟩ := h
  exact ⟨node, hnode, hkey, Nat.lt_of_le_of_lt hle hlt⟩

theorem On.stands (h : l.On level id key) : l.Stands (.node id) level := by
  obtain ⟨node, hnode, -, hlt⟩ := h
  simpa [Stands, tower, hnode] using hlt

theorem On.before_iff (h : l.On level id key) {key' : Bytes} :
    l.Before (.node id) key' ↔ key < key' := by
  obtain ⟨node, hnode, rfl, -⟩ := h
  simp [Before, hnode]

theorem On.key_eq (h : l.On level id key) {node : Node α} (hnode : l.nodes[id]? = some node) :
    key = node.key := by
  obtain ⟨other, hother, rfl, -⟩ := h
  rw [hnode] at hother
  cases hother
  rfl

theorem on_of_stands (h : l.Stands (.node id) level) : ∃ key, l.On level id key := by
  simp only [Stands, tower] at h
  cases hnode : l.nodes[id]? with
  | none => simp [hnode] at h
  | some node => exact ⟨node.key, node, hnode, rfl, by simpa [hnode] using h⟩

theorem Before.trans {key' : Bytes} (h : l.Before p key) (hlt : key < key') : l.Before p key' := by
  cases p with
  | head => trivial
  | node id =>
    obtain ⟨node, hnode, hkey⟩ := h
    exact ⟨node, hnode, List.lt_trans hkey hlt⟩

theorem Stands.lower {lower : Nat} (h : l.Stands p level) (hle : lower ≤ level) :
    l.Stands p lower :=
  Nat.lt_of_le_of_lt hle h

theorem WellFormed.on_levels (hl : l.WellFormed) (h : l.On level id key) : level < l.levels := by
  obtain ⟨node, hnode, -, hlt⟩ := h
  exact Nat.lt_of_lt_of_le hlt (hl.height_le hnode)

theorem WellFormed.stands_levels (hl : l.WellFormed) (h : l.Stands p level) : level < l.levels := by
  cases p with
  | head => exact h
  | node id =>
    obtain ⟨key, hon⟩ := on_of_stands h
    exact hl.on_levels hon

theorem WellFormed.on_iff_key (hl : l.WellFormed) :
    l.On 0 id key ↔ ∃ node, l.nodes[id]? = some node ∧ node.key = key := by
  constructor
  · rintro ⟨node, hnode, hkey, -⟩
    exact ⟨node, hnode, hkey⟩
  · rintro ⟨node, hnode, hkey⟩
    exact ⟨node, hnode, hkey, hl.height_pos hnode⟩

/-- How many entries lie beyond a place. -/
def ahead (l : SkipList α) (p : Place) : Nat :=
  l.nodes.toList.countP fun node => l.Before p node.key

theorem ahead_le_size : l.ahead p ≤ l.size := by
  rw [size, ← Array.length_toList]
  exact List.countP_le_length

theorem countP_lt {β : Type} {r s : β → Bool} {xs : List β} {x : β} (hx : x ∈ xs)
    (hrs : ∀ y, r y → s y) (hr : ¬r x) (hs : s x) : xs.countP r < xs.countP s := by
  obtain ⟨before, after, rfl⟩ := List.append_of_mem hx
  have hbefore := List.countP_mono_left (l := before) fun y _ => hrs y
  have hafter := List.countP_mono_left (l := after) fun y _ => hrs y
  rw [List.countP_append, List.countP_append, List.countP_cons_of_neg hr,
    List.countP_cons_of_pos hs]
  omega

/-- Going on to an entry leaves that entry behind. -/
theorem On.ahead_lt (h : l.On level id key) (hp : l.Before p key) :
    l.ahead (.node id) < l.ahead p := by
  have hkey {key' : Bytes} : l.Before (.node id) key' ↔ key < key' := h.before_iff
  obtain ⟨node, hnode, rfl, -⟩ := h
  refine countP_lt (x := node) (List.mem_of_getElem? (by simpa using hnode)) ?_ ?_ ?_
  · intro other hother
    simp only [decide_eq_true_eq, hkey] at hother ⊢
    exact hp.trans hother
  · simp [hkey]
  · simpa using hp

/-- Two lists with the same levels, keys and heights. Their data and links may differ. -/
structure SameShape (l other : SkipList α) : Prop where
  levels : other.levels = l.levels
  nodes : ∀ id : Nat, (other.nodes[id]?).map (fun node => (node.key, node.tower.size)) =
    (l.nodes[id]?).map (fun node => (node.key, node.tower.size))

section
variable {other : SkipList α}

theorem SameShape.refl (l : SkipList α) : SameShape l l := ⟨rfl, fun _ => rfl⟩

theorem SameShape.trans {third : SkipList α} (h : SameShape l other) (h' : SameShape other third) :
    SameShape l third :=
  ⟨h'.levels.trans h.levels, fun id => (h'.nodes id).trans (h.nodes id)⟩

theorem SameShape.symm (h : SameShape l other) : SameShape other l :=
  ⟨h.levels.symm, fun id => (h.nodes id).symm⟩

theorem SameShape.node (h : SameShape l other) {node : Node α} (hnode : l.nodes[id]? = some node) :
    ∃ node', other.nodes[id]? = some node' ∧ node'.key = node.key ∧
      node'.tower.size = node.tower.size := by
  have hid := h.nodes id
  rw [hnode, Option.map_some, Option.map_eq_some_iff] at hid
  obtain ⟨node', hnode', heq⟩ := hid
  exact ⟨node', hnode', congrArg Prod.fst heq, congrArg Prod.snd heq⟩

theorem SameShape.on (h : SameShape l other) (hon : l.On level id key) : other.On level id key := by
  obtain ⟨node, hnode, rfl, hlt⟩ := hon
  obtain ⟨node', hnode', hkey, hsize⟩ := h.node hnode
  exact ⟨node', hnode', hkey, by rwa [hsize]⟩

theorem SameShape.before (h : SameShape l other) (hbefore : l.Before p key) :
    other.Before p key := by
  cases p with
  | head => trivial
  | node id =>
    obtain ⟨node, hnode, hlt⟩ := hbefore
    obtain ⟨node', hnode', hkey, -⟩ := h.node hnode
    exact ⟨node', hnode', by rwa [hkey]⟩

theorem SameShape.stands (h : SameShape l other) (hp : l.Stands p level) :
    other.Stands p level := by
  cases p with
  | head => exact Nat.lt_of_lt_of_eq hp h.levels.symm
  | node id =>
    obtain ⟨key, hon⟩ := on_of_stands hp
    exact (h.on hon).stands

theorem SameShape.on_iff (h : SameShape l other) : other.On level id key ↔ l.On level id key :=
  ⟨h.symm.on, h.on⟩

theorem SameShape.before_iff (h : SameShape l other) : other.Before p key ↔ l.Before p key :=
  ⟨h.symm.before, h.before⟩

theorem SameShape.stands_iff (h : SameShape l other) : other.Stands p level ↔ l.Stands p level :=
  ⟨h.symm.stands, h.stands⟩

/-- The invariant sees levels, keys, heights and links, and no data. -/
theorem WellFormed.of_sameShape (hl : l.WellFormed) (h : SameShape l other)
    (hnext : ∀ p level, other.next p level = l.next p level) : other.WellFormed where
  height_pos hnode := by
    obtain ⟨node', hnode', -, hsize⟩ := h.symm.node hnode
    rw [← hsize]
    exact hl.height_pos hnode'
  height_le hnode := by
    obtain ⟨node', hnode', -, hsize⟩ := h.symm.node hnode
    rw [← hsize, h.levels]
    exact hl.height_le hnode'
  unique hon hother := hl.unique (h.on_iff.mp hon) (h.on_iff.mp hother)
  leads := by
    intro p level hp
    rw [hnext]
    cases hlink : l.next p level with
    | none =>
      intro id key hon
      rw [h.before_iff]
      exact hl.leads_to (h.stands_iff.mp hp) hlink id key (h.on_iff.mp hon)
    | some id =>
      obtain ⟨key, hon, hbefore, hleast⟩ := hl.leads_to (h.stands_iff.mp hp) hlink
      refine ⟨key, h.on hon, h.before hbefore, fun other key' hother hpast => ?_⟩
      exact hleast other key' (h.on_iff.mp hother) (h.before_iff.mp hpast)

end

end TableTalk.SkipList
