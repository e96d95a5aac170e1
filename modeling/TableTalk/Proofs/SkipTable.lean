import TableTalk.Proofs.OrderedMap
import TableTalk.Proofs.SkipList.Insertion
import TableTalk.Proofs.SkipList.Traversal
import TableTalk.SkipTable

/-! A skip table is an ordered map, whatever its coins decide. Every call gives what the ordered map
gives that went through the same calls. -/
namespace TableTalk

/-- What can be done with a table. -/
class Table (τ : Type) (α : outParam Type) where
  add : τ → Bytes → α → Addition α × τ
  find? : τ → Bytes → Option (Bytes × α)
  modify : τ → Bytes → (α → α) → τ
  contains : τ → Bytes → Bool
  size : τ → Nat
  toList : τ → List (Bytes × α)
  foldl {β : Type} : τ → (β → Bytes → α → β) → β → β
  /-- What is handed out in so many steps of taking the table apart. -/
  drain : τ → Nat → List (Bytes × α)
  intoList : τ → List (Bytes × α)
  intoKeys : τ → List Bytes

namespace Table

/-- A call that leaves the table usable. -/
inductive Call (α β : Type)
  | add (key : Bytes) (data : α)
  | lookup (key : Bytes)
  /-- Looks up a key and changes its data. -/
  | lookupMut (key : Bytes) (f : α → α)
  | contains (key : Bytes)
  | len
  | isEmpty
  | iter
  | apply (f : β → Bytes → α → β) (init : β)

/-- A call that uses the table up. -/
inductive LastCall (α β : Type)
  | intoIter (steps : Nat)
  | applyAndDestroy (f : β → Bytes → α → β) (init : β)
  | intoKeys

inductive Reply (α β : Type)
  | addition (a : Addition α)
  | entry (e : Option (Bytes × α))
  | data (d : Option α)
  | truth (b : Bool)
  | count (n : Nat)
  | entries (es : List (Bytes × α))
  | keys (ks : List Bytes)
  | result (b : β)
  deriving DecidableEq

section
variable {τ α β : Type} [Table τ α]

def answer (t : τ) : Call α β → Reply α β × τ
  | .add key data =>
    let (a, t) := add t key data
    (.addition a, t)
  | .lookup key => (.entry (find? t key), t)
  | .lookupMut key f => (.data ((find? t key).map (·.2)), modify t key f)
  | .contains key => (.truth (contains t key), t)
  | .len => (.count (size t), t)
  | .isEmpty => (.truth (size t = 0), t)
  | .iter => (.entries (toList t), t)
  | .apply f init => (.result (foldl t f init), t)

def lastAnswer (t : τ) : LastCall α β → Reply α β
  | .intoIter steps => .entries (drain t steps)
  | .applyAndDestroy f init => .result ((intoList t).foldl (fun b e => f b e.1 e.2) init)
  | .intoKeys => .keys (intoKeys t)

/-- The replies to some calls and then to the last one, if there is one. -/
def replies (t : τ) (last : Option (LastCall α β)) : List (Call α β) → List (Reply α β)
  | [] => last.toList.map (lastAnswer t)
  | call :: calls => (answer t call).1 :: replies (answer t call).2 last calls

end

end Table

instance {α : Type} : Table (SkipTable α) α where
  add := SkipTable.add
  find? := SkipTable.find?
  modify := SkipTable.modify
  contains := SkipTable.contains
  size := SkipTable.size
  toList := SkipTable.toList
  foldl t := t.list.foldl
  drain t steps := t.list.drain.take steps
  intoList := SkipTable.intoList
  intoKeys t := t.list.intoKeys

/-- A skip list whose heights are laid down beforehand: the entry that comes after `n` others stands
on `wins n` levels besides the lowest. -/
structure PresetList (α : Type) where
  list : SkipList α := {}
  wins : Nat → Nat

namespace PresetList
variable {α : Type}

def add (t : PresetList α) (key : Bytes) (data : α) : Addition α × PresetList α :=
  match t.list.insert? (t.wins t.list.size + 1) key data with
  | some list => (.unique, { t with list })
  | none => (.duplicate key data, t)

instance : Table (PresetList α) α where
  add := add
  find? t := t.list.find?
  modify t key f := { t with list := t.list.modify key f }
  contains t := t.list.contains
  size t := t.list.size
  toList t := t.list.toList
  foldl t := t.list.foldl
  drain t steps := t.list.drain.take steps
  intoList t := t.list.intoList
  intoKeys t := t.list.intoKeys

end PresetList

namespace OrderedMap
variable {α : Type}

def add (m : OrderedMap α) (key : Bytes) (data : α) : Addition α × OrderedMap α :=
  match m.insert? key data with
  | some m => (.unique, m)
  | none => (.duplicate key data, m)

instance : Table (OrderedMap α) α where
  add := add
  find? := find?
  modify := update
  contains := contains
  size m := m.entries.length
  toList := entries
  foldl m f init := m.entries.foldl (fun b e => f b e.1 e.2) init
  drain m steps := m.entries.take steps
  intoList := entries
  intoKeys m := m.entries.map (·.1)

end OrderedMap

namespace SkipList
variable {α β : Type} {l : SkipList α} {m : OrderedMap α} {key : Bytes}

/-- A list that is in order and holds what the map holds. -/
structure Represents (l : SkipList α) (m : OrderedMap α) : Prop where
  wellFormed : l.WellFormed
  perm : l.entries.Perm m.entries

theorem represents_empty : Represents ({} : SkipList α) .empty := ⟨wellFormed_empty, .refl _⟩

theorem Represents.mem_keys_iff (h : l.Represents m) :
    key ∈ l.entries.map (·.1) ↔ key ∈ m.entries.map (·.1) := (h.perm.map _).mem_iff

theorem Represents.find?_eq (h : l.Represents m) (key : Bytes) : l.find? key = m.find? key := by
  apply Option.ext
  intro e
  rw [h.wellFormed.find?_eq_some_iff, m.find?_eq_some_iff, h.perm.mem_iff]

theorem Represents.contains_eq (h : l.Represents m) (key : Bytes) :
    l.contains key = m.contains key := by
  rw [Bool.eq_iff_iff, h.wellFormed.contains_iff, m.contains_iff, h.mem_keys_iff]

theorem Represents.size_eq (h : l.Represents m) : l.size = m.entries.length := by
  rw [size_eq_length, h.perm.length_eq]

theorem Represents.toList_eq (h : l.Represents m) : l.toList = m.entries :=
  OrderedMap.eq_of_perm h.wellFormed.toList_ascending m.ascending
    (h.wellFormed.toList_perm.trans h.perm)

theorem Represents.modify (h : l.Represents m) (key : Bytes) (f : α → α) :
    (l.modify key f).Represents (m.update key f) where
  wellFormed := h.wellFormed.modify key f
  perm := by
    rw [h.wellFormed.modify_entries]
    exact h.perm.map _

/-- An addition is refused by both or accepted by both. -/
theorem Represents.insert? (h : l.Represents m) {height : Nat} (hheight : 0 < height) (key : Bytes)
    (data : α) :
    (l.insert? height key data = none ∧ m.insert? key data = none) ∨
      ∃ l' m', l.insert? height key data = some l' ∧ m.insert? key data = some m' ∧
        l'.Represents m' := by
  have hspec := h.wellFormed.insert?_spec hheight key data
  cases hinsert : l.insert? height key data with
  | none =>
    rw [hinsert] at hspec
    exact .inl ⟨rfl, dif_pos (h.mem_keys_iff.mp hspec)⟩
  | some l' =>
    rw [hinsert] at hspec
    obtain ⟨hl', hentries, hnew⟩ := hspec
    rw [h.mem_keys_iff] at hnew
    refine .inr ⟨l', _, rfl, dif_neg hnew, hl', ?_⟩
    rw [hentries]
    exact (List.perm_append_singleton _ _).trans ((h.perm.cons _).trans OrderedMap.place_perm.symm)

end SkipList

namespace Table
open SkipList (Represents)

/-- A table that keeps its entries in a skip list, and draws a height for each entry that is new. -/
structure Backing (τ α : Type) [Table τ α] where
  list : τ → SkipList α
  height : τ → Nat
  height_pos : ∀ t, 0 < height t
  add_of_none : ∀ {t key data}, (list t).insert? (height t) key data = none →
    Table.add t key data = (.duplicate key data, t)
  add_of_some : ∀ {t key data l}, (list t).insert? (height t) key data = some l →
    (Table.add t key data).1 = .unique ∧ list (Table.add t key data).2 = l
  find?_eq : ∀ t key, Table.find? t key = (list t).find? key
  modify_eq : ∀ t key f, list (Table.modify t key f) = (list t).modify key f
  contains_eq : ∀ t key, Table.contains t key = (list t).contains key
  size_eq : ∀ t, Table.size t = (list t).size
  toList_eq : ∀ t, Table.toList t = (list t).toList
  foldl_eq : ∀ {β : Type} t (f : β → Bytes → α → β) init,
    Table.foldl t f init = (list t).foldl f init
  drain_eq : ∀ t n, Table.drain t n = (list t).drain.take n
  intoList_eq : ∀ t, Table.intoList t = (list t).intoList
  intoKeys_eq : ∀ t, Table.intoKeys t = (list t).intoKeys

variable {τ α β : Type} [Table τ α] {t : τ} {m : OrderedMap α}

theorem Backing.add_eq (b : Backing τ α) (h : (b.list t).Represents m) (key : Bytes) (data : α) :
    (add t key data).1 = (add m key data).1 ∧
      (b.list (add t key data).2).Represents (add m key data).2 := by
  have hadd : add m key data = m.add key data := rfl
  rw [hadd, OrderedMap.add]
  obtain ⟨hl, hm⟩ | ⟨l, m', hl, hm, hrep⟩ := h.insert? (b.height_pos t) key data
  · rw [b.add_of_none hl, hm]
    exact ⟨rfl, h⟩
  · obtain ⟨hunique, hlist⟩ := b.add_of_some hl
    rw [hm, hlist]
    exact ⟨hunique, hrep⟩

/-- One call: the replies agree, and so do what list and map hold afterwards. -/
theorem Backing.answer_eq (b : Backing τ α) (h : (b.list t).Represents m) (call : Call α β) :
    (answer t call).1 = (answer m call).1 ∧
      (b.list (answer t call).2).Represents (answer m call).2 := by
  cases call with
  | add key data =>
    obtain ⟨haddition, hrep⟩ := b.add_eq h key data
    exact ⟨congrArg Reply.addition haddition, hrep⟩
  | lookup key =>
    exact ⟨congrArg Reply.entry ((b.find?_eq t key).trans (h.find?_eq key)), h⟩
  | lookupMut key f =>
    refine ⟨congrArg (fun e => Reply.data (Option.map _ e))
      ((b.find?_eq t key).trans (h.find?_eq key)), ?_⟩
    have hrep := h.modify key f
    rwa [← b.modify_eq] at hrep
  | contains key =>
    exact ⟨congrArg Reply.truth ((b.contains_eq t key).trans (h.contains_eq key)), h⟩
  | len => exact ⟨congrArg Reply.count ((b.size_eq t).trans h.size_eq), h⟩
  | isEmpty =>
    exact ⟨congrArg (fun n => Reply.truth (decide (n = 0))) ((b.size_eq t).trans h.size_eq), h⟩
  | iter => exact ⟨congrArg Reply.entries ((b.toList_eq t).trans h.toList_eq), h⟩
  | apply f init =>
    refine ⟨congrArg Reply.result ((b.foldl_eq t f init).trans ?_), h⟩
    rw [SkipList.foldl, h.toList_eq]
    rfl

theorem Backing.lastAnswer_eq (b : Backing τ α) (h : (b.list t).Represents m)
    (last : LastCall α β) :
    lastAnswer t last = lastAnswer m last := by
  have hinto : intoList t = m.entries := by
    rw [b.intoList_eq, h.wellFormed.intoList_eq, h.toList_eq]
  cases last with
  | intoIter steps =>
    rw [lastAnswer, b.drain_eq, h.wellFormed.drain_take, h.toList_eq]
    rfl
  | applyAndDestroy f init =>
    rw [lastAnswer, hinto]
    rfl
  | intoKeys =>
    rw [lastAnswer, b.intoKeys_eq, SkipList.intoKeys, ← b.intoList_eq, hinto]
    rfl

/-- Any number of calls: the replies agree all the way. -/
theorem Backing.replies_eq (b : Backing τ α) (h : (b.list t).Represents m)
    (last : Option (LastCall α β)) (calls : List (Call α β)) :
    replies t last calls = replies m last calls := by
  induction calls generalizing t m with
  | nil =>
    cases last with
    | none => rfl
    | some last => exact congrArg (fun r => [r]) (b.lastAnswer_eq h last)
  | cons call calls ih =>
    obtain ⟨hreply, hrep⟩ := b.answer_eq h call
    rw [replies, replies, hreply, ih hrep]

end Table

def SkipTable.backing (α : Type) : Table.Backing (SkipTable α) α where
  list t := t.list
  height t := t.coins.height
  height_pos _ := Nat.succ_pos _
  add_of_none h := by simp only [Table.add, SkipTable.add, h]
  add_of_some h := by simp only [Table.add, SkipTable.add, h, and_self]
  find?_eq _ _ := rfl
  modify_eq _ _ _ := rfl
  contains_eq _ _ := rfl
  size_eq _ := rfl
  toList_eq _ := rfl
  foldl_eq _ _ _ := rfl
  drain_eq _ _ := rfl
  intoList_eq _ := rfl
  intoKeys_eq _ := rfl

def PresetList.backing (α : Type) : Table.Backing (PresetList α) α where
  list t := t.list
  height t := t.wins t.list.size + 1
  height_pos _ := Nat.succ_pos _
  add_of_none h := by simp only [Table.add, PresetList.add, h]
  add_of_some h := by simp only [Table.add, PresetList.add, h, and_self]
  find?_eq _ _ := rfl
  modify_eq _ _ _ := rfl
  contains_eq _ _ := rfl
  size_eq _ := rfl
  toList_eq _ := rfl
  foldl_eq _ _ _ := rfl
  drain_eq _ _ := rfl
  intoList_eq _ := rfl
  intoKeys_eq _ := rfl

/-- Whatever the coins decide, and whatever heights are laid down, a table that starts empty replies
as the ordered map does. So two seeds cannot be told apart by replies. -/
theorem SkipTable.replies_eq_orderedMap {α β : Type} (calls : List (Table.Call α β))
    (last : Option (Table.LastCall α β)) :
    (∀ coins, Table.replies (SkipTable.empty coins) last calls =
      Table.replies OrderedMap.empty last calls) ∧
    (∀ wins, Table.replies (PresetList.mk {} wins) last calls =
      Table.replies OrderedMap.empty last calls) ∧
    (∀ seed other, Table.replies (SkipTable.empty (.seeded seed)) last calls =
      Table.replies (SkipTable.empty (.seeded other)) last calls) := by
  have hcoins (coins : Coins) : Table.replies (SkipTable.empty coins) last calls =
      Table.replies OrderedMap.empty last calls :=
    (backing α).replies_eq SkipList.represents_empty last calls
  refine ⟨hcoins, fun wins => ?_, fun seed other => (hcoins _).trans (hcoins _).symm⟩
  exact (PresetList.backing α).replies_eq SkipList.represents_empty last calls

end TableTalk
