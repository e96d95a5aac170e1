import Mathlib.Data.List.Nodup
import TableTalk.Proofs.Bytes

/-! Ordered maps: entries in one row, each key less than the next. What a table does is said in
terms of these. -/
namespace TableTalk

/-- Where no two have the same key, a search for a key finds the one that has it. -/
theorem find?_eq_some_iff_of_nodup {α β : Type} [DecidableEq β] {f : α → β} {xs : List α} {b : β}
    {x : α} (h : (xs.map f).Nodup) : xs.find? (f · = b) = some x ↔ x ∈ xs ∧ f x = b := by
  constructor
  · intro hx
    exact ⟨List.mem_of_find?_eq_some hx, by simpa using List.find?_some hx⟩
  · rintro ⟨hmem, hb⟩
    have hsome : (xs.find? (f · = b)).isSome := List.find?_isSome.mpr ⟨x, hmem, by simpa using hb⟩
    obtain ⟨y, hy⟩ := Option.isSome_iff_exists.mp hsome
    have hb' : f y = b := by simpa using List.find?_some hy
    rw [hy, List.inj_on_of_nodup_map h (List.mem_of_find?_eq_some hy) hmem (hb'.trans hb.symm)]

structure OrderedMap (α : Type) where
  entries : List (Bytes × α)
  ascending : entries.Pairwise (·.1 < ·.1)

namespace OrderedMap
variable {α : Type} {key : Bytes} {data : α} {es : List (Bytes × α)} {e : Bytes × α}

def empty : OrderedMap α := ⟨[], .nil⟩

/-- Puts an entry in front of the first one whose key is not less. -/
def place (key : Bytes) (data : α) : List (Bytes × α) → List (Bytes × α)
  | [] => [(key, data)]
  | e :: es => if e.1 < key then e :: place key data es else (key, data) :: e :: es

theorem place_perm : (place key data es).Perm ((key, data) :: es) := by
  induction es with
  | nil => exact .refl _
  | cons e es ih =>
    rw [place]
    split
    · exact (ih.cons e).trans (.swap _ _ _)
    · exact .refl _

theorem place_ascending (h : es.Pairwise (·.1 < ·.1)) (hnew : key ∉ es.map (·.1)) :
    (place key data es).Pairwise (·.1 < ·.1) := by
  induction es with
  | nil => exact List.pairwise_singleton _ _
  | cons e es ih =>
    obtain ⟨hfirst, hrest⟩ := List.pairwise_cons.mp h
    rw [List.map_cons, List.mem_cons, not_or] at hnew
    rw [place]
    split
    · next hlt =>
      refine .cons (fun e' he' => ?_) (ih hrest hnew.2)
      obtain rfl | he' := List.mem_cons.mp (place_perm.mem_iff.mp he')
      · exact hlt
      · exact hfirst e' he'
    · next hnot =>
      have hlt : key < e.1 :=
        ((Std.lt_trichotomy e.1 key).resolve_left hnot).resolve_left (Ne.symm hnew.1)
      refine .cons (fun e' he' => ?_) h
      obtain rfl | he' := List.mem_cons.mp he'
      · exact hlt
      · exact List.lt_trans hlt (hfirst e' he')

def insert? (m : OrderedMap α) (key : Bytes) (data : α) : Option (OrderedMap α) :=
  if h : key ∈ m.entries.map (·.1) then none
  else some ⟨place key data m.entries, place_ascending m.ascending h⟩

def find? (m : OrderedMap α) (key : Bytes) : Option (Bytes × α) := m.entries.find? (·.1 = key)

def contains (m : OrderedMap α) (key : Bytes) : Bool := (m.find? key).isSome

/-- Changes the data of one key. -/
def update (m : OrderedMap α) (key : Bytes) (f : α → α) : OrderedMap α where
  entries := m.entries.map fun e => if e.1 = key then (e.1, f e.2) else e
  ascending := by
    refine m.ascending.map _ fun a b hlt => ?_
    split <;> split <;> exact hlt

theorem keys_nodup (m : OrderedMap α) : (m.entries.map (·.1)).Nodup := by
  rw [List.Nodup, List.pairwise_map]
  refine m.ascending.imp fun {a b} hlt heq => ?_
  rw [heq] at hlt
  exact List.lt_irrefl b.1 hlt

theorem find?_eq_some_iff (m : OrderedMap α) : m.find? key = some e ↔ e ∈ m.entries ∧ e.1 = key :=
  find?_eq_some_iff_of_nodup m.keys_nodup

theorem contains_iff (m : OrderedMap α) : m.contains key ↔ key ∈ m.entries.map (·.1) := by
  simp only [contains, Option.isSome_iff_exists, find?_eq_some_iff, List.mem_map]

/-- Two rows that ascend and hold the same are the same. -/
theorem eq_of_perm {xs ys : List (Bytes × α)} (hxs : xs.Pairwise (·.1 < ·.1))
    (hys : ys.Pairwise (·.1 < ·.1)) (h : xs.Perm ys) : xs = ys :=
  h.eq_of_pairwise (fun _ _ _ _ hab hba => absurd hba (List.lt_asymm hab)) hxs hys

end OrderedMap
end TableTalk
