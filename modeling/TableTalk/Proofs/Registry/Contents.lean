import TableTalk.Proofs.OrderedMap
import TableTalk.Proofs.Registry.Index
import TableTalk.Proofs.SkipList.Balanced
import TableTalk.Proofs.SkipList.Traversal
import TableTalk.Proofs.Utf8
import TableTalk.Registry.Compile

/-! What a registry holds. A name is under its own key, in the index or in the table of loose names;
no key is in both. Names are entered at the end, and a compilation only moves them. -/
namespace TableTalk
open SkipList (Builder)

/-- A name under its key. -/
def Name.entry (n : Name) : Bytes × Name := (Utf8.encode n.key, n)

namespace Registry
variable {r r' : Registry} {names : List Name} {name : Name} {key : Bytes} {e : Bytes × Name}

def indexed (r : Registry) : List (Bytes × Name) := r.index.elim [] (·.toList)

/-- All that is stored, the indexed names first. -/
def entries (r : Registry) : List (Bytes × Name) := r.indexed ++ r.loose.list.entries

/-- The registry holds these names and no others. -/
structure Holds (r : Registry) (names : List Name) : Prop where
  wellFormed : r.loose.list.WellFormed
  perm : r.entries.Perm (names.map Name.entry)
  keys_nodup : (names.map (·.key)).Nodup

theorem holds_empty (coins : Coins) (limit : Option Nat) (o : Orthography) :
    (empty coins limit o).Holds [] where
  wellFormed := SkipList.wellFormed_empty
  perm := .refl _
  keys_nodup := .nil

theorem Holds.nodup (h : r.Holds names) : (r.entries.map (·.1)).Nodup := by
  have hkeys : ((names.map (·.key)).map Utf8.encode).Nodup := h.keys_nodup.map Utf8.encode_injective
  rw [List.map_map] at hkeys
  rw [(h.perm.map _).nodup_iff, List.map_map]
  exact hkeys

theorem Holds.mem_iff (h : r.Holds names) : e ∈ r.entries ↔ ∃ n ∈ names, n.entry = e := by
  rw [h.perm.mem_iff, List.mem_map]

theorem Holds.mem_keys_iff (h : r.Holds names) :
    Utf8.encode name.key ∈ r.entries.map (·.1) ↔ name.key ∈ names.map (·.key) := by
  simp only [List.mem_map, h.mem_iff]
  constructor
  · rintro ⟨_, ⟨n, hn, rfl⟩, hkey⟩
    exact ⟨n, hn, Utf8.encode_injective hkey⟩
  · rintro ⟨n, hn, hkey⟩
    exact ⟨n.entry, ⟨n, hn, rfl⟩, congrArg Utf8.encode hkey⟩

theorem any_contains_iff : r.index.any (·.contains key) ↔ key ∈ r.indexed.map (·.1) := by
  rw [indexed]
  cases r.index with
  | none => simp
  | some t => exact Index.contains_iff

theorem indexSize_eq_length (r : Registry) : r.indexSize = r.indexed.length := by
  rw [indexSize, indexed]
  cases r.index with
  | none => rfl
  | some t => exact Index.size_eq_length

theorem looseSize_eq_length (r : Registry) : r.looseSize = r.loose.list.entries.length :=
  r.loose.list.size_eq_length

theorem size_eq_length (r : Registry) : r.size = r.entries.length := by
  rw [size, entries, List.length_append, indexSize_eq_length, looseSize_eq_length]

theorem Holds.size_eq (h : r.Holds names) : r.size = names.length := by
  rw [size_eq_length, h.perm.length_eq, List.length_map]

/-- A name is refused if its key is taken, and nothing changes; otherwise it joins the others. -/
theorem Holds.enter (h : r.Holds names) (name : Name) :
    (name.key ∈ names.map (·.key) ∧ r.enter name = (false, r)) ∨
      (name.key ∉ names.map (·.key) ∧ ∃ r', r.enter name = (true, r') ∧
        r'.orthography = r.orthography ∧ r'.limit = r.limit ∧ r'.Holds (names ++ [name])) := by
  rw [← h.mem_keys_iff, entries, List.map_append, List.mem_append, ← any_contains_iff,
    Registry.enter]
  by_cases hindex : r.index.any (·.contains (Utf8.encode name.key))
  · exact .inl ⟨.inl hindex, if_pos hindex⟩
  · have hspec := h.wellFormed.insert?_spec (show 0 < r.loose.coins.height from Nat.succ_pos _)
      (Utf8.encode name.key) name
    simp only [if_neg hindex, SkipTable.add]
    cases hinsert : r.loose.list.insert? r.loose.coins.height (Utf8.encode name.key) name with
    | none =>
      rw [hinsert] at hspec
      exact .inl ⟨.inr hspec, rfl⟩
    | some l =>
      rw [hinsert] at hspec
      obtain ⟨hwell, hentries, hnew⟩ := hspec
      have hfresh : Utf8.encode name.key ∉ r.entries.map (·.1) := by
        rw [entries, List.map_append, List.mem_append, ← any_contains_iff]
        exact not_or.mpr ⟨hindex, hnew⟩
      refine .inr ⟨not_or.mpr ⟨hindex, hnew⟩, _, rfl, rfl, rfl, hwell, ?_, ?_⟩
      · rw [List.map_append]
        refine (List.Perm.of_eq ?_).trans (h.perm.append_right _)
        rw [entries, entries, hentries, List.append_assoc]
        rfl
      · rw [List.map_append, List.nodup_append]
        refine ⟨h.keys_nodup, List.pairwise_singleton _ _, ?_⟩
        rintro key hkey _ hname rfl
        obtain rfl := List.mem_singleton.mp hname
        exact hfresh (h.mem_keys_iff.mpr hkey)

/-- Whatever part a key is in, it is found there. -/
theorem Holds.findKey?_eq_some_iff (h : r.Holds names) :
    r.findKey? key = some name ↔ (key, name) ∈ r.entries := by
  have hindex (e : Bytes × Name) :
      r.index.bind (·.find? key) = some e ↔ e ∈ r.indexed ∧ e.1 = key := by
    rw [indexed]
    cases r.index with
    | none => simp
    | some t => exact Index.find?_eq_some_iff
  have hloose (e : Bytes × Name) :
      r.loose.find? key = some e ↔ e ∈ r.loose.list.entries ∧ e.1 = key :=
    h.wellFormed.find?_eq_some_iff
  have hnodup := h.nodup
  rw [entries, List.map_append] at hnodup
  simp only [findKey?, Option.map_eq_some_iff, Option.or_eq_some_iff, hindex, hloose, entries,
    List.mem_append]
  constructor
  · rintro ⟨e, ⟨hmem, rfl⟩ | ⟨-, hmem, rfl⟩, rfl⟩
    · exact .inl hmem
    · exact .inr hmem
  · rintro (hmem | hmem)
    · exact ⟨_, .inl ⟨hmem, rfl⟩, rfl⟩
    · refine ⟨_, .inr ⟨?_, hmem, rfl⟩, rfl⟩
      rw [Option.eq_none_iff_forall_ne_some]
      intro e he
      obtain ⟨hindexed, rfl⟩ := (hindex e).mp he
      exact List.disjoint_of_nodup_append hnodup (List.mem_map_of_mem hindexed)
        (List.mem_map.mpr ⟨_, hmem, rfl⟩)

/-- What is found under a key is the name that has it. -/
theorem Holds.findKey?_eq (h : r.Holds names) (key : String) :
    r.findKey? (Utf8.encode key) = names.find? (·.key = key) := by
  apply Option.ext
  intro n
  rw [h.findKey?_eq_some_iff, h.mem_iff, find?_eq_some_iff_of_nodup h.keys_nodup]
  constructor
  · rintro ⟨n', hn, heq⟩
    obtain ⟨hkey, rfl⟩ := Prod.mk.inj heq
    exact ⟨hn, Utf8.encode_injective hkey⟩
  · rintro ⟨hn, rfl⟩
    exact ⟨n, hn, rfl⟩

end Registry
end TableTalk
