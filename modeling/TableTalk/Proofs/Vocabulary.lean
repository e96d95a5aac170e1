import TableTalk.Proofs.Bytes
import TableTalk.Vocabulary

/-! Looking a word up by halving finds the keyword that is spelled like it in capitals, and no
other: the same that comparing the word with every entry finds, if case is ignored. -/
namespace TableTalk

/-- A property of bytes can be checked on all of them. -/
theorem forall_byte {P : UInt8 → Prop} (h : ∀ i : Fin 256, P (UInt8.ofFin i)) (b : UInt8) :
    P b := by
  have hb := h b.toFin
  simpa using hb

namespace Keyword
variable {k : Keyword} {i : Nat} {word other : Bytes}

theorem mem_all (k : Keyword) : k ∈ all := by
  cases k <;> simp [all]

theorem spellings_ascend :
    all.toList.Pairwise fun j k =>
      compare (Utf8.encode j.spelling) (Utf8.encode k.spelling) = .lt := by
  decide

theorem side_eq_eq : k.side word = .eq ↔ word.map capital = Utf8.encode k.spelling := by
  rw [side, Std.compare_eq_iff_eq, eq_comm]

/-- The entries ascend past every word, whether there is an entry for it or not. -/
theorem passes (word : Bytes) : Passes all (·.side word) := by
  refine spellings_ascend.imp ?_
  intro j k hlt hside
  apply Std.TransCmp.lt_of_lt_of_isLE hlt
  rwa [← Ordering.ne_gt_iff_isLE]

theorem find?_eq_some_iff :
    find? word = some (k, i) ↔ all[i]? = some k ∧ word.map capital = Utf8.encode k.spelling := by
  rw [find?, Option.bind_eq_some_iff]
  simp only [(passes word).bisect_eq_some_iff, Option.map_eq_some_iff, Prod.mk.injEq]
  constructor
  · rintro ⟨_, ⟨j, hj, hside⟩, _, hk, rfl, rfl⟩
    rw [hj] at hk
    cases hk
    exact ⟨hj, side_eq_eq.mp hside⟩
  · rintro ⟨hk, hword⟩
    exact ⟨i, ⟨k, hk, side_eq_eq.mpr hword⟩, k, hk, rfl, rfl⟩

/-- A word is found exactly if it is spelled like a keyword in capitals. -/
theorem exists_find?_iff :
    (∃ i, find? word = some (k, i)) ↔ word.map capital = Utf8.encode k.spelling := by
  simp only [find?_eq_some_iff, exists_and_right, and_iff_right_iff_imp]
  intro _
  exact Array.getElem?_of_mem (mem_all k)

/-- A position that was found has an entry. -/
theorem at?_of_find? (h : find? word = some (k, i)) : at? i = .ok k := by
  rw [at?, (find?_eq_some_iff.mp h).1]

/-- A letter in its small form; any other byte as it is. -/
def small (b : UInt8) : Char := (Char.ofUInt8 b).toLower

/-- The same word, if case is ignored. -/
def SameWord (word other : Bytes) : Prop := word.map small = other.map small

instance : Decidable (SameWord word other) := inferInstanceAs (Decidable (_ = _))

/-- Capitals and small letters keep the same bytes apart: each form can be had from the other. -/
theorem capital_of_small (b : UInt8) : capital b = (small b).toUpper.toUInt8 := by
  revert b
  exact forall_byte (by decide +kernel)

theorem small_capital (b : UInt8) : small (capital b) = small b := by
  revert b
  exact forall_byte (by decide +kernel)

theorem sameWord_iff : SameWord word other ↔ word.map capital = other.map capital := by
  constructor
  · intro h
    have hcapitals (w : Bytes) : w.map capital = (w.map small).map (·.toUpper.toUInt8) := by
      rw [List.map_map]
      exact List.map_congr_left fun b _ => capital_of_small b
    rw [hcapitals, hcapitals, h]
  · intro h
    have hsmalls (w : Bytes) : w.map small = (w.map capital).map small := by
      rw [List.map_map]
      exact List.map_congr_left fun b _ => (small_capital b).symm
    rw [SameWord, hsmalls, hsmalls other, h]

theorem sameWord_spelling_iff :
    SameWord word (Utf8.encode k.spelling) ↔ word.map capital = Utf8.encode k.spelling := by
  have hcapitals : (Utf8.encode k.spelling).map capital = Utf8.encode k.spelling := by
    cases k <;> decide
  rw [sameWord_iff, hcapitals]

/-- Compares a word with one entry after another, ignoring case. -/
def scan? (word : Bytes) : Option (Keyword × Nat) :=
  all.toList.zipIdx.find? fun (k, _) => SameWord word (Utf8.encode k.spelling)

theorem entry_unique {j : Nat} {k' : Keyword} (hi : all[i]? = some k) (hj : all[j]? = some k')
    (hword : word.map capital = Utf8.encode k.spelling)
    (hword' : word.map capital = Utf8.encode k'.spelling) :
    (k, i) = (k', j) := by
  obtain rfl := (passes word).index_unique hi hj (side_eq_eq.mpr hword) (side_eq_eq.mpr hword')
  rw [hi] at hj
  cases hj
  rfl

/-- The entry that a scan comes to first is the only one. -/
theorem scan?_eq_some_iff :
    scan? word = some (k, i) ↔ all[i]? = some k ∧ word.map capital = Utf8.encode k.spelling := by
  have hentry {k : Keyword} {i : Nat} (h : scan? word = some (k, i)) :
      all[i]? = some k ∧ word.map capital = Utf8.encode k.spelling := by
    have hmem := List.mem_of_find?_eq_some h
    have hsame := List.find?_some h
    rw [List.mk_mem_zipIdx_iff_getElem?, Array.getElem?_toList] at hmem
    exact ⟨hmem, sameWord_spelling_iff.mp (of_decide_eq_true hsame)⟩
  refine ⟨hentry, ?_⟩
  rintro ⟨hk, hword⟩
  have hmem : (k, i) ∈ all.toList.zipIdx := by
    rwa [List.mk_mem_zipIdx_iff_getElem?, Array.getElem?_toList]
  have hsome : (scan? word).isSome :=
    List.find?_isSome.mpr ⟨(k, i), hmem, decide_eq_true (sameWord_spelling_iff.mpr hword)⟩
  obtain ⟨⟨k', j⟩, hscan⟩ := Option.isSome_iff_exists.mp hsome
  obtain ⟨hk', hword'⟩ := hentry hscan
  rw [hscan, entry_unique hk hk' hword hword']

/-- A word is found exactly if in capitals it is how some keyword is spelled, and then that keyword
is found, at a position where the list of all keywords and the table of their spellings have it.
Comparing the word with every entry, ignoring case, finds the same: words that end too early or go
on too long, and words with other bytes, are not found. -/
theorem find?_in_any_case (word : Bytes) :
    ((find? word).isSome ↔ ∃ k : Keyword, word.map capital = Utf8.encode k.spelling) ∧
    (∀ k i, find? word = some (k, i) ↔
      word.map capital = Utf8.encode k.spelling ∧ all[i]? = some k ∧
      (at? i).map spelling = .ok k.spelling) ∧
    find? word = scan? word := by
  refine ⟨?_, ?_, ?_⟩
  · simp only [Option.isSome_iff_exists, Prod.exists, exists_find?_iff]
  · intro k i
    rw [find?_eq_some_iff]
    constructor
    · rintro ⟨hk, hword⟩
      refine ⟨hword, hk, ?_⟩
      rw [at?_of_find? (find?_eq_some_iff.mpr ⟨hk, hword⟩)]
      rfl
    · rintro ⟨hword, hk, -⟩
      exact ⟨hk, hword⟩
  · apply Option.ext
    rintro ⟨k, i⟩
    rw [find?_eq_some_iff, scan?_eq_some_iff]

end Keyword
end TableTalk
