import TableTalk.Proofs.Ascii
import TableTalk.Text.Escape

/-! Text without the control characters of ASCII. Whatever is escaped comes out as such text, so
malformed bytes can be shown among other text and change nothing but their own place in it. -/
namespace TableTalk

namespace Text

/-- No control character of ASCII. -/
def Plain (c : Char) : Prop := 0x20 ≤ c.toNat ∧ c.toNat ≠ 0x7F

instance (c : Char) : Decidable (Plain c) := inferInstanceAs (Decidable (_ ∧ _))

/-- A text of plain characters, at every place. -/
def Clean (s : String) : Prop := ∀ c ∈ s.toList, Plain c

instance (s : String) : Decidable (Clean s) := List.decidableBAll Plain s.toList

variable {s t : String} {c : Char} {cs : List Char}

theorem clean_ofList : Clean (String.ofList cs) ↔ ∀ c ∈ cs, Plain c := by
  rw [Clean, String.toList_ofList]

theorem Clean.append (hs : Clean s) (ht : Clean t) : Clean (s ++ t) := by
  intro c hc
  rw [String.toList_append, List.mem_append] at hc
  exact hc.elim (hs c) (ht c)

theorem Clean.between {front back : String} (h : Clean s) (hfront : Clean front)
    (hback : Clean back) :
    Clean (front ++ s ++ back) :=
  (hfront.append h).append hback

theorem plain_of_isPrintable (h : isPrintable c) : Plain c := by
  rw [isPrintable] at h
  split at h
  · simpa [Plain] using h
  · next hlarge => exact ⟨by omega, by omega⟩

/-- A hexadecimal number is written in hexadecimal digits. -/
theorem exists_digit {width n : Nat} (h : c ∈ hex width n) : ∃ d < 16, c = Nat.digitChar d := by
  rw [hex, List.mem_append, List.mem_replicate] at h
  rcases h with ⟨-, rfl⟩ | h
  · exact ⟨0, by decide, rfl⟩
  · induction n using Nat.strongRecOn with
    | ind n ih =>
      rw [Nat.toDigits_eq_if (by decide)] at h
      split at h
      · next hlt => exact ⟨n, hlt, List.mem_singleton.mp h⟩
      · next hle =>
        rcases List.mem_append.mp h with h | h
        · exact ih (n / 16) (by omega) h
        · exact ⟨n % 16, Nat.mod_lt n (by decide), List.mem_singleton.mp h⟩

/-- In small letters or in capitals. -/
theorem plain_of_mem_hex {width n : Nat} (h : c ∈ hex width n) : Plain c ∧ Plain c.toUpper := by
  obtain ⟨d, hd, rfl⟩ := exists_digit h
  have hdigits : ∀ d < 16, Plain (Nat.digitChar d) ∧ Plain (Nat.digitChar d).toUpper := by decide
  exact hdigits d hd

theorem plain_of_mem_codeEscape {d : Char} (h : d ∈ codeEscape c) : Plain d := by
  simp only [codeEscape, List.mem_append, List.mem_cons, List.not_mem_nil, or_false] at h
  rcases h with (rfl | rfl | rfl | h) | rfl
  · decide
  · decide
  · decide
  · exact (plain_of_mem_hex h).1
  · decide

theorem plain_behind_backslash (h : Plain c) : ∀ d ∈ ['\\', c], Plain d :=
  List.forall_mem_cons.mpr ⟨by decide, List.forall_mem_singleton.mpr h⟩

/-- What has no picture of its own is escaped, and what it is escaped to has one. -/
theorem Escaping.plain_of_mem_char (e : Escaping) : ∀ d ∈ e.char c, Plain d := by
  unfold Escaping.char
  split
  case h_1 | h_2 | h_3 | h_4 | h_5 => exact plain_behind_backslash (by decide)
  case h_6 | h_7 =>
    split
    · exact plain_behind_backslash (by decide)
    · exact List.forall_mem_singleton.mpr (by decide)
  case h_8 =>
    split
    · exact fun d => plain_of_mem_codeEscape
    · next hprinted =>
      simp only [Bool.or_eq_true, not_or, Bool.not_eq_true', Bool.not_eq_false] at hprinted
      intro d hd
      rw [List.mem_singleton.mp hd]
      exact plain_of_isPrintable hprinted.2

theorem clean_quoteChar (c : Char) : Clean (quoteChar c) := by
  rw [quoteChar, clean_ofList]
  intro d hd
  simp only [List.mem_append, List.mem_cons, List.not_mem_nil, or_false] at hd
  rcases hd with (rfl | hd) | rfl
  · decide
  · exact Escaping.plain_of_mem_char _ d hd
  · decide

theorem clean_escape (s : String) : Clean (escape s) := by
  rw [escape]
  split
  · decide
  · next c rest _ =>
    rw [clean_ofList]
    intro d hd
    rcases List.mem_append.mp hd with hd | hd
    · exact Escaping.plain_of_mem_char _ d hd
    · obtain ⟨c', -, hd⟩ := List.mem_flatMap.mp hd
      exact Escaping.plain_of_mem_char _ d hd

/-- No byte of a clean text is a control byte. Those of characters beyond ASCII are all too large to
be one. -/
theorem Clean.bytes (h : Clean s) : ∀ b ∈ Utf8.encode s, 0x20 ≤ b.toNat ∧ b.toNat ≠ 0x7F := by
  intro b hb
  rw [Utf8.encode_eq_flatMap] at hb
  obtain ⟨c, hc, hb⟩ := List.mem_flatMap.mp hb
  rcases Utf8.encodeChar_cases c with ⟨a, hencode, rfl⟩ | ⟨-, -, -, -, hlarge⟩
  · rw [hencode] at hb
    obtain rfl := List.mem_singleton.mp hb
    have hplain := h _ hc
    rwa [Plain, Utf8.toNat_ofUInt8] at hplain
  · have hbyte := Utf8.encodeChar_large c hlarge b hb
    exact ⟨by omega, by omega⟩

end Text

namespace Utf8

/-- Text that was encoded reads as it was. -/
theorem lossy_encode (s : String) : lossy (encode s) = s := by
  rw [lossy, encode_eq_flatMap, pieces_flatMap, List.map_map]
  exact (congrArg String.ofList (List.map_id s.toList)).trans String.ofList_toList

/-- A row of ASCII bytes reads as the characters with these numbers. -/
theorem lossy_ascii {w : Bytes} (hw : ∀ b ∈ w, b.toNat < 0x80) :
    lossy w = String.ofList (w.map Char.ofUInt8) := by
  have hencode : (w.map Char.ofUInt8).flatMap String.utf8EncodeChar = w ++ [] :=
    (encode_eq_append_iff hw).mpr ⟨[], (List.append_nil _).symm, rfl⟩
  rw [List.append_nil] at hencode
  rw [← lossy_encode (String.ofList (w.map Char.ofUInt8)), encode_ofList, hencode]

end Utf8
end TableTalk
