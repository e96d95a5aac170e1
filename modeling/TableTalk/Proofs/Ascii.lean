import TableTalk.Proofs.Utf8

/-! ASCII in UTF-8. A character of seven bits is one byte, and no other character has such a byte at
its front; so what is said of ASCII at the front of a text can be said of its bytes. -/
namespace TableTalk.Utf8
variable {w t : Bytes} {cs : List Char}

theorem toNat_ofUInt8 (b : UInt8) : (Char.ofUInt8 b).toNat = b.toNat := UInt8.toNat_toUInt32 b

theorem toNat_toUInt8 {c : Char} (h : c.toNat < 0x80) : c.toUInt8.toNat = c.toNat :=
  (UInt32.toNat_toUInt8 c.val).trans (Nat.mod_eq_of_lt (by rw [Char.toNat] at h; omega))

/-- Every ASCII text is a row of bytes. -/
theorem exists_bytes {chars : List Char} (h : ∀ c ∈ chars, c.toNat < 0x80) :
    ∃ w : Bytes, w.map Char.ofUInt8 = chars ∧ ∀ b ∈ w, b.toNat < 0x80 := by
  refine ⟨chars.map Char.toUInt8, ?_, ?_⟩
  · rw [List.map_map, List.map_congr_left (g := id), List.map_id]
    intro c hc
    apply Char.toNat_inj.mp
    rw [Function.comp_apply, toNat_ofUInt8, toNat_toUInt8 (h c hc), id_eq]
  · intro b hb
    obtain ⟨c, hc, rfl⟩ := List.mem_map.mp hb
    rw [toNat_toUInt8 (h c hc)]
    exact h c hc

/-- A character is one byte of seven bits, or begins with a larger byte. -/
theorem encodeChar_cases (c : Char) :
    (∃ b : UInt8, String.utf8EncodeChar c = [b] ∧ Char.ofUInt8 b = c) ∨
      ∃ a s, String.utf8EncodeChar c = a :: s ∧ 0x80 ≤ a.toNat ∧ 0x80 ≤ c.toNat := by
  have hspelling := spelling_encode c
  generalize String.utf8EncodeChar c = s at hspelling ⊢
  generalize hv : c.val.toNat = v at hspelling
  have hc : c.toNat = v := hv
  cases hspelling with
  | one ha =>
    refine .inl ⟨_, rfl, ?_⟩
    apply Char.toNat_inj.mp
    rw [toNat_ofUInt8, hc]
  | two | three | four =>
    refine .inr ⟨_, _, rfl, by omega, ?_⟩
    rw [hc]
    omega

/-- All bytes of a character that is not one byte of seven bits are larger. -/
theorem encodeChar_large (c : Char) (h : 0x80 ≤ c.toNat) :
    ∀ b ∈ String.utf8EncodeChar c, 0x80 ≤ b.toNat := by
  have hspelling := spelling_encode c
  generalize String.utf8EncodeChar c = s at hspelling ⊢
  generalize hv : c.val.toNat = v at hspelling
  have hc : c.toNat = v := hv
  cases hspelling with
  | one ha => omega
  | two | three | four =>
    simp only [List.forall_mem_cons, List.not_mem_nil, false_implies, implies_true, and_true]
    omega

/-- ASCII is as often among the bytes of a text as among its characters. -/
theorem count_encode {b : UInt8} (hb : b.toNat < 0x80) (cs : List Char) :
    (cs.flatMap String.utf8EncodeChar).count b = cs.count (Char.ofUInt8 b) := by
  induction cs with
  | nil => rfl
  | cons c cs ih =>
    rw [List.flatMap_cons, List.count_append, ih, List.count_cons, Nat.add_comm]
    congr 1
    rcases encodeChar_cases c with ⟨a, ha, rfl⟩ | ⟨-, -, -, -, hlarge⟩
    · rw [ha, List.count_singleton]
      have hsame : (Char.ofUInt8 a == Char.ofUInt8 b) = (a == b) := by
        rw [Bool.eq_iff_iff, beq_iff_eq, beq_iff_eq, ← Char.toNat_inj, toNat_ofUInt8, toNat_ofUInt8,
          UInt8.toNat_inj]
      rw [hsame]
    · have hbytes : b ∉ String.utf8EncodeChar c := fun hmem => by
        have := encodeChar_large c hlarge b hmem
        omega
      have hchar : (c == Char.ofUInt8 b) = false := by
        apply beq_false_of_ne
        rintro rfl
        rw [toNat_ofUInt8] at hlarge
        omega
      rw [List.count_eq_zero_of_not_mem hbytes, hchar]
      rfl

/-- Where only ASCII is skipped, skipping characters is skipping bytes. -/
theorem dropWhile_encode {p : Char → Bool} (hp : ∀ c, p c → c.toNat < 0x80) (cs : List Char) :
    (cs.flatMap String.utf8EncodeChar).dropWhile (fun b => p (Char.ofUInt8 b)) =
      (cs.dropWhile p).flatMap String.utf8EncodeChar := by
  induction cs with
  | nil => rfl
  | cons c cs ih =>
    rcases encodeChar_cases c with ⟨b, hb, rfl⟩ | ⟨a, s, ha, hbyte, hchar⟩
    · by_cases hskip : p (Char.ofUInt8 b)
      · rw [List.dropWhile_cons_of_pos hskip, ← ih, List.flatMap_cons, hb]
        exact List.dropWhile_cons_of_pos hskip
      · rw [List.dropWhile_cons_of_neg hskip, List.flatMap_cons, hb]
        exact List.dropWhile_cons_of_neg hskip
    · have hkeep : ¬p c := fun h => absurd (hp c h) (Nat.not_lt.mpr hchar)
      have hkeep' : ¬p (Char.ofUInt8 a) := by
        intro h
        have hlt := hp _ h
        rw [toNat_ofUInt8] at hlt
        omega
      rw [List.dropWhile_cons_of_neg hkeep, List.flatMap_cons, ha, List.cons_append]
      exact List.dropWhile_cons_of_neg hkeep'

/-- Bytes of seven bits at the front of a text are its first characters. -/
theorem encode_eq_append_iff (hw : ∀ b ∈ w, b.toNat < 0x80) :
    cs.flatMap String.utf8EncodeChar = w ++ t ↔
      ∃ rest, cs = w.map Char.ofUInt8 ++ rest ∧ rest.flatMap String.utf8EncodeChar = t := by
  induction w generalizing cs with
  | nil => exact ⟨fun h => ⟨cs, rfl, h⟩, fun ⟨_, hcs, h⟩ => hcs ▸ h⟩
  | cons a w ih =>
    have ha := hw a List.mem_cons_self
    have hmore : ∀ b ∈ w, b.toNat < 0x80 := fun b hb => hw b (List.mem_cons_of_mem a hb)
    cases cs with
    | nil =>
      constructor
      · nofun
      · rintro ⟨rest, hcs, -⟩
        cases hcs
    | cons c cs =>
      rw [List.flatMap_cons, List.map_cons]
      rcases encodeChar_cases c with ⟨b, hb, rfl⟩ | ⟨b, s, hb, hbyte, hchar⟩
      · constructor
        · intro h
          rw [hb, List.singleton_append, List.cons_append] at h
          obtain ⟨rfl, htail⟩ := List.cons.inj h
          obtain ⟨rest, rfl, hrest⟩ := (ih hmore).mp htail
          exact ⟨rest, rfl, hrest⟩
        · rintro ⟨rest, hcs, hrest⟩
          rw [List.cons_append] at hcs
          obtain ⟨hba, rfl⟩ := List.cons.inj hcs
          have hsame : b = a := by
            rw [← UInt8.toNat_inj, ← toNat_ofUInt8 b, hba, toNat_ofUInt8]
          rw [hb, hsame, (ih hmore).mpr ⟨rest, rfl, hrest⟩]
          rfl
      · constructor
        · intro h
          rw [hb] at h
          obtain ⟨rfl, -⟩ := List.cons.inj h
          omega
        · rintro ⟨rest, hcs, -⟩
          obtain ⟨rfl, -⟩ := List.cons.inj hcs
          rw [toNat_ofUInt8] at hchar
          omega

end TableTalk.Utf8
