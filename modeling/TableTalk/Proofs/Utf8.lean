import Mathlib.Data.List.Basic
import Mathlib.Data.List.TakeWhile
import Mathlib.Tactic.SplitIfs
import TableTalk.Text.Utf8

/-! Decoding undoes encoding, and nothing else is decoded: text is read off a byte string exactly if
the byte string is its encoding. -/
namespace TableTalk.Utf8
variable {a b : UInt8} {s t : Bytes} {c : Char} {v n : Nat}

/-- The well formed byte strings of one character, and its number. -/
inductive Spelling : Bytes → Nat → Prop
  | one {a : UInt8} : a.toNat < 0x80 → Spelling [a] a.toNat
  | two {a b : UInt8} : 0xC2 ≤ a.toNat → a.toNat ≤ 0xDF → 0x80 ≤ b.toNat → b.toNat ≤ 0xBF →
      Spelling [a, b] (a.toNat % 32 * 64 + b.toNat % 64)
  | three {a b c : UInt8} : 0xE0 ≤ a.toNat → a.toNat ≤ 0xEF → 0x80 ≤ b.toNat → b.toNat ≤ 0xBF →
      (a.toNat = 0xE0 → 0xA0 ≤ b.toNat) → (a.toNat = 0xED → b.toNat ≤ 0x9F) →
      0x80 ≤ c.toNat → c.toNat ≤ 0xBF →
      Spelling [a, b, c] ((a.toNat % 16 * 64 + b.toNat % 64) * 64 + c.toNat % 64)
  | four {a b c d : UInt8} : 0xF0 ≤ a.toNat → a.toNat ≤ 0xF4 → 0x80 ≤ b.toNat → b.toNat ≤ 0xBF →
      (a.toNat = 0xF0 → 0x90 ≤ b.toNat) → (a.toNat = 0xF4 → b.toNat ≤ 0x8F) →
      0x80 ≤ c.toNat → c.toNat ≤ 0xBF → 0x80 ≤ d.toNat → d.toNat ≤ 0xBF →
      Spelling [a, b, c, d] (((a.toNat % 8 * 64 + b.toNat % 64) * 64 + c.toNat % 64) * 64 +
        d.toNat % 64)

theorem Spelling.isValidChar (h : Spelling s v) : v.isValidChar := by
  cases h with
  | one | two | three | four =>
    simp only [Nat.isValidChar]
    omega

theorem Spelling.encode (h : Spelling s v) : String.utf8EncodeChar (Char.ofNat v) = s := by
  have hv : (Char.ofNat v).val.toNat = v := by
    rw [Char.ofNat, dif_pos h.isValidChar]
    rfl
  rw [String.utf8EncodeChar, hv]
  cases h with
  | one ha => rw [if_pos (show _ ≤ 0x7f from Nat.le_of_lt_succ ha), UInt8.ofNat_toNat]
  | two =>
    rw [if_neg (by omega), if_pos (by omega)]
    simp only [List.cons.injEq, ← UInt8.toNat_inj, UInt8.toNat_ofNat', and_true]
    omega
  | three =>
    rw [if_neg (by omega), if_neg (by omega), if_pos (by omega)]
    simp only [List.cons.injEq, ← UInt8.toNat_inj, UInt8.toNat_ofNat', and_true]
    omega
  | four =>
    rw [if_neg (by omega), if_neg (by omega), if_neg (by omega)]
    simp only [List.cons.injEq, ← UInt8.toNat_inj, UInt8.toNat_ofNat', and_true]
    omega

theorem Spelling.of_eq (h : Spelling s n) (hn : n = v) : Spelling s v := hn ▸ h

theorem spelling_encode (c : Char) : Spelling (String.utf8EncodeChar c) c.val.toNat := by
  have hvalid : c.val.toNat < 0xD800 ∨ 0xDFFF < c.val.toNat ∧ c.val.toNat < 0x110000 := c.valid
  rw [String.utf8EncodeChar]
  generalize c.val.toNat = v at hvalid
  split
  · have ha := UInt8.toNat_ofNat_of_lt' (show v < 256 by omega)
    exact (Spelling.one (by omega)).of_eq ha
  · split
    · have ha := UInt8.toNat_ofNat_of_lt' (show v / 64 % 32 + 0xC0 < 256 by omega)
      have hb := UInt8.toNat_ofNat_of_lt' (show v % 64 + 0x80 < 256 by omega)
      exact (Spelling.two (by omega) (by omega) (by omega) (by omega)).of_eq (by omega)
    · split
      · have ha := UInt8.toNat_ofNat_of_lt' (show v / 4096 % 16 + 0xE0 < 256 by omega)
        have hb := UInt8.toNat_ofNat_of_lt' (show v / 64 % 64 + 0x80 < 256 by omega)
        have hc := UInt8.toNat_ofNat_of_lt' (show v % 64 + 0x80 < 256 by omega)
        exact (Spelling.three (by omega) (by omega) (by omega) (by omega) (by omega) (by omega)
          (by omega) (by omega)).of_eq (by omega)
      · have ha := UInt8.toNat_ofNat_of_lt' (show v / 262144 % 8 + 0xF0 < 256 by omega)
        have hb := UInt8.toNat_ofNat_of_lt' (show v / 4096 % 64 + 0x80 < 256 by omega)
        have hc := UInt8.toNat_ofNat_of_lt' (show v / 64 % 64 + 0x80 < 256 by omega)
        have hd := UInt8.toNat_ofNat_of_lt' (show v % 64 + 0x80 < 256 by omega)
        exact (Spelling.four (by omega) (by omega) (by omega) (by omega) (by omega) (by omega)
          (by omega) (by omega) (by omega) (by omega)).of_eq (by omega)

theorem isContinuation_iff : isContinuation b ↔ 0x80 ≤ b.toNat ∧ b.toNat ≤ 0xBF := by
  simp only [isContinuation, Bool.and_eq_true, decide_eq_true_eq, UInt8.le_iff_toNat_le]
  rfl

/-- The rest of a character is complete if as many bytes of it are well formed as are announced. -/
theorem Lead.reach_eq_tail {l : Lead} (hpos : 0 < l.tail) :
    l.reach s = l.tail ↔ ∃ b t rest, s = b :: (t ++ rest) ∧ t.length + 1 = l.tail ∧
      (l.low ≤ b ∧ b ≤ l.high) ∧ ∀ x ∈ t, isContinuation x := by
  constructor
  · intro h
    cases s with
    | nil =>
      rw [reach] at h
      omega
    | cons b s =>
      rw [reach] at h
      split at h
      · next hbounds =>
        have hle := List.length_take_le (l.tail - 1) s
        have hall : (s.take (l.tail - 1)).takeWhile isContinuation = s.take (l.tail - 1) :=
          (List.takeWhile_prefix _).eq_of_length_le (by omega)
        refine ⟨b, s.take (l.tail - 1), s.drop (l.tail - 1), by rw [List.take_append_drop], ?_,
          hbounds, ?_⟩
        · rw [hall] at h
          omega
        · exact List.takeWhile_eq_self_iff.mp hall
      · omega
  · rintro ⟨b, t, rest, rfl, hlength, hbounds, hcontinues⟩
    have htake : (t ++ rest).take (l.tail - 1) = t := List.take_left' (by omega)
    rw [reach, if_pos hbounds, htake, List.takeWhile_eq_self_iff.mpr hcontinues]
    omega

theorem lead?_eq (a : UInt8) :
    lead? a =
      if a.toNat < 0xC2 then none
      else if a.toNat ≤ 0xDF then some ⟨1, 0x80, 0xBF⟩
      else if a.toNat = 0xE0 then some ⟨2, 0xA0, 0xBF⟩
      else if a.toNat = 0xED then some ⟨2, 0x80, 0x9F⟩
      else if a.toNat ≤ 0xEF then some ⟨2, 0x80, 0xBF⟩
      else if a.toNat = 0xF0 then some ⟨3, 0x90, 0xBF⟩
      else if a.toNat ≤ 0xF3 then some ⟨3, 0x80, 0xBF⟩
      else if a.toNat = 0xF4 then some ⟨3, 0x80, 0x8F⟩
      else none := by
  simp only [lead?, UInt8.lt_iff_toNat_lt, UInt8.le_iff_toNat_le, ← UInt8.toNat_inj]
  rfl

/-- What follows a lead that announces it. -/
structure Announced (a b : UInt8) (t : Bytes) (l : Lead) : Prop where
  lead : lead? a = some l
  length : t.length + 1 = l.tail
  low : l.low.toNat ≤ b.toNat
  high : b.toNat ≤ l.high.toNat
  continues : ∀ x ∈ t, isContinuation x

theorem Spelling.announced (h : Spelling (a :: b :: t) v) :
    v = assemble a (b :: t) ∧ ∃ l, Announced a b t l := by
  cases h with
  | two ha ha' hb hb' =>
    refine ⟨rfl, ⟨1, 0x80, 0xBF⟩, ?_, rfl, hb, hb', by simp⟩
    rw [lead?_eq, if_neg (by omega), if_pos (by omega)]
  | @three _ _ c ha ha' hb hb' hlow hhigh hc hc' =>
    have hcontinues : ∀ x ∈ [c], isContinuation x := by simpa using isContinuation_iff.mpr ⟨hc, hc'⟩
    refine ⟨rfl, ?_⟩
    by_cases he0 : a.toNat = 0xE0
    · refine ⟨⟨2, 0xA0, 0xBF⟩, ?_, rfl, hlow he0, hb', hcontinues⟩
      rw [lead?_eq, if_neg (by omega), if_neg (by omega), if_pos he0]
    · by_cases hed : a.toNat = 0xED
      · refine ⟨⟨2, 0x80, 0x9F⟩, ?_, rfl, hb, hhigh hed, hcontinues⟩
        rw [lead?_eq, if_neg (by omega), if_neg (by omega), if_neg he0, if_pos hed]
      · refine ⟨⟨2, 0x80, 0xBF⟩, ?_, rfl, hb, hb', hcontinues⟩
        rw [lead?_eq, if_neg (by omega), if_neg (by omega), if_neg he0, if_neg hed,
          if_pos (by omega)]
  | @four _ _ c d ha ha' hb hb' hlow hhigh hc hc' hd hd' =>
    have hcontinues : ∀ x ∈ [c, d], isContinuation x := by
      simpa using ⟨isContinuation_iff.mpr ⟨hc, hc'⟩, isContinuation_iff.mpr ⟨hd, hd'⟩⟩
    have hlead := lead?_eq a
    rw [if_neg (by omega), if_neg (by omega), if_neg (by omega), if_neg (by omega),
      if_neg (by omega)] at hlead
    refine ⟨rfl, ?_⟩
    by_cases hf0 : a.toNat = 0xF0
    · exact ⟨⟨3, 0x90, 0xBF⟩, by rw [hlead, if_pos hf0], rfl, hlow hf0, hb', hcontinues⟩
    · by_cases hf4 : a.toNat = 0xF4
      · refine ⟨⟨3, 0x80, 0x8F⟩, ?_, rfl, hb, hhigh hf4, hcontinues⟩
        rw [hlead, if_neg hf0, if_neg (by omega), if_pos hf4]
      · exact ⟨⟨3, 0x80, 0xBF⟩, by rw [hlead, if_neg hf0, if_pos (by omega)], rfl, hb, hb',
          hcontinues⟩

/-- The rows of leads: two, three and four bytes in all. -/
theorem lead?_cases {l : Lead} (h : lead? a = some l) :
    (l.tail = 1 ∧ 0xC2 ≤ a.toNat ∧ a.toNat ≤ 0xDF ∧ 0x80 ≤ l.low.toNat ∧ l.high.toNat ≤ 0xBF) ∨
    (l.tail = 2 ∧ 0xE0 ≤ a.toNat ∧ a.toNat ≤ 0xEF ∧ 0x80 ≤ l.low.toNat ∧ l.high.toNat ≤ 0xBF ∧
      (a.toNat = 0xE0 → 0xA0 ≤ l.low.toNat) ∧ (a.toNat = 0xED → l.high.toNat ≤ 0x9F)) ∨
    (l.tail = 3 ∧ 0xF0 ≤ a.toNat ∧ a.toNat ≤ 0xF4 ∧ 0x80 ≤ l.low.toNat ∧ l.high.toNat ≤ 0xBF ∧
      (a.toNat = 0xF0 → 0x90 ≤ l.low.toNat) ∧ (a.toNat = 0xF4 → l.high.toNat ≤ 0x8F)) := by
  rw [lead?_eq] at h
  split_ifs at h <;> cases h
  · exact .inl (by simp; omega)
  all_goals first
    | exact .inr (.inl (by simp; omega))
    | exact .inr (.inr (by simp; omega))

/-- A lead and what it announces spell a character. -/
theorem Announced.spelling {l : Lead} (h : Announced a b t l) :
    Spelling (a :: b :: t) (assemble a (b :: t)) := by
  obtain ⟨hlead, hlength, hlow, hhigh, hcontinues⟩ := h
  obtain ⟨htail, ha, ha', hleast, hmost⟩ | ⟨htail, ha, ha', hleast, hmost, he0, hed⟩ |
    ⟨htail, ha, ha', hleast, hmost, hf0, hf4⟩ := lead?_cases hlead
  · obtain rfl : t = [] := List.eq_nil_of_length_eq_zero (by omega)
    exact .two ha ha' (by omega) (by omega)
  · obtain ⟨c, rfl⟩ := List.length_eq_one_iff.mp (show t.length = 1 by omega)
    obtain ⟨hc, hc'⟩ := isContinuation_iff.mp (hcontinues c (by simp))
    exact .three ha ha' (by omega) (by omega) (by omega) (by omega) hc hc'
  · obtain ⟨c, d, rfl⟩ := List.length_eq_two.mp (show t.length = 2 by omega)
    obtain ⟨hc, hc'⟩ := isContinuation_iff.mp (hcontinues c (by simp))
    obtain ⟨hd, hd'⟩ := isContinuation_iff.mp (hcontinues d (by simp))
    exact .four ha ha' (by omega) (by omega) (by omega) (by omega) hc hc' hd hd'

/-- A character that is spelled out is read, whatever comes behind it. -/
theorem Spelling.front (h : Spelling (a :: t) v) (rest : Bytes) :
    Utf8.front a (t ++ rest) = (some (Char.ofNat v), t.length) := by
  cases t with
  | nil =>
    cases h with
    | one ha => exact if_pos (UInt8.lt_iff_toNat_lt.mpr ha)
  | cons b t =>
    obtain ⟨rfl, l, hlead, hlength, hlow, hhigh, hcontinues⟩ := h.announced
    have hreach : l.reach (b :: t ++ rest) = l.tail :=
      (Lead.reach_eq_tail (by omega)).mpr ⟨b, t, rest, rfl, hlength, ⟨hlow, hhigh⟩, hcontinues⟩
    have ha : ¬a < 0x80 := by
      rw [UInt8.lt_iff_toNat_lt]
      intro hlt
      rw [lead?_eq, if_pos (Nat.lt_trans hlt (by decide))] at hlead
      cases hlead
    have htake : (b :: t ++ rest).take l.tail = b :: t := List.take_left' hlength
    simp only [Utf8.front, if_neg ha, hlead, hreach, if_true, htake, List.length_cons, hlength]

/-- What is read is spelled out. -/
theorem spelling_of_front (h : front a s = (some c, n)) :
    ∃ t rest v, s = t ++ rest ∧ n = t.length ∧ c = Char.ofNat v ∧ Spelling (a :: t) v := by
  rw [front] at h
  split at h
  · next ha =>
    cases h
    exact ⟨[], s, a.toNat, rfl, rfl, rfl, .one (UInt8.lt_iff_toNat_lt.mp ha)⟩
  · cases hlead : lead? a with
    | none =>
      rw [hlead] at h
      cases h
    | some l =>
      simp only [hlead] at h
      split at h
      · next hreach =>
        have hpos : 0 < l.tail := by
          obtain h | h | h := lead?_cases hlead <;> omega
        obtain ⟨b, t, rest, rfl, hlength, ⟨hlow, hhigh⟩, hcontinues⟩ :=
          (Lead.reach_eq_tail hpos).mp hreach
        have htake : (b :: (t ++ rest)).take l.tail = b :: t :=
          List.take_left' (show (b :: t).length = l.tail from hlength)
        rw [hreach, htake] at h
        cases h
        exact ⟨b :: t, rest, _, rfl, hlength.symm, rfl,
          Announced.spelling ⟨hlead, hlength, hlow, hhigh, hcontinues⟩⟩
      · cases h

theorem front_of_encodeChar (h : String.utf8EncodeChar c = a :: t) (rest : Bytes) :
    front a (t ++ rest) = (some c, t.length) := by
  have hspelling := spelling_encode c
  rw [h] at hspelling
  rw [hspelling.front rest, ← Char.toNat.eq_1, Char.ofNat_toNat]

/-- A character is read exactly if its encoding is what the bytes begin with. -/
theorem front_eq_some_iff : (front a s).1 = some c ↔ String.utf8EncodeChar c <+: a :: s := by
  constructor
  · intro h
    obtain ⟨t, rest, v, rfl, -, rfl, hspelling⟩ := spelling_of_front (Prod.ext h rfl)
    rw [hspelling.encode]
    exact List.prefix_append (a :: t) rest
  · rintro ⟨rest, hrest⟩
    cases hencode : String.utf8EncodeChar c with
    | nil => exact absurd hencode String.utf8EncodeChar_ne_nil
    | cons b t =>
      rw [hencode, List.cons_append] at hrest
      obtain ⟨rfl, rfl⟩ := List.cons.inj hrest
      rw [front_of_encodeChar hencode rest]

/-- No character has more than four bytes. -/
theorem encodeChar_prefix_take :
    String.utf8EncodeChar c <+: s.take 4 ↔ String.utf8EncodeChar c <+: s := by
  rw [List.prefix_take_iff, String.length_utf8EncodeChar, and_iff_left c.utf8Size_le_four]

/-- The bytes that go on with a character are continuations. -/
theorem Lead.reach_takeWhile {l : Lead} (h : lead? a = some l) :
    l.reach (s.takeWhile isContinuation) = l.reach s ∧
      l.reach s ≤ (s.takeWhile isContinuation).length := by
  cases s with
  | nil => exact ⟨rfl, Nat.le_refl _⟩
  | cons b s =>
    by_cases hbounds : l.low ≤ b ∧ b ≤ l.high
    · have hb : isContinuation b := by
        have hlow := UInt8.le_iff_toNat_le.mp hbounds.1
        have hhigh := UInt8.le_iff_toNat_le.mp hbounds.2
        rw [isContinuation_iff]
        obtain h | h | h := lead?_cases h <;> omega
      have hrest : ((s.takeWhile isContinuation).take (l.tail - 1)).takeWhile isContinuation =
          (s.take (l.tail - 1)).takeWhile isContinuation := by
        rw [← List.take_takeWhile, ← List.take_takeWhile, List.takeWhile_idem]
      rw [List.takeWhile_cons_of_pos hb, reach, reach, if_pos hbounds, if_pos hbounds, hrest]
      refine ⟨rfl, ?_⟩
      rw [← List.take_takeWhile, List.length_take, List.length_cons]
      omega
    · have hnone : l.reach (b :: s) = 0 := if_neg hbounds
      rw [hnone]
      refine ⟨?_, Nat.zero_le _⟩
      by_cases hb : isContinuation b
      · rw [List.takeWhile_cons_of_pos hb]
        exact if_neg hbounds
      · rw [List.takeWhile_cons_of_neg hb]
        rfl

/-- A character is decided by its first byte and the continuations behind that. -/
theorem front_takeWhile (a : UInt8) (s : Bytes) :
    front a (s.takeWhile isContinuation) = front a s := by
  rw [front, front]
  cases hlead : lead? a with
  | none => rfl
  | some l =>
    obtain ⟨hreach, hle⟩ := Lead.reach_takeWhile (s := s) hlead
    have htake : (s.takeWhile isContinuation).take (l.reach s) = s.take (l.reach s) := by
      rw [← List.take_append_of_le_length hle, List.takeWhile_append_dropWhile]
    simp only [hreach, htake]

theorem pieces_encodeChar (c : Char) (s : Bytes) :
    pieces (String.utf8EncodeChar c ++ s) = some c :: pieces s := by
  cases hencode : String.utf8EncodeChar c with
  | nil => exact absurd hencode String.utf8EncodeChar_ne_nil
  | cons a t =>
    rw [List.cons_append, pieces, front_of_encodeChar hencode s]
    simp only [List.drop_left]

theorem pieces_flatMap (cs : List Char) :
    pieces (cs.flatMap String.utf8EncodeChar) = cs.map some := by
  induction cs with
  | nil => rw [List.flatMap_nil, pieces, List.map_nil]
  | cons c cs ih => rw [List.flatMap_cons, pieces_encodeChar, ih, List.map_cons]

theorem flatMap_pieces (h : (pieces s).all (·.isSome)) :
    ((pieces s).filterMap id).flatMap String.utf8EncodeChar = s := by
  induction s using pieces.induct with
  | case1 => rw [pieces, List.filterMap_nil, List.flatMap_nil]
  | case2 a s c n hfront ih =>
    rw [pieces, hfront] at h ⊢
    simp only [List.all_cons, Bool.and_eq_true] at h
    obtain ⟨c, rfl⟩ := Option.isSome_iff_exists.mp h.1
    obtain ⟨t, rest, v, rfl, rfl, rfl, hspelling⟩ := spelling_of_front hfront
    rw [List.drop_left] at ih h
    simp only [List.drop_left]
    change (Char.ofNat v :: (pieces rest).filterMap id).flatMap String.utf8EncodeChar = _
    rw [List.flatMap_cons, hspelling.encode, ih h.2, List.cons_append]

theorem encode_eq_flatMap (x : String) : encode x = x.toList.flatMap String.utf8EncodeChar := by
  rw [← encode_ofList, String.ofList_toList]

theorem encode_append (x y : String) : encode (x ++ y) = encode x ++ encode y := by
  simp only [encode_eq_flatMap, String.toList_append, List.flatMap_append]

/-- Text is read off a byte string exactly if the byte string is its encoding. -/
theorem text?_eq_some_iff {x : String} : text? s = some x ↔ encode x = s := by
  constructor
  · intro h
    rw [text?] at h
    split at h <;> cases h
    next hall => rw [encode_ofList, flatMap_pieces hall]
  · rintro rfl
    rw [encode_eq_flatMap, text?, pieces_flatMap]
    simp

theorem encode_injective : Function.Injective encode := by
  intro x y h
  exact Option.some.inj ((text?_eq_some_iff.mpr h).symm.trans (text?_eq_some_iff.mpr rfl))

/-- Reading agrees with what the library takes for text. -/
theorem text?_eq_fromUTF8? (s : Bytes) : text? s = String.fromUTF8? ⟨s.toArray⟩ := by
  apply Option.ext
  intro x
  rw [text?_eq_some_iff, String.fromUTF8?]
  constructor
  · rintro rfl
    exact dif_pos x.isValidUTF8
  · intro h
    split at h <;> cases h
    rfl

end TableTalk.Utf8
