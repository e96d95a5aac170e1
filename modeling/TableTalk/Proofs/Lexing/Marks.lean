import Mathlib.Data.List.TakeWhile
import TableTalk.Proofs.Lexing.Conservation
import TableTalk.Proofs.Lexing.Pieces

/-! Where the quotation marks of a stream go. A name has one at each end, and an open name has one
in front. The others are hidden: they stand inside a name or in something malformed. -/
namespace TableTalk

namespace Grammar
open Lexing (quotation backslash Run)
variable {s u : Bytes} {b : UInt8} {n : Nat}

def marks (s : Bytes) : Nat := s.count quotation

/-- Some bytes begin with a quotation mark. -/
def marked (u : Bytes) : Bool := u.head? = some quotation

/-- The bytes of a token, without the marks that open and close it. -/
def within (u : Bytes) : Bytes := if marked u then u.tail.dropLast else u

/-- The bytes of an unfinished token, without the mark that opens it. -/
def behind (u : Bytes) : Bytes := if marked u then u.tail else u

theorem marks_append (s u : Bytes) : marks (s ++ u) = marks s + marks u := List.count_append

theorem marked_iff : marked u ↔ ∃ t, u = quotation :: t := by
  rw [marked, decide_eq_true_eq]
  exact List.head?_eq_some_iff

theorem within_closed (inner : Bytes) : within (quotation :: inner ++ [quotation]) = inner := by
  have hmarked : marked (quotation :: inner ++ [quotation]) := marked_iff.mpr ⟨_, rfl⟩
  rw [within, if_pos hmarked, List.cons_append, List.tail_cons, List.dropLast_concat]

theorem marks_closed (inner : Bytes) :
    marks (quotation :: inner ++ [quotation]) = marks inner + 2 := by
  rw [List.cons_append, marks, List.count_cons_self, List.count_append]
  rfl

theorem marks_open (u : Bytes) : marks u = marks (behind u) + (marked u).toNat := by
  cases hu : marked u with
  | false => simp only [behind, hu, if_false, Bool.toNat_false, Nat.add_zero, Bool.false_eq_true]
  | true =>
    obtain ⟨t, rfl⟩ := marked_iff.mp hu
    rw [behind, if_pos hu, List.tail_cons, marks, List.count_cons_self]
    rfl

theorem inside_closed_mark {value : Bytes} (h : inside s = .closed value n) :
    ∃ inner, s.take n = inner ++ [quotation] := by
  obtain ⟨inner, hinner⟩ := inside_closed_last h
  obtain ⟨v, w, hsplit, -, hw⟩ := List.map_eq_append_iff.mp hinner
  obtain ⟨b, rfl, hb⟩ := List.map_eq_singleton_iff.mp hw
  rw [(eq_quotation_iff b).mpr hb] at hsplit
  exact ⟨v, hsplit⟩

theorem marks_eq_zero (h : quotation ∉ u) : marks u = 0 := List.count_eq_zero_of_not_mem h

theorem mem_of_mem_within (h : b ∈ within u) : b ∈ u := by
  rw [within] at h
  split at h
  · exact List.mem_of_mem_tail (List.dropLast_subset _ h)
  · exact h

theorem mem_of_mem_behind (h : b ∈ behind u) : b ∈ u := by
  rw [behind] at h
  split at h
  · exact List.mem_of_mem_tail h
  · exact h

theorem not_mem_run (r : Run) (s : Bytes) : quotation ∉ s.takeWhile (continues r) := by
  intro hmem
  have hcontinues := List.mem_takeWhile_imp hmem
  cases r <;> exact absurd hcontinues (by decide)

/-- The marks of a name as far as it goes: the one that closes it. -/
def Inside.Unescaped (s : Bytes) : Inside → Prop
  | closed _ n => marks (s.take n) = 1
  | forbidden n => marks (s.take n) = 0
  | unfinished => marks s = 0

/-- Without a backslash, the first mark closes the name. -/
theorem inside_unescaped (h : backslash ∉ s) : (inside s).Unescaped s := by
  induction s with
  | nil => rfl
  | cons b s ih =>
    rw [List.mem_cons, not_or] at h
    rw [inside_cons]
    split
    · rfl
    · split
      · next hmark =>
        rw [← eq_quotation_iff] at hmark
        subst hmark
        rfl
      · next hmark =>
        have hslash : ¬glyph b = '\\' := by
          rw [← eq_backslash_iff]
          exact fun hb => h.1 hb.symm
        rw [if_neg hslash]
        rw [← eq_quotation_iff] at hmark
        have hrest := ih h.2
        cases hs : inside s <;> rw [hs] at hrest <;>
          simp only [Inside.after, Inside.Unescaped, marks, Nat.add_comm 1, List.take_succ_cons]
            at hrest ⊢ <;>
          rw [List.count_cons_of_ne hmark, hrest]

end Grammar

namespace Lexer
open Grammar
open Lexing (quotation backslash)
variable (x : Lexer) {s : Bytes} {p : Particle} {n : Nat}

/-- A token that begins with a quotation mark ends with another one, be it a name or not. -/
theorem front_closed (h : x.front s = .token p n) (hmarked : marked (s.take n)) :
    ∃ inner, s.take n = quotation :: inner ++ [quotation] := by
  obtain ⟨hpos, -⟩ := x.front_token_bounds h
  obtain ⟨m, rfl⟩ : ∃ m, n = m + 1 := ⟨n - 1, by omega⟩
  cases s with
  | nil => cases h
  | cons b t =>
    obtain ⟨u, hu⟩ := marked_iff.mp hmarked
    rw [List.take_succ_cons] at hu
    obtain rfl : b = quotation := (List.cons.inj hu).1
    rw [front_cons, lead_quotation] at h
    simp only [rule, frontName, List.tail_cons] at h
    rw [List.take_succ_cons]
    split at h
    next value k hk =>
      obtain ⟨inner, hinner⟩ := inside_closed_mark hk
      cases h
      exact ⟨inner, congrArg (quotation :: ·) hinner⟩
    next k hk =>
      split at h
      · cases h
      · next j hj =>
        cases h
        -- The mark that was looked for behind the forbidden byte is the last byte of the token.
        obtain ⟨hlt, hmark, -⟩ := List.findIdx?_eq_some_iff_getElem.mp hj
        rw [List.length_drop] at hlt
        rw [List.getElem_drop, decide_eq_true_eq, ← eq_quotation_iff] at hmark
        refine ⟨t.take (k + j), congrArg (quotation :: ·) ?_⟩
        rw [← hmark]
        exact (List.take_append_getElem _).symm
    next => cases h

theorem front_marks (h : x.front s = .token p n) :
    marks (s.take n) = marks (within (s.take n)) + 2 * (marked (s.take n)).toNat := by
  cases hmarked : marked (s.take n) with
  | false =>
    simp only [within, hmarked, if_false, Bool.toNat_false, Bool.false_eq_true, Nat.mul_zero,
      Nat.add_zero]
  | true =>
    obtain ⟨inner, hinner⟩ := x.front_closed h hmarked
    rw [hinner, marks_closed, within_closed]
    rfl

theorem blank_marks (h : x.front s = .blank) : marks (s.take 1) = 0 := by
  apply List.count_eq_zero_of_not_mem
  intro hmem
  exact absurd (x.blank_of_front h _ hmem) (by decide)

/-- All that is read except blanks and the marks that open or close something. -/
def interior (s : Bytes) : Bytes :=
  (x.scan 0 s).tokens.flatMap (fun t => within (t.bytes s)) ++ behind (s.drop (x.scan 0 s).consumed)

/-- The marks that neither open nor close anything. -/
def hiddenMarks (s : Bytes) : Nat := marks (x.interior s)

/-- Token by token, the marks are those that are hidden, two for each token that begins with one,
and one if the unfinished token does. -/
theorem scan_marks (read s : Bytes) :
    let r := x.scan read.length s
    let left := (read ++ s).drop r.consumed
    marks s = marks (r.tokens.flatMap fun t => within (t.bytes (read ++ s))) + marks (behind left) +
      2 * r.tokens.countP (fun t => marked (t.bytes (read ++ s))) + (marked left).toNat := by
  generalize hposition : read.length = position
  fun_induction scan x position s generalizing read with
  | case1 position s hf =>
    subst hposition
    have hnone : marks [] = 0 := rfl
    simp only [List.drop_left, List.flatMap_nil, hnone, List.countP_nil, Nat.zero_add, Nat.mul_zero,
      Nat.add_zero]
    exact marks_open s
  | case2 position s hf ih =>
    have hone : (s.take 1).length = 1 := List.length_take_of_le (x.front_blank_length hf)
    have hrest := ih (read ++ s.take 1) (by rw [List.length_append, hone, hposition])
    rw [List.append_assoc, List.take_append_drop] at hrest
    have hsplit : marks s = marks (s.take 1) + marks (s.drop 1) := by
      rw [← marks_append, List.take_append_drop]
    rw [hsplit, x.blank_marks hf, Nat.zero_add]
    exact hrest
  | case3 position s p n hf ih =>
    subst hposition
    obtain ⟨-, hle⟩ := x.front_token_bounds hf
    have hlength : (s.take n).length = n := List.length_take_of_le hle
    have hrest := ih (read ++ s.take n) (by rw [List.length_append, hlength])
    rw [List.append_assoc, List.take_append_drop] at hrest
    have hsplit : marks s = marks (s.take n) + marks (s.drop n) := by
      rw [← marks_append, List.take_append_drop]
    have hbytes : Token.bytes ⟨read.length, read.length + n, p⟩ (read ++ s) = s.take n := by
      rw [Token.bytes, List.drop_left, Nat.add_sub_cancel_left]
    have hfirst := x.front_marks hf
    simp only [Scan.cons, List.flatMap_cons, marks_append, List.countP_cons, hbytes] at hrest ⊢
    cases hmarked : marked (s.take n) <;> rw [hmarked] at hfirst <;>
      simp only [Bool.toNat_false, Bool.toNat_true, if_true, if_false, Bool.false_eq_true]
        at hfirst ⊢ <;> omega

/-- With as many marks as are not hidden, a name is left open if their number is odd. -/
theorem marked_left_iff (s : Bytes) :
    marked (s.drop (x.scan 0 s).consumed) ↔ (marks s + x.hiddenMarks s) % 2 = 1 := by
  have hmarks := x.scan_marks [] s
  simp only [List.length_nil, List.nil_append] at hmarks
  rw [hmarks, hiddenMarks, interior, marks_append]
  cases marked (s.drop (x.scan 0 s).consumed) <;>
    simp only [Bool.toNat_false, Bool.toNat_true, Bool.false_eq_true, true_iff, false_iff] <;> omega

theorem frontName_within {t : Bytes} (hplain : backslash ∉ t)
    (h : x.frontName (quotation :: t) = .token p n) (hwell : p.kind ≠ .error) :
    quotation ∉ within ((quotation :: t).take n) := by
  have hinside := inside_unescaped hplain
  simp only [frontName, List.tail_cons] at h
  split at h
  next value m hm =>
    cases h
    obtain ⟨inner, hinner⟩ := inside_closed_mark hm
    rw [hm] at hinside
    simp only [Inside.Unescaped, hinner, marks_append] at hinside
    have hspan : (quotation :: t).take (m + 1) = quotation :: inner ++ [quotation] :=
      congrArg (quotation :: ·) hinner
    have hone : marks [quotation] = 1 := rfl
    rw [hspan, within_closed]
    apply List.count_eq_zero.mp
    show marks inner = 0
    omega
  next =>
    split at h <;> cases h
    exact absurd rfl hwell
  next => cases h

/-- What is well formed hides no mark unless there is a backslash. -/
theorem front_within (hplain : backslash ∉ s) (h : x.front s = .token p n)
    (hwell : p.kind ≠ .error) :
    quotation ∉ within (s.take n) := by
  cases s with
  | nil => cases h
  | cons b t =>
    have hone (hl : lead b ≠ .quotation) : quotation ∉ within ((b :: t).take 1) := by
      intro hmem
      have hb := mem_of_mem_within hmem
      rw [List.take_succ_cons, List.take_zero, List.mem_singleton] at hb
      exact hl (hb ▸ lead_quotation)
    rw [front_cons] at h
    cases hl : lead b <;> rw [hl] at hone h
    case blank => cases h
    case newline | opening =>
      cases h
      exact hone (by decide)
    case stray =>
      cases h
      exact absurd rfl hwell
    case closing =>
      simp only [rule, frontClosing] at h
      split at h <;> cases h
      · exact hone (by decide)
      · exact absurd rfl hwell
    case quotation =>
      obtain rfl := eq_quotation_of_lead hl
      rw [List.mem_cons, not_or] at hplain
      exact x.frontName_within hplain.2 h hwell
    case run r =>
      simp only [rule, frontRun] at h
      split at h
      · cases h
      · split at h
        · cases h
          rw [← List.prefix_iff_eq_take.mp (List.takeWhile_prefix _)]
          exact fun hmem => not_mem_run r _ (mem_of_mem_within hmem)
        · split at h <;> cases h
          exact absurd rfl hwell

/-- Without a backslash, no mark stands behind the one that opens an unfinished name. -/
theorem front_behind (hplain : backslash ∉ s) (h : x.front s = .unfinished) (hmarked : marked s) :
    quotation ∉ behind s := by
  obtain ⟨t, rfl⟩ := marked_iff.mp hmarked
  rw [List.mem_cons, not_or] at hplain
  have hinside := inside_unescaped hplain.2
  rw [front_cons, lead_quotation] at h
  simp only [rule, frontName, List.tail_cons] at h
  rw [behind, if_pos hmarked, List.tail_cons]
  split at h
  next => cases h
  next m hm =>
    split at h
    · next hnone =>
      rw [hm] at hinside
      rw [← List.take_append_drop m t, List.mem_append, not_or]
      refine ⟨List.count_eq_zero.mp hinside, fun hmem => ?_⟩
      have hother := List.findIdx?_eq_none_iff.mp hnone _ hmem
      exact absurd hother (by decide)
    · cases h
  next hm =>
    rw [hm] at hinside
    exact List.count_eq_zero.mp hinside

/-- No mark is hidden where nothing is escaped or malformed. -/
theorem hiddenMarks_eq_zero (hplain : backslash ∉ s)
    (hwell : ∀ t ∈ (x.scan 0 s).tokens, t.particle.kind ≠ .error)
    (hleft : marked (s.drop (x.scan 0 s).consumed) ∨ quotation ∉ s.drop (x.scan 0 s).consumed) :
    x.hiddenMarks s = 0 := by
  have hsuffix (n : Nat) : backslash ∉ s.drop n := fun h => hplain (List.mem_of_mem_drop h)
  apply marks_eq_zero
  rw [interior, List.mem_append, not_or]
  constructor
  · intro hmem
    obtain ⟨t, ht, hmem⟩ := List.mem_flatMap.mp hmem
    exact x.front_within (hsuffix _) (x.front_of_mem_scan [] ht) (hwell t ht) hmem
  · rcases hleft with hmarked | hnone
    · exact x.front_behind (hsuffix _) (x.front_leftover s) hmarked
    · exact fun hmem => hnone (mem_of_mem_behind hmem)

end Lexer
end TableTalk
