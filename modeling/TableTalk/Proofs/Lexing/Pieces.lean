import Mathlib.Data.List.Forall2
import TableTalk.Proofs.Lexing.Resumption

/-! A stream that arrives in pieces. Each piece is scanned behind what the piece before left
unfinished, and together they give the tokens of the whole stream. -/
namespace TableTalk

namespace Grammar

/-- A scan that found some tokens before the others. -/
def Scan.after (ts : List Token) (r : Scan) : Scan := ⟨ts ++ r.tokens, r.consumed⟩

theorem Scan.cons_after (t : Token) (ts : List Token) (r : Scan) :
    (r.after ts).cons t = r.after (t :: ts) := rfl

/-- So many bytes have arrived when some piece is complete, the first `arrived` before any
of them. -/
def Cut (arrived : Nat) (pieces : List Bytes) (n : Nat) : Prop :=
  ∃ k, n = arrived + (pieces.take k).flatten.length

theorem cut_cons {arrived n : Nat} {piece : Bytes} {pieces : List Bytes} :
    Cut arrived (piece :: pieces) n ↔ n = arrived ∨ Cut (arrived + piece.length) pieces n := by
  constructor
  · rintro ⟨_ | k, rfl⟩
    · exact .inl rfl
    · exact .inr ⟨k, by simp [Nat.add_assoc]⟩
  · rintro (rfl | ⟨k, rfl⟩)
    · exact ⟨0, rfl⟩
    · exact ⟨k + 1, by simp [Nat.add_assoc]⟩

theorem Cut.le {arrived n : Nat} {pieces : List Bytes} (h : Cut arrived pieces n) :
    arrived ≤ n := by
  obtain ⟨k, rfl⟩ := h
  exact Nat.le_add_right _ _

end Grammar

namespace Lexer
open Grammar
variable (x : Lexer) {position : Nat} {u v : Bytes}

theorem Revised.congr {a b : Prop} {p q : Particle} (h : x.Revised a p q)
    (hab : q.IsStray → (a ↔ b)) : x.Revised b p q := by
  by_cases hq : q.IsStray
  · simpa only [Revised, hab hq] using h
  · simpa only [Revised, hq, false_and] using h

/-- A token of the whole stream beside the same token as it was delivered. -/
structure Delivered (cut : Nat → Prop) (whole part : Token) : Prop where
  start : whole.start = part.start
  stop : whole.stop = part.stop
  particle : x.Revised (cut whole.stop) part.particle whole.particle

/-- A scan stops before an unfinished token. Whatever follows, the tokens found are those of the
longer stream, and its other tokens come out of a scan that starts there. -/
theorem scan_append (position : Nat) (u : Bytes) :
    ∃ read rest, u = read ++ rest ∧ x.front rest = .unfinished ∧
      (x.scan position u).consumed = position + read.length ∧
      ∀ v, ∃ ts,
        x.scan position (u ++ v) = (x.scan (position + read.length) (rest ++ v)).after ts ∧
        List.Forall₂ (x.Delivered (· = position + u.length)) ts (x.scan position u).tokens := by
  fun_induction scan x position u with
  | case1 position u hf => exact ⟨[], u, rfl, hf, rfl, fun v => ⟨[], rfl, .nil⟩⟩
  | case2 position u hf ih =>
    have hpos := x.front_blank_length hf
    obtain ⟨read, rest, hsplit, hrest, hconsumed, hmore⟩ := ih
    have hlength : (u.take 1 ++ read).length = 1 + read.length := by
      rw [List.length_append, List.length_take_of_le hpos]
    refine ⟨u.take 1 ++ read, rest, ?_, hrest, ?_, fun v => ?_⟩
    · rw [List.append_assoc, ← hsplit, List.take_append_drop]
    · rw [hconsumed, hlength, Nat.add_assoc]
    · obtain ⟨ts, hscan, hts⟩ := hmore v
      refine ⟨ts, ?_, ?_⟩
      · rw [x.scan_blank (x.front_append_blank v hf), List.drop_append_of_le_length hpos, hscan,
          hlength, Nat.add_assoc]
      · rw [List.length_drop] at hts
        rwa [show position + 1 + (u.length - 1) = position + u.length by omega] at hts
  | case3 position u p n hf ih =>
    obtain ⟨hpos, hle⟩ := x.front_token_bounds hf
    obtain ⟨read, rest, hsplit, hrest, hconsumed, hmore⟩ := ih
    have hlength : (u.take n ++ read).length = n + read.length := by
      rw [List.length_append, List.length_take_of_le hle]
    refine ⟨u.take n ++ read, rest, ?_, hrest, ?_, fun v => ?_⟩
    · rw [List.append_assoc, ← hsplit, List.take_append_drop]
    · rw [hlength, ← Nat.add_assoc]
      exact hconsumed
    · obtain ⟨q, hq, hpq⟩ := x.front_append v hf
      obtain ⟨ts, hscan, hts⟩ := hmore v
      refine ⟨⟨position, position + n, q⟩ :: ts, ?_, .cons ⟨rfl, rfl, ?_⟩ ?_⟩
      · rw [x.scan_token hq, List.drop_append_of_le_length hle, hscan, hlength, Nat.add_assoc,
          Scan.cons_after]
      · exact hpq.congr x fun _ => Nat.add_left_cancel_iff.symm
      · rw [List.length_drop] at hts
        rwa [show position + n + (u.length - n) = position + u.length by omega] at hts

/-- What a scan leaves over begins with a token that has no end yet. -/
theorem front_leftover (u : Bytes) : x.front (u.drop (x.scan 0 u).consumed) = .unfinished := by
  obtain ⟨read, rest, hsplit, hrest, hconsumed, -⟩ := x.scan_append 0 u
  have hleft : u.drop (x.scan 0 u).consumed = rest := by
    rw [hconsumed, Nat.zero_add, hsplit, List.drop_left]
  rwa [hleft]

theorem scan_consumed_bounds (position : Nat) (u : Bytes) :
    position ≤ (x.scan position u).consumed ∧
      (x.scan position u).consumed ≤ position + u.length := by
  obtain ⟨read, rest, hsplit, -, hconsumed, -⟩ := x.scan_append position u
  have hlength := congrArg List.length hsplit
  rw [List.length_append] at hlength
  omega

/-- Where a scan starts makes no difference to what it finds. -/
theorem scan_particles (i j : Nat) (u : Bytes) :
    (x.scan i u).particles = (x.scan j u).particles ∧
      (x.scan i u).consumed + j = (x.scan j u).consumed + i := by
  fun_induction scan x i u generalizing j with
  | case1 i u hf =>
    rw [x.scan_unfinished hf]
    exact ⟨rfl, Nat.add_comm i j⟩
  | case2 i u hf ih =>
    obtain ⟨hparticles, hconsumed⟩ := ih (j + 1)
    rw [x.scan_blank hf]
    exact ⟨hparticles, by omega⟩
  | case3 i u p n hf ih =>
    obtain ⟨hparticles, hconsumed⟩ := ih (j + n)
    rw [x.scan_token hf]
    simp only [Scan.particles, Scan.cons, List.map_cons] at hparticles hconsumed ⊢
    exact ⟨by rw [hparticles], by omega⟩

/-- A stray bracket comes after all that an unfinished token had in front of it. -/
theorem stray_past (hu : x.front u = .unfinished) {t : Token}
    (ht : t ∈ (x.scan position (u ++ v)).tokens) (hstray : t.particle.IsStray) :
    position + u.length < t.stop := by
  by_cases hne : u = []
  · have := x.scan_tokens_bounds ht
    rw [hne, List.length_nil]
    omega
  cases hv : x.front (u ++ v) with
  | blank => exact absurd hv (x.front_append_ne_blank hne hu)
  | unfinished =>
    rw [x.scan_unfinished hv] at ht
    cases ht
  | token q n =>
    obtain ⟨hle, hnot⟩ := x.front_append_past hne hu hv
    rw [x.scan_token hv] at ht
    obtain rfl | ht := List.mem_cons.mp ht
    · exact absurd hstray hnot
    · have := x.scan_tokens_bounds ht
      omega

/-- A bracket is stray because of a byte that follows it. -/
theorem stray_inside {t : Token} (ht : t ∈ (x.scan position u).tokens)
    (hstray : t.particle.IsStray) :
    t.stop < position + u.length := by
  fun_induction scan x position u with
  | case1 => cases ht
  | case2 position u hf ih =>
    have hpos := x.front_blank_length hf
    have := ih ht
    rw [List.length_drop] at this
    omega
  | case3 position u p n hf ih =>
    obtain ⟨-, hle⟩ := x.front_token_bounds hf
    obtain rfl | ht := List.mem_cons.mp ht
    · obtain ⟨-, rfl, hmore⟩ := x.front_stray hf hstray
      exact Nat.add_lt_add_left hmore position
    · have := ih ht
      rw [List.length_drop] at this
      omega

/-- Scans piece by piece, each behind what is left of those before it. -/
def scanPieces (position : Nat) (pending : Bytes) : List Bytes → Scan
  | [] => ⟨[], position⟩
  | piece :: pieces =>
    let r := x.scan position (pending ++ piece)
    (scanPieces r.consumed ((pending ++ piece).drop (r.consumed - position)) pieces).after r.tokens

/-- In pieces or at once, a stream has the same tokens, up to the brackets that a cut made
look well. -/
theorem scanPieces_delivered (position : Nat) {pending : Bytes}
    (h : x.front pending = .unfinished) (pieces : List Bytes) :
    (x.scanPieces position pending pieces).consumed =
        (x.scan position (pending ++ pieces.flatten)).consumed ∧
      List.Forall₂ (x.Delivered (Cut (position + pending.length) pieces))
        (x.scan position (pending ++ pieces.flatten)).tokens
        (x.scanPieces position pending pieces).tokens := by
  induction pieces generalizing position pending with
  | nil =>
    rw [List.flatten_nil, List.append_nil, x.scan_unfinished h]
    exact ⟨rfl, .nil⟩
  | cons piece pieces ih =>
    obtain ⟨read, rest, hsplit, hrest, hconsumed, hmore⟩ :=
      x.scan_append position (pending ++ piece)
    obtain ⟨ts, hscan, hts⟩ := hmore pieces.flatten
    obtain ⟨hlater, hparts⟩ := ih (position + read.length) hrest
    have hpast {t : Token}
        (ht : t ∈ (x.scan position (pending ++ (piece :: pieces).flatten)).tokens)
        (hstray : t.particle.IsStray) : position + pending.length < t.stop :=
      x.stray_past h ht hstray
    have hlength : position + read.length + rest.length = position + (pending ++ piece).length := by
      rw [hsplit, List.length_append, Nat.add_assoc]
    have hleft :
        (pending ++ piece).drop ((x.scan position (pending ++ piece)).consumed - position) =
        rest := by
      rw [hconsumed, Nat.add_sub_cancel_left, hsplit, List.drop_left]
    have hbound {t : Token} (ht : t ∈ ts) : t.stop ≤ position + (pending ++ piece).length := by
      obtain ⟨⟨i, hi⟩, rfl⟩ := List.get_of_mem ht
      have hi' := Nat.lt_of_lt_of_eq hi hts.length_eq
      rw [(hts.get hi hi').stop]
      exact (x.scan_tokens_bounds (List.get_mem _ ⟨i, hi'⟩)).2.2
    have hcut (n : Nat) : Cut (position + pending.length) (piece :: pieces) n ↔
        n = position + pending.length ∨ Cut (position + (pending ++ piece).length) pieces n := by
      rw [cut_cons, List.length_append, Nat.add_assoc]
    simp only [scanPieces, hleft]
    rw [List.flatten_cons, ← List.append_assoc, hscan] at hpast ⊢
    rw [hconsumed]
    refine ⟨hlater, List.rel_append ?_ ?_⟩
    · refine ((List.forall₂_and_left _ _).mpr ⟨fun _ ht => ht, hts⟩).imp ?_
      rintro t s ⟨ht, hd⟩
      refine ⟨hd.start, hd.stop, hd.particle.congr x fun hstray => ?_⟩
      have hlt := hpast (List.mem_append_left _ ht) hstray
      rw [hcut]
      constructor
      · intro hend
        exact .inr ⟨0, hend⟩
      · rintro (heq | hlast)
        · omega
        · exact Nat.le_antisymm (hbound ht) hlast.le
    · rw [hlength] at hparts
      refine ((List.forall₂_and_left _ _).mpr ⟨fun _ ht => ht, hparts⟩).imp ?_
      rintro t s ⟨ht, hd⟩
      refine ⟨hd.start, hd.stop, hd.particle.congr x fun hstray => ?_⟩
      have hlt := hpast (List.mem_append_right _ ht) hstray
      rw [hcut]
      exact ⟨.inr, fun h => h.resolve_left (by omega)⟩

end Lexer
end TableTalk
