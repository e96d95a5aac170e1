import Mathlib.Data.List.TakeWhile
import TableTalk.Proofs.Lexing.Writing

/-! The ends and the beginnings of lines. A newline ends whatever has been begun, but for a quoted
name; and which particle a line begins with is decided by its first bytes that are not blank. -/
namespace TableTalk

namespace Grammar
open Lexing (Run newline)
variable {k : Keyword} {s : Bytes}

/-- Only letters are capitals or become them. -/
theorem isAlpha_of_toUpper (b : UInt8) : (glyph b).toUpper.isAlpha → (glyph b).isAlpha := by
  apply forall_byte (P := fun b => (glyph b).toUpper.isAlpha → (glyph b).isAlpha)
  decide +kernel

theorem Keyword.isAlpha_spelling {c : Char} (h : c ∈ k.spelling.toList) : c.isAlpha := by
  have hall : k.spelling.toList.all Char.isAlpha := by
    cases k <;> decide
  exact List.all_eq_true.mp hall c h

/-- What is a keyword in capitals is a word. -/
theorem spells_of_spelling (h : s.map (fun b => (glyph b).toUpper) = k.spelling.toList) :
    Spells (.word s) s := by
  have hletters : ∀ b ∈ s, (glyph b).isAlpha := by
    intro b hb
    apply isAlpha_of_toUpper b
    apply Keyword.isAlpha_spelling (k := k)
    rw [← h]
    exact List.mem_map_of_mem hb
  cases s with
  | nil => cases k <;> cases h
  | cons b more =>
    refine .word (.inl (hletters b List.mem_cons_self)) ?_
    intro c hc
    left
    rw [Char.isAlphanum, hletters c (List.mem_cons_of_mem b hc), Bool.true_or]

end Grammar

namespace Lexer
open Grammar
open Lexing (Run newline)
variable (x : Lexer) {s : Bytes} {k : Keyword} {p : Particle} {n : Nat}

theorem front_eq_blank_iff {b : UInt8} : x.front (b :: s) = .blank ↔ indents b := by
  rw [← lead_eq_blank_iff, front_cons]
  constructor
  · intro h
    by_cases hlead : lead b = .blank
    · exact hlead
    · exact absurd h (x.rule_ne_blank hlead)
  · intro h
    rw [h]
    rfl

/-- A newline stops every run, and every recovery from one. -/
theorem frontRun_ne_unfinished (r : Run) (h : newline ∈ s) : x.frontRun r s ≠ .unfinished := by
  have hstops : stops newline := by decide
  have hrest : newline ∈ s.dropWhile (continues r) := by
    rw [← List.takeWhile_append_dropWhile (p := continues r) (l := s), List.mem_append] at h
    rcases h with h | h
    · exact absurd (List.mem_takeWhile_imp h) (not_continues_of_stops r _ hstops)
    · exact h
  intro hopen
  simp only [frontRun] at hopen
  split at hopen
  next hnone =>
    rw [List.head?_eq_none_iff.mp hnone] at hrest
    cases hrest
  next =>
    split at hopen
    · cases hopen
    · split at hopen
      next hnone =>
        have hrecovers : recovers newline := by decide
        rw [List.findIdx?_eq_none_iff.mp hnone _ hrest] at hrecovers
        cases hrecovers
      next => cases hopen

/-- Of bytes with a newline among them, only a name can be unfinished. -/
theorem quotation_of_unfinished (hfront : x.front s = .unfinished) (h : newline ∈ s) :
    s.head? = some '"'.toUInt8 := by
  cases s with
  | nil => cases h
  | cons b t =>
    rw [front_cons] at hfront
    cases hl : lead b <;> rw [hl] at hfront
    case blank | newline | opening | stray => cases hfront
    case closing =>
      simp only [rule, frontClosing] at hfront
      split at hfront <;> cases hfront
    case quotation => exact congrArg some (eq_quotation_of_lead hl)
    case run r => exact absurd hfront (x.frontRun_ne_unfinished r h)

/-- The first particle is the token behind the first blanks, if that has an end. -/
theorem head?_particles (position : Nat) (s : Bytes) :
    (x.scan position s).particles.head? = some p ↔
      ∃ n, x.front (s.dropWhile indents) = .token p n := by
  have hskip {s : Bytes} (hs : x.front s ≠ .blank) : s.dropWhile indents = s := by
    cases s with
    | nil => rfl
    | cons b t => exact List.dropWhile_cons_of_neg fun hb => hs (x.front_eq_blank_iff.mpr hb)
  fun_induction scan x position s with
  | case1 position s hf =>
    have hfront : x.front s ≠ .blank := by
      rw [hf]
      intro h
      cases h
    rw [hskip hfront, hf]
    constructor
    · intro h
      cases h
    · rintro ⟨n, h⟩
      cases h
  | case2 position s hf ih =>
    obtain ⟨b, t, rfl⟩ := List.exists_cons_of_length_pos (x.front_blank_length hf)
    rw [List.dropWhile_cons_of_pos (x.front_eq_blank_iff.mp hf)]
    exact ih
  | case3 position s q m hf ih =>
    have hfront : x.front s ≠ .blank := by
      rw [hf]
      intro h
      cases h
    rw [hskip hfront, hf]
    constructor
    · intro h
      cases h
      exact ⟨m, rfl⟩
    · rintro ⟨n, h⟩
      cases h
      rfl

/-- What stands between quotation marks is no keyword. -/
theorem frontName_ne_keyword : x.frontName s ≠ .token (.keyword k) n := by
  intro h
  simp only [frontName] at h
  split at h
  next value _ _ =>
    obtain ⟨hname, -⟩ := Front.token.inj h
    rw [nameParticle] at hname
    cases hfound : x.name? value <;> rw [hfound] at hname <;> cases hname
  next => split at h <;> cases h
  next => cases h

/-- A run that is a keyword is one of its spellings, and ends at a byte that stops it. -/
theorem frontRun_keyword {r : Run} (h : x.frontRun r s = .token (.keyword k) n) :
    ∃ w b t, s = w ++ b :: t ∧ keyword? w = some k ∧ stops b := by
  have hsplit := List.takeWhile_append_dropWhile (p := continues r) (l := s)
  simp only [frontRun] at h
  split at h
  · cases h
  · next b hb =>
    obtain ⟨rest, hrest⟩ := List.head?_eq_some_iff.mp hb
    split at h
    · next hstops =>
      obtain ⟨hparticle, -⟩ := Front.token.inj h
      refine ⟨s.takeWhile (continues r), b, rest, by rw [← hrest, hsplit], ?_, hstops⟩
      cases r with
      | number => cases hparticle
      | word =>
        rw [particle] at hparticle
        cases hfound : keyword? (s.takeWhile (continues .word)) with
        | none =>
          rw [hfound] at hparticle
          cases hparticle
        | some j =>
          rw [hfound] at hparticle
          cases hparticle
          rfl
    · split at h <;> cases h

/-- A keyword stands at the front if its letters do, in any case, and a byte that stops them. -/
theorem front_eq_keyword_iff :
    (∃ n, x.front s = .token (.keyword k) n) ↔
      ∃ w b t, s = w ++ b :: t ∧ w.map (fun b => (glyph b).toUpper) = k.spelling.toList ∧
        stops b := by
  constructor
  · rintro ⟨n, h⟩
    cases s with
    | nil => cases h
    | cons a t =>
      rw [front_cons] at h
      cases hl : lead a <;> rw [hl] at h
      case blank | newline | opening | stray => cases h
      case closing =>
        simp only [rule, frontClosing] at h
        split at h <;> cases h
      case quotation => exact absurd h x.frontName_ne_keyword
      case run r =>
        obtain ⟨w, b, rest, hsplit, hword, hstops⟩ := x.frontRun_keyword h
        exact ⟨w, b, rest, hsplit, keyword?_eq_some_iff.mp hword, hstops⟩
  · rintro ⟨w, b, t, rfl, hspelling, hstops⟩
    refine ⟨w.length, ?_⟩
    rw [x.front_spells (spells_of_spelling hspelling) ⟨b, rfl, hstops⟩, reading,
      keyword?_eq_some_iff.mpr hspelling]
    rfl

end Lexer
end TableTalk
