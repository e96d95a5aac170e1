import Mathlib.Data.List.Forall2
import TableTalk.Proofs.Lexing.Resumption
import TableTalk.Proofs.Lexing.Agreement

/-! Reasons for errors are told, and nothing else comes of them. A lexer that gives none finds the
same tokens at the same places, and a call of it ends in the same way. -/
namespace TableTalk

namespace Particle

/-- Without its reason. -/
def silent : Particle → Particle
  | error bytes _ => error bytes none
  | p => p

/-- One particle with a reason if it is an error, and without. -/
structure Told (p q : Particle) : Prop where
  agrees : p.Agrees q
  reason : p.reason?.isSome ↔ p.kind = .error
  silent : q.reason? = none

theorem told_silent {p : Particle} (h : p.reason?.isSome ↔ p.kind = .error) : p.Told p.silent := by
  cases p <;> exact ⟨⟨rfl, rfl, rfl, rfl⟩, h, rfl⟩

end Particle

namespace Grammar
open Lexing (Run)

def Front.silent : Front → Front
  | blank => blank
  | token p n => token p.silent n
  | unfinished => unfinished

/-- With other particles in their places. -/
def Token.relabel (f : Particle → Particle) (t : Token) : Token :=
  { t with particle := f t.particle }

def Scan.silent (r : Scan) : Scan := ⟨r.tokens.map (·.relabel Particle.silent), r.consumed⟩

theorem particle_silent (r : Run) (bytes : Bytes) :
    (particle r bytes).silent = particle r bytes := by
  cases r with
  | number => rfl
  | word =>
    rw [particle]
    cases keyword? bytes <;> rfl

variable {b : ParticleBuffer}

/-- Which tokens find room is a matter of how many there are, whatever their particles. -/
theorem exists_delivered (consumed : Nat) (ts : List Token) (held : Nat) :
    ∃ r k, ∀ (f : Particle → Particle) (more : List Particle), more.length = held →
      deliver consumed (ts.map (·.relabel f)) (b.filled more) =
        (r, b.filled (more ++ ((ts.take k).map (·.particle)).map f)) := by
  induction ts generalizing held with
  | nil =>
    refine ⟨.ok consumed, 0, ?_⟩
    intro f more _
    simp [deliver]
  | cons t ts ih =>
    by_cases hstuck : b.StuckAfter held
    · refine ⟨.error ((⟨.capacity, none⟩ : Failure).within "lex" t.start), 0, ?_⟩
      rintro f more rfl
      have hadd := b.add_filled more (f t.particle)
      rw [if_pos hstuck] at hadd
      simp [deliver, Token.relabel, hadd]
    · obtain ⟨r, k, hrest⟩ := ih (held + 1)
      refine ⟨r, k + 1, ?_⟩
      rintro f more rfl
      have hadd := b.add_filled more (f t.particle)
      rw [if_neg hstuck] at hadd
      have hmore := hrest f (more ++ [f t.particle]) List.length_append
      rw [List.append_assoc] at hmore
      simp only [List.map_cons, deliver, Token.relabel, hadd]
      exact hmore

end Grammar

namespace Lexer
open Grammar
open Lexing (Run)
variable (x : Lexer) {s : Bytes} {p : Particle} {n position : Nat}

/-- The same lexer, giving no reasons. -/
def silent : Lexer := { x with reasons := false }

theorem nameParticle_silent (value : Bytes) :
    x.silent.nameParticle value = (x.nameParticle value).silent := by
  simp only [nameParticle, silent]
  cases x.name? value <;> rfl

theorem frontRun_silent (r : Run) (s : Bytes) :
    x.silent.frontRun r s = (x.frontRun r s).silent := by
  simp only [frontRun]
  split
  · rfl
  · split
    · simp only [Front.silent, particle_silent]
    · split <;> rfl

theorem frontName_silent (s : Bytes) : x.silent.frontName s = (x.frontName s).silent := by
  simp only [frontName]
  split
  · simp only [Front.silent, nameParticle_silent]
  · split <;> rfl
  · rfl

/-- Every rule decides on bytes alone what token it finds; a reason is written when that
is settled. -/
theorem front_silent (s : Bytes) : x.silent.front s = (x.front s).silent := by
  cases s with
  | nil => rfl
  | cons b t =>
    rw [front_cons, front_cons]
    cases lead b with
    | blank | newline | opening | stray => rfl
    | closing =>
      simp only [rule, frontClosing]
      split <;> rfl
    | quotation => exact x.frontName_silent _
    | run r => exact x.frontRun_silent r _

theorem scan_silent (position : Nat) (s : Bytes) :
    x.silent.scan position s = (x.scan position s).silent := by
  fun_induction scan x position s with
  | case1 position s hf =>
    have hsilent := x.front_silent s
    rw [hf] at hsilent
    rw [x.silent.scan_unfinished hsilent]
    rfl
  | case2 position s hf ih =>
    have hsilent := x.front_silent s
    rw [hf] at hsilent
    rw [x.silent.scan_blank hsilent, ih]
  | case3 position s p n hf ih =>
    have hsilent := x.front_silent s
    rw [hf] at hsilent
    rw [x.silent.scan_token hsilent, ih]
    rfl

/-- Where reasons are given, every error has one. -/
theorem reason?_of_front (hx : x.reasons) (h : x.front s = .token p n) :
    p.reason?.isSome ↔ p.kind = .error := by
  cases p with
  | error bytes reason =>
    obtain ⟨words, hfault⟩ := x.front_fault h
    rw [hfault]
    simp [fault, Particle.reason?, Particle.kind, hx]
  | _ => simp [Particle.reason?, Particle.kind]

/-- A call that gives no reasons ends as it would with them, and leaves the same particles but
for these. -/
theorem lex_silent (chunks : List Bytes) (b : ParticleBuffer) :
    ∃ r ps, x.lex chunks b = (r, b.filled ps) ∧
      x.silent.lex chunks b = (r, b.filled (ps.map Particle.silent)) ∧
      (x.reasons → ∀ p ∈ ps, p.reason?.isSome ↔ p.kind = .error) := by
  obtain ⟨r, k, hdelivered⟩ :=
    exists_delivered (b := b) (x.scan 0 chunks.flatten).consumed (x.scan 0 chunks.flatten).tokens 0
  refine ⟨r, ((x.scan 0 chunks.flatten).tokens.take k).map (·.particle), ?_, ?_, ?_⟩
  · have hsame :
        (x.scan 0 chunks.flatten).tokens.map (·.relabel id) = (x.scan 0 chunks.flatten).tokens :=
      List.map_id' _
    have htold := hdelivered id [] rfl
    rw [b.filled_nil, hsame, List.map_id] at htold
    rw [lex_eq]
    exact htold
  · have hsilent := hdelivered Particle.silent [] rfl
    rw [b.filled_nil] at hsilent
    rw [lex_eq, scan_silent]
    exact hsilent
  · intro hx p hp
    obtain ⟨t, ht, rfl⟩ := List.mem_map.mp hp
    exact x.reason?_of_front hx (x.front_of_mem_scan [] (List.mem_of_mem_take ht))

end Lexer
end TableTalk
