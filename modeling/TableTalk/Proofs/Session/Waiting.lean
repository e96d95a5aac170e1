import TableTalk.Proofs.Session

/-! What waits in a session between calls. Whatever came before, it is short enough and has no end
yet, and a feed uses up all of it or nothing. -/
namespace TableTalk

namespace Lexer
open Grammar
variable (x : Lexer) {u : Bytes}

/-- With more behind it, an unfinished token is used up whole or not at all. -/
theorem scan_unfinished_append (hu : x.front u = .unfinished) (v : Bytes) :
    (x.scan 0 (u ++ v)).consumed = 0 ∨ u.length ≤ (x.scan 0 (u ++ v)).consumed := by
  by_cases hne : u = []
  · exact .inr (by rw [hne]; exact Nat.zero_le _)
  cases hv : x.front (u ++ v) with
  | blank => exact absurd hv (x.front_append_ne_blank hne hu)
  | unfinished => exact .inl (by rw [x.scan_unfinished hv])
  | token p n =>
    obtain ⟨hpast, -⟩ := x.front_append_past hne hu hv
    obtain ⟨hmore, -⟩ := x.scan_consumed_bounds (0 + n) ((u ++ v).drop n)
    rw [Nat.zero_add] at hmore
    rw [x.scan_token hv, Nat.zero_add]
    exact .inr (Nat.le_trans hpast hmore)

end Lexer

namespace Session
open Grammar

/-- What can be asked of a session. -/
inductive Call
  | feed (input : Bytes)
  | reset
  deriving DecidableEq, Repr

/-- The session that a call leaves. -/
def next (s : Session) : Call → Session
  | .feed input => (s.feed input).2
  | .reset => s.reset

def after (s : Session) (calls : List Call) : Session := calls.foldl next s

variable {s : Session} {x : Lexer} {input : Bytes} {c limit : Nat} {b : ParticleBuffer}

theorem lex_pending (s : Session) (input : Bytes) :
    s.lexer.lex [s.pending, input] s.buffer.clear =
      s.lexer.lex [s.pending ++ input] s.buffer.clear := by
  rw [Lexer.lex_eq, Lexer.lex_eq, List.flatten_cons, List.flatten_singleton, List.flatten_singleton]

/-- Where the lexer fails, the feed fails in the same way and all that waited is gone. -/
theorem feed_of_error {f : Failure}
    (h : s.lexer.lex [s.pending ++ input] s.buffer.clear = (.error f, b)) :
    s.feed input = (.error f, { s with buffer := b, pending := [], lastConsumed := 0 }) := by
  rw [← lex_pending] at h
  simp only [feed, h]

/-- Where the lexer does not fail, what it leaves over waits if it is short enough. -/
theorem feed_of_ok (h : s.lexer.lex [s.pending ++ input] s.buffer.clear = (.ok c, b)) :
    s.feed input =
      if s.maxPending < ((s.pending ++ input).drop c).length then
        (.error ⟨.pendingOverflow s.maxPending ((s.pending ++ input).drop c).length, none⟩,
          { s with buffer := b, pending := [], lastConsumed := c })
      else
        (.ok b.particles,
          { s with buffer := b, pending := (s.pending ++ input).drop c, lastConsumed := c }) := by
  rw [← lex_pending] at h
  simp only [feed, h, tail_eq]

/-- What holds of a session between calls. -/
structure Holds (x : Lexer) (limit : Nat) (s : Session) : Prop where
  lexer : s.lexer = x
  maxPending : s.maxPending = limit
  short : s.pending.length ≤ limit
  unfinished : x.front s.pending = .unfinished

/-- Nothing that waits is the beginning of a token too. -/
theorem Holds.emptied {t : Session} (h : Holds x limit s) (hlexer : t.lexer = s.lexer)
    (hlimit : t.maxPending = s.maxPending) (hnone : t.pending = []) : Holds x limit t where
  lexer := hlexer.trans h.lexer
  maxPending := hlimit.trans h.maxPending
  short := by rw [hnone]; exact Nat.zero_le _
  unfinished := by rw [hnone, x.front_nil]

theorem Holds.feed (h : Holds x limit s) (input : Bytes) : Holds x limit (s.feed input).2 := by
  rcases hlex : s.lexer.lex [s.pending ++ input] s.buffer.clear with ⟨f | c, b⟩
  · rw [feed_of_error hlex]
    exact h.emptied rfl rfl rfl
  · rw [feed_of_ok hlex]
    split
    · exact h.emptied rfl rfl rfl
    · next hfits =>
      rw [Lexer.lex_eq, List.flatten_singleton, h.lexer] at hlex
      obtain ⟨hc, -⟩ := Scan.of_into_ok hlex
      exact ⟨h.lexer, h.maxPending, by rw [← h.maxPending]; exact Nat.not_lt.mp hfits,
        by rw [hc]; exact x.front_leftover _⟩

theorem Holds.next (h : Holds x limit s) (call : Call) : Holds x limit (s.next call) := by
  cases call with
  | feed input => exact h.feed input
  | reset => exact h.emptied rfl rfl rfl

theorem Holds.after (h : Holds x limit s) (calls : List Call) : Holds x limit (s.after calls) := by
  induction calls generalizing s with
  | nil => exact h
  | cons call calls ih => exact ih (h.next call)

section
variable {name? : Bytes → Option Name} {config : Config}

theorem holds_start (h : start name? config = .ok s) :
    Holds ⟨name?, config.reasons⟩ config.maxPending s := by
  obtain ⟨hpos, rfl⟩ := start_eq h
  exact ⟨rfl, rfl, Nat.zero_le _, Lexer.front_nil _⟩

/-- After any calls, what waits is short enough and gives nothing on its own. A feed uses up all
of it or nothing. What is left over of it and the new bytes waits next, unless it is too long:
then it is dropped, and only the particles are kept. A failure of the lexer drops everything else
as well. -/
theorem feed_outcome (hstart : start name? config = .ok s) (calls : List Call) (input : Bytes) :
    let x : Lexer := ⟨name?, config.reasons⟩
    let old := s.after calls
    let stream := old.pending ++ input
    let result := (old.feed input).1
    let new := (old.feed input).2
    old.pending.length ≤ config.maxPending ∧ (∀ b, x.lex [old.pending] b = (.ok 0, b)) ∧
      (∀ c b, x.lex [stream] old.buffer.clear = (.ok c, b) →
        (c = 0 ∨ old.pending.length ≤ c) ∧ c ≤ stream.length ∧
        new.lastConsumed = c ∧ new.particles = b.particles ∧
        b.particles.toList = (x.scan 0 stream).particles ∧
        ((stream.drop c).length ≤ config.maxPending →
          result = .ok b.particles ∧ stream = stream.take c ++ new.pending) ∧
        (config.maxPending < (stream.drop c).length →
          result = .error ⟨.pendingOverflow config.maxPending (stream.drop c).length, none⟩ ∧
          new.pending = [])) ∧
      (∀ f b, x.lex [stream] old.buffer.clear = (.error f, b) →
        result = .error f ∧ new.pending = [] ∧ new.lastConsumed = 0 ∧
        new.particles = b.particles) := by
  intro x old stream result new
  have h : Holds x config.maxPending old := (holds_start hstart).after calls
  refine ⟨h.short, ?_, ?_, ?_⟩
  · intro b
    rw [Lexer.lex_eq, List.flatten_singleton, x.scan_unfinished h.unfinished]
    rfl
  · intro c b hlex
    have hfeed : old.feed input = (result, new) := rfl
    rw [← h.lexer] at hlex
    rw [feed_of_ok hlex, h.maxPending] at hfeed
    rw [Lexer.lex_eq, List.flatten_singleton, h.lexer] at hlex
    obtain ⟨hc, hparticles⟩ := Scan.of_into_ok hlex
    have hwhole := x.scan_unfinished_append h.unfinished input
    obtain ⟨-, hle⟩ := x.scan_consumed_bounds 0 stream
    rw [← hc] at hwhole hle
    rw [Nat.zero_add] at hle
    by_cases hlong : config.maxPending < (stream.drop c).length
    · rw [if_pos hlong] at hfeed
      obtain ⟨hresult, hnew⟩ := Prod.mk.inj hfeed
      rw [← hnew]
      exact ⟨hwhole, hle, rfl, rfl, hparticles, fun hshort => absurd hlong (Nat.not_lt.mpr hshort),
        fun _ => ⟨hresult.symm, rfl⟩⟩
    · rw [if_neg hlong] at hfeed
      obtain ⟨hresult, hnew⟩ := Prod.mk.inj hfeed
      rw [← hnew]
      exact ⟨hwhole, hle, rfl, rfl, hparticles,
        fun _ => ⟨hresult.symm, (List.take_append_drop c stream).symm⟩,
        fun hmore => absurd hmore hlong⟩
  · intro f b hlex
    have hfeed : old.feed input = (result, new) := rfl
    rw [← h.lexer] at hlex
    rw [feed_of_error hlex] at hfeed
    obtain ⟨hresult, hnew⟩ := Prod.mk.inj hfeed
    rw [← hnew]
    exact ⟨hresult.symm, rfl, rfl, rfl⟩

/-- A name that closes, with a number of five digits behind it where four bytes may wait. -/
theorem feed_outcome_overflow :
    let x : Lexer := ⟨fun _ => none, true⟩
    let calls : List Call :=
      [.feed [0x22, 0x61, 0x62, 0x63], .feed [0x64], .feed [0x73, 0x61, 0x79, 0x20, 0x22, 0x78]]
    let input : Bytes := [0x79, 0x22, 0x20, 0x31, 0x32, 0x33, 0x34, 0x35]
    ∃ s, start (fun _ => none) { maxPending := 4 } = .ok s ∧
      (s.after calls).pending = [0x22, 0x78] ∧
      (∀ b, x.lex [[0x22, 0x78]] b = (.ok 0, b)) ∧
      ((s.after calls).feed input).1 = .error ⟨.pendingOverflow 4 5, none⟩ ∧
      ((s.after calls).feed input).2.pending = [] ∧
      ((s.after calls).feed input).2.lastConsumed = 5 ∧
      ((s.after calls).feed input).2.particles.toList = [.unknownName [0x78, 0x79]] := by
  intro x calls input
  obtain ⟨s, hstart⟩ : ∃ s, start (fun _ => none) { maxPending := 4 } = .ok s := ⟨_, rfl⟩
  have hpending : (s.after calls).pending = [0x22, 0x78] := by
    cases hstart
    decide +kernel
  have hlexed :
      (x.lex [[0x22, 0x78] ++ input] (s.after calls).buffer.clear).1.toOption = some 5 := by
    cases hstart
    decide +kernel
  have hscan : (x.scan 0 ([0x22, 0x78] ++ input)).particles = [.unknownName [0x78, 0x79]] := by
    decide +kernel
  obtain ⟨-, halone, hok, -⟩ := feed_outcome hstart calls input
  rw [hpending] at halone hok
  rcases hlex : x.lex [[0x22, 0x78] ++ input] (s.after calls).buffer.clear with ⟨f | c, b⟩
  · rw [hlex] at hlexed
    cases hlexed
  · rw [hlex] at hlexed
    cases hlexed
    obtain ⟨-, -, hconsumed, hparticles, hread, -, hlong⟩ := hok 5 b hlex
    obtain ⟨hresult, hnone⟩ := hlong (by decide)
    refine ⟨s, hstart, hpending, halone, hresult, hnone, hconsumed, ?_⟩
    rw [hparticles, hread, hscan]

end

end Session
end TableTalk
