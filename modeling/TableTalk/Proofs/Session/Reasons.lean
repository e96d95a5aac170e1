import TableTalk.Proofs.Session.Renewal
import TableTalk.Proofs.Lexing.Reasons

/-! Sessions with and without reasons. One call after the other, the two read the same particles,
keep the same bytes waiting and fail in the same way. -/
namespace TableTalk

/-- How much room came to be needed is a matter of how many particles there were. -/
theorem ParticleBuffer.clear_filled_map (b : ParticleBuffer) (f : Particle → Particle)
    (ps : List Particle) :
    (b.filled ps).clear = (b.filled (ps.map f)).clear := by
  simp only [clear, filled, List.length_map]

namespace Particle

/-- Particles one by one, with their reasons and without. -/
theorem told_silent_all {ps : List Particle} (h : ∀ p ∈ ps, p.reason?.isSome ↔ p.kind = .error) :
    List.Forall₂ Told ps (ps.map silent) := by
  rw [List.forall₂_map_right_iff, List.forall₂_same]
  exact fun p hp => told_silent (h p hp)

end Particle

namespace Session
open Grammar
variable {s t : Session}

/-- The same reply, with reasons and without. -/
inductive SameReply :
    Option (Except Failure (Array Particle)) → Option (Except Failure (Array Particle)) → Prop
  | silence : SameReply none none
  | failure (f : Failure) : SameReply (some (.error f)) (some (.error f))
  | read {ps qs : Array Particle} : List.Forall₂ Particle.Told ps.toList qs.toList →
      SameReply (some (.ok ps)) (some (.ok qs))

/-- The same response, with reasons and without. -/
structure Response.Told (r q : Response) : Prop where
  reply : SameReply r.reply q.reply
  particles : List.Forall₂ Particle.Told r.particles.toList q.particles.toList
  pending : r.pending = q.pending
  lastConsumed : r.lastConsumed = q.lastConsumed

/-- The first session gives reasons and the second one does not. In all that a call starts from they
are alike. -/
structure Twins (s t : Session) : Prop where
  reasons : s.lexer.reasons
  lexer : t.lexer = s.lexer.silent
  maxPending : s.maxPending = t.maxPending
  pending : s.pending = t.pending
  buffer : s.buffer.clear = t.buffer.clear

/-- A feed of both is one scan; what is read, what is left over and whether that is too much are
settled there. -/
theorem Twins.feed (h : Twins s t) (input : Bytes) :
    (s.respond (.feed input)).Told (t.respond (.feed input)) ∧
      Twins (s.feed input).2 (t.feed input).2 := by
  obtain ⟨r, ps, hs, ht, hreasons⟩ := s.lexer.lex_silent [s.pending ++ input] s.buffer.clear
  have htold : List.Forall₂ Particle.Told ps (ps.map Particle.silent) :=
    Particle.told_silent_all (hreasons h.reasons)
  have hroom := s.buffer.clear.clear_filled_map Particle.silent ps
  rw [← h.lexer, h.pending, h.buffer] at ht
  nth_rewrite 2 [h.buffer] at hroom
  cases r with
  | error f =>
    simp only [respond, reply, Session.next, feed_of_error hs, feed_of_error ht]
    exact ⟨⟨.failure f, htold, rfl, rfl⟩, h.reasons, h.lexer, h.maxPending, rfl, hroom⟩
  | ok c =>
    simp only [respond, reply, Session.next, feed_of_ok hs, feed_of_ok ht, h.maxPending, h.pending]
    split
    · exact ⟨⟨.failure _, htold, rfl, rfl⟩, h.reasons, h.lexer, rfl, rfl, hroom⟩
    · exact ⟨⟨.read htold, htold, rfl, rfl⟩, h.reasons, h.lexer, rfl, rfl, hroom⟩

theorem Twins.respond (h : Twins s t) (call : Call) :
    (s.respond call).Told (t.respond call) ∧ Twins (s.next call) (t.next call) := by
  cases call with
  | feed input => exact h.feed input
  | reset => exact ⟨⟨.silence, .nil, rfl, rfl⟩, h.reasons, h.lexer, h.maxPending, rfl, h.buffer⟩

theorem Twins.responses (h : Twins s t) (calls : List Call) :
    List.Forall₂ Response.Told (s.responses calls) (t.responses calls) := by
  induction calls generalizing s t with
  | nil => exact .nil
  | cons call calls ih =>
    obtain ⟨hfirst, htwins⟩ := h.respond call
    exact .cons hfirst (ih htwins)

section
variable (name? : Bytes → Option Name)

theorem twins_start {config : Config} (h : start name? { config with reasons := true } = .ok s) :
    ∃ t, start name? { config with reasons := false } = .ok t ∧ Twins s t := by
  obtain ⟨hpos, rfl⟩ := start_eq h
  refine ⟨{ lexer := ⟨name?, false⟩
            buffer := { increment := config.increment, increment_pos := hpos }
            maxPending := config.maxPending }, ?_, rfl, rfl, rfl, rfl, rfl⟩
  simp only [start, ParticleBuffer.withIncrement, dif_pos hpos]
  rfl

/-- Reasons change nothing else. With them and without, a call of the lexer ends in the same way and
puts the same particles behind those there are, with a reason for each error or for none; and all
that two sessions answer and show, their failures and waiting bytes included, is the same. -/
theorem reasons_change_nothing :
    let loud : Lexer := ⟨name?, true⟩
    let quiet : Lexer := ⟨name?, false⟩
    (∀ (chunks : List Bytes) (b : ParticleBuffer), ∃ told untold : List Particle,
      (loud.lex chunks b).1 = (quiet.lex chunks b).1 ∧
      (loud.lex chunks b).2.particles.toList = b.particles.toList ++ told ∧
      (quiet.lex chunks b).2.particles.toList = b.particles.toList ++ untold ∧
      List.Forall₂ Particle.Told told untold) ∧
    ∀ (config : Config) (calls : List Call) (s : Session),
      start name? { config with reasons := true } = .ok s →
        ∃ t, start name? { config with reasons := false } = .ok t ∧
          List.Forall₂ Response.Told (s.responses calls) (t.responses calls) := by
  intro loud quiet
  constructor
  · intro chunks b
    obtain ⟨r, ps, hloud, hquiet, hreasons⟩ := loud.lex_silent chunks b
    change quiet.lex chunks b = _ at hquiet
    refine ⟨ps, ps.map Particle.silent, ?_, ?_, ?_, Particle.told_silent_all (hreasons rfl)⟩
    · rw [hloud, hquiet]
    · rw [hloud]
      rfl
    · rw [hquiet]
      rfl
  · intro config calls s hstart
    obtain ⟨t, hquiet, htwins⟩ := twins_start name? hstart
    exact ⟨t, hquiet, htwins.responses calls⟩

/-- A bracket with a letter behind it, then a number that is too long to wait. -/
theorem reasons_change_nothing_stray :
    let calls : List Call := [.feed [0x28, 0x61, 0x29, 0x62, 0x20], .feed [0x31, 0x32, 0x33]]
    ∃ s t, start (fun _ => none) { maxPending := 2, reasons := true } = .ok s ∧
      start (fun _ => none) { maxPending := 2, reasons := false } = .ok t ∧
      (s.responses calls).map (·.particles) =
        [#[.beginNest, .word [0x61], .error [0x29] (some "')' followed by 'b' (U+0062)"),
          .word [0x62]], #[]] ∧
      (t.responses calls).map (·.particles) =
        [#[.beginNest, .word [0x61], .error [0x29] none, .word [0x62]], #[]] ∧
      List.Forall₂ Response.Told (s.responses calls) (t.responses calls) := by
  intro calls
  obtain ⟨s, hloud⟩ : ∃ s, start (fun _ => none) { maxPending := 2, reasons := true } = .ok s :=
    ⟨_, rfl⟩
  obtain ⟨-, hsessions⟩ := reasons_change_nothing fun _ => none
  obtain ⟨t, hquiet, htold⟩ := hsessions { maxPending := 2 } calls s hloud
  refine ⟨s, t, hloud, hquiet, ?_, ?_, htold⟩
  · cases hloud
    decide +kernel
  · cases hquiet
    decide +kernel

end

end Session
end TableTalk
