import TableTalk.Proofs.Session.Waiting

/-! Starting anew. A session that has failed or was reset answers as a new one does: of its past
only the room in its buffer is left, and no answer depends on that. -/
namespace TableTalk

namespace Grammar
variable {b c : ParticleBuffer}

theorem deliver_grown (h : b.Grown) (consumed : Nat) (ts : List Token) :
    (deliver consumed ts b).2.Grown ∧ (deliver consumed ts b).2.increment = b.increment := by
  induction ts generalizing b with
  | nil => exact ⟨h, rfl⟩
  | cons t ts ih =>
    have hadd := h.add t.particle
    have hincrement := b.increment_add t.particle
    rcases hb : b.add t.particle with ⟨f | _, b'⟩ <;> rw [hb] at hadd hincrement <;>
      simp only [deliver, hb]
    · exact ⟨hadd, hincrement⟩
    · obtain ⟨hgrown, hsame⟩ := ih hadd
      exact ⟨hgrown, hsame.trans hincrement⟩

/-- Buffers that are alike run out of room at the same token, if at all. -/
theorem deliver_alike (h : b.Alike c) (consumed : Nat) (ts : List Token) :
    (deliver consumed ts b).1 = (deliver consumed ts c).1 ∧
      (deliver consumed ts b).2.Alike (deliver consumed ts c).2 := by
  induction ts generalizing b c with
  | nil => exact ⟨rfl, h⟩
  | cons t ts ih =>
    obtain ⟨hanswer, halike⟩ := h.add t.particle
    rcases hb : b.add t.particle with ⟨f | _, b'⟩ <;>
      rcases hc : c.add t.particle with ⟨g | _, c'⟩ <;>
      rw [hb, hc] at hanswer halike <;> simp only [deliver, hb, hc]
    · cases hanswer
      exact ⟨rfl, halike⟩
    · cases hanswer
    · cases hanswer
    · exact ih halike

end Grammar

namespace Lexer
open Grammar
variable (x : Lexer) {b c : ParticleBuffer}

theorem lex_grown (h : b.Grown) (chunks : List Bytes) :
    (x.lex chunks b).2.Grown ∧ (x.lex chunks b).2.increment = b.increment := by
  rw [lex_eq]
  exact deliver_grown h _ _

theorem lex_alike (h : b.Alike c) (chunks : List Bytes) :
    (x.lex chunks b).1 = (x.lex chunks c).1 ∧ (x.lex chunks b).2.Alike (x.lex chunks c).2 := by
  rw [lex_eq, lex_eq]
  exact deliver_alike h _ _

end Lexer

namespace Session
variable {s t : Session}

/-- What the caller of a feed is told. -/
def reply (s : Session) : Call → Option (Except Failure (Array Particle))
  | .feed input => some (s.feed input).1
  | .reset => none

/-- What a call shows: its reply, and the session as it is then seen. -/
structure Response where
  reply : Option (Except Failure (Array Particle))
  particles : Array Particle
  pending : Bytes
  lastConsumed : Nat

def respond (s : Session) (call : Call) : Response :=
  ⟨s.reply call, (s.next call).particles, (s.next call).pending, (s.next call).lastConsumed⟩

def responses (s : Session) : List Call → List Response
  | [] => []
  | call :: calls => s.respond call :: (s.next call).responses calls

/-- Two sessions of the same make. Once emptied, their buffers differ in their room at most. -/
structure Kin (s t : Session) : Prop where
  lexer : s.lexer = t.lexer
  maxPending : s.maxPending = t.maxPending
  buffer : s.buffer.clear.Alike t.buffer.clear

theorem feed_lexer (s : Session) (input : Bytes) :
    (s.feed input).2.lexer = s.lexer ∧ (s.feed input).2.maxPending = s.maxPending ∧
      (s.feed input).2.buffer = (s.lexer.lex [s.pending ++ input] s.buffer.clear).2 := by
  rcases hlex : s.lexer.lex [s.pending ++ input] s.buffer.clear with ⟨f | c, b⟩
  · rw [feed_of_error hlex]
    exact ⟨rfl, rfl, rfl⟩
  · rw [feed_of_ok hlex]
    split <;> exact ⟨rfl, rfl, rfl⟩

/-- No call makes a session another one's kin no longer. -/
theorem Kin.next (h : Kin s t) (call : Call) : Kin (s.next call) t := by
  cases call with
  | reset => exact ⟨h.lexer, h.maxPending, h.buffer⟩
  | feed input =>
    obtain ⟨hlexer, hlimit, hbuffer⟩ := s.feed_lexer input
    obtain ⟨hgrown, hincrement⟩ := s.lexer.lex_grown h.buffer.left [s.pending ++ input]
    rw [← hbuffer] at hgrown hincrement
    exact ⟨hlexer.trans h.lexer, hlimit.trans h.maxPending,
      ⟨rfl, hincrement.trans h.buffer.increment, hgrown.clear, h.buffer.right⟩⟩

theorem Kin.after (h : Kin s t) (calls : List Call) : Kin (s.after calls) t := by
  induction calls generalizing s with
  | nil => exact h
  | cons call calls ih => exact ih (h.next call)

theorem Kin.symm (h : Kin s t) : Kin t s :=
  ⟨h.lexer.symm, h.maxPending.symm,
    ⟨h.buffer.particles.symm, h.buffer.increment.symm, h.buffer.right, h.buffer.left⟩⟩

theorem Kin.feed (h : Kin s t) (hpending : s.pending = t.pending) (input : Bytes) :
    (s.feed input).1 = (t.feed input).1 ∧ (s.feed input).2.particles = (t.feed input).2.particles ∧
      (s.feed input).2.pending = (t.feed input).2.pending ∧
      (s.feed input).2.lastConsumed = (t.feed input).2.lastConsumed := by
  obtain ⟨hanswer, halike⟩ := t.lexer.lex_alike h.buffer [t.pending ++ input]
  rcases hs : t.lexer.lex [t.pending ++ input] s.buffer.clear with ⟨f | c, b⟩ <;>
    rcases ht : t.lexer.lex [t.pending ++ input] t.buffer.clear with ⟨g | d, b'⟩ <;>
    rw [hs, ht] at hanswer halike <;> cases hanswer <;>
    have hparticles := halike.particles <;> rw [← h.lexer, ← hpending] at hs
  · rw [feed_of_error hs, feed_of_error ht]
    exact ⟨rfl, hparticles, rfl, rfl⟩
  · rw [feed_of_ok hs, feed_of_ok ht, h.maxPending, hpending]
    split
    · exact ⟨rfl, hparticles, rfl, rfl⟩
    · exact ⟨congrArg Except.ok hparticles, hparticles, rfl, rfl⟩

theorem Kin.respond (h : Kin s t) (hpending : s.pending = t.pending) (call : Call) :
    s.respond call = t.respond call := by
  cases call with
  | reset => rfl
  | feed input =>
    obtain ⟨hanswer, hparticles, hleft, hconsumed⟩ := h.feed hpending input
    simp only [Session.respond, reply, Session.next, hanswer, hparticles, hleft, hconsumed]

/-- Kin with the same bytes waiting cannot be told apart. -/
theorem Kin.responses (h : Kin s t) (hpending : s.pending = t.pending) (calls : List Call) :
    s.responses calls = t.responses calls := by
  induction calls generalizing s t with
  | nil => rfl
  | cons call calls ih =>
    have hfirst := h.respond hpending call
    have hkin : Kin (s.next call) (t.next call) := ((h.next call).symm.next call).symm
    simp only [Session.responses, hfirst, ih hkin (congrArg Response.pending hfirst)]

/-- A reset and a failing feed leave nothing waiting. -/
theorem pending_next_eq_nil {call : Call} (h : ∀ particles, s.reply call ≠ some (.ok particles)) :
    (s.next call).pending = [] := by
  cases call with
  | reset => rfl
  | feed input =>
    rcases hlex : s.lexer.lex [s.pending ++ input] s.buffer.clear with ⟨f | c, b⟩
    · simp only [Session.next, feed_of_error hlex]
    · simp only [Session.next, reply, feed_of_ok hlex] at h ⊢
      split at h
      · next hlong => simp only [if_pos hlong]
      · exact absurd rfl (h b.particles)

section
variable {name? : Bytes → Option Name} {config : Config}

theorem kin_start (h : start name? config = .ok s) : Kin s s ∧ s.pending = [] := by
  obtain ⟨hpos, rfl⟩ := start_eq h
  have hgrown : ParticleBuffer.Grown { increment := config.increment, increment_pos := hpos } :=
    ⟨Nat.zero_le _, Nat.dvd_zero _, Nat.zero_le _⟩
  exact ⟨⟨rfl, rfl, rfl, rfl, hgrown, hgrown⟩, rfl⟩

/-- Once a call has failed or reset a session, all that it answers and shows from then on is what a
new session answers and shows. -/
theorem responses_renewed (hstart : start name? config = .ok s) (history further : List Call)
    (last : Call) (hlast : ∀ particles, (s.after history).reply last ≠ some (.ok particles)) :
    (s.after (history ++ [last])).responses further = s.responses further := by
  obtain ⟨hself, hnone⟩ := kin_start hstart
  have hafter : s.after (history ++ [last]) = (s.after history).next last := by
    simp only [after, List.foldl_append, List.foldl_cons, List.foldl_nil]
  rw [hafter]
  apply ((hself.after history).next last).responses
  rw [pending_next_eq_nil hlast, hnone]

/-- A slot at a time the buffer grows to two, and then a long number is too much; what follows is
read as if it had not been there. -/
theorem responses_renewed_overflow :
    let config : Config := { maxPending := 2, increment := 1 }
    let history : List Call := [.feed [0x28, 0x28, 0x61]]
    let last : Call := .feed [0x20, 0x29, 0x20, 0x31, 0x32, 0x33]
    let further : List Call := [.feed [0x20, 0x34], .feed [0x35, 0x0A], .reset]
    ∃ s, start (fun _ => none) config = .ok s ∧
      (∀ particles, (s.after history).reply last ≠ some (.ok particles)) ∧
      ((s.after (history ++ [last])).particles.toList = [.word [0x61], .endNest] ∧
        (s.after (history ++ [last])).lastConsumed = 4) ∧
      (s.after (history ++ [last])).responses further = s.responses further := by
  intro config history last further
  obtain ⟨s, hstart⟩ : ∃ s, start (fun _ => none) config = .ok s := ⟨_, rfl⟩
  have hfailed : ((s.after history).reply last).any (·.toOption.isNone) := by
    cases hstart
    decide +kernel
  have hlast : ∀ particles, (s.after history).reply last ≠ some (.ok particles) := by
    intro particles hok
    rw [hok] at hfailed
    cases hfailed
  refine ⟨s, hstart, hlast, ?_, responses_renewed hstart history further last hlast⟩
  cases hstart
  decide +kernel

end

end Session
end TableTalk
