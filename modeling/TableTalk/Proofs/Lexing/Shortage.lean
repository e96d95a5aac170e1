import TableTalk.Proofs.Buffer
import TableTalk.Proofs.Lexing.Agreement

/-! Running out of room. A call that finds no room for a token ends there: the tokens before it stay
in the buffer, and the failure names the byte that the token starts with. -/
namespace TableTalk

namespace Grammar

variable {b : ParticleBuffer} {more : List Particle}

/-- Tokens for which there is room go in, and leave the room for those behind them. -/
theorem deliver_append {ts : List Token} (consumed : Nat) (rest : List Token)
    (hroom : ∀ k < ts.length, ¬b.StuckAfter (more.length + k)) :
    deliver consumed (ts ++ rest) (b.filled more) =
      deliver consumed rest (b.filled (more ++ ts.map (·.particle))) := by
  induction ts generalizing more with
  | nil => rw [List.nil_append, List.map_nil, List.append_nil]
  | cons t ts ih =>
    have hfirst : ¬b.StuckAfter more.length := hroom 0 (Nat.succ_pos _)
    have hothers : ∀ k < ts.length, ¬b.StuckAfter ((more ++ [t.particle]).length + k) := by
      intro k hk
      rw [List.length_append, List.length_singleton, Nat.add_assoc, Nat.add_comm 1 k]
      exact hroom (k + 1) (Nat.succ_lt_succ hk)
    have hadd := b.add_filled more t.particle
    rw [if_neg hfirst] at hadd
    rw [List.cons_append]
    simp only [deliver, hadd]
    rw [ih hothers, List.append_assoc, List.singleton_append, List.map_cons]

/-- A token without room is not delivered, and neither is any token behind it. -/
theorem deliver_stuck (consumed : Nat) (t : Token) (rest : List Token)
    (hstuck : b.StuckAfter more.length) :
    deliver consumed (t :: rest) (b.filled more) =
      (.error ⟨.capacity, some ⟨some "lex", some t.start⟩⟩, b.filled more) := by
  have hadd := b.add_filled more t.particle
  rw [if_pos hstuck] at hadd
  simp only [deliver, hadd]
  rfl

end Grammar

namespace Lexer
open Grammar
variable (x : Lexer)

/-- A token is what the step from its first byte gives, and it ends where that step stops. -/
theorem step_of_mem_scan {c : Cursor} {n : Nat} {t : Token} (hn : n ≤ c.rest.length)
    (h : t ∈ (x.scan n (c.rest.drop n)).tokens) :
    x.step (c.moved t.start) = .emit t.particle (c.moved t.stop) := by
  induction hlength : c.rest.length - n using Nat.strongRecOn generalizing n with
  | ind k ih =>
    cases hf : x.front (c.rest.drop n) with
    | unfinished =>
      rw [x.scan_unfinished hf] at h
      cases h
    | blank =>
      have hpos := x.front_blank_length hf
      rw [List.length_drop] at hpos
      rw [x.scan_blank hf, List.drop_drop] at h
      exact ih _ (by omega) (by omega) h rfl
    | token p m =>
      obtain ⟨hpos, hle⟩ := x.front_token_bounds hf
      rw [List.length_drop] at hle
      rw [x.scan_token hf, List.drop_drop] at h
      obtain rfl | hmem := List.mem_cons.mp h
      · rw [step_eq, Cursor.moved_rest, hf, Front.step, Cursor.moved_moved]
      · exact ih _ (by omega) (by omega) hmem rfl

/-- How many of the tokens end up in a buffer is decided by its size, its room and its
increment alone. Any buffer gets the particles that a roomy one gets, up to the first that it
has no room for. -/
theorem lex_filled (chunks : List Bytes) :
    let r := x.scan 0 chunks.flatten
    (∀ t ∈ r.tokens, x.step ((Cursor.start chunks).moved t.start) =
      .emit t.particle ((Cursor.start chunks).moved t.stop)) ∧
    (∀ roomy : ParticleBuffer, roomy.Takes chunks.flatten.length →
      ∃ b', x.lex chunks roomy = (.ok r.consumed, b') ∧
        b'.particles.toList = roomy.particles.toList ++ r.particles) ∧
    ∀ b : ParticleBuffer,
      ((∀ k < r.tokens.length, ¬b.StuckAfter k) →
        x.lex chunks b = (.ok r.consumed, b.filled r.particles)) ∧
      ∀ k t, r.tokens[k]? = some t → b.StuckAfter k → (∀ i < k, ¬b.StuckAfter i) →
        x.lex chunks b =
          (.error ⟨.capacity, some ⟨some "lex", some t.start⟩⟩, b.filled (r.particles.take k)) := by
  intro r
  have hlex (b : ParticleBuffer) : x.lex chunks b = deliver r.consumed r.tokens (b.filled []) := by
    rw [lex_eq, b.filled_nil, Scan.into]
  refine ⟨?_, fun roomy hroomy => x.lex_of_takes hroomy, fun b => ⟨?_, ?_⟩⟩
  · intro t ht
    have hmem : t ∈ (x.scan 0 ((Cursor.start chunks).rest.drop 0)).tokens := by
      rwa [List.drop_zero, Cursor.start_rest]
    exact x.step_of_mem_scan (Nat.zero_le _) hmem
  · intro hroom
    calc
      x.lex chunks b = deliver r.consumed (r.tokens ++ []) (b.filled []) := by
        rw [hlex, List.append_nil]
      _ = deliver r.consumed [] (b.filled r.particles) := by
        apply deliver_append
        intro k hk
        rw [List.length_nil, Nat.zero_add]
        exact hroom k hk
  · intro k t htoken hstuck hroom
    obtain ⟨hk, rfl⟩ := List.getElem?_eq_some_iff.mp htoken
    have hlength : (r.tokens.take k).length = k := List.length_take_of_le (Nat.le_of_lt hk)
    have hparticles : (r.tokens.take k).map (·.particle) = r.particles.take k := List.map_take
    have hsplit : r.tokens.take k ++ r.tokens[k] :: r.tokens.drop (k + 1) = r.tokens := by
      rw [← List.drop_eq_getElem_cons hk, List.take_append_drop]
    calc
      x.lex chunks b =
          deliver r.consumed (r.tokens.take k ++ r.tokens[k] :: r.tokens.drop (k + 1))
            (b.filled []) := by
        rw [hsplit, hlex]
      _ = deliver r.consumed (r.tokens[k] :: r.tokens.drop (k + 1))
            (b.filled (r.particles.take k)) := by
        rw [deliver_append, hparticles, List.nil_append]
        intro i hi
        rw [List.length_nil, Nat.zero_add]
        exact hroom i (by omega)
      _ = _ := by
        apply deliver_stuck
        rwa [← hparticles, List.length_map, hlength]

/-- Two brackets and a newline. An empty buffer takes them all; one with room for one more, and an
increment that no block has, keeps the first bracket and reports where the second one stands. -/
theorem lex_filled_brackets :
    let x : Lexer := ⟨fun _ => none, true⟩
    let chunks : List Bytes := [[0x20, 0x28], [0x20, 0x28, 0x0A]]
    let b : ParticleBuffer := ⟨#[.endOfLine], 2, Memory.blockLimit, by decide⟩
    ParticleBuffer.empty.Takes chunks.flatten.length ∧ ¬ParticleBuffer.empty.StuckAfter 0 ∧
    b.StuckAfter 1 ∧
      x.lex chunks .empty =
        (.ok 5, ⟨#[.beginNest, .beginNest, .endOfLine], 64, 64, by decide⟩) ∧
      x.lex chunks b =
        (.error ⟨.capacity, some ⟨some "lex", some 3⟩⟩,
          { b with particles := #[.endOfLine, .beginNest] }) := by
  intro x chunks b
  obtain ⟨-, -, hfilled⟩ := x.lex_filled chunks
  have hscan : x.scan 0 chunks.flatten =
      ⟨[⟨1, 2, .beginNest⟩, ⟨3, 4, .beginNest⟩, ⟨4, 5, .endOfLine⟩], 5⟩ := by
    decide +kernel
  rw [hscan] at hfilled
  refine ⟨ParticleBuffer.takes_of_fits (by decide) (by decide), by decide, by decide, ?_, ?_⟩
  · exact (hfilled .empty).1 (by decide)
  · exact (hfilled b).2 1 ⟨3, 4, .beginNest⟩ rfl (by decide) (by decide)

end Lexer
end TableTalk
