import TableTalk.Proofs.Lexing.Agreement
import TableTalk.Proofs.Lexing.Pieces
import TableTalk.Session

/-! Feeding a session. A row of feeds gives the particles that one call of the lexer gives for all
of the input, except where a feed ended in a closing bracket that only later proved stray. -/
namespace TableTalk.Session
open Grammar
variable {s t : Session} {input : Bytes} {feeds : List Bytes}

/-- What a row of feeds gives: all their particles, how many bytes they used up, and the session
after the last of them. -/
structure Feeds where
  particles : List Particle
  consumed : Nat
  session : Session

def feedAll (s : Session) : List Bytes → Except Failure Feeds
  | [] => .ok ⟨[], 0, s⟩
  | input :: feeds =>
    match s.feed input with
    | (.error f, _) => .error f
    | (.ok particles, s) =>
      match s.feedAll feeds with
      | .error f => .error f
      | .ok later =>
        .ok ⟨particles.toList ++ later.particles, s.lastConsumed + later.consumed, later.session⟩

theorem tail_eq (pending input : Bytes) (consumed : Nat) :
    tail pending input consumed = (pending ++ input).drop consumed := by
  rw [tail, List.drop_append]
  split
  · next h => rw [List.drop_eq_nil_of_le h, List.nil_append]
  · next h => rw [Nat.sub_eq_zero_of_le (by omega), List.drop_zero]

/-- A feed that ends well is a scan of what waited and what is new. -/
theorem feed_eq_ok {particles : Array Particle} (h : s.feed input = (.ok particles, t)) :
    particles.toList = (s.lexer.scan 0 (s.pending ++ input)).particles ∧
      t.lastConsumed = (s.lexer.scan 0 (s.pending ++ input)).consumed ∧
      t.pending = (s.pending ++ input).drop t.lastConsumed ∧ t.lexer = s.lexer := by
  rcases hlex : s.lexer.lex [s.pending, input] s.buffer.clear with ⟨f | consumed, b⟩
  · simp only [feed, hlex] at h
    cases h
  · simp only [feed, hlex] at h
    split at h <;> cases h
    rw [Lexer.lex_eq] at hlex
    obtain ⟨hconsumed, hparticles⟩ := Scan.of_into_ok hlex
    simp only [List.flatten_cons, List.flatten_nil, List.append_nil] at hconsumed hparticles
    exact ⟨hparticles, hconsumed, tail_eq _ _ _, rfl⟩

/-- A row of feeds that all end well scans the input piece by piece. -/
theorem feedAll_eq_ok {out : Feeds} (position : Nat) (h : s.feedAll feeds = .ok out) :
    out.particles = (s.lexer.scanPieces position s.pending feeds).particles ∧
      position + out.consumed = (s.lexer.scanPieces position s.pending feeds).consumed ∧
      out.session.pending = (s.pending ++ feeds.flatten).drop out.consumed := by
  induction feeds generalizing s out position with
  | nil =>
    cases h
    exact ⟨rfl, rfl, by simp⟩
  | cons input feeds ih =>
    simp only [feedAll] at h
    split at h
    next => cases h
    next particles t hfeed =>
      split at h <;> cases h
      next later hlater =>
        obtain ⟨hparticles, hconsumed, hpending, hlexer⟩ := feed_eq_ok hfeed
        obtain ⟨hsame, hshift⟩ := s.lexer.scan_particles 0 position (s.pending ++ input)
        obtain ⟨-, hle⟩ := s.lexer.scan_consumed_bounds 0 (s.pending ++ input)
        have hread :
            (s.lexer.scan position (s.pending ++ input)).consumed = position + t.lastConsumed := by
          omega
        obtain ⟨hparts, hcount, hleft⟩ := ih (position + t.lastConsumed) hlater
        rw [hlexer, hpending] at hparts hcount
        simp only [Lexer.scanPieces, hread, Nat.add_sub_cancel_left, Scan.after, Scan.particles,
          List.map_append] at *
        refine ⟨?_, ?_, ?_⟩
        · rw [hparticles, hsame, hparts]
        · rw [← hcount, Nat.add_assoc]
        · rw [hleft, hpending, List.flatten_cons, ← List.append_assoc,
            ← List.drop_append_of_le_length (by omega), List.drop_drop]

/-- A bracket is severed if it is stray because of what followed in a later feed. -/
def Severed (feeds : List Bytes) (t : Token) : Prop :=
  t.particle.IsStray ∧ t.stop < feeds.flatten.length ∧ Cut 0 feeds t.stop

section
variable {name? : Bytes → Option Name} {config : Config} {out : Feeds}

theorem start_eq (h : start name? config = .ok s) :
    ∃ hpos : 0 < config.increment,
      s = { lexer := ⟨name?, config.reasons⟩
            buffer := { increment := config.increment, increment_pos := hpos }
            maxPending := config.maxPending } := by
  simp only [start, ParticleBuffer.withIncrement] at h
  split at h <;> cases h
  next hpos => exact ⟨hpos, rfl⟩

theorem start_eq_ok (h : start name? config = .ok s) :
    s.lexer = ⟨name?, config.reasons⟩ ∧ s.pending = [] := by
  obtain ⟨hpos, rfl⟩ := start_eq h
  exact ⟨rfl, rfl⟩

/-- A bracket that turns out stray does so before the end of the input, so a cut behind it
severs it. -/
theorem severed_iff (x : Lexer) {token : Token} (h : token ∈ (x.scan 0 feeds.flatten).tokens)
    (hstray : token.particle.IsStray) : Severed feeds token ↔ Cut 0 feeds token.stop := by
  have hinside := x.stray_inside h hstray
  rw [Nat.zero_add] at hinside
  exact ⟨fun hsevered => hsevered.2.2, fun hcut => ⟨hstray, hinside, hcut⟩⟩

/-- A row of feeds hands out the tokens of a scan of all the input, with the severed
brackets revised. -/
theorem feedAll_delivered (hstart : start name? config = .ok s)
    (hfeeds : s.feedAll feeds = .ok out) :
    let x : Lexer := ⟨name?, config.reasons⟩
    let whole := x.scan 0 feeds.flatten
    out.consumed = whole.consumed ∧ out.session.pending = feeds.flatten.drop out.consumed ∧
      List.Forall₂ (fun t p => t ∈ whole.tokens ∧ x.Revised (Severed feeds t) p t.particle)
        whole.tokens out.particles := by
  intro x whole
  obtain ⟨hlexer, hpending⟩ : s.lexer = x ∧ s.pending = [] := start_eq_ok hstart
  obtain ⟨hparticles, hconsumed, hleft⟩ := feedAll_eq_ok 0 hfeeds
  obtain ⟨hcount, htokens⟩ := x.scanPieces_delivered 0 x.front_nil feeds
  rw [hlexer, hpending] at hparticles hconsumed
  rw [hpending] at hleft
  simp only [List.nil_append, List.length_nil, Nat.add_zero, Nat.zero_add]
    at hcount htokens hconsumed hleft
  refine ⟨hconsumed.trans hcount, hleft, ?_⟩
  rw [hparticles, Scan.particles, List.forall₂_map_right_iff, List.forall₂_and_left]
  refine ⟨fun _ ht => ht, ((List.forall₂_and_left _ _).mpr ⟨fun _ ht => ht, htokens⟩).imp ?_⟩
  rintro t s ⟨ht, hd⟩
  exact hd.particle.congr x fun hstray => (severed_iff x ht hstray).symm

/-- However its input is cut into feeds, a session that never fails reads what the lexer reads in
all of it at once. Only severed brackets are still taken for good ones. -/
theorem feedAll_eq_lex {b : ParticleBuffer} (hstart : start name? config = .ok s)
    (hfeeds : s.feedAll feeds = .ok out) (hempty : b.particles = #[])
    (hroom : b.Takes feeds.flatten.length) :
    let x : Lexer := ⟨name?, config.reasons⟩
    let tokens := (x.scan 0 feeds.flatten).tokens
    ∃ b', x.lex [feeds.flatten] b = (.ok out.consumed, b') ∧
      b'.particles.toList = tokens.map (·.particle) ∧
      out.particles.length = b'.particles.size ∧
      out.session.pending = feeds.flatten.drop out.consumed ∧
      (∀ (i : Nat) (t : Token), tokens[i]? = some t → ∃ p, out.particles[i]? = some p ∧
        (Severed feeds t → p = .endNest) ∧ (¬Severed feeds t → p.Agrees t.particle)) ∧
      (config.reasons = false → (∀ t ∈ tokens, ¬Severed feeds t) →
        out.particles = b'.particles.toList) := by
  intro x tokens
  obtain ⟨hcount, hleft, hdelivered⟩ := feedAll_delivered hstart hfeeds
  have hroom' : b.Takes tokens.length := hroom.of_le x.scan_tokens_length_le
  obtain ⟨b', hinto, hwhole⟩ := Scan.into_of_takes (r := x.scan 0 feeds.flatten) hroom'
  rw [hempty, List.nil_append] at hwhole
  refine ⟨b', ?_, hwhole, ?_, hleft, ?_, ?_⟩
  · rw [Lexer.lex_eq, List.flatten_singleton, hinto, hcount]
  · rw [← Array.length_toList, hwhole, ← hdelivered.length_eq, Scan.particles, List.length_map]
  · intro i t ht
    obtain ⟨hi, rfl⟩ := List.getElem?_eq_some_iff.mp ht
    have hi' : i < out.particles.length := Nat.lt_of_lt_of_eq hi hdelivered.length_eq
    obtain ⟨-, hsame, hagrees⟩ := hdelivered.get hi hi'
    refine ⟨out.particles[i], List.getElem?_eq_getElem hi', fun hs => hsame ⟨hs.1, hs⟩,
      fun hs => ?_⟩
    exact (hagrees fun h => hs h.2).1
  · intro hreasons hnone
    have heq : List.Forall₂ (· = ·) (tokens.map (·.particle)) out.particles := by
      rw [List.forall₂_map_left_iff]
      refine hdelivered.imp ?_
      rintro t p ⟨ht, -, hagrees⟩
      exact ((hagrees fun h => hnone t ht h.2).2 hreasons).symm
    rw [List.forall₂_eq_eq_eq] at heq
    rw [hwhole, ← heq]
    rfl

end

/-- A feed that ends in a bracket takes it for a good one; the next feed shows that it is stray. -/
theorem feedAll_eq_lex_severed :
    ∃ s out b', start (fun _ => none) {} = .ok s ∧
      s.feedAll [[0x28, 0x61, 0x29], [0x62, 0x20]] = .ok out ∧
      Lexer.lex ⟨fun _ => none, true⟩ [[0x28, 0x61, 0x29, 0x62, 0x20]] .empty =
        (.ok out.consumed, b') ∧
      out.particles.length = b'.particles.size ∧
      b'.particles[2]? = some (.error [0x29] (some "')' followed by 'b' (U+0062)")) ∧
      out.particles[2]? = some .endNest := by
  obtain ⟨s, hstart⟩ : ∃ s, start (fun _ => none) {} = .ok s := ⟨_, rfl⟩
  have hok : (s.feedAll [[0x28, 0x61, 0x29], [0x62, 0x20]]).isOk := by
    cases hstart
    decide +kernel
  obtain ⟨out, hfeeds⟩ : ∃ out, s.feedAll [[0x28, 0x61, 0x29], [0x62, 0x20]] = .ok out := by
    cases h : s.feedAll [[0x28, 0x61, 0x29], [0x62, 0x20]] with
    | ok out => exact ⟨out, rfl⟩
    | error f => rw [h] at hok; cases hok
  have hroom : ParticleBuffer.empty.Takes 5 :=
    ParticleBuffer.takes_of_fits (by decide) (by decide)
  obtain ⟨b', hlex, hwhole, hlength, -, htokens, -⟩ := feedAll_eq_lex hstart hfeeds rfl hroom
  have hbracket : (Lexer.scan ⟨fun _ => none, true⟩ 0 [0x28, 0x61, 0x29, 0x62, 0x20]).tokens[2]? =
      some ⟨2, 3, .error [0x29] (some "')' followed by 'b' (U+0062)")⟩ := by decide +kernel
  obtain ⟨p, hp, hsevered, -⟩ := htokens 2 _ hbracket
  refine ⟨s, out, b', hstart, hfeeds, hlex, hlength, ?_, ?_⟩
  · rw [← Array.getElem?_toList, hwhole, List.getElem?_map]
    exact congrArg (Option.map _) hbracket
  · rw [hp, hsevered ⟨rfl, by decide, 1, rfl⟩]

end TableTalk.Session
