import TableTalk.Proofs.Lexing.Agreement
import TableTalk.Proofs.Lexing.Resumption

/-! Where the bytes of a stream go. Those that a call uses up fall into one stretch for each
particle, with blanks between; those that are left begin a token without an end, and on their own
they give nothing. -/
namespace TableTalk
open Grammar (glyph signs)

/-- What a particle tells of the bytes it was read from. -/
def Particle.ReadFrom (span : Bytes) : Particle → Prop
  | endOfLine => span.map glyph = ['\n']
  | beginNest => span.map glyph = ['(']
  | endNest => span.map glyph = [')']
  | number bytes | word bytes | error bytes _ => bytes = span
  | keyword k => span.map (fun b => (glyph b).toUpper) = k.spelling.toList
  | name _ | unknownName _ => ∃ inner, span.map glyph = '"' :: inner ++ ['"']

/-- Only spaces, carriage returns and tabs. -/
def Blank (s : Bytes) : Prop := ∀ b ∈ s, glyph b ∈ [' ', '\r', '\t']

theorem blank_nil : Blank [] := by
  intro b hb
  cases hb

/-- A particle with the bytes it was read from, and the blanks in front of them. -/
structure Stretch where
  gap : Bytes
  span : Bytes
  particle : Particle
  gap_blank : Blank gap
  span_ne_nil : span ≠ []
  readFrom : particle.ReadFrom span

def Stretch.bytes (t : Stretch) : Bytes := t.gap ++ t.span

/-- The same with more blanks in front. -/
def Stretch.behind (gap : Bytes) (hgap : Blank gap) (t : Stretch) : Stretch :=
  { t with
    gap := gap ++ t.gap
    gap_blank := fun b hb => (List.mem_append.mp hb).elim (hgap b) (t.gap_blank b) }

namespace Grammar
open Lexing (Run)
variable {s : Bytes} {b : UInt8}

/-- A quotation mark, a digit, or what a word may begin with. -/
def OpensToken (b : UInt8) : Prop :=
  glyph b = '"' ∨ (glyph b).isDigit ∨ (glyph b).isAlpha ∨ glyph b ∈ signs

/-- The bytes that announce this. -/
def Lead.Announced (b : UInt8) : Lead → Prop
  | blank => glyph b ∈ [' ', '\r', '\t']
  | newline => glyph b = '\n'
  | opening => glyph b = '('
  | closing => glyph b = ')'
  | quotation => glyph b = '"'
  | run _ => (glyph b).isDigit ∨ (glyph b).isAlpha ∨ glyph b ∈ signs
  | stray => True

theorem lead_announced (b : UInt8) : (lead b).Announced b := by
  rw [lead]
  split_ifs with hblank hnewline hopening hclosing hquotation hdigit hword
  · exact List.contains_iff_mem.mp hblank
  · exact hnewline
  · exact hopening
  · exact hclosing
  · exact hquotation
  · exact .inl hdigit
  · obtain h | h := Bool.or_eq_true_iff.mp hword
    · exact .inr (.inl h)
    · exact .inr (.inr (List.contains_iff_mem.mp h))
  · trivial

/-- A name is closed by a quotation mark, the last of its bytes. -/
theorem inside_closed_last {value : Bytes} {n : Nat} (h : inside s = .closed value n) :
    ∃ inner, (s.take n).map glyph = inner ++ ['"'] := by
  fun_induction inside s generalizing value n with
  | case1 => cases h
  | case2 => cases h
  | case3 b s hf hq =>
    cases h
    exact ⟨[], by simp [hq]⟩
  | case4 => cases h
  | case5 => cases h
  | case6 b _ _ _ e t _ ih =>
    cases ht : inside t <;> rw [ht] at h <;> cases h
    obtain ⟨inner, hinner⟩ := ih ht
    refine ⟨glyph b :: glyph e :: inner, ?_⟩
    rw [Nat.add_comm, List.take_succ_cons, List.take_succ_cons]
    simp [hinner]
  | case7 b s _ _ _ ih =>
    cases hs : inside s <;> rw [hs] at h <;> cases h
    obtain ⟨inner, hinner⟩ := ih hs
    refine ⟨glyph b :: inner, ?_⟩
    rw [Nat.add_comm, List.take_succ_cons]
    simp [hinner]

theorem readFrom_particle (r : Run) (bytes : Bytes) : (particle r bytes).ReadFrom bytes := by
  cases r with
  | number => rfl
  | word =>
    rw [particle]
    cases hk : keyword? bytes with
    | none => rfl
    | some k => exact keyword?_eq_some_iff.mp hk

end Grammar

namespace Lexer
open Grammar
variable (x : Lexer) {s : Bytes} {p : Particle} {n : Nat}

theorem frontRun_readFrom {r : Lexing.Run} (h : x.frontRun r s = .token p n) :
    p.ReadFrom (s.take n) := by
  simp only [frontRun] at h
  split at h
  · cases h
  · split at h
    · cases h
      rw [← List.prefix_iff_eq_take.mp (List.takeWhile_prefix _)]
      exact readFrom_particle _ _
    · split at h <;> cases h
      rfl

theorem frontName_readFrom {b : UInt8} {t : Bytes} (hb : glyph b = '"')
    (h : x.frontName (b :: t) = .token p n) : p.ReadFrom ((b :: t).take n) := by
  simp only [frontName, List.tail_cons] at h
  split at h
  next value m hm =>
    cases h
    obtain ⟨inner, hinner⟩ := inside_closed_last hm
    have hspan : ((b :: t).take (m + 1)).map glyph = '"' :: inner ++ ['"'] := by
      rw [List.take_succ_cons, List.map_cons, hb, hinner, List.cons_append]
    rw [nameParticle]
    cases x.name? value with
    | none => exact ⟨inner, hspan⟩
    | some _ => exact ⟨inner, hspan⟩
  next =>
    split at h <;> cases h
    rfl
  next => cases h

/-- A token at the front is read from the bytes that it takes. -/
theorem front_readFrom (h : x.front s = .token p n) : p.ReadFrom (s.take n) := by
  cases s with
  | nil => cases h
  | cons b t =>
    have hb := lead_announced b
    rw [front_cons] at h
    cases hl : lead b <;> rw [hl] at h hb
    case blank => cases h
    case newline | opening =>
      cases h
      exact congrArg (fun c => [c]) hb
    case stray =>
      cases h
      rfl
    case closing =>
      simp only [rule, frontClosing] at h
      split at h <;> cases h
      · exact congrArg (fun c => [c]) hb
      · rfl
    case quotation => exact x.frontName_readFrom hb h
    case run r => exact x.frontRun_readFrom h

theorem blank_of_front (h : x.front s = .blank) : Blank (s.take 1) := by
  cases s with
  | nil => cases h
  | cons b t =>
    have hb := lead_announced b
    rw [front_cons] at h
    by_cases hl : lead b = .blank
    · rw [hl] at hb
      exact List.forall_mem_singleton.mpr hb
    · exact absurd h (x.rule_ne_blank hl)

/-- Only some bytes begin what may be unfinished. -/
theorem opensToken_of_front {b : UInt8} {t : Bytes} (h : x.front (b :: t) = .unfinished) :
    OpensToken b := by
  have hb := lead_announced b
  rw [front_cons] at h
  cases hl : lead b <;> rw [hl] at h hb
  case blank | newline | opening | stray => cases h
  case closing =>
    simp only [rule, frontClosing] at h
    split at h <;> cases h
  case quotation => exact .inl hb
  case run r => exact .inr hb

/-- A scan divides what it uses up into stretches, the last of them followed by blanks, and stops
before an unfinished token. -/
theorem scan_stretches (position : Nat) (s : Bytes) :
    ∃ (ts : List Stretch) (trailing rest : Bytes),
      s = ts.flatMap Stretch.bytes ++ trailing ++ rest ∧ Blank trailing ∧
      (x.scan position s).particles = ts.map (·.particle) ∧
      (x.scan position s).consumed = position + (ts.flatMap Stretch.bytes ++ trailing).length ∧
      x.front rest = .unfinished := by
  fun_induction scan x position s with
  | case1 position s hf => exact ⟨[], [], s, rfl, blank_nil, rfl, rfl, hf⟩
  | case2 position s hf ih =>
    have hgap := x.blank_of_front hf
    obtain ⟨ts, trailing, rest, hsplit, hblank, hparticles, hconsumed, hrest⟩ := ih
    have hs : s = s.take 1 ++ (ts.flatMap Stretch.bytes ++ trailing ++ rest) := by
      rw [← hsplit, List.take_append_drop]
    have hone : (s.take 1).length = 1 := List.length_take_of_le (x.front_blank_length hf)
    cases ts with
    | nil =>
      refine ⟨[], s.take 1 ++ trailing, rest, ?_, ?_, hparticles, ?_, hrest⟩
      · simpa using hs
      · intro b hb
        exact (List.mem_append.mp hb).elim (hgap b) (hblank b)
      · rw [hconsumed]
        simp only [List.flatMap_nil, List.nil_append, List.length_append, hone]
        omega
    | cons t ts =>
      refine ⟨t.behind (s.take 1) hgap :: ts, trailing, rest, ?_, hblank, hparticles, ?_, hrest⟩
      · simpa [Stretch.bytes, Stretch.behind] using hs
      · rw [hconsumed]
        simp only [List.flatMap_cons, Stretch.bytes, Stretch.behind, List.length_append, hone]
        omega
  | case3 position s p n hf ih =>
    obtain ⟨hpos, hle⟩ := x.front_token_bounds hf
    obtain ⟨ts, trailing, rest, hsplit, hblank, hparticles, hconsumed, hrest⟩ := ih
    have hlength : (s.take n).length = n := List.length_take_of_le hle
    have hne : s.take n ≠ [] := List.ne_nil_of_length_pos (by omega)
    let t : Stretch := ⟨[], s.take n, p, blank_nil, hne, x.front_readFrom hf⟩
    refine ⟨t :: ts, trailing, rest, ?_, hblank, congrArg (p :: ·) hparticles, ?_, hrest⟩
    · rw [List.flatMap_cons, List.append_assoc, List.append_assoc, ← List.append_assoc _ trailing,
        ← hsplit]
      exact (List.take_append_drop n s).symm
    · refine hconsumed.trans ?_
      simp only [t, List.flatMap_cons, Stretch.bytes, List.length_append, List.nil_append, hlength]
      omega

/-- No byte is lost and none is read twice. A call uses up one stretch for each particle and the
blanks behind the last; what it leaves begins with a token that has no end yet, and would be
left again. -/
theorem lex_conserves {chunks : List Bytes} {b : ParticleBuffer} (hs : chunks.flatten = s)
    (hroom : b.Takes s.length) :
    ∃ c b', x.lex chunks b = (.ok c, b') ∧ c ≤ s.length ∧
      (∃ (ts : List Stretch) (trailing : Bytes),
        s.take c = ts.flatMap Stretch.bytes ++ trailing ∧ Blank trailing ∧
        b'.particles.toList = b.particles.toList ++ ts.map (·.particle)) ∧
      (c = s.length ∨
        (∃ a, s[c]? = some a ∧ OpensToken a) ∧
        ∀ other, x.lex [s.drop c] other = (.ok 0, other)) := by
  have hle : (x.scan 0 s).tokens.length ≤ s.length := x.scan_tokens_length_le
  obtain ⟨b', hinto, hparticles⟩ := Scan.into_of_takes (hroom.of_le hle)
  obtain ⟨ts, trailing, rest, hsplit, hblank, hread, hconsumed, hrest⟩ := x.scan_stretches 0 s
  have hlex : x.lex chunks b = (.ok (ts.flatMap Stretch.bytes ++ trailing).length, b') := by
    rw [lex_eq, hs, hinto, hconsumed, Nat.zero_add]
  rw [hread] at hparticles
  clear hs hroom hinto hread hconsumed
  subst hsplit
  refine ⟨_, b', hlex, ?_, ⟨ts, trailing, List.take_left, hblank, hparticles⟩, ?_⟩
  · exact Nat.le_trans (Nat.le_add_right _ _) (Nat.le_of_eq List.length_append.symm)
  · cases rest with
    | nil => exact .inl (by rw [List.append_nil])
    | cons a rest =>
      refine .inr ⟨⟨a, by simp, x.opensToken_of_front hrest⟩, fun other => ?_⟩
      rw [List.drop_left, lex_eq, List.flatten_singleton, x.scan_unfinished hrest]
      rfl

/-- A word, a name that is cut in two, and a number whose two digits may go on: they are left. -/
theorem lex_conserves_line :
    let x : Lexer := ⟨fun _ => none, true⟩
    let chunks := [Utf8.encode "\tsay  \"a", Utf8.encode "b\" ) 42"]
    let s := Utf8.encode "\tsay  \"ab\" ) 42"
    chunks.flatten = s ∧ ParticleBuffer.empty.Takes s.length ∧
      (∃ b', x.lex chunks .empty = (.ok 13, b') ∧ ∃ (ts : List Stretch) (trailing : Bytes),
        s.take 13 = ts.flatMap Stretch.bytes ++ trailing ∧ Blank trailing ∧
        ts.map (·.particle) = [.keyword .say, .unknownName [0x61, 0x62], .endNest]) ∧
      ∀ other, x.lex [[0x34, 0x32]] other = (.ok 0, other) := by
  intro x chunks s
  have hs : chunks.flatten = s := by decide +kernel
  have hroom : ParticleBuffer.empty.Takes s.length :=
    ParticleBuffer.takes_of_fits (by decide) (by decide +kernel)
  obtain ⟨c, b', hlex, -, ⟨ts, trailing, htake, hblank, hparticles⟩, hrest⟩ :=
    x.lex_conserves hs hroom
  obtain ⟨hc, hread⟩ := Scan.of_into_ok ((x.lex_eq chunks .empty).symm.trans hlex)
  have hthirteen : (x.scan 0 chunks.flatten).consumed = 13 := by decide +kernel
  obtain rfl : c = 13 := hc.trans hthirteen
  refine ⟨hs, hroom, ⟨b', hlex, ts, trailing, htake, hblank, ?_⟩, ?_⟩
  · have hscan : (x.scan 0 chunks.flatten).particles =
        [.keyword .say, .unknownName [0x61, 0x62], .endNest] := by decide +kernel
    rw [hread, hscan] at hparticles
    exact hparticles.symm
  · obtain hall | ⟨-, hleft⟩ := hrest
    · exact absurd hall (by decide +kernel)
    · have hdrop : s.drop 13 = [0x34, 0x32] := by decide +kernel
      rwa [hdrop] at hleft

end Lexer
end TableTalk
