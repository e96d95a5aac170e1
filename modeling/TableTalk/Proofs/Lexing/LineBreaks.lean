import TableTalk.Proofs.Lexing.Lines
import TableTalk.Proofs.Lexing.Pieces
import TableTalk.Proofs.Lexing.Wording

/-! Line by line. A newline shuts off what stands before it: no recovery goes past it, no bracket
looks past it, and no character is read across it. Only a quoted name goes on. -/
namespace TableTalk

namespace Grammar
open Lexing (Run newline quotation)
variable {s u v : Bytes}

/-- No character goes on behind a newline. -/
theorem wording_append (v : Bytes) (h : newline ∈ s) : wording (s ++ v) = wording s := by
  have hnewline : Utf8.isContinuation newline = false := rfl
  cases s with
  | nil => cases h
  | cons b t =>
    have hfront : Utf8.front b ((t ++ v).take 3) = Utf8.front b (t.take 3) := by
      obtain rfl | ht := List.mem_cons.mp h
      · rfl
      · have hstop : (t ++ v).takeWhile Utf8.isContinuation = t.takeWhile Utf8.isContinuation := by
          rw [List.takeWhile_append, if_neg]
          intro hall
          have hself := (List.takeWhile_prefix Utf8.isContinuation).eq_of_length hall
          have hcontinues := List.takeWhile_eq_self_iff.mp hself newline ht
          rw [hnewline] at hcontinues
          cases hcontinues
        rw [← Utf8.front_takeWhile, ← List.take_takeWhile, hstop, List.take_takeWhile,
          Utf8.front_takeWhile]
    rw [List.cons_append, wording_cons, wording_cons, hfront]

/-- Lines, each with the newline that ends it. -/
def joined (lines : List Bytes) : Bytes := lines.flatMap (· ++ [newline])

theorem joined_cons (line : Bytes) (lines : List Bytes) :
    joined (line :: lines) = line ++ newline :: joined lines := by
  rw [joined, List.flatMap_cons, List.append_assoc]
  rfl

theorem findIdx?_take {q : UInt8 → Bool} {k : Nat} (h : s.findIdx? q = some k) :
    ∀ b ∈ s.take k, ¬q b := by
  intro b hb
  obtain ⟨hlt, -, hbefore⟩ := List.findIdx?_eq_some_iff_getElem.mp h
  obtain ⟨j, hj, rfl⟩ := List.mem_take_iff_getElem.mp hb
  exact hbefore j (by omega)

end Grammar

namespace Lexer
open Grammar
open Lexing (Run newline quotation)
variable (x : Lexer) {s u v : Bytes} {p : Particle} {n : Nat}

theorem newline_mem_dropWhile (r : Run) (h : newline ∈ s) :
    newline ∈ s.dropWhile (continues r) := by
  rw [← List.takeWhile_append_dropWhile (p := continues r) (l := s), List.mem_append] at h
  obtain hrun | hrest := h
  · exact absurd (List.mem_takeWhile_imp hrun) (not_continues_of_stops r _ (by decide))
  · exact hrest

theorem frontRun_of_newline (r : Run) (v : Bytes) (h : newline ∈ s) :
    x.frontRun r (s ++ v) = x.frontRun r s := by
  have hrest := newline_mem_dropWhile r h
  have hsplit := List.takeWhile_append_dropWhile (p := continues r) (l := s)
  obtain ⟨b, t, ht⟩ := List.exists_cons_of_ne_nil (List.ne_nil_of_mem hrest)
  obtain ⟨htake, hdrop⟩ := run_append v ht
  rw [ht] at hrest hsplit
  have hwording : wording (b :: t ++ v) = wording (b :: t) := wording_append v hrest
  obtain ⟨k, hk⟩ : ∃ k, (b :: t).findIdx? recovers = some k := by
    rw [← Option.isSome_iff_exists, List.findIdx?_isSome, List.any_eq_true]
    exact ⟨newline, hrest, by decide⟩
  have hmore : (b :: t ++ v).findIdx? recovers = some k := by
    rw [List.findIdx?_append, hk, Option.some_or]
  obtain ⟨hlt, -⟩ := List.findIdx?_eq_some_iff_getElem.mp hk
  have hbytes : (s ++ v).take ((s.takeWhile (continues r)).length + k) =
      s.take ((s.takeWhile (continues r)).length + k) := by
    apply List.take_append_of_le_length
    have hlength := congrArg List.length hsplit
    rw [List.length_append] at hlength
    omega
  have hhead : (b :: t ++ v).head? = (b :: t).head? := rfl
  simp only [frontRun, htake, hdrop, ht, hhead, hmore, hk, hbytes, hwording]

/-- What stands behind a newline decides nothing about what stands before it, quoted names apart. -/
theorem front_of_newline (v : Bytes) (h : newline ∈ s) (hquote : s.head? ≠ some quotation) :
    x.front (s ++ v) = x.front s := by
  cases s with
  | nil => cases h
  | cons b t =>
    rw [List.cons_append, front_cons, front_cons]
    cases hl : lead b with
    | blank | newline | opening => rfl
    | closing =>
      have ht : newline ∈ t := by
        obtain rfl | ht := List.mem_cons.mp h
        · cases hl
        · exact ht
      obtain ⟨c, t, rfl⟩ := List.exists_cons_of_ne_nil (List.ne_nil_of_mem ht)
      simp only [rule, frontClosing, List.tail_cons, wording_append v ht]
      rfl
    | quotation => exact absurd (congrArg some (eq_quotation_of_lead hl)) hquote
    | run r => exact x.frontRun_of_newline r v h
    | stray =>
      rw [← List.cons_append]
      simp only [rule, wording_append v h]
      rfl

theorem newline_not_mem_frontRun {r : Run} (h : x.frontRun r s = .token p n) :
    newline ∉ s.take n := by
  have hrun : newline ∉ s.takeWhile (continues r) := by
    intro hmem
    exact not_continues_of_stops r _ (by decide) (List.mem_takeWhile_imp hmem)
  have htake (k : Nat) : s.take ((s.takeWhile (continues r)).length + k) =
      s.takeWhile (continues r) ++ (s.dropWhile (continues r)).take k := by
    rw [← List.take_length_add_append, List.takeWhile_append_dropWhile]
  simp only [frontRun] at h
  split at h
  · cases h
  · split at h
    · cases h
      rwa [← List.prefix_iff_eq_take.mp (List.takeWhile_prefix _)]
    · split at h
      · cases h
      · next k hk =>
        cases h
        intro hmem
        rw [htake, List.mem_append] at hmem
        obtain hmem | hmem := hmem
        · exact hrun hmem
        · exact findIdx?_take hk _ hmem (by decide)

/-- A newline is a token, and no part of another one, quoted names apart. -/
theorem endOfLine_of_newline (h : x.front s = .token p n) (hquote : s.head? ≠ some quotation)
    (hmem : newline ∈ s.take n) : s.head? = some newline ∧ n = 1 ∧ p = .endOfLine := by
  cases s with
  | nil => cases h
  | cons b t =>
    have hone {p' : Particle} (hn : Front.token p' 1 = .token p n) : newline = b := by
      cases hn
      exact List.mem_singleton.mp hmem
    rw [front_cons] at h
    cases hl : lead b <;> rw [hl] at h
    case blank => cases h
    case newline =>
      cases h
      exact ⟨congrArg some (hone rfl).symm, rfl, rfl⟩
    case opening | stray =>
      rw [← hone h] at hl
      cases hl
    case closing =>
      simp only [rule, frontClosing] at h
      split at h
      all_goals
        rw [← hone h] at hl
        cases hl
    case quotation => exact absurd (congrArg some (eq_quotation_of_lead hl)) hquote
    case run r => exact absurd hmem (x.newline_not_mem_frontRun h)

/-- In front of the newline there is a blank or a token that ends before it, whatever stands
behind it. -/
theorem front_line (hne : u ≠ []) (hnewline : newline ∉ u) (hquote : quotation ∉ u) :
    (∀ v, x.front (u ++ newline :: v) = .blank) ∨
      ∃ p n, 0 < n ∧ n ≤ u.length ∧ p ≠ .endOfLine ∧
        ∀ v, x.front (u ++ newline :: v) = .token p n := by
  have hmem : newline ∈ u ++ [newline] := List.mem_append_right _ List.mem_cons_self
  have hhead : (u ++ [newline]).head? = u.head? := by
    rw [List.head?_append_of_ne_nil _ hne]
  have hopen : (u ++ [newline]).head? ≠ some quotation := by
    rw [hhead]
    intro h
    exact hquote (List.mem_of_head? h)
  have hfront (v : Bytes) : x.front (u ++ newline :: v) = x.front (u ++ [newline]) := by
    rw [← x.front_of_newline v hmem hopen, List.append_assoc, List.singleton_append]
  simp only [hfront]
  cases hf : x.front (u ++ [newline]) with
  | unfinished => exact absurd (x.quotation_of_unfinished hf hmem) hopen
  | blank => exact .inl fun _ => rfl
  | token p n =>
    have hspan : newline ∉ (u ++ [newline]).take n := by
      intro hin
      obtain ⟨hfirst, -, -⟩ := x.endOfLine_of_newline hf hopen hin
      rw [hhead] at hfirst
      exact hnewline (List.mem_of_head? hfirst)
    refine .inr ⟨p, n, (x.front_token_bounds hf).1, ?_, ?_, fun _ => rfl⟩
    · by_contra hlt
      rw [List.take_of_length_le (by simp; omega)] at hspan
      exact hspan hmem
    · rintro rfl
      have hread := x.front_readFrom hf
      have hglyph : glyph newline = '\n' := rfl
      obtain ⟨b, hb, hbyte⟩ := List.mem_map.mp (hread ▸ List.mem_singleton_self '\n')
      rw [← hglyph, glyph_inj] at hbyte
      exact hspan (hbyte ▸ hb)

/-- What a line without quotation marks is read as, whatever stands behind it. -/
theorem scan_line (position : Nat) (hnewline : newline ∉ u) (hquote : quotation ∉ u) :
    ∃ ts : List Token, (∀ t ∈ ts, t.particle ≠ .endOfLine) ∧
      ∀ v, x.scan position (u ++ newline :: v) =
        (x.scan (position + u.length + 1) v).after
          (ts ++ [⟨position + u.length, position + u.length + 1, .endOfLine⟩]) := by
  induction hlength : u.length using Nat.strongRecOn generalizing u position with
  | ind k ih =>
    by_cases hne : u = []
    · subst hne
      have hend (v : Bytes) : x.front (newline :: v) = .token .endOfLine 1 := rfl
      refine ⟨[], nofun, fun v => ?_⟩
      rw [List.nil_append, x.scan_token (hend v), ← hlength]
      rfl
    · -- What is left of the line once `n` of its bytes have been read is a shorter line.
      have hrest {n : Nat} (hpos : 0 < n) (hle : n ≤ u.length) :
          ∃ ts : List Token, (∀ t ∈ ts, t.particle ≠ .endOfLine) ∧
            ∀ v, x.scan (position + n) ((u ++ newline :: v).drop n) =
              (x.scan (position + k + 1) v).after
                (ts ++ [⟨position + k, position + k + 1, .endOfLine⟩]) := by
        have hdrop : (u.drop n).length = k - n := by rw [List.length_drop, hlength]
        obtain ⟨ts, hts, hscan⟩ := ih (k - n) (by omega) (position + n)
          (fun h => hnewline (List.mem_of_mem_drop h))
          (fun h => hquote (List.mem_of_mem_drop h)) hdrop
        refine ⟨ts, hts, fun v => ?_⟩
        rw [List.drop_append_of_le_length hle, hscan,
          show position + n + (k - n) = position + k by omega]
      obtain hblank | ⟨p, n, hpos, hle, hp, htoken⟩ := x.front_line hne hnewline hquote
      · obtain ⟨ts, hts, hscan⟩ := hrest Nat.one_pos (List.length_pos_iff.mpr hne)
        exact ⟨ts, hts, fun v => (x.scan_blank (hblank v)).trans (hscan v)⟩
      · obtain ⟨ts, hts, hscan⟩ := hrest hpos hle
        refine ⟨⟨position, position + n, p⟩ :: ts, List.forall_mem_cons.mpr ⟨hp, hts⟩, fun v => ?_⟩
        rw [x.scan_token (htoken v), hscan, Scan.cons_after]
        rfl

/-- The particles of one line, read on its own. -/
def block (line : Bytes) : List Particle := (x.scan 0 (line ++ [newline])).particles

/-- A block ends with the only end of a line in it, and what follows is read as if the line were
not there. -/
theorem scan_block (position : Nat) (hnewline : newline ∉ u) (hquote : quotation ∉ u) :
    (∃ words, x.block u = words ++ [.endOfLine] ∧ .endOfLine ∉ words) ∧
      ∀ v, (x.scan position (u ++ newline :: v)).particles =
          x.block u ++ (x.scan (position + u.length + 1) v).particles ∧
        (x.scan position (u ++ newline :: v)).consumed =
          (x.scan (position + u.length + 1) v).consumed := by
  obtain ⟨ts, hts, hscan⟩ := x.scan_line position hnewline hquote
  have hblock : x.block u = ts.map (·.particle) ++ [.endOfLine] := by
    rw [block, (x.scan_particles 0 position _).1, hscan [], x.scan_unfinished x.front_nil]
    simp only [Scan.after, Scan.particles, List.append_nil, List.map_append, List.map_cons,
      List.map_nil]
  refine ⟨⟨_, hblock, ?_⟩, fun v => ?_⟩
  · intro hmem
    obtain ⟨t, ht, hend⟩ := List.mem_map.mp hmem
    exact hts t ht hend
  · rw [hscan v, hblock]
    simp only [Scan.after, Scan.particles, List.map_append, List.map_cons, List.map_nil, and_self]

theorem scan_joined (position : Nat) {lines : List Bytes}
    (h : ∀ line ∈ lines, newline ∉ line ∧ quotation ∉ line) :
    (x.scan position (joined lines)).particles = lines.flatMap x.block ∧
      (x.scan position (joined lines)).consumed = position + (joined lines).length := by
  induction lines generalizing position with
  | nil =>
    rw [joined, List.flatMap_nil, x.scan_unfinished x.front_nil]
    exact ⟨rfl, rfl⟩
  | cons line lines ih =>
    obtain ⟨⟨hnewline, hquote⟩, hlines⟩ := List.forall_mem_cons.mp h
    obtain ⟨hparticles, hconsumed⟩ := ih (position + line.length + 1) hlines
    obtain ⟨hblock, hskip⟩ := (x.scan_block position hnewline hquote).2 (joined lines)
    rw [joined_cons, hblock, hskip, hparticles, hconsumed]
    refine ⟨rfl, ?_⟩
    rw [List.length_append, List.length_cons]
    omega

/-- Lines that are read in one go give their blocks one after the other. -/
theorem lex_blocks {chunks lines : List Bytes} {b : ParticleBuffer}
    (hlines : ∀ line ∈ lines, newline ∉ line ∧ quotation ∉ line)
    (hchunks : chunks.flatten = joined lines)
    (hroom : b.Takes (joined lines).length) :
    ∃ b', x.lex chunks b = (.ok (joined lines).length, b') ∧
      b'.particles.toList = b.particles.toList ++ lines.flatMap x.block := by
  rw [← hchunks] at hroom
  obtain ⟨b', hlex, hparticles⟩ := x.lex_of_takes hroom
  obtain ⟨hblocks, hconsumed⟩ := x.scan_joined 0 hlines
  rw [hchunks] at hlex hparticles
  exact ⟨b', by rw [hlex, hconsumed, Nat.zero_add], by rw [hparticles, hblocks]⟩

/-- Without quotation marks every newline is a fresh start. Lines that are read in one go give what
each of them gives on its own, reasons included, and the one end of line among its particles is the
last of them. -/
theorem lex_joined {chunks lines : List Bytes} {b : ParticleBuffer}
    (hlines : ∀ line ∈ lines, newline ∉ line ∧ quotation ∉ line)
    (hchunks : chunks.flatten = joined lines)
    (hroom : b.Takes (joined lines).length) :
    ∃ block : Bytes → List Particle,
      (∃ b', x.lex chunks b = (.ok (joined lines).length, b') ∧
        b'.particles.toList = b.particles.toList ++ lines.flatMap block) ∧
      ∀ line ∈ lines, (∃ words, block line = words ++ [.endOfLine] ∧ .endOfLine ∉ words) ∧
        ∀ (alone : List Bytes) (c : ParticleBuffer), alone.flatten = line ++ [newline] →
          c.Takes (line.length + 1) → ∃ c', x.lex alone c = (.ok (line.length + 1), c') ∧
            c'.particles.toList = c.particles.toList ++ block line := by
  refine ⟨x.block, x.lex_blocks hlines hchunks hroom, fun line hline => ?_⟩
  obtain ⟨hnewline, hquote⟩ := hlines line hline
  refine ⟨(x.scan_block 0 hnewline hquote).1, fun alone c halone hc => ?_⟩
  have hone : joined [line] = line ++ [newline] := joined_cons line []
  have hlength : (joined [line]).length = line.length + 1 := by
    rw [hone, List.length_append, List.length_singleton]
  obtain ⟨c', hlex, hparticles⟩ :=
    x.lex_blocks (b := c) (List.forall_mem_singleton.mpr (hlines line hline))
    (halone.trans hone.symm) (by rwa [hlength])
  rw [hlength] at hlex
  rw [List.flatMap_singleton] at hparticles
  exact ⟨c', hlex, hparticles⟩

/-- Half a letter at the end of a line, an empty line, and a bracket that touches the other half. -/
theorem lex_joined_halves :
    let x : Lexer := ⟨fun _ => none, true⟩
    let lines : List Bytes := [[0x33, 0xC3], [], [0x0D, 0x29, 0xA9]]
    (∀ line ∈ lines, newline ∉ line ∧ quotation ∉ line) ∧
    ParticleBuffer.empty.Takes (joined lines).length ∧
      ∃ b', x.lex [joined lines] .empty = (.ok 8, b') ∧ b'.particles.toList =
        [.error [0x33, 0xC3] (some "byte 0xc3 in number"), .endOfLine] ++ [.endOfLine] ++
          [.error [0x29] (some "')' followed by byte 0xa9"),
            .error [0xA9] (some "unexpected byte 0xa9"), .endOfLine] := by
  intro x lines
  have hlines : ∀ line ∈ lines, newline ∉ line ∧ quotation ∉ line := by decide
  have hroom : ParticleBuffer.empty.Takes (joined lines).length :=
    ParticleBuffer.takes_of_fits (by decide) (by decide)
  obtain ⟨block, ⟨b', hlex, hparticles⟩, hblocks⟩ :=
    x.lex_joined hlines List.flatten_singleton hroom
  have hblock (line : Bytes) (hline : line ∈ lines) : block line = x.block line := by
    have hsmall : line.length + 1 ≤ (joined lines).length := by
      revert line
      decide
    obtain ⟨c', halone, hread⟩ :=
      (hblocks line hline).2 [line ++ [newline]] .empty List.flatten_singleton
      (hroom.of_le hsmall)
    obtain ⟨-, hscan⟩ := Scan.of_into_ok ((x.lex_eq _ _).symm.trans halone)
    rw [hread, List.flatten_singleton] at hscan
    exact hscan
  refine ⟨hlines, hroom, b', hlex, ?_⟩
  rw [hparticles, List.flatMap_cons, List.flatMap_cons, List.flatMap_cons, List.flatMap_nil,
    hblock _ (by decide), hblock _ (by decide), hblock _ (by decide)]
  decide +kernel

end Lexer
end TableTalk
