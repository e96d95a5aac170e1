import TableTalk.Proofs.Ascii
import TableTalk.Proofs.Lexing.Marks
import TableTalk.Proofs.Shell.Completion

/-! Whether a name is open. The completer counts quotation marks, the lexer reads tokens; they part
where a mark is escaped in a name or swallowed by something malformed. -/
namespace TableTalk.Completer
open Grammar Text
variable {before : String} {b : ParticleBuffer}

theorem count_mark (before : String) : before.toList.count '"' = marks (Utf8.encode before) := by
  have hmark : '"' = glyph Lexing.quotation := rfl
  rw [Utf8.encode_eq_flatMap, hmark, marks, Utf8.count_encode (by decide)]

/-- An even number of hidden marks makes no difference, an odd one turns the answer of the
completer round. -/
theorem inName_eq_marked_iff (x : Lexer) (before : String) :
    let s := Utf8.encode before
    inName before.toList = marked (s.drop (x.scan 0 s).consumed) ↔ x.hiddenMarks s % 2 = 0 := by
  intro s
  have hcount : before.toList.count '"' = marks s := count_mark before
  rw [Bool.eq_iff_iff, x.marked_left_iff, inName, hcount, decide_eq_true_eq]
  omega

/-- They agree on what is well formed so far and has no backslash. -/
theorem inName_eq_marked_of_plain (x : Lexer) (before : String) :
    let s := Utf8.encode before
    let left := s.drop (x.scan 0 s).consumed
    Lexing.backslash ∉ s → (∀ t ∈ (x.scan 0 s).tokens, t.particle.kind ≠ .error) →
      (marked left ∨ Lexing.quotation ∉ left) → inName before.toList = marked left := by
  intro s left hplain hwell hleft
  apply (inName_eq_marked_iff x before).mpr
  rw [x.hiddenMarks_eq_zero hplain hwell hleft]

/-- The text before the cursor is read as a stream. The completer takes a name to be open exactly
where the lexer stops at one, if the marks that open and close nothing are even in number, and
exactly where it does not, if they are odd. There are none such where nothing is escaped or
malformed. Where the two agree, that decides between names and keywords. -/
theorem inName_eq_open_iff (x : Lexer) (hroom : b.Takes (Utf8.encode before).length) :
    let s := Utf8.encode before
    ∃ n b', x.lex [s] b = (.ok n, b') ∧
      (inName before.toList = marked (s.drop n) ↔ x.hiddenMarks s % 2 = 0) ∧
      (Lexing.backslash ∉ s → (∀ t ∈ (x.scan 0 s).tokens, t.particle.kind ≠ .error) →
        (marked (s.drop n) ∨ Lexing.quotation ∉ s.drop n) →
          inName before.toList = marked (s.drop n)) ∧
      (x.hiddenMarks s % 2 = 0 → ∀ (c : Completer) (d : String),
        ⟨d, d⟩ ∈ (c.candidates before).2 ↔ d ∈ c.pool (marked (s.drop n)) ∧
          (lowercase (String.ofList (typed before.toList))).toList <+: (lowercase d).toList) := by
  intro s
  have hle : (x.scan 0 s).tokens.length ≤ s.length := x.scan_tokens_length_le
  obtain ⟨b', hinto, -⟩ := Scan.into_of_takes (hroom.of_le hle)
  have hagree := inName_eq_marked_iff x before
  refine ⟨(x.scan 0 s).consumed, b', ?_, hagree, inName_eq_marked_of_plain x before, ?_⟩
  · rw [Lexer.lex_eq, List.flatten_singleton, hinto]
  · intro heven c d
    rw [mem_candidates_iff, hagree.mpr heven]

/-- Two escaped marks in a name that is closed. -/
theorem inName_eq_open_iff_pair :
    let before := "SAY \"a\\\"\\\"b\" LO"
    let s := Utf8.encode before
    ParticleBuffer.empty.Takes s.length ∧
      (∃ b', Lexer.lex ⟨fun _ => none, true⟩ [s] .empty = (.ok 13, b') ∧
        inName before.toList = marked (s.drop 13)) ∧
      ⟨"LOOK", "LOOK"⟩ ∈ (Completer.candidates ⟨["scone"]⟩ before).2 := by
  intro before s
  have hroom : ParticleBuffer.empty.Takes s.length :=
    ParticleBuffer.takes_of_fits (by decide) (by decide +kernel)
  obtain ⟨n, b', hlex, hagree, -, hoffered⟩ := inName_eq_open_iff ⟨fun _ => none, true⟩ hroom
  have hstop : (Lexer.lex ⟨fun _ => none, true⟩ [s] .empty).1.toOption = some 13 := by
    decide +kernel
  obtain rfl : n = 13 := by
    rw [hlex] at hstop
    exact Option.some_inj.mp hstop
  have heven : Lexer.hiddenMarks ⟨fun _ => none, true⟩ s % 2 = 0 := by decide +kernel
  refine ⟨hroom, ⟨b', hlex, hagree.mpr heven⟩, ?_⟩
  apply (hoffered heven ⟨["scone"]⟩ "LOOK").mpr
  decide +kernel

/-- One escaped mark: no name is open, and yet the completer looks for one. -/
theorem inName_ne_open :
    let before := "SAY \"a\\\"b\" LO"
    let s := Utf8.encode before
    (Lexer.lex ⟨fun _ => none, true⟩ [s] .empty).1.toOption = some 11 ∧ marked (s.drop 11) = false ∧
      inName before.toList = true ∧ Completer.candidates ⟨["scone"]⟩ before = (10, []) := by
  decide +kernel

end TableTalk.Completer
