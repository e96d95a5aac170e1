import TableTalk.Proofs.Lexing.Agreement

/-! What a call of the lexer gives: the tokens of the grammar, however the stream was cut. -/
namespace TableTalk.Lexer
open Grammar
open Lexing (taken)
variable (x : Lexer) {c after : Cursor} {p : Particle}

/-- Only how the chunks read one after the other matters, to the result and to every particle. -/
theorem lex_chunks (b : ParticleBuffer) {chunks others : List Bytes}
    (h : chunks.flatten = others.flatten) : x.lex chunks b = x.lex others b := by
  rw [lex_eq, lex_eq, h]

/-- A letter of two bytes may be cut in half, and chunks may be empty. -/
theorem lex_chunks_letter :
    [[0x31, 0xc3], [0xa9, 0x0a]].flatten = [[0x31], [], [0xc3, 0xa9], [0x0a]].flatten ∧
      Lexer.lex ⟨fun _ => none, true⟩ [[0x31, 0xc3], [0xa9, 0x0a]] .empty =
        Lexer.lex ⟨fun _ => none, true⟩ [[0x31], [], [0xc3, 0xa9], [0x0a]] .empty :=
  ⟨rfl, lex_chunks ⟨fun _ => none, true⟩ .empty rfl⟩

end TableTalk.Lexer
