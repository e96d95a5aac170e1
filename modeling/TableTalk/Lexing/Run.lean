import TableTalk.Lexing.Progress
import TableTalk.Particle.Buffer

/-! Lexing a stream: steps until one is the last. -/
namespace TableTalk.Lexer
variable (x : Lexer)

/-- Lexes from a place on. The count is of the bytes before the first unfinished token; whoever
holds the others offers them again with what follows. What came before a failure stays in the
buffer. -/
def lexFrom (c : Cursor) (b : ParticleBuffer) : Except Failure Nat × ParticleBuffer :=
  match _h : x.step c with
  | .unfinished => (.ok c.position, b)
  | .skip after => lexFrom after b
  | .emit p after =>
    match b.add p with
    | (.error f, b) => (.error (f.within "lex" c.position), b)
    | (.ok (), b) => lexFrom after b
termination_by c.rest.length
decreasing_by
  · exact x.step_shorter (.inl _h)
  · exact x.step_shorter (.inr ⟨p, _h⟩)

/-- Nothing is remembered between calls. -/
def lex (chunks : List Bytes) (b : ParticleBuffer) : Except Failure Nat × ParticleBuffer :=
  x.lexFrom (.start chunks) b

end TableTalk.Lexer
