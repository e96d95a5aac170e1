import TableTalk.Lexing.Run

/-! Sessions: a connection's input is lexed as it arrives, and an unfinished token waits for the
rest of it. -/
namespace TableTalk

structure Session where
  lexer : Lexer
  buffer : ParticleBuffer
  /-- The bytes of the unfinished token. -/
  pending : Bytes := []
  maxPending : Nat
  /-- The bytes that the last feed used up, those that had waited included. -/
  lastConsumed : Nat := 0

namespace Session

structure Config where
  maxPending : Nat := 64 * 1024
  reasons : Bool := true
  increment : Nat := ParticleBuffer.defaultIncrement
  deriving DecidableEq, Repr

/-- A session with nothing behind it. -/
def fresh (name? : Bytes → Option Name) : Session :=
  { lexer := ⟨name?, true⟩, buffer := .empty, maxPending := Config.maxPending {} }

def start (name? : Bytes → Option Name) (config : Config) : Except Breach Session := do
  let buffer ← ParticleBuffer.withIncrement config.increment
  return { lexer := ⟨name?, config.reasons⟩, buffer, maxPending := config.maxPending }

def particles (s : Session) : Array Particle := s.buffer.particles

def hasPending (s : Session) : Bool := !s.pending.isEmpty

/-- What is left of the waiting bytes and the new ones. -/
def tail (pending input : Bytes) (consumed : Nat) : Bytes :=
  if pending.length ≤ consumed then input.drop (consumed - pending.length)
  else pending.drop consumed ++ input

/-- Lexes new bytes after those that wait. A failure drops both, so the next feed starts afresh; so
does a tail that is too long, after its particles have been read. -/
def feed (s : Session) (input : Bytes) : Except Failure (Array Particle) × Session :=
  let (lexed, buffer) := s.lexer.lex [s.pending, input] s.buffer.clear
  match lexed with
  | .error f => (.error f, { s with buffer, pending := [], lastConsumed := 0 })
  | .ok consumed =>
    let pending := tail s.pending input consumed
    if s.maxPending < pending.length then
      (.error ⟨.pendingOverflow s.maxPending pending.length, none⟩,
        { s with buffer, pending := [], lastConsumed := consumed })
    else (.ok buffer.particles, { s with buffer, pending, lastConsumed := consumed })

/-- Forgets what waits and what was read last. -/
def reset (s : Session) : Session :=
  { s with buffer := s.buffer.clear, pending := [], lastConsumed := 0 }

def shortText (s : Session) : String :=
  "CommandSession \x7b pending: " ++ toString s.pending.length
    ++ ", max_pending: " ++ toString s.maxPending
    ++ ", particles: " ++ toString s.buffer.size ++ ", .. \x7d"

end Session
end TableTalk
