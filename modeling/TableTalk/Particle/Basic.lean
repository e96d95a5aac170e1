import TableTalk.Registry.Name
import TableTalk.Vocabulary

/-! Particles: the classified parts of a command. Known words and names stand for themselves; all
else keeps the bytes it was read from. -/
namespace TableTalk

inductive Particle
  | endOfLine
  | beginNest
  | endNest
  | number (digits : Bytes)
  | keyword (k : Keyword)
  /-- A word that is no keyword. -/
  | word (bytes : Bytes)
  | name (n : Name)
  | unknownName (bytes : Bytes)
  /-- Bytes that make no sense, and why, where that is wanted. -/
  | error (bytes : Bytes) (reason : Option String)
  deriving DecidableEq, Repr

inductive ParticleKind
  | endOfLine
  | keyword
  | number
  | name
  | beginNest
  | endNest
  | error
  deriving DecidableEq, Repr

/-- What a particle holds. -/
inductive Payload
  | nothing
  /-- The spelling of a keyword. -/
  | spelling (s : String)
  /-- The display of a registered name. -/
  | display (s : String)
  | copy (bytes : Bytes)
  deriving DecidableEq, Repr

def Payload.bytes : Payload → Bytes
  | nothing => []
  | spelling s | display s => Utf8.encode s
  | copy bytes => bytes

namespace Particle

def kind : Particle → ParticleKind
  | endOfLine => .endOfLine
  | beginNest => .beginNest
  | endNest => .endNest
  | number _ => .number
  | keyword _ | word _ => .keyword
  | name _ | unknownName _ => .name
  | error _ _ => .error

def payload : Particle → Payload
  | endOfLine | beginNest | endNest => .nothing
  | keyword k => .spelling k.spelling
  | name n => .display n.display
  | number bytes | word bytes | unknownName bytes | error bytes _ => .copy bytes

def bytes (p : Particle) : Bytes := p.payload.bytes

def keyword? : Particle → Option Keyword
  | keyword k => some k
  | _ => none

def name? : Particle → Option Name
  | name n => some n
  | _ => none

def reason? : Particle → Option String
  | error _ reason => reason
  | _ => none

def isError (p : Particle) : Bool := p.kind = .error

/-- How the shell shows a particle. Malformed bytes are escaped, as they may be anything. -/
def text (p : Particle) : String :=
  let shown := Utf8.lossy p.bytes
  match p with
  | endOfLine => "'\\n'"
  | beginNest => "'('"
  | endNest => "')'"
  | keyword _ | word _ => "KEYWORD<" ++ shown ++ ">"
  | number _ => "NUMBER<" ++ shown ++ ">"
  | name _ | unknownName _ => "NAME<" ++ shown ++ ">"
  | error _ none => "ERROR<" ++ Text.escape shown ++ ">"
  | error _ (some reason) => "ERROR<" ++ Text.escape shown ++ ">: " ++ reason

end Particle
end TableTalk
