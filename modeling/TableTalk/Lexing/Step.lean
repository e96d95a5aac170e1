import TableTalk.Lexing.Rules
import TableTalk.Particle.Basic

/-! One step of the lexer: a blank is skipped, or a token read. A token that the stream ends in is
unfinished, and so is an error whose recovery the stream ends in. -/
namespace TableTalk

/-- What the lexer is told: the registered names, and whether to give reasons for errors. -/
structure Lexer where
  name? : Bytes → Option Name
  reasons : Bool := true

namespace Lexing

inductive Step
  | skip (after : Cursor)
  | emit (p : Particle) (after : Cursor)
  | unfinished
  deriving DecidableEq

/-- How the inside of a quoted name ends. -/
inductive Quoted
  | closed (value : Bytes) (after : Cursor)
  | forbidden (stop : Cursor)
  | unfinished
  deriving DecidableEq

/-- Reads on inside the quotes; `value` is what was read, reversed. A backslash lets the next byte
stand for itself, unless that is forbidden all the same. -/
def quoted (value : Bytes) (c : Cursor) : Quoted :=
  match _h : c.peek? with
  | none => .unfinished
  | some b =>
    if isForbidden b then .forbidden c
    else if b = quotation then .closed value.reverse c.advance
    else if b = backslash then
      match _hb : c.advance.peek? with
      | none => .unfinished
      | some e =>
        if isForbidden e then quoted value c.advance else quoted (e :: value) c.advance.advance
    else quoted (b :: value) c.advance
termination_by c.rest.length
decreasing_by
  · exact Cursor.advance_shorter _h
  · exact Nat.lt_trans (Cursor.advance_shorter _hb) (Cursor.advance_shorter _h)
  · exact Cursor.advance_shorter _h

/-- The bytes of a token. -/
def taken (start stop : Cursor) : Bytes := (start.span (stop.position - start.position)).bytes

/-- A word that is a keyword stands for it. -/
def Run.particle (r : Run) (bytes : Bytes) : Particle :=
  match r with
  | .number => .number bytes
  | .word => (Keyword.find? bytes).elim (.word bytes) fun found => .keyword found.1

end Lexing

namespace Lexer
open Lexing
variable (x : Lexer)

def error (start stop : Cursor) (reason : String) : Step :=
  .emit (.error (taken start stop) (if x.reasons then some reason else none)) stop

/-- A closing bracket must not touch what follows. -/
def closeNest (c : Cursor) : Step :=
  let after := c.advance
  if after.peek?.all endsRun then .emit .endNest after
  else x.error c after ("')' followed by " ++ describe after)

/-- A run that ends in a byte it may not touch is malformed up to the next blank or bracket. -/
def run (r : Run) (c : Cursor) : Step :=
  let stop := c.advance.skipWhile r.accepts
  match stop.peek? with
  | none => .unfinished
  | some b =>
    if endsRun b then .emit (r.particle (taken c stop)) stop
    else
      let resume := stop.skipWhile fun b => !endsRecovery b
      if resume.atEnd then .unfinished
      else x.error c resume (describe stop ++ " in " ++ r.label)

def nameParticle (value : Bytes) : Particle := (x.name? value).elim (.unknownName value) .name

/-- A name with a forbidden byte in it is malformed up to the next quotation mark. -/
def quotedName (c : Cursor) : Step :=
  match quoted [] c.advance with
  | .closed value after => .emit (x.nameParticle value) after
  | .forbidden stop =>
    let last := stop.skipWhile (· != quotation)
    if last.atEnd then .unfinished else x.error c last.advance (describe stop ++ " in name")
  | .unfinished => .unfinished

def step (c : Cursor) : Step :=
  match c.peek? with
  | none => .unfinished
  | some b =>
    if isBlank b then .skip c.advance
    else if b = newline then .emit .endOfLine c.advance
    else if b = opening then .emit .beginNest c.advance
    else if b = closing then x.closeNest c
    else if b = quotation then x.quotedName c
    else if isDigit b then x.run .number c
    else if startsWord b then x.run .word c
    else x.error c c.advance ("unexpected " ++ describe c)

end Lexer
end TableTalk
