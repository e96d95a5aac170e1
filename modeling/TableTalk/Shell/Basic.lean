import TableTalk.Session
import TableTalk.Shell.Sink
import TableTalk.Text.Blanks

/-! The shell: each line that is entered is lexed, and what was read is shown. A quoted name that is
still open at the end of a line goes on in the next one, under another prompt. -/
namespace TableTalk

structure Shell where
  session : Session
  banner : Bool := true
  prompt : String := "cards> "
  continuation : String := "  ...> "

/-- What reading a line comes to. -/
inductive Reading
  | line (s : String)
  | interrupt
  | endOfInput
  | broken (message : String)
  deriving DecidableEq, Repr

namespace Shell

def bannerLines : List String :=
  ["cards lexer shell 0.1.0", "Type commands; Ctrl+D or EXIT leaves."]

structure Report where
  lines : List String
  /-- The line asks to leave. -/
  exit : Bool
  deriving DecidableEq, Repr

def asksToLeave (p : Particle) : Bool :=
  p.keyword? = some .exit || p.keyword? = some .shutdown

/-- Lexes a line and the newline that ended it. -/
def lexLine (sh : Shell) (line : String) : Except Failure Report × Shell :=
  let (fed, session) := sh.session.feed (Utf8.encode line ++ [Lexing.newline])
  let report := fed.map fun particles =>
    { lines := particles.toList.map (·.text) ++ [s!"consumed {session.lastConsumed} bytes"]
      exit := particles[0]?.any asksToLeave }
  (report, { sh with session })

def currentPrompt (sh : Shell) : String :=
  if sh.session.hasPending then sh.continuation else sh.prompt

/-- Lines with something on them are remembered. -/
def remembers (line : String) : Bool := !line.toList.all Text.blanks.contains

/-- The answer to a reading: lines to show, and whether and how that is the end. -/
structure Answer where
  lines : List String := []
  ending : Option (Except Failure Unit) := none

def answer (sh : Shell) : Reading → Answer × Shell
  | .line s =>
    match sh.lexLine s with
    | (.ok report, sh) =>
      (⟨report.lines, if report.exit then some (.ok ()) else none⟩, sh)
    | (.error f, sh) => (⟨["error: " ++ f.message], none⟩, sh)
  | .interrupt => (⟨[""], none⟩, { sh with session := sh.session.reset })
  | .endOfInput => (⟨[], some (.ok ())⟩, sh)
  | .broken message => (⟨[], some (.error ⟨.editor message, none⟩)⟩, sh)

/-- What a run leaves behind. -/
structure Transcript where
  shell : Shell
  sink : Sink
  prompts : Array String := #[]
  history : Array String := #[]

def Transcript.remember (t : Transcript) : Reading → Transcript
  | .line s => if remembers s then { t with history := t.history.push s } else t
  | _ => t

/-- Prompts, reads and answers; after the last reading the input is at its end. -/
def Transcript.run (t : Transcript) : List Reading → Except Failure Unit × Transcript
  | [] => (.ok (), { t with prompts := t.prompts.push t.shell.currentPrompt })
  | reading :: readings =>
    let t := { t with prompts := t.prompts.push t.shell.currentPrompt }.remember reading
    let (answer, shell) := t.shell.answer reading
    match t.sink.writeLines answer.lines with
    | (.error f, sink) => (.error f, { t with shell, sink })
    | (.ok (), sink) =>
      match answer.ending with
      | some result => (result, { t with shell, sink })
      | none => run { t with shell, sink } readings

def run (sh : Shell) (readings : List Reading) (sink : Sink) : Except Failure Unit × Transcript :=
  match sink.writeLines (if sh.banner then bannerLines else []) with
  | (.error f, sink) => (.error f, { shell := sh, sink })
  | (.ok (), sink) => Transcript.run { shell := sh, sink } readings

end Shell
end TableTalk
