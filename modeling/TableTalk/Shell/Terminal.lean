import TableTalk.Registry.Sample
import TableTalk.Shell.Basic
import TableTalk.Shell.Typing

/-! The shell as a program whose input is piped in: prompts go to the output, between the
answers. -/
namespace TableTalk.Terminal

/-- What is left of a line without its end. -/
def chomp (line : Bytes) : Bytes :=
  match line.reverse with
  | 0x0A :: 0x0D :: s => s.reverse
  | 0x0A :: s => s.reverse
  | _ => line

/-- What a line comes to, its backspaces applied; without even a newline the input is at its end. -/
def reading (line : Bytes) : Except Breach Reading :=
  if line.isEmpty then .ok .endOfInput
  else
    match Utf8.text? (chomp line) with
    | some s => Reading.line <$> Typing.result s
    | none => .ok (.broken "stream did not contain valid UTF-8")

/-- Each line up to and with its newline; the last one may have none. -/
def lines : Bytes → List Bytes
  | [] => []
  | b :: s =>
    if b = Lexing.newline then [b] :: lines s
    else
      match lines s with
      | [] => [[b]]
      | line :: more => (b :: line) :: more

structure Exit where
  stdout : String
  stderr : String
  code : UInt32
  deriving DecidableEq, Repr

/-- In red. -/
def errorText (message : String) : String := "\x1b[31mError: " ++ message ++ "\x1b[0m\n"

def exit (stdout : String) : Except Failure Unit → Exit
  | .ok () => ⟨stdout, "", 0⟩
  | .error f => ⟨stdout, errorText f.message, 1⟩

def unlines (lines : List String) : String := String.join (lines.map (· ++ "\n"))

/-- The end of a program that broke a contract. -/
def abort (stdout : String) (b : Breach) : Exit := ⟨stdout, b.message ++ "\n", 101⟩

/-- One turn: what is shown in answer to a line and the shell that goes on, or how the program
ends. -/
def turn (sh : Shell) (line : Bytes) : Except Exit (String × Shell) :=
  match reading line with
  | .error b => .error (abort "" b)
  | .ok reading =>
    let (answer, after) := sh.answer reading
    match answer.ending with
    | some result => .error (exit (unlines answer.lines) result)
    | none => .ok (unlines answer.lines, after)

/-- Takes turns, line after line; `shown` is the output so far. -/
def converse (sh : Shell) (shown : String) : List Bytes → Exit
  | [] => exit (shown ++ sh.currentPrompt) (.ok ())
  | line :: lines =>
    let shown := shown ++ sh.currentPrompt
    match turn sh line with
    | .error e => { e with stdout := shown ++ e.stdout }
    | .ok (answer, after) => converse after (shown ++ answer) lines

/-- A shell over these names, for all that is piped in; without names the program ends. -/
def sessionOver (input : Bytes) : Except Registry.Halt Registry → Exit
  | .error halt => ⟨"", errorText halt.message, 1⟩
  | .ok names =>
    converse { session := .fresh names.find? } (unlines Shell.bannerLines) (lines input)

/-- The shell over the sample names. -/
def session (input : Bytes) : Exit := sessionOver input (Registry.sample (.seeded 0))

end TableTalk.Terminal
