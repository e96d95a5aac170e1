import TableTalk.Shell.Terminal

/-! The command line: a shell on standard input and output, over the sample names. -/
namespace TableTalk.CommandLine

/-- A line with its newline, read byte by byte so that an answer never waits for more input. -/
partial def readLine (input : IO.FS.Stream) (line : ByteArray) : IO ByteArray := do
  let next ← input.read 1
  if next.isEmpty then return line
  let line := line ++ next
  if next[0]? == some Lexing.newline then return line
  readLine input line

/-- Ends with what has not been shown yet. -/
def leave (e : Terminal.Exit) : IO UInt32 := do
  (← IO.getStdout).putStr e.stdout
  (← IO.getStderr).putStr e.stderr
  return e.code

/-- Takes turns, as `Terminal.converse` does, each as soon as its line is there. -/
partial def converse (sh : Shell) : IO UInt32 := do
  let output ← IO.getStdout
  output.putStr sh.currentPrompt
  output.flush
  let line ← readLine (← IO.getStdin) .empty
  match Terminal.turn sh line.toList with
  | .error e => leave e
  | .ok (answer, sh) =>
    output.putStr answer
    output.flush
    converse sh

def run : IO UInt32 := do
  match Registry.sample (.seeded 0) with
  | .error halt => leave ⟨"", Terminal.errorText halt.message, 1⟩
  | .ok names =>
    (← IO.getStdout).putStr (Terminal.unlines Shell.bannerLines)
    converse { session := .fresh names.find? }

end TableTalk.CommandLine

def main : IO UInt32 := TableTalk.CommandLine.run
