import TableTalk.Text.Blanks
import TableTalk.Text.Lowercase
import TableTalk.Vocabulary

/-! Completing a half-typed word: to a keyword, or behind an open quotation mark to a name. -/
namespace TableTalk

structure Completer where
  names : List String

/-- What is shown to choose from, and what then stands in the line. -/
structure Candidate where
  display : String
  replacement : String
  deriving DecidableEq, Repr

namespace Completer

/-- An odd number of quotation marks lies behind. -/
def inName (before : List Char) : Bool := before.count '"' % 2 = 1

/-- Where a word ends on the left, within a name or outside of one. -/
def bounds (inside : Bool) (c : Char) : Bool :=
  if inside then c = '"' else Text.blanks.contains c || c = '(' || c = ')'

/-- What is typed of the last word. -/
def typed (before : List Char) : List Char :=
  let inside := inName before
  (before.reverse.takeWhile fun c => !bounds inside c).reverse

def pool (x : Completer) (inside : Bool) : List String :=
  if inside then x.names else Keyword.all.toList.map Keyword.spelling

/-- For the text before the cursor: the byte where the last word starts, and all that it may become,
capitals and small letters being the same. -/
def candidates (x : Completer) (before : String) : Nat × List Candidate :=
  let chars := before.toList
  let word := typed chars
  let beginning := (Text.lowercase (String.ofList word)).toList
  let fits (s : String) := beginning.isPrefixOf (Text.lowercase s).toList
  (before.utf8ByteSize - (String.ofList word).utf8ByteSize,
    ((x.pool (inName chars)).filter fits).map fun s => ⟨s, s⟩)

end Completer
end TableTalk
