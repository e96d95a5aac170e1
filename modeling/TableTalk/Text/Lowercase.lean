import TableTalk.Text.CharSet
import TableTalk.Text.Cased
import TableTalk.Text.CaseIgnorable
import TableTalk.Text.LowerRuns

/-! Small letters, for no language in particular. One rule looks at the neighbours: a capital sigma
that ends a word has a form of its own. -/
namespace TableTalk.Text

/-- What a character becomes wherever it stands. -/
def lowerChar (c : Char) : List Char :=
  let code := c.toNat
  if code < 0x80 then [if 'A' ≤ c ∧ c ≤ 'Z' then Char.ofNat (code + 32) else c]
  else if c = 'İ' then ['i', '\u0307']
  else
    let side i := lowerRuns[i]?.elim .gt fun r => rangeSide r.first r.last code
    match (bisect side 0 lowerRuns.size).bind (lowerRuns[·]?) with
    | some r =>
      if (code - r.first) % r.stride = 0 then [Char.ofNat (code + r.shift).toNat] else [c]
    | none => [c]

/-- The first character that counts, going away from a sigma, is a cased one. -/
def meetsCased (s : List Char) : Bool :=
  (s.dropWhile caseIgnorable.contains).head?.any cased.contains

/-- A sigma ends a word when a cased character stands before it and none after. -/
def endsWord (before after : List Char) : Bool := meetsCased before && !meetsCased after

/-- `before` is what has been read, the nearest character first. -/
def lowerAfter (before : List Char) : List Char → List Char
  | [] => []
  | c :: after =>
    (if c = 'Σ' then [if endsWord before after then 'ς' else 'σ'] else lowerChar c)
      ++ lowerAfter (c :: before) after

def lowercase (s : String) : String := String.ofList (lowerAfter [] s.toList)

end TableTalk.Text
