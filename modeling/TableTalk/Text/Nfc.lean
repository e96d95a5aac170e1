import TableTalk.Text.CombiningClass
import TableTalk.Text.Composites
import TableTalk.Text.Compositions
import TableTalk.Text.Equivalents

/-! Canonical composition: a text is taken apart, its marks are put in order, and what can be
composed is. -/
namespace TableTalk.Text

/-- The row of a table, ascending by key, that has this key. -/
@[specialize] def rowOf {ρ : Type} (key : ρ → Nat) (rows : Array ρ) (code : Nat) : Option ρ :=
  (bisect (fun i => rows[i]?.elim .gt fun r => compare (key r) code) 0 rows.size).bind (rows[·]?)

namespace Hangul

def leadBase : Nat := 0x1100
def vowelBase : Nat := 0x1161
/-- One before the first tail: a syllable may have none. -/
def tailBase : Nat := 0x11A7
def syllableBase : Nat := 0xAC00
def leads : Nat := 19
def vowels : Nat := 21
def tails : Nat := 28

/-- A syllable is taken apart into lead, vowel and, unless it is open, tail. -/
def decompose? (code : Nat) : Option (List Nat) :=
  if syllableBase ≤ code ∧ code < syllableBase + leads * vowels * tails then
    let s := code - syllableBase
    let tail := if s % tails = 0 then [] else [tailBase + s % tails]
    some ([leadBase + s / (vowels * tails), vowelBase + s % (vowels * tails) / tails] ++ tail)
  else none

/-- A lead takes a vowel, and an open syllable takes a tail. -/
def compose? (a b : Nat) : Option Nat :=
  if leadBase ≤ a ∧ a < leadBase + leads ∧ vowelBase ≤ b ∧ b < vowelBase + vowels then
    some (syllableBase + ((a - leadBase) * vowels + (b - vowelBase)) * tails)
  else if syllableBase ≤ a ∧ a < syllableBase + leads * vowels * tails ∧
      (a - syllableBase) % tails = 0 ∧ tailBase < b ∧ b < tailBase + tails then
    some (a + (b - tailBase))
  else none

end Hangul

/-- Takes composites apart from the right, up to `depth` marks. -/
def takeApart : (depth : Nat) → (code : Nat) → List Nat
  | 0, code => [code]
  | depth + 1, code =>
    match rowOf Prod.fst composites code with
    | some (_, base, mark) => takeApart depth base ++ [mark]
    | none => [code]

/-- The full canonical decomposition. No composite has more than three marks. -/
def decompose (c : Char) : List Char :=
  let code := c.toNat
  if code < 0xC0 then [c]
  else
    let codes :=
      match Hangul.decompose? code with
      | some jamo => jamo
      | none =>
        match rowOf Prod.fst doubles code with
        | some (_, same) => [same]
        | none =>
          match rowOf Prod.fst spelledOut code with
          | some (_, parts) => parts
          | none => takeApart 3 code
    codes.map Char.ofNat

/-- Adds a number to an ascending list, unless it is there. -/
def insertRank (n : Nat) : List Nat → List Nat
  | [] => [n]
  | m :: ms => if n < m then n :: m :: ms else if n = m then m :: ms else m :: insertRank n ms

/-- Marks class by class; those of one class stay in order. Few classes occur together. -/
def sortMarks (marks : List Char) : List Char :=
  let ranked := marks.map fun c => (combiningClass c, c)
  let ranks := ranked.foldl (fun ranks r => insertRank r.1 ranks) []
  ranks.flatMap fun n => (ranked.filter (·.1 = n)).map (·.2)

/-- Sorts each run of marks. The marks of the run that is being read are reversed. -/
def orderAfter (marks : List Char) : List Char → List Char
  | [] => sortMarks marks.reverse
  | c :: s =>
    if combiningClass c = 0 then sortMarks marks.reverse ++ c :: orderAfter [] s
    else orderAfter (c :: marks) s

def orderMarks (s : List Char) : List Char := orderAfter [] s

/-- The composite of a base and what follows it. -/
def compose? (a b : Char) : Option Char :=
  if b.toNat < 0x300 then none
  else
    match Hangul.compose? a.toNat b.toNat with
    | some code => some (Char.ofNat code)
    | none =>
      let side i := compositions[i]?.elim .gt fun r =>
        (compare r.1 a.toNat).then (compare r.2.1 b.toNat)
      ((bisect side 0 compositions.size).bind (compositions[·]?)).map (Char.ofNat ·.2.2)

/-- A text under composition: all before the last base, that base, and the marks after it that did
not compose; both lists are reversed. -/
structure Composing where
  done : List Char := []
  base : Option Char := none
  marks : List Char := []

namespace Composing

/-- Something between the base and a character of this class keeps them apart. -/
def blocked (t : Composing) (rank : Nat) : Bool :=
  t.marks.head?.any (rank ≤ combiningClass ·)

def push (t : Composing) (c : Char) : Composing :=
  let rank := combiningClass c
  match t.base with
  | none => if rank = 0 then { t with base := some c } else { t with done := c :: t.done }
  | some b =>
    match if t.blocked rank then none else compose? b c with
    | some composite => { t with base := some composite }
    | none =>
      if rank = 0 then { done := t.marks ++ b :: t.done, base := some c }
      else { t with marks := c :: t.marks }

def finish (t : Composing) : List Char :=
  (t.marks ++ t.base.toList ++ t.done).reverse

end Composing

/-- The composed form of a text. -/
def nfc (s : String) : String :=
  String.ofList ((orderMarks (s.toList.flatMap decompose)).foldl Composing.push {}).finish

end TableTalk.Text
