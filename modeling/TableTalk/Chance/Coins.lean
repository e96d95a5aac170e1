import TableTalk.Chance.Keystream

/-! Coins: flips that are fixed beforehand and used up in order. -/
namespace TableTalk

structure Coins where
  /-- The flip at each position; `true` wins. -/
  flip : Nat → Bool
  /-- How many have been used. -/
  used : Nat := 0

namespace Coins

/-- A flip wins when the top bit of its word is set. -/
def seeded (seed : UInt64) : Coins :=
  let key := Chance.keyOf seed
  { flip := fun n => Chance.word key n >>> 31 == 1 }

/-- A seeded stream repeats itself after this many flips, so a longer run would never end. -/
def period : Nat := 0x100000000000000000

/-- The wins from a position up to the next loss. -/
def run (flip : Nat → Bool) : (fuel position : Nat) → Nat
  | 0, _ => 0
  | fuel + 1, position => if flip position then run flip fuel (position + 1) + 1 else 0

/-- One more than the wins before the next loss. -/
def height (c : Coins) : Nat := run c.flip period c.used + 1

/-- The coins left once a height has been drawn: the wins and the loss are used. -/
def afterHeight (c : Coins) : Coins := { c with used := c.used + c.height }

end Coins
end TableTalk
