import TableTalk.Bytes

/-! Sets of characters, kept as ranges. -/
namespace TableTalk.Text

/-- The ranges ascend and do not touch. -/
structure CharSet where
  ranges : Array (Nat × Nat)

/-- On which side of `code` the range from `low` to `high` lies. -/
def rangeSide (low high code : Nat) : Ordering :=
  if high < code then .lt else if code < low then .gt else .eq

def CharSet.contains (s : CharSet) (c : Char) : Bool :=
  (bisect (fun i => s.ranges[i]?.elim .gt fun r => rangeSide r.1 r.2 c.toNat) 0
    s.ranges.size).isSome

end TableTalk.Text
