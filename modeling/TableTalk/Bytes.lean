/-! Byte strings, and the search by halving that every sorted table here uses. -/
namespace TableTalk

/-- Compared byte by byte; a string that another one continues comes first. -/
abbrev Bytes := List UInt8

/-- The index in `[lo, hi)` at which `probe` answers `.eq`, where `probe i` says on which side of
the sought place the `i`-th row lies. -/
@[specialize] def bisect (probe : Nat → Ordering) (lo hi : Nat) : Option Nat :=
  if lo < hi then
    let mid := (lo + hi) / 2
    match probe mid with
    | .eq => some mid
    | .lt => bisect probe (mid + 1) hi
    | .gt => bisect probe lo mid
  else none
termination_by hi - lo

end TableTalk
