/-! Calls that break the contract of what they call. -/
namespace TableTalk

inductive Breach
  | keyAfterLast (expected : Nat)
  | keyOutOfOrder
  | finishedEarly (len expected : Nat)
  | repeatedKey
  | zeroIncrement
  | markAhead
  | indexOutOfBounds (len index : Nat)
  | splitCharacter
  deriving DecidableEq, Repr

def Breach.message : Breach → String
  | keyAfterLast expected =>
    s!"add_key called on a complete SortedSetMaker ({expected} keys)"
  | keyOutOfOrder => "SortedSetMaker keys must be strictly ascending"
  | finishedEarly len expected => s!"SortedSetMaker finalized with {len} of {expected} keys"
  | repeatedKey => "duplicate key in hash inputs"
  | zeroIncrement => "particle buffer increment must be positive"
  | markAhead => "assertion failed: start.position <= self.position"
  | indexOutOfBounds len index =>
    s!"index out of bounds: the len is {len} but the index is {index}"
  | splitCharacter => "assertion failed: self.is_char_boundary(new_len)"

end TableTalk
