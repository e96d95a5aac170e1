import TableTalk.Bytes
import TableTalk.Failure

/-! What can be reserved at all: one block of storage has an upper bound. -/
namespace TableTalk

namespace Memory

/-- The largest count that a size can hold. -/
def sizeLimit : Nat := 0xFFFFFFFFFFFFFFFF

/-- The most bytes in one block. -/
def blockLimit : Nat := 0x7FFFFFFFFFFFFFFF

/-- `count` slots of `width` bytes fit in one block. -/
def Fits (width count : Nat) : Prop := width * count ≤ blockLimit

instance (width count : Nat) : Decidable (Fits width count) :=
  inferInstanceAs (Decidable (_ ≤ _))

/-- A sum of two sizes, held at the largest size. -/
def clampedAdd (a b : Nat) : Nat := min (a + b) sizeLimit

/-- Room for `count` slots, if there can be any. -/
def room (width count : Nat) : Except Failure Unit :=
  if Fits width count then .ok () else .error ⟨.capacity, none⟩

end Memory

namespace Bytes

/-- One string after the other, in a block with room for `capacity` bytes to begin with. If there is
room for all of them, there is room for the first few. -/
def collect (capacity : Nat) (parts : List Bytes) : Except Failure Bytes := do
  let all := parts.flatten
  Memory.room 1 capacity
  Memory.room 1 all.length
  return all

end Bytes
end TableTalk
