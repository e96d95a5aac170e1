/-! Handles: a slot of an arena kept elsewhere, and the generation it was given out in. -/
namespace TableTalk

structure Handle where
  index : UInt64
  generation : UInt32
  deriving DecidableEq, Repr

namespace Handle

/-- No owner. Its index is never given out. -/
def null : Handle := ⟨0xFFFFFFFFFFFFFFFF, 0⟩

instance : Inhabited Handle := ⟨null⟩

/-- Only the index decides. -/
def isNull (h : Handle) : Bool := h.index = null.index

/-- The same slot, given out once more; the count starts over after `2 ^ 32` generations. -/
def nextGeneration (h : Handle) : Handle := { h with generation := h.generation + 1 }

instance : Ord Handle :=
  ⟨fun a b => (compare a.index b.index).then (compare a.generation b.generation)⟩

def short (h : Handle) : String :=
  if h.isNull then "#null" else s!"#{h.index}"

def long (h : Handle) : String :=
  if h.isNull then "Handle(null)" else s!"Handle({h.index}v{h.generation})"

end Handle
end TableTalk
