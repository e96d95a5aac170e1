/-! Why an operation was abandoned. A malformed command or a repeated name is an ordinary answer and
never appears here. -/
namespace TableTalk

inductive Cause
  | capacity
  | pendingOverflow (limit pending : Nat)
  | stream (message : String)
  | editor (message : String)
  deriving DecidableEq, Repr

/-- Where it happened: the operation at work, and a byte of its input. -/
structure Circumstance where
  operation : Option String := none
  offset : Option Nat := none
  deriving DecidableEq, Repr

structure Failure where
  cause : Cause
  circumstance : Option Circumstance := none
  deriving DecidableEq, Repr

def Cause.message : Cause → String
  | capacity =>
    "allocation failed: memory allocation failed because the computed capacity "
      ++ "exceeded the collection's maximum"
  | pendingOverflow limit pending =>
    s!"pending input overflow: {pending} bytes held, limit is {limit}"
  | stream message => "i/o error: " ++ message
  | editor message => "editor error: " ++ message

def Circumstance.message (c : Circumstance) : String :=
  " ".intercalate (c.operation.toList.map ("in " ++ ·)
    ++ c.offset.toList.map fun n => s!"at byte {n}")

namespace Failure

def message (f : Failure) : String := f.cause.message

def isCapacity (f : Failure) : Bool := f.cause = .capacity

def within (f : Failure) (operation : String) (offset : Nat) : Failure :=
  { f with circumstance := some ⟨some operation, some offset⟩ }

end Failure
end TableTalk
