import TableTalk.Failure
import TableTalk.Text.Utf8

/-! Where output goes. A sink may have room for so many bytes only, and fails once they are used
up. -/
namespace TableTalk

structure Sink where
  room : Option Nat := none
  message : String := "sink full"
  taken : ByteArray := .empty

namespace Sink

def bytes (s : Sink) : Bytes := s.taken.data.toList

/-- Takes as much as there is room for, and fails if that is not all. -/
def write (s : Sink) (bytes : Bytes) : Except Failure Unit × Sink :=
  match s.room with
  | none => (.ok (), { s with taken := s.taken ++ bytes.toByteArray })
  | some n =>
    let s := { s with
      room := some (n - bytes.length)
      taken := s.taken ++ (bytes.take n).toByteArray }
    if bytes.length ≤ n then (.ok (), s) else (.error ⟨.stream s.message, none⟩, s)

theorem write_bytes (s : Sink) (b : Bytes) :
    (s.write b).2.bytes = s.bytes ++ s.room.elim b fun n => b.take n := by
  cases h : s.room with
  | none => simp [write, bytes, h]
  | some n => by_cases hn : b.length ≤ n <;> simp [write, bytes, h, hn]

/-- Writes line after line, until one fails. -/
def writeLines (s : Sink) : List String → Except Failure Unit × Sink
  | [] => (.ok (), s)
  | line :: lines =>
    match s.write (Utf8.encode (line ++ "\n")) with
    | (.ok (), s) => s.writeLines lines
    | failed => failed

end Sink
end TableTalk
