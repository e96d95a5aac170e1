import TableTalk.Breach
import TableTalk.Bytes

/-! Input that comes in chunks, read as one stream. -/
namespace TableTalk

/-- A place in the stream. It stands on a byte unless nothing is left: chunks that are used up, or
were empty to begin with, are behind it. -/
structure Cursor where
  /-- What is left of the chunk it stands in. -/
  here : Bytes
  later : List Bytes
  chunk : Nat
  offset : Nat
  position : Nat
  settled : here = [] → later = []
  deriving DecidableEq

/-- Bytes of the stream: a view of one chunk, or gathered from several. -/
inductive Span
  | view (bytes : Bytes)
  | gathered (bytes : Bytes)
  deriving DecidableEq, Repr

def Span.bytes : Span → Bytes
  | view bytes | gathered bytes => bytes

namespace Cursor

/-- All that is left of the stream. -/
def rest (c : Cursor) : Bytes := c.here ++ c.later.flatten

/-- The first byte of some chunks, the first of which has number `chunk`. -/
def settle (position : Nat) : (chunk : Nat) → List Bytes → Cursor
  | chunk, [] => ⟨[], [], chunk, 0, position, fun _ => rfl⟩
  | chunk, [] :: later => settle position (chunk + 1) later
  | chunk, (b :: here) :: later => ⟨b :: here, later, chunk, 0, position, nofun⟩

def start (chunks : List Bytes) : Cursor := settle 0 0 chunks

def peek? (c : Cursor) : Option UInt8 := c.here.head?

def atEnd (c : Cursor) : Bool := c.here.isEmpty

/-- Past the byte it stands on; at the end it stays. -/
def advance (c : Cursor) : Cursor :=
  match c with
  | ⟨[], _, _, _, _, _⟩ => c
  | ⟨[_], later, chunk, _, position, _⟩ => settle (position + 1) (chunk + 1) later
  | ⟨_ :: b :: here, later, chunk, offset, position, _⟩ =>
    ⟨b :: here, later, chunk, offset + 1, position + 1, nofun⟩

def bump (c : Cursor) : Option UInt8 × Cursor := (c.peek?, c.advance)

@[simp] theorem settle_rest (position chunk : Nat) (chunks : List Bytes) :
    (settle position chunk chunks).rest = chunks.flatten := by
  induction chunks generalizing chunk with
  | nil => rfl
  | cons s later ih =>
    cases s with
    | nil => simpa [settle] using ih (chunk + 1)
    | cons b here => simp [settle, rest]

@[simp] theorem start_rest (chunks : List Bytes) : (start chunks).rest = chunks.flatten :=
  settle_rest 0 0 chunks

theorem peek?_eq (c : Cursor) : c.peek? = c.rest.head? := by
  obtain ⟨here, later, _, _, _, settled⟩ := c
  cases here with
  | nil => simp [peek?, rest, settled rfl]
  | cons b here => simp [peek?, rest]

@[simp] theorem advance_rest (c : Cursor) : c.advance.rest = c.rest.tail := by
  obtain ⟨here, later, _, _, _, settled⟩ := c
  match here with
  | [] => simp [advance, rest, settled rfl]
  | [_] => exact (settle_rest _ _ later).trans (by simp [rest])
  | _ :: b :: here => simp [advance, rest]

theorem advance_shorter {c : Cursor} {b : UInt8} (h : c.peek? = some b) :
    c.advance.rest.length < c.rest.length := by
  rw [peek?_eq] at h
  cases hr : c.rest with
  | nil => simp [hr] at h
  | cons => simp [hr]

/-- The first byte from here on that `p` does not hold of. -/
@[specialize] def skipWhile (p : UInt8 → Bool) (c : Cursor) : Cursor :=
  match _h : c.peek? with
  | none => c
  | some b => if p b then skipWhile p c.advance else c
termination_by c.rest.length
decreasing_by exact advance_shorter _h

@[simp] theorem skipWhile_rest (p : UInt8 → Bool) (c : Cursor) :
    (c.skipWhile p).rest = c.rest.dropWhile p := by
  fun_induction skipWhile p c with
  | case1 c h =>
    rw [peek?_eq, List.head?_eq_none_iff] at h
    simp [h]
  | case2 c b h hp ih =>
    rw [peek?_eq, List.head?_eq_some_iff] at h
    obtain ⟨s, h⟩ := h
    rw [ih, advance_rest, h]
    simp [hp]
  | case3 c b h hp =>
    rw [peek?_eq, List.head?_eq_some_iff] at h
    obtain ⟨s, h⟩ := h
    rw [h, List.dropWhile_cons_of_neg (by simpa using hp)]

theorem skipWhile_le (p : UInt8 → Bool) (c : Cursor) :
    (c.skipWhile p).rest.length ≤ c.rest.length := by
  rw [skipWhile_rest]
  exact (List.dropWhile_suffix p).length_le

/-- The first `n` bytes of some chunks. -/
def gather : (n : Nat) → List Bytes → Bytes
  | _, [] => []
  | n, chunk :: later =>
    if n ≤ chunk.length then chunk.take n else chunk ++ gather (n - chunk.length) later

/-- The next `n` bytes. What lies within the chunk is not copied. -/
def span (c : Cursor) (n : Nat) : Span :=
  let front := c.here.take n
  if c.atEnd then .view []
  else if front.length = n then .view front
  else .gathered (gather n (c.here :: c.later))

/-- What lies between an earlier place and this one. -/
def since (c mark : Cursor) : Except Breach Span :=
  if mark.position ≤ c.position then .ok (mark.span (c.position - mark.position))
  else .error .markAhead

def copySince (c mark : Cursor) : Except Breach Bytes := Span.bytes <$> c.since mark

/-- Fills the front of `window` with what comes next, and says how many bytes there were. -/
def lookahead (c : Cursor) : (window : Bytes) → Nat × Bytes
  | [] => (0, [])
  | w :: window =>
    match c.peek? with
    | none => (0, w :: window)
    | some b =>
      let (filled, window) := c.advance.lookahead window
      (filled + 1, b :: window)

end Cursor
end TableTalk
