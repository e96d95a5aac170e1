import TableTalk.Bytes

/-! UTF-8: what characters a byte string spells, and where it spells none. -/
namespace TableTalk.Utf8

/-- What a first byte announces: how many bytes follow it, and between which bounds the next one
lies. The bounds shut out overlong forms, surrogates and numbers past the last character. -/
structure Lead where
  tail : Nat
  low : UInt8
  high : UInt8

def lead? (a : UInt8) : Option Lead :=
  if a < 0xC2 then none
  else if a ≤ 0xDF then some ⟨1, 0x80, 0xBF⟩
  else if a = 0xE0 then some ⟨2, 0xA0, 0xBF⟩
  else if a = 0xED then some ⟨2, 0x80, 0x9F⟩
  else if a ≤ 0xEF then some ⟨2, 0x80, 0xBF⟩
  else if a = 0xF0 then some ⟨3, 0x90, 0xBF⟩
  else if a ≤ 0xF3 then some ⟨3, 0x80, 0xBF⟩
  else if a = 0xF4 then some ⟨3, 0x80, 0x8F⟩
  else none

def isContinuation (b : UInt8) : Bool := 0x80 ≤ b && b ≤ 0xBF

/-- How many of the bytes that follow go on with the character begun. -/
def Lead.reach (l : Lead) : Bytes → Nat
  | [] => 0
  | b :: s =>
    if l.low ≤ b ∧ b ≤ l.high then 1 + ((s.take (l.tail - 1)).takeWhile isContinuation).length
    else 0

/-- The first byte keeps `6 - tail` bits, each later byte its low six. -/
def assemble (a : UInt8) (tail : Bytes) : Nat :=
  tail.foldl (fun n b => n * 64 + b.toNat % 64) (a.toNat % (1 <<< (6 - tail.length)))

/-- The character that begins with byte `a` before `s`, if it is well formed, and how many bytes of
`s` belong to it; of a malformed one, to its longest correct beginning. -/
def front (a : UInt8) (s : Bytes) : Option Char × Nat :=
  if a < 0x80 then (some (Char.ofNat a.toNat), 0)
  else
    match lead? a with
    | none => (none, 0)
    | some l =>
      let n := l.reach s
      (if n = l.tail then some (Char.ofNat (assemble a (s.take n))) else none, n)

/-- The characters of a byte string, with `none` for each malformed part. -/
def pieces : Bytes → List (Option Char)
  | [] => []
  | a :: s =>
    let (c, n) := front a s
    c :: pieces (s.drop n)
termination_by s => s.length
decreasing_by simp only [List.length_drop, List.length_cons]; omega

/-- A malformed part reads as one replacement character. -/
def lossy (s : Bytes) : String := String.ofList ((pieces s).map (·.getD '\uFFFD'))

/-- The text, if no part is malformed. -/
def text? (s : Bytes) : Option String :=
  if (pieces s).all (·.isSome) then some (String.ofList ((pieces s).filterMap id)) else none

def encode (s : String) : Bytes := s.toByteArray.data.toList

@[simp] theorem encode_ofList (s : List Char) :
    encode (String.ofList s) = s.flatMap String.utf8EncodeChar := by
  simp [encode, List.utf8Encode]

end TableTalk.Utf8
