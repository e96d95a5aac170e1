import TableTalk.Lexing.Rules
import TableTalk.Proofs.Vocabulary

/-! The bytes as characters: what each announces, what goes on with a token and what ends it. The
numbers that the token rules compare with are those of these characters. -/
namespace TableTalk.Grammar
open Lexing

abbrev glyph (b : UInt8) : Char := Char.ofUInt8 b

/-- What a byte announces where a token may begin. -/
inductive Lead
  | blank
  | newline
  | opening
  | closing
  | quotation
  | run (r : Run)
  | stray
  deriving DecidableEq

/-- The signs that words may be made of besides letters and digits. -/
def signs : List Char := ['!', '?', '-', '*', '+', '/']

def lead (b : UInt8) : Lead :=
  if [' ', '\r', '\t'].contains (glyph b) then .blank
  else if glyph b = '\n' then .newline
  else if glyph b = '(' then .opening
  else if glyph b = ')' then .closing
  else if glyph b = '"' then .quotation
  else if (glyph b).isDigit then .run .number
  else if (glyph b).isAlpha || signs.contains (glyph b) then .run .word
  else .stray

/-- What numbers and words go on with. -/
def continues : Run → UInt8 → Bool
  | .number, b => (glyph b).isDigit
  | .word, b => (glyph b).isAlphanum || signs.contains (glyph b)

/-- What may follow a number, a word or a closing bracket. -/
def stops (b : UInt8) : Bool := [' ', '\n', ')'].contains (glyph b)

/-- Where a malformed number or word ends. -/
def recovers (b : UInt8) : Bool := [' ', '\n', '(', ')'].contains (glyph b)

/-- What may not stand in a name. -/
def forbids (b : UInt8) : Bool := ['\x00', '\r', '\x0b', '\x0c'].contains (glyph b)

theorem glyph_injective {a b : UInt8} (h : glyph a = glyph b) : a = b := by
  have hval : a.toUInt32 = b.toUInt32 := congrArg Char.val h
  have hnat := congrArg UInt32.toNat hval
  rw [UInt8.toNat_toUInt32, UInt8.toNat_toUInt32] at hnat
  exact UInt8.toNat_inj.mp hnat

theorem glyph_inj {a b : UInt8} : glyph a = glyph b ↔ a = b := ⟨glyph_injective, congrArg glyph⟩

/-- Looking for a character among some is comparing its byte with each of theirs. -/
theorem contains_glyph (bs : Bytes) (b : UInt8) :
    (bs.map glyph).contains (glyph b) = bs.any (b == ·) := by
  rw [Bool.eq_iff_iff, List.contains_iff_mem, List.mem_map, List.any_eq_true]
  simp only [glyph_inj, beq_iff_eq, eq_comm (a := b)]

theorem endsRun_eq : endsRun = stops := by
  funext b
  have hstops : stops b = [space, newline, closing].any (b == ·) :=
    contains_glyph [space, newline, closing] b
  rw [hstops, endsRun]
  simp only [List.any_cons, List.any_nil, Bool.or_false, Bool.or_assoc]

theorem endsRecovery_eq : endsRecovery = recovers := by
  funext b
  have hrecovers : recovers b = [space, newline, opening, closing].any (b == ·) :=
    contains_glyph [space, newline, opening, closing] b
  rw [hrecovers, endsRecovery, endsRun]
  simp only [List.any_cons, List.any_nil, Bool.or_false]
  ac_rfl

theorem isForbidden_eq : Lexing.isForbidden = forbids := by
  funext b
  have hforbids : forbids b = [0, 0x0D, 0x0B, 0x0C].any (b == ·) :=
    contains_glyph [0, 0x0D, 0x0B, 0x0C] b
  rw [hforbids, Lexing.isForbidden]
  simp only [List.any_cons, List.any_nil, Bool.or_false, Bool.or_assoc]

theorem eq_quotation_iff (b : UInt8) : b = quotation ↔ glyph b = '"' := glyph_inj.symm

theorem eq_backslash_iff (b : UInt8) : b = backslash ↔ glyph b = '\\' := glyph_inj.symm

theorem ne_quotation_eq : (fun b : UInt8 => b != quotation) = fun b => !decide (glyph b = '"') := by
  funext b
  simp only [← eq_quotation_iff]
  rfl

theorem isDigit_eq (b : UInt8) : isDigit b = (glyph b).isDigit := by
  revert b
  exact forall_byte (by decide +kernel)

theorem isLetter_eq (b : UInt8) : isLetter b = (glyph b).isAlpha := by
  revert b
  exact forall_byte (by decide +kernel)

theorem startsWord_eq (b : UInt8) :
    startsWord b = ((glyph b).isAlpha || signs.contains (glyph b)) := by
  have hsigns : signs.contains (glyph b) = [0x21, 0x3F, 0x2D, 0x2A, 0x2B, 0x2F].any (b == ·) :=
    contains_glyph [0x21, 0x3F, 0x2D, 0x2A, 0x2B, 0x2F] b
  rw [startsWord, hsigns, ← isLetter_eq]
  simp only [List.any_cons, List.any_nil, Bool.or_false, Bool.or_assoc]

theorem accepts_eq (r : Run) : r.accepts = continues r := by
  funext b
  cases r with
  | number => exact isDigit_eq b
  | word =>
    rw [Run.accepts, continues, continuesWord, startsWord_eq, isDigit_eq, Char.isAlphanum]
    ac_rfl

/-- What a byte announces, in the order of the tests of a step. -/
theorem lead_eq (b : UInt8) :
    lead b =
      if isBlank b then .blank
      else if b = newline then .newline
      else if b = opening then .opening
      else if b = closing then .closing
      else if b = quotation then .quotation
      else if isDigit b then .run .number
      else if startsWord b then .run .word
      else .stray := by
  have hblank : [' ', '\r', '\t'].contains (glyph b) = isBlank b :=
    (contains_glyph [space, 0x0D, 0x09] b).trans
      (by simp only [isBlank, List.any_cons, List.any_nil, Bool.or_false, Bool.or_assoc])
  have hnewline : glyph b = '\n' ↔ b = newline := glyph_inj (b := newline)
  have hopening : glyph b = '(' ↔ b = opening := glyph_inj (b := opening)
  have hclosing : glyph b = ')' ↔ b = closing := glyph_inj (b := closing)
  have hquotation : glyph b = '"' ↔ b = quotation := glyph_inj (b := quotation)
  simp only [lead, hblank, hnewline, hopening, hclosing, hquotation, ← isDigit_eq, ← startsWord_eq]

theorem eq_closing_of_lead {b : UInt8} (h : lead b = .closing) : b = closing := by
  rw [lead_eq] at h
  repeat' split at h
  all_goals first | assumption | cases h

theorem eq_quotation_of_lead {b : UInt8} (h : lead b = .quotation) : b = quotation := by
  rw [lead_eq] at h
  repeat' split at h
  all_goals first | assumption | cases h

theorem lead_quotation : lead quotation = .quotation := by decide

theorem continues_of_lead {b : UInt8} {r : Run} (h : lead b = .run r) : continues r b := by
  rw [← accepts_eq]
  rw [lead_eq] at h
  repeat' split at h
  all_goals cases h
  · assumption
  · next hword => simp [Run.accepts, continuesWord, hword]

theorem upper_glyph (b : UInt8) : (glyph b).toUpper = glyph (Keyword.capital b) := by
  revert b
  exact forall_byte (by decide +kernel)

end TableTalk.Grammar
