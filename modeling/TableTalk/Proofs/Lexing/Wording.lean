import Mathlib.Data.List.Basic
import TableTalk.Proofs.Lexing.Agreement
import TableTalk.Proofs.Stream.Walk
import TableTalk.Proofs.Text.Controls
import TableTalk.Proofs.Utf8

/-! The words for a place in the stream. They name a character exactly if all that is left begins
with its encoding, though only four bytes are looked at. Different characters have different words,
and none has those of a byte. -/
namespace TableTalk

namespace Text

/-- What a hexadecimal digit stands for, small or capital. -/
def digitValue (d : Char) : Nat := (List.range 16).findIdx fun n => n.digitChar.toUpper = d.toUpper

def readHex (digits : List Char) : Nat := digits.foldl (fun n d => 16 * n + digitValue d) 0

theorem digitValue_digitChar :
    ∀ n < 16, digitValue n.digitChar = n ∧ digitValue n.digitChar.toUpper = n := by
  decide

theorem readHex_append (digits : List Char) (d : Char) :
    readHex (digits ++ [d]) = 16 * readHex digits + digitValue d := by
  rw [readHex, List.foldl_concat, readHex]

theorem readHex_toDigits (n : Nat) : readHex (Nat.toDigits 16 n) = n := by
  induction n using Nat.strongRecOn with
  | ind n ih =>
    rw [Nat.toDigits_eq_if (by decide)]
    split
    · next hlt =>
      have hdigit := (digitValue_digitChar n hlt).1
      simpa [readHex] using hdigit
    · next hle =>
      have hdigit := (digitValue_digitChar (n % 16) (Nat.mod_lt n (by decide))).1
      rw [readHex_append, ih (n / 16) (by omega), hdigit]
      omega

theorem readHex_zeros (count : Nat) (digits : List Char) :
    readHex (List.replicate count '0' ++ digits) = readHex digits := by
  have hzero : digitValue '0' = 0 := (digitValue_digitChar 0 (by decide)).1
  induction count with
  | zero => rfl
  | succ count ih =>
    rw [List.replicate_succ, List.cons_append, readHex, List.foldl_cons, hzero]
    exact ih

/-- A number that is written in hexadecimal digits reads as it was. -/
theorem readHex_hex (width n : Nat) : readHex (hex width n) = n := by
  rw [hex, readHex_zeros, readHex_toDigits]

theorem readHex_capitals (width n : Nat) : readHex ((hex width n).map Char.toUpper) = n := by
  rw [readHex, List.foldl_map]
  refine Eq.trans (List.foldl_ext _ _ _ ?_) (readHex_hex width n)
  intro m d hd
  obtain ⟨k, hk, rfl⟩ := exists_digit hd
  obtain ⟨hsmall, hcapital⟩ := digitValue_digitChar k hk
  rw [hsmall, hcapital]

end Text

namespace Lexing
variable {char char' : Char}

/-- The words for a character: how it is shown between quotes, and its number. -/
def naming (char : Char) : String :=
  Text.quoteChar char ++ " (U+" ++ String.ofList ((Text.hex 4 char.toNat).map Char.toUpper) ++ ")"

/-- The words for a byte that begins no character. -/
def numbering (b : UInt8) : String := "byte 0x" ++ String.ofList (Text.hex 2 b.toNat)

/-- The number between the last plus sign of some words and the bracket that ends them. -/
def codeOf (words : String) : Nat :=
  Text.readHex (words.toList.dropLast.reverse.takeWhile (· ≠ '+')).reverse

theorem codeOf_naming (char : Char) : codeOf (naming char) = char.toNat := by
  let digits := (Text.hex 4 char.toNat).map Char.toUpper
  have hwords :
      (naming char).toList =
        (Text.quoteChar char).toList ++ " (U".toList ++ '+' :: digits ++ [')'] := by
    simp [naming, digits]
  have hplus : ∀ n < 16, decide (n.digitChar.toUpper ≠ '+') := by decide
  have hdigits : ∀ d ∈ digits.reverse, decide (d ≠ '+') := by
    intro d hd
    obtain ⟨e, he, rfl⟩ := List.mem_map.mp (List.mem_reverse.mp hd)
    obtain ⟨n, hn, rfl⟩ := Text.exists_digit he
    exact hplus n hn
  rw [codeOf, hwords, List.dropLast_concat, List.reverse_append, List.reverse_cons,
    List.append_assoc, List.takeWhile_append_of_pos hdigits, List.singleton_append,
    List.takeWhile_cons_of_neg (by decide), List.append_nil, List.reverse_reverse]
  exact Text.readHex_capitals 4 char.toNat

theorem naming_injective (h : naming char = naming char') : char = char' := by
  apply Char.toNat_inj.mp
  rw [← codeOf_naming, h, codeOf_naming]

/-- A quotation mark begins the words for a character, and no others. -/
theorem numbering_ne_naming (b : UInt8) (char : Char) : numbering b ≠ naming char := by
  intro h
  have hfirst := congrArg (fun words : String => words.toList.head?) h
  simp [numbering, naming, Text.quoteChar] at hfirst

end Lexing

namespace Grammar
open Lexing (naming numbering)
variable {b : UInt8} {s : Bytes} {char : Char}

/-- The words for a byte come from the character that it begins. -/
theorem wording_cons (b : UInt8) (s : Bytes) :
    wording (b :: s) = (Utf8.front b (s.take 3)).1.elim (numbering b) naming := by
  have hwindow :
      ((b :: s).take 4 ++ ([0, 0, 0, 0] : Bytes).drop (b :: s).length).take
          (min 4 (b :: s).length) =
        b :: s.take 3 := by
    rw [List.take_left' List.length_take]
    rfl
  have hhead : ((b :: s).take 4 ++ ([0, 0, 0, 0] : Bytes).drop (b :: s).length).headD 0 = b := rfl
  simp only [wording, Lexing.describe, Cursor.lookahead_eq, Cursor.start_rest,
    List.flatten_singleton, List.length_cons, List.length_nil] at hwindow hhead ⊢
  rw [hwindow, hhead, Utf8.pieces]
  rcases Utf8.front b (s.take 3) with ⟨_ | char, n⟩ <;> rfl

/-- What lies beyond the window can neither complete a character nor spoil one. -/
theorem front_take_eq_some_iff :
    (Utf8.front b (s.take 3)).1 = some char ↔ String.utf8EncodeChar char <+: b :: s := by
  rw [Utf8.front_eq_some_iff, ← Utf8.encodeChar_prefix_take (s := b :: s)]
  rfl

theorem wording_eq_naming_iff :
    wording (b :: s) = naming char ↔ String.utf8EncodeChar char <+: b :: s := by
  rw [wording_cons, ← front_take_eq_some_iff]
  cases hfront : (Utf8.front b (s.take 3)).1 with
  | none => exact iff_of_false (Lexing.numbering_ne_naming b char) nofun
  | some char' =>
    rw [Option.elim_some, Option.some_inj]
    exact ⟨Lexing.naming_injective, congrArg naming⟩

theorem wording_eq_numbering_iff :
    wording (b :: s) = numbering b ↔ ∀ char, ¬String.utf8EncodeChar char <+: b :: s := by
  simp only [← front_take_eq_some_iff, wording_cons]
  cases hfront : (Utf8.front b (s.take 3)).1 with
  | none => exact iff_of_true rfl nofun
  | some char' =>
    refine iff_of_false ?_ fun hnone => hnone char' rfl
    exact (Lexing.numbering_ne_naming b char').symm

end Grammar

namespace Lexing
variable {b : UInt8}

/-- Wherever its calls take a cursor among whatever chunks, as long as a byte is left: the words for
its place name a character exactly if all that is left of the stream begins with the UTF-8 encoding
of that character, and give the byte in hexadecimal exactly if no character's encoding is there. -/
theorem described_after_calls (chunks : List Bytes) (calls : List Cursor.Call) :
    let c := ((Cursor.Walk.begin chunks).after calls).now.cursor
    let left := chunks.flatten.drop c.position
    c.peek? = some b →
      (∀ char, describe c = naming char ↔ String.utf8EncodeChar char <+: left) ∧
      (describe c = numbering b ↔ ∀ char, ¬String.utf8EncodeChar char <+: left) := by
  intro c left hb
  have hstands : c.Stands chunks := ((Cursor.Walk.counted_begin chunks).after calls).now.stands
  have hleft : left = b :: c.advance.rest := by
    rw [← Cursor.rest_of_peek? hb, hstands.rest]
  rw [Grammar.describe_eq, Cursor.rest_of_peek? hb, hleft]
  exact ⟨fun _ => Grammar.wording_eq_naming_iff, Grammar.wording_eq_numbering_iff⟩

/-- The second byte begins a character whose bytes lie in three chunks; the fifth begins one that is
cut off. -/
theorem described_after_calls_cut :
    let chunks : List Bytes := [[0x41, 0xE2], [], [0x82], [0xAC, 0xE2, 0x82]]
    let place (calls : List Cursor.Call) : Cursor :=
      ((Cursor.Walk.begin chunks).after calls).now.cursor
    let whole := place [.bump]
    let short := place [.bump, .advance, .save, .advance, .advance]
    (whole.peek? = some 0xE2 ∧ describe whole = naming '€') ∧
    (short.peek? = some 0xE2 ∧ describe short = numbering 0xE2) := by
  intro chunks place whole short
  have hwhole : whole.peek? = some 0xE2 := rfl
  have hshort : short.peek? = some 0xE2 := rfl
  refine ⟨⟨hwhole, ?_⟩, hshort, ?_⟩
  · exact ((described_after_calls chunks _ hwhole).1 '€').mpr (by decide)
  · apply (described_after_calls chunks _ hshort).2.mpr
    intro char hchar
    have hfront : (Utf8.front 0xE2 [0x82]).1 = some char := Utf8.front_eq_some_iff.mpr hchar
    cases hfront

example : describe (.start [[0xC3], [], [0xA9, 0x0A]]) = "'é' (U+00E9)" := by decide +kernel

end Lexing
end TableTalk
