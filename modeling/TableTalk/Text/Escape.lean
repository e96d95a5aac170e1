import TableTalk.Text.Extenders
import TableTalk.Text.Unprintables

/-! Text made safe to show on one line: what has no picture is written out as a number. -/
namespace TableTalk.Text

/-- Whether a mark has to be told from what stands before it. The two sound marks of half width
extend as well, but are letters with a width of their own. -/
def clings (c : Char) : Bool := extenders.contains c && c ≠ 'ﾞ' && c ≠ 'ﾟ'

def isPrintable (c : Char) : Bool :=
  if c.toNat < 0x80 then 0x20 ≤ c.toNat && c.toNat ≠ 0x7F else !unprintables.contains c

/-- Lower-case hexadecimal, padded with zeros on the left. -/
def hex (width n : Nat) : List Char :=
  let digits := Nat.toDigits 16 n
  List.replicate (width - digits.length) '0' ++ digits

/-- Which marks are escaped besides those that always are. -/
structure Escaping where
  single : Bool
  double : Bool
  extending : Bool

def codeEscape (c : Char) : List Char :=
  '\\' :: 'u' :: '\x7b' :: hex 1 c.toNat ++ ['\x7d']

def Escaping.char (e : Escaping) (c : Char) : List Char :=
  match c with
  | '\x00' => ['\\', '0']
  | '\t' => ['\\', 't']
  | '\r' => ['\\', 'r']
  | '\n' => ['\\', 'n']
  | '\\' => ['\\', '\\']
  | '\'' => if e.single then ['\\', '\''] else ['\'']
  | '"' => if e.double then ['\\', '"'] else ['"']
  | _ =>
    if (e.extending && clings c) || !isPrintable c then codeEscape c else [c]

/-- A character between single quotes. -/
def quoteChar (c : Char) : String :=
  String.ofList ('\'' :: (⟨true, false, true⟩ : Escaping).char c ++ ['\''])

/-- A text between double quotes. -/
def quote (s : String) : String :=
  String.ofList ('"' :: s.toList.flatMap (⟨false, true, true⟩ : Escaping).char ++ ['"'])

/-- Without quotes around it. Only at the very front would an extending character have nothing to
extend, so only there is it escaped. -/
def escape (s : String) : String :=
  match s.toList with
  | [] => ""
  | c :: rest =>
    String.ofList
      ((⟨true, true, true⟩ : Escaping).char c ++
        rest.flatMap (⟨true, true, false⟩ : Escaping).char)

end TableTalk.Text
