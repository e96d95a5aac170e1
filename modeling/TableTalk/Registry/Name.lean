import TableTalk.Handle
import TableTalk.Text.Escape
import TableTalk.Text.Lowercase
import TableTalk.Text.Nfc
import TableTalk.Text.Utf8

/-! Registered names, and the key under which every spelling of a name is the same name. -/
namespace TableTalk

inductive NameKind
  | card
  | ability
  | subtype
  | player
  deriving DecidableEq, Repr

def NameKind.word : NameKind → String
  | card => "card"
  | ability => "ability"
  | subtype => "subtype"
  | player => "player"

structure Name where
  key : String
  /-- The spelling that players see. -/
  display : String
  kind : NameKind
  owner : Handle
  deriving DecidableEq, Repr

namespace Name

/-- Small letters, composed. -/
def canonical (spelling : String) : String := Text.nfc (Text.lowercase spelling)

def text (n : Name) : String := n.kind.word ++ " " ++ Text.quote n.display

end Name

/-- How a spelling becomes a key, and how it is shown. -/
structure Orthography where
  canonical : String → String
  display : String → String

namespace Orthography

/-- The display keeps the case and is composed. -/
def standard : Orthography := ⟨Name.canonical, Text.nfc⟩

/-- The name of a spelling. -/
def name (o : Orthography) (spelling : String) (kind : NameKind) (owner : Handle) : Name :=
  ⟨o.canonical spelling, o.display spelling, kind, owner⟩

/-- The key of what was typed; malformed text names nothing. -/
def canonicalBytes? (o : Orthography) (typed : Bytes) : Option String :=
  (Utf8.text? typed).map o.canonical

end Orthography

def Name.canonicalBytes? (typed : Bytes) : Option String :=
  Orthography.standard.canonicalBytes? typed

end TableTalk
