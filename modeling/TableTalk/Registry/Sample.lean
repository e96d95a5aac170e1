import TableTalk.Registry.Compile

/-! A few names to try the lexer with. -/
namespace TableTalk.Registry

def sampleNames : List (String × NameKind) :=
  [("scone", .player), ("The big bucket here.", .card), ("Berries", .card),
    ("Étoile Filante", .ability), ("Goblin", .subtype), ("😀", .card)]

/-- Adds names in order, each owned by the handle of its position. -/
def addAll (r : Registry) (names : List (String × NameKind)) : Registry :=
  names.zipIdx.foldl
    (fun r ((spelling, kind), i) => (r.add spelling kind ⟨UInt64.ofNat i, 0⟩).2) r

/-- The sample names, compiled. -/
def sample (coins : Coins) : Except Halt Registry :=
  (·.2) <$> ((empty coins none).addAll sampleNames).compile

end TableTalk.Registry
