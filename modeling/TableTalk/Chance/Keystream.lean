/-! A stream of random words that a seed alone decides: ChaCha with eight rounds, whose key the seed
is spread over. -/
namespace TableTalk.Chance

abbrev Block := Vector UInt32 16
abbrev Key := Vector UInt32 8

def rotateLeft (x n : UInt32) : UInt32 := x <<< n ||| x >>> (32 - n)

def rotateRight (x n : UInt32) : UInt32 := x >>> n ||| x <<< (32 - n)

/-- The seed after one step of the generator that fills the key. -/
def nextSeed (s : UInt64) : UInt64 := s * 6364136223846793005 + 11634580027462260723

/-- The top bits of a seed tell how far the others are rotated. -/
def seedWord (s : UInt64) : UInt32 :=
  rotateRight (((s >>> 18) ^^^ s) >>> 27).toUInt32 (s >>> 59).toUInt32

/-- The key has the words of the eight seeds that follow. -/
def keyOf (seed : UInt64) : Key :=
  Vector.ofFn fun i => seedWord (Nat.repeat nextSeed (i.val + 1) seed)

def quarterRound (b : Block) (i j k l : Fin 16) : Block :=
  let p := b[i] + b[j]
  let s := rotateLeft (b[l] ^^^ p) 16
  let r := b[k] + s
  let q := rotateLeft (b[j] ^^^ r) 12
  let p := p + q
  let s := rotateLeft (s ^^^ p) 8
  let r := r + s
  let q := rotateLeft (q ^^^ r) 7
  (((b.set i p).set j q).set k r).set l s

/-- Four columns, then four diagonals. -/
def doubleRound (b : Block) : Block :=
  let b := quarterRound b 0 4 8 12
  let b := quarterRound b 1 5 9 13
  let b := quarterRound b 2 6 10 14
  let b := quarterRound b 3 7 11 15
  let b := quarterRound b 0 5 10 15
  let b := quarterRound b 1 6 11 12
  let b := quarterRound b 2 7 8 13
  quarterRound b 3 4 9 14

/-- Constants, key, a block number of 64 bits, and two words left at zero. -/
def start (key : Key) (number : UInt64) : Block :=
  (#v[0x61707865, 0x3320646e, 0x79622d32, 0x6b206574] : Vector UInt32 4) ++ key ++
    (#v[number.toUInt32, (number >>> 32).toUInt32, 0, 0] : Vector UInt32 4)

def block (key : Key) (number : UInt64) : Block :=
  let first := start key number
  (doubleRound (doubleRound (doubleRound (doubleRound first)))).zipWith (· + ·) first

/-- The words of block after block, in order. -/
def word (key : Key) (n : Nat) : UInt32 :=
  (block key (UInt64.ofNat (n / 16))).get ⟨n % 16, Nat.mod_lt n (by decide)⟩

end TableTalk.Chance
