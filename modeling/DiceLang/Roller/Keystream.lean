/-!
# A stream of words from a key

The ChaCha block function with eight rounds, counting blocks from zero under an all-zero nonce.
A block is four rows of four lanes; a quarter round works on all four columns at once, and a
diagonal round is a column round between two rotations of the rows.
-/

namespace DiceLang.Keystream

set_option autoImplicit false

structure Row where
  a : UInt32
  b : UInt32
  c : UInt32
  d : UInt32
  deriving DecidableEq, Repr

namespace Row

def zipWith (f : UInt32 → UInt32 → UInt32) (x y : Row) : Row :=
  ⟨f x.a y.a, f x.b y.b, f x.c y.c, f x.d y.d⟩

def rotateBits (amount : UInt32) (x : Row) : Row :=
  let turn (word : UInt32) : UInt32 := (word <<< amount) ||| (word >>> (32 - amount))
  ⟨turn x.a, turn x.b, turn x.c, turn x.d⟩

/-- Moves every lane one place to the left. -/
def rotateLanes (x : Row) : Row :=
  ⟨x.b, x.c, x.d, x.a⟩

def toList (x : Row) : List UInt32 :=
  [x.a, x.b, x.c, x.d]

end Row

structure Block where
  row0 : Row
  row1 : Row
  row2 : Row
  row3 : Row
  deriving DecidableEq, Repr

namespace Block

def zipWith (f : UInt32 → UInt32 → UInt32) (x y : Block) : Block :=
  ⟨x.row0.zipWith f y.row0, x.row1.zipWith f y.row1, x.row2.zipWith f y.row2,
    x.row3.zipWith f y.row3⟩

/-- Adds `row1` to `row0` and mixes the sum into `row3`. -/
def mixUpper (amount : UInt32) (x : Block) : Block :=
  let row0 := x.row0.zipWith (· + ·) x.row1
  { x with row0, row3 := (x.row3.zipWith (· ^^^ ·) row0).rotateBits amount }

/-- Adds `row3` to `row2` and mixes the sum into `row1`. -/
def mixLower (amount : UInt32) (x : Block) : Block :=
  let row2 := x.row2.zipWith (· + ·) x.row3
  { x with row2, row1 := (x.row1.zipWith (· ^^^ ·) row2).rotateBits amount }

def columnRound (x : Block) : Block :=
  (((x.mixUpper 16).mixLower 12).mixUpper 8).mixLower 7

/-- Turns the diagonals into columns. -/
def align (x : Block) : Block :=
  ⟨x.row0, x.row1.rotateLanes, x.row2.rotateLanes.rotateLanes,
    x.row3.rotateLanes.rotateLanes.rotateLanes⟩

/-- Turns the columns back into diagonals. -/
def unalign (x : Block) : Block :=
  ⟨x.row0, x.row1.rotateLanes.rotateLanes.rotateLanes, x.row2.rotateLanes.rotateLanes,
    x.row3.rotateLanes⟩

def doubleRound (x : Block) : Block :=
  x.columnRound.align.columnRound.unalign

def eightRounds (x : Block) : Block :=
  x.doubleRound.doubleRound.doubleRound.doubleRound

def toList (x : Block) : List UInt32 :=
  x.row0.toList ++ x.row1.toList ++ x.row2.toList ++ x.row3.toList

end Block

structure Key where
  low : Row
  high : Row
  deriving DecidableEq, Repr

namespace Key

/-- One step of the generator that spreads a seed over a key, and the word it yields. -/
def spread (state : UInt64) : UInt32 × UInt64 :=
  let next := state * 6364136223846793005 + 11634580027462260723
  let mixed := (((next >>> 18) ^^^ next) >>> 27).toUInt32
  let turn := (next >>> 59).toUInt32
  ((mixed >>> turn) ||| (mixed <<< ((32 - turn) % 32)), next)

def spreadRow (state : UInt64) : Row × UInt64 :=
  let (a, state) := spread state
  let (b, state) := spread state
  let (c, state) := spread state
  let (d, state) := spread state
  (⟨a, b, c, d⟩, state)

def ofSeed (seed : UInt64) : Key :=
  let (low, state) := spreadRow seed
  let (high, _) := spreadRow state
  ⟨low, high⟩

def block (key : Key) (counter : UInt64) : Block :=
  let start : Block :=
    ⟨⟨0x61707865, 0x3320646e, 0x79622d32, 0x6b206574⟩, key.low, key.high,
      ⟨counter.toUInt32, (counter >>> 32).toUInt32, 0, 0⟩⟩
  start.eightRounds.zipWith (· + ·) start

/-- The word at a position of the stream, sixteen to a block. -/
def word (key : Key) (position : Nat) : UInt32 :=
  (key.block (UInt64.ofNat (position / 16))).toList.getD (position % 16) 0

end Key

/-- Blocks are counted in 64 bits, and after the last one the first comes again. -/
def period : Nat := 16 * UInt64.size

theorem period_pos : 0 < period := by decide

theorem Key.word_add_period (key : Key) (position : Nat) :
    key.word (position + period) = key.word position := by
  have blocks : (position + period) / 16 = position / 16 + UInt64.size := by
    rw [period]
    omega
  have lanes : (position + period) % 16 = position % 16 := by
    rw [period]
    omega
  have counter : UInt64.ofNat (position / 16 + UInt64.size) = UInt64.ofNat (position / 16) := by
    apply UInt64.toNat_inj.mp
    simp
  rw [word, word, blocks, lanes, counter]

end DiceLang.Keystream
