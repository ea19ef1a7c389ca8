import Cityscape.Random.Source

/-!
# The ChaCha key stream

The stream cipher ChaCha with twelve rounds as a source of words: the blocks for the counters
0, 1, 2, … follow one another, each as sixteen words. A 64-bit seed is stretched into the eight
words of the key.
-/

namespace Cityscape.Random

/-- The word with its bits moved left, those that fall out coming in on the right. -/
def rotateLeft (w : UInt32) (amount : UInt32) : UInt32 := (w <<< amount) ||| (w >>> (32 - amount))

/-- The word with its bits moved right, those that fall out coming in on the left. -/
def rotateRight (w : UInt32) (amount : UInt32) : UInt32 :=
  (w >>> amount) ||| (w <<< ((32 - amount) % 32))

namespace ChaCha

/-- The sixteen words that the rounds work on. -/
abbrev Block := Vector UInt32 16

/-- One quarter round on four words of a block. -/
def quarterRound (v : Block) (a b c d : Fin 16) : Block :=
  let v := v.set a (v.get a + v.get b)
  let v := v.set d (rotateLeft (v.get d ^^^ v.get a) 16)
  let v := v.set c (v.get c + v.get d)
  let v := v.set b (rotateLeft (v.get b ^^^ v.get c) 12)
  let v := v.set a (v.get a + v.get b)
  let v := v.set d (rotateLeft (v.get d ^^^ v.get a) 8)
  let v := v.set c (v.get c + v.get d)
  v.set b (rotateLeft (v.get b ^^^ v.get c) 7)

/-- A round over the columns of the block and one over its diagonals. -/
def doubleRound (v : Block) : Block :=
  let v := quarterRound v 0 4 8 12
  let v := quarterRound v 1 5 9 13
  let v := quarterRound v 2 6 10 14
  let v := quarterRound v 3 7 11 15
  let v := quarterRound v 0 5 10 15
  let v := quarterRound v 1 6 11 12
  let v := quarterRound v 2 7 8 13
  quarterRound v 3 4 9 14

/-- The block before the rounds: four constants, the key, and a counter of two words, low word
first, with a zero nonce. -/
def initial (key : Vector UInt32 8) (counter : UInt64) : Block :=
  (#v[0x61707865, 0x3320646e, 0x79622d32, 0x6b206574] : Vector UInt32 4) ++ key ++
    (#v[counter.toUInt32, (counter >>> 32).toUInt32, 0, 0] : Vector UInt32 4)

/-- The key stream block for a counter: six double rounds, added to the block before them. -/
def block (key : Vector UInt32 8) (counter : UInt64) : Block :=
  let start := initial key counter
  let mixed := (List.range 6).foldl (fun v _ => doubleRound v) start
  Vector.zipWith (· + ·) mixed start

end ChaCha

/-- The next state of the generator that stretches a seed. -/
def stretchState (s : UInt64) : UInt64 := s * 6364136223846793005 + 11634580027462260723

/-- The word read off a state of that generator. -/
def stretchWord (s : UInt64) : UInt32 :=
  rotateRight ((((s >>> 18) ^^^ s) >>> 27).toUInt32) (s >>> 59).toUInt32

/-- The state after `n + 1` steps. -/
def stretch (seed : UInt64) : Nat → UInt64
  | 0 => stretchState seed
  | n + 1 => stretchState (stretch seed n)

/-- The key that a seed stands for. -/
def keyOfSeed (seed : UInt64) : Vector UInt32 8 :=
  Vector.ofFn fun i => stretchWord (stretch seed i)

/-- A position in a key stream: the words of the current block that are left, and the counter of
the block after it. -/
structure KeyStream where
  key : Vector UInt32 8
  counter : UInt64
  pending : List UInt32
deriving DecidableEq

namespace KeyStream

/-- The start of the stream for a seed. -/
def ofSeed (seed : UInt64) : KeyStream := ⟨keyOfSeed seed, 0, []⟩

/-- The next word. -/
def next (s : KeyStream) : UInt32 × KeyStream :=
  match s.pending with
  | word :: pending => (word, { s with pending })
  | [] =>
    let fresh := ChaCha.block s.key s.counter
    (fresh.head, { s with counter := s.counter + 1, pending := fresh.toList.tail })

/-- Words are drawn from the key stream. -/
instance : Source KeyStream := ⟨next⟩

end KeyStream

end Cityscape.Random
