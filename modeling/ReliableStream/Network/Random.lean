/-! # Random words

    All randomness of a network comes from one **random stream**: an endless
    sequence of 32 bit words, computed block by block. The stream that a seed
    stands for is the key stream of the ChaCha cipher with twelve rounds, under
    a key expanded from the seed and with a zero nonce. -/

namespace ReliableStream

/-- An endless stream of words. Blocks are computed when they are reached; a
    block is its first word and the words after it. -/
structure RandomStream where
  block : Nat → UInt32 × List UInt32
  /-- The next block to compute. -/
  nextBlock : Nat
  /-- The words of the current block not yet drawn. -/
  rest : List UInt32

namespace RandomStream

/-- Draws a 32 bit word. -/
def draw32 (s : RandomStream) : UInt32 × RandomStream :=
  match s.rest with
  | w :: rest => (w, { s with rest })
  | [] =>
    let (w, rest) := s.block s.nextBlock
    (w, { s with rest, nextBlock := s.nextBlock + 1 })

/-- Draws a 64 bit number from two words, the **low word first**. -/
def draw64 (s : RandomStream) : Nat × RandomStream :=
  let (low, s) := s.draw32
  let (high, s) := s.draw32
  (high.toNat * 4_294_967_296 + low.toNat, s)

/-! ### Uniform numbers -/

/-- Scales a draw of one of `size` values to one of `range` values. Where the
    remainder of the product leaves the quotient in doubt, a **second draw**
    decides whether to carry. -/
def scaleDraw (size range : Nat) (draw : RandomStream → Nat × RandomStream) (s : RandomStream) :
    Nat × RandomStream :=
  let (v, s) := draw s
  let high := v * range / size
  let low := v * range % size
  -- Only here could the digits of a longer draw still carry into `high`.
  if low > size - range then
    let (v', s) := draw s
    (if low + v' * range / size ≥ size then high + 1 else high, s)
  else (high, s)

/-- A number below `range`, which is at most `2 ^ 32`. -/
def below32 (s : RandomStream) (range : Nat) : Nat × RandomStream :=
  s.scaleDraw 4_294_967_296 range fun s =>
    let (w, s) := s.draw32
    (w.toNat, s)

/-- A number up to `most`, which is below `2 ^ 64`. -/
def upTo64 (s : RandomStream) (most : Nat) : Nat × RandomStream :=
  if most + 1 = 18_446_744_073_709_551_616 then s.draw64
  else s.scaleDraw 18_446_744_073_709_551_616 (most + 1) draw64

end RandomStream

/-! ### The key stream -/

namespace ChaCha

/-- The sixteen words the cipher works on. -/
abbrev Words := Vector UInt32 16

/-- A word turned to the left. -/
def rotateLeft (w : UInt32) (n : UInt32) : UInt32 := (w <<< n) ||| (w >>> (32 - n))

/-- Mixes four of the words. -/
def quarterRound (s : Words) (a b c d : Fin 16) : Words :=
  let s := s.set a (s[a] + s[b])
  let s := s.set d (rotateLeft (s[d] ^^^ s[a]) 16)
  let s := s.set c (s[c] + s[d])
  let s := s.set b (rotateLeft (s[b] ^^^ s[c]) 12)
  let s := s.set a (s[a] + s[b])
  let s := s.set d (rotateLeft (s[d] ^^^ s[a]) 8)
  let s := s.set c (s[c] + s[d])
  s.set b (rotateLeft (s[b] ^^^ s[c]) 7)

/-- Two rounds: the columns, then the diagonals. -/
def doubleRound (s : Words) : Words :=
  let s := quarterRound s 0 4 8 12
  let s := quarterRound s 1 5 9 13
  let s := quarterRound s 2 6 10 14
  let s := quarterRound s 3 7 11 15
  let s := quarterRound s 0 5 10 15
  let s := quarterRound s 1 6 11 12
  let s := quarterRound s 2 7 8 13
  quarterRound s 3 4 9 14

/-- The words before mixing: four constants, the key, the 64 bit number of the
    block, and a zero nonce. -/
def initial (key : Vector UInt32 8) (block : Nat) : Words :=
  #v[0x61707865, 0x3320646e, 0x79622d32, 0x6b206574,
    key[0], key[1], key[2], key[3], key[4], key[5], key[6], key[7],
    UInt32.ofNat block, UInt32.ofNat (block / 4_294_967_296), 0, 0]

/-- A block of the key stream: six double rounds, added to the words before
    mixing. -/
def keyBlock (key : Vector UInt32 8) (block : Nat) : Words :=
  let start := initial key block
  let mixed := (List.range 6).foldl (fun s _ => doubleRound s) start
  Vector.zipWith (· + ·) mixed start

/-- One step of the generator that expands a seed, and the word it yields. -/
def expandStep (state : UInt64) : UInt32 × UInt64 :=
  let state := state * 6364136223846793005 + 11634580027462260723
  -- The high bits decide how far the middle bits are turned to the right.
  let word := (((state >>> 18) ^^^ state) >>> 27).toUInt32
  let turn := (state >>> 59).toUInt32
  (if turn = 0 then word else (word >>> turn) ||| (word <<< (32 - turn)), state)

/-- The first `n` words that a seed expands to. -/
def expand : Nat → UInt64 → List UInt32
  | 0, _ => []
  | n + 1, state =>
    let (w, state) := expandStep state
    w :: expand n state

/-- The key of a seed. -/
def keyOfSeed (seed : UInt64) : Vector UInt32 8 :=
  let words := expand 8 seed
  Vector.ofFn fun i => words.getD i 0

end ChaCha

/-- The random stream of a seed. -/
def RandomStream.ofSeed (seed : UInt64) : RandomStream :=
  let key := ChaCha.keyOfSeed seed
  { block := fun n =>
      let words := ChaCha.keyBlock key n
      (words[0], words.toList.tail)
    nextBlock := 0
    rest := [] }

end ReliableStream
