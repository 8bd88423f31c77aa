import Chip8.Random.Source

set_option autoImplicit false

-- A 64-bit seed is stretched to eight key words by a linear congruential
-- generator with permuted output. The key drives the ChaCha stream cipher with
-- twelve rounds, a 64-bit block counter and a nonce of zero, and the source is
-- its keystream, word by word.

namespace Chip8

namespace Random

abbrev CipherKey := Vector UInt32 8

abbrev CipherBlock := Vector UInt32 16

def rotateLeft (word amount : UInt32) : UInt32 :=
  (word <<< amount) ||| (word >>> (32 - amount))

def rotateRight (word amount : UInt32) : UInt32 := rotateLeft word (32 - amount)

def stretch (state : UInt64) : UInt64 × UInt32 :=
  let next := state * 6364136223846793005 + 11634580027462260723
  let mixed := (((next >>> 18) ^^^ next) >>> 27).toUInt32
  (next, rotateRight mixed (next >>> 59).toUInt32)

def stretchWords : Nat → UInt64 → List UInt32
  | 0, _ => []
  | count + 1, state => (stretch state).2 :: stretchWords count (stretch state).1

@[simp]
theorem length_stretchWords (count : Nat) (state : UInt64) :
    (stretchWords count state).length = count := by
  induction count generalizing state with
  | zero => rfl
  | succ count ih => simp [stretchWords, ih]

def keyOfSeed (seed : UInt64) : CipherKey :=
  ⟨(stretchWords 8 seed).toArray, by simp⟩

def quarterRound (block : CipherBlock) (i j k l : Fin 16) : CipherBlock :=
  let a := block[i] + block[j]
  let d := rotateLeft (block[l] ^^^ a) 16
  let c := block[k] + d
  let b := rotateLeft (block[j] ^^^ c) 12
  let a := a + b
  let d := rotateLeft (d ^^^ a) 8
  let c := c + d
  let b := rotateLeft (b ^^^ c) 7
  (((block.set i a).set j b).set k c).set l d

def mixedPlaces : List (Fin 16 × Fin 16 × Fin 16 × Fin 16) :=
  [(0, 4, 8, 12), (1, 5, 9, 13), (2, 6, 10, 14), (3, 7, 11, 15),
    (0, 5, 10, 15), (1, 6, 11, 12), (2, 7, 8, 13), (3, 4, 9, 14)]

def doubleRound (block : CipherBlock) : CipherBlock :=
  mixedPlaces.foldl (fun mixed (i, j, k, l) => quarterRound mixed i j k l) block

def rounds : Nat → CipherBlock → CipherBlock
  | 0, block => block
  | count + 1, block => rounds count (doubleRound block)

def initialBlock (key : CipherKey) (counter : UInt64) : CipherBlock :=
  (#v[0x61707865, 0x3320646e, 0x79622d32, 0x6b206574] : Vector UInt32 4) ++ key ++
    #v[counter.toUInt32, (counter >>> 32).toUInt32, 0, 0]

def cipherBlock (key : CipherKey) (counter : UInt64) : CipherBlock :=
  let start := initialBlock key counter
  Vector.zipWith (· + ·) (rounds 6 start) start

def keystream (key : CipherKey) (place : Nat) : UInt32 :=
  (cipherBlock key (UInt64.ofNat (place / 16))).get (Fin.ofNat 16 place)

def ofKey (key : CipherKey) : Random := { words := keystream key }

def ofSeed (seed : UInt64) : Random := ofKey (keyOfSeed seed)

end Random

def Entropy.keyed (unseeded : Random) : Entropy :=
  { seeded := fun seed => (Random.ofSeed seed).words, unseeded := unseeded }

end Chip8
