import Chip8.Word

set_option autoImplicit false

namespace Chip8

structure Random where
  words : Nat → UInt32
  taken : Nat := 0

namespace Random

def byteAt (random : Random) (place : Nat) : Byte := (random.words place).toBitVec.setWidth 8

def next (random : Random) : Byte × Random :=
  (random.byteAt random.taken, { random with taken := random.taken + 1 })

def cycle (first : UInt32) (rest : List UInt32) : Random :=
  let all := (first :: rest).toArray
  { words := fun place => all.getD (place % all.size) first }

end Random

/-- What new random sources are made of: words for each seed, and a source without one. -/
structure Entropy where
  seeded : UInt64 → Nat → UInt32
  unseeded : Random

namespace Entropy

def source (entropy : Entropy) : Option UInt64 → Random
  | some seed => { words := entropy.seeded seed }
  | none => entropy.unseeded

def constant (word : UInt32) : Entropy :=
  { seeded := fun _ _ => word, unseeded := .cycle word [] }

end Entropy

end Chip8
