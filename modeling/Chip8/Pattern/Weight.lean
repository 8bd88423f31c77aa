import Chip8.Pattern.Basic

set_option autoImplicit false

namespace Chip8

namespace Charset

def isAscii : Charset → Bool
  | none => true
  | range _ last => last ≤ '\x7f'
  | union left right => left.isAscii && right.isAscii
  | meet left right => left.isAscii || right.isAscii
  | complement _ => false
  | bothCases set => set.isAscii

def ranges : Charset → Nat
  | none => 0
  | range _ _ => 1
  | union left right => left.ranges + right.ranges
  | meet left right => left.ranges + right.ranges
  | complement set => set.ranges + 1
  | bothCases set => 2 * set.ranges

-- An estimate, close enough for patterns that take far more or far less room than they may.
def weight : Charset → Nat
  | range first last =>
      if first = last then 32 * first.utf8Size else if last ≤ '\x7f' then 72 else 424
  | set => if set.isAscii then 64 + 8 * set.ranges else 424

end Charset

namespace Pattern

def neverAdvances : Pattern → Bool
  | empty => true
  | one _ => false
  | anchor _ => true
  | seq first second => first.neverAdvances && second.neverAdvances
  | either left right => left.neverAdvances && right.neverAdvances
  | times pattern _ _ => pattern.neverAdvances

def weight : Pattern → Nat
  | empty => 32
  | one set => set.weight
  | anchor _ => 32
  | seq first second => first.weight + second.weight
  | either left right => left.weight + right.weight + 40
  | times pattern least most =>
      if pattern.neverAdvances then pattern.weight + 40
      else
        let copies := most.getD (max 1 least)
        copies * pattern.weight + 40 * (copies + 1 - least)

def greatestWeight : Nat := 10 * 1024 * 1024

end Pattern

end Chip8
