set_option autoImplicit false

namespace Chip8

inductive Charset where
  | none
  | range (first last : Char)
  | union (left right : Charset)
  | meet (left right : Charset)
  | complement (set : Charset)
  -- The letters of the set in both cases.
  | bothCases (set : Charset)
  deriving DecidableEq, Repr

namespace Charset

-- Only the letters from a to z have two cases here.
def contains : Charset → Char → Bool
  | none, _ => false
  | range first last, c => first ≤ c && c ≤ last
  | union left right, c => left.contains c || right.contains c
  | meet left right, c => left.contains c && right.contains c
  | complement set, c => !set.contains c
  | bothCases set, c => set.contains c || set.contains c.toLower || set.contains c.toUpper

def single (c : Char) : Charset := range c c

def ofRanges (ranges : List (Char × Char)) : Charset :=
  ranges.foldr (fun (first, last) set => union (range first last) set) none

def difference (left right : Charset) : Charset := meet left (complement right)

def symmetricDifference (left right : Charset) : Charset :=
  union (difference left right) (difference right left)

@[simp]
theorem contains_single (c d : Char) : (single c).contains d = decide (d = c) := by
  simp only [single, contains, ← Bool.decide_and]
  congr 1
  exact propext ⟨fun h => Char.le_antisymm h.2 h.1, fun h => h ▸ ⟨Char.le_refl d, Char.le_refl d⟩⟩

@[simp]
theorem contains_difference (left right : Charset) (c : Char) :
    (difference left right).contains c = (left.contains c && !right.contains c) := rfl

@[simp]
theorem contains_symmetricDifference (left right : Charset) (c : Char) :
    (symmetricDifference left right).contains c = (left.contains c ^^ right.contains c) := by
  simp only [symmetricDifference, contains, contains_difference]
  cases left.contains c <;> cases right.contains c <;> rfl

def digits : Charset := range '0' '9'

def blanks : Charset := union (range '\t' '\r') (single ' ')

def wordCharacters : Charset := ofRanges [('0', '9'), ('A', 'Z'), ('_', '_'), ('a', 'z')]

def named? : String → Option Charset
  | "alnum" => ofRanges [('0', '9'), ('A', 'Z'), ('a', 'z')]
  | "alpha" => ofRanges [('A', 'Z'), ('a', 'z')]
  | "ascii" => range '\x00' '\x7f'
  | "blank" => union (single '\t') (single ' ')
  | "cntrl" => ofRanges [('\x00', '\x1f'), ('\x7f', '\x7f')]
  | "digit" => digits
  | "graph" => range '!' '~'
  | "lower" => range 'a' 'z'
  | "print" => range ' ' '~'
  | "punct" => ofRanges [('!', '/'), (':', '@'), ('[', '\x60'), ('\x7b', '~')]
  | "space" => blanks
  | "upper" => range 'A' 'Z'
  | "word" => wordCharacters
  | "xdigit" => ofRanges [('0', '9'), ('A', 'F'), ('a', 'f')]
  | _ => Option.none

end Charset

end Chip8
