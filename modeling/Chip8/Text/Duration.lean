set_option autoImplicit false

namespace Chip8.Text

def places (exponent remainder : Nat) : String :=
  let digits := Nat.toDigits 10 remainder
  let padded := List.replicate (exponent - digits.length) '0' ++ digits
  let needed := (padded.reverse.dropWhile (· = '0')).reverse
  if needed.isEmpty then "" else String.ofList ('.' :: needed)

def inUnit (exponent : Nat) (symbol : String) (nanoseconds : Nat) : String :=
  let size := Nat.pow 10 exponent
  toString (nanoseconds / size) ++ places exponent (nanoseconds % size) ++ symbol

def duration (nanoseconds : Nat) : String :=
  if 1000000000 ≤ nanoseconds then inUnit 9 "s" nanoseconds
  else if 1000000 ≤ nanoseconds then inUnit 6 "ms" nanoseconds
  else if 1000 ≤ nanoseconds then inUnit 3 "µs" nanoseconds
  else inUnit 0 "ns" nanoseconds

end Chip8.Text
