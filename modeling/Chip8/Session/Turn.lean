import Chip8.Timer.Basic

set_option autoImplicit false

namespace Chip8

inductive Key where
  | escape
  | other (name : String)
  deriving DecidableEq, Repr

-- The key of a name, which may be written in small or capital letters. A name of one character is
-- the key of that character.
def Key.ofName (name : String) : Key :=
  if name = "\x1b" ∨ name.toList.map Char.toLower = "escape".toList then .escape
  else .other name

inductive Input where
  | quit
  | keyDown (key : Key)
  | keyUp (key : Key)
  deriving DecidableEq, Repr

def Input.ends : Input → Bool
  | quit => true
  | keyDown key => decide (key = .escape)
  | keyUp _ => false

structure Turn where
  -- The clocks that tick before the turn, in order.
  ticks : List TimerRole := []
  -- Whether it is time to look for a new frame.
  redraws : Bool := false
  inputs : List Input := []

end Chip8
