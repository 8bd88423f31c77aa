import Chip8.Word

set_option autoImplicit false

namespace Chip8

inductive Arith where
  | move
  | or
  | and
  | xor
  | add
  | sub
  | shiftRight
  | shiftLeft
  deriving DecidableEq, Repr

inductive Instruction where
  | clear
  | ret
  | jump (target : Address)
  | call (target : Address)
  | load (x : Nibble) (value : Byte)
  -- Unlike a sum of two registers it leaves the flag alone.
  | increase (x : Nibble) (value : Byte)
  | arith (op : Arith) (x y : Nibble)
  | point (target : Address)
  -- The first register is added to the target.
  | jumpBeyond (target : Address)
  | random (x : Nibble) (mask : Byte)
  | draw (x y height : Nibble)
  | readDelay (x : Nibble)
  | setDelay (x : Nibble)
  | setSound (x : Nibble)
  deriving DecidableEq, Repr

end Chip8
