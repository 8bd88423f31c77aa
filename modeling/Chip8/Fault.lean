import Chip8.Text.Hex
import Chip8.Word

set_option autoImplicit false

namespace Chip8

inductive Fault where
  | outOfBounds (address : Nat)
  | emptyCallStack
  | unknownWord (word : Word)
  deriving DecidableEq, Repr

def Fault.message : Fault → String
  | outOfBounds address => "memory access out of bounds at " ++ Text.hexAddress address
  | emptyCallStack => "returned from a subroutine with an empty call stack"
  | unknownWord word => "unknown opcode " ++ Text.hexAddress word.toNat

end Chip8
