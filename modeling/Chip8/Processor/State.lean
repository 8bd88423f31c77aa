import Chip8.Journal.Event
import Chip8.Memory.Basic
import Chip8.Random.Source
import Chip8.Screen.Display
import Chip8.Settings
import Chip8.Timer.Counters

set_option autoImplicit false

namespace Chip8

structure Processor where
  registers : Registers := .zero
  index : Word := 0
  counter : Word := BitVec.ofNat 16 programStart
  -- Return addresses, the newest first; there is no limit to their number.
  calls : List Word := []
  memory : Memory := .fresh
  display : Display := {}
  timers : Timers := .fresh
  random : Random
  unknownWords : UnknownWords := .skip

namespace Processor

def fresh (unknownWords : UnknownWords) (random : Random) : Processor :=
  { random := random, unknownWords := unknownWords }

def setRegister (processor : Processor) (x : Nibble) (value : Byte) : Processor :=
  { processor with registers := processor.registers.write x value }

end Processor

end Chip8
