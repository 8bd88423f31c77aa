import Chip8.Word

set_option autoImplicit false

namespace Chip8

def countDown (value : Byte) : Byte × Bool :=
  if value = 0 then (0, false) else (value - 1, true)

inductive TimerRole where
  | delay
  | sound
  deriving DecidableEq, Repr

def TimerRole.name : TimerRole → String
  | delay => "delay"
  | sound => "sound"

end Chip8
