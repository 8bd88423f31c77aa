import Chip8.Word

set_option autoImplicit false

namespace Chip8

inductive Beep where
  | played (output : List Byte)
  | broken
  deriving DecidableEq, Repr

def Beep.output : Beep → List Byte
  | played output => output
  | broken => []

structure Sound where
  -- What a beep does, by the number of beeps before it.
  answer : Nat → Beep
  beeps : Nat := 0

namespace Sound

def bell : Sound := { answer := fun _ => .played [0x07] }

def mute : Sound := { answer := fun _ => .played [] }

-- Silent, but breaks in the beep of that number, where beeps count from one.
def breakingAt (number : Nat) : Sound :=
  { answer := fun earlier => if earlier + 1 = number then .broken else .played [] }

def beep (sound : Sound) : Sound × Beep :=
  ({ sound with beeps := sound.beeps + 1 }, sound.answer sound.beeps)

def output (sound : Sound) : List Byte :=
  (List.range sound.beeps).flatMap fun earlier => (sound.answer earlier).output

def beepTimes (sound : Sound) : Nat → Sound
  | 0 => sound
  | count + 1 => sound.beep.1.beepTimes count

end Sound

end Chip8
