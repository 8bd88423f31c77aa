import Chip8.Instruction.Basic
import Chip8.Processor.State
import Chip8.Screen.Sprite

set_option autoImplicit false

namespace Chip8

def flagByte (raised : Bool) : Byte := if raised then 1 else 0

namespace Registers

def combine (registers : Registers) (op : Arith) (x y : Nibble) : Registers :=
  let a := registers.read x
  let b := registers.read y
  -- Sums and differences write the flag first and the result second; shifts the other way.
  match op with
  | .move => registers.write x b
  | .or => registers.write x (a ||| b)
  | .and => registers.write x (a &&& b)
  | .xor => registers.write x (a ^^^ b)
  | .add => (registers.write flag (flagByte (BitVec.uaddOverflow a b))).write x (a + b)
  | .sub => (registers.write flag (flagByte (!BitVec.usubOverflow a b))).write x (a - b)
  | .shiftRight => (registers.write x (b >>> 1)).write flag (b &&& 1)
  | .shiftLeft => (registers.write x (b <<< 1)).write flag (b >>> 7)

end Registers

namespace Processor

def spriteOrigin (processor : Processor) (x y : Nibble) : Cell :=
  { x := Fin.ofNat screenWidth (processor.registers.read x).toNat
    y := Fin.ofNat screenHeight (processor.registers.read y).toNat }

def visibleRows (origin : Cell) (height : Nibble) : Nat :=
  min height.toNat (screenHeight - origin.y)

/-- The sprite is read before anything changes, and rows below the bottom edge are not read. -/
def draw (processor : Processor) (x y height : Nibble) : Processor × Except Fault Unit :=
  let origin := processor.spriteOrigin x y
  match processor.memory.readRange processor.index.toNat (visibleRows origin height) with
  | .error fault => (processor, .error fault)
  | .ok bytes =>
      let (display, collision) := processor.display.draw { origin := origin, bytes := bytes }
      ({ processor with
          display := display
          registers := processor.registers.write Registers.flag (flagByte collision) },
        .ok ())

def goBack (processor : Processor) : Processor × Except Fault Unit :=
  match processor.calls with
  | [] => (processor, .error .emptyCallStack)
  | back :: earlier => ({ processor with counter := back, calls := earlier }, .ok ())

/-- The state an instruction leaves, also where it ends in a fault. -/
def perform (processor : Processor) : Instruction → Processor × Except Fault Unit
  | .clear => ({ processor with display := processor.display.clear }, .ok ())
  | .ret => processor.goBack
  | .jump target => ({ processor with counter := target.setWidth 16 }, .ok ())
  | .call target =>
      ({ processor with
          calls := processor.counter :: processor.calls
          counter := target.setWidth 16 },
        .ok ())
  | .load x value => (processor.setRegister x value, .ok ())
  | .increase x value => (processor.setRegister x (processor.registers.read x + value), .ok ())
  | .arith op x y =>
      ({ processor with registers := processor.registers.combine op x y }, .ok ())
  | .point target => ({ processor with index := target.setWidth 16 }, .ok ())
  | .jumpBeyond target =>
      ({ processor with
          counter := target.setWidth 16 + (processor.registers.read 0).setWidth 16 },
        .ok ())
  | .random x mask =>
      let (byte, random) := processor.random.next
      ({ processor.setRegister x (byte &&& mask) with random := random }, .ok ())
  | .draw x y height => processor.draw x y height
  | .readDelay x => (processor.setRegister x (processor.timers.get .delay), .ok ())
  | .setDelay x =>
      ({ processor with timers := processor.timers.set .delay (processor.registers.read x) },
        .ok ())
  | .setSound x =>
      ({ processor with timers := processor.timers.set .sound (processor.registers.read x) },
        .ok ())

end Processor

end Chip8
