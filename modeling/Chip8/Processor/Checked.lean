import Chip8.Instruction.Operands
import Chip8.Processor.Cycle

set_option autoImplicit false

-- The cycle once more, on numbers that can overflow and with places counted by numbers. A sum
-- beyond the limit, a difference below zero, a shift by the whole width, and a register or a
-- cell that is not there are traps, which give no outcome at all. Operands are cut out of the
-- word by shifts and masks, and a sprite is painted bit by bit.

namespace Chip8

inductive Trap where
  | sum (left right : Nat)
  | difference (left right : Nat)
  | shift (amount : Nat)
  | register (place : Nat)
  | cell (cause : OffScreen)
  deriving DecidableEq, Repr

namespace Checked

def add (limit left right : Nat) : Except Trap Nat :=
  if left + right < limit then .ok (left + right) else .error (.sum left right)

def sub (left right : Nat) : Except Trap Nat :=
  if right ≤ left then .ok (left - right) else .error (.difference left right)

def addWord (left right : Word) : Except Trap Word := do
  let sum ← add 0x10000 left.toNat right.toNat
  return BitVec.ofNat 16 sum

def shiftRight (byte : Byte) (amount : Nat) : Except Trap Byte :=
  if amount < 8 then .ok (byte >>> amount) else .error (.shift amount)

def read (registers : Registers) (place : Nat) : Except Trap Byte :=
  if inside : place < registerCount then .ok registers[place] else .error (.register place)

def write (registers : Registers) (place : Nat) (value : Byte) : Except Trap Registers :=
  if inside : place < registerCount then .ok (registers.set place value)
  else .error (.register place)

def lit (display : Display) (x y : Nat) : Except Trap Bool :=
  (display.litAt x y).mapError .cell

def put (display : Display) (x y : Nat) (on : Bool) : Except Trap Display :=
  match display.putAt x y on with
  | (after, .ok _) => .ok after
  | (_, .error cause) => .error (.cell cause)

def combine (registers : Registers) (op : Arith) (x y : Nat) : Except Trap Registers := do
  let a ← read registers x
  let b ← read registers y
  match op with
  | .move => write registers x b
  | .or => write registers x (a ||| b)
  | .and => write registers x (a &&& b)
  | .xor => write registers x (a ^^^ b)
  | .add =>
      let flagged ← write registers flagRegister (flagByte (BitVec.uaddOverflow a b))
      write flagged x (a + b)
  | .sub =>
      let flagged ← write registers flagRegister (flagByte (!BitVec.usubOverflow a b))
      write flagged x (a - b)
  | .shiftRight =>
      let shifted ← write registers x (b >>> 1)
      write shifted flagRegister (b &&& 1)
  | .shiftLeft =>
      let shifted ← write registers x (b <<< 1)
      write shifted flagRegister (b >>> 7)

def paint (processor : Processor) (x y : Nat) : Except Trap Processor := do
  if ← lit processor.display x y then
    let display ← put processor.display x y false
    let registers ← write processor.registers flagRegister 1
    return { processor with display := display, registers := registers }
  else
    let display ← put processor.display x y true
    return { processor with display := display }

section Sizes

-- Sizes and addresses are numbers below the limit.
variable (limit : Nat)

def readRows (memory : Memory) (start row : Nat) : Nat → Except Trap (Except Fault (List Byte))
  | 0 => .ok (.ok [])
  | count + 1 => do
      let address ← add limit start row
      match memory.read address with
      | .error fault => return .error fault
      | .ok byte =>
          let rest ← readRows memory start (row + 1) count
          return rest.map (byte :: ·)

def paintBits (left y : Nat) (byte : Byte) (processor : Processor) (bit : Nat) :
    Nat → Except Trap Processor
  | 0 => .ok processor
  | count + 1 => do
      let x ← add limit left bit
      if screenWidth ≤ x then
        return processor
      else
        let amount ← sub 7 bit
        let shifted ← shiftRight byte amount
        let painted ← if shifted &&& 1 = 0 then pure processor else paint processor x y
        paintBits left y byte painted (bit + 1) count

def paintRows (left top : Nat) (processor : Processor) (row : Nat) :
    List Byte → Except Trap Processor
  | [] => .ok processor
  | byte :: bytes => do
      let y ← add limit top row
      let painted ← paintBits limit left y byte processor 0 8
      paintRows left top painted (row + 1) bytes

def draw (processor : Processor) (x y n : Nat) :
    Except Trap (Processor × Except Fault Unit) := do
  let vx ← read processor.registers x
  let vy ← read processor.registers y
  let left := vx.toNat &&& (screenWidth - 1)
  let top := vy.toNat &&& (screenHeight - 1)
  let room ← sub screenHeight top
  match ← readRows limit processor.memory processor.index.toNat 0 (min n room) with
  | .error fault => return (processor, .error fault)
  | .ok bytes =>
      let registers ← write processor.registers flagRegister 0
      let painted ← paintRows limit left top { processor with registers := registers } 0 bytes
      return (painted, .ok ())

def setRegister (processor : Processor) (x : Nat) (value : Byte) :
    Except Trap (Processor × Except Fault Unit) := do
  let registers ← write processor.registers x value
  return ({ processor with registers := registers }, .ok ())

def setTimer (processor : Processor) (role : TimerRole) (x : Nat) :
    Except Trap (Processor × Except Fault Unit) := do
  let value ← read processor.registers x
  return ({ processor with timers := processor.timers.set role value }, .ok ())

def perform (processor : Processor) (operands : Operands) :
    Instruction → Except Trap (Processor × Except Fault Unit)
  | .clear => return ({ processor with display := processor.display.clear }, .ok ())
  | .ret => return processor.goBack
  | .jump _ => return ({ processor with counter := operands.address }, .ok ())
  | .call _ =>
      return ({ processor with
          calls := processor.counter :: processor.calls
          counter := operands.address },
        .ok ())
  | .load _ _ => setRegister processor operands.x.toNat operands.kk
  | .increase _ _ => do
      let old ← read processor.registers operands.x.toNat
      setRegister processor operands.x.toNat (old + operands.kk)
  | .arith op _ _ => do
      let registers ← combine processor.registers op operands.x.toNat operands.y.toNat
      return ({ processor with registers := registers }, .ok ())
  | .point _ => return ({ processor with index := operands.address }, .ok ())
  | .jumpBeyond _ => do
      let offset ← read processor.registers 0
      let counter ← addWord operands.address (offset.setWidth 16)
      return ({ processor with counter := counter }, .ok ())
  | .random _ _ =>
      let (byte, random) := processor.random.next
      setRegister { processor with random := random } operands.x.toNat (byte &&& operands.kk)
  | .draw _ _ _ => draw limit processor operands.x.toNat operands.y.toNat operands.n.toNat
  | .readDelay _ => setRegister processor operands.x.toNat (processor.timers.get .delay)
  | .setDelay _ => setTimer processor .delay operands.x.toNat
  | .setSound _ => setTimer processor .sound operands.x.toNat

def fetch (processor : Processor) : Except Trap (Except Fault (Word × Processor)) :=
  match processor.memory.read processor.counter.toNat with
  | .error fault => return .error fault
  | .ok high => do
      let second ← add limit processor.counter.toNat 1
      match processor.memory.read second with
      | .error fault => return .error fault
      | .ok low =>
          let counter ← addWord processor.counter (BitVec.ofNat 16 wordSize)
          return .ok (Word.ofBytes high low, { processor with counter := counter })

/-- A word without an instruction computes nothing, whatever the policy. -/
def execute (processor : Processor) (word : Word) :
    Except Trap (Outcome Processor (Except Fault Unit)) :=
  match Instruction.decode word with
  | some instruction => do
      let (after, answer) ← perform limit processor (.ofWord word) instruction
      return {
        state := after
        answer := answer
        journal := [.executing word processor.registers processor.index processor.counter] }
  | none => return processor.execute word

def step (processor : Processor) : Except Trap (Outcome Processor (Except Fault Unit)) := do
  match ← fetch limit processor with
  | .error fault => return { state := processor, answer := .error fault, journal := [] }
  | .ok (word, fetched) => execute limit fetched word

end Sizes

end Checked

end Chip8
