import Chip8.Registers
import Chip8.Text.Duration
import Chip8.Text.Hex
import Chip8.Timer.Basic

set_option autoImplicit false

namespace Chip8

inductive Level where
  | error
  | warn
  | info
  | debug
  | trace
  deriving DecidableEq, Repr

namespace Level

def rank : Level → Nat
  | error => 1
  | warn => 2
  | info => 3
  | debug => 4
  | trace => 5

def name : Level → String
  | error => "ERROR"
  | warn => "WARN"
  | info => "INFO"
  | debug => "DEBUG"
  | trace => "TRACE"

end Level

inductive Event where
  -- The state is the one before the word is executed, with the counter behind the word.
  | executing (word : Word) (registers : Registers) (index counter : Word)
  | skipped (word counter : Word)
  | programLoaded (size : Nat)
  | fileLoaded (path : String) (size : Nat)
  | timersOff
  | clockStarted (role : TimerRole) (period : Nat)
  | clockStopped (role : TimerRole)
  | clockBroken (role : TimerRole)
  | failed (reason : String)
  deriving DecidableEq

namespace Event

def level : Event → Level
  | executing .. => .trace
  | skipped .. => .warn
  | programLoaded .. => .info
  | fileLoaded .. => .info
  | timersOff => .debug
  | clockStarted .. => .debug
  | clockStopped .. => .debug
  | clockBroken .. => .error
  | failed .. => .error

def target : Event → String
  | executing .. => "chip8_vm::cpu"
  | skipped .. => "chip8_vm::cpu"
  | programLoaded .. => "chip8_vm::memory"
  | fileLoaded .. => "chip8::run"
  | timersOff => "chip8_vm::chip8"
  | clockStarted .. => "chip8_vm::timer"
  | clockStopped .. => "chip8_vm::timer"
  | clockBroken .. => "chip8_vm::timer"
  | failed .. => "chip8"

-- Clocks tell of their start and end themselves, all else is told by the caller.
def byClock : Event → Bool
  | clockStarted .. => true
  | clockStopped .. => true
  | _ => false

def registersText (registers : Registers) : String :=
  "[" ++ ", ".intercalate (registers.toList.map fun value => Text.hex 2 value.toNat) ++ "]"

def text : Event → String
  | executing word registers index counter =>
      Text.hex 4 word.toNat ++ " v" ++ registersText registers ++
        " i" ++ Text.hex 4 index.toNat ++ " pc" ++ Text.hex 4 counter.toNat
  | skipped word counter =>
      "Skipping unknown opcode " ++ Text.hex 4 word.toNat ++ " at " ++ Text.hex 4 counter.toNat
  | programLoaded size => s!"Loaded program [size: {size}]"
  | fileLoaded path size => s!"Loaded ROM {path} [size: {size}]"
  | timersOff => "Timer frequency is 0, timers stay off"
  | clockStarted role period =>
      "Started " ++ role.name ++ " timer [period: " ++ Text.duration period ++ "]"
  | clockStopped role => "Stopped " ++ role.name ++ " timer"
  | clockBroken role => "The " ++ role.name ++ " timer thread panicked"
  | failed reason => reason

def line (event : Event) : String := event.level.name ++ " " ++ event.text

def paragraph (event : Event) : String := "\n    ".intercalate (event.text.splitOn "\n")

def record (time : String) (event : Event) : String :=
  let level := String.ofList (event.level.name.toList.rightpad 5 ' ')
  "[" ++ time ++ " " ++ level ++ " " ++ event.target ++ "] " ++
    event.paragraph

end Event

/-- What an operation leaves: a state, its answer, and the events it caused in order. -/
structure Outcome (State Answer : Type) where
  state : State
  answer : Answer
  journal : List Event

end Chip8
