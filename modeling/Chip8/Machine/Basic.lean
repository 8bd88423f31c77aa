import Chip8.Memory.Program
import Chip8.Processor.Cycle
import Chip8.Random.Source
import Chip8.Timer.Clock

set_option autoImplicit false

namespace Chip8

structure Machine where
  processor : Processor
  settings : Settings
  clocks : List Clock := []
  -- Clocks that were stopped stay here, so that all that were ever started can be counted.
  stopped : List Clock := []
  rests : ∀ clock ∈ stopped, clock.status = .stopped := by exact List.forall_mem_nil _

namespace Machine

def fresh (settings : Settings) (entropy : Entropy) : Machine :=
  { processor := .fresh settings.unknownWords (entropy.source settings.seed)
    settings := settings }

def load (machine : Machine) (stream : Stream) : Outcome Machine (Except LoadError Nat) :=
  let outcome := machine.processor.memory.loadStream stream
  { state := { machine with processor := { machine.processor with memory := outcome.state } }
    answer := outcome.answer
    journal := outcome.journal }

def step (machine : Machine) : Outcome Machine (Except Fault Unit) :=
  let outcome := machine.processor.step
  { state := { machine with processor := outcome.state }
    answer := outcome.answer
    journal := outcome.journal }

def takeFrame (machine : Machine) : Option Frame × Machine :=
  let (written, display) := machine.processor.display.takeMark
  (if written then some display.frame else none,
    { machine with processor := { machine.processor with display := display } })

def setTimers (machine : Machine) (timers : Timers) : Machine :=
  { machine with processor := { machine.processor with timers := timers } }

def tick (machine : Machine) : Machine × Bool :=
  let (timers, beep) := machine.processor.timers.tickBoth
  (machine.setTimers timers, beep)

end Machine

end Chip8
