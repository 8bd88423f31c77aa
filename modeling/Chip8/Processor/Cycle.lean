import Chip8.Instruction.Coding
import Chip8.Processor.Semantics

set_option autoImplicit false

namespace Chip8

structure Progress where
  done : Nat
  fault : Option Fault
  deriving DecidableEq, Repr

namespace Processor

def fetch (processor : Processor) : Except Fault (Word × Processor) := do
  let word ← processor.memory.readWord processor.counter.toNat
  return (word, { processor with counter := processor.counter + BitVec.ofNat 16 wordSize })

def execute (processor : Processor) (word : Word) : Outcome Processor (Except Fault Unit) :=
  let entry :=
    Event.executing word processor.registers processor.index processor.counter
  match Instruction.decode word with
  | some instruction =>
      -- A fault undoes nothing of what the instruction had done by then.
      let (after, answer) := processor.perform instruction
      { state := after, answer := answer, journal := [entry] }
  | none =>
      match processor.unknownWords with
      | .skip =>
          { state := processor
            answer := .ok ()
            journal := [entry, .skipped word processor.counter] }
      | .fail =>
          { state := processor, answer := .error (.unknownWord word), journal := [entry] }

def step (processor : Processor) : Outcome Processor (Except Fault Unit) :=
  match processor.fetch with
  | .error fault => { state := processor, answer := .error fault, journal := [] }
  | .ok (word, fetched) => fetched.execute word

def follow (processor : Processor) :
    List (Processor → Outcome Processor (Except Fault Unit)) → Outcome Processor Progress
  | [] => { state := processor, answer := { done := 0, fault := none }, journal := [] }
  | move :: moves =>
      let first := move processor
      match first.answer with
      | .error fault =>
          { state := first.state
            answer := { done := 0, fault := some fault }
            journal := first.journal }
      | .ok _ =>
          let rest := first.state.follow moves
          { state := rest.state
            answer := { done := rest.answer.done + 1, fault := rest.answer.fault }
            journal := first.journal ++ rest.journal }

def steps (processor : Processor) (count : Nat) : Outcome Processor Progress :=
  processor.follow (List.replicate count step)

def executeAll (processor : Processor) (words : List Word) : Outcome Processor Progress :=
  processor.follow (words.map fun word processor => processor.execute word)

end Processor

end Chip8
