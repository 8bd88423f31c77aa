import Chip8.Processor.Cycle
import Chip8.Proofs.Memory.Reading

set_option autoImplicit false

namespace Chip8.Processor

def fetched (processor : Processor) : Processor :=
  { processor with counter := processor.counter + BitVec.ofNat 16 wordSize }

def wordAtCounter (processor : Processor) : Word :=
  processor.memory.wordAt processor.counter.toNat

def entry (processor : Processor) (word : Word) : Event :=
  .executing word processor.registers processor.index processor.counter

theorem fetch_eq (processor : Processor) :
    processor.fetch =
      if processor.counter.toNat + 1 < memorySize then
        .ok (processor.wordAtCounter, processor.fetched)
      else .error (.outOfBounds (max processor.counter.toNat memorySize)) := by
  rw [fetch, Memory.readWord_eq]
  split
  next => rfl
  next => rfl

theorem execute_of_decode (processor : Processor) {word : Word} {instruction : Instruction}
    (decoded : Instruction.decode word = some instruction) :
    processor.execute word =
      { state := (processor.perform instruction).1
        answer := (processor.perform instruction).2
        journal := [processor.entry word] } := by
  simp only [execute, decoded]
  rfl

theorem execute_of_skip (processor : Processor) {word : Word}
    (unknown : Instruction.decode word = none) (policy : processor.unknownWords = .skip) :
    processor.execute word =
      { state := processor
        answer := .ok ()
        journal := [processor.entry word, .skipped word processor.counter] } := by
  simp only [execute, unknown, policy]
  rfl

theorem execute_of_fail (processor : Processor) {word : Word}
    (unknown : Instruction.decode word = none) (policy : processor.unknownWords = .fail) :
    processor.execute word =
      { state := processor
        answer := .error (.unknownWord word)
        journal := [processor.entry word] } := by
  simp only [execute, unknown, policy]
  rfl

theorem step_of_lt (processor : Processor) (inside : processor.counter.toNat + 1 < memorySize) :
    processor.step = processor.fetched.execute processor.wordAtCounter := by
  rw [step, fetch_eq, if_pos inside]

theorem step_of_le (processor : Processor) (outside : memorySize ≤ processor.counter.toNat + 1) :
    processor.step =
      { state := processor
        answer := .error (.outOfBounds (max processor.counter.toNat memorySize))
        journal := [] } := by
  rw [step, fetch_eq, if_neg (Nat.not_lt.mpr outside)]

theorem toNat_counter_fetched (processor : Processor)
    (inside : processor.counter.toNat + 1 < memorySize) :
    processor.fetched.counter.toNat = processor.counter.toNat + wordSize := by
  have small : processor.counter.toNat + 2 < 2 ^ 16 :=
    Nat.lt_trans (Nat.add_lt_add_right inside 1) (by decide)
  exact (BitVec.toNat_add _ _).trans (Nat.mod_eq_of_lt small)

end Chip8.Processor
