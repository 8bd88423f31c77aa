import Chip8.Proofs.Memory.Loading
import Chip8.Proofs.Processor.Execution

set_option autoImplicit false

namespace Chip8.Processor

/-- The counter stands at a whole word, and that word has this instruction. -/
def Executes (processor : Processor) (instruction : Instruction) : Prop :=
  processor.counter.toNat + 1 < memorySize ∧
    Instruction.decode processor.wordAtCounter = some instruction

theorem step_of_executes (processor : Processor) {instruction : Instruction}
    (executes : processor.Executes instruction) :
    processor.step =
      { state := (processor.fetched.perform instruction).1
        answer := (processor.fetched.perform instruction).2
        journal := [processor.fetched.entry processor.wordAtCounter] } := by
  rw [processor.step_of_lt executes.1, processor.fetched.execute_of_decode executes.2]

theorem answer_step_of_executes (processor : Processor) {instruction : Instruction}
    (executes : processor.Executes instruction) :
    processor.step.answer = (processor.fetched.perform instruction).2 := by
  rw [processor.step_of_executes executes]

theorem state_step_of_executes (processor : Processor) {instruction : Instruction}
    (executes : processor.Executes instruction) :
    processor.step.state = (processor.fetched.perform instruction).1 := by
  rw [processor.step_of_executes executes]

theorem goBack_of_nil (processor : Processor) (empty : processor.calls = []) :
    processor.goBack = (processor, .error .emptyCallStack) := by
  simp only [goBack, empty]

theorem goBack_of_cons (processor : Processor) (back : Word) (earlier : List Word)
    (pending : processor.calls = back :: earlier) :
    processor.goBack = ({ processor with counter := back, calls := earlier }, .ok ()) := by
  simp only [goBack, pending]

theorem answer_step_of_ret_nil (processor : Processor) (executes : processor.Executes .ret)
    (empty : processor.calls = []) : processor.step.answer = .error .emptyCallStack := by
  rw [processor.answer_step_of_executes executes, perform, processor.fetched.goBack_of_nil empty]

theorem step_of_ret_cons (processor : Processor) (executes : processor.Executes .ret)
    (back : Word) (earlier : List Word) (pending : processor.calls = back :: earlier) :
    processor.step.answer = .ok () ∧ processor.step.state.counter = back := by
  rw [processor.answer_step_of_executes executes, processor.state_step_of_executes executes,
    perform, processor.fetched.goBack_of_cons back earlier pending]
  exact ⟨rfl, rfl⟩

def FindsNone (processor : Processor) : Prop :=
  processor.counter.toNat + 1 < memorySize ∧ Instruction.decode processor.wordAtCounter = none

theorem Executes.not_findsNone {processor : Processor} {instruction : Instruction}
    (executes : processor.Executes instruction) : ¬ processor.FindsNone := by
  rintro ⟨-, missing⟩
  rw [executes.2] at missing
  cases missing

theorem step_of_skip (processor : Processor) (unknown : processor.FindsNone)
    (policy : processor.unknownWords = .skip) :
    processor.step =
      { state := processor.fetched
        answer := .ok ()
        journal := [processor.fetched.entry processor.wordAtCounter,
          .skipped processor.wordAtCounter processor.fetched.counter] } := by
  rw [processor.step_of_lt unknown.1, processor.fetched.execute_of_skip unknown.2 policy]

theorem step_of_fail (processor : Processor) (unknown : processor.FindsNone)
    (policy : processor.unknownWords = .fail) :
    processor.step =
      { state := processor.fetched
        answer := .error (.unknownWord processor.wordAtCounter)
        journal := [processor.fetched.entry processor.wordAtCounter] } := by
  rw [processor.step_of_lt unknown.1, processor.fetched.execute_of_fail unknown.2 policy]

theorem state_step_of_findsNone (processor : Processor) (unknown : processor.FindsNone) :
    processor.step.state = processor.fetched := by
  cases policy : processor.unknownWords with
  | skip => rw [processor.step_of_skip unknown policy]
  | fail => rw [processor.step_of_fail unknown policy]

section Image

variable (processor : Processor) {program : List Byte} (offset : Nat)
  (memory : processor.memory = .image program)
  (counter : processor.counter.toNat = programStart + offset)
  (inside : offset + 1 < programRoom)
include memory counter inside

theorem wordAtCounter_of_image :
    processor.wordAtCounter =
      Word.ofBytes (program.getD offset 0) (program.getD (offset + 1) 0) := by
  have whole : programStart + offset + 1 < memorySize := Nat.add_lt_add_left inside programStart
  rw [wordAtCounter, memory, counter, Memory.wordAt_program program offset whole]

theorem executes_of_image {instruction : Instruction}
    (decoded : Instruction.decode
      (Word.ofBytes (program.getD offset 0) (program.getD (offset + 1) 0)) = some instruction) :
    processor.Executes instruction := by
  refine ⟨?_, ?_⟩
  · rw [counter]
    exact Nat.add_lt_add_left inside programStart
  · rw [processor.wordAtCounter_of_image offset memory counter inside, decoded]

theorem findsNone_of_image
    (unknown : Instruction.decode
      (Word.ofBytes (program.getD offset 0) (program.getD (offset + 1) 0)) = none) :
    processor.FindsNone := by
  refine ⟨?_, ?_⟩
  · rw [counter]
    exact Nat.add_lt_add_left inside programStart
  · rw [processor.wordAtCounter_of_image offset memory counter inside, unknown]

end Image

inductive Meets (processor : Processor) : Prop where
  | instruction (instruction : Instruction) (executes : processor.Executes instruction)
  | unknownWord (unknown : processor.FindsNone)
  | noWord (outside : memorySize ≤ processor.counter.toNat + 1)

theorem meets (processor : Processor) : processor.Meets := by
  by_cases inside : processor.counter.toNat + 1 < memorySize
  next =>
    cases decoded : Instruction.decode processor.wordAtCounter with
    | some instruction => exact .instruction instruction ⟨inside, decoded⟩
    | none => exact .unknownWord ⟨inside, decoded⟩
  next => exact .noWord (Nat.not_lt.mp inside)

theorem entry_or_skipped_of_mem_step (processor : Processor) :
    ∀ event ∈ processor.step.journal,
      event = processor.fetched.entry processor.wordAtCounter ∨
        event = .skipped processor.wordAtCounter processor.fetched.counter := by
  cases processor.meets with
  | instruction instruction executes =>
    rw [processor.step_of_executes executes]
    exact List.forall_mem_singleton.mpr (.inl rfl)
  | unknownWord unknown =>
    cases policy : processor.unknownWords with
    | skip =>
      rw [processor.step_of_skip unknown policy]
      refine List.forall_mem_cons.mpr ⟨.inl rfl, ?_⟩
      exact List.forall_mem_singleton.mpr (.inr rfl)
    | fail =>
      rw [processor.step_of_fail unknown policy]
      exact List.forall_mem_singleton.mpr (.inl rfl)
  | noWord outside =>
    rw [processor.step_of_le outside]
    exact List.forall_mem_nil _

/-- Where two processors are alike up to some view, and instructions leave them so, steps do too. -/
theorem step_congr {View : Type} (view : Processor → View) (left right : Processor)
    (counter : left.counter = right.counter)
    (word : left.wordAtCounter = right.wordAtCounter)
    (entry : left.fetched.entry = right.fetched.entry)
    (policy : left.unknownWords = right.unknownWords)
    (still : view left = view right) (moved : view left.fetched = view right.fetched)
    (performed : ∀ instruction, right.Executes instruction →
      (left.fetched.perform instruction).2 = (right.fetched.perform instruction).2 ∧
        view (left.fetched.perform instruction).1 = view (right.fetched.perform instruction).1) :
    left.step.answer = right.step.answer ∧ left.step.journal = right.step.journal ∧
      view left.step.state = view right.step.state := by
  have behind : left.fetched.counter = right.fetched.counter := by
    simp only [fetched, counter]
  cases right.meets with
  | instruction instruction executes =>
    have same : left.Executes instruction := by
      rw [Executes, counter, word]
      exact executes
    obtain ⟨answers, states⟩ := performed instruction executes
    rw [left.step_of_executes same, right.step_of_executes executes, word, entry]
    exact ⟨answers, rfl, states⟩
  | unknownWord unknown =>
    have same : left.FindsNone := by
      rw [FindsNone, counter, word]
      exact unknown
    cases known : right.unknownWords with
    | skip =>
      rw [left.step_of_skip same (policy.trans known), right.step_of_skip unknown known, word,
        entry, behind]
      exact ⟨rfl, rfl, moved⟩
    | fail =>
      rw [left.step_of_fail same (policy.trans known), right.step_of_fail unknown known, word,
        entry]
      exact ⟨rfl, rfl, moved⟩
  | noWord outside =>
    have same : memorySize ≤ left.counter.toNat + 1 := by rwa [counter]
    rw [left.step_of_le same, right.step_of_le outside, counter]
    exact ⟨rfl, rfl, still⟩

def instruction? (processor : Processor) : Option Instruction :=
  if processor.counter.toNat + 1 < memorySize then Instruction.decode processor.wordAtCounter
  else none

theorem instruction?_of_executes (processor : Processor) {instruction : Instruction}
    (executes : processor.Executes instruction) : processor.instruction? = some instruction := by
  rw [instruction?, if_pos executes.1, executes.2]

theorem instruction?_of_findsNone (processor : Processor) (unknown : processor.FindsNone) :
    processor.instruction? = none := by
  rw [instruction?, if_pos unknown.1, unknown.2]

theorem instruction?_of_le (processor : Processor)
    (outside : memorySize ≤ processor.counter.toNat + 1) : processor.instruction? = none :=
  if_neg (Nat.not_lt.mpr outside)

theorem part_step {Part : Type} (part : Processor → Part)
    (stays : ∀ processor : Processor, part processor.fetched = part processor)
    (processor : Processor) :
    part processor.step.state =
      match processor.instruction? with
      | some instruction => part (processor.fetched.perform instruction).1
      | none => part processor := by
  cases processor.meets with
  | instruction instruction executes =>
    rw [processor.state_step_of_executes executes, processor.instruction?_of_executes executes]
  | unknownWord unknown =>
    rw [processor.state_step_of_findsNone unknown, processor.instruction?_of_findsNone unknown]
    exact stays processor
  | noWord outside =>
    rw [processor.step_of_le outside, processor.instruction?_of_le outside]

theorem executes_or_idle (processor : Processor) :
    (∃ instruction, processor.Executes instruction) ∨
      processor.step.state = processor ∨ processor.step.state = processor.fetched := by
  cases processor.meets with
  | instruction instruction executes => exact .inl ⟨instruction, executes⟩
  | unknownWord unknown => exact .inr (.inr (processor.state_step_of_findsNone unknown))
  | noWord outside =>
    refine .inr (.inl ?_)
    rw [processor.step_of_le outside]

theorem draw_rest (processor : Processor) (x y height : Nibble) :
    (processor.draw x y height).1 =
      { processor with
        registers := (processor.draw x y height).1.registers
        display := (processor.draw x y height).1.display } := by
  rw [draw]
  split
  next => rfl
  next => rfl

theorem perform_rest (processor : Processor) (instruction : Instruction) :
    (processor.perform instruction).1 =
      { registers := (processor.perform instruction).1.registers
        index :=
          match instruction with
          | .point target => target.setWidth 16
          | _ => processor.index
        counter :=
          match instruction with
          | .jump target => target.setWidth 16
          | .call target => target.setWidth 16
          | .jumpBeyond target => target.setWidth 16 + (processor.registers.read 0).setWidth 16
          | .ret => processor.calls.headD processor.counter
          | _ => processor.counter
        calls :=
          match instruction with
          | .call _ => processor.counter :: processor.calls
          | .ret => processor.calls.tail
          | _ => processor.calls
        memory := processor.memory
        display :=
          match instruction with
          | .clear => processor.display.clear
          | .draw x y height => (processor.draw x y height).1.display
          | _ => processor.display
        timers :=
          match instruction with
          | .setDelay x => processor.timers.set .delay (processor.registers.read x)
          | .setSound x => processor.timers.set .sound (processor.registers.read x)
          | _ => processor.timers
        random :=
          match instruction with
          | .random _ _ => processor.random.next.2
          | _ => processor.random
        unknownWords := processor.unknownWords } := by
  cases instruction with
  | ret =>
    simp only [perform, goBack]
    split
    next empty =>
      simp only [empty, List.headD_nil, List.tail_nil]
      rw [← empty]
    next pending => simp [pending]
  | draw x y height =>
    simp only [perform]
    exact processor.draw_rest x y height
  | _ => rfl

theorem memory_perform (processor : Processor) (instruction : Instruction) :
    (processor.perform instruction).1.memory = processor.memory := by
  rw [perform_rest]

theorem calls_perform (processor : Processor) (instruction : Instruction) :
    (processor.perform instruction).1.calls =
      match instruction with
      | .call _ => processor.counter :: processor.calls
      | .ret => processor.calls.tail
      | _ => processor.calls := by
  rw [perform_rest]

theorem index_perform (processor : Processor) (instruction : Instruction) :
    (processor.perform instruction).1.index =
      match instruction with
      | .point target => target.setWidth 16
      | _ => processor.index := by
  rw [perform_rest]

theorem counter_perform (processor : Processor) (instruction : Instruction) :
    (processor.perform instruction).1.counter =
      match instruction with
      | .jump target => target.setWidth 16
      | .call target => target.setWidth 16
      | .jumpBeyond target => target.setWidth 16 + (processor.registers.read 0).setWidth 16
      | .ret => processor.calls.headD processor.counter
      | _ => processor.counter := by
  rw [perform_rest]

theorem timers_perform (processor : Processor) (instruction : Instruction) :
    (processor.perform instruction).1.timers =
      match instruction with
      | .setDelay x => processor.timers.set .delay (processor.registers.read x)
      | .setSound x => processor.timers.set .sound (processor.registers.read x)
      | _ => processor.timers := by
  rw [perform_rest]

theorem random_perform (processor : Processor) (instruction : Instruction) :
    (processor.perform instruction).1.random =
      match instruction with
      | .random _ _ => processor.random.next.2
      | _ => processor.random := by
  rw [perform_rest]

theorem unknownWords_perform (processor : Processor) (instruction : Instruction) :
    (processor.perform instruction).1.unknownWords = processor.unknownWords := by
  rw [perform_rest]

theorem display_perform (processor : Processor) (instruction : Instruction) :
    (processor.perform instruction).1.display =
      match instruction with
      | .clear => processor.display.clear
      | .draw x y height => (processor.draw x y height).1.display
      | _ => processor.display := by
  rw [perform_rest]

theorem memory_execute (processor : Processor) (word : Word) :
    (processor.execute word).state.memory = processor.memory := by
  cases decoded : Instruction.decode word with
  | some instruction =>
    rw [processor.execute_of_decode decoded]
    exact processor.memory_perform instruction
  | none =>
    cases policy : processor.unknownWords with
    | skip => rw [processor.execute_of_skip decoded policy]
    | fail => rw [processor.execute_of_fail decoded policy]

theorem memory_step (processor : Processor) : processor.step.state.memory = processor.memory := by
  rw [processor.part_step memory fun _ => rfl]
  cases processor.instruction? with
  | none => rfl
  | some instruction => exact processor.fetched.memory_perform instruction

theorem unknownWords_step (processor : Processor) :
    processor.step.state.unknownWords = processor.unknownWords := by
  rw [processor.part_step unknownWords fun _ => rfl]
  cases processor.instruction? with
  | none => rfl
  | some instruction => exact processor.fetched.unknownWords_perform instruction

end Chip8.Processor
