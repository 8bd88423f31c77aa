import Chip8.Proofs.Processor.Stepping

set_option autoImplicit false

namespace Chip8.Processor

def untimed (processor : Processor) : Processor := { processor with timers := .fresh }

theorem eq_of_untimed {left right : Processor} (same : left.untimed = right.untimed) :
    left = { right with timers := left.timers } :=
  congrArg (fun processor : Processor => { processor with timers := left.timers }) same

theorem perform_untimed (processor : Processor) (instruction : Instruction)
    (blind : ∀ x, instruction ≠ .readDelay x) :
    (processor.untimed.perform instruction).2 = (processor.perform instruction).2 ∧
      (processor.untimed.perform instruction).1.untimed =
        (processor.perform instruction).1.untimed := by
  cases instruction with
  | readDelay x => exact absurd rfl (blind x)
  | ret =>
    have calls : processor.untimed.calls = processor.calls := rfl
    simp only [perform, goBack, calls]
    split
    next => exact ⟨rfl, rfl⟩
    next => exact ⟨rfl, rfl⟩
  | draw x y height =>
    have bytes : processor.untimed.memory.readRange processor.untimed.index.toNat
        (visibleRows (processor.untimed.spriteOrigin x y) height) =
          processor.memory.readRange processor.index.toNat
            (visibleRows (processor.spriteOrigin x y) height) := rfl
    simp only [perform, draw, bytes]
    split
    next => exact ⟨rfl, rfl⟩
    next => exact ⟨rfl, rfl⟩
  | _ => exact ⟨rfl, rfl⟩

theorem step_untimed (processor : Processor)
    (blind : ∀ x, ¬ processor.Executes (.readDelay x)) :
    processor.untimed.step.answer = processor.step.answer ∧
      processor.untimed.step.journal = processor.step.journal ∧
        processor.untimed.step.state.untimed = processor.step.state.untimed := by
  apply step_congr untimed processor.untimed processor rfl rfl rfl rfl rfl rfl
  intro instruction executes
  apply processor.fetched.perform_untimed instruction
  rintro x rfl
  exact blind x executes

theorem step_congr_untimed {left right : Processor} (same : left.untimed = right.untimed)
    (blind : ∀ x, ¬ left.Executes (.readDelay x)) :
    left.step.answer = right.step.answer ∧ left.step.journal = right.step.journal ∧
      left.step.state.untimed = right.step.state.untimed := by
  have blindly (x : Nibble) : ¬ right.Executes (.readDelay x) := by
    intro executes
    have reads : right.untimed.Executes (.readDelay x) := executes
    rw [← same] at reads
    exact blind x reads
  obtain ⟨leftAnswer, leftJournal, leftState⟩ := left.step_untimed blind
  obtain ⟨rightAnswer, rightJournal, rightState⟩ := right.step_untimed blindly
  rw [same] at leftAnswer leftJournal leftState
  exact ⟨leftAnswer.symm.trans rightAnswer, leftJournal.symm.trans rightJournal,
    leftState.symm.trans rightState⟩

end Chip8.Processor
