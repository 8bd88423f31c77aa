import Chip8.Proofs.Processor.Stepping
import Chip8.Screen.Sprite

set_option autoImplicit false

namespace Chip8

theorem Display.toggleAll_of_frame (left right : Display) (same : left.frame = right.frame)
    (cells : List Cell) :
    (left.toggleAll cells).1.frame = (right.toggleAll cells).1.frame ∧
      (left.toggleAll cells).2 = (right.toggleAll cells).2 := by
  induction cells generalizing left right with
  | nil => exact ⟨same, rfl⟩
  | cons cell rest ih =>
    have lit : left.lit cell = right.lit cell := congrArg (Frame.lit · cell) same
    have toggled : (left.toggle cell).frame = (right.toggle cell).frame := by
      rw [toggle, toggle, lit]
      exact congrArg (Frame.put · cell (!right.lit cell)) same
    obtain ⟨frames, collisions⟩ := ih _ _ toggled
    have either : (left.lit cell || ((left.toggle cell).toggleAll rest).2) =
        (right.lit cell || ((right.toggle cell).toggleAll rest).2) := by
      rw [lit, collisions]
    exact ⟨frames, either⟩

namespace Processor

def unmarked (processor : Processor) : Processor :=
  { processor with display := processor.display.takeMark.2 }

theorem perform_unmarked (processor : Processor) (instruction : Instruction) :
    (processor.unmarked.perform instruction).2 = (processor.perform instruction).2 ∧
      (processor.unmarked.perform instruction).1.unmarked =
        (processor.perform instruction).1.unmarked := by
  cases instruction with
  | ret =>
    have calls : processor.unmarked.calls = processor.calls := rfl
    simp only [perform, goBack, calls]
    split
    next => exact ⟨rfl, rfl⟩
    next => exact ⟨rfl, rfl⟩
  | draw x y height =>
    have bytes : processor.unmarked.memory.readRange processor.unmarked.index.toNat
        (visibleRows (processor.unmarked.spriteOrigin x y) height) =
          processor.memory.readRange processor.index.toNat
            (visibleRows (processor.spriteOrigin x y) height) := rfl
    simp only [perform, draw, bytes]
    split
    next => exact ⟨rfl, rfl⟩
    next drawn _ =>
      -- The collision comes from the picture alone.
      obtain ⟨frames, collisions⟩ := processor.display.takeMark.2.toggleAll_of_frame
        processor.display rfl (Sprite.cells ⟨processor.spriteOrigin x y, drawn⟩)
      refine ⟨rfl, ?_⟩
      simp only [unmarked, Display.draw, Display.takeMark] at frames collisions ⊢
      simp only [spriteOrigin] at frames collisions ⊢
      rw [frames, collisions]
  | _ => exact ⟨rfl, rfl⟩

theorem step_unmarked (processor : Processor) :
    processor.unmarked.step.answer = processor.step.answer ∧
      processor.unmarked.step.journal = processor.step.journal ∧
        processor.unmarked.step.state.unmarked = processor.step.state.unmarked := by
  apply step_congr unmarked processor.unmarked processor rfl rfl rfl rfl rfl rfl
  intro instruction _
  exact processor.fetched.perform_unmarked instruction

theorem step_congr_unmarked {left right : Processor} (same : left.unmarked = right.unmarked) :
    left.step.answer = right.step.answer ∧ left.step.journal = right.step.journal ∧
      left.step.state.unmarked = right.step.state.unmarked := by
  obtain ⟨leftAnswer, leftJournal, leftState⟩ := left.step_unmarked
  obtain ⟨rightAnswer, rightJournal, rightState⟩ := right.step_unmarked
  rw [same] at leftAnswer leftJournal leftState
  exact ⟨leftAnswer.symm.trans rightAnswer, leftJournal.symm.trans rightJournal,
    leftState.symm.trans rightState⟩

end Processor

end Chip8
