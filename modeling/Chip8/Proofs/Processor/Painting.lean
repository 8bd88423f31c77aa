import Chip8.Proofs.Processor.Drawing
import Chip8.Proofs.Processor.Stepping

set_option autoImplicit false

namespace Chip8.Processor

/-- A bit of the sprite is set and falls on the screen. -/
def ShowsBit (processor : Processor) (x y n : Nibble) : Prop :=
  ∃ row < n.toNat, ∃ bit < 8,
    (processor.memory.byteAt (processor.index.toNat + row)).getMsbD bit = true ∧
      (processor.registers.read x).toNat % 64 + bit < 64 ∧
        (processor.registers.read y).toNat % 32 + row < 32

inductive Paints (processor : Processor) : Prop where
  | clears (executes : processor.Executes .clear)
  | draws (x y n : Nibble) (executes : processor.Executes (.draw x y n))
      (done : processor.step.answer = .ok ()) (shown : processor.ShowsBit x y n)

theorem getElem?_bytes_sprite (processor : Processor) (x y n : Nibble) (row : Nat) (byte : Byte) :
    (processor.sprite x y n).bytes[row]? = some byte ↔
      row < processor.spriteRows y n ∧
        processor.memory.byteAt (processor.index.toNat + row) = byte := by
  rw [sprite, List.getElem?_map, Option.map_eq_some_iff]
  constructor
  · rintro ⟨offset, listed, rfl⟩
    obtain ⟨inside, rfl⟩ := List.getElem?_eq_some_iff.mp listed
    rw [List.getElem_range]
    exact ⟨by simpa using inside, rfl⟩
  · rintro ⟨inside, rfl⟩
    exact ⟨row, List.getElem?_range inside, rfl⟩

theorem cells_sprite_ne_nil_iff (processor : Processor) (x y n : Nibble) :
    (processor.sprite x y n).cells ≠ [] ↔ processor.ShowsBit x y n := by
  have rows : processor.spriteRows y n =
    min n.toNat (32 - (processor.registers.read y).toNat % 32) := rfl
  constructor
  · intro shown
    obtain ⟨cell, member⟩ := List.exists_mem_of_ne_nil _ shown
    obtain ⟨row, byte, bit, listed, set, column, line⟩ := (Sprite.mem_cells _ cell).mp member
    obtain ⟨inside, rfl⟩ := (processor.getElem?_bytes_sprite x y n row byte).mp listed
    have right : cell.x.val = (processor.registers.read x).toNat % 64 + bit := column
    have below : cell.y.val = (processor.registers.read y).toNat % 32 + row := line
    have small : bit < 8 := BitVec.lt_of_getMsbD set
    exact ⟨row, by omega, bit, small, set, right ▸ cell.x.isLt, below ▸ cell.y.isLt⟩
  · rintro ⟨row, listed, bit, -, set, column, line⟩
    let cell : Cell := { x := ⟨_, column⟩, y := ⟨_, line⟩ }
    have member : cell ∈ (processor.sprite x y n).cells := by
      refine (Sprite.mem_cells _ cell).mpr ⟨row, _, bit, ?_, set, rfl, rfl⟩
      exact (processor.getElem?_bytes_sprite x y n row _).mpr ⟨by omega, rfl⟩
    exact List.ne_nil_of_mem member

theorem display_step_of_executes (processor : Processor) {instruction : Instruction}
    (executes : processor.Executes instruction) :
    processor.step.state.display =
      match instruction with
      | .clear => processor.display.clear
      | .draw x y n => (processor.fetched.draw x y n).1.display
      | _ => processor.display := by
  rw [processor.state_step_of_executes executes, display_perform]
  cases instruction <;> rfl

theorem display_draw (processor : Processor) (x y n : Nibble)
    (done : (processor.draw x y n).2 = .ok ()) :
    (processor.draw x y n).1.display =
      (processor.display.toggleAll (processor.sprite x y n).cells).1 := by
  rw [draw_of_inside processor x y n ((draw_succeeds_iff processor x y n).mp done)]
  rfl

theorem step_draw_succeeds_iff (processor : Processor) (x y n : Nibble)
    (executes : processor.Executes (.draw x y n)) :
    processor.step.answer = .ok () ↔ processor.fetched.SpriteInMemory y n := by
  rw [processor.answer_step_of_executes executes, perform, draw_succeeds_iff]

theorem written_step_of_paints (processor : Processor) (paints : processor.Paints) :
    processor.step.state.display.written = true := by
  cases paints with
  | clears executes =>
    rw [processor.display_step_of_executes executes]
    rfl
  | draws x y n executes done shown =>
    have inside := (processor.step_draw_succeeds_iff x y n executes).mp done
    have drawn := (processor.fetched.draw_succeeds_iff x y n).mpr inside
    rw [processor.display_step_of_executes executes]
    change (processor.fetched.draw x y n).1.display.written = true
    rw [display_draw _ x y n drawn, Display.written_toggleAll, cells_sprite_ne_nil_iff]
    exact .inr shown

theorem display_draw_of_not_paints (processor : Processor) (x y n : Nibble)
    (executes : processor.Executes (.draw x y n)) (idle : ¬ processor.Paints) :
    (processor.fetched.draw x y n).1.display = processor.display := by
  by_cases inside : processor.fetched.SpriteInMemory y n
  next =>
    have drawn := (processor.fetched.draw_succeeds_iff x y n).mpr inside
    have done := (processor.step_draw_succeeds_iff x y n executes).mpr inside
    -- It succeeds, so it can only have failed to paint for want of cells.
    have dark : (processor.fetched.sprite x y n).cells = [] := by
      by_contra shown
      exact idle (.draws x y n executes done
        ((processor.fetched.cells_sprite_ne_nil_iff x y n).mp shown))
    rw [display_draw _ x y n drawn, dark, Display.toggleAll]
    rfl
  next =>
    rw [draw_of_outside _ x y n inside]
    rfl

theorem display_step_of_not_paints (processor : Processor) (idle : ¬ processor.Paints) :
    processor.step.state.display = processor.display := by
  rcases processor.executes_or_idle with ⟨instruction, executes⟩ | still | moved
  · have after := processor.display_step_of_executes executes
    cases instruction with
    | clear => exact absurd (.clears executes) idle
    | draw x y n => exact after.trans (processor.display_draw_of_not_paints x y n executes idle)
    | _ => exact after
  · rw [still]
  · rw [moved]
    rfl

end Chip8.Processor
