import Chip8.Proofs.Processor.Execution
import Chip8.Proofs.Screen.Sprites

set_option autoImplicit false

namespace Chip8

theorem Sprite.rowMask_zero (column : Nat) : rowMask 0 column = 0 := by
  apply BitVec.eq_of_getMsbD_eq
  intro x inside
  rw [getMsbD_rowMask 0 column ⟨x, inside⟩]
  simp

namespace Processor

def spriteTop (processor : Processor) (y : Nibble) : Nat :=
  (processor.registers.read y).toNat % screenHeight

def spriteRows (processor : Processor) (y height : Nibble) : Nat :=
  min height.toNat (screenHeight - processor.spriteTop y)

def spriteMask (processor : Processor) (x : Nibble) (row : Nat) : BitVec screenWidth :=
  Sprite.rowMask (processor.memory.byteAt (processor.index.toNat + row))
    ((processor.registers.read x).toNat % screenWidth)

def sprite (processor : Processor) (x y height : Nibble) : Sprite :=
  { origin := processor.spriteOrigin x y
    bytes := (List.range (processor.spriteRows y height)).map fun row =>
      processor.memory.byteAt (processor.index.toNat + row) }

def SpriteInMemory (processor : Processor) (y height : Nibble) : Prop :=
  processor.spriteRows y height = 0 ∨
    processor.index.toNat + processor.spriteRows y height ≤ memorySize

theorem draw_of_inside (processor : Processor) (x y height : Nibble)
    (inside : processor.SpriteInMemory y height) :
    processor.draw x y height =
      ({ processor with
          display := (processor.display.draw (processor.sprite x y height)).1
          registers := processor.registers.write Registers.flag
            (flagByte (processor.display.draw (processor.sprite x y height)).2) },
        .ok ()) := by
  have bytes : processor.memory.readRange processor.index.toNat
      (visibleRows (processor.spriteOrigin x y) height) =
        .ok (processor.sprite x y height).bytes := by
    rw [Memory.readRange_eq]
    exact if_pos inside
  simp only [draw, bytes]
  rfl

theorem draw_of_outside (processor : Processor) (x y height : Nibble)
    (outside : ¬ processor.SpriteInMemory y height) :
    processor.draw x y height =
      (processor, .error (.outOfBounds (max processor.index.toNat memorySize))) := by
  have fault : processor.memory.readRange processor.index.toNat
      (visibleRows (processor.spriteOrigin x y) height) =
        .error (.outOfBounds (max processor.index.toNat memorySize)) := by
    rw [Memory.readRange_eq]
    exact if_neg outside
  simp only [draw, fault]

theorem draw_succeeds_iff (processor : Processor) (x y height : Nibble) :
    (processor.draw x y height).2 = .ok () ↔ processor.SpriteInMemory y height := by
  by_cases inside : processor.SpriteInMemory y height
  next => simp [draw_of_inside processor x y height inside, inside]
  next => simp [draw_of_outside processor x y height inside, inside]

theorem spriteTop_add_spriteRows_le (processor : Processor) (y height : Nibble) :
    processor.spriteTop y + processor.spriteRows y height ≤ screenHeight := by
  have top : processor.spriteTop y < screenHeight := Nat.mod_lt _ (by decide)
  have rows : processor.spriteRows y height ≤ screenHeight - processor.spriteTop y :=
    Nat.min_le_right _ _
  omega

theorem getD_bytes_sprite (processor : Processor) (x y height : Nibble) (row : Nat) :
    (processor.sprite x y height).bytes.getD row 0 =
      if row < processor.spriteRows y height then
        processor.memory.byteAt (processor.index.toNat + row)
      else 0 := by
  rw [sprite, List.getD_eq_getElem?_getD, List.getElem?_map]
  split
  next listed =>
    rw [List.getElem?_range listed]
    rfl
  next unlisted =>
    rw [List.getElem?_eq_none (by simpa using unlisted)]
    rfl

theorem mask_sprite (processor : Processor) (x y height : Nibble) (row : Fin screenHeight) :
    (processor.sprite x y height).mask row =
      if processor.spriteTop y ≤ row ∧
          row < processor.spriteTop y + processor.spriteRows y height then
        processor.spriteMask x (row - processor.spriteTop y)
      else 0 := by
  have top : (processor.sprite x y height).origin.y.val = processor.spriteTop y := rfl
  have column : (processor.sprite x y height).origin.x.val =
      (processor.registers.read x).toNat % screenWidth := rfl
  simp only [Sprite.mask, top, column, getD_bytes_sprite]
  by_cases below : processor.spriteTop y ≤ row
  next =>
    by_cases above : row < processor.spriteTop y + processor.spriteRows y height
    next =>
      have listed : row - processor.spriteTop y < processor.spriteRows y height := by omega
      rw [if_pos below, if_pos listed, if_pos ⟨below, above⟩, spriteMask]
    next =>
      have unlisted : ¬ row - processor.spriteTop y < processor.spriteRows y height := by omega
      rw [if_pos below, if_neg unlisted, if_neg (fun both => above both.2), Sprite.rowMask_zero]
  next => rw [if_neg below, if_neg (fun both => below both.1)]

/--
The state after some rows were toggled by masks, from the top row on: the picture,
the collision in the flag, the mark that the picture was written, and no more.
-/
structure TogglesRows (before after : Processor) (top rows : Nat)
    (mask : Nat → BitVec screenWidth) : Prop where
  toggled : ∀ row : Fin screenHeight, top ≤ row → row < top + rows →
    after.display.frame.row row = before.display.frame.row row ^^^ mask (row - top)
  kept : ∀ row : Fin screenHeight, ¬ (top ≤ row ∧ row < top + rows) →
    after.display.frame.row row = before.display.frame.row row
  flag : after.registers.read Registers.flag =
    if ∃ row : Fin screenHeight, (top ≤ row ∧ row < top + rows) ∧
      before.display.frame.row row &&& mask (row - top) ≠ 0 then 1 else 0
  written : after.display.written = true ↔
    before.display.written = true ∨ ∃ offset < rows, mask offset ≠ 0
  registers : ∀ z, z ≠ Registers.flag → after.registers.read z = before.registers.read z
  rest : after = { before with registers := after.registers, display := after.display }

theorem draw_togglesRows (processor : Processor) (x y height : Nibble)
    (inside : processor.SpriteInMemory y height) :
    processor.TogglesRows (processor.draw x y height).1 (processor.spriteTop y)
      (processor.spriteRows y height) (processor.spriteMask x) := by
  rw [draw_of_inside processor x y height inside]
  have masks := processor.mask_sprite x y height
  constructor
  · intro row below above
    rw [Display.row_draw, masks, if_pos ⟨below, above⟩]
  · intro row elsewhere
    rw [Display.row_draw, masks, if_neg elsewhere]
    exact BitVec.xor_zero
  · rw [Registers.read_write_self, flagByte]
    refine if_congr ?_ rfl rfl
    rw [Display.collision_draw]
    refine exists_congr fun row => ?_
    rw [masks]
    split
    next covered => simp [covered]
    next elsewhere => simp [elsewhere]
  · rw [Display.written_draw]
    refine or_congr_right ?_
    constructor
    · intro found
      obtain ⟨row, shown⟩ := found
      rw [masks] at shown
      split at shown
      next covered => exact ⟨row - processor.spriteTop y, by omega, shown⟩
      next => exact absurd rfl shown
    · intro found
      obtain ⟨offset, listed, shown⟩ := found
      have bottom := processor.spriteTop_add_spriteRows_le y height
      refine ⟨⟨processor.spriteTop y + offset, by omega⟩, ?_⟩
      rw [masks, if_pos ⟨by simp, by simpa using listed⟩]
      simpa using shown
  · intro z different
    rw [Registers.read_write, if_neg (Ne.symm different)]
  · rfl

/--
Drawing at `Vx` and `Vy`, wrapped around the screen, toggles as many rows as fit
above the bottom edge, each by its byte, and fails only if such a byte is missing.
-/
theorem execute_draw_rows (processor : Processor) (x y n : Nibble) :
    let x0 := (processor.registers.read x).toNat % screenWidth
    let y0 := (processor.registers.read y).toNat % screenHeight
    let rows := min n.toNat (screenHeight - y0)
    let outcome := processor.execute (Word.ofNibbles 0xD x y n)
    (outcome.answer = .ok () ↔ ∀ r < rows, processor.index.toNat + r < memorySize) ∧
      (outcome.answer = .ok () →
        processor.TogglesRows outcome.state y0 rows fun r =>
          Sprite.rowMask (processor.memory.byteAt (processor.index.toNat + r)) x0) := by
  intro x0 y0 rows outcome
  have decoded := Instruction.decode_encode (.draw x y n)
  have executed : outcome = _ := processor.execute_of_decode decoded
  rw [executed]
  constructor
  · refine (processor.draw_succeeds_iff x y n).trans ?_
    change rows = 0 ∨ processor.index.toNat + rows ≤ memorySize ↔ _
    constructor
    · intro inside r listed
      omega
    · intro each
      by_cases empty : rows = 0
      next => exact .inl empty
      next =>
        have last := each (rows - 1) (by omega)
        exact .inr (by omega)
  · intro drawn
    exact processor.draw_togglesRows x y n ((processor.draw_succeeds_iff x y n).mp drawn)

theorem execute_draw_rows_corner :
    let processor : Processor :=
      { Processor.fresh .skip (Random.cycle 0 []) with
        index := 0x50
        registers := Registers.zero.write Registers.flag 60 }
    let outcome := processor.execute (Word.ofNibbles 0xD 0xF 0xF 5)
    outcome.answer = .ok () ∧ outcome.state.display.frame.row 28 = 0xF ∧
      outcome.state.registers.read Registers.flag = 0 := by
  intro processor outcome
  have rows := execute_draw_rows processor 0xF 0xF 5
  have drawn : outcome.answer = .ok () := rows.1.mpr (by decide)
  have toggles := rows.2 drawn
  have digit : processor.memory.byteAt 0x50 = 0xF0 := by
    change Memory.fresh.byteAt 0x50 = 0xF0
    rw [Memory.fresh_eq_image]
    exact Memory.byteAt_image [] 0x50 (by decide)
  have dark : ∀ row, processor.display.frame.row row = 0 := Frame.row_blank
  have place : (processor.registers.read 0xF).toNat = 60 := by decide
  simp only [place] at toggles
  refine ⟨drawn, ?_, ?_⟩
  · have row := toggles.toggled 28 (by decide) (by decide)
    rw [dark] at row
    rw [row]
    change 0 ^^^ Sprite.rowMask (processor.memory.byteAt 0x50) 60 = 0xF
    rw [digit]
    decide
  · rw [toggles.flag, if_neg]
    rintro ⟨row, -, collides⟩
    rw [dark] at collides
    exact collides BitVec.zero_and

end Processor

end Chip8
