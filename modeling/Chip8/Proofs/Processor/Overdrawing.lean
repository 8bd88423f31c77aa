import Chip8.Proofs.Processor.Painting
import Chip8.Proofs.Screen.Pictures

set_option autoImplicit false

namespace Chip8

open scoped symmDiff

def Memory.spriteSet (memory : Memory) (start column top height : Nat) : Finset Cell :=
  Cell.all.toFinset.filter fun cell =>
    (top ≤ cell.y ∧ cell.y < top + height) ∧ (column ≤ cell.x ∧ cell.x < column + 8) ∧
      (memory.byteAt (start + (cell.y - top))).getMsbD (cell.x - column) = true

structure Drawing where
  registers : Registers
  index : Word
  x : Nibble
  y : Nibble
  height : Nibble
  x_ne_flag : x ≠ Registers.flag
  y_ne_flag : y ≠ Registers.flag

namespace Drawing

def word (drawing : Drawing) : Word := Word.ofNibbles 0xD drawing.x drawing.y drawing.height

def column (drawing : Drawing) : Nat :=
  (drawing.registers.read drawing.x).toNat % screenWidth

def top (drawing : Drawing) : Nat := (drawing.registers.read drawing.y).toNat % screenHeight

def cells (drawing : Drawing) (memory : Memory) : Finset Cell :=
  memory.spriteSet drawing.index.toNat drawing.column drawing.top drawing.height.toNat

def InMemory (drawing : Drawing) : Prop :=
  min drawing.height.toNat (screenHeight - drawing.top) = 0 ∨
    drawing.index.toNat + min drawing.height.toNat (screenHeight - drawing.top) ≤ memorySize

end Drawing

namespace Processor

def spriteSet (processor : Processor) (x y height : Nibble) : Finset Cell :=
  processor.memory.spriteSet processor.index.toNat
    ((processor.registers.read x).toNat % screenWidth)
    ((processor.registers.read y).toNat % screenHeight) height.toNat

theorem toFinset_cells_sprite (processor : Processor) (x y height : Nibble) :
    (processor.sprite x y height).cells.toFinset = processor.spriteSet x y height := by
  ext cell
  have rows : processor.spriteRows y height =
    min height.toNat (screenHeight - processor.spriteTop y) := rfl
  simp only [List.mem_toFinset, Sprite.mem_cells, getElem?_bytes_sprite, spriteSet,
    Memory.spriteSet, Finset.mem_filter, Cell.mem_all, true_and]
  constructor
  · intro shown
    obtain ⟨row, byte, bit, ⟨inside, rfl⟩, set, column, line⟩ := shown
    have small : bit < 8 := BitVec.lt_of_getMsbD set
    have right : cell.x.val = (processor.registers.read x).toNat % screenWidth + bit := column
    have below : cell.y.val = (processor.registers.read y).toNat % screenHeight + row := line
    rw [right, below, Nat.add_sub_cancel_left, Nat.add_sub_cancel_left]
    exact ⟨⟨by omega, by omega⟩, ⟨by omega, by omega⟩, set⟩
  · intro shown
    obtain ⟨⟨top, bottom⟩, ⟨left, right⟩, set⟩ := shown
    have inside : cell.y.val < screenHeight := cell.y.isLt
    have start : processor.spriteTop y = (processor.registers.read y).toNat % screenHeight := rfl
    exact ⟨_, _, _, ⟨by omega, rfl⟩, set, (Nat.add_sub_cancel' left).symm,
      (Nat.add_sub_cancel' top).symm⟩

structure Overlays (before after : Processor) (cells : Finset Cell) : Prop where
  picture : after.display.frame.litSet = before.display.frame.litSet ∆ cells
  flag : after.registers.read Registers.flag =
    flagByte (decide (¬ Disjoint before.display.frame.litSet cells))
  registers : ∀ z, z ≠ Registers.flag → after.registers.read z = before.registers.read z
  index : after.index = before.index
  memory : after.memory = before.memory

theorem draw_overlays (processor : Processor) (x y height : Nibble)
    (inside : processor.SpriteInMemory y height) :
    processor.Overlays (processor.draw x y height).1 (processor.spriteSet x y height) := by
  rw [processor.draw_of_inside x y height inside, ← toFinset_cells_sprite]
  constructor
  · exact processor.display.litSet_draw (processor.sprite x y height)
  · have collides := processor.display.draw_collides_iff (processor.sprite x y height)
    simp only [Registers.read_write_self, ← collides, Bool.decide_eq_true]
  · intro z different
    rw [Registers.read_write, if_neg (Ne.symm different)]
  · rfl
  · rfl

theorem execute_ofNibbles_draw (processor : Processor) (x y height : Nibble) :
    (processor.execute (Word.ofNibbles 0xD x y height)).state = (processor.draw x y height).1 ∧
      (processor.execute (Word.ofNibbles 0xD x y height)).answer =
        (processor.draw x y height).2 := by
  have decoded := Instruction.decode_encode (.draw x y height)
  rw [Instruction.encode] at decoded
  rw [processor.execute_of_decode decoded]
  exact ⟨rfl, rfl⟩

theorem execute_draw_overlays (processor : Processor) (x y height : Nibble)
    (inside : processor.SpriteInMemory y height) :
    processor.Overlays (processor.execute (Word.ofNibbles 0xD x y height)).state
      (processor.spriteSet x y height) := by
  rw [(processor.execute_ofNibbles_draw x y height).1]
  exact processor.draw_overlays x y height inside

theorem answer_execute_draw (processor : Processor) (x y height : Nibble) :
    (processor.execute (Word.ofNibbles 0xD x y height)).answer = .ok () ↔
      processor.SpriteInMemory y height := by
  rw [(processor.execute_ofNibbles_draw x y height).2]
  exact processor.draw_succeeds_iff x y height

theorem follow_of_ok (processor : Processor)
    (move : Processor → Outcome Processor (Except Fault Unit))
    (moves : List (Processor → Outcome Processor (Except Fault Unit)))
    (done : (move processor).answer = .ok ()) :
    (processor.follow (move :: moves)).state = ((move processor).state.follow moves).state ∧
      (processor.follow (move :: moves)).answer.fault =
        ((move processor).state.follow moves).answer.fault := by
  simp only [follow, done, and_self]

theorem follow_of_error (processor : Processor)
    (move : Processor → Outcome Processor (Except Fault Unit))
    (moves : List (Processor → Outcome Processor (Except Fault Unit))) (fault : Fault)
    (failed : (move processor).answer = .error fault) :
    (processor.follow (move :: moves)).answer.fault = some fault := by
  simp only [follow, failed]

/-- With the index and the registers of a drawing, but the flag as earlier ones left it. -/
def readyFor (processor : Processor) (drawing : Drawing) : Processor :=
  { processor with
    index := drawing.index
    registers :=
      drawing.registers.write Registers.flag (processor.registers.read Registers.flag) }

def carryOut (drawing : Drawing) (processor : Processor) :
    Outcome Processor (Except Fault Unit) :=
  (processor.readyFor drawing).execute drawing.word

def drawAll (processor : Processor) (drawings : List Drawing) : Outcome Processor Progress :=
  processor.follow (drawings.map carryOut)

section Drawings

variable (processor : Processor) (drawing : Drawing)

theorem read_readyFor (z : Nibble) (different : z ≠ Registers.flag) :
    (processor.readyFor drawing).registers.read z = drawing.registers.read z := by
  rw [readyFor, Registers.read_write, if_neg (Ne.symm different)]

theorem spriteSet_readyFor :
    (processor.readyFor drawing).spriteSet drawing.x drawing.y drawing.height =
      drawing.cells processor.memory := by
  rw [spriteSet, processor.read_readyFor drawing drawing.x drawing.x_ne_flag,
    processor.read_readyFor drawing drawing.y drawing.y_ne_flag]
  rfl

theorem spriteInMemory_readyFor :
    (processor.readyFor drawing).SpriteInMemory drawing.y drawing.height ↔ drawing.InMemory := by
  rw [SpriteInMemory, spriteRows, spriteTop,
    processor.read_readyFor drawing drawing.y drawing.y_ne_flag]
  rfl

theorem carryOut_succeeds_iff :
    (carryOut drawing processor).answer = .ok () ↔ drawing.InMemory :=
  ((processor.readyFor drawing).answer_execute_draw drawing.x drawing.y drawing.height).trans
    (processor.spriteInMemory_readyFor drawing)

theorem carryOut_overlays (inside : drawing.InMemory) :
    (processor.readyFor drawing).Overlays (carryOut drawing processor).state
      (drawing.cells processor.memory) := by
  rw [← processor.spriteSet_readyFor drawing]
  apply execute_draw_overlays
  exact (processor.spriteInMemory_readyFor drawing).mpr inside

end Drawings

theorem drawAll_done_iff (processor : Processor) (drawings : List Drawing) :
    (processor.drawAll drawings).answer.fault = none ↔
      ∀ drawing ∈ drawings, drawing.InMemory := by
  induction drawings generalizing processor with
  | nil => simp [drawAll, follow]
  | cons drawing rest ih =>
    have succeeds := processor.carryOut_succeeds_iff drawing
    rw [List.forall_mem_cons, ← ih (carryOut drawing processor).state, ← succeeds]
    cases answer : (carryOut drawing processor).answer with
    | ok _ =>
      have follows := processor.follow_of_ok (carryOut drawing) (rest.map carryOut) answer
      simp only [drawAll, List.map_cons, follows.2, true_and]
    | error fault =>
      have stops := processor.follow_of_error (carryOut drawing) (rest.map carryOut) fault answer
      simp [drawAll, List.map_cons, stops]

theorem litSet_drawAll (processor : Processor) (drawings : List Drawing)
    (inside : ∀ drawing ∈ drawings, drawing.InMemory) :
    (processor.drawAll drawings).state.display.frame.litSet =
      (drawings.map (Drawing.cells · processor.memory)).foldl (· ∆ ·)
        processor.display.frame.litSet := by
  induction drawings generalizing processor with
  | nil => rfl
  | cons drawing rest ih =>
    obtain ⟨first, others⟩ := List.forall_mem_cons.mp inside
    have drawn := processor.carryOut_overlays drawing first
    have done := (processor.carryOut_succeeds_iff drawing).mpr first
    have follows := processor.follow_of_ok (carryOut drawing) (rest.map carryOut) done
    have later := ih (carryOut drawing processor).state others
    have memory : (carryOut drawing processor).state.memory = processor.memory := drawn.memory
    have picture : (carryOut drawing processor).state.display.frame.litSet =
      processor.display.frame.litSet ∆ drawing.cells processor.memory := drawn.picture
    rw [memory, picture] at later
    rw [drawAll, List.map_cons, follows.1, List.map_cons, List.foldl_cons]
    exact later

section Redrawing

variable {before after : Processor} {cells : Finset Cell} {x y : Nibble}
variable (overlays : before.Overlays after cells)
include overlays

theorem Overlays.spriteInMemory_iff (row : y ≠ Registers.flag) (height : Nibble) :
    after.SpriteInMemory y height ↔ before.SpriteInMemory y height := by
  simp only [SpriteInMemory, spriteRows, spriteTop, overlays.index, overlays.registers y row]

theorem Overlays.spriteSet_eq (column : x ≠ Registers.flag) (row : y ≠ Registers.flag)
    (height : Nibble) : after.spriteSet x y height = before.spriteSet x y height := by
  simp only [spriteSet, overlays.memory, overlays.index, overlays.registers x column,
    overlays.registers y row]

theorem Overlays.flag_eq_one_iff :
    after.registers.read Registers.flag = 1 ↔ ¬ Disjoint before.display.frame.litSet cells := by
  rw [overlays.flag, flagByte]
  by_cases apart : Disjoint before.display.frame.litSet cells <;> simp [apart]

theorem Overlays.flag_eq_zero_iff :
    after.registers.read Registers.flag = 0 ↔ Disjoint before.display.frame.litSet cells := by
  rw [overlays.flag, flagByte]
  by_cases apart : Disjoint before.display.frame.litSet cells <;> simp [apart]

variable {again : Processor} (repeats : after.Overlays again cells)
include repeats

theorem Overlays.restores : again.display.frame = before.display.frame := by
  apply Frame.litSet_injective
  rw [repeats.picture, overlays.picture, symmDiff_symmDiff_cancel_right]

theorem Overlays.second_collides_iff :
    again.registers.read Registers.flag = 1 ↔ ¬ cells ⊆ before.display.frame.litSet := by
  rw [repeats.flag_eq_one_iff, overlays.picture, disjoint_symmDiff_iff]

theorem Overlays.one_collides (drawn : cells.Nonempty) :
    after.registers.read Registers.flag = 1 ∨ again.registers.read Registers.flag = 1 := by
  rw [overlays.flag_eq_one_iff, overlays.second_collides_iff repeats]
  by_cases covered : cells ⊆ before.display.frame.litSet
  next =>
    left
    intro apart
    exact drawn.ne_empty (Finset.disjoint_self_iff_empty cells |>.mp (apart.mono_left covered))
  next => exact .inr covered

theorem Overlays.only_second_collides_iff (drawn : cells.Nonempty) :
    (after.registers.read Registers.flag = 0 ∧ again.registers.read Registers.flag = 1) ↔
      Disjoint before.display.frame.litSet cells := by
  rw [overlays.flag_eq_zero_iff]
  constructor
  · exact And.left
  · intro apart
    have dark := mt overlays.flag_eq_one_iff.mp (not_not.mpr apart)
    exact ⟨apart, (overlays.one_collides repeats drawn).resolve_left dark⟩

end Redrawing

/--
Drawings that succeed overlay the picture with the cells of each, in whatever order, and
two of the same cells cancel. Any one of them counts as many cells as a symmetric
difference has, and collides exactly if these are fewer than those of both sides. Made
again at once, it brings the picture back, and one of the two collides.
-/
theorem drawings_overlay (processor : Processor) (drawings : List Drawing)
    (done : (processor.drawAll drawings).answer.fault = none) :
    let memory := processor.memory
    let picture (drawings : List Drawing) := (processor.drawAll drawings).state.display.frame
    ((picture drawings).litSet =
        (drawings.map (Drawing.cells · memory)).foldl (· ∆ ·) processor.display.frame.litSet) ∧
      (∀ others, drawings.Perm others →
        (processor.drawAll others).answer.fault = none ∧ picture others = picture drawings) ∧
      (∀ before first between second behind,
        drawings = before ++ first :: between ++ second :: behind →
          first.cells memory = second.cells memory →
            (processor.drawAll (before ++ between ++ behind)).answer.fault = none ∧
              picture (before ++ between ++ behind) = picture drawings) ∧
      ∀ (current : Processor) (x y height : Nibble), x ≠ Registers.flag → y ≠ Registers.flag →
        let word := Word.ofNibbles 0xD x y height
        let first := current.execute word
        let second := first.state.execute word
        let lit := current.display.frame.litSet
        let cells := current.spriteSet x y height
        let after := first.state.display.frame.litSet
        let flag (outcome : Outcome Processor (Except Fault Unit)) :=
          outcome.state.registers.read Registers.flag
        first.answer = .ok () →
          after = lit ∆ cells ∧
            after.card + 2 * (lit ∩ cells).card = lit.card + cells.card ∧
            (flag first = if after.card < lit.card + cells.card then 1 else 0) ∧
            (second.answer = .ok () ∧ second.state.display.frame = current.display.frame) ∧
            (cells.Nonempty →
              (flag first = 1 ∨ flag second = 1) ∧
                (flag first = 0 ∧ flag second = 1 ↔ Disjoint lit cells)) := by
  intro memory picture
  have inside := (processor.drawAll_done_iff drawings).mp done
  refine ⟨processor.litSet_drawAll drawings inside, ?_, ?_, ?_⟩
  · intro others same
    have insideOthers : ∀ drawing ∈ others, drawing.InMemory := by
      intro drawing member
      exact inside drawing (same.mem_iff.mpr member)
    refine ⟨(processor.drawAll_done_iff others).mpr insideOthers, Frame.litSet_injective ?_⟩
    rw [processor.litSet_drawAll others insideOthers, processor.litSet_drawAll drawings inside]
    exact ((same.map (Drawing.cells · memory)).foldl_eq _).symm
  · intro before first between second behind split equal
    subst split
    have insideRest : ∀ drawing ∈ before ++ between ++ behind, drawing.InMemory := by
      intro drawing member
      apply inside
      simp only [List.mem_append, List.mem_cons] at member ⊢
      tauto
    refine ⟨(processor.drawAll_done_iff _).mpr insideRest, Frame.litSet_injective ?_⟩
    rw [processor.litSet_drawAll _ insideRest, processor.litSet_drawAll _ inside]
    simp only [List.map_append, List.map_cons]
    change _ = List.foldl _ _ (_ ++ first.cells memory :: _ ++ second.cells memory :: _)
    rw [equal, foldl_symmDiff_cancel]
  · intro current x y height column row word first second lit cells after flag drawn
    have fits := (current.answer_execute_draw x y height).mp drawn
    have overlays : current.Overlays first.state cells :=
      current.execute_draw_overlays x y height fits
    have fitsAgain := (overlays.spriteInMemory_iff row height).mpr fits
    have repeats : first.state.Overlays second.state cells := by
      have again := first.state.execute_draw_overlays x y height fitsAgain
      rw [overlays.spriteSet_eq column row height] at again
      exact again
    have redrawn : second.answer = .ok () :=
      (first.state.answer_execute_draw x y height).mpr fitsAgain
    have picture : after = lit ∆ cells := overlays.picture
    refine ⟨picture, ?_, ?_, ⟨redrawn, overlays.restores repeats⟩, ?_⟩
    · rw [picture]
      exact card_symmDiff_add lit cells
    · rw [picture]
      simp only [card_symmDiff_lt_iff]
      refine overlays.flag.trans ?_
      simp only [flagByte, decide_eq_true_eq]
      rfl
    · intro shown
      exact ⟨overlays.one_collides repeats shown, overlays.only_second_collides_iff repeats shown⟩

theorem drawings_overlay_digit :
    let processor := Processor.fresh .skip (Random.cycle 0 [])
    let digit : Drawing :=
      { registers := .zero, index := 0x50, x := 0, y := 0, height := 5
        x_ne_flag := by decide, y_ne_flag := by decide }
    let other : Drawing := { digit with index := 0x55, registers := Registers.zero.write 0 2 }
    let picture (drawings : List Drawing) := (processor.drawAll drawings).state.display.frame
    (processor.drawAll [digit, other, digit]).answer.fault = none ∧
      picture [digit, other, digit] = picture [other] := by
  intro processor digit other picture
  have inside : ∀ drawing ∈ [digit, other, digit], drawing.InMemory := by
    simp only [List.forall_mem_cons, Drawing.InMemory]
    decide
  have done := (processor.drawAll_done_iff [digit, other, digit]).mpr inside
  obtain ⟨-, -, cancels, -⟩ := drawings_overlay processor [digit, other, digit] done
  exact ⟨done, (cancels [] digit [other] digit [] rfl rfl).2.symm⟩

end Processor

end Chip8
