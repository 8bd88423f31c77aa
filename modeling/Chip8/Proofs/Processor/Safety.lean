import Chip8.Processor.Checked
import Chip8.Proofs.Processor.Drawing

set_option autoImplicit false

namespace Chip8

theorem shifted_bit_eq_zero_iff (byte : Byte) (bit : Nat) (inside : bit < 8) :
    (byte >>> (7 - bit)) &&& 1 = 0 ↔ byte.getMsbD bit = false := by
  have low : (byte >>> (7 - bit)).getLsbD 0 = byte.getMsbD bit := by
    simp [BitVec.getMsbD_eq_getLsbD, inside]
  have masked : (byte >>> (7 - bit)) &&& 1 = (BitVec.ofBool (byte.getMsbD bit)).setWidth 8 := by
    rw [← low]
    exact BitVec.and_one_eq_setWidth_ofBool_getLsbD
  rw [masked]
  cases byte.getMsbD bit with
  | true => decide
  | false => decide

namespace Checked

@[simp]
theorem ok_bind {Given Result : Type} (given : Given) (next : Given → Except Trap Result) :
    (Except.ok given >>= next) = next given := rfl

theorem add_of_lt {limit left right : Nat} (small : left + right < limit) :
    add limit left right = .ok (left + right) := if_pos small

theorem sub_of_le {left right : Nat} (covers : right ≤ left) :
    sub left right = .ok (left - right) := if_pos covers

theorem addWord_of_lt (left right : Word) (small : left.toNat + right.toNat < 0x10000) :
    addWord left right = .ok (left + right) := by
  rw [addWord, add_of_lt small, ok_bind, BitVec.ofNat_add, BitVec.ofNat_toNat, BitVec.ofNat_toNat,
    BitVec.setWidth_eq, BitVec.setWidth_eq]
  rfl

theorem shiftRight_of_lt (byte : Byte) {amount : Nat} (small : amount < 8) :
    shiftRight byte amount = .ok (byte >>> amount) := if_pos small

@[simp]
theorem read_toNat (registers : Registers) (x : Nibble) :
    read registers x.toNat = .ok (registers.read x) := dif_pos (Registers.nibble_lt x)

@[simp]
theorem write_toNat (registers : Registers) (x : Nibble) (value : Byte) :
    write registers x.toNat value = .ok (registers.write x value) :=
  dif_pos (Registers.nibble_lt x)

@[simp]
theorem write_flag (registers : Registers) (value : Byte) :
    write registers flagRegister value = .ok (registers.write Registers.flag value) := rfl

@[simp]
theorem lit_cell (display : Display) (cell : Cell) :
    lit display cell.x cell.y = .ok (display.lit cell) := by
  rw [lit, Display.litAt, Cell.find_of_cell]
  rfl

@[simp]
theorem put_cell (display : Display) (cell : Cell) (on : Bool) :
    put display cell.x cell.y on = .ok (display.put cell on) := by
  simp only [put, Display.putAt, Frame.putAt, Cell.find_of_cell]
  rfl

@[simp]
theorem combine_toNat (registers : Registers) (op : Arith) (x y : Nibble) :
    combine registers op x.toNat y.toNat = .ok (registers.combine op x y) := by
  cases op with
  | _ => simp [combine, Registers.combine]

theorem setRegister_toNat (processor : Processor) (x : Nibble) (value : Byte) :
    setRegister processor x.toNat value = .ok (processor.setRegister x value, .ok ()) := by
  rw [setRegister, write_toNat]
  rfl

theorem setTimer_toNat (processor : Processor) (role : TimerRole) (x : Nibble) :
    setTimer processor role x.toNat =
      .ok ({ processor with
          timers := processor.timers.set role (processor.registers.read x) }, .ok ()) := by
  rw [setTimer, read_toNat]
  rfl

def turn (processor : Processor) (cell : Cell) : Processor :=
  { processor with
    display := processor.display.toggle cell
    registers :=
      if processor.display.lit cell then processor.registers.write Registers.flag 1
      else processor.registers }

theorem paint_cell (processor : Processor) (cell : Cell) :
    paint processor cell.x cell.y = .ok (turn processor cell) := by
  simp only [paint, lit_cell, put_cell, write_flag, ok_bind, turn, Display.toggle]
  cases processor.display.lit cell with
  | true => rfl
  | false => rfl

theorem foldl_turn (processor : Processor) (cells : List Cell) :
    cells.foldl turn processor =
      { processor with
        display := (processor.display.toggleAll cells).1
        registers :=
          if (processor.display.toggleAll cells).2 then
            processor.registers.write Registers.flag 1
          else processor.registers } := by
  induction cells generalizing processor with
  | nil => rfl
  | cons cell rest ih =>
    rw [List.foldl_cons, ih, Display.toggleAll, turn]
    cases processor.display.lit cell with
    | true => simp [Registers.write_write]
    | false => simp

section Sizes

variable {limit : Nat} (wide : 0x10000 ≤ limit)
include wide

theorem readRows_eq (memory : Memory) (start row count : Nat) (small : start + row < limit) :
    readRows limit memory start row count = .ok (memory.readRange (start + row) count) := by
  induction count generalizing row with
  | zero => rfl
  | succ count ih =>
    rw [readRows, add_of_lt small, ok_bind, Memory.readRange]
    cases found : memory.read (start + row) with
    | error fault => rfl
    | ok byte =>
      -- Only an address in memory is followed by another one.
      have inside := Memory.lt_of_read found
      have next : start + (row + 1) < limit :=
        Nat.lt_of_lt_of_le (Nat.succ_le_succ inside) (Nat.le_trans (by decide) wide)
      simp only [ih (row + 1) next, ok_bind]
      rw [Nat.add_assoc]
      cases memory.readRange (start + (row + 1)) count with
      | error fault => rfl
      | ok bytes => rfl

theorem paintBits_eq (origin : Cell) (row : Nat) (inside : origin.y + row < screenHeight)
    (byte : Byte) (processor : Processor) (bit count : Nat) (bits : bit + count = 8) :
    paintBits limit origin.x (origin.y + row) byte processor bit count =
      .ok (((List.range' bit count).filterMap fun bit =>
        if byte.getMsbD bit then Cell.at? (origin.x + bit) (origin.y + row) else none).foldl
          turn processor) := by
  induction count generalizing processor bit with
  | zero => rfl
  | succ count ih =>
    have column : origin.x.val < 64 := origin.x.isLt
    have small : origin.x + bit < limit := by omega
    rw [paintBits, add_of_lt small, ok_bind]
    by_cases right : screenWidth ≤ origin.x + bit
    next =>
      -- This bit and all later ones fall off the right edge.
      have none : ∀ later ∈ List.range' bit (count + 1),
          (if byte.getMsbD later then Cell.at? (origin.x + later) (origin.y + row) else none) =
            none := by
        intro later member
        have behind := (List.mem_range'_1.mp member).1
        rw [Cell.at?_of_le _ _ (by omega), ite_self]
      rw [if_pos right, List.filterMap_eq_nil_iff.mpr none]
      rfl
    next =>
      have amount : 7 - bit < 8 := by omega
      rw [if_neg right, sub_of_le (by omega), ok_bind, shiftRight_of_lt byte amount, ok_bind]
      simp only [shifted_bit_eq_zero_iff byte bit (by omega), List.range'_succ]
      cases set : byte.getMsbD bit with
      | false =>
        have rest := ih processor (bit + 1) (by omega)
        simp only [if_pos, pure_bind, rest, List.filterMap_cons, set, Bool.false_eq_true, if_false]
      | true =>
        let cell : Cell := { x := ⟨origin.x + bit, Nat.lt_of_not_le right⟩, y := ⟨_, inside⟩ }
        have found : Cell.at? (origin.x + bit) (origin.y + row) = some cell :=
          (Cell.at?_eq_some_iff _ _ _).mpr ⟨rfl, rfl⟩
        have painted : paint processor (origin.x + bit) (origin.y + row) = _ :=
          paint_cell processor cell
        have rest := ih (turn processor cell) (bit + 1) (by omega)
        simp only [Bool.true_eq_false, if_false, painted, ok_bind, rest, List.filterMap_cons, set,
          if_true, found, List.foldl_cons]

theorem paintRows_eq (origin : Cell) (processor : Processor) (row : Nat) (bytes : List Byte)
    (inside : origin.y + row + bytes.length ≤ screenHeight) :
    paintRows limit origin.x origin.y processor row bytes =
      .ok (((bytes.zipIdx row).flatMap fun (byte, row) =>
        Sprite.rowCells origin row byte).foldl turn processor) := by
  induction bytes generalizing processor row with
  | nil => rfl
  | cons byte bytes ih =>
    rw [List.length_cons] at inside
    have here : origin.y + row < screenHeight := by omega
    have small : origin.y + row < limit :=
      Nat.lt_of_lt_of_le here (Nat.le_trans (by decide) wide)
    have painted := paintBits_eq wide origin row here byte processor 0 8 rfl
    rw [← List.range_eq_range'] at painted
    rw [paintRows, add_of_lt small, ok_bind, painted, ok_bind, ih _ _ (by omega),
      List.zipIdx_cons, List.flatMap_cons, List.foldl_append]
    rfl

theorem draw_eq (processor : Processor) (x y height : Nibble) :
    draw limit processor x.toNat y.toNat height.toNat = .ok (processor.draw x y height) := by
  have left : (processor.registers.read x).toNat &&& (screenWidth - 1) =
      (processor.spriteOrigin x y).x := Nat.and_two_pow_sub_one_eq_mod _ 6
  have top : (processor.registers.read y).toNat &&& (screenHeight - 1) =
      (processor.spriteOrigin x y).y := Nat.and_two_pow_sub_one_eq_mod _ 5
  have small : processor.index.toNat + 0 < limit := Nat.lt_of_lt_of_le processor.index.isLt wide
  rw [draw, read_toNat, read_toNat, ok_bind, ok_bind, Processor.draw]
  simp only [left, top]
  generalize processor.spriteOrigin x y = origin
  rw [sub_of_le (Nat.le_of_lt origin.y.isLt), ok_bind, readRows_eq wide _ _ _ _ small, ok_bind,
    Nat.add_zero, ← Processor.visibleRows]
  cases found : processor.memory.readRange processor.index.toNat
      (Processor.visibleRows origin height) with
  | error fault => rfl
  | ok bytes =>
    have size := Memory.length_of_readRange found
    have fits : origin.y + 0 + bytes.length ≤ screenHeight := by
      have rows : Processor.visibleRows origin height ≤ screenHeight - origin.y :=
        Nat.min_le_right _ _
      omega
    have cells : (bytes.zipIdx.flatMap fun (byte, row) => Sprite.rowCells origin row byte) =
      Sprite.cells { origin := origin, bytes := bytes } := rfl
    simp only [write_flag, ok_bind, paintRows_eq wide origin _ 0 bytes fits, foldl_turn, cells,
      Registers.write_write, Display.draw]
    obtain ⟨display, collision⟩ :=
      processor.display.toggleAll (Sprite.cells { origin := origin, bytes := bytes })
    cases collision with
    | true => rfl
    | false => rfl

theorem perform_eq (processor : Processor) (instruction : Instruction) :
    perform limit processor (.ofWord instruction.encode) instruction =
      .ok (processor.perform instruction) := by
  cases instruction with
  | arith op x y =>
    simp only [perform, Instruction.encode, Operands.toNat_x_ofWord, Operands.toNat_y_ofWord,
      Word.x_ofNibbles, Word.y_ofNibbles, combine_toNat, ok_bind]
    rfl
  | draw x y height =>
    simp only [perform, Instruction.encode, Operands.toNat_x_ofWord, Operands.toNat_y_ofWord,
      Operands.toNat_n_ofWord, Word.x_ofNibbles, Word.y_ofNibbles, Word.n_ofNibbles]
    exact draw_eq wide processor x y height
  | jumpBeyond target =>
    -- An address and a byte are far below what a word can hold.
    have first : read processor.registers 0 = .ok (processor.registers.read 0) :=
      read_toNat processor.registers 0
    have small : (target.setWidth 16 : Word).toNat +
        ((processor.registers.read 0).setWidth 16 : Word).toNat < 0x10000 := by
      have low := target.isLt
      have high := (processor.registers.read 0).isLt
      simp only [BitVec.toNat_setWidth]
      omega
    simp only [perform, Instruction.encode, Operands.address_ofWord, Word.address_ofAddress,
      first, ok_bind, addWord_of_lt _ _ small]
    rfl
  | _ =>
    simp only [perform, Instruction.encode, Operands.toNat_x_ofWord, Operands.kk_ofWord,
      Operands.address_ofWord, Word.x_ofOperand, Word.kk_ofOperand, Word.address_ofAddress,
      setRegister_toNat, setTimer_toNat, read_toNat, ok_bind]
    rfl

theorem fetch_checked (processor : Processor) : fetch limit processor = .ok processor.fetch := by
  rw [fetch, Processor.fetch, Memory.readWord]
  cases high : processor.memory.read processor.counter.toNat with
  | error fault => rfl
  | ok byte =>
    -- The high byte could be read, so the counter has room to move.
    have inside := Memory.lt_of_read high
    have size : memorySize = 4096 := rfl
    have second : processor.counter.toNat + 1 < limit := by omega
    have behind : processor.counter.toNat + (BitVec.ofNat 16 wordSize).toNat < 0x10000 :=
      Nat.lt_trans (Nat.add_lt_add_right inside 2) (by decide)
    simp only [add_of_lt second, addWord_of_lt _ _ behind, ok_bind]
    cases processor.memory.read (processor.counter.toNat + 1) with
    | error fault => rfl
    | ok low => rfl

theorem execute_eq (processor : Processor) (word : Word) :
    execute limit processor word = .ok (processor.execute word) := by
  rw [execute]
  cases decoded : Instruction.decode word with
  | none => rfl
  | some instruction =>
    have performed := perform_eq wide processor instruction
    rw [← Instruction.decode_eq_some_iff.mp decoded] at performed
    rw [processor.execute_of_decode decoded]
    simp only [performed, ok_bind]
    rfl

end Sizes

end Checked

/--
Whatever the state of the processor, and whatever the word, no operation of a step or of an
execution goes wrong: with sizes that hold at least all words, the checked cycle gives what
the cycle gives. Its faults are those of the processor.
-/
theorem Processor.cycle_never_traps (limit : Nat) (wide : 0x10000 ≤ limit)
    (processor : Processor) :
    Checked.fetch limit processor = .ok processor.fetch ∧
      (∀ word, Checked.execute limit processor word = .ok (processor.execute word)) ∧
      Checked.step limit processor = .ok processor.step := by
  have fetched := Checked.fetch_checked wide processor
  refine ⟨fetched, Checked.execute_eq wide processor, ?_⟩
  rw [Checked.step, fetched, Checked.ok_bind, step]
  cases processor.fetch with
  | error fault => rfl
  | ok found => exact Checked.execute_eq wide found.2 found.1

theorem Processor.cycle_never_traps_corner :
    let processor : Processor :=
      { Processor.fresh .fail (Random.cycle 0 []) with
        registers := Vector.replicate registerCount 0xFF
        index := 0xFFF }
    let outcome := processor.execute (Word.ofNibbles 0xD 0 1 0xF)
    Checked.execute 0x10000 processor (Word.ofNibbles 0xD 0 1 0xF) = .ok outcome ∧
      outcome.answer = .ok () := by
  intro processor outcome
  have safe := cycle_never_traps 0x10000 (Nat.le_refl _) processor
  refine ⟨safe.2.1 (Word.ofNibbles 0xD 0 1 0xF), ?_⟩
  have decoded := Instruction.decode_encode (.draw 0 1 0xF)
  have executed : outcome = _ := processor.execute_of_decode decoded
  have inside : processor.SpriteInMemory 1 0xF := .inr (by decide)
  rw [executed]
  exact (processor.draw_succeeds_iff 0 1 0xF).mpr inside

-- The edges are needed: a bit painted below the bottom edge is a trap.
example (processor : Processor) :
    Checked.paintRows 0x10000 0 32 processor 0 [0x80] = .error (.cell (.row 32)) := rfl

end Chip8
