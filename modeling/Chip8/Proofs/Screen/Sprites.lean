import Chip8.Screen.Sprite
import Mathlib.Data.List.Nodup
import Mathlib.Data.List.Sigma

set_option autoImplicit false

namespace Chip8

namespace Display

theorem lit_toggleAll (display : Display) (cells : List Cell) (distinct : cells.Nodup)
    (cell : Cell) :
    (display.toggleAll cells).1.lit cell = (decide (cell ∈ cells) ^^ display.lit cell) := by
  induction cells generalizing display with
  | nil => simp [toggleAll]
  | cons first rest ih =>
    obtain ⟨fresh, others⟩ := List.nodup_cons.mp distinct
    rw [toggleAll, ih _ others, lit_toggle]
    by_cases same : first = cell
    next =>
      subst same
      simp [fresh]
    next => simp [same, Ne.symm same]

theorem collision_toggleAll (display : Display) (cells : List Cell) (distinct : cells.Nodup) :
    (display.toggleAll cells).2 = true ↔ ∃ cell ∈ cells, display.lit cell = true := by
  induction cells generalizing display with
  | nil => simp [toggleAll]
  | cons first rest ih =>
    obtain ⟨fresh, others⟩ := List.nodup_cons.mp distinct
    -- Turning the first cell over does not show in the others, which all differ from it.
    have unseen : ∀ cell ∈ rest, (display.toggle first).lit cell = display.lit cell := by
      intro cell member
      have different : first ≠ cell := fun same => fresh (same ▸ member)
      simp [lit_toggle, different]
    have later : (∃ cell ∈ rest, (display.toggle first).lit cell = true) ↔
        ∃ cell ∈ rest, display.lit cell = true := by
      constructor
      · intro found
        obtain ⟨cell, member, lit⟩ := found
        exact ⟨cell, member, unseen cell member ▸ lit⟩
      · intro found
        obtain ⟨cell, member, lit⟩ := found
        exact ⟨cell, member, (unseen cell member).symm ▸ lit⟩
    rw [toggleAll, Bool.or_eq_true, ih _ others, later]
    simp

theorem written_toggleAll (display : Display) (cells : List Cell) :
    (display.toggleAll cells).1.written = true ↔ display.written = true ∨ cells ≠ [] := by
  induction cells generalizing display with
  | nil => simp [toggleAll]
  | cons first rest ih =>
    rw [toggleAll, ih]
    simp [toggle, put]

end Display

namespace Sprite

theorem mem_rowCells (origin : Cell) (row : Nat) (byte : Byte) (cell : Cell) :
    cell ∈ rowCells origin row byte ↔
      ∃ bit, byte.getMsbD bit = true ∧
        cell.x.val = origin.x + bit ∧ cell.y.val = origin.y + row := by
  rw [rowCells, List.mem_filterMap]
  constructor
  · intro listed
    obtain ⟨bit, -, found⟩ := listed
    split at found
    next set => exact ⟨bit, set, (Cell.at?_eq_some_iff _ _ _).mp found⟩
    next => cases found
  · intro shown
    obtain ⟨bit, set, place⟩ := shown
    have small : bit < 8 := by
      by_contra large
      rw [BitVec.getMsbD_of_ge byte bit (Nat.le_of_not_lt large)] at set
      cases set
    refine ⟨bit, List.mem_range.mpr small, ?_⟩
    rw [if_pos set]
    exact (Cell.at?_eq_some_iff _ _ _).mpr place

theorem mem_cells (sprite : Sprite) (cell : Cell) :
    cell ∈ sprite.cells ↔
      ∃ row byte bit, sprite.bytes[row]? = some byte ∧ byte.getMsbD bit = true ∧
        cell.x.val = sprite.origin.x + bit ∧ cell.y.val = sprite.origin.y + row := by
  rw [cells, List.mem_flatMap]
  constructor
  · intro found
    obtain ⟨⟨byte, row⟩, listed, member⟩ := found
    obtain ⟨bit, shown⟩ := (mem_rowCells _ _ _ _).mp member
    exact ⟨row, byte, bit, List.mem_zipIdx_iff_getElem?.mp listed, shown⟩
  · intro found
    obtain ⟨row, byte, bit, present, shown⟩ := found
    exact ⟨(byte, row), List.mem_zipIdx_iff_getElem?.mpr present,
      (mem_rowCells _ _ _ _).mpr ⟨bit, shown⟩⟩

theorem nodup_rowCells (origin : Cell) (row : Nat) (byte : Byte) :
    (rowCells origin row byte).Nodup := by
  refine List.Nodup.filterMap ?_ List.nodup_range
  intro first second cell atFirst atSecond
  have column (bit : Nat)
      (found : cell ∈ if byte.getMsbD bit then Cell.at? (origin.x + bit) (origin.y + row) else none) :
      cell.x.val = origin.x + bit := by
    split at found
    next => exact ((Cell.at?_eq_some_iff _ _ _).mp found).1
    next => cases found
  have one := column first atFirst
  have two := column second atSecond
  omega

theorem nodup_cells (sprite : Sprite) : sprite.cells.Nodup := by
  rw [cells, List.nodup_flatMap]
  constructor
  · intro entry _
    exact nodup_rowCells sprite.origin entry.2 entry.1
  · -- Different entries of the sprite lie in different rows of the screen.
    have rows : sprite.bytes.zipIdx.Pairwise fun first second => first.2 ≠ second.2 :=
      List.pairwise_map.mp (List.nodup_zipIdx_map_snd sprite.bytes)
    refine rows.imp ?_
    intro first second different cell inFirst inSecond
    obtain ⟨-, -, -, one⟩ := (mem_rowCells _ _ _ _).mp inFirst
    obtain ⟨-, -, -, two⟩ := (mem_rowCells _ _ _ _).mp inSecond
    omega

def rowMask (byte : Byte) (column : Nat) : BitVec screenWidth := (byte ++ 0#56) >>> column

def mask (sprite : Sprite) (row : Fin screenHeight) : BitVec screenWidth :=
  if sprite.origin.y.val ≤ row then
    rowMask (sprite.bytes.getD (row - sprite.origin.y) 0) sprite.origin.x
  else 0

theorem getMsbD_rowMask (byte : Byte) (column : Nat) (x : Fin screenWidth) :
    (rowMask byte column).getMsbD x =
      (decide (column ≤ x.val) && byte.getMsbD (x.val - column)) := by
  have inside : x.val < 64 := x.isLt
  rw [rowMask, BitVec.getMsbD_ushiftRight, BitVec.getMsbD_append]
  by_cases before : x.val < column
  next =>
    have left : ¬ column ≤ x.val := Nat.not_le_of_lt before
    simp [before, left]
  next =>
    have behind : column ≤ x.val := Nat.le_of_not_lt before
    by_cases low : 8 ≤ x.val - column
    next => simp [before, low]
    next => simp [inside, before, behind, low]

theorem getMsbD_mask (sprite : Sprite) (cell : Cell) :
    (sprite.mask cell.y).getMsbD cell.x = decide (cell ∈ sprite.cells) := by
  rw [Bool.eq_iff_iff, decide_eq_true_iff, mem_cells, mask]
  constructor
  · intro set
    split at set
    next below =>
      rw [getMsbD_rowMask, Bool.and_eq_true, decide_eq_true_iff] at set
      obtain ⟨right, bit⟩ := set
      refine ⟨cell.y - sprite.origin.y, _, cell.x - sprite.origin.x, ?_, bit, by omega, by omega⟩
      cases present : sprite.bytes[cell.y.val - sprite.origin.y.val]? with
      | some byte => simp [List.getD_eq_getElem?_getD, present]
      | none => simp [List.getD_eq_getElem?_getD, present] at bit
    next => simp at set
  · intro member
    obtain ⟨row, byte, bit, present, set, x, y⟩ := member
    have below : sprite.origin.y.val ≤ cell.y := by omega
    have offset : cell.y.val - sprite.origin.y = row := by omega
    have column : cell.x.val - sprite.origin.x = bit := by omega
    have right : sprite.origin.x.val ≤ cell.x := by omega
    rw [if_pos below, getMsbD_rowMask, offset, column, List.getD_eq_getElem?_getD, present]
    simp [right, set]

theorem exists_mem_cells (sprite : Sprite) (shown : Cell → Bool) :
    (∃ cell ∈ sprite.cells, shown cell = true) ↔
      ∃ cell : Cell, (shown cell && (sprite.mask cell.y).getMsbD cell.x) = true := by
  simp only [getMsbD_mask, Bool.and_eq_true, decide_eq_true_iff, and_comm]

end Sprite

theorem row_ne_zero_iff (row : BitVec screenWidth) :
    row ≠ 0 ↔ ∃ x : Fin screenWidth, row.getMsbD x = true := by
  constructor
  · intro shown
    by_contra dark
    refine shown (BitVec.eq_of_getMsbD_eq fun x inside => ?_)
    have off := (not_exists.mp dark) ⟨x, inside⟩
    simpa using off
  · intro shown dark
    obtain ⟨x, lit⟩ := shown
    simp [dark] at lit

@[simp]
theorem Frame.row_blank (row : Fin screenHeight) : blank.row row = 0 := by
  apply BitVec.eq_of_getMsbD_eq
  intro x inside
  have dark := blank.getMsbD_row { x := ⟨x, inside⟩, y := row }
  rw [lit_blank] at dark
  exact dark.trans BitVec.getMsbD_zero.symm

namespace Display

theorem row_draw (display : Display) (sprite : Sprite) (row : Fin screenHeight) :
    (display.draw sprite).1.frame.row row = display.frame.row row ^^^ sprite.mask row := by
  apply BitVec.eq_of_getMsbD_eq
  intro x inside
  let cell : Cell := { x := ⟨x, inside⟩, y := row }
  have after := (display.draw sprite).1.frame.getMsbD_row cell
  have before := display.frame.getMsbD_row cell
  have toggled := sprite.getMsbD_mask cell
  have drawn := display.lit_toggleAll sprite.cells sprite.nodup_cells cell
  rw [BitVec.getMsbD_xor, before, toggled, after, Bool.xor_comm]
  exact drawn

theorem collision_draw (display : Display) (sprite : Sprite) :
    (display.draw sprite).2 = true ↔
      ∃ row, display.frame.row row &&& sprite.mask row ≠ 0 := by
  rw [draw, collision_toggleAll display _ sprite.nodup_cells, Sprite.exists_mem_cells]
  simp only [row_ne_zero_iff, BitVec.getMsbD_and]
  constructor
  · intro collides
    obtain ⟨cell, both⟩ := collides
    refine ⟨cell.y, cell.x, ?_⟩
    rw [Frame.getMsbD_row]
    exact both
  · intro collides
    obtain ⟨y, x, both⟩ := collides
    refine ⟨{ x := x, y := y }, ?_⟩
    rw [lit, ← display.frame.getMsbD_row]
    exact both

theorem written_draw (display : Display) (sprite : Sprite) :
    (display.draw sprite).1.written = true ↔
      display.written = true ∨ ∃ row, sprite.mask row ≠ 0 := by
  have shown : sprite.cells ≠ [] ↔ ∃ row, sprite.mask row ≠ 0 := by
    simp only [row_ne_zero_iff]
    constructor
    · intro drawn
      obtain ⟨cell, member⟩ := List.exists_mem_of_ne_nil _ drawn
      refine ⟨cell.y, cell.x, ?_⟩
      rw [Sprite.getMsbD_mask, decide_eq_true_iff]
      exact member
    · intro drawn
      obtain ⟨y, x, set⟩ := drawn
      have member := sprite.getMsbD_mask { x := x, y := y }
      rw [set, eq_comm, decide_eq_true_iff] at member
      exact List.ne_nil_of_mem member
  rw [draw, written_toggleAll, shown]

end Display

end Chip8
