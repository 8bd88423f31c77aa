import Chip8.Screen.Cell

set_option autoImplicit false

namespace Chip8

structure Frame where
  lines : Vector (Vector Bool screenWidth) screenHeight
  deriving DecidableEq

namespace Frame

def lit (frame : Frame) (cell : Cell) : Bool := frame.lines[cell.y][cell.x]

def put (frame : Frame) (cell : Cell) (on : Bool) : Frame :=
  ⟨frame.lines.set cell.y (frame.lines[cell.y].set cell.x on)⟩

def putAt (frame : Frame) (x y : Nat) (on : Bool) : Frame × Except OffScreen Unit :=
  match Cell.find x y with
  | .error cause => (frame, .error cause)
  | .ok cell => (frame.put cell on, .ok ())

def blank : Frame := ⟨Vector.replicate screenHeight (Vector.replicate screenWidth false)⟩

def litCells (frame : Frame) : List Cell := Cell.all.filter frame.lit

def row (frame : Frame) (y : Fin screenHeight) : BitVec screenWidth :=
  (BitVec.ofBoolListBE frame.lines[y].toList).cast (by simp)

def rows (frame : Frame) : List (BitVec screenWidth) :=
  (List.finRange screenHeight).map frame.row

def ofRows (rows : Fin screenHeight → BitVec screenWidth) : Frame :=
  ⟨Vector.ofFn fun y => Vector.ofFn fun x => (rows y).getMsbD x⟩

theorem ext_lit {left right : Frame} (same : ∀ cell, left.lit cell = right.lit cell) :
    left = right := by
  cases left
  cases right
  congr 1
  ext y insideY x insideX
  exact same ⟨⟨x, insideX⟩, ⟨y, insideY⟩⟩

@[simp]
theorem lit_blank (cell : Cell) : blank.lit cell = false := by
  simp [lit, blank]

theorem lit_put (frame : Frame) (cell other : Cell) (on : Bool) :
    (frame.put cell on).lit other = if cell = other then on else frame.lit other := by
  obtain ⟨x, y⟩ := cell
  obtain ⟨x', y'⟩ := other
  simp only [lit, put, Fin.getElem_fin, Vector.getElem_set, Cell.mk.injEq, Fin.ext_iff]
  by_cases sameRow : y.val = y'.val
  · by_cases sameColumn : x.val = x'.val
    · simp [sameRow, sameColumn]
    · simp [sameRow, sameColumn]
  · simp [sameRow]

@[simp]
theorem getMsbD_row (frame : Frame) (cell : Cell) :
    (frame.row cell.y).getMsbD cell.x = frame.lit cell := by
  simp [row, lit, BitVec.getMsbD_ofBoolListBE, List.getD_eq_getElem?_getD]

@[simp]
theorem lit_ofRows (rows : Fin screenHeight → BitVec screenWidth) (cell : Cell) :
    (ofRows rows).lit cell = (rows cell.y).getMsbD cell.x := by
  simp [lit, ofRows]

end Frame

end Chip8
