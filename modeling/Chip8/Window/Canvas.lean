import Chip8.Window.Square

set_option autoImplicit false

namespace Chip8

inductive Colour where
  | black
  | white
  deriving DecidableEq, Repr

def windowTitle : String := "Chip-8"

abbrev windowWidth : Nat := screenWidth * cellSide

abbrev windowHeight : Nat := screenHeight * cellSide

structure Canvas where
  lines : Vector (Vector Colour windowWidth) windowHeight
  deriving DecidableEq

namespace Canvas

def pixel (canvas : Canvas) (x : Fin windowWidth) (y : Fin windowHeight) : Colour :=
  canvas.lines[y][x]

def black : Canvas := ⟨Vector.replicate windowHeight (Vector.replicate windowWidth .black)⟩

def clear (_ : Canvas) : Canvas := black

def fill (canvas : Canvas) (square : Square) : Canvas :=
  ⟨canvas.lines.mapFinIdx fun y line _ =>
    if square.y ≤ y ∧ (y : Int) < square.y + square.side then
      line.mapFinIdx fun x colour _ =>
        if square.x ≤ x ∧ (x : Int) < square.x + square.side then .white else colour
    else line⟩

def render (canvas : Canvas) (frame : Frame) : Canvas :=
  (frame.squares (UInt32.ofNat cellSide)).foldl fill canvas.clear

@[simp]
theorem pixel_black (x : Fin windowWidth) (y : Fin windowHeight) : black.pixel x y = .black := by
  simp [pixel, black]

theorem pixel_fill (canvas : Canvas) (square : Square) (x : Fin windowWidth)
    (y : Fin windowHeight) :
    (canvas.fill square).pixel x y =
      if square.Covers x y then .white else canvas.pixel x y := by
  simp only [pixel, fill, Square.Covers, Fin.getElem_fin, Vector.getElem_mapFinIdx]
  by_cases inLine : square.y ≤ y ∧ ((y : Nat) : Int) < square.y + square.side
  · simp [inLine]
  · simp [inLine]

end Canvas

end Chip8
