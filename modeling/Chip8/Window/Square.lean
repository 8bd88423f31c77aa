import Chip8.Screen.Frame

set_option autoImplicit false

namespace Chip8

structure Square where
  x : Int
  y : Int
  side : Nat
  deriving DecidableEq, Repr

namespace Square

abbrev leastCorner : Int := -1073741824

abbrev greatestCorner : Int := 1073741823

abbrev greatestSide : Nat := 1073741823

def corner (place : Nat) (scale : UInt32) : Int :=
  -- A word of 32 bits, read as a signed number; the surface then clamps it.
  let product : Int := place * scale.toNat
  max leastCorner (min greatestCorner (product.bmod UInt32.size))

def clampSide (scale : UInt32) : Nat := max 1 (min greatestSide scale.toNat)

def ofCell (scale : UInt32) (cell : Cell) : Square :=
  { x := corner cell.x scale, y := corner cell.y scale, side := clampSide scale }

def Covers (square : Square) (x y : Int) : Prop :=
  (square.x ≤ x ∧ x < square.x + square.side) ∧ (square.y ≤ y ∧ y < square.y + square.side)

instance (square : Square) (x y : Int) : Decidable (square.Covers x y) :=
  inferInstanceAs (Decidable (_ ∧ _))

end Square

def Frame.squares (frame : Frame) (scale : UInt32) : List Square :=
  frame.litCells.map (Square.ofCell scale)

end Chip8
