import Chip8.Window.Canvas

set_option autoImplicit false

namespace Chip8

namespace Square

theorem corner_of_le (place : Nat) (scale : UInt32) (near : place * scale.toNat ≤ 1073741823) :
    corner place scale = place * scale.toNat := by
  -- The product neither wraps around nor comes to the greatest corner.
  have whole : (place * scale.toNat : Int).bmod UInt32.size = place * scale.toNat := by
    have size : UInt32.size = 4294967296 := rfl
    rw [← Int.natCast_mul]
    apply Int.bmod_eq_of_le_mul_two
    · omega
    · omega
  have inRange : max leastCorner (min greatestCorner (place * scale.toNat : Int)) =
      place * scale.toNat := by
    have least : leastCorner = -1073741824 := rfl
    have greatest : greatestCorner = 1073741823 := rfl
    rw [← Int.natCast_mul]
    omega
  calc
    corner place scale =
        max leastCorner (min greatestCorner ((place * scale.toNat : Int).bmod UInt32.size)) := rfl
    _ = max leastCorner (min greatestCorner (place * scale.toNat : Int)) := by rw [whole]
    _ = place * scale.toNat := inRange

section Scale

variable (scale : UInt32) (positive : 0 < scale.toNat) (fits : 63 * scale.toNat ≤ 1073741823)
include positive fits

theorem clampSide_of_le : clampSide scale = scale.toNat := by
  have greatest : greatestSide = 1073741823 := rfl
  simp only [clampSide]
  omega

theorem ofCell_eq (cell : Cell) :
    ofCell scale cell =
      { x := cell.x * scale.toNat, y := cell.y * scale.toNat, side := scale.toNat } := by
  have near (place : Nat) (low : place ≤ 63) : place * scale.toNat ≤ 1073741823 :=
    Nat.le_trans (Nat.mul_le_mul_right _ low) fits
  have column : cell.x.val ≤ 63 := Nat.le_of_lt_succ cell.x.isLt
  have row : cell.y.val ≤ 63 := Nat.le_trans (Nat.le_of_lt cell.y.isLt) (by decide)
  rw [ofCell, corner_of_le cell.x scale (near _ column), corner_of_le cell.y scale (near _ row),
    clampSide_of_le scale positive fits]

theorem covers_ofCell_iff (cell : Cell) (x y : Nat) :
    (ofCell scale cell).Covers x y ↔ x / scale.toNat = cell.x ∧ y / scale.toNat = cell.y := by
  have within (place pixel : Nat) :
      ((place * scale.toNat : Int) ≤ pixel ∧ (pixel : Int) < place * scale.toNat + scale.toNat) ↔
        pixel / scale.toNat = place := by
    rw [Nat.div_eq_iff positive, ← Int.natCast_mul, Nat.le_sub_one_iff_lt (by omega)]
    omega
  rw [ofCell_eq scale positive fits, Covers, within, within]

end Scale

end Square

/--
A window on which one can draw. All that is known of it is that clearing makes every
pixel black, and that filling makes white the pixels inside the squares and no other.
-/
structure Surface where
  Window : Type
  pixel : Window → Fin windowWidth → Fin windowHeight → Colour
  clear : Window → Window
  fill : Window → List Square → Window
  pixel_clear (window : Window) (x : Fin windowWidth) (y : Fin windowHeight) :
    pixel (clear window) x y = .black
  pixel_fill (window : Window) (squares : List Square) (x : Fin windowWidth)
      (y : Fin windowHeight) :
    pixel (fill window squares) x y = .white ↔
      (∃ square ∈ squares, square.Covers x y) ∨ pixel window x y = .white

namespace Surface

variable (surface : Surface)

def render (window : surface.Window) (frame : Frame) : surface.Window :=
  surface.fill (surface.clear window) (frame.squares (UInt32.ofNat cellSide))

end Surface

namespace Canvas

theorem pixel_fillAll (canvas : Canvas) (squares : List Square) (x : Fin windowWidth)
    (y : Fin windowHeight) :
    (squares.foldl fill canvas).pixel x y = .white ↔
      (∃ square ∈ squares, square.Covers x y) ∨ canvas.pixel x y = .white := by
  induction squares generalizing canvas with
  | nil => simp
  | cons square rest ih =>
    rw [List.foldl_cons, ih, pixel_fill]
    by_cases covers : square.Covers x y
    next => simp [covers]
    next => simp [covers]

def surface : Surface where
  Window := Canvas
  pixel := pixel
  clear := clear
  fill := fun canvas squares => squares.foldl fill canvas
  pixel_clear := fun _ => pixel_black
  pixel_fill := pixel_fillAll

end Canvas

namespace Square

def shown (cell : Cell) : Square := ofCell (UInt32.ofNat cellSide) cell

end Square

end Chip8
