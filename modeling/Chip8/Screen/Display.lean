import Chip8.Screen.Frame

set_option autoImplicit false

namespace Chip8

structure Display where
  frame : Frame := .blank
  -- Set by every write, until somebody takes it.
  written : Bool := false
  deriving DecidableEq

namespace Display

def lit (display : Display) (cell : Cell) : Bool := display.frame.lit cell

def put (display : Display) (cell : Cell) (on : Bool) : Display :=
  { frame := display.frame.put cell on, written := true }

def toggle (display : Display) (cell : Cell) : Display :=
  display.put cell (!display.lit cell)

def clear (_ : Display) : Display := { frame := .blank, written := true }

def takeMark (display : Display) : Bool × Display :=
  (display.written, { display with written := false })

def litAt (display : Display) (x y : Nat) : Except OffScreen Bool :=
  (Cell.find x y).map display.lit

/-- Writes the frame and then sets the mark. A write that fails does not get that far. -/
def putAt (display : Display) (x y : Nat) (on : Bool) : Display × Except OffScreen Unit :=
  let (frame, answer) := display.frame.putAt x y on
  let drawn := { display with frame := frame }
  match answer with
  | .error cause => (drawn, .error cause)
  | .ok _ => ({ drawn with written := true }, .ok ())

theorem lit_put (display : Display) (cell other : Cell) (on : Bool) :
    (display.put cell on).lit other = if cell = other then on else display.lit other :=
  Frame.lit_put display.frame cell other on

theorem lit_toggle (display : Display) (cell other : Cell) :
    (display.toggle cell).lit other = (decide (cell = other) ^^ display.lit other) := by
  rw [toggle, lit_put]
  by_cases same : cell = other <;> simp [same]

@[simp]
theorem lit_clear (display : Display) (cell : Cell) : display.clear.lit cell = false :=
  Frame.lit_blank cell

end Display

end Chip8
