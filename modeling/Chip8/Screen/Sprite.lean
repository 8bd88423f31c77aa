import Chip8.Screen.Display
import Chip8.Word

set_option autoImplicit false

namespace Chip8

structure Sprite where
  origin : Cell
  bytes : List Byte
  deriving DecidableEq, Repr

namespace Sprite

def rowCells (origin : Cell) (row : Nat) (byte : Byte) : List Cell :=
  -- What lies beyond the right or the bottom edge is lost.
  (List.range 8).filterMap fun bit =>
    if byte.getMsbD bit then Cell.at? (origin.x + bit) (origin.y + row) else none

def cells (sprite : Sprite) : List Cell :=
  sprite.bytes.zipIdx.flatMap fun (byte, row) => rowCells sprite.origin row byte

end Sprite

namespace Display

def toggleAll (display : Display) : List Cell → Display × Bool
  | [] => (display, false)
  | cell :: rest =>
      let (after, collision) := (display.toggle cell).toggleAll rest
      (after, display.lit cell || collision)

def draw (display : Display) (sprite : Sprite) : Display × Bool :=
  display.toggleAll sprite.cells

end Display

end Chip8
