set_option autoImplicit false

namespace Chip8.Text

-- A line without its end, from the characters before the line feed in backward order.
def lineBefore : List Char → List Char
  | '\r' :: reversed => reversed.reverse
  | reversed => reversed.reverse

def linesFrom (reversed : List Char) : List Char → List (List Char)
  | [] => if reversed.isEmpty then [] else [reversed.reverse]
  | '\n' :: rest => lineBefore reversed :: linesFrom [] rest
  | c :: rest => linesFrom (c :: reversed) rest

def lines (text : String) : List String := (linesFrom [] text.toList).map String.ofList

end Chip8.Text
