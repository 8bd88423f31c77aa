import Chip8.Stream.Failure
import Chip8.Word

set_option autoImplicit false

namespace Chip8

/-- What one read gives. A read that gives no bytes has come to the end of the stream. -/
inductive Chunk where
  | data (bytes : List Byte)
  | failure (cause : ReadFailure)
  | endOfStream
  deriving DecidableEq, Repr

abbrev Stream := List Chunk

namespace Stream

def ofBytes (bytes : List Byte) : Stream := [.data bytes]

def readAll : Stream → Except ReadFailure (List Byte)
  | [] => .ok []
  | .endOfStream :: _ => .ok []
  | .failure cause :: rest => if cause.retried then readAll rest else .error cause
  | .data bytes :: rest => if bytes = [] then .ok [] else (readAll rest).map (bytes ++ ·)

@[simp]
theorem readAll_ofBytes (bytes : List Byte) : readAll (ofBytes bytes) = .ok bytes := by
  rw [ofBytes, readAll]
  split
  next none => rw [none]
  next => simp [readAll, Except.map]

end Stream

end Chip8
