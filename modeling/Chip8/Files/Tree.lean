import Chip8.Stream.Basic

set_option autoImplicit false

namespace Chip8

inductive Node where
  | file (bytes : List Byte)
  | directory (entries : List (String × Node))

structure Place where
  node : Node
  above : List Node := []

namespace Place

abbrev longestName : Nat := 255

abbrev pathLimit : Nat := 4096

def parent (place : Place) : Place :=
  match place.above with
  | [] => place
  | node :: above => { node := node, above := above }

def root (place : Place) : Place := { node := (place.node :: place.above).getLast (by simp) }

def enter (place : Place) (name : String) : Except PathError Place :=
  match place.node with
  | .file _ => .error .notDirectory
  | .directory entries =>
      if name = "" ∨ name = "." then .ok place
      else if name = ".." then .ok place.parent
      else if name.utf8ByteSize > longestName then .error .nameTooLong
      else
        match entries.lookup name with
        | none => .error .noEntry
        | some node => .ok { node := node, above := place.node :: place.above }

def follow (place : Place) : List String → Except PathError Place
  | [] => .ok place
  | name :: names => do
    let next ← place.enter name
    next.follow names

def names (path : List Char) : List String :=
  (path.splitOn '/').map String.ofList

def resolve (place : Place) (path : String) : Except PathError Place :=
  let characters := path.toList
  if '\x00' ∈ characters then .error .nulInName
  else if path.utf8ByteSize ≥ pathLimit then .error .nameTooLong
  else
    match characters with
    | [] => .error .noEntry
    | '/' :: rest => place.root.follow (names rest)
    | _ => place.follow (names characters)

/-- What reading the path gives, a path that cannot be opened being a failing stream. -/
def read (place : Place) (path : String) : Stream :=
  match place.resolve path with
  | .error error => [.failure (.path error)]
  | .ok found =>
      match found.node with
      | .file bytes => .ofBytes bytes
      | .directory _ => [.failure (.path .isDirectory)]

def workingDirectory (entries : List (String × Node)) : Place :=
  let temporary := Node.directory []
  let devices := Node.directory [("null", .file [])]
  let root := Node.directory [("dev", devices), ("tmp", temporary)]
  { node := .directory entries, above := [temporary, root] }

end Place

end Chip8
