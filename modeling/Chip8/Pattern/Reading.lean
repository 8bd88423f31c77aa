import Chip8.Pattern.Charset
import Chip8.Pattern.Flaw
import Chip8.Text.Blank

set_option autoImplicit false

namespace Chip8.Pattern

structure Flags where
  foldsCase : Bool := false
  multiLine : Bool := false
  dotMatchesLineFeed : Bool := false
  -- Carriage returns end lines too.
  carriageReturns : Bool := false
  -- Only ASCII has a meaning, and nothing may match parts of a character.
  ascii : Bool := false
  -- Blanks stand for nothing, and a hash begins a comment.
  spaced : Bool := false
  deriving DecidableEq, Repr

structure Reader where
  rest : List Char
  place : Place := {}
  flags : Flags := {}
  -- The names of groups so far.
  names : List (String × Span) := []
  -- The first objection to the meaning.
  refusal : Option Objection := none

abbrev Reading := StateT Reader (Except Objection)

def passSpace (place : Place) : Bool → List Char → Place × List Char
  | _, [] => (place, [])
  | inComment, c :: rest =>
      if inComment then passSpace (place.after c) (c ≠ '\n') rest
      else if Text.isBlank c then passSpace (place.after c) false rest
      else if c = '#' then passSpace (place.after c) true rest
      else (place, c :: rest)

namespace Reading

def object {α : Type} (flaw : Flaw) (span : Span) (earlier : Option Span := none) : Reading α :=
  throw { flaw := flaw, span := span, earlier := earlier }

-- Only the first objection to the meaning counts, and it does not end the reading.
def refuse (flaw : Flaw) (span : Span) : Reading Unit :=
  modify fun reader =>
    { reader with refusal := reader.refusal <|> some { flaw := flaw, span := span } }

def flags : Reading Flags := return (← get).flags

def setFlags (flags : Flags) : Reading Unit := modify fun reader => { reader with flags := flags }

def head? : Reading (Option Char) := return (← get).rest.head?

def atEnd : Reading Bool := return (← get).rest.isEmpty

def here : Reading Place := return (← get).place

def since (start : Place) : Reading Span := return ⟨start, ← here⟩

def headSpan : Reading Span := do
  let reader ← get
  return ⟨reader.place, (reader.rest.head?.map reader.place.after).getD reader.place⟩

-- How many characters are left; no reading takes more steps than that.
def remaining : Reading Nat := return (← get).rest.length

def pass : Reading Unit :=
  modify fun reader =>
    match reader.rest with
    | [] => reader
    | c :: rest => { reader with rest := rest, place := reader.place.after c }

def passMany (count : Nat) : Reading Unit := count.forM fun _ _ => pass

def skipSpace : Reading Unit :=
  modify fun reader =>
    if reader.flags.spaced then
      let (place, rest) := passSpace reader.place false reader.rest
      { reader with rest := rest, place := place }
    else reader

def passOn : Reading Unit := do
  pass
  skipSpace

def accept (word : String) : Reading Bool := do
  if word.toList.isPrefixOf (← get).rest then
    passMany word.length
    return true
  else return false

def second? : Reading (Option Char) := do
  let reader ← get
  let behind := reader.rest.tail
  if reader.flags.spaced then return (passSpace reader.place false behind).2.head?
  else return behind.head?

def takeUpTo (fits : Char → Bool) : Nat → Reading (List Char)
  | 0 => return []
  | count + 1 => do
      match ← head? with
      | none => return []
      | some c =>
          if fits c then
            passOn
            return c :: (← takeUpTo fits count)
          else return []

def takeAll (fits : Char → Bool) : Reading (List Char) := do takeUpTo fits (← remaining)

end Reading

end Chip8.Pattern
