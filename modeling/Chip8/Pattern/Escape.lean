import Chip8.Pattern.Basic
import Chip8.Pattern.Reading

set_option autoImplicit false

namespace Chip8.Pattern

inductive Atom where
  -- A character may be given by the value of a byte.
  | character (c : Char) (asByte : Bool)
  | kind (set : Charset) (negated : Bool)
  | property (name : List Char)
  | anchor (anchor : Anchor)

namespace Reading

def hexValue? (c : Char) : Option Nat :=
  if c.isDigit then some (c.toNat - '0'.toNat)
  else if 'a' ≤ c && c ≤ 'f' then some (c.toNat - 'a'.toNat + 10)
  else if 'A' ≤ c && c ≤ 'F' then some (c.toNat - 'A'.toNat + 10)
  else none

def hexNumber (digits : List Char) : Nat :=
  digits.foldl (fun value c => 16 * value + (hexValue? c).getD 0) 0

def characterOf (number : Nat) (span : Span) : Reading Char :=
  if valid : number.isValidChar then return Char.ofNatAux number valid
  else object .hexNoCharacter span

def readBracedHex : Reading Char := do
  let brace ← here
  let start := (← headSpan).stop
  passOn
  let digits ← takeAll fun c => (hexValue? c).isSome
  match ← head? with
  | none => object .escapeUnfinished (← since brace)
  | some '\x7d' =>
      let span ← since start
      passOn
      if digits.isEmpty then object .hexMissing (← since brace)
      else characterOf (hexNumber digits) span
  | some _ => object .hexDigit (← headSpan)

def readHexOf (width : Nat) : Reading Char := do
  let start ← here
  let digits ← takeUpTo (fun c => (hexValue? c).isSome) width
  if digits.length = width then characterOf (hexNumber digits) (← since start)
  else if ← atEnd then object .escapeUnfinished (← here).empty
  else object .hexDigit (← headSpan)

def readHex (width : Nat) : Reading Atom := do
  passOn
  match ← head? with
  | none => object .escapeUnfinished (← here).empty
  | some '\x7b' => return .character (← readBracedHex) false
  | some _ => return .character (← readHexOf width) (width = 2)

def readProperty : Reading Atom := do
  passOn
  match ← head? with
  | none => object .escapeUnfinished (← here).empty
  | some '\x7b' =>
      passOn
      let name ← takeAll (· ≠ '\x7d')
      if ← atEnd then object .escapeUnfinished (← here).empty
      pass
      return .property name
  | some '\\' => object .propertyForm (← headSpan)
  | some c =>
      passOn
      return .property [c]

def wordAnchor (edge : WordEdge) : Reading Atom := do
  return .anchor (.word edge (← flags).ascii)

def readWordEdge (start : Place) : Reading WordEdge := do
  let before ← get
  let isNameCharacter (c : Char) : Bool := c.isAlpha || c = '-'
  match before.rest.head? with
  | some '\x7b' =>
      passOn
      match ← head? with
      | none => object .wordEdgeUnfinished (← since start)
      | some c =>
          if isNameCharacter c then
            let inside ← here
            let name ← takeAll isNameCharacter
            if (← head?) ≠ some '\x7d' then
              object .wordEdgeUnclosed (← since before.place)
            let span ← since inside
            pass
            match String.ofList name with
            | "start" => return .start
            | "end" => return .stop
            | "start-half" => return .startHalf
            | "end-half" => return .stopHalf
            | _ => object .wordEdgeUnknown span
          else
            set before
            return .any
  | _ => return .any

def readLetter (start : Place) (c : Char) : Reading Atom := do
  pass
  match c with
  | 'a' => return .character '\x07' false
  | 'f' => return .character '\x0c' false
  | 't' => return .character '\t' false
  | 'n' => return .character '\n' false
  | 'r' => return .character '\r' false
  | 'v' => return .character '\x0b' false
  | 'd' => return .kind .digits false
  | 's' => return .kind .blanks false
  | 'w' => return .kind .wordCharacters false
  | 'D' => return .kind .digits true
  | 'S' => return .kind .blanks true
  | 'W' => return .kind .wordCharacters true
  | 'A' => return .anchor .textStart
  | 'z' => return .anchor .textEnd
  | 'b' => wordAnchor (← readWordEdge start)
  | 'B' => wordAnchor .inside
  | '<' => wordAnchor .start
  | '>' => wordAnchor .stop
  | c =>
      if c ≤ '\x7f' && !c.isAlphanum then return .character c false
      else object .escapeUnknown (← since start)

def readEscape : Reading (Atom × Span) := do
  let start ← here
  pass
  let atom ←
    match ← head? with
    | none => object .escapeUnfinished (← since start)
    | some 'x' => readHex 2
    | some 'u' => readHex 4
    | some 'U' => readHex 8
    | some 'p' => readProperty
    | some 'P' => readProperty
    | some c =>
        if c.isDigit then object .backreference ⟨start, (← headSpan).stop⟩
        else readLetter start c
  return (atom, ← since start)

def propertyFlaw (name : List Char) : Flaw :=
  let spelled := name.map Char.toLower
  let bare := if ['i', 's'].isPrefixOf spelled then spelled.drop 2 else spelled
  let kept := bare.filter fun c => c ≤ '\x7f' && c ∉ [' ', '_', '-']
  if String.ofList kept ∈ ["cf", "sc", "lc"] then .propertyValueUnknown else .propertyUnknown

def kindMeaning (members : Charset) (negated : Bool) (span : Span) : Reading Charset := do
  if !(← flags).ascii then
    refuse .classUnknown span
  else if negated then
    refuse .invalidBytes span
  return members

def propertyMeaning (name : List Char) (span : Span) : Reading Charset := do
  refuse (if (← flags).ascii then .characterRefused else propertyFlaw name) span
  return .none

end Reading

end Chip8.Pattern
