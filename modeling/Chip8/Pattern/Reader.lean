import Chip8.Pattern.Brackets
import Chip8.Pattern.Marking
import Chip8.Pattern.Weight

set_option autoImplicit false

namespace Chip8.Pattern

structure Scope where
  alternatives : List Pattern := []
  items : List Pattern := []
  -- Whether the last item may be repeated; changed flags may not.
  repeatable : Bool := false

namespace Scope

def add (scope : Scope) (item : Pattern) : Scope :=
  { scope with items := item :: scope.items, repeatable := true }

def repeatLast (scope : Scope) (least : Nat) (most : Option Nat) : Scope :=
  match scope.items with
  | [] => scope
  | item :: items =>
      let repeated := if most = some 0 then .empty else .times item least most
      { scope with items := repeated :: items }

def sequence (scope : Scope) : Pattern :=
  scope.items.foldl (fun later item => .seq item later) .empty

def nextAlternative (scope : Scope) : Scope :=
  { alternatives := scope.sequence :: scope.alternatives }

def close (scope : Scope) : Pattern :=
  scope.alternatives.foldl (fun later alternative => .either alternative later) scope.sequence

end Scope

inductive Parenthesis where
  | group (flags : Flags)
  | setting (flags : Flags)

def Flags.switch (flags : Flags) (on : Bool) : Char → Flags
  | 'i' => { flags with foldsCase := on }
  | 'm' => { flags with multiLine := on }
  | 's' => { flags with dotMatchesLineFeed := on }
  | 'R' => { flags with carriageReturns := on }
  | 'u' => { flags with ascii := !on }
  | 'x' => { flags with spaced := on }
  | _ => flags

def Flags.switchAll (flags : Flags) (letters : List Char) : Flags :=
  let on := letters.takeWhile (· ≠ '-')
  let off := letters.drop on.length
  off.foldl (·.switch false) (on.foldl (·.switch true) flags)

namespace Reading

def readFlags : Nat → List (Char × Span) → Reading (List (Char × Span))
  | 0, letters => return letters
  | fuel + 1, letters => do
      let span ← headSpan
      match ← head? with
      | none => object .flagsUnfinished span
      | some c =>
          if c = ':' || c = ')' then
            match letters with
            | ('-', hyphen) :: _ => object .negationDangling hyphen
            | letters => return letters
          else
            if c ∉ ['-', 'i', 'm', 's', 'U', 'u', 'R', 'x'] then object .flagUnknown span
            if let some (_, earlier) := letters.find? (·.1 = c) then
              object (if c = '-' then .negationTwice else .flagTwice) span (some earlier)
            pass
            readFlags fuel ((c, span) :: letters)

-- Letters beyond ASCII are not told apart from other characters there.
def isNameCharacter (first : Bool) (c : Char) : Bool :=
  c = '_' || c.isAlpha || '\x7f' < c || (!first && (c.isDigit || c ∈ ['.', '[', ']']))

def readNameFrom : Nat → List Char → Reading (List Char)
  | 0, reversed => return reversed.reverse
  | fuel + 1, reversed => do
      match ← head? with
      | none => object .nameUnclosed (← here).empty
      | some '>' => return reversed.reverse
      | some c =>
          if isNameCharacter reversed.isEmpty c then
            pass
            readNameFrom fuel (c :: reversed)
          else object .nameCharacter (← headSpan)

def readName : Reading Unit := do
  let start ← here
  let name ← readNameFrom ((← remaining) + 1) []
  let span ← since start
  pass
  if name.isEmpty then object .nameEmpty span
  let reader ← get
  let known := String.ofList name
  if let some earlier := reader.names.lookup known then object .nameTwice span (some earlier)
  set { reader with names := (known, span) :: reader.names }

def readParenthesis : Reading Parenthesis := do
  let whole ← headSpan
  passOn
  let inside := (← here).empty
  if ← accept "?=" <||> accept "?!" <||> accept "?<=" <||> accept "?<!" then
    object .lookAround (← since whole.start)
  let flags ← flags
  if ← accept "?P<" <||> accept "?<" then
    readName
    return .group flags
  else if ← accept "?" then
    if ← atEnd then object .groupUnclosed whole
    let letters ← readFlags ((← remaining) + 1) []
    let switched := flags.switchAll (letters.map (·.1)).reverse
    let closes := (← head?) = some ')'
    pass
    if !closes then return .group switched
    if letters.isEmpty then object .operandMissing inside
    return .setting switched
  else return .group flags

def checkRepeatable (scope : Scope) : Reading Unit := do
  if !scope.repeatable then object .operandMissing (← here).empty

-- Passes a sign and the question mark that may stand behind it; both ask for the same texts.
def passSign : Reading Unit := do
  pass
  let _ ← accept "?"

def readCount? : Reading (Except Objection Nat) := do
  let _ ← takeAll Text.isBlank
  let start ← here
  let digits ← takeAll Char.isDigit
  let span ← since start
  let _ ← takeAll Text.isBlank
  let number := digits.foldl (fun value c => 10 * value + (c.toNat - '0'.toNat)) 0
  if digits.isEmpty then return .error { flaw := .countMissing, span := span }
  else if UInt32.size ≤ number then return .error { flaw := .countTooLarge, span := span }
  else return .ok number

def readCounts : Reading (Nat × Option Nat) := do
  let start ← here
  let unclosed {α : Type} : Reading α := do object .countUnclosed (← since start)
  passOn
  if ← atEnd then unclosed
  let first ← readCount?
  let (least, most) ←
    match ← head? with
    | none => unclosed
    | some ',' =>
        passOn
        match ← head? with
        | none => unclosed
        | some '\x7d' => do
            let least ← first
            pure (least, none)
        | some _ =>
            let least ← first
            let most ← (← readCount?)
            pure (least, some most)
    | some _ =>
        let least ← first
        pure (least, some least)
  if (← head?) ≠ some '\x7d' then unclosed
  passOn
  let _ ← accept "?"
  let span ← since start
  if most.any (· < least) then object .countBackwards span
  return (least, most)

def characterMeaning (c : Char) (asByte : Bool) (span : Span) : Reading Charset := do
  if (← flags).ascii && asByte && '\x7f' < c then refuse .invalidBytes span
  foldedSet { set := .single c, span := span, plain := true } span

def dot : Reading Charset := do
  let flags ← flags
  if flags.ascii then refuse .invalidBytes (← headSpan)
  let lineEnds : Charset :=
    if flags.dotMatchesLineFeed then .none
    else if flags.carriageReturns then .union (.single '\r') (.single '\n')
    else .single '\n'
  return .complement lineEnds

def lineAnchor (inLine : Bool → Anchor) (inText : Anchor) : Reading Pattern := do
  let flags ← flags
  return .anchor (if flags.multiLine then inLine flags.carriageReturns else inText)

def readItem (c : Char) : Reading Pattern := do
  match c with
  | '[' => return .one (← readBrackets)
  | '\\' =>
      let (atom, span) ← readEscape
      match atom with
      | .character c asByte => return .one (← characterMeaning c asByte span)
      | .kind set negated => return .one (← kindMeaning set negated span)
      | .property name => return .one (← propertyMeaning name span)
      | .anchor place => return .anchor place
  | '.' =>
      let set ← dot
      pass
      return .one set
  | '^' =>
      pass
      lineAnchor .lineStart .textStart
  | '$' =>
      pass
      lineAnchor .lineEnd .textEnd
  | c =>
      let span ← headSpan
      pass
      return .one (← characterMeaning c false span)

def readScope (opened : Option Span) : Nat → Scope → Reading Pattern
  | 0, scope => return scope.close
  | fuel + 1, scope => do
      skipSpace
      let span ← headSpan
      match ← head? with
      | none =>
          match opened with
          | none => return scope.close
          | some parenthesis => object .groupUnclosed parenthesis
      | some ')' =>
          if opened.isNone then object .groupUnopened span
          pass
          return scope.close
      | some '(' =>
          match ← readParenthesis with
          | .setting flags =>
              setFlags flags
              readScope opened fuel { scope with repeatable := false }
          | .group inner =>
              let outer ← flags
              setFlags inner
              let group ← readScope (some span) fuel {}
              setFlags outer
              readScope opened fuel (scope.add group)
      | some '|' =>
          pass
          readScope opened fuel scope.nextAlternative
      | some '?' =>
          checkRepeatable scope
          passSign
          readScope opened fuel (scope.repeatLast 0 (some 1))
      | some '*' =>
          checkRepeatable scope
          passSign
          readScope opened fuel (scope.repeatLast 0 none)
      | some '+' =>
          checkRepeatable scope
          passSign
          readScope opened fuel (scope.repeatLast 1 none)
      | some '\x7b' =>
          checkRepeatable scope
          let (least, most) ← readCounts
          readScope opened fuel (scope.repeatLast least most)
      | some c => readScope opened fuel (scope.add (← readItem c))

end Reading

inductive Refusal where
  | objection (objection : Objection)
  | needsAllLetters
  | tooHeavy
  deriving DecidableEq, Repr

namespace Refusal

def message (text : String) : Refusal → String
  | objection found => found.message text
  | needsAllLetters => "error building NFA"
  | tooHeavy => s!"Compiled regex exceeds size limit of {greatestWeight} bytes."

end Refusal

/-- The pattern that a text describes; an objection to how it is written comes first. -/
def ofText (text : String) : Except Refusal Pattern :=
  let characters := text.toList
  let reading := Reading.readScope none (characters.length + 1) {}
  match reading.run { rest := characters } with
  | .error objection => .error (.objection objection)
  | .ok (pattern, reader) =>
      match reader.refusal with
      | some objection => .error (.objection objection)
      | none =>
          if greatestWeight < pattern.weight then .error .tooHeavy
          else if pattern.needsAllLetters then .error .needsAllLetters
          else .ok pattern

end Chip8.Pattern
