import Chip8.Pattern.Escape

set_option autoImplicit false

namespace Chip8.Pattern

inductive SetOperator where
  | meet
  | difference
  | symmetricDifference

def SetOperator.apply : SetOperator → Charset → Charset → Charset
  | meet => .meet
  | difference => .difference
  | symmetricDifference => .symmetricDifference

structure Operand where
  set : Charset := .none
  span : Span
  -- Whether there are characters or ranges among the items themselves.
  plain : Bool := false

def Operand.without (place : Place) : Operand := { span := place.empty }

def Operand.add (operand : Operand) (set : Charset) (span : Span) (plain : Bool) : Operand :=
  let first := operand.span.start = operand.span.stop
  { set := .union operand.set set
    span := ⟨if first then span.start else operand.span.start, span.stop⟩
    plain := operand.plain || plain }

structure Opening where
  span : Span
  negated : Bool

namespace Reading

def foldedSet (operand : Operand) (span : Span) : Reading Charset := do
  let flags ← flags
  if !flags.foldsCase then return operand.set
  else if flags.ascii then return .bothCases operand.set
  else
    if operand.plain then refuse .caseUnknown span
    return operand.set

def complemented (set : Charset) (span : Span) : Reading Charset := do
  if (← flags).ascii then refuse .invalidBytes span
  return .complement set

def combined (pending : Option (SetOperator × Operand)) (right : Operand) : Reading Operand := do
  match pending with
  | none => return right
  | some (operator, left) =>
      let second ← foldedSet right right.span
      let first ← foldedSet left left.span
      return { set := operator.apply first second, span := ⟨left.span.start, right.span.stop⟩ }

def checkMember (c : Char) (asByte : Bool) (span : Span) : Reading Unit := do
  if (← flags).ascii && '\x7f' < c then
    refuse (if asByte then .invalidBytes else .characterRefused) span

-- Reads an opening bracket with a caret and the characters that stand for themselves only there:
-- hyphens, or else a closing bracket.
def readOpening : Reading (Opening × Operand) := do
  let start ← here
  passOn
  let negated := (← head?) = some '^'
  if negated then passOn
  if ← atEnd then object .bracketUnclosed (← since start)
  let inside ← here
  let hyphens ← takeAll (· = '-')
  let first ←
    if hyphens.isEmpty then
      if (← head?) = some ']' then
        let span ← headSpan
        passOn
        if ← atEnd then object .bracketUnclosed (← since start)
        pure ((Operand.without inside).add (.single ']') span true)
      else pure (Operand.without inside)
    else
      if ← atEnd then object .bracketUnclosed start.empty
      pure ((Operand.without inside).add (.single '-') (← since inside) true)
  return ({ span := ← since start, negated := negated }, first)

def namedSet? : List Char → Option (Charset × Bool × Nat)
  | '[' :: ':' :: rest =>
      let negated := rest.head? = some '^'
      let text := if negated then rest.tail else rest
      let name := text.takeWhile (· ≠ ':')
      if [':', ']'].isPrefixOf (text.drop name.length) then
        (Charset.named? (String.ofList name)).map fun set =>
          (set, negated, name.length + if negated then 5 else 4)
      else none
  | _ => none

def namedMeaning (set : Charset) (negated : Bool) (span : Span) : Reading Charset := do
  let set ← foldedSet { set := set, span := span, plain := true } span
  if negated then complemented set span else return set

def readMember : Reading (Atom × Span) := do
  match ← head? with
  | some '\\' => readEscape
  | some c =>
      let span ← headSpan
      pass
      return (.character c false, span)
  | none => object .bracketUnclosed (← here).empty

def boundary (atom : Atom) (span : Span) : Reading (Char × Bool) :=
  match atom with
  | .character c asByte => return (c, asByte)
  | _ => object .rangeBoundary span

def addAtom (operand : Operand) (atom : Atom) (span : Span) : Reading Operand := do
  match atom with
  | .character c asByte =>
      checkMember c asByte span
      return operand.add (.single c) span true
  | .kind set negated => return operand.add (← kindMeaning set negated span) span false
  | .property name => return operand.add (← propertyMeaning name span) span false
  | .anchor _ => object .bracketEscape span

def readRange (opening : Opening) (operand : Operand) : Reading Operand := do
  let (atom, span) ← readMember
  skipSpace
  if ← atEnd then object .bracketUnclosed opening.span
  let second ← second?
  if (← head?) ≠ some '-' || second = some ']' || second = some '-' then
    addAtom operand atom span
  else
    passOn
    if ← atEnd then object .bracketUnclosed opening.span
    let (lastAtom, lastSpan) ← readMember
    let (first, firstByte) ← boundary atom span
    let (last, lastByte) ← boundary lastAtom lastSpan
    let whole : Span := ⟨span.start, lastSpan.stop⟩
    if last < first then object .rangeBackwards whole
    checkMember first firstByte span
    checkMember last lastByte lastSpan
    return operand.add (.range first last) whole true

def readOperator? : Reading (Option SetOperator) := do
  if ← accept "&&" then return some .meet
  else if ← accept "--" then return some .difference
  else if ← accept "~~" then return some .symmetricDifference
  else return none

def readItems (opening : Opening) (pending : Option (SetOperator × Operand)) :
    Nat → Operand → Reading Charset
  | 0, operand => return operand.set
  | fuel + 1, operand => do
      skipSpace
      match ← head? with
      | none => object .bracketUnclosed opening.span
      | some ']' =>
          pass
          let span ← since opening.span.start
          let set ← foldedSet (← combined pending operand) span
          if opening.negated then complemented set span else return set
      | some '[' =>
          let start ← here
          let set ←
            match namedSet? (← get).rest with
            | some (set, negated, length) =>
                passMany length
                namedMeaning set negated (← since start)
            | none =>
                let (inner, first) ← readOpening
                readItems inner none fuel first
          readItems opening pending fuel (operand.add set (← since start) false)
      | some _ =>
          match ← readOperator? with
          | some operator =>
              let left ← combined pending operand
              readItems opening (some (operator, left)) fuel (.without (← here))
          | none => readItems opening pending fuel (← readRange opening operand)

def readBrackets : Reading Charset := do
  let fuel ← remaining
  let (opening, first) ← readOpening
  readItems opening none fuel first

end Reading

end Chip8.Pattern
