set_option autoImplicit false

namespace Chip8.Pattern

structure Place where
  line : Nat := 1
  column : Nat := 1
  deriving DecidableEq, Repr

def Place.after (place : Place) (c : Char) : Place :=
  if c = '\n' then { line := place.line + 1 } else { place with column := place.column + 1 }

structure Span where
  start : Place
  stop : Place
  deriving DecidableEq, Repr

def Place.empty (place : Place) : Span := ⟨place, place⟩

inductive Flaw where
  | bracketUnclosed
  | bracketEscape
  | rangeBackwards
  | rangeBoundary
  | countUnclosed
  | countMissing
  | countTooLarge
  | countBackwards
  | operandMissing
  | escapeUnfinished
  | escapeUnknown
  | hexMissing
  | hexDigit
  | hexNoCharacter
  | flagUnknown
  | flagTwice
  | negationTwice
  | negationDangling
  | flagsUnfinished
  | groupUnclosed
  | groupUnopened
  | nameUnclosed
  | nameEmpty
  | nameCharacter
  | nameTwice
  | wordEdgeUnclosed
  | wordEdgeUnknown
  | wordEdgeUnfinished
  | propertyForm
  | backreference
  | lookAround
  -- From here on the text can be read, but its meaning is not to be had.
  | caseUnknown
  | classUnknown
  | propertyUnknown
  | propertyValueUnknown
  | invalidBytes
  | characterRefused
  deriving DecidableEq, Repr

namespace Flaw

def text : Flaw → String
  | bracketUnclosed => "unclosed character class"
  | bracketEscape => "invalid escape sequence found in character class"
  | rangeBackwards => "invalid character class range, the start must be <= the end"
  | rangeBoundary => "invalid range boundary, must be a literal"
  | countUnclosed => "unclosed counted repetition"
  | countMissing => "repetition quantifier expects a valid decimal"
  | countTooLarge => "decimal literal invalid"
  | countBackwards => "invalid repetition count range, the start must be <= the end"
  | operandMissing => "repetition operator missing expression"
  | escapeUnfinished => "incomplete escape sequence, reached end of pattern prematurely"
  | escapeUnknown => "unrecognized escape sequence"
  | hexMissing => "hexadecimal literal empty"
  | hexDigit => "invalid hexadecimal digit"
  | hexNoCharacter => "hexadecimal literal is not a Unicode scalar value"
  | flagUnknown => "unrecognized flag"
  | flagTwice => "duplicate flag"
  | negationTwice => "flag negation operator repeated"
  | negationDangling => "dangling flag negation operator"
  | flagsUnfinished => "expected flag but got end of regex"
  | groupUnclosed => "unclosed group"
  | groupUnopened => "unopened group"
  | nameUnclosed => "unclosed capture group name"
  | nameEmpty => "empty capture group name"
  | nameCharacter => "invalid capture group character"
  | nameTwice => "duplicate capture group name"
  | wordEdgeUnclosed =>
      "special word boundary assertion is either unclosed or contains an invalid character"
  | wordEdgeUnknown =>
      "unrecognized special word boundary assertion, " ++
        "valid choices are: start, end, start-half or end-half"
  | wordEdgeUnfinished =>
      "found either the beginning of a special word boundary or a bounded repetition " ++
        "on a \\b with an opening brace, but no closing brace"
  | propertyForm => "invalid Unicode character class"
  | backreference => "backreferences are not supported"
  | lookAround => "look-around, including look-ahead and look-behind, is not supported"
  | caseUnknown =>
      "Unicode-aware case insensitivity matching is not available " ++
        "(make sure the unicode-case feature is enabled)"
  | classUnknown =>
      "Unicode-aware Perl class not found (make sure the unicode-perl feature is enabled)"
  | propertyUnknown => "Unicode property not found"
  | propertyValueUnknown => "Unicode property value not found"
  | invalidBytes => "pattern can match invalid UTF-8"
  | characterRefused => "Unicode not allowed here"

end Flaw

structure Objection where
  flaw : Flaw
  span : Span
  earlier : Option Span := none
  deriving DecidableEq, Repr

def Objection.spans (objection : Objection) : List Span :=
  objection.earlier.toList ++ [objection.span]

end Chip8.Pattern
