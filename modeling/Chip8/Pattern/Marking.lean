import Chip8.Pattern.Flaw
import Chip8.Text.Lines

set_option autoImplicit false

namespace Chip8.Pattern

namespace Span

def isWithinLine (span : Span) : Bool := span.start.line = span.stop.line

def description (span : Span) : String :=
  s!"on line {span.start.line} (column {span.start.column}) through line " ++
    s!"{span.stop.line} (column {span.stop.column - 1})"

def carets (column : Nat) : List Span → List Char
  | [] => []
  | span :: rest =>
      let width := max 1 (span.stop.column - span.start.column)
      let marked := max column span.start.column
      List.replicate (marked - column) ' ' ++ List.replicate width '^' ++
        carets (marked + width) rest

end Span

def marked (text : String) (spans : List Span) : List String :=
  let lines := Text.lines text
  let last := lines.length + if text.endsWith "\n" then 1 else 0
  let width := if last ≤ 1 then 0 else (toString last).length
  (lines.zipIdx 1).flatMap fun (line, number) =>
    let margin :=
      if width = 0 then "    "
      else String.ofList ((toString number).toList.leftpad width ' ') ++ ": "
    let here := spans.filter fun span => span.isWithinLine && span.start.line = number
    (margin ++ line) ::
      if here.isEmpty then []
      else [String.ofList (List.replicate margin.length ' ' ++ Span.carets 1 here)]

namespace Objection

def message (objection : Objection) (text : String) : String :=
  let told := marked text objection.spans
  let rule := String.ofList (List.replicate 79 '~')
  let framed :=
    if text.contains '\n' then
      rule :: told ++
        rule :: (objection.spans.filter fun span => !span.isWithinLine).map Span.description
    else told
  "\n".intercalate
    ("regex parse error:" :: framed ++ ["error: " ++ objection.flaw.text])

end Objection

end Chip8.Pattern
