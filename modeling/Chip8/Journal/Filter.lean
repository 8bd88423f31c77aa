import Chip8.Journal.Directive
import Chip8.Pattern.Reader

set_option autoImplicit false

namespace Chip8

structure Filter where
  directives : List Directive := []
  pattern : Option Pattern := none

namespace Filter

def tells (filter : Filter) (event : Event) : Bool :=
  Directive.allow filter.directives event && filter.pattern.all (·.occursIn event.text)

structure Reading where
  filter : Filter := {}
  warnings : List String := []

def invalid (part : String) : String :=
  "warning: invalid logging spec '" ++ part ++ "', ignoring it"

def Reading.withDirectives (entries : List Char) : Reading :=
  let (directives, unreadable) := Directive.ofEntries entries
  { filter := { directives := directives.foldl Directive.insert [] }
    warnings := unreadable.map invalid }

def Reading.addPattern (reading : Reading) (text : String) : Reading :=
  match Pattern.ofText text with
  | .ok pattern => { reading with filter := { reading.filter with pattern := some pattern } }
  | .error refusal =>
      let warning := "warning: invalid regex filter - " ++ refusal.message text
      { reading with warnings := reading.warnings ++ [warning] }

-- What cannot be read is left out with a warning, and behind a second slash that is all of it.
def read (setting : String) : Reading :=
  match setting.toList.splitOn '/' with
  | [entries] => .withDirectives entries
  | [entries, pattern] => (Reading.withDirectives entries).addPattern (String.ofList pattern)
  | _ => { warnings := [invalid setting ++ " (too many '/'s)"] }

end Filter

end Chip8
