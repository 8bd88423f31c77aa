import Chip8.Journal.Event
import Chip8.Text.Blank

set_option autoImplicit false

namespace Chip8

structure Directive where
  -- Without a target the entry stands for all of them.
  target : Option String
  -- The greatest rank that is told; zero is nothing.
  rank : Nat
  deriving DecidableEq, Repr

namespace Directive

def length (directive : Directive) : Nat := (directive.target.map String.length).getD 0

def concerns (directive : Directive) (target : String) : Bool :=
  match directive.target with
  | none => true
  | some start => start.toList.isPrefixOf target.toList

def rankOfName? (name : List Char) : Option Nat :=
  let upper := String.ofList (name.map Char.toUpper)
  if upper = "OFF" then some 0
  else ([Level.error, .warn, .info, .debug, .trace].find? fun level => level.name = upper).map
    Level.rank

def ofEntry (entry : List Char) : Except String Directive :=
  let everything := Level.rank .trace
  match entry.splitOn '=' with
  | [word] =>
      match rankOfName? word with
      | some rank => .ok { target := none, rank := rank }
      | none => .ok { target := some (String.ofList word), rank := everything }
  | [target, level] =>
      let level := Text.trim level
      if level.isEmpty then .ok { target := some (String.ofList target), rank := everything }
      else
        match rankOfName? level with
        | some rank => .ok { target := some (String.ofList target), rank := rank }
        | none => .error (String.ofList level)
  | _ => .error (String.ofList entry)

def ofEntries (text : List Char) : List Directive × List String :=
  let entries := ((text.splitOn ',').map Text.trim).filter (! ·.isEmpty)
  let results := entries.map ofEntry
  (results.filterMap Except.toOption,
    results.filterMap fun result =>
      match result with
      | .ok _ => none
      | .error part => some part)

def insert (directives : List Directive) (directive : Directive) : List Directive :=
  if directives.any fun other => other.target = directive.target then
    directives.map fun other => if other.target = directive.target then directive else other
  else directives ++ [directive]

def deciding? (directives : List Directive) (target : String) : Option Directive :=
  (directives.filter (·.concerns target)).foldl
    (fun best directive =>
      match best with
      | none => some directive
      -- The longest entry decides, and the last of equal length.
      | some best => if best.length ≤ directive.length then some directive else some best)
    none

def allow (directives : List Directive) (event : Event) : Bool :=
  if directives.isEmpty then decide (event.level.rank ≤ Level.rank .error)
  else
    match deciding? directives event.target with
    | none => false
    | some directive => decide (event.level.rank ≤ directive.rank)

end Directive

end Chip8
