import Chip8.CommandLine.Messages
import Chip8.Journal.Filter
import Chip8.Session.Run

set_option autoImplicit false

namespace Chip8

structure Exit where
  status : UInt8
  output : String := ""
  journal : List Event := []

namespace Exit

def ofFlag (flag : Flag) : Exit := { status := 0, output := flag.text ++ "\n" }

def ofMistake (mistake : Mistake) : Exit := { status := 2, output := mistake.text ++ "\n" }

def ofRun (run : Run) : Exit :=
  match run.result with
  | .ok _ => { status := 0, journal := run.journal }
  | .error error =>
      { status := 1, journal := run.journal ++ [.failed error.message] }

/--
The exit of the program, if it comes within so many turns of its session. How the
arguments are parsed and what the reads of a path give is not up to the program.
-/
def within (bound : Nat) (windowing : Windowing) (entropy : Entropy)
    (parse : List String → Invocation) (read : String → Stream) (arguments : List String)
    (schedule : Nat → Turn) : Option Exit :=
  match parse arguments with
  | .explain flag => some (ofFlag flag)
  | .refuse mistake => some (ofMistake mistake)
  | .run path => (Run.within bound windowing entropy path (read path) schedule).map ofRun

end Exit

end Chip8
