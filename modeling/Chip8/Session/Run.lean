import Chip8.Session.Basic

set_option autoImplicit false

namespace Chip8

structure Run where
  result : Except RunError Unit
  journal : List Event

def waiting (inputs : List Input) : Nat → Turn
  | 0 => { inputs := inputs }
  | _ + 1 => {}

def Ending.result : Ending → Except RunError Unit
  | left => .ok ()
  | unshown reason => .error (.window reason)
  | failed fault => .error (.fault fault)

def Run.within (bound : Nat) (windowing : Windowing) (entropy : Entropy) (path : String)
    (file : Stream) (schedule : Nat → Turn) : Option Run :=
  match Session.start windowing entropy path file with
  | (.error error, told) => some { result := .error error, journal := told }
  | (.ok session, told) =>
      let played := session.play schedule 0 bound
      played.answer.map fun ending =>
        { result := ending.result
          journal := told ++ played.journal ++ played.state.close }

end Chip8
