import Chip8.Machine.Clocks
import Chip8.Session.Turn
import Chip8.Window.Windowing

set_option autoImplicit false

namespace Chip8

inductive RunError where
  | load (error : LoadError)
  | window (reason : String)
  | fault (fault : Fault)
  deriving DecidableEq, Repr

def RunError.message : RunError → String
  | .load cause => cause.message
  | .window reason => reason
  | .fault cause => cause.message

inductive Ending where
  | left
  | unshown (reason : String)
  | failed (fault : Fault)
  deriving DecidableEq, Repr

structure Session (windowing : Windowing) where
  machine : Machine
  window : windowing.Window

namespace Session

variable {windowing : Windowing}

/--
Loads the program, and only then opens the window and starts the timers. What is
told until then is told whether or not the session starts.
-/
def start (windowing : Windowing) (entropy : Entropy) (path : String) (file : Stream) :
    Except RunError (Session windowing) × List Event :=
  let loaded := (Machine.fresh .standard entropy).load file
  match loaded.answer with
  | .error error => (.error (.load error), loaded.journal)
  | .ok size =>
      let told := loaded.journal ++ [.fileLoaded path size]
      match windowing.launch with
      -- No clock runs yet that would have to be stopped.
      | .error reason => (.error (.window reason), told)
      | .ok window =>
          let running := loaded.state.startTimers .bell
          (.ok { machine := running.state, window := window }, told ++ running.journal)

def redraw (session : Session windowing) : Session windowing × Option String :=
  let (frame, machine) := session.machine.takeFrame
  let polled := { session with machine := machine }
  match frame with
  | none => (polled, none)
  | some frame =>
      match windowing.render session.window frame with
      | .error reason => (polled, some reason)
      | .ok window => ({ polled with window := window }, none)

def prepare (session : Session windowing) (turn : Turn) : Session windowing × Option String :=
  let ticked := { session with machine := session.machine.tickClocks turn.ticks }
  if turn.redraws then ticked.redraw else (ticked, none)

/-- Takes one turn; the answer is how the session ends with it, if it does. -/
def turn (session : Session windowing) (turn : Turn) :
    Outcome (Session windowing) (Option Ending) :=
  match session.prepare turn with
  | (prepared, some reason) =>
      { state := prepared, answer := some (.unshown reason), journal := [] }
  | (prepared, none) =>
      if turn.inputs.any Input.ends then
        { state := prepared, answer := some .left, journal := [] }
      else
        let step := prepared.machine.step
        { state := { prepared with machine := step.state }
          answer :=
            match step.answer with
            | .ok _ => none
            | .error fault => some (.failed fault)
          journal := step.journal }

def play (session : Session windowing) (schedule : Nat → Turn) (first : Nat) :
    Nat → Outcome (Session windowing) (Option Ending)
  | 0 => { state := session, answer := none, journal := [] }
  | count + 1 =>
      let taken := session.turn (schedule first)
      match taken.answer with
      | some ending => { state := taken.state, answer := some ending, journal := taken.journal }
      | none =>
          let rest := taken.state.play schedule (first + 1) count
          { rest with journal := taken.journal ++ rest.journal }

def close (session : Session windowing) : List Event := session.machine.stopTimers.journal

end Session

end Chip8
